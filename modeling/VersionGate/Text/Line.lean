namespace VersionGate.Text

/-- A line without the carriage return at its end, if there is one. -/
def dropReturn (line : List Char) : List Char :=
  if line.getLast? = some '\r' then line.dropLast else line

/-- The first line of a text, without its line feed or carriage return and line feed. A carriage
return that no line feed follows belongs to the line. The empty text has no line. -/
def firstLine? (text : List Char) : Option (List Char) :=
  if text.isEmpty then none
  else
    let line := text.takeWhile (· ≠ '\n')
    some (if '\n' ∈ text then dropReturn line else line)

end VersionGate.Text
