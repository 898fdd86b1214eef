namespace VersionGate.Ui

/-- A style, given by the parameters of the control sequences that switch it on. -/
structure Style where
  codes : List String
deriving DecidableEq

namespace Style

def plain : Style := ⟨[]⟩

def sequence (code : String) : String :=
  "\x1b[" ++ code ++ "m"

/-- A text in a style. With styling off, and in the plain style, it stands by itself; otherwise the
style is switched on before it and everything is switched off after it. -/
def apply (style : Style) (styling : Bool) (text : String) : String :=
  if !styling || style.codes.isEmpty then text
  else String.join (style.codes.map sequence) ++ text ++ sequence "0"

end Style

structure Theme where
  success : Style
  warning : Style
  error : Style
  dim : Style
deriving DecidableEq

namespace Theme

def colored : Theme where
  success := ⟨["32"]⟩
  warning := ⟨["38;5;208"]⟩
  error := ⟨["31", "1"]⟩
  dim := ⟨["2"]⟩

def plain : Theme where
  success := .plain
  warning := .plain
  error := .plain
  dim := .plain

def ofColors (colors : Bool) : Theme :=
  if colors then colored else plain

def successLine (theme : Theme) (styling : Bool) (text : String) : String :=
  theme.success.apply styling ("✓ " ++ text)

def warningLine (theme : Theme) (styling : Bool) (text : String) : String :=
  theme.warning.apply styling ("⚠ " ++ text)

def errorLine (theme : Theme) (styling : Bool) (text : String) : String :=
  theme.error.apply styling ("✗ " ++ text)

/-- A failure has no icon, so that a search in a build log finds the line as it is. -/
def failureLine (theme : Theme) (styling : Bool) (text : String) : String :=
  theme.error.apply styling text

def detailLine (theme : Theme) (styling : Bool) (text : String) : String :=
  theme.dim.apply styling text

end Theme

end VersionGate.Ui
