import VersionGate.Cli.Help

namespace VersionGate.Cli

namespace Completions

def spellings (opt : Opt) : List String :=
  (match opt.short? with
    | some letter => [String.ofList ['-', letter]]
    | none => []) ++ ["--" ++ opt.long]

def valueNames : Opt → List String
  | .setting setting => setting.values.map (·.1)
  | _ => []

def takesValue : Opt → Bool
  | .setting _ => true
  | _ => false

def lines (parts : List String) : String :=
  "\n".intercalate parts

def bash : String :=
  let choice opt := "        " ++ "|".intercalate (spellings opt) ++
    ") COMPREPLY=($(compgen -W \"" ++ " ".intercalate (valueNames opt) ++
    "\" -- \"$current\")); return ;;"
  lines (["_toolgate() \x7b", "    local current=\"$2\" previous=\"$3\"",
      "    case \"$previous\" in"] ++
    ((Opt.all.filter takesValue).map choice) ++
    ["    esac",
      "    COMPREPLY=($(compgen -W \"" ++ " ".intercalate (Opt.all.flatMap spellings) ++
        "\" -- \"$current\"))",
      "\x7d",
      "complete -F _toolgate " ++ programName])

def zsh : String :=
  let entry opt spelling := "    '" ++ spelling ++ "[" ++ opt.description false ++ "]" ++
    (match opt with
      | .setting setting => ":" ++ setting.valueName ++ ":(" ++ " ".intercalate (valueNames opt) ++ ")"
      | _ => "") ++ "'"
  "#compdef " ++ programName ++ "\n\n_arguments \\\n" ++
    " \\\n".intercalate (Opt.all.flatMap fun opt => (spellings opt).map (entry opt))

def fish : String :=
  lines (Opt.all.map fun opt =>
    "complete -c " ++ programName ++
      (match opt.short? with
        | some letter => " -s " ++ String.ofList [letter]
        | none => "") ++
      " -l " ++ opt.long ++ " -d '" ++ opt.description true ++ "'" ++
      (if takesValue opt then " -r" else "") ++
      (if (valueNames opt).isEmpty then ""
        else " -f -a '" ++ " ".intercalate (valueNames opt) ++ "'"))

def elvish : String :=
  let entry opt spelling := "    edit:complex-candidate " ++ spelling ++ " &display='" ++ spelling ++
    " " ++ opt.description true ++ "'"
  lines (["set edit:completion:arg-completer[" ++ programName ++ "] = \x7b|@words|"] ++
    (Opt.all.flatMap fun opt => (spellings opt).map (entry opt)) ++ ["\x7d"])

def powershell : String :=
  let entry opt spelling := "    [System.Management.Automation.CompletionResult]::new('" ++ spelling ++
    "', '" ++ spelling ++ "', 'ParameterName', '" ++ opt.description true ++ "')"
  lines (["Register-ArgumentCompleter -Native -CommandName '" ++ programName ++
      "' -ScriptBlock \x7b", "    param($word)"] ++
    (Opt.all.flatMap fun opt => (spellings opt).map (entry opt)) ++ ["\x7d"])

end Completions

/-- The completion script of a shell, without blanks at its end. -/
def Shell.completionScript : Shell → String
  | bash => Completions.bash
  | elvish => Completions.elvish
  | fish => Completions.fish
  | powershell => Completions.powershell
  | zsh => Completions.zsh

end VersionGate.Cli
