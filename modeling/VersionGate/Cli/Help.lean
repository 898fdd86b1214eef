import VersionGate.Cli.Draft

/-!
What the program says about itself.

Both help texts are laid out from the table of options. The short one has a line for each option,
the detailed one a paragraph.
-/

namespace VersionGate.Cli

def programName : String := "toolgate"

def versionText : String :=
  programName ++ " 0.1.0\n"

/-- The last component of a path, if it is a name: trailing slashes and single dots do not count,
and two dots are no name. -/
def fileName? (path : String) : Option String :=
  let parts := path.toList.splitBy (fun first second => first ≠ '/' && second ≠ '/')
    |>.filter (fun part => part ≠ ['/'])
  let absolute := path.toList.head? = some '/'
  let named := match parts with
    | first :: rest => (if first = ['.'] && absolute then [] else [first]) ++ rest.filter (· ≠ ['.'])
    | [] => []
  match named.getLast? with
  | some ['.'] => none
  | some ['.', '.'] => none
  | some part => some (String.ofList part)
  | none => none

/-- The name the program is called by: the file name of the first word of the command line. -/
def calledName (first : Option String) : String :=
  (first.bind fileName?).getD programName

namespace Help

def about : String :=
  "Fail a build when the installed toolchain is older than required"

def positional : String := "[VERSION]"

def positionalDescription : String :=
  "Minimum version, without the toolchain prefix (e.g. 1.20)"

def spaces (width : Nat) : String :=
  String.ofList (List.replicate width ' ')

def indented (width : Nat) (text : String) : String :=
  String.ofList (text.toList.flatMap fun c =>
    if c = '\n' then c :: List.replicate width ' ' else [c])

def heading (text : String) : String :=
  Ui.Style.apply ⟨["1", "4"]⟩ true text

def literal (text : String) : String :=
  Ui.Style.apply ⟨["1"]⟩ true text

def label (opt : Opt) : String :=
  (match opt.short? with
    | some letter => "  " ++ literal (String.ofList ['-', letter]) ++ ", "
    | none => "      ") ++ literal ("--" ++ opt.long) ++ opt.valueText

/-- The remarks on a setting: its variable with the current value, its default, the values it
allows. Values with descriptions are listed apart in the detailed help. -/
def remarks (detailed : Bool) (environment : Environment) : Opt → List String
  | .setting setting =>
    let ofVariable := setting.envName?.map fun name =>
      "[env: " ++ name ++ "=" ++ (environment name).getD "" ++ "]"
    let ofDefault := setting.default?.map fun value => "[default: " ++ value ++ "]"
    let listed := if detailed then setting.values.filter (·.2.isNone) else setting.values
    let ofValues :=
      if listed.isEmpty then none
      else some ("[possible values: " ++ ", ".intercalate (listed.map (·.1)) ++ "]")
    [ofVariable, ofDefault, ofValues].filterMap id
  | _ => []

def labelWidth : Nat :=
  (Opt.all.map (·.shown.length)).foldl max 0

def shortEntry (environment : Environment) (opt : Opt) : String :=
  let column := labelWidth + 8
  label opt ++ spaces (column - 6 - opt.shown.length) ++
    indented column (" ".intercalate (opt.description false :: remarks false environment opt)) ++ "\n"

def margin : Nat := 10

def describedValues : Opt → String
  | .setting setting =>
    let items := setting.values.filterMap fun (value, description?) =>
      description?.map fun description => "- " ++ literal value ++ ": " ++ description
    if items.isEmpty then ""
    else "\n" ++ indented margin ("\n" ++ "\n".intercalate ("Possible values:" :: items))
  | _ => ""

def detailedEntry (environment : Environment) (opt : Opt) : String :=
  let remarks := remarks true environment opt
  label opt ++ "\n" ++ spaces margin ++ opt.description true ++ describedValues opt ++
    (if remarks.isEmpty then "" else indented margin ("\n\n" ++ "\n".intercalate remarks)) ++ "\n"

def styledText (detailed : Bool) (name : String) (environment : Environment) : String :=
  about ++ "\n\n" ++ heading "Usage:" ++ " " ++ literal name ++ " [OPTIONS] " ++ positional ++
    "\n\n" ++ heading "Arguments:" ++ "\n  " ++ positional ++
    (if detailed then "\n" ++ spaces margin else "  ") ++ positionalDescription ++
    "\n\n" ++ heading "Options:" ++ "\n" ++
    (if detailed then "\n".intercalate (Opt.all.map (detailedEntry environment))
      else String.join (Opt.all.map (shortEntry environment)))

end Help

end VersionGate.Cli
