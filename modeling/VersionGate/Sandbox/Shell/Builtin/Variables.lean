import VersionGate.Sandbox.Shell.Builtin.Basic
import VersionGate.Sandbox.Shell.Field

namespace VersionGate.Sandbox.Shell.Builtin

def listVariables (word : Octets) (isListed : Binding → Bool) : Act Unit := do
  let bindings := (← Act.shell).bindings.filter fun (_, binding) => isListed binding
  let sorted := bindings.mergeSort fun first second => Octets.inOrder first.1 second.1
  sorted.forM fun (name, binding) =>
    let value := match binding.value with
      | some value => '=' :: quoted value
      | none => []
    Act.printLine (word ++ name ++ value)

def change (arg : Octets) (mark : Binding → Binding) : Act Unit := do
  let (name, value?) := cutAssignment arg
  checkName name
  match value? with
  | some value => Act.assign name value
  | none => pure ()
  Act.modifyShell fun shell =>
    shell.bind name (mark ((shell.bindings.lookup name).getD {}))

def marking (word : String) (mark : Binding → Binding) (isMarked : Binding → Bool) : Builtin :=
  fun _ args => do
    let (asked, names) ← options "p" args
    if names.isEmpty || !asked.isEmpty then listVariables (word ++ " ").toList isMarked
    else names.forM (change · mark)
    return 0

def export_ : Builtin :=
  marking "export" (fun binding => { binding with exported := true }) (·.exported)

def readOnly : Builtin :=
  marking "readonly" (fun binding => { binding with readOnly := true }) (·.readOnly)

def optionsName : Octets := ['-']

def saveBinding (name : Octets) (binding : Option Binding) : Act Unit :=
  Act.modifyShell fun shell =>
    match shell.saved with
    | innermost :: outer => { shell with saved := ((name, binding) :: innermost) :: outer }
    | [] => shell

/-- Makes variables local to a function; they keep their values until they get others. -/
def local_ : Builtin := fun _ args => do
  if (← Act.shell).functionDepth = 0 then Act.fail "not in a function".toList
  args.forM fun arg => do
    let shell ← Act.shell
    if arg = optionsName then saveBinding optionsName (some { value := some shell.options })
    else
      let (name, value?) := cutAssignment arg
      checkName name
      saveBinding name (shell.bindings.lookup name)
      match value? with
      | some value => Act.assign name value
      | none => pure ()
  return 0

def unset : Builtin := fun _ args => do
  let (asked, names) ← options "vf" args
  let ofFunctions := (asked.getLast?.map (·.1)) = some 'f'
  names.forM fun name => do
    if ofFunctions then
      Act.modifyShell fun shell =>
        { shell with functions := shell.functions.filter (·.1 ≠ name) }
    else
      checkName name
      if ((← Act.shell).bindings.lookup name).any (·.readOnly) then
        Act.failAbout name "is read only"
      Act.modifyShell (·.unbind name)
  return 0

/-! ### Options and arguments -/

def listOptions (asCommands : Bool) : Act Unit := do
  let shell ← Act.shell
  if !asCommands then Act.printLine "Current option settings".toList
  Options.all.forM fun (letter, name) =>
    let isOn := shell.isOn letter
    if asCommands then
      Act.printLine ((if isOn then "set -o " else "set +o ").toList ++ name.toList)
    else
      Act.printLine (name.toList ++ List.replicate (16 - name.length) ' ' ++
        (if isOn then "on" else "off").toList)

def switch (isOn : Bool) (letter : Char) : Act Unit :=
  Act.modifyShell fun shell =>
    let others := shell.options.filter (· ≠ letter)
    { shell with options := if isOn then letter :: others else others }

def setArguments (arguments : List Octets) : Act Unit :=
  Act.modifyShell fun shell => { shell with arguments, optionPlace := (1, 0) }

/-- Switches the options that letters stand for. The letter o takes a name from the next argument. -/
def switchLetters (isOn : Bool) : List Char → List Octets → Act (List Octets)
  | [], rest => return rest
  | 'o' :: letters, rest => do
    match rest with
    | [] =>
      listOptions !isOn
      switchLetters isOn letters rest
    | name :: rest =>
      match Options.letterOf? name with
      | some letter => switch isOn letter
      | none =>
        Act.fail ("Illegal option ".toList ++ (if isOn then '-' else '+') :: "o ".toList ++ name)
      switchLetters isOn letters rest
  | letter :: letters, rest => do
    if (Options.all.lookup letter).isSome && ' ' < letter then switch isOn letter
    else Act.fail ("Illegal option ".toList ++ (if isOn then '-' else '+') :: [letter])
    switchLetters isOn letters rest

/-- Takes options from the front of some arguments, and makes what is left the arguments of the
shell. -/
def setFrom : Nat → List Octets → Act Unit
  | 0, _ => return
  | _ + 1, [] => return
  | fuel + 1, arg :: rest => do
    match arg with
    | ['-', '-'] => setArguments rest
    | ['-'] =>
      switch false 'x'
      switch false 'v'
      if !rest.isEmpty then setArguments rest
    | '-' :: letters => setFrom fuel (← switchLetters true letters rest)
    | '+' :: letters => setFrom fuel (← switchLetters false letters rest)
    | _ => setArguments (arg :: rest)

def set_ : Builtin := fun _ args => do
  if args.isEmpty then listVariables [] (·.value.isSome)
  else setFrom (args.length + 1) args
  return 0

def shift : Builtin := fun _ args => do
  let count ← match args with
    | text :: _ => Act.number text
    | [] => pure 1
  let arguments := (← Act.shell).arguments
  if arguments.length < count then Act.fail "can't shift that many".toList
  setArguments (arguments.drop count)
  return 0

/-! ### Reading -/

/-- Cuts a line from a text: its bytes, of which the escaped ones are not divisible, whether it is
complete, and the number of bytes taken. -/
def cutLine (raw : Bool) : Nat → Octets → List (Char × Bool) × Bool × Nat
  | 0, _ => ([], false, 0)
  | _ + 1, [] => ([], false, 0)
  | _ + 1, '\n' :: _ => ([], true, 1)
  | fuel + 1, '\x00' :: rest =>
    let (line, complete, count) := cutLine raw fuel rest
    (line, complete, count + 1)
  | fuel + 1, c :: rest =>
    if c = '\\' && !raw then
      match rest with
      | '\n' :: rest =>
        let (line, complete, count) := cutLine raw fuel rest
        (line, complete, count + 2)
      | d :: rest =>
        let (line, complete, count) := cutLine raw fuel rest
        ((d, false) :: line, complete, count + 2)
      | [] => ([], false, 1)
    else
      let (line, complete, count) := cutLine raw fuel rest
      ((c, true) :: line, complete, count + 1)

/-- Assigns fields to names; names without a field get nothing. -/
def assignFields : List Octets → List Octets → Act Unit
  | [], _ => return
  | name :: names, fields => do
    checkName name
    Act.assign name (fields.head?.getD [])
    assignFields names fields.tail

def read : Builtin := fun _ args => do
  let (asked, names) ← options "p:r" args
  let raw := asked.any (·.1 = 'r')
  if names.isEmpty then Act.fail "arg count".toList
  let shell ← Act.shell
  let world ← Act.world
  match (shell.descriptors.lookup 0).bind fun file => (world.available file).toOption.map (file, ·) with
  | none =>
    assignFields names []
    return 1
  | some (file, text) =>
    let (line, complete, count) := cutLine raw (text.length + 1) text
    Act.setWorld (world.skip file count)
    assignFields names (Field.divideLine shell.separators names.length line)
    return if complete then 0 else 1

structure FoundOption where
  letter : Char
  value : Option Octets := some []
  place : Nat × Nat
  complaint : Option Octets := none
  atEnd : Bool := false

/-- Finds the next option in some arguments. Mistakes are only marked if the known letters begin with
a colon. -/
def findOption (known : List Char) (args : List Octets) (place : Nat × Nat) : FoundOption :=
  let (index, offset) := place
  let before := args[index - 2]?.getD []
  let going := 2 ≤ index && 0 < offset && offset < before.length
  let here := args[index - 1]?.getD []
  let stop (index : Nat) : FoundOption := { letter := '?', value := none, place := (index, 0), atEnd := true }
  let (letters, index) := if going then (before.drop offset, index) else (here.tail, index + 1)
  if !going && (here.length < 2 || here.head? ≠ some '-') then stop (index - 1)
  else if !going && here = ['-', '-'] then stop index
  else
    let letter := letters.head?.getD '?'
    let rest := letters.tail
    let word := args[index - 2]?.getD []
    let next := if rest.isEmpty then (index, 0) else (index, word.length - rest.length)
    let quiet := known.head? = some ':'
    match (if letter = ':' then [] else known.dropWhile (· ≠ letter)) with
    | [] =>
      if quiet then { letter := '?', value := some [letter], place := next }
      else { letter := '?', value := none, place := next,
             complaint := some ("Illegal option -".toList ++ [letter]) }
    | _ :: ':' :: _ =>
      if !rest.isEmpty then { letter, value := some rest, place := (index, 0) }
      else
        match args[index - 1]? with
        | some value => { letter, value := some value, place := (index + 1, 0) }
        | none =>
          if quiet then { letter := ':', value := some [letter], place := (index, 0) }
          else { letter := '?', value := none, place := (index, 0),
                 complaint := some ("No arg for -".toList ++ letter :: " option".toList) }
    | _ => { letter, place := next }

def getOptions : Builtin := fun _ args => do
  match args with
  | known :: name :: others =>
    let shell ← Act.shell
    let args := if others.isEmpty then shell.arguments else others
    let place := if args.length + 1 < shell.optionPlace.1 then (1, 0) else shell.optionPlace
    let found := findOption known args place
    match found.complaint with
    | some text => Act.sayError text
    | none => pure ()
    let valueName := "OPTARG".toList
    match found.value with
    | some value => Act.assign valueName value
    | none => if !found.atEnd then Act.modifyShell (·.unbind valueName)
    Act.assign "OPTIND".toList (Octets.ofNat found.place.1)
    Act.modifyShell fun shell => { shell with optionPlace := found.place }
    checkName name
    Act.assign name [found.letter]
    return if found.atEnd then 1 else 0
  | _ => Act.fail "Usage: getopts optstring var [arg...]".toList

end VersionGate.Sandbox.Shell.Builtin
