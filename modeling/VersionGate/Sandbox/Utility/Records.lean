import VersionGate.Sandbox.Format.Printf
import VersionGate.Sandbox.Regex.Reader
import VersionGate.Sandbox.Utility.Job

/-!
The utility that runs programs for records. Its programs print fields, texts and whole numbers, under
conditions.
-/

namespace VersionGate.Sandbox.Utility

namespace Records

/-! ### Programs -/

structure Value where
  text : Octets := []
  number? : Option Int := none

def Value.ofInput (text : Octets) : Value :=
  { text, number? := Number.decimal? text }

def Value.ofInt (number : Int) : Value :=
  { text := Octets.ofInt number, number? := some number }

def Value.isTrue (value : Value) : Bool :=
  value.number?.elim (!value.text.isEmpty) (· ≠ 0)

inductive Expression where
  | constant (value : Value)
  | named (name : Octets)
  | field (number : Expression)
  | found (pattern : Regex)
  | joined (first second : Expression)
  | compared (operator : String) (first second : Expression)

inductive Statement where
  | print (values : List Expression)
  | format (values : List Expression)
  | assign (name : Octets) (value : Expression)
  | next
  | exit (code : Option Expression)

inductive Condition where
  | start
  | finish
  | holds (condition : Expression)

structure Rule where
  condition : Condition
  body : List Statement

/-! ### Reading -/

inductive Token where
  | number (digits : Octets)
  | text (octets : Octets)
  | pattern (octets : Octets)
  | word (name : Octets)
  | mark (symbol : String)
deriving DecidableEq

def isNameChar (c : Char) : Bool := c.isAlphanum || c = '_'

/-- The bytes up to a mark that no backslash protects, and what follows the mark. -/
def cutAt (mark : Char) : Octets → Octets × Octets
  | [] => ([], [])
  | '\\' :: c :: rest =>
    let (inside, rest) := cutAt mark rest
    ('\\' :: c :: inside, rest)
  | c :: rest =>
    if c = mark then ([], rest)
    else
      let (inside, rest) := cutAt mark rest
      (c :: inside, rest)

def unescaped : Octets → Octets
  | '\\' :: c :: rest =>
    (if c = '"' then ['"'] else (Escape.letter? c).elim ['\\', c] ([·])) ++ unescaped rest
  | c :: rest => c :: unescaped rest
  | [] => []

def symbols : List String :=
  ["==", "!=", "<=", ">=", "<", ">", "=", "$", ",", ";", "(", ")", "\x7b", "\x7d"]

def tokens : Nat → Octets → List Token
  | 0, _ => []
  | _ + 1, [] => []
  | fuel + 1, c :: rest =>
    if c = ' ' || c = '\t' then tokens fuel rest
    else if c = '\n' then .mark ";" :: tokens fuel rest
    else if c = '"' then
      let (inside, rest) := cutAt '"' rest
      .text (unescaped inside) :: tokens fuel rest
    else if c = '/' then
      let (inside, rest) := cutAt '/' rest
      .pattern inside :: tokens fuel rest
    else if c.isDigit then
      .number (c :: rest.takeWhile Char.isDigit) :: tokens fuel (rest.dropWhile Char.isDigit)
    else if isNameChar c then
      .word (c :: rest.takeWhile isNameChar) :: tokens fuel (rest.dropWhile isNameChar)
    else
      match symbols.find? fun symbol => symbol.toList.isPrefixOf (c :: rest) with
      | some symbol => .mark symbol :: tokens fuel ((c :: rest).drop symbol.length)
      | none => [.mark (String.singleton c)]

/-- A reader of tokens; it fails without an explanation. -/
abbrev Read := StateT (List Token) Option

def takeMark (symbol : String) : Read Bool := do
  match ← get with
  | token :: rest =>
    if token = .mark symbol then
      set rest
      return true
    return false
  | [] => return false

def needMark (symbol : String) : Read Unit := do
  if !(← takeMark symbol) then failure

mutual

/-- Reads an expression that is not compared: operands next to each other are joined. -/
def readJoined : Nat → Read Expression
  | 0 => failure
  | fuel + 1 => do
    let first ← readOperand fuel
    match ← get with
    | .mark symbol :: _ =>
      if symbol = "$" || symbol = "(" then return .joined first (← readJoined fuel) else return first
    | [] => return first
    | _ => return .joined first (← readJoined fuel)

def readOperand : Nat → Read Expression
  | 0 => failure
  | fuel + 1 => do
    match ← get with
    | .number digits :: rest =>
      set rest
      return .constant (.ofInt (Number.natural digits))
    | .text octets :: rest =>
      set rest
      return .constant { text := octets }
    | .word name :: rest =>
      set rest
      return .named name
    | .pattern octets :: rest =>
      set rest
      match Regex.read { extended := true } octets with
      | .ok (pattern, _) => return .found pattern
      | .error _ => failure
    | .mark "$" :: rest =>
      set rest
      return .field (← readOperand fuel)
    | .mark "(" :: rest =>
      set rest
      let inside ← readExpression fuel
      needMark ")"
      return inside
    | _ => failure

def readExpression : Nat → Read Expression
  | 0 => failure
  | fuel + 1 => do
    let first ← readJoined fuel
    match ← get with
    | .mark symbol :: rest =>
      if symbol ∈ ["==", "!=", "<=", ">=", "<", ">"] then
        set rest
        return .compared symbol first (← readJoined fuel)
      return first
    | _ => return first

end

/-- Reads expressions between commas; there may be none. -/
def readValues : Nat → Read (List Expression)
  | 0 => failure
  | fuel + 1 => do
    match ← get with
    | .mark ";" :: _ => return []
    | .mark "\x7d" :: _ => return []
    | _ =>
      let first ← readExpression fuel
      if ← takeMark "," then return first :: (← readValues fuel) else return [first]

def readStatement (fuel : Nat) (name : Octets) : Read Statement := do
  match String.ofList name with
  | "print" => return .print (← readValues fuel)
  | "printf" => return .format (← readValues fuel)
  | "next" => return .next
  | "exit" => return .exit (← readValues fuel).head?
  | _ =>
    needMark "="
    return .assign name (← readExpression fuel)

def readBody : Nat → Read (List Statement)
  | 0 => failure
  | fuel + 1 => do
    if ← takeMark ";" then readBody fuel
    else if ← takeMark "\x7d" then return []
    else
      match ← get with
      | .word name :: rest =>
        set rest
        let statement ← readStatement fuel name
        match ← get with
        | .mark ";" :: _ => return statement :: (← readBody fuel)
        | .mark "\x7d" :: _ => return statement :: (← readBody fuel)
        | _ => failure
      | _ => failure

def always : Condition := .holds (.constant (.ofInt 1))

def readRules : Nat → Read (List Rule)
  | 0 => failure
  | fuel + 1 => do
    if ← takeMark ";" then readRules fuel
    else if (← get).isEmpty then return []
    else
      let condition ← match ← get with
        | .mark "\x7b" :: _ => pure always
        | .word ['B', 'E', 'G', 'I', 'N'] :: rest => set rest *> pure .start
        | .word ['E', 'N', 'D'] :: rest => set rest *> pure .finish
        | _ => Condition.holds <$> readExpression fuel
      let body ← if ← takeMark "\x7b" then readBody fuel else pure [.print []]
      return { condition, body } :: (← readRules fuel)

def readProgram? (text : Octets) : Option (List Rule) :=
  let found := tokens (text.length + 1) text
  (readRules (4 * found.length + 4) found).map (·.1)

/-! ### Running -/

/-- A running program: its variables, and the record with its fields. -/
structure State where
  values : List (Octets × Value)
  record : Octets := []
  fields : List Octets := []

def State.value (state : State) (name : String) : Value :=
  (state.values.lookup name.toList).getD {}

def State.set (state : State) (name : Octets) (value : Value) : State :=
  { state with values := (name, value) :: state.values.filter (·.1 ≠ name) }

/-- The fields of a record: between blanks, or between the marks that are chosen. -/
def fieldsOf (mark record : Octets) : List Octets :=
  match mark with
  | [c] =>
    if c = ' ' then (record.splitOnP CharacterClass.isSpace).filter (· ≠ [])
    else if record.isEmpty then [] else record.splitOn c
  | _ => [record]

def State.next (state : State) (record : Octets) : State :=
  let fields := fieldsOf (state.value "FS").text record
  let number := (state.value "NR").number?.getD 0 + 1
  { (state.set "NR".toList (.ofInt number)).set "NF".toList (.ofInt fields.length) with record, fields }

def order (first second : Value) : Ordering :=
  match first.number?, second.number? with
  | some first, some second => Ord.compare first second
  | _, _ => Octets.order first.text second.text

def Expression.value (state : State) : Expression → Value
  | constant value => value
  | named name => (state.values.lookup name).getD {}
  | field number =>
    let number := ((number.value state).number?.getD 0).toNat
    .ofInput (if number = 0 then state.record else state.fields.getD (number - 1) [])
  | found pattern => .ofInt (if (pattern.find state.record).isSome then 1 else 0)
  | joined first second => { text := (first.value state).text ++ (second.value state).text }
  | compared operator first second =>
    let order := order (first.value state) (second.value state)
    let holds : Bool := match operator with
      | "==" => order = .eq
      | "!=" => order ≠ .eq
      | "<" => order = .lt
      | "<=" => order ≠ .gt
      | ">" => order = .gt
      | _ => order ≠ .lt
    .ofInt (if holds then 1 else 0)

inductive Leaving where
  | record
  | program (code : UInt8)

abbrev Run := ExceptT Leaving (StateT State Job)

def Statement.run (statement : Statement) : Run Unit := do
  let state ← get
  match statement with
  | print [] => Job.print (state.record ++ ['\n'])
  | print values =>
    let texts := values.map fun value => (value.value state).text
    Job.print ((state.value "OFS").text.intercalate texts ++ ['\n'])
  | format values =>
    match values.map fun value => (value.value state).text with
    | shape :: texts => Job.print (Printf.run .shell shape texts).output
    | [] => return
  | assign name value => set (state.set name (value.value state))
  | next => throw .record
  | exit code =>
    let code := code.elim 0 fun code => (code.value state).number?.getD 0
    throw (.program (Int.toNat (code % 256)).toUInt8)

def Rule.applies (rule : Rule) (state : State) : Bool :=
  match rule.condition with
  | .holds condition => (condition.value state).isTrue
  | _ => false

def runRecord (rules : List Rule) (record : Octets) : Run Unit := do
  modify (·.next record)
  try
    rules.forM fun rule => do
      if rule.applies (← get) then rule.body.forM Statement.run
  catch
    | .record => return
    | leaving => throw leaving

def runBodies (rules : List Rule) (belongs : Condition → Bool) : Run Unit :=
  (rules.filter (belongs ·.condition)).forM (·.body.forM Statement.run)

def exitCode (part : Run Unit) : StateT State Job (Option UInt8) := do
  match ← part.run with
  | .error (.program code) => return some code
  | _ => return none

def isStart : Condition → Bool
  | .start => true
  | _ => false

def isFinish : Condition → Bool
  | .finish => true
  | _ => false

def inputText (files : List Octets) : Job Octets := do
  let texts ← (if files.isEmpty then [['-']] else files).mapM fun path => do
    match ← Job.takeFile path with
    | .ok text => return text
    | .error fault =>
      Job.fail 2 ("cannot open \"".toList ++ path ++ "\" (".toList ++ Job.faultText fault ++ [')'])
  return texts.flatten

/-- Runs a program. What it leaves behind before its end keeps the end from nothing but the records. -/
def runProgram (rules : List Rule) (files : List Octets) : StateT State Job UInt8 := do
  let readsRecords := !rules.all (isStart ·.condition)
  let early ← exitCode do
    runBodies rules isStart
    if readsRecords then
      (Lines.ofText '\n' (← inputText files)).forM (runRecord rules)
  let late ← exitCode (runBodies rules isFinish)
  return (late <|> early).getD 0

end Records

def awk : Job UInt8 := do
  let (mark, words) := match (← Job.call).args with
    | ['-', 'F'] :: mark :: words => (mark, words)
    | ('-' :: 'F' :: mark) :: words => (mark, words)
    | words => ([' '], words)
  match words with
  | [] => Job.exit 0
  | program :: files =>
    let some rules := Records.readProgram? program
      | Job.fail 2 "line 1: syntax error".toList
    let values : List (Octets × Records.Value) :=
      [("FS".toList, { text := mark }), ("OFS".toList, { text := [' '] })]
    let (code, _) ← (Records.runProgram rules files).run { values }
    return code

end VersionGate.Sandbox.Utility
