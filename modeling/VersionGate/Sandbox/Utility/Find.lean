import VersionGate.Sandbox.Format.Escape
import VersionGate.Sandbox.Shell.Pattern
import VersionGate.Sandbox.Utility.Names

/-!
The utility that finds files. It knows limits of depth, tests by name and by kind, and two ways to
print; all of them must hold.
-/

namespace VersionGate.Sandbox.Utility

namespace Find

structure Found where
  text : Octets
  place : Path
  node : Node
  depth : Nat

inductive Predicate where
  | name (pattern : List Shell.PatternOctet)
  | kind (letters : Octets)
  | print
  | format (text : Octets)

structure Search where
  lowest : Nat := 0
  deepest : Option Nat := none
  predicates : List Predicate := []

def kindLetter : Node → Char
  | .directory => 'd'
  | .program _ => 'f'
  | .document .. => 'f'
  | .device _ => 'c'
  | .descriptor _ => 'l'
  | .link _ => 'l'

def readSearch : Nat → Search → List Octets → Job Search
  | 0, search, _ => return search
  | _ + 1, search, [] => return search
  | fuel + 1, search, word :: rest => do
    let add (predicate : Predicate) : Search :=
      { search with predicates := search.predicates ++ [predicate] }
    match String.ofList word, rest with
    | "-print", _ => readSearch fuel (add .print) rest
    | "-name", pattern :: rest => readSearch fuel (add (.name (pattern.map (⟨false, ·⟩)))) rest
    | "-type", letters :: rest => readSearch fuel (add (.kind (letters.filter (· ≠ ',')))) rest
    | "-printf", format :: rest => readSearch fuel (add (.format format)) rest
    | "-maxdepth", depth :: rest =>
      readSearch fuel { search with deepest := some (Number.natural depth) } rest
    | "-mindepth", depth :: rest => readSearch fuel { search with lowest := Number.natural depth } rest
    | _, _ => Job.fail 1 ("unknown predicate \x60".toList ++ word ++ ['\''])

def formatted (found : Found) : Octets → Octets
  | '%' :: letter :: rest =>
    let field : Octets := match letter with
      | 'p' => found.text
      | 'f' => lastComponent found.text
      | 'h' => parentPath found.text
      | 'd' => Octets.ofNat found.depth
      | 'y' => [kindLetter found.node]
      | '%' => ['%']
      | _ => ['%', letter]
    field ++ formatted found rest
  | '\\' :: c :: rest => (Escape.letter? c).elim ['\\', c] ([·]) ++ formatted found rest
  | c :: rest => c :: formatted found rest
  | [] => []

/-- Looks at a file for some predicates, up to the first one that does not hold. -/
def lookAt (found : Found) : List Predicate → Job Unit
  | [] => return
  | .name pattern :: rest => do
    if Shell.Pattern.isMatch (Shell.Pattern.items pattern) (lastComponent found.text) then lookAt found rest
  | .kind letters :: rest => do
    if kindLetter found.node ∈ letters then lookAt found rest
  | .print :: rest => do
    Job.printLine found.text
    lookAt found rest
  | .format text :: rest => do
    Job.print (formatted found text)
    lookAt found rest

def visit (search : Search) : Nat → Found → Job Unit
  | 0, _ => return
  | fuel + 1, found => do
    if search.lowest ≤ found.depth then lookAt found search.predicates
    if found.node = .directory && search.deepest.all (found.depth < ·) then
      let tree := (← Job.world).tree
      let front := if found.text.getLast? = some '/' then found.text else found.text ++ ['/']
      ((tree.names found.place).mergeSort Octets.inOrder).forM fun name => do
        let place := found.place ++ [name]
        match tree.node? place with
        | some node => visit search fuel { text := front ++ name, place, node, depth := found.depth + 1 }
        | none => return

end Find

def find : Job UInt8 := do
  let call ← Job.call
  let operands := call.args.takeWhile fun word => word.head? ≠ some '-'
  let rest := call.args.drop operands.length
  let search ← Find.readSearch (rest.length + 1) {} rest
  let prints := search.predicates.any fun
    | .print => true
    | .format _ => true
    | _ => false
  let search := if prints then search else { search with predicates := search.predicates ++ [.print] }
  let step (code : UInt8) (operand : Octets) : Job UInt8 := do
    let tree := (← Job.world).tree
    match tree.find call.directory operand false with
    | .error fault =>
      Job.complain (Quotation.commandText operand ++ ": ".toList ++ Job.faultText fault)
      return 1
    | .ok (place, node) =>
      Find.visit search (tree.entries.length + 2) { text := operand, place, node, depth := 0 }
      return code
  (if operands.isEmpty then [['.']] else operands).foldlM step 0

end VersionGate.Sandbox.Utility
