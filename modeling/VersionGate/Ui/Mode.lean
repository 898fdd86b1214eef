namespace VersionGate.Ui

inductive Mode where
  | verbose
  | normal
  | quiet
deriving DecidableEq

namespace Mode

instance : Inhabited Mode := ⟨normal⟩

/-- The mode that two switches ask for. Quiet wins. -/
def ofFlags (wantsDetail wantsQuiet : Bool) : Mode :=
  if wantsQuiet then quiet else if wantsDetail then verbose else normal

def showsDetail : Mode → Bool
  | verbose => true
  | _ => false

def showsStatus : Mode → Bool
  | quiet => false
  | _ => true

end Mode

end VersionGate.Ui
