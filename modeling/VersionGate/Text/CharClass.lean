namespace VersionGate.Text

structure CharClass where
  ranges : List (Nat × Nat)

def CharClass.contains (cls : CharClass) (c : Char) : Bool :=
  cls.ranges.any fun (first, last) => first ≤ c.toNat && c.toNat ≤ last

end VersionGate.Text
