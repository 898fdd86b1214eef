namespace VersionGate.Text

def hexDigits (n : Nat) : List Char :=
  Nat.toDigits 16 n

def hexDigitsWide (width n : Nat) : List Char :=
  List.replicate (width - (hexDigits n).length) '0' ++ hexDigits n

end VersionGate.Text
