import VersionGate.Text.Hex
import VersionGate.Text.Printable

namespace VersionGate.Text.Quoted

def codePointEscape (c : Char) : List Char :=
  ['\\', 'u', '\x7b'] ++ hexDigits c.toNat ++ ['\x7d']

def encodeChar (c : Char) : List Char :=
  match c with
  | '\x00' => ['\\', '0']
  | '\t' => ['\\', 't']
  | '\n' => ['\\', 'n']
  | '\r' => ['\\', 'r']
  | '"' => ['\\', '"']
  | '\\' => ['\\', '\\']
  | c => if isExtending c || !isPrintable c then codePointEscape c else [c]

def encode (text : List Char) : List Char :=
  '"' :: text.flatMap encodeChar ++ ['"']

end VersionGate.Text.Quoted

namespace VersionGate.Text

def quote (text : String) : String :=
  String.ofList (Quoted.encode text.toList)

end VersionGate.Text
