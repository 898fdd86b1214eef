import VersionGate.Report
import VersionGate.Text.Hex

namespace VersionGate

namespace Json

def encodeChar (c : Char) : List Char :=
  match c with
  | '"' => ['\\', '"']
  | '\\' => ['\\', '\\']
  | '\x08' => ['\\', 'b']
  | '\x0c' => ['\\', 'f']
  | '\n' => ['\\', 'n']
  | '\r' => ['\\', 'r']
  | '\t' => ['\\', 't']
  | c => if c < ' ' then ['\\', 'u'] ++ Text.hexDigitsWide 4 c.toNat else [c]

def encodeText (text : List Char) : List Char :=
  '"' :: text.flatMap encodeChar ++ ['"']

def string (text : String) : String :=
  String.ofList (encodeText text.toList)

def bool : Bool → String
  | true => "true"
  | false => "false"

def object (members : List (String × String)) : String :=
  "\x7b\n" ++ ",\n".intercalate (members.map fun (name, value) => "  " ++ string name ++ ": " ++ value) ++
    "\n\x7d"

end Json

def Report.members (report : Report) : List (String × String) :=
  [("toolchain", Json.string report.toolchain),
    ("required", Json.string report.required),
    ("installed", Json.string report.installed),
    ("comparison", Json.string report.comparison.name),
    ("satisfied", Json.bool report.satisfied)]

def Report.json (report : Report) : String :=
  Json.object report.members

end VersionGate
