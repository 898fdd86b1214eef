namespace VersionGate.Cli

inductive Word where
  | terminator
  /-- Two dashes and a name, with the text after the first equals sign as an attached value. -/
  | long (name : String) (attached : Option String)
  | cluster (letters : List Char)
  | plain (text : String)
deriving DecidableEq

def Word.ofString (text : String) : Word :=
  match text.toList with
  | ['-', '-'] => terminator
  | '-' :: '-' :: rest =>
    let name := rest.takeWhile (· ≠ '=')
    match rest.drop name.length with
    | [] => long (String.ofList name) none
    | _ :: value => long (String.ofList name) (some (String.ofList value))
  | '-' :: letter :: letters => cluster (letter :: letters)
  | _ => plain text

end VersionGate.Cli
