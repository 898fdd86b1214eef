import VersionGate.Sandbox.Octets

namespace VersionGate.Sandbox.Shell

inductive Dialect where
  | posix
  /-- Knows two more forms of parameters: a stretch of a value, and a replaced match. -/
  | bash
deriving DecidableEq

end VersionGate.Sandbox.Shell

namespace VersionGate.Sandbox.Shell.Options

/-- The options by letter and name, in the order in which they are listed. Two of
them have a mark that cannot be seen in place of a letter. -/
def all : List (Char × String) :=
  [('e', "errexit"), ('f', "noglob"), ('I', "ignoreeof"), ('i', "interactive"), ('m', "monitor"),
    ('n', "noexec"), ('s', "stdin"), ('x', "xtrace"), ('v', "verbose"), ('V', "vi"),
    ('E', "emacs"), ('C', "noclobber"), ('a', "allexport"), ('b', "notify"), ('u', "nounset"),
    ('p', "privileged"), ('\x01', "nolog"), ('\x02', "debug")]

def letters (options : List Char) : Octets :=
  (all.reverse.map (·.1)).filter fun letter => ' ' < letter && letter ∈ options

def letterOf? (name : Octets) : Option Char :=
  (all.find? fun (_, other) => other.toList = name).map (·.1)

end VersionGate.Sandbox.Shell.Options
