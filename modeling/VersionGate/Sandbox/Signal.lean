import VersionGate.Sandbox.Octets

namespace VersionGate.Sandbox.Signal

def firstNames : List String :=
  ["HUP", "INT", "QUIT", "ILL", "TRAP", "ABRT", "BUS", "FPE", "KILL", "USR1", "SEGV", "USR2", "PIPE",
    "ALRM", "TERM", "16", "CHLD", "CONT", "STOP", "TSTP", "TTIN", "TTOU", "URG", "XCPU", "XFSZ",
    "VTALRM", "PROF", "WINCH", "IO", "PWR", "SYS", "32", "33"]

def lateNames : List String :=
  let numbered (start : String) (count : Nat) : List String :=
    (List.range count).map fun index => start ++ toString (index + 1)
  "RTMIN" :: numbered "RTMIN+" 15 ++ (numbered "RTMAX-" 14).reverse ++ ["RTMAX"]

def names : List (Nat × String) :=
  let all := firstNames ++ lateNames
  (List.range all.length).zip all |>.map fun (index, name) => (index + 1, name)

def name (number : Nat) : Octets :=
  ((names.lookup number).getD (toString number)).toList

/-- The number of a signal, from its name or its number. The end of a process counts as number
zero. -/
def ofText? (text : Octets) : Option Nat :=
  if !text.isEmpty && text.all Char.isDigit then
    let number := text.foldl (fun value c => 10 * value + (c.toNat - '0'.toNat)) 0
    if number ≤ 64 then some number else none
  else
    let capitals := String.ofList (text.map Char.toUpper)
    if capitals = "EXIT" then some 0
    else (names.find? (·.2 = capitals)).map (·.1)

/-- The signals that do nothing to a process unless it asks for them. -/
def isHarmless (number : Nat) : Bool :=
  number ∈ [0, 17, 18, 19, 20, 21, 22, 23, 28]

def isCertain (number : Nat) : Bool :=
  number ∈ [9, 19]

def description? (number : Nat) : Option String :=
  [(1, "Hangup"), (3, "Quit"), (4, "Illegal instruction"), (5, "Trace/breakpoint trap"),
    (6, "Aborted"), (7, "Bus error"), (8, "Floating point exception"), (9, "Killed"),
    (10, "User defined signal 1"), (11, "Segmentation fault"), (12, "User defined signal 2"),
    (14, "Alarm clock"), (15, "Terminated"), (16, "Stack fault"), (24, "CPU time limit exceeded"),
    (25, "File size limit exceeded"), (26, "Virtual timer expired"),
    (27, "Profiling timer expired"), (29, "I/O possible"), (30, "Power failure"),
    (31, "Bad system call")].lookup number

end VersionGate.Sandbox.Signal
