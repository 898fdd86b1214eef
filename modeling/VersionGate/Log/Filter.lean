import VersionGate.Log.Directive

/-!
Filters: which events are shown.

A filter is a list of directives; for each event the most specific directive that applies decides.
-/

namespace VersionGate.Log

abbrev Filter := List Directive

namespace Filter

def pieces (text : List Char) : List (List Char) :=
  text.splitBy (fun first second => first ≠ ',' && second ≠ ',') |>.filter (· ≠ [','])

/-- Reads a filter; one directive that cannot be read spoils it. -/
def ofText? (text : String) : Option Filter :=
  (pieces text.toList).mapM Directive.ofText?

def warnings : Filter :=
  [{ topic := some "toolgate", threshold := 2 }]

def debugging : Filter :=
  [{ topic := some "toolgate", threshold := 4 }]

/-- The filter of a process: a switch asks for debugging, else the variable `RUST_LOG` decides, and
warnings are shown if it is not set or cannot be read. -/
def ofProcess (wantsDebug : Bool) (environment : String → Option String) : Filter :=
  if wantsDebug then debugging
  else ((environment "RUST_LOG").bind ofText?).getD warnings

/-- The directive that decides about an event; of two that are equally specific, the later one. -/
def deciding? (filter : Filter) (event : Event) : Option Directive :=
  (filter.filter (·.applies event)).foldl
    (fun best? directive =>
      match best? with
      | some best => if directive.specificity best = .lt then some best else some directive
      | none => some directive)
    none

def shows (filter : Filter) (event : Event) : Bool :=
  match filter.deciding? event with
  | some directive => event.level.rank ≤ directive.threshold
  | none => false

end Filter

end VersionGate.Log
