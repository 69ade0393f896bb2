import BooleanSearch.Operator

/-!
# Events

What reading, normalising and composing an expression report while they run.  Each event has
a level and a wording; who listens, and from which level on, is decided elsewhere.
-/

namespace BooleanSearch

/-- How grave a report is. -/
inductive LogLevel where
  | trace
  | debug
  | info
  | warn
  | error
  deriving DecidableEq, Repr

/-- Graver levels have higher ranks. -/
def LogLevel.rank : LogLevel → Nat
  | .trace => 0
  | .debug => 1
  | .info => 2
  | .warn => 3
  | .error => 4

/-- Something that happened to an expression. -/
inductive Event where
  /-- An operator was read in a group this deep. -/
  | operatorRead (op : Operator) (depth : Nat)
  /-- A group below the depth limit was kept as a bare term. -/
  | groupKept (limit : Nat)
  /-- Reading ended with this many tokens at the outermost level. -/
  | tokenised (count : Nat)
  /-- Operators in front of a level were dropped. -/
  | leadingDropped (count : Nat)
  /-- An operator at the end of a repaired level was discarded. -/
  | danglingDiscarded
  /-- This many outermost tokens were composed into this many bytes. -/
  | composed (tokens bytes : Nat)
  deriving DecidableEq, Repr

/-- The level at which an event is reported. -/
def Event.level : Event → LogLevel
  | .operatorRead .. | .leadingDropped _ | .danglingDiscarded => .trace
  | .tokenised _ | .composed .. => .debug
  | .groupKept _ => .warn

/-- The wording of an event. -/
def Event.message : Event → String
  | .operatorRead op depth => "matched operator `" ++ op.keyword ++ "` at depth " ++ toString depth
  | .groupKept limit =>
    "sub-expression nested deeper than " ++ toString limit ++
      " levels; keeping it as a plain term"
  | .tokenised count => "tokenised " ++ toString count ++ " top-level tokens"
  | .leadingDropped count => "dropping " ++ toString count ++ " leading operator(s)"
  | .danglingDiscarded => "discarding dangling operator"
  | .composed tokens bytes =>
    "composed " ++ toString tokens ++ " tokens into " ++ toString bytes ++ " bytes"

end BooleanSearch
