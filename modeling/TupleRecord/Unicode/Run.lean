/-!
Sets of code points as ascending lists of runs. A property of characters is a table of runs, and
`Run.covers` looks a code point up in it. The case properties alternate over long stretches, so a
run has a step.
-/
namespace TupleRecord.Unicode

/-- The code points `first`, `first + step`, … that do not pass `last`. -/
structure Run where
  first : Nat
  last : Nat
  step : Nat
  deriving DecidableEq, Repr

namespace Run

def contains (r : Run) (n : Nat) : Bool :=
  r.first ≤ n && n ≤ r.last && (n - r.first) % r.step == 0

/-- Membership in a table whose runs ascend: the first run that does not end before `n` decides. -/
def covers : List Run → Nat → Bool
  | [], _ => false
  | r :: runs, n => if n ≤ r.last then r.contains n else covers runs n

end Run

end TupleRecord.Unicode
