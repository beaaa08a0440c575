/-!
# Sets of code points

A property of characters is a table of ranges of code points in ascending order
(`Ranges.contains`).  Properties that hold of every other code point for long stretches, as those
of letter case do, are tables of runs with a stride (`Runs.contains`).

Both searches stop at the first entry that lies beyond the code point, so the characters in
common use are decided within a few entries.
-/

namespace EnumAccessors

namespace Unicode

/-- Ranges of code points, both ends included, disjoint and in ascending order. -/
abbrev Ranges := List (Nat × Nat)

/-- Whether the code point lies in one of the ranges. -/
def Ranges.contains : Ranges → Nat → Bool
  | [], _ => false
  | (first, last) :: rest, n => if n < first then false else n ≤ last || contains rest n

/-- The code points `first`, `first + stride`, `first + 2 * stride`, … up to `last`. -/
structure Run where
  first : Nat
  last : Nat
  stride : Nat
  deriving DecidableEq, Repr

/-- Whether the code point is one of the run. -/
def Run.contains (r : Run) (n : Nat) : Bool :=
  r.first ≤ n && n ≤ r.last && (n - r.first) % r.stride == 0

/-- Runs whose spans are disjoint and in ascending order. -/
abbrev Runs := List Run

/-- Whether the code point is in one of the runs. -/
def Runs.contains : Runs → Nat → Bool
  | [], _ => false
  | r :: rest, n => if n < r.first then false else r.contains n || contains rest n

end Unicode

end EnumAccessors
