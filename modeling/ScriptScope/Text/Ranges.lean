/-!
# Sets of characters as ranges

A property of characters is kept as the ascending list of the ranges of code points that have it.
-/

namespace ScriptScope.Text

/-- Ranges of code points, ends included, in ascending order. -/
abbrev Ranges := List (Nat × Nat)

namespace Ranges

/-- Whether a code point lies in one of the ranges; the search stops at the first range above it. -/
def holds : Ranges → Nat → Bool
  | [], _ => false
  | (lo, hi) :: rest, n => if n < lo then false else if n ≤ hi then true else holds rest n

/-- Whether a character lies in one of the ranges. -/
def contains (ranges : Ranges) (c : Char) : Bool :=
  ranges.holds c.toNat

end Ranges

end ScriptScope.Text
