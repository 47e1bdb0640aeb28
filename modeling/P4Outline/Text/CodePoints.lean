/-!
# Sets of code points

A character class is a union of closed intervals of code points, listed in increasing order. A
look-up walks the list and stops at the first interval that starts beyond the point, so that the
classes of the first few intervals (where ASCII lies) cost a step or two.
-/

namespace P4Outline.Text

/-- A union of closed intervals of code points, in increasing order. -/
abbrev CodePoints := List (Nat × Nat)

namespace CodePoints

/-- Whether a code point lies in one of the intervals. -/
def holds : CodePoints → Nat → Bool
  | [], _ => false
  | (lo, hi) :: rest, n => if n < lo then false else n ≤ hi || holds rest n

/-- Whether every interval starts beyond the end of the one before it, the first one at `from` or
later. -/
def Increasing : Nat → CodePoints → Bool
  | _, [] => true
  | start, (lo, hi) :: rest => start ≤ lo && lo ≤ hi && Increasing (hi + 1) rest

@[simp] theorem holds_nil (n : Nat) : holds [] n = false := rfl

end CodePoints

end P4Outline.Text
