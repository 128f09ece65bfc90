import Automation.Text

/-!
# Sets of code points

A class of characters is a list of closed ranges of code points in increasing order. Membership
walks the list and stops at the first range that starts above the point, so a test of an ASCII
character ends after the first few ranges of any class.
-/

namespace Automation

/-- A set of code points, given by closed ranges in increasing order. -/
structure CodeSet where
  /-- First and last point of each range. -/
  ranges : List (Nat × Nat)

namespace CodeSet

/-- Whether a point lies in one of the ranges; ranges above the point are not looked at. -/
def inRanges : List (Nat × Nat) → Nat → Bool
  | [], _ => false
  | (first, last) :: rest, point =>
    if point < first then false else decide (point ≤ last) || inRanges rest point

/-- Membership of a code point. -/
def contains (s : CodeSet) (c : CodePoint) : Bool :=
  inRanges s.ranges c.value

end CodeSet

end Automation
