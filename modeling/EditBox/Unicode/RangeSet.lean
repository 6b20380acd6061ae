/-!
# Sets of code points

A set of naturals given by the sorted bounds of its ranges: members begin at the first bound, end
before the second, begin again at the third, and so on. A point is a member exactly when an odd
number of bounds lie at or below it; that number is found by bisection.
-/

namespace EditBox.Unicode

/-- Set of naturals as the increasing bounds of its ranges. -/
structure RangeSet where
  bounds : Array Nat

namespace RangeSet

/-- First index in `[low, high)` whose bound exceeds `n`, by at most `steps` halvings. -/
def bisect (bounds : Array Nat) (n : Nat) : (steps low high : Nat) → Nat
  | 0, low, _ => low
  | steps + 1, low, high =>
      if low < high then
        let middle := (low + high) / 2
        if bounds.getD middle 0 ≤ n then bisect bounds n steps (middle + 1) high
        else bisect bounds n steps low middle
      else low

/-- Number of bounds at or below `n`. -/
def rank (s : RangeSet) (n : Nat) : Nat := bisect s.bounds n s.bounds.size 0 s.bounds.size

/-- Membership. -/
def contains (s : RangeSet) (n : Nat) : Bool := s.rank n % 2 == 1

end RangeSet

end EditBox.Unicode
