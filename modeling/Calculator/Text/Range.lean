/-!
# Sorted tables of code point ranges

Character classes that no formula describes are stored as sorted, disjoint ranges of code
points with both ends included.  Membership stops at the first range that begins above the
code point.
-/

namespace Calculator.Text

/-- Ranges of code points, both ends included, in increasing order. -/
abbrev RangeTable := List (Nat × Nat)

/-- Decide membership in a sorted table of ranges. -/
def RangeTable.contains : RangeTable → Nat → Bool
  | [], _ => false
  | (first, last) :: later, code =>
    if code < first then false
    else if code ≤ last then true
    else RangeTable.contains later code

end Calculator.Text
