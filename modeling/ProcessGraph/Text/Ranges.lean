/-!
# Sets of code points

* `insideRanges`: membership in a set given by the boundaries of its ranges.
-/

namespace ProcessGraph.Text

/-- Is a code point in the set whose ranges start and end at the given boundaries? The boundaries
ascend; a range starts at every first one and ends before every second one. -/
def insideRanges (boundaries : Array Nat) (c : Nat) : Bool :=
  (boundaries.foldl (fun n b => if b ≤ c then n + 1 else n) 0) % 2 = 1

end ProcessGraph.Text
