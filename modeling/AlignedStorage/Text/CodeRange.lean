/-!
# Ranges of code points

A class of characters is kept as its ranges of code points in ascending
order, and looked up by halving.
-/

namespace AlignedStorage

/-- Whether a number lies in one of the ascending ranges from position `lo`
up to `hi`. -/
def inRanges (ranges : Array (Nat × Nat)) (lo hi n : Nat) : Bool :=
  if lo < hi then
    let mid := (lo + hi) / 2
    match ranges[mid]? with
    | none => false
    | some (first, last) =>
        if n < first then inRanges ranges lo mid n
        else if last < n then inRanges ranges (mid + 1) hi n
        else true
  else false
termination_by hi - lo

/-- Whether a character lies in one of the given ranges. -/
def inCodeRanges (ranges : Array (Nat × Nat)) (c : Char) : Bool :=
  inRanges ranges 0 ranges.size c.toNat

end AlignedStorage
