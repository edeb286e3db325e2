import AlignedStorage.Numeral

/-!
# Faults

A fault is a run-time check that did not hold.  An operation that ends in a
fault changes nothing: callers keep the value they had before it.
-/

namespace AlignedStorage

/-- The run-time checks that can fail, each with the figures its message
reports. -/
inductive Fault
  | addOverflow
  | subOverflow
  | notPowerOfTwo
  /-- The second of two addresses to subtract lies above the first. -/
  | minuendBelow
  /-- No valid layout has both of the sizes and alignments asked for. -/
  | unlayable
  | indexOutOfBounds (length index : Nat)
  /-- A storage type is smaller than the size it was asked to hold. -/
  | storageTooSmall
  /-- Two values that have to agree differ. -/
  | valuesDiffer (left right : Nat)
  | boxMisaligned (address align : Nat)
  | slotMisaligned
  | localMisaligned
deriving DecidableEq, Repr

def Fault.message : Fault → String
  | .addOverflow => "attempt to add with overflow"
  | .subOverflow => "attempt to subtract with overflow"
  | .notPowerOfTwo => "assertion failed: align.is_power_of_two()"
  | .minuendBelow => "assertion failed: self.0 >= other.0"
  | .unlayable => "internal error: entered unreachable code"
  | .indexOutOfBounds length index =>
      "index out of bounds: the len is " ++ decimal length ++
        " but the index is " ++ decimal index
  | .storageTooSmall => "assertion failed: mem::size_of::<S>() >= size"
  | .valuesDiffer left right =>
      "assertion `left == right` failed\n  left: " ++ decimal left ++
        "\n right: " ++ decimal right
  | .boxMisaligned address align =>
      hexadecimal address ++ " is not " ++ decimal align ++ "-byte aligned"
  | .slotMisaligned =>
      "assertion failed: Address::from(s).is_aligned_to(align)"
  | .localMisaligned =>
      "assertion failed: Address::from(&local).is_aligned_to(align)"

end AlignedStorage
