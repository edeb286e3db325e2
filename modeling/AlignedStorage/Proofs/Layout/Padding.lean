import AlignedStorage.Proofs.Address.Rounding
import AlignedStorage.Proofs.Layout.Union

/-!
# Padding of layouts

The padded size of a layout is the least multiple of its alignment that holds
its size.  Words suffice to compute it: as an address, the size is rounded up
to the same number.  A layout that takes the place of a smaller one takes its
padding along, for rounding to the weaker alignment first changes nothing.
-/

namespace AlignedStorage

namespace Layout

theorem isLeastMultiple_paddedSize (l : Layout) :
    IsLeastMultiple l.align l.size l.paddedSize :=
  (isLeastMultiple_iff l.align_pos).mpr rfl

theorem ofSizeAlign_paddedSize (l : Layout) :
    ofSizeAlign l.paddedSize l.align = .ok l.padToAlign :=
  ofSizeAlign_eq_ok_iff.mpr ⟨rfl, rfl⟩

theorem padToAlign_eq_self_iff {l : Layout} :
    l.padToAlign = l ↔ l.align ∣ l.size := by
  rw [← roundUp_eq_self_iff l.align_pos]
  constructor
  · intro h
    exact congrArg size h
  · intro h
    exact ext h rfl

theorem padToAlign_padToAlign (l : Layout) :
    l.padToAlign.padToAlign = l.padToAlign :=
  padToAlign_eq_self_iff.mpr l.isLeastMultiple_paddedSize.dvd

theorem exists_ofSizeAlign_eq_ok {n a : Nat} (ha : a.isPowerOfTwo)
    (h : n + a ≤ addressLimit) : ∃ l, ofSizeAlign n a = .ok l := by
  cases hl : ofSizeAlign n a with
  | ok l => exact ⟨l, rfl⟩
  | error e =>
      have hlt := (ofSizeAlign_eq_error_iff ha).mp hl
      omega

/-! ## Padding in words -/

theorem exists_toNat_eq {n : Nat} (h : n ≤ addressLimit) :
    ∃ w : UInt64, w.toNat = n :=
  ⟨UInt64.ofNat n,
    UInt64.toNat_ofNat_of_lt' (Nat.lt_of_le_of_lt h (by decide))⟩

/-- The check of the sum with the mask passes, for the multiple that the sum
is rounded down to is below the limit. -/
theorem exists_alignUp_eq_ok (l : Layout) {x : Address} {n : UInt64}
    (hx : x.toNat = l.size) (hn : n.toNat = l.align) :
    ∃ up, x.alignUp n = .ok up ∧ up.toNat = l.paddedSize := by
  have hpow : n.toNat.isPowerOfTwo := by
    rw [hn]
    exact l.align_isPowerOfTwo
  have hle := l.roundUp_add_align_le
  have hlimit : addressLimit < UInt64.size := by decide
  rw [Address.alignUp_eq_ofNat hpow, hx, hn]
  apply Address.exists_ofNat_eq_ok
  omega

/-! ## Padding twice -/

section

variable {l m : Layout} (hsize : l.size ≤ m.size) (halign : l.align ≤ m.align)

include halign

theorem align_dvd_align : l.align ∣ m.align :=
  dvd_of_isPowerOfTwo_of_le l.align_isPowerOfTwo m.align_isPowerOfTwo halign

/-- The padding to the weaker alignment is part of that to the stricter. -/
theorem roundUp_paddedSize :
    roundUp l.paddedSize m.align = roundUp l.size m.align :=
  roundUp_roundUp_of_dvd l.align_pos m.align_pos (align_dvd_align halign)

include hsize

theorem paddedSize_mono : l.paddedSize ≤ m.paddedSize := by
  calc
    l.paddedSize ≤ roundUp l.size m.align :=
      roundUp_le_roundUp_of_dvd l.align_pos m.align_pos
        (align_dvd_align halign)
    _ ≤ m.paddedSize := roundUp_mono m.align_pos hsize

/-- Both the size and the padded size of the smaller layout make a layout at
the stricter alignment, and the two have the same padding. -/
theorem exists_padToAlign_eq :
    ∃ once twice, ofSizeAlign l.size m.align = .ok once ∧
      ofSizeAlign l.paddedSize m.align = .ok twice ∧
      twice.padToAlign = once.padToAlign ∧
      once.paddedSize ≤ m.paddedSize := by
  have hfit := m.size_add_align_le
  have hpadded : m.paddedSize + m.align ≤ addressLimit :=
    m.roundUp_add_align_le
  have hmono := paddedSize_mono hsize halign
  obtain ⟨once, honce⟩ := exists_ofSizeAlign_eq_ok (n := l.size)
    m.align_isPowerOfTwo (by omega)
  obtain ⟨twice, htwice⟩ := exists_ofSizeAlign_eq_ok (n := l.paddedSize)
    m.align_isPowerOfTwo (by omega)
  obtain ⟨honceSize, honceAlign⟩ := ofSizeAlign_eq_ok_iff.mp honce
  obtain ⟨htwiceSize, htwiceAlign⟩ := ofSizeAlign_eq_ok_iff.mp htwice
  have hround : twice.paddedSize = once.paddedSize := by
    change roundUp twice.size twice.align = roundUp once.size once.align
    rw [htwiceSize, htwiceAlign, honceSize, honceAlign]
    exact roundUp_paddedSize halign
  refine ⟨once, twice, honce, htwice, ?_, ?_⟩
  · exact ext hround (htwiceAlign.trans honceAlign.symm)
  · apply paddedSize_mono
    · rw [honceSize]
      exact hsize
    · exact Nat.le_of_eq honceAlign

end

/-- Padding a layout never leaves the words, gives the least multiple of the
alignment that holds the size, and a layout again, which has its padding
already.  The size, taken as an address, is rounded up to that same number
without a fault.  In the place of a layout that is no smaller and no less
strictly aligned, a layout can be padded to its own alignment first: the
padding to the stricter one comes out the same, within the padded size of the
other. -/
theorem padding_exact (l m : Layout) :
    l.size + (l.align - 1) < addressLimit ∧
    IsLeastMultiple l.align l.size l.paddedSize ∧
    l.paddedSize ≤ addressLimit - l.align ∧
    ofSizeAlign l.paddedSize l.align = .ok l.padToAlign ∧
    l.padToAlign.padToAlign = l.padToAlign ∧
    (∃ (x : Address) (n : UInt64), x.toNat = l.size ∧ n.toNat = l.align ∧
      ∃ up, x.alignUp n = .ok up ∧ up.toNat = l.paddedSize) ∧
    (l.size ≤ m.size → l.align ≤ m.align →
      ∃ once twice, ofSizeAlign l.size m.align = .ok once ∧
        ofSizeAlign l.paddedSize m.align = .ok twice ∧
        twice.paddedSize = once.paddedSize ∧
        once.paddedSize ≤ m.paddedSize) := by
  have hpos := l.align_pos
  have hfit := l.size_add_align_le
  have hpadded : l.paddedSize + l.align ≤ addressLimit :=
    l.roundUp_add_align_le
  refine ⟨by omega, l.isLeastMultiple_paddedSize, by omega,
    l.ofSizeAlign_paddedSize, l.padToAlign_padToAlign, ?_, ?_⟩
  · obtain ⟨w, hw⟩ := exists_toNat_eq (n := l.size) (by omega)
    obtain ⟨n, hn⟩ := exists_toNat_eq (n := l.align) (by omega)
    exact ⟨⟨w⟩, n, hw, hn, l.exists_alignUp_eq_ok hw hn⟩
  · intro hsize halign
    obtain ⟨once, twice, honce, htwice, hpad, hle⟩ :=
      exists_padToAlign_eq hsize halign
    exact ⟨once, twice, honce, htwice, congrArg size hpad, hle⟩

/-- Nine bytes below the limit there is room for the padding to a word, and
no more. -/
theorem padding_exact_lastWord :
    ∃ m : Layout, m.size = 0x7ffffffffffffff8 ∧ m.align = 8 ∧
      nineBelowLimit.size ≤ m.size ∧ nineBelowLimit.align ≤ m.align ∧
      ∃ once twice,
        ofSizeAlign nineBelowLimit.size m.align = .ok once ∧
        ofSizeAlign nineBelowLimit.paddedSize m.align = .ok twice ∧
        twice.paddedSize = once.paddedSize ∧
        once.paddedSize ≤ m.paddedSize := by
  obtain ⟨m, hm⟩ := exists_ofSizeAlign_eq_ok (n := 0x7ffffffffffffff8)
    word.align_isPowerOfTwo (by decide)
  obtain ⟨hmsize, hmalign⟩ := ofSizeAlign_eq_ok_iff.mp hm
  have hsize : nineBelowLimit.size ≤ m.size := by
    rw [hmsize]
    decide
  have halign : nineBelowLimit.align ≤ m.align := m.align_pos
  obtain ⟨_, _, _, _, _, _, hpadding⟩ := padding_exact nineBelowLimit m
  exact ⟨m, hmsize, hmalign, hsize, halign, hpadding hsize halign⟩

end Layout

end AlignedStorage
