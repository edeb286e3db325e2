import AlignedStorage.Address
import AlignedStorage.Rounding

/-!
# Masks of powers of two

The mask of a power of two keeps the remainder of a word, and its complement
the rest.  So the bit operations on addresses are division and rounding down,
and clearing the bits under a mask is a shift there and back.
-/

namespace AlignedStorage

/-- Rounding down to a power of two takes as many low bits out as its
exponent says. -/
theorem roundDown_one_shiftLeft (n k : Nat) :
    roundDown n (1 <<< k) = (n >>> k) <<< k := by
  rw [roundDown, Nat.one_shiftLeft, Nat.shiftLeft_eq,
    Nat.shiftRight_eq_div_pow]

theorem testBit_roundDown_one_shiftLeft (n k i : Nat) :
    (roundDown n (1 <<< k)).testBit i = (decide (k ≤ i) && n.testBit i) := by
  rw [roundDown_one_shiftLeft, Nat.testBit_shiftLeft]
  by_cases h : k ≤ i
  · rw [Nat.testBit_shiftRight, Nat.add_sub_cancel' h]
  · simp [h]

/-- Complementing a word turns each of its bits over. -/
theorem testBit_toNat_not (m : UInt64) (i : Nat) :
    (~~~m).toNat.testBit i = (decide (i < 64) && !m.toNat.testBit i) := by
  rw [← UInt64.toNat_toBitVec, UInt64.toBitVec_not, BitVec.testBit_toNat,
    BitVec.getLsbD_not, ← BitVec.testBit_toNat, UInt64.toNat_toBitVec]

theorem testBit_toNat_of_le (x : UInt64) {i : Nat} (hi : 64 ≤ i) :
    x.toNat.testBit i = false := by
  rw [← UInt64.toNat_toBitVec, BitVec.testBit_toNat]
  exact BitVec.getLsbD_of_ge x.toBitVec i hi

namespace Address

section

variable {n : UInt64} (hn : n.toNat.isPowerOfTwo)

include hn

theorem toNat_sub_one : (n - 1).toNat = n.toNat - 1 :=
  UInt64.toNat_sub_of_le n 1 (Nat.pos_of_isPowerOfTwo hn)

theorem maskOf_eq_ok : maskOf n = .ok (n - 1) :=
  if_pos hn

/-- The bits under the mask are the remainder. -/
theorem and_sub_one_eq_mod (x : UInt64) : x &&& (n - 1) = x % n := by
  rw [← UInt64.toNat_inj, UInt64.toNat_and, UInt64.toNat_mod,
    toNat_sub_one hn]
  obtain ⟨k, hk⟩ := hn
  rw [hk, Nat.and_two_pow_sub_one_eq_mod]

/-- The bits outside of the mask are the word, rounded down. -/
theorem toNat_and_not_sub_one (x : UInt64) :
    (x &&& ~~~(n - 1)).toNat = roundDown x.toNat n.toNat := by
  have hmask := toNat_sub_one hn
  obtain ⟨k, hk⟩ := hn
  rw [hk] at hmask
  rw [hk, ← Nat.one_shiftLeft]
  apply Nat.eq_of_testBit_eq
  intro i
  have houtside : decide (k ≤ i) = !decide (i < k) := by
    rw [← decide_not]
    exact decide_eq_decide.mpr Nat.not_lt.symm
  rw [testBit_roundDown_one_shiftLeft, UInt64.toNat_and, Nat.testBit_and,
    testBit_toNat_not, hmask, Nat.testBit_two_pow_sub_one, houtside]
  by_cases hi : i < 64
  · simp [hi, Bool.and_comm]
  · simp [testBit_toNat_of_le x (Nat.le_of_not_lt hi)]

theorem isAlignedTo_eq_ok (x : Address) :
    x.isAlignedTo n = .ok (x.word &&& (n - 1) == 0) := by
  rw [isAlignedTo, maskOf_eq_ok hn]
  rfl

theorem alignDown_eq_ok (x : Address) :
    x.alignDown n = .ok ⟨x.word &&& ~~~(n - 1)⟩ := by
  rw [alignDown, maskOf_eq_ok hn]
  rfl

end

/-- Shifting the low bits out and zeros in rounds down to the power of two
of the shift. -/
theorem toNat_shiftRight_shiftLeft {k : UInt64} (hk : k.toNat < 64)
    (x : UInt64) :
    ((x >>> k) <<< k).toNat = roundDown x.toNat (1 <<< k.toNat) := by
  have hle := roundDown_le x.toNat (1 <<< k.toNat)
  have hlt := x.toNat_lt
  rw [UInt64.toNat_shiftLeft, UInt64.toNat_shiftRight,
    Nat.mod_eq_of_lt hk, ← roundDown_one_shiftLeft]
  exact Nat.mod_eq_of_lt (Nat.lt_of_le_of_lt hle hlt)

end Address

end AlignedStorage
