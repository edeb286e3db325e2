import AlignedStorage.Proofs.Address.NaturalAlignment
import AlignedStorage.Proofs.Address.Rounding

/-!
# The lowest bit of an address

The natural alignment of an address is its lowest bit that is set, so the
exponent counts the zero bits below.  An alignment that is no stricter leaves
the address alone, and every stricter one moves it.
-/

namespace AlignedStorage

namespace Address

/-- The zero bits at the end of a number stop at a bit that is set. -/
theorem testBit_trailingZeros {n : Nat} (hn : n ≠ 0) :
    n.testBit (trailingZeros n) = true ∧
      ∀ i, i < trailingZeros n → n.testBit i = false := by
  -- Halving the number shifts all of its bits down by one.
  fun_induction trailingZeros n with
  | case1 n hstop =>
      have hodd : n % 2 = 1 := hstop.resolve_left hn
      refine ⟨?_, fun i hi ↦ absurd hi (Nat.not_lt_zero i)⟩
      rw [Nat.testBit_zero]
      exact decide_eq_true hodd
  | case2 n hstep ih =>
      have heven : n % 2 = 0 := by omega
      obtain ⟨hbit, hbelow⟩ := ih (by omega)
      constructor
      · rw [Nat.testBit_succ]
        exact hbit
      · intro i hi
        cases i with
        | zero =>
            rw [Nat.testBit_zero, heven]
            rfl
        | succ i =>
            rw [Nat.testBit_succ]
            exact hbelow i (Nat.lt_of_succ_lt_succ hi)

theorem log2_naturalAlignment {x : Address} {a : Alignment}
    (h : x.naturalAlignment = some a) : a.log2 = trailingZeros x.toNat := by
  rw [Alignment.log2, naturalAlignment_value h, Nat.one_shiftLeft,
    Nat.log2_two_pow]

theorem eq_zero_iff {x : Address} : x = zero ↔ x.toNat = 0 := by
  rw [← toNat_inj]
  rfl

section

variable {x : Address} {a : Alignment} (h : x.naturalAlignment = some a)

include h

theorem naturalAlignment_lt_size : a.value < UInt64.size := by
  have hpos := Nat.pos_of_ne_zero (toNat_ne_zero_of_naturalAlignment h)
  have hle := Nat.le_of_dvd hpos (naturalAlignment_dvd h)
  exact Nat.lt_of_le_of_lt hle x.toNat_lt

theorem isAlignedTo_eq_le_naturalAlignment {q : UInt64}
    (hq : q.toNat.isPowerOfTwo) :
    x.isAlignedTo q = .ok (decide (q.toNat ≤ a.value)) := by
  rw [isAlignedTo_eq_dvd hq, Except.ok.injEq, decide_eq_decide]
  exact (le_naturalAlignment_iff h hq).symm

theorem alignUp_eq_self_iff_le_naturalAlignment {q : UInt64}
    (hq : q.toNat.isPowerOfTwo) :
    x.alignUp q = .ok x ↔ q.toNat ≤ a.value := by
  rw [alignUp_eq_self_iff hq, le_naturalAlignment_iff h hq]

end

/-- Every address but zero has a natural alignment, the power of two of its
lowest set bit.  It divides the address, and an alignment that is a word is an
alignment of the address, and leaves it alone, exactly when it is no stricter.
Zero has every alignment and so no natural one. -/
theorem naturalAlignment_strictest (x : Address) :
    (x.naturalAlignment = none ↔ x = zero) ∧
    (∀ q : UInt64, q.toNat.isPowerOfTwo → zero.isAlignedTo q = .ok true) ∧
    (x ≠ zero → ∃ p, x.naturalAlignment = some p ∧
      p.value = 1 <<< p.log2 ∧ p.value < UInt64.size ∧ p.value ∣ x.toNat ∧
      (∀ q : UInt64, q.toNat.isPowerOfTwo →
        x.isAlignedTo q = .ok (decide (q.toNat ≤ p.value)) ∧
        (x.alignUp q = .ok x ↔ q.toNat ≤ p.value)) ∧
      p.log2 = trailingZeros x.toNat ∧ x.toNat.testBit p.log2 = true ∧
      ∀ i, i < p.log2 → x.toNat.testBit i = false) := by
  refine ⟨?_, ?_, ?_⟩
  · rw [naturalAlignment_eq_none_iff, eq_zero_iff]
  · intro q hq
    rw [isAlignedTo_eq_true_iff hq]
    exact Nat.dvd_zero q.toNat
  · intro hx
    have hne : x.toNat ≠ 0 := mt eq_zero_iff.mpr hx
    obtain ⟨p, hp⟩ := exists_naturalAlignment hne
    have hlog := log2_naturalAlignment hp
    have hbits := testBit_trailingZeros hne
    rw [← hlog] at hbits
    refine ⟨p, hp, ?_, naturalAlignment_lt_size hp, naturalAlignment_dvd hp,
      ?_, hlog, hbits⟩
    · rw [hlog]
      exact naturalAlignment_value hp
    · intro q hq
      exact ⟨isAlignedTo_eq_le_naturalAlignment hp hq,
        alignUp_eq_self_iff_le_naturalAlignment hp hq⟩

/-- The address with the top bit alone has the strictest alignment there is
among words. -/
theorem naturalAlignment_topBit :
    (⟨0x8000000000000000⟩ : Address) ≠ zero ∧
      (0x8000000000000000 : UInt64).toNat.isPowerOfTwo ∧
      zero.isAlignedTo 0x8000000000000000 = .ok true ∧
      ∃ p, (⟨0x8000000000000000⟩ : Address).naturalAlignment = some p ∧
        0x8000000000000000 ≤ p.value ∧ p.value < UInt64.size ∧
        ∀ i, i < p.log2 → (0x8000000000000000 : Nat).testBit i = false := by
  have hne : (⟨0x8000000000000000⟩ : Address) ≠ zero := by decide
  have htop : (0x8000000000000000 : UInt64).toNat.isPowerOfTwo := ⟨63, rfl⟩
  obtain ⟨_, hzero, hsome⟩ := naturalAlignment_strictest ⟨0x8000000000000000⟩
  obtain ⟨p, hp, _, hlt, _, hq, _, _, hbelow⟩ := hsome hne
  have hself : (⟨0x8000000000000000⟩ : Address).alignUp 0x8000000000000000 =
      .ok ⟨0x8000000000000000⟩ :=
    (alignUp_eq_self_iff htop).mpr (Nat.dvd_refl _)
  exact ⟨hne, htop, hzero _ htop, p, hp, (hq _ htop).2.mp hself, hlt, hbelow⟩

end Address

end AlignedStorage
