import AlignedStorage.Address
import AlignedStorage.Proofs.Alignment.Supported

/-!
# Natural alignments

The natural alignment of an address has as many zero bits as the address has
at its end, so it is the strictest power of two that divides the address.
Nothing bounds it by what storage types can have: all other ways to an
alignment give a supported one, this way does up to multiples of 2^30.
-/

namespace AlignedStorage

namespace Address

theorem trailingZeros_of_even {n : Nat} (hn : n ≠ 0) (heven : n % 2 = 0) :
    trailingZeros n = trailingZeros (n / 2) + 1 := by
  rw [trailingZeros, if_neg (by omega)]

theorem trailingZeros_of_odd {n : Nat} (hodd : n % 2 = 1) :
    trailingZeros n = 0 := by
  rw [trailingZeros, if_pos (Or.inr hodd)]

/-- A power of two divides a number exactly when its exponent is no more than
the zero bits at the end of the number. -/
theorem one_shiftLeft_dvd_iff {n k : Nat} (hn : n ≠ 0) :
    1 <<< k ∣ n ↔ k ≤ trailingZeros n := by
  -- Halving the number takes one zero bit off its end.
  induction k generalizing n with
  | zero => simp
  | succ k ih =>
      have hstep : 1 <<< (k + 1) = 2 * 1 <<< k := by
        rw [Nat.one_shiftLeft, Nat.one_shiftLeft, Nat.pow_succ']
      rw [hstep]
      rcases Nat.mod_two_eq_zero_or_one n with heven | hodd
      · obtain ⟨m, rfl⟩ := Nat.dvd_of_mod_eq_zero heven
        have hm : m ≠ 0 := by omega
        have hhalf : 2 * m / 2 = m := by omega
        rw [trailingZeros_of_even hn heven, hhalf,
          Nat.mul_dvd_mul_iff_left (by decide), ih hm, Nat.succ_le_succ_iff]
      · rw [trailingZeros_of_odd hodd]
        refine iff_of_false (fun h ↦ ?_) (Nat.not_succ_le_zero k)
        have htwo : 2 ∣ n := Nat.dvd_trans (Nat.dvd_mul_right 2 _) h
        omega

theorem isZero_iff {a : Address} : a.isZero ↔ a.toNat = 0 := by
  rw [isZero, beq_iff_eq, toNat, ← UInt64.toNat_inj]
  rfl

theorem naturalAlignment_eq_none_iff {a : Address} :
    a.naturalAlignment = none ↔ a.toNat = 0 := by
  rw [← isZero_iff, naturalAlignment]
  split <;> simp_all

theorem naturalAlignment_value {x : Address} {a : Alignment}
    (h : x.naturalAlignment = some a) :
    a.value = 1 <<< trailingZeros x.toNat := by
  unfold naturalAlignment at h
  split at h
  · cases h
  · cases h
    rfl

theorem toNat_ne_zero_of_naturalAlignment {x : Address} {a : Alignment}
    (h : x.naturalAlignment = some a) : x.toNat ≠ 0 := by
  intro hzero
  rw [naturalAlignment_eq_none_iff.mpr hzero] at h
  cases h

/-- The natural alignment is the strictest alignment of the address. -/
theorem le_naturalAlignment_iff {x : Address} {a : Alignment} {n : Nat}
    (h : x.naturalAlignment = some a) (hn : n.isPowerOfTwo) :
    n ≤ a.value ↔ n ∣ x.toNat := by
  obtain ⟨k, rfl⟩ := hn
  rw [naturalAlignment_value h, Nat.one_shiftLeft,
    Nat.pow_le_pow_iff_right (by decide), ← Nat.one_shiftLeft,
    one_shiftLeft_dvd_iff (toNat_ne_zero_of_naturalAlignment h)]

theorem naturalAlignment_dvd {x : Address} {a : Alignment}
    (h : x.naturalAlignment = some a) : a.value ∣ x.toNat :=
  (le_naturalAlignment_iff h a.isPowerOfTwo).mp (Nat.le_refl _)

/-- The natural alignment is supported unless the address is a multiple of
the next power of two after the strictest alignment. -/
theorem supported_naturalAlignment_iff {x : Address} {a : Alignment}
    (h : x.naturalAlignment = some a) :
    a.Supported ↔ ¬ 0x40000000 ∣ x.toNat := by
  have hpow : 1 <<< 30 ∣ x.toNat ↔ 30 ≤ trailingZeros x.toNat :=
    one_shiftLeft_dvd_iff (toNat_ne_zero_of_naturalAlignment h)
  rw [Alignment.supported_iff_le, naturalAlignment_value h,
    one_shiftLeft_le_maxAlignment_iff, ← Nat.not_le, ← hpow]
  rfl

theorem exists_naturalAlignment {x : Address} (hx : x.toNat ≠ 0) :
    ∃ a, x.naturalAlignment = some a :=
  Option.ne_none_iff_exists'.mp (mt naturalAlignment_eq_none_iff.mp hx)

end Address

/-- Every way to an alignment but one gives alignments that storage types can
have, and that pass the check themselves: a checked number, a type whose
alignment is supported, the table, and its two ends.  The natural alignment of
an address is the exception, exactly at the multiples of 2^30; there the check
finds it too large. -/
theorem supported_unless_natural (n : Nat) (l : Layout) (x : Address) :
    (∀ a, Alignment.ofNat n = .ok a → Alignment.ofNat a.value = .ok a) ∧
    (l.align ≤ maxAlignment →
      Alignment.ofNat l.align = .ok ⟨l.align, l.align_isPowerOfTwo⟩) ∧
    (∀ a ∈ Alignment.all, Alignment.ofNat a.value = .ok a) ∧
    Alignment.ofNat Alignment.least.value = .ok Alignment.least ∧
    Alignment.ofNat Alignment.greatest.value = .ok Alignment.greatest ∧
    (x.naturalAlignment = none ↔ x.toNat = 0) ∧
    ∀ a, x.naturalAlignment = some a → a.value ∣ x.toNat ∧
      (Alignment.ofNat a.value = .ok a ↔ ¬ 0x40000000 ∣ x.toNat) ∧
      (Alignment.ofNat a.value = .error (.tooLarge a.value) ↔
        0x40000000 ∣ x.toNat) := by
  simp only [← Alignment.supported_iff_ofNat_eq_ok,
    Alignment.ofNat_value_eq_tooLarge_iff]
  refine ⟨fun a ↦ Alignment.supported_of_ofNat_eq_ok, ?_,
    fun a ↦ Alignment.mem_all_iff.mp, by decide, by decide,
    Address.naturalAlignment_eq_none_iff, ?_⟩
  · intro hle
    exact Alignment.ofNat_eq_ok_iff.mpr ⟨rfl, hle⟩
  · intro a ha
    have hsupported := Address.supported_naturalAlignment_iff ha
    refine ⟨Address.naturalAlignment_dvd ha, hsupported, ?_⟩
    rw [hsupported, Classical.not_not]

/-- The address 2^30 is its own natural alignment, one power of two past the
strictest alignment. -/
theorem naturalAlignment_tooLarge :
    ∃ a, (⟨0x40000000⟩ : Address).naturalAlignment = some a ∧
      Alignment.ofNat a.value = .error (.tooLarge 0x40000000) := by
  obtain ⟨a, ha⟩ :=
    Address.exists_naturalAlignment (x := ⟨0x40000000⟩) (by decide)
  have hle : a.value ≤ 0x40000000 :=
    Nat.le_of_dvd (by decide) (Address.naturalAlignment_dvd ha)
  have hge : 0x40000000 ≤ a.value :=
    (Address.le_naturalAlignment_iff ha ⟨30, rfl⟩).mpr (Nat.dvd_refl _)
  have hvalue : a.value = 0x40000000 := Nat.le_antisymm hle hge
  have hlarge : ¬ a.Supported := by
    rw [Alignment.supported_iff_le, hvalue]
    decide
  refine ⟨a, ha, ?_⟩
  rw [← hvalue]
  exact Alignment.ofNat_value_eq_tooLarge_iff.mpr hlarge

end AlignedStorage
