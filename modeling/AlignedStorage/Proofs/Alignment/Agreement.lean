import AlignedStorage.Proofs.Address.Masks
import AlignedStorage.Proofs.Address.NaturalAlignment

/-!
# Encodings of an alignment

A supported alignment is written down in several ways: as a number that
passes the check, as an entry of the table, as an exponent, and as the mask of
an address.  They all describe the same number, and a number that is refused
by one of them is refused by the others.
-/

namespace AlignedStorage

theorem one_shiftLeft_mem_supportedAlignments_iff {k : Nat} :
    1 <<< k ∈ supportedAlignments ↔ k < 30 := by
  rw [mem_supportedAlignments_iff, one_shiftLeft_le_maxAlignment_iff,
    and_iff_right ⟨k, Nat.one_shiftLeft k⟩]

/-- The entries of the table stand at their exponents. -/
theorem getElem?_supportedAlignments {k : Nat} (hk : k < 30) :
    supportedAlignments[k]? = some (1 <<< k) := by
  rw [supportedAlignments_eq, List.getElem?_map,
    List.getElem?_eq_getElem (by simpa using hk), List.getElem_range]
  rfl

theorem exists_selectArchetype_eq_ok_iff {n : Nat} :
    (∃ k, selectArchetype n = .ok k) ↔ n ∈ supportedAlignments := by
  have hfind : (archetype? n).isSome ↔ n ∈ supportedAlignments := by
    simp [archetype?, supportedAlignments]
  rw [← hfind, selectArchetype]
  cases archetype? n <;> simp

namespace Address

theorem trailingZeros_one_shiftLeft (k : Nat) :
    trailingZeros (1 <<< k) = k := by
  have hne : 1 <<< k ≠ 0 := by
    rw [Nat.one_shiftLeft]
    exact Nat.ne_of_gt (Nat.two_pow_pos k)
  have hge : k ≤ trailingZeros (1 <<< k) :=
    (one_shiftLeft_dvd_iff hne).mp (Nat.dvd_refl _)
  have hdvd : 1 <<< trailingZeros (1 <<< k) ∣ 1 <<< k :=
    (one_shiftLeft_dvd_iff hne).mpr (Nat.le_refl _)
  rw [Nat.one_shiftLeft, Nat.one_shiftLeft k] at hdvd
  have hle : trailingZeros (2 ^ k) ≤ k :=
    (Nat.pow_dvd_pow_iff_le_right (by decide)).mp hdvd
  rw [Nat.one_shiftLeft] at hge ⊢
  exact Nat.le_antisymm hle hge

end Address

namespace Alignment

/-! ## The check -/

/-- What the check says of a number, and why. -/
inductive Verdict (n : Nat) : Except AlignmentError Alignment → Prop
  | supported (a : Alignment) (hvalue : a.value = n)
      (hmem : n ∈ supportedAlignments) : Verdict n (.ok a)
  | zero (hzero : n = 0) : Verdict n (.error .zero)
  | tooLarge (hpow : n.isPowerOfTwo) (hlt : maxAlignment < n) :
      Verdict n (.error (.tooLarge n))
  | notPowerOfTwo (hne : n ≠ 0) (hpow : ¬ n.isPowerOfTwo) :
      Verdict n (.error (.notPowerOfTwo n))

theorem verdict_ofNat (n : Nat) : Verdict n (ofNat n) := by
  unfold ofNat
  split
  · exact .zero ‹_›
  · split
    · rename_i hpow
      split
      · rename_i hle
        exact .supported _ rfl (mem_supportedAlignments_iff.mpr ⟨hpow, hle⟩)
      · rename_i hlt
        exact .tooLarge hpow (Nat.lt_of_not_le hlt)
    · exact .notPowerOfTwo ‹_› ‹_›

theorem not_isPowerOfTwo_zero : ¬ Nat.isPowerOfTwo 0 := by
  intro h
  exact Nat.lt_irrefl 0 (Nat.pos_of_isPowerOfTwo h)

section

variable {n : Nat} {x : Except AlignmentError Alignment}

theorem Verdict.exists_ok_iff (h : Verdict n x) :
    (∃ a, x = .ok a) ↔ n ∈ supportedAlignments := by
  have hmem := mem_supportedAlignments_iff (n := n)
  cases h with
  | supported a hvalue hn => exact iff_of_true ⟨a, rfl⟩ hn
  | zero hzero =>
      subst hzero
      simp [hmem, not_isPowerOfTwo_zero]
  | tooLarge hpow hlt => simp [hmem, hlt]
  | notPowerOfTwo hne hpow => simp [hmem, hpow]

theorem Verdict.zero_iff (h : Verdict n x) : x = .error .zero ↔ n = 0 := by
  cases h with
  | supported a hvalue hn =>
      subst hvalue
      simp [Nat.ne_of_gt a.value_pos]
  | zero hzero => simp [hzero]
  | tooLarge hpow hlt => simp [Nat.ne_of_gt (Nat.pos_of_isPowerOfTwo hpow)]
  | notPowerOfTwo hne hpow => simp [hne]

theorem Verdict.tooLarge_iff (h : Verdict n x) :
    x = .error (.tooLarge n) ↔ n.isPowerOfTwo ∧ maxAlignment < n := by
  cases h with
  | supported a hvalue hn => simp [(mem_supportedAlignments_iff.mp hn).2]
  | zero hzero => simp [hzero]
  | tooLarge hpow hlt => simp [hpow, hlt]
  | notPowerOfTwo hne hpow => simp [hpow]

theorem Verdict.notPowerOfTwo_iff (h : Verdict n x) :
    x = .error (.notPowerOfTwo n) ↔
      n ∉ supportedAlignments ∧ n ≠ 0 ∧
        ¬ (n.isPowerOfTwo ∧ maxAlignment < n) := by
  rw [← h.exists_ok_iff, Ne, ← h.zero_iff, ← h.tooLarge_iff]
  cases h <;> simp

end

/-! ## The entries -/

theorem value_eq_one_shiftLeft_log2 (a : Alignment) :
    a.value = 1 <<< a.log2 := by
  obtain ⟨k, hk⟩ := a.isPowerOfTwo
  rw [log2, hk, Nat.log2_two_pow, Nat.one_shiftLeft]

theorem log2_lt_thirty {a : Alignment} (h : a.Supported) : a.log2 < 30 := by
  rw [Supported, value_eq_one_shiftLeft_log2] at h
  exact one_shiftLeft_mem_supportedAlignments_iff.mp h

theorem map_value_all : all.map value = supportedAlignments := by
  decide

theorem pairwise_all : all.Pairwise fun a b ↦ a.value < b.value := by
  have hsorted : supportedAlignments.Pairwise (· < ·) := by decide
  rw [← map_value_all] at hsorted
  exact List.pairwise_map.mp hsorted

/-- Every supported alignment is listed once. -/
theorem count_all {a : Alignment} (h : a.Supported) : all.count a = 1 := by
  have hnodup : all.Nodup := by
    rw [List.nodup_iff_pairwise_ne]
    refine pairwise_all.imp fun hlt ↦ ?_
    rintro rfl
    exact Nat.lt_irrefl _ hlt
  rw [hnodup.count, if_pos (mem_all_iff.mpr h)]

/-! ## The mask -/

section

variable {a : Alignment} (ha : a.Supported)

include ha

theorem toNat_ofNat_value : (UInt64.ofNat a.value).toNat = a.value := by
  have hle := supported_iff_le.mp ha
  exact UInt64.toNat_ofNat_of_lt' (Nat.lt_of_le_of_lt hle (by decide))

theorem isPowerOfTwo_toNat_ofNat_value :
    (UInt64.ofNat a.value).toNat.isPowerOfTwo := by
  rw [toNat_ofNat_value ha]
  exact a.isPowerOfTwo

theorem ofNat_mask : UInt64.ofNat a.mask = UInt64.ofNat a.value - 1 := by
  have hpow := isPowerOfTwo_toNat_ofNat_value ha
  have hvalue := toNat_ofNat_value ha
  have hmask : a.mask < UInt64.size := by
    have hlt := (UInt64.ofNat a.value).toNat_lt
    rw [hvalue] at hlt
    exact Nat.lt_of_le_of_lt (Nat.sub_le a.value 1) hlt
  rw [← UInt64.toNat_inj, UInt64.toNat_ofNat_of_lt' hmask,
    Address.toNat_sub_one hpow, hvalue, mask]

theorem and_mask_eq_mod (x : Address) :
    x.word &&& UInt64.ofNat a.mask = x.word % UInt64.ofNat a.value := by
  rw [ofNat_mask ha]
  exact Address.and_sub_one_eq_mod (isPowerOfTwo_toNat_ofNat_value ha) x.word

theorem isAlignedTo_eq_mask (x : Address) :
    x.isAlignedTo (UInt64.ofNat a.value) =
      .ok (decide (x.word &&& UInt64.ofNat a.mask = 0)) := by
  rw [Address.isAlignedTo_eq_ok (isPowerOfTwo_toNat_ofNat_value ha),
    ofNat_mask ha]
  rfl

/-- Rounding an address down is a shift by the exponent and back. -/
theorem alignDown_eq_shift (x : Address) :
    x.alignDown (UInt64.ofNat a.value) =
      .ok ⟨(x.word >>> UInt64.ofNat a.log2) <<< UInt64.ofNat a.log2⟩ := by
  have hpow := isPowerOfTwo_toNat_ofNat_value ha
  have hlog := log2_lt_thirty ha
  have hshift : (UInt64.ofNat a.log2).toNat = a.log2 :=
    UInt64.toNat_ofNat_of_lt' (Nat.lt_trans hlog (by decide))
  have hword : x.word &&& ~~~(UInt64.ofNat a.value - 1) =
      (x.word >>> UInt64.ofNat a.log2) <<< UInt64.ofNat a.log2 := by
    rw [← UInt64.toNat_inj, Address.toNat_and_not_sub_one hpow,
      Address.toNat_shiftRight_shiftLeft (by omega), hshift,
      toNat_ofNat_value ha, ← value_eq_one_shiftLeft_log2]
  rw [Address.alignDown_eq_ok hpow, hword]

end

/-- The check of a number, the table and the types that carry an alignment
accept the same numbers, and every other number has one reason against it.
An accepted alignment stands in the table at its exponent, which is the count
of its zero bits; it is listed once, in ascending order; and its mask and its
exponent do to any address what division by it does. -/
theorem check_table_bits_agree (n : Nat) :
    ((∃ a, ofNat n = .ok a) ↔ n ∈ supportedAlignments) ∧
    ((∃ k, selectArchetype n = .ok k) ↔ n ∈ supportedAlignments) ∧
    (ofNat n = .error .zero ↔ n = 0) ∧
    (ofNat n = .error (.tooLarge n) ↔ n.isPowerOfTwo ∧ 0x20000000 < n) ∧
    (ofNat n = .error (.notPowerOfTwo n) ↔
      n ∉ supportedAlignments ∧ n ≠ 0 ∧
        ¬ (n.isPowerOfTwo ∧ 0x20000000 < n)) ∧
    all.Pairwise (fun a b ↦ a.value < b.value) ∧
    ∀ a, ofNat n = .ok a →
      a.value = n ∧ supportedAlignments[a.log2]? = some a.value ∧
      a.value = 1 <<< a.log2 ∧ a.log2 = Address.trailingZeros a.value ∧
      all.count a = 1 ∧
      ∀ x : Address,
        x.word &&& UInt64.ofNat a.mask = x.word % UInt64.ofNat a.value ∧
        x.isAlignedTo (UInt64.ofNat a.value) =
          .ok (decide (x.word &&& UInt64.ofNat a.mask = 0)) ∧
        x.alignDown (UInt64.ofNat a.value) =
          .ok ⟨(x.word >>> UInt64.ofNat a.log2) <<<
            UInt64.ofNat a.log2⟩ := by
  have hverdict := verdict_ofNat n
  refine ⟨hverdict.exists_ok_iff, exists_selectArchetype_eq_ok_iff,
    hverdict.zero_iff, hverdict.tooLarge_iff, hverdict.notPowerOfTwo_iff,
    pairwise_all, fun a ha ↦ ?_⟩
  have hsupported := supported_of_ofNat_eq_ok ha
  have hvalue := value_eq_one_shiftLeft_log2 a
  refine ⟨(ofNat_eq_ok_iff.mp ha).1, ?_, hvalue, ?_, count_all hsupported,
    fun x ↦ ⟨and_mask_eq_mod hsupported x, isAlignedTo_eq_mask hsupported x,
      alignDown_eq_shift hsupported x⟩⟩
  · rw [getElem?_supportedAlignments (log2_lt_thirty hsupported), ← hvalue]
  · calc
      a.log2 = Address.trailingZeros (1 <<< a.log2) :=
        (Address.trailingZeros_one_shiftLeft a.log2).symm
      _ = Address.trailingZeros a.value := by rw [← hvalue]

/-- The alignment of a memory page of 4096 bytes. -/
def page : Alignment :=
  ⟨4096, 12, rfl⟩

/-- The address 0x12345 lies 0x345 bytes behind the start of its page. -/
theorem page_bits :
    ofNat 4096 = .ok page ∧ supportedAlignments[12]? = some 4096 ∧
      all.count page = 1 ∧
      (0x12345 : UInt64) &&& 4095 = 0x345 ∧
      (⟨0x12345⟩ : Address).isAlignedTo 4096 = .ok false ∧
      (⟨0x12345⟩ : Address).alignDown 4096 = .ok ⟨0x12000⟩ := by
  have hpage : ofNat 4096 = .ok page :=
    ofNat_eq_ok_iff.mpr ⟨rfl, by decide⟩
  obtain ⟨_, _, _, _, _, _, haccepted⟩ := check_table_bits_agree 4096
  obtain ⟨_, hentry, _, _, hcount, hbits⟩ := haccepted page hpage
  have hlog : page.log2 = 12 := by decide
  obtain ⟨hmask, haligned, hdown⟩ := hbits ⟨0x12345⟩
  rw [hlog] at hentry
  exact ⟨hpage, hentry, hcount, hmask, haligned, hdown⟩

end Alignment

end AlignedStorage
