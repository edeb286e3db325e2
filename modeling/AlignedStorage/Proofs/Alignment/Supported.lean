import AlignedStorage.Proofs.Layout.ArrayStorage

/-!
# Supported alignments

The table of archetypes and the check of a number describe the same set, the
powers of two up to the strictest alignment.  An alignment is in the set
exactly when its number passes the check and gives it back.
-/

namespace AlignedStorage

theorem supportedAlignments_eq :
    supportedAlignments = (List.range 30).map (1 <<< ·) := by
  decide

theorem one_shiftLeft_le_maxAlignment_iff {k : Nat} :
    1 <<< k ≤ maxAlignment ↔ k < 30 := by
  have hmax : maxAlignment = 2 ^ 29 := by decide
  rw [Nat.one_shiftLeft, hmax, Nat.pow_le_pow_iff_right (by decide)]
  omega

/-- The archetypes carry the powers of two up to the strictest alignment. -/
theorem mem_supportedAlignments_iff {n : Nat} :
    n ∈ supportedAlignments ↔ n.isPowerOfTwo ∧ n ≤ maxAlignment := by
  rw [supportedAlignments_eq, List.mem_map]
  constructor
  · rintro ⟨k, hk, rfl⟩
    exact ⟨⟨k, Nat.one_shiftLeft k⟩,
      one_shiftLeft_le_maxAlignment_iff.mpr (List.mem_range.mp hk)⟩
  · rintro ⟨⟨k, rfl⟩, hle⟩
    rw [← Nat.one_shiftLeft] at hle ⊢
    exact ⟨k, List.mem_range.mpr (one_shiftLeft_le_maxAlignment_iff.mp hle),
      rfl⟩

namespace Alignment

/-- An alignment that storage types can have. -/
def Supported (a : Alignment) : Prop :=
  a.value ∈ supportedAlignments

instance (a : Alignment) : Decidable a.Supported :=
  inferInstanceAs (Decidable (_ ∈ _))

theorem supported_iff_le {a : Alignment} :
    a.Supported ↔ a.value ≤ maxAlignment := by
  rw [Supported, mem_supportedAlignments_iff, and_iff_right a.isPowerOfTwo]

theorem supported_iff_ofNat_eq_ok {a : Alignment} :
    a.Supported ↔ ofNat a.value = .ok a := by
  rw [supported_iff_le, ofNat_eq_ok_iff, and_iff_right rfl]

theorem supported_of_ofNat_eq_ok {n : Nat} {a : Alignment}
    (h : ofNat n = .ok a) : a.Supported := by
  obtain ⟨rfl, hle⟩ := ofNat_eq_ok_iff.mp h
  exact supported_iff_le.mpr hle

theorem ofNat_value_eq_tooLarge_iff {a : Alignment} :
    ofNat a.value = .error (.tooLarge a.value) ↔ ¬ a.Supported := by
  have hpos : ¬ a.value = 0 := Nat.ne_of_gt a.value_pos
  rw [supported_iff_le]
  simp only [ofNat, hpos, ↓reduceIte, a.isPowerOfTwo, ↓reduceDIte]
  split <;> simp_all

theorem mem_all_iff {a : Alignment} : a ∈ all ↔ a.Supported := by
  rw [all, List.mem_filterMap]
  constructor
  · rintro ⟨n, hn, ha⟩
    split at ha
    · cases ha
      exact hn
    · cases ha
  · intro h
    exact ⟨a.value, h, dif_pos a.isPowerOfTwo⟩

end Alignment

end AlignedStorage
