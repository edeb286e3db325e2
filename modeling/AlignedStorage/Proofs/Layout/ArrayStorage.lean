import AlignedStorage.Proofs.Layout.Enclosing

/-!
# Layouts of array storage

Storage of a supported alignment has the padded layout of its size, and is
refused for its size exactly when that layout is not addressable.
-/

namespace AlignedStorage

theorem Alignment.ofNat_eq_ok_iff {n : Nat} {a : Alignment} :
    Alignment.ofNat n = .ok a ↔ a.value = n ∧ n ≤ maxAlignment := by
  constructor
  · intro h
    unfold Alignment.ofNat at h
    split at h
    · cases h
    · split at h
      · split at h
        · rename_i hle
          cases h
          exact ⟨rfl, hle⟩
        · cases h
      · cases h
  · rintro ⟨rfl, hle⟩
    have hpos : ¬ a.value = 0 := Nat.ne_of_gt a.value_pos
    simp only [Alignment.ofNat, hpos, ↓reduceIte, a.isPowerOfTwo, ↓reduceDIte,
      hle]

/-- Array storage of a supported alignment is laid out like any padded
layout; only the fault has another name. -/
theorem storageLayout_eq_enclose {align size : Nat}
    (ha : align.isPowerOfTwo) (hle : align ≤ maxAlignment) :
    storageLayout align size =
      (Layout.enclose size align).mapError fun _ ↦ .sizeOverflow size := by
  have halign : Alignment.ofNat align = .ok ⟨align, ha⟩ :=
    Alignment.ofNat_eq_ok_iff.mpr ⟨rfl, hle⟩
  simp only [storageLayout, halign, Layout.enclose]
  cases Layout.ofSizeAlign size align <;> rfl

theorem storageLayout_eq_ok_iff {align size : Nat} {l : Layout}
    (ha : align.isPowerOfTwo) (hle : align ≤ maxAlignment) :
    storageLayout align size = .ok l ↔ Layout.enclose size align = .ok l := by
  rw [storageLayout_eq_enclose ha hle]
  cases Layout.enclose size align with
  | ok k =>
      constructor <;> intro h <;> cases h <;> rfl
  | error f =>
      constructor <;> intro h <;> cases h

theorem storageLayout_eq_sizeOverflow_iff {align size : Nat}
    (ha : align.isPowerOfTwo) (hle : align ≤ maxAlignment) :
    storageLayout align size = .error (.sizeOverflow size) ↔
      addressLimit < size + align := by
  rw [storageLayout_eq_enclose ha hle]
  cases h : Layout.enclose size align with
  | ok l =>
      have hfit := (Layout.exists_enclose_eq_ok_iff ha).mp ⟨l, h⟩
      exact iff_of_false (fun heq ↦ by cases heq) (Nat.not_lt.mpr hfit)
  | error f =>
      exact iff_of_true rfl ((Layout.enclose_eq_error_iff ha).mp h).1

end AlignedStorage
