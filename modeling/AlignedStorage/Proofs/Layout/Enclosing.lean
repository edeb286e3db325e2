import AlignedStorage.Proofs.Rounding

/-!
# Demands and the layouts that answer them

A demand is a size at an alignment.  `Layout.enclose` answers it with the
padded layout, or with a fault when that layout is not addressable.  A
layout that carries only part of the padding meets the demand just as well:
uniting two outcomes that answer two demands always gives what `enclose`
gives for the larger size at the stricter alignment, faults included.
-/

namespace AlignedStorage

namespace Layout

theorem ofSizeAlign_eq_ok_iff {n a : Nat} {l : Layout} :
    ofSizeAlign n a = .ok l ↔ l.size = n ∧ l.align = a := by
  constructor
  · intro h
    unfold ofSizeAlign at h
    split at h
    · cases h
      exact ⟨rfl, rfl⟩
    · cases h
  · rintro ⟨rfl, rfl⟩
    exact dif_pos ⟨l.align_isPowerOfTwo, l.size_add_align_le⟩

theorem ofSizeAlign_eq_error_iff {n a : Nat} {e : LayoutError}
    (ha : a.isPowerOfTwo) :
    ofSizeAlign n a = .error e ↔ addressLimit < n + a := by
  cases e
  unfold ofSizeAlign
  split
  · rename_i h
    exact iff_of_false (fun heq ↦ by cases heq) (Nat.not_lt.mpr h.2)
  · rename_i h
    exact iff_of_true rfl (Nat.lt_of_not_le fun hle ↦ h ⟨ha, hle⟩)

/-- The padded layout of a size at an alignment. -/
def enclose (size align : Nat) : Except Fault Layout :=
  match ofSizeAlign size align with
  | .ok l => .ok l.padToAlign
  | .error _ => .error .unlayable

theorem unionWith_eq_enclose (l m : Layout) :
    l.unionWith m = enclose (max l.size m.size) (max l.align m.align) :=
  rfl

theorem enclose_eq_ok_iff {n a : Nat} {l : Layout} :
    enclose n a = .ok l ↔ l.size = roundUp n a ∧ l.align = a := by
  constructor
  · intro h
    unfold enclose at h
    split at h
    · rename_i m hm
      obtain ⟨rfl, rfl⟩ := ofSizeAlign_eq_ok_iff.mp hm
      cases h
      exact ⟨rfl, rfl⟩
    · cases h
  · rintro ⟨hsize, rfl⟩
    have hle : n + l.align ≤ addressLimit := by
      rw [← roundUp_add_le_addressLimit_iff l.align_isPowerOfTwo, ← hsize]
      exact l.size_add_align_le
    have hm : ofSizeAlign n l.align =
        .ok ⟨n, l.align, l.align_isPowerOfTwo, hle⟩ :=
      ofSizeAlign_eq_ok_iff.mpr ⟨rfl, rfl⟩
    simp only [enclose, hm, Except.ok.injEq]
    exact Layout.ext hsize.symm rfl

theorem enclose_eq_error_iff {n a : Nat} {f : Fault} (ha : a.isPowerOfTwo) :
    enclose n a = .error f ↔ addressLimit < n + a ∧ f = .unlayable := by
  unfold enclose
  cases h : ofSizeAlign n a with
  | ok l =>
      obtain ⟨rfl, rfl⟩ := ofSizeAlign_eq_ok_iff.mp h
      have hle := l.size_add_align_le
      simp only [reduceCtorEq, false_iff]
      omega
  | error e =>
      have hlt := (ofSizeAlign_eq_error_iff ha).mp h
      simp only [hlt, true_and, Except.error.injEq]
      exact eq_comm

theorem exists_enclose_eq_ok_iff {n a : Nat} (ha : a.isPowerOfTwo) :
    (∃ l, enclose n a = .ok l) ↔ n + a ≤ addressLimit := by
  constructor
  · rintro ⟨l, hl⟩
    obtain ⟨hsize, rfl⟩ := enclose_eq_ok_iff.mp hl
    rw [← roundUp_add_le_addressLimit_iff ha, ← hsize]
    exact l.size_add_align_le
  · intro h
    cases hl : enclose n a with
    | ok l => exact ⟨l, rfl⟩
    | error f =>
        have hlt := ((enclose_eq_error_iff ha).mp hl).1
        omega

theorem exists_unionWith_eq_ok_iff {l m : Layout} :
    (∃ k, l.unionWith m = .ok k) ↔
      max l.size m.size + max l.align m.align ≤ addressLimit := by
  rw [unionWith_eq_enclose]
  exact exists_enclose_eq_ok_iff
    (isPowerOfTwo_max l.align_isPowerOfTwo m.align_isPowerOfTwo)

theorem unionWith_eq_error_iff {l m : Layout} {f : Fault} :
    l.unionWith m = .error f ↔
      addressLimit < max l.size m.size + max l.align m.align ∧
        f = .unlayable := by
  rw [unionWith_eq_enclose]
  exact enclose_eq_error_iff
    (isPowerOfTwo_max l.align_isPowerOfTwo m.align_isPowerOfTwo)

/-- Demands that round to the same size are answered alike. -/
theorem enclose_congr {n m a : Nat} (ha : a.isPowerOfTwo)
    (h : roundUp n a = roundUp m a) : enclose n a = enclose m a := by
  cases hn : enclose n a with
  | ok l =>
      obtain ⟨hsize, halign⟩ := enclose_eq_ok_iff.mp hn
      exact (enclose_eq_ok_iff.mpr ⟨hsize.trans h, halign⟩).symm
  | error f =>
      obtain ⟨hlt, rfl⟩ := (enclose_eq_error_iff ha).mp hn
      have hm : addressLimit < m + a := by
        rw [← Nat.not_le, ← roundUp_add_le_addressLimit_iff ha] at hlt ⊢
        rwa [← h]
      exact ((enclose_eq_error_iff ha).mpr ⟨hm, rfl⟩).symm

/-- A layout of the alignment demanded whose size is the one demanded with
all, some or none of its padding. -/
structure Meets (l : Layout) (size align : Nat) : Prop where
  align_eq : l.align = align
  le_size : size ≤ l.size
  size_le : l.size ≤ roundUp size align

theorem meets_self (l : Layout) : l.Meets l.size l.align :=
  ⟨rfl, Nat.le_refl _, le_roundUp l.align_pos⟩

theorem meets_of_enclose_eq_ok {n a : Nat} {l : Layout}
    (h : enclose n a = .ok l) : l.Meets n a := by
  obtain ⟨hsize, rfl⟩ := enclose_eq_ok_iff.mp h
  exact ⟨rfl, hsize ▸ le_roundUp l.align_pos, Nat.le_of_eq hsize⟩

/-- Padding never reaches past the rounded size of a larger demand. -/
theorem Meets.size_le_roundUp {l : Layout} {n m a b : Nat} (hl : l.Meets n a)
    (hb : b.isPowerOfTwo) (hab : a ≤ b) (hnm : n ≤ m) :
    l.size ≤ roundUp m b := by
  obtain ⟨rfl, _, hsize⟩ := hl
  have hpos : 0 < b := Nat.pos_of_isPowerOfTwo hb
  have hdvd : l.align ∣ b :=
    dvd_of_isPowerOfTwo_of_le l.align_isPowerOfTwo hb hab
  calc
    l.size ≤ roundUp n l.align := hsize
    _ ≤ roundUp n b := roundUp_le_roundUp_of_dvd l.align_pos hpos hdvd
    _ ≤ roundUp m b := roundUp_mono hpos hnm

/-- What padding two layouts carry already is lost in that of their
union. -/
theorem Meets.unionWith_eq {l k : Layout} {n m a b : Nat} (hl : l.Meets n a)
    (hk : k.Meets m b) :
    l.unionWith k = enclose (max n m) (max a b) := by
  have hpow : (max a b).isPowerOfTwo :=
    isPowerOfTwo_max (hl.align_eq ▸ l.align_isPowerOfTwo)
      (hk.align_eq ▸ k.align_isPowerOfTwo)
  have hleft := hl.size_le_roundUp hpow (Nat.le_max_left a b)
    (Nat.le_max_left n m)
  have hright := hk.size_le_roundUp hpow (Nat.le_max_right a b)
    (Nat.le_max_right n m)
  have hsize : max n m ≤ max l.size k.size := by
    have hn := hl.le_size
    have hm := hk.le_size
    omega
  rw [unionWith_eq_enclose, hl.align_eq, hk.align_eq]
  -- The larger size lies between the demand and where the demand rounds to.
  apply enclose_congr hpow
  exact roundUp_eq_of_le_roundUp (Nat.pos_of_isPowerOfTwo hpow) hsize
    (Nat.max_le.mpr ⟨hleft, hright⟩)

/-- An outcome answers a demand with a layout that meets it, or with the
fault that no layout can. -/
inductive Answers : Except Fault Layout → Nat → Nat → Prop
  | layout {l : Layout} {n a : Nat} (h : l.Meets n a) : Answers (.ok l) n a
  | fault {n a : Nat} (ha : a.isPowerOfTwo) (h : addressLimit < n + a) :
      Answers (.error .unlayable) n a

theorem answers_enclose {n a : Nat} (ha : a.isPowerOfTwo) :
    Answers (enclose n a) n a := by
  cases h : enclose n a with
  | ok l => exact .layout (meets_of_enclose_eq_ok h)
  | error f =>
      obtain ⟨hlt, rfl⟩ := (enclose_eq_error_iff ha).mp h
      exact .fault ha hlt

theorem Answers.isPowerOfTwo {x : Except Fault Layout} {n a : Nat}
    (hx : Answers x n a) : a.isPowerOfTwo := by
  cases hx with
  | layout h => exact h.align_eq ▸ Layout.align_isPowerOfTwo _
  | fault ha _ => exact ha

/-- One union of two outcomes.  A fault on either side is one that the
united demand has as well, since neither size nor alignment shrinks. -/
theorem Answers.unionWith_eq {x y : Except Fault Layout} {n m a b : Nat}
    (hx : Answers x n a) (hy : Answers y m b) :
    (do let l ← x; let k ← y; l.unionWith k) =
      enclose (max n m) (max a b) := by
  have hpow := isPowerOfTwo_max hx.isPowerOfTwo hy.isPowerOfTwo
  cases hx with
  | layout hl =>
      cases hy with
      | layout hk => exact hl.unionWith_eq hk
      | fault _ hlt =>
          exact ((enclose_eq_error_iff hpow).mpr ⟨by omega, rfl⟩).symm
  | fault _ hlt =>
      exact ((enclose_eq_error_iff hpow).mpr ⟨by omega, rfl⟩).symm

end Layout

end AlignedStorage
