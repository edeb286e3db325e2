import AlignedStorage.Proofs.Rounding
import AlignedStorage.Storage.Shape

/-!
# The demand of a list of candidates

Candidates together demand their greatest size at their strictest alignment.
The demand of two lists is the larger of each, and regathering a list leaves
its demand as it is.
-/

namespace AlignedStorage

namespace Layout

@[simp] theorem maxSize_nil : maxSize [] = 0 := rfl

@[simp] theorem maxSize_cons (l : Layout) (ls : List Layout) :
    maxSize (l :: ls) = max l.size (maxSize ls) := rfl

@[simp] theorem maxAlign_nil : maxAlign [] = 1 := rfl

@[simp] theorem maxAlign_cons (l : Layout) (ls : List Layout) :
    maxAlign (l :: ls) = max l.align (maxAlign ls) := rfl

theorem maxSize_le_iff {ls : List Layout} {n : Nat} :
    maxSize ls ≤ n ↔ ∀ l ∈ ls, l.size ≤ n := by
  induction ls with
  | nil => simp
  | cons l ls ih => rw [maxSize_cons, Nat.max_le, ih, List.forall_mem_cons]

theorem maxAlign_le_iff {ls : List Layout} {a : Nat} (ha : 0 < a) :
    maxAlign ls ≤ a ↔ ∀ l ∈ ls, l.align ≤ a := by
  induction ls with
  | nil => simpa using Nat.succ_le_of_lt ha
  | cons l ls ih => rw [maxAlign_cons, Nat.max_le, ih, List.forall_mem_cons]

theorem isPowerOfTwo_maxAlign (ls : List Layout) :
    (maxAlign ls).isPowerOfTwo := by
  induction ls with
  | nil => exact Nat.isPowerOfTwo_one
  | cons l ls ih => exact isPowerOfTwo_max l.align_isPowerOfTwo ih

theorem maxAlign_pos (ls : List Layout) : 0 < maxAlign ls :=
  Nat.pos_of_isPowerOfTwo (isPowerOfTwo_maxAlign ls)

theorem maxAlign_le_addressLimit (ls : List Layout) :
    maxAlign ls ≤ addressLimit := by
  rw [maxAlign_le_iff (by decide)]
  intro l _
  have h := l.size_add_align_le
  omega

theorem maxSize_append (xs ys : List Layout) :
    maxSize (xs ++ ys) = max (maxSize xs) (maxSize ys) := by
  induction xs with
  | nil => simp
  | cons l xs ih => simp [ih, Nat.max_assoc]

theorem maxAlign_append (xs ys : List Layout) :
    maxAlign (xs ++ ys) = max (maxAlign xs) (maxAlign ys) := by
  induction xs with
  | nil =>
      have h := maxAlign_pos ys
      simp only [List.nil_append, maxAlign_nil]
      omega
  | cons l xs ih => simp [ih, Nat.max_assoc]

/-! ## Regathering a list -/

/-- The lists got from one list by any number of reorderings, repetitions of
elements and insertions of fillers. -/
inductive Regathered (ls : List Layout) : List Layout → Prop
  | same : Regathered ls ls
  | perm {ms ns : List Layout} (h : Regathered ls ms) (hperm : ms.Perm ns) :
      Regathered ls ns
  | again {ms : List Layout} {l : Layout} (h : Regathered ls ms)
      (hl : l ∈ ms) : Regathered ls (l :: ms)
  | fill {ms : List Layout} (h : Regathered ls ms) :
      Regathered ls (filler :: ms)

theorem size_le_maxSize {ls : List Layout} {l : Layout} (hl : l ∈ ls) :
    l.size ≤ maxSize ls :=
  maxSize_le_iff.mp (Nat.le_refl _) l hl

theorem align_le_maxAlign {ls : List Layout} {l : Layout} (hl : l ∈ ls) :
    l.align ≤ maxAlign ls :=
  (maxAlign_le_iff (maxAlign_pos ls)).mp (Nat.le_refl _) l hl

theorem maxSize_eq_of_perm {ms ns : List Layout} (h : ms.Perm ns) :
    maxSize ms = maxSize ns := by
  apply Nat.le_antisymm
  · exact maxSize_le_iff.mpr fun l hl ↦ size_le_maxSize (h.mem_iff.mp hl)
  · exact maxSize_le_iff.mpr fun l hl ↦ size_le_maxSize (h.mem_iff.mpr hl)

theorem maxAlign_eq_of_perm {ms ns : List Layout} (h : ms.Perm ns) :
    maxAlign ms = maxAlign ns := by
  apply Nat.le_antisymm
  · exact (maxAlign_le_iff (maxAlign_pos ns)).mpr fun l hl ↦
      align_le_maxAlign (h.mem_iff.mp hl)
  · exact (maxAlign_le_iff (maxAlign_pos ms)).mpr fun l hl ↦
      align_le_maxAlign (h.mem_iff.mpr hl)

theorem Regathered.demand_eq {ls ms : List Layout} (h : Regathered ls ms) :
    maxSize ms = maxSize ls ∧ maxAlign ms = maxAlign ls := by
  induction h with
  | same => exact ⟨rfl, rfl⟩
  | perm _ hperm ih =>
      rw [← maxSize_eq_of_perm hperm, ← maxAlign_eq_of_perm hperm]
      exact ih
  | again _ hl ih =>
      rw [maxSize_cons, maxAlign_cons, Nat.max_eq_right (size_le_maxSize hl),
        Nat.max_eq_right (align_le_maxAlign hl)]
      exact ih
  | @fill ms _ ih =>
      have hsize : filler.size ≤ maxSize ms := Nat.zero_le _
      have halign : filler.align ≤ maxAlign ms := maxAlign_pos ms
      rw [maxSize_cons, maxAlign_cons, Nat.max_eq_right hsize,
        Nat.max_eq_right halign]
      exact ih

theorem Regathered.length_le {ls ms : List Layout} (h : Regathered ls ms) :
    ls.length ≤ ms.length := by
  induction h with
  | same => exact Nat.le_refl _
  | perm _ hperm ih => exact hperm.length_eq ▸ ih
  | again _ _ ih => exact Nat.le_succ_of_le ih
  | fill _ ih => exact Nat.le_succ_of_le ih

/-- The free slots of a union type change nothing about the demand. -/
theorem regathered_slots (ls : List Layout) :
    Regathered ls (Shape.slots ls) := by
  unfold Shape.slots
  induction maxCandidates - ls.length with
  | zero => simpa using Regathered.same
  | succ n ih => exact .perm (.fill ih) List.perm_middle.symm

end Layout

end AlignedStorage
