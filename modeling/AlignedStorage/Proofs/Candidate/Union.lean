import AlignedStorage.Candidate
import AlignedStorage.Proofs.Layout.Union
import Mathlib.Data.List.Forall2

/-!
# Faults of unions

The larger size and the stricter alignment of two valid layouts need not make
a valid layout when they come from different sides.  A union of two layouts,
and one of candidate texts, ends in a fault exactly then.
-/

namespace AlignedStorage

/-- All texts are read one by one, or there is an error. -/
theorem parseCandidates_eq_ok_iff {texts : List String} {ls : List Layout} :
    parseCandidates texts = .ok ls ↔
      List.Forall₂ (fun text l ↦ parseCandidate text = .ok l) texts ls := by
  induction texts generalizing ls with
  | nil =>
      rw [parseCandidates, List.forall₂_nil_left_iff, Except.ok.injEq, eq_comm]
  | cons text texts ih =>
      constructor
      · intro h
        unfold parseCandidates at h
        split at h
        · cases h
        · rename_i l hl
          split at h
          · cases h
          · rename_i rest hrest
            cases h
            exact .cons hl (ih.mp hrest)
      · intro h
        cases h with
        | cons hl hrest => simp only [parseCandidates, hl, ih.mpr hrest]

theorem unionOf_eq_fault_iff {texts : List String} {f : Fault} :
    unionOf texts = .error (.fault f) ↔
      texts.length ≤ candidateLimit ∧
        ∃ ls, parseCandidates texts = .ok ls ∧ Layout.union ls = .error f := by
  unfold unionOf
  by_cases hlength : texts.length ≤ candidateLimit
  · simp only [hlength, ↓reduceIte, true_and]
    cases parseCandidates texts with
    | error e => simp
    | ok ls => cases h : Layout.union ls <;> simp [h]
  · simp [hlength]

/-- Two layouts can be united exactly when the larger size and the stricter
alignment are addressable together, and candidate texts that are few enough
and all read end in a fault exactly when their greatest size and strictest
alignment are not. -/
theorem unionWith_unionOf_fault_iff (l m : Layout) (texts : List String) :
    ((∃ k, l.unionWith m = .ok k) ↔
      max l.size m.size + max l.align m.align ≤ addressLimit) ∧
    (∀ f, l.unionWith m = .error f ↔
      addressLimit < max l.size m.size + max l.align m.align ∧
        f = .unlayable) ∧
    (∀ f, unionOf texts = .error (.fault f) ↔
      texts.length ≤ candidateLimit ∧ f = .unlayable ∧
      ∃ ls,
        List.Forall₂ (fun text l ↦ parseCandidate text = .ok l) texts ls ∧
        addressLimit < Layout.maxSize ls + Layout.maxAlign ls) := by
  refine ⟨Layout.exists_unionWith_eq_ok_iff,
    fun f ↦ Layout.unionWith_eq_error_iff, fun f ↦ ?_⟩
  simp only [unionOf_eq_fault_iff, parseCandidates_eq_ok_iff,
    Layout.union_eq_error_iff]
  constructor
  · rintro ⟨hlength, ls, hls, hlt, hf⟩
    exact ⟨hlength, hf, ls, hls, hlt⟩
  · rintro ⟨hlength, hf, ls, hls, hlt⟩
    exact ⟨hlength, ls, hls, hlt, hf⟩

/-- A byte-aligned layout of the greatest size and a single byte at a
multiple of eight are valid, but no layout has room for either of them. -/
theorem unionWith_unlayable :
    Layout.unionWith
        ⟨0x7fffffffffffffff, 1, Nat.isPowerOfTwo_one, by decide⟩
        ⟨1, 8, ⟨3, rfl⟩, by decide⟩ = .error .unlayable ∧
      unionOf ["9223372036854775807:1", "1:8"] =
        .error (.fault .unlayable) := by
  constructor
  · rfl
  · decide

end AlignedStorage
