import AlignedStorage.Proofs.Candidate.Union

/-!
# Outcomes of unions of texts

The texts are counted first, then all of them are read, and only then are
their layouts united.  Each outcome has its exact condition.
-/

namespace AlignedStorage

/-- The error of the first text in a list that is no candidate. -/
def FirstError (texts : List String) (e : CandidateError) : Prop :=
  ∃ before text after, texts = before ++ text :: after ∧
    (∀ t ∈ before, ∃ l, parseCandidate t = .ok l) ∧
    parseCandidate text = .error e

theorem not_firstError_nil (e : CandidateError) : ¬ FirstError [] e := by
  rintro ⟨before, text, after, h, _⟩
  simp at h

theorem firstError_cons_of_error {text : String} {texts : List String}
    {e f : CandidateError} (h : parseCandidate text = .error f) :
    FirstError (text :: texts) e ↔ f = e := by
  constructor
  · rintro ⟨before, bad, after, heq, hbefore, hbad⟩
    cases before with
    | nil =>
        cases heq
        exact Except.error.inj (h.symm.trans hbad)
    | cons t before =>
        cases heq
        obtain ⟨l, hl⟩ := hbefore text List.mem_cons_self
        cases h.symm.trans hl
  · rintro rfl
    exact ⟨[], text, texts, rfl, fun _ ht ↦ (List.not_mem_nil ht).elim, h⟩

theorem firstError_cons_of_ok {text : String} {texts : List String}
    {e : CandidateError} {l : Layout} (h : parseCandidate text = .ok l) :
    FirstError (text :: texts) e ↔ FirstError texts e := by
  constructor
  · rintro ⟨before, bad, after, heq, hbefore, hbad⟩
    cases before with
    | nil =>
        cases heq
        cases h.symm.trans hbad
    | cons t before =>
        cases heq
        exact ⟨before, bad, after, rfl,
          fun t ht ↦ hbefore t (List.mem_cons_of_mem _ ht), hbad⟩
  · rintro ⟨before, bad, after, rfl, hbefore, hbad⟩
    exact ⟨text :: before, bad, after, rfl,
      List.forall_mem_cons.mpr ⟨⟨l, h⟩, hbefore⟩, hbad⟩

theorem parseCandidates_eq_error_iff {texts : List String}
    {e : CandidateError} :
    parseCandidates texts = .error e ↔ FirstError texts e := by
  induction texts with
  | nil => simp [parseCandidates, not_firstError_nil]
  | cons text texts ih =>
      cases h : parseCandidate text with
      | error f =>
          rw [firstError_cons_of_error h]
          simp only [parseCandidates, h, Except.error.injEq]
      | ok l =>
          rw [firstError_cons_of_ok h, ← ih]
          cases hrest : parseCandidates texts with
          | error f => simp only [parseCandidates, h, hrest]
          | ok ls => simp [parseCandidates, h, hrest]

/-! ## Unions of texts -/

/-- What a union of texts comes to, in the order of its checks. -/
inductive UnionOutcome (texts : List String) : Except UnionError Layout → Prop
  | tooMany (h : candidateLimit < texts.length) :
      UnionOutcome texts (.error (.tooMany texts.length))
  | candidate {e : CandidateError} (h : texts.length ≤ candidateLimit)
      (hfirst : FirstError texts e) :
      UnionOutcome texts (.error (.candidate e))
  | fault {ls : List Layout} {f : Fault} (h : texts.length ≤ candidateLimit)
      (hparse : parseCandidates texts = .ok ls)
      (hunion : Layout.union ls = .error f) :
      UnionOutcome texts (.error (.fault f))
  | ok {ls : List Layout} {u : Layout} (h : texts.length ≤ candidateLimit)
      (hparse : parseCandidates texts = .ok ls)
      (hunion : Layout.union ls = .ok u) :
      UnionOutcome texts (.ok u)

section

variable {texts : List String}

theorem unionOutcome_unionOf (texts : List String) :
    UnionOutcome texts (unionOf texts) := by
  unfold unionOf
  split
  · rename_i hle
    split
    · rename_i e hparse
      exact .candidate hle (parseCandidates_eq_error_iff.mp hparse)
    · rename_i ls hparse
      split
      · rename_i f hunion
        exact .fault hle hparse hunion
      · rename_i u hunion
        exact .ok hle hparse hunion
  · rename_i hlt
    exact .tooMany (Nat.not_le.mp hlt)

/-- The checks leave a union of texts no other outcome. -/
theorem unionOf_eq_iff {outcome : Except UnionError Layout} :
    unionOf texts = outcome ↔ UnionOutcome texts outcome := by
  constructor
  · rintro rfl
    exact unionOutcome_unionOf texts
  · intro h
    cases h with
    | tooMany h => exact if_neg (Nat.not_le.mpr h)
    | candidate h hfirst =>
        have hparse := parseCandidates_eq_error_iff.mpr hfirst
        simp only [unionOf, h, ↓reduceIte, hparse]
    | fault h hparse hunion
    | ok h hparse hunion =>
        simp only [unionOf, h, ↓reduceIte, hparse, hunion]

/-- The texts are counted before any of them is read. -/
theorem unionOf_eq_tooMany_iff {n : Nat} :
    unionOf texts = .error (.tooMany n) ↔
      candidateLimit < texts.length ∧ texts.length = n := by
  rw [unionOf_eq_iff]
  constructor
  · intro h
    cases h with
    | tooMany h => exact ⟨h, rfl⟩
  · rintro ⟨h, rfl⟩
    exact .tooMany h

/-- All texts are read before any layouts are united. -/
theorem unionOf_eq_candidate_iff {e : CandidateError} :
    unionOf texts = .error (.candidate e) ↔
      texts.length ≤ candidateLimit ∧ FirstError texts e := by
  rw [unionOf_eq_iff]
  constructor
  · intro h
    cases h with
    | candidate h hfirst => exact ⟨h, hfirst⟩
  · rintro ⟨h, hfirst⟩
    exact .candidate h hfirst

theorem unionOf_eq_ok_iff {u : Layout} :
    unionOf texts = .ok u ↔
      texts.length ≤ candidateLimit ∧
        ∃ ls, parseCandidates texts = .ok ls ∧ Layout.union ls = .ok u := by
  rw [unionOf_eq_iff]
  constructor
  · intro h
    cases h with
    | ok h hparse hunion => exact ⟨h, _, hparse, hunion⟩
  · rintro ⟨h, ls, hparse, hunion⟩
    exact .ok h hparse hunion

end

end AlignedStorage
