import AlignedStorage.Proofs.Candidate.Outcome
import AlignedStorage.Report.Storage

/-!
# How storage reports end

A report prints one line on the storage and one on the union, each as soon as
it is known.  So what is printed tells how far the checks went: nothing
without storage, one line without a union.  Each ending has its exact
condition.
-/

namespace AlignedStorage

theorem UnionError.reportEnd_injective :
    Function.Injective UnionError.reportEnd := by
  intro e f h
  cases e <;> cases f <;> cases h <;> rfl

theorem UnionError.reportEnd_ne_complete (e : UnionError) :
    e.reportEnd ≠ .complete := by
  cases e <;> nofun

theorem chain_tooManyCandidates (count : Nat) :
    (ReportError.tooManyCandidates count).chain =
      ["at most 10 union candidates are supported, got " ++ decimal count] := by
  have hlimit : decimalDigits candidateLimit = ['1', '0'] := by
    simp [decimalDigits, digitChar, candidateLimit]
  rw [ReportError.chain, decimal, hlimit]
  rfl

/-- The line on storage of an alignment and size, read off its layout. -/
def storageLine (align size : Nat) (l : Layout) : String :=
  "AlignedCharArray<" ++ decimal align ++ ", " ++ decimal size ++ ">: " ++
    ("size=" ++ decimal l.size ++ " align=" ++ decimal l.align)

theorem arrayLine_eq (align size : Nat) (l : Layout) :
    arrayLine align size l = storageLine align size l :=
  rfl

section

variable {align size : Nat} {texts : List String} {l : Layout}
  {ending : ReportEnd}

/-- Nothing is printed exactly when there is no storage. -/
theorem storageReport_eq_noLine_iff :
    storageReport align size texts = ⟨[], ending⟩ ↔
      ∃ e, storageLayout align size = .error e ∧
        ending = .error (.noStorage align size e) := by
  cases hl : storageLayout align size with
  | error e => simp [storageReport, hl, eq_comm]
  | ok l =>
      cases texts with
      | nil => simp [storageReport, hl]
      | cons text texts =>
          cases hu : unionOf (text :: texts) <;> simp [storageReport, hl, hu]

/-- The line on the storage stands alone when no union was asked for, or
there is none. -/
theorem storageReport_eq_oneLine_iff (hl : storageLayout align size = .ok l) :
    storageReport align size texts = ⟨[arrayLine align size l], ending⟩ ↔
      (texts = [] ∧ ending = .complete) ∨
        ∃ e, unionOf texts = .error e ∧ e.reportEnd = ending := by
  cases texts with
  | nil =>
      have hu : unionOf [] = .ok Layout.filler := rfl
      simp [storageReport, hl, hu, eq_comm]
  | cons text texts =>
      cases hu : unionOf (text :: texts) <;> simp [storageReport, hl, hu]

theorem storageReport_eq_twoLines_iff
    (hl : storageLayout align size = .ok l) {line : String} :
    storageReport align size texts =
        ⟨[arrayLine align size l, line], ending⟩ ↔
      texts ≠ [] ∧ ending = .complete ∧
        ∃ u, unionOf texts = .ok u ∧ line = unionLine texts.length u := by
  cases texts with
  | nil => simp [storageReport, hl]
  | cons text texts =>
      cases hu : unionOf (text :: texts) with
      | error e => simp [storageReport, hl, hu]
      | ok u => simp [storageReport, hl, hu, eq_comm, and_comm]

theorem storageReport_eq_complete_iff
    (hl : storageLayout align size = .ok l) :
    storageReport align size texts = ⟨[arrayLine align size l], .complete⟩ ↔
      texts = [] := by
  rw [storageReport_eq_oneLine_iff hl]
  simp [UnionError.reportEnd_ne_complete]

theorem storageReport_eq_reportEnd_iff
    (hl : storageLayout align size = .ok l) {e : UnionError} :
    storageReport align size texts = ⟨[arrayLine align size l], e.reportEnd⟩ ↔
      unionOf texts = .error e := by
  rw [storageReport_eq_oneLine_iff hl]
  simp [UnionError.reportEnd_ne_complete,
    UnionError.reportEnd_injective.eq_iff]

/-! ## The union of the parsed candidates -/

theorem storageReport_eq_fault_iff (hl : storageLayout align size = .ok l)
    {f : Fault} :
    storageReport align size texts = ⟨[arrayLine align size l], .fault f⟩ ↔
      texts.length ≤ candidateLimit ∧ f = .unlayable ∧
      ∃ ls,
        List.Forall₂ (fun text l ↦ parseCandidate text = .ok l) texts ls ∧
        addressLimit - Layout.maxAlign ls < Layout.maxSize ls := by
  refine (storageReport_eq_reportEnd_iff hl (e := .fault f)).trans ?_
  rw [unionOf_eq_fault_iff]
  constructor
  · rintro ⟨hlength, ls, hparse, hunion⟩
    obtain ⟨hlt, rfl⟩ := Layout.union_eq_error_iff.mp hunion
    have hlimit := Layout.maxAlign_le_addressLimit ls
    exact ⟨hlength, rfl, ls, parseCandidates_eq_ok_iff.mp hparse, by omega⟩
  · rintro ⟨hlength, rfl, ls, hread, hlt⟩
    exact ⟨hlength, ls, parseCandidates_eq_ok_iff.mpr hread,
      Layout.union_eq_error_iff.mpr ⟨by omega, rfl⟩⟩

/-- The line on a union, read off the candidates: the greatest size, padded
once, and the strictest alignment. -/
def demandLine (count : Nat) (ls : List Layout) : String :=
  "AlignedCharArrayUnion (" ++ decimal count ++ " candidates): " ++
    ("size=" ++ decimal (roundUp (Layout.maxSize ls) (Layout.maxAlign ls)) ++
      " align=" ++ decimal (Layout.maxAlign ls))

theorem unionLine_of_union {ls : List Layout} {u : Layout}
    (h : Layout.union ls = .ok u) (count : Nat) :
    unionLine count u = demandLine count ls := by
  obtain ⟨hsize, halign⟩ := Layout.union_eq_ok_iff.mp h
  unfold unionLine figures demandLine
  rw [hsize, halign]

theorem exists_unionOf_eq_ok_iff {line : String} {count : Nat} :
    (∃ u, unionOf texts = .ok u ∧ line = unionLine count u) ↔
      texts.length ≤ candidateLimit ∧
      ∃ ls,
        List.Forall₂ (fun text l ↦ parseCandidate text = .ok l) texts ls ∧
        Layout.maxSize ls ≤ addressLimit - Layout.maxAlign ls ∧
        line = demandLine count ls := by
  constructor
  · rintro ⟨u, hu, rfl⟩
    obtain ⟨hlength, ls, hparse, hunion⟩ := unionOf_eq_ok_iff.mp hu
    have hle := Layout.exists_union_eq_ok_iff.mp ⟨u, hunion⟩
    exact ⟨hlength, ls, parseCandidates_eq_ok_iff.mp hparse, by omega,
      unionLine_of_union hunion count⟩
  · rintro ⟨hlength, ls, hread, hle, rfl⟩
    have hlimit := Layout.maxAlign_le_addressLimit ls
    obtain ⟨u, hunion⟩ := Layout.exists_union_eq_ok_iff.mpr
      (show Layout.maxSize ls + Layout.maxAlign ls ≤ addressLimit by omega)
    exact ⟨u, unionOf_eq_ok_iff.mpr
      ⟨hlength, ls, parseCandidates_eq_ok_iff.mpr hread, hunion⟩,
      (unionLine_of_union hunion count).symm⟩

end

/-- A report without storage prints nothing and names the cause.  With
storage it prints the line on it, and the first check that fails decides how
it ends: no more than ten candidates, each of them a candidate, from the
first on, and their union addressable.  Only then the line on the union
follows, with its number of candidates, its padded size and its
alignment. -/
theorem storageReport_endings (align size : Nat) (texts : List String) :
    (∀ ending, storageReport align size texts = ⟨[], ending⟩ ↔
      ∃ e, storageLayout align size = .error e ∧
        ending = .error (.noStorage align size e)) ∧
    (∀ e, (ReportError.noStorage align size e).chain =
      ["no storage for align=" ++ decimal align ++ " size=" ++ decimal size,
        e.message]) ∧
    (∀ n, (ReportError.tooManyCandidates n).chain =
      ["at most 10 union candidates are supported, got " ++ decimal n]) ∧
    (∀ e, (ReportError.candidate e).chain = e.chain) ∧
    ∀ l, storageLayout align size = .ok l →
      (storageReport align size texts =
          ⟨[storageLine align size l], .complete⟩ ↔ texts = []) ∧
      (∀ n, storageReport align size texts =
          ⟨[storageLine align size l], .error (.tooManyCandidates n)⟩ ↔
        10 < texts.length ∧ texts.length = n) ∧
      (∀ e, storageReport align size texts =
          ⟨[storageLine align size l], .error (.candidate e)⟩ ↔
        texts.length ≤ 10 ∧ FirstError texts e) ∧
      (∀ f, storageReport align size texts =
          ⟨[storageLine align size l], .fault f⟩ ↔
        texts.length ≤ 10 ∧ f = .unlayable ∧
        ∃ ls,
          List.Forall₂ (fun text l ↦ parseCandidate text = .ok l) texts ls ∧
          0x8000000000000000 - Layout.maxAlign ls < Layout.maxSize ls) ∧
      (∀ line ending, storageReport align size texts =
          ⟨[storageLine align size l, line], ending⟩ ↔
        texts ≠ [] ∧ ending = .complete ∧ texts.length ≤ 10 ∧
        ∃ ls,
          List.Forall₂ (fun text l ↦ parseCandidate text = .ok l) texts ls ∧
          Layout.maxSize ls ≤ 0x8000000000000000 - Layout.maxAlign ls ∧
          line = demandLine texts.length ls) := by
  refine ⟨fun ending ↦ storageReport_eq_noLine_iff, fun _ ↦ rfl,
    chain_tooManyCandidates, fun _ ↦ rfl, fun l hl ↦ ?_⟩
  rw [← arrayLine_eq]
  refine ⟨storageReport_eq_complete_iff hl, fun n ↦ ?_, fun e ↦ ?_,
    fun f ↦ storageReport_eq_fault_iff hl, fun line ending ↦ ?_⟩
  · exact (storageReport_eq_reportEnd_iff hl (e := .tooMany n)).trans
      unionOf_eq_tooMany_iff
  · exact (storageReport_eq_reportEnd_iff hl (e := .candidate e)).trans
      unionOf_eq_candidate_iff
  · rw [storageReport_eq_twoLines_iff hl, exists_unionOf_eq_ok_iff]
    rfl

/-- Four bytes short of the address limit. -/
def fourBelowLimit : Layout :=
  ⟨0x7ffffffffffffffc, 4, ⟨2, rfl⟩, by decide⟩

def twelveBytes : Layout :=
  ⟨12, 4, ⟨2, rfl⟩, by decide⟩

/-- A text that is no candidate decides the ending even behind candidates
that have no union. -/
theorem storageReport_noUnion :
    storageLayout 8 3 = .ok Layout.word ∧
      storageReport 8 3 ["9223372036854775804:4", "8:8"] =
        ⟨["AlignedCharArray<8, 3>: size=8 align=8"], .fault .unlayable⟩ ∧
      storageReport 8 3 ["9223372036854775804:4", "8:8", "12"] =
        ⟨["AlignedCharArray<8, 3>: size=8 align=8"],
          .error (.candidate (.noColon "12"))⟩ ∧
      storageReport 8 3 ["12:4", "8:8"] =
        ⟨["AlignedCharArray<8, 3>: size=8 align=8",
          "AlignedCharArrayUnion (2 candidates): size=16 align=8"],
          .complete⟩ := by
  have hl : storageLayout 8 3 = .ok Layout.word := by decide
  have hline : storageLine 8 3 Layout.word =
      "AlignedCharArray<8, 3>: size=8 align=8" := by
    decide +kernel
  have hlimit : parseCandidate "9223372036854775804:4" = .ok fourBelowLimit := by
    decide
  have hword : parseCandidate "8:8" = .ok Layout.word := by decide
  have hnone : parseCandidate "12" = .error (.noColon "12") := by decide
  obtain ⟨_, _, _, _, hfault⟩ :=
    storageReport_endings 8 3 ["9223372036854775804:4", "8:8"]
  obtain ⟨_, _, _, _, hcandidate⟩ :=
    storageReport_endings 8 3 ["9223372036854775804:4", "8:8", "12"]
  obtain ⟨_, _, _, _, hunion⟩ := storageReport_endings 8 3 ["12:4", "8:8"]
  rw [← hline]
  refine ⟨hl, ?_, ?_, ?_⟩
  · refine ((hfault _ hl).2.2.2.1 _).mpr ⟨by decide, rfl,
      [fourBelowLimit, Layout.word], .cons hlimit (.cons hword .nil), ?_⟩
    decide
  · refine ((hcandidate _ hl).2.2.1 _).mpr ⟨by decide,
      ["9223372036854775804:4", "8:8"], "12", [], rfl, ?_, hnone⟩
    intro text htext
    rcases List.mem_pair.mp htext with rfl | rfl
    · exact ⟨_, hlimit⟩
    · exact ⟨_, hword⟩
  · have htwelve : parseCandidate "12:4" = .ok twelveBytes := by decide
    refine ((hunion _ hl).2.2.2.2 _ _).mpr ⟨List.cons_ne_nil _ _, rfl,
      by decide, [twelveBytes, Layout.word],
      .cons htwelve (.cons hword .nil), by decide, ?_⟩
    decide +kernel

end AlignedStorage
