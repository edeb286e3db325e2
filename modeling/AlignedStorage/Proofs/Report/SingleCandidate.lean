import AlignedStorage.Proofs.Candidate.Grammar
import AlignedStorage.Proofs.Report.Storage

/-!
# Reports on a single candidate

Array storage is asked for by two numbers, a candidate by a text of the same
two.  One way pads at once and the other reads, checks and unites, but the
verdicts agree: the same layout on both lines of the report, or the same
reason against it.
-/

namespace AlignedStorage

/-- The text of a candidate of a size and an alignment. -/
def candidateText (size align : Nat) : String :=
  decimal size ++ ":" ++ decimal align

/-- The joint verdicts on array storage and on a candidate of the same
alignment and size. -/
inductive SameVerdict (align size : Nat) :
    Except AlignmentError Layout → Except CandidateError Layout → Prop
  | layout (c : Layout) : SameVerdict align size (.ok c.padToAlign) (.ok c)
  | zero : SameVerdict align size (.error .zero) (.error (.alignment .zero))
  | notPowerOfTwo :
      SameVerdict align size (.error (.notPowerOfTwo align))
        (.error (.alignment (.notPowerOfTwo align)))
  | tooLarge :
      SameVerdict align size (.error (.tooLarge align))
        (.error (.alignment (.tooLarge align)))
  | sizeOverflow (e : LayoutError) :
      SameVerdict align size (.error (.sizeOverflow size))
        (.error (.layout e))

theorem sameVerdict_of_ofNat_eq_error {align size : Nat} {e : AlignmentError}
    (h : Alignment.ofNat align = .error e) :
    SameVerdict align size (.error e) (.error (.alignment e)) := by
  unfold Alignment.ofNat at h
  split at h
  · cases h
    exact .zero
  · split at h
    · split at h
      · cases h
      · cases h
        exact .tooLarge
    · cases h
      exact .notPowerOfTwo

theorem sameVerdict_candidateLayout (align size : Nat) :
    SameVerdict align size (storageLayout align size)
      (candidateLayout size align) := by
  cases ha : Alignment.ofNat align with
  | error e =>
      simp only [storageLayout, candidateLayout, ha]
      exact sameVerdict_of_ofNat_eq_error ha
  | ok a =>
      cases hl : Layout.ofSizeAlign size a.value with
      | error e =>
          simp only [storageLayout, candidateLayout, ha, hl]
          exact .sizeOverflow e
      | ok c =>
          simp only [storageLayout, candidateLayout, ha, hl]
          exact .layout c

section

variable {align size : Nat} {x : Except AlignmentError Layout}
  {y : Except CandidateError Layout}

theorem SameVerdict.exists_ok_iff (h : SameVerdict align size x y) :
    (∃ l, x = .ok l) ↔ ∃ c, y = .ok c := by
  cases h <;> simp

theorem SameVerdict.eq_padToAlign {l c : Layout}
    (h : SameVerdict align size (.ok l) (.ok c)) : l = c.padToAlign := by
  cases h
  rfl

theorem SameVerdict.alignment_iff (h : SameVerdict align size x y)
    (e : AlignmentError) :
    y = .error (.alignment e) ↔ x = .error e ∧ e ≠ .sizeOverflow size := by
  cases h with
  | layout c => simp
  | zero
  | notPowerOfTwo
  | tooLarge =>
      simp only [Except.error.injEq, CandidateError.alignment.injEq]
      constructor
      · rintro rfl
        exact ⟨rfl, nofun⟩
      · exact And.left
  | sizeOverflow f =>
      simp only [Except.error.injEq, reduceCtorEq, false_iff]
      rintro ⟨rfl, hne⟩
      exact hne rfl

theorem SameVerdict.sizeOverflow_iff (h : SameVerdict align size x y) :
    x = .error (.sizeOverflow size) ↔ ∃ e, y = .error (.layout e) := by
  cases h with
  | sizeOverflow e => exact iff_of_true rfl ⟨e, rfl⟩
  | layout c
  | zero
  | notPowerOfTwo
  | tooLarge => simp

theorem SameVerdict.error_cases (h : SameVerdict align size x y)
    {e : AlignmentError} (he : x = .error e) :
    e = .zero ∨ e = .notPowerOfTwo align ∨ e = .tooLarge align ∨
      e = .sizeOverflow size := by
  cases h <;> simp_all

end

/-- Writing the two numbers down and reading them back loses nothing, so the
verdict on the text is that on the numbers. -/
theorem sameVerdict_parseCandidate {align size : Nat} (ha : align ≤ maxWord)
    (hs : size ≤ maxWord) :
    SameVerdict align size (storageLayout align size)
      (parseCandidate (candidateText size align)) := by
  rw [candidateText, parseCandidate_decimal hs ha]
  exact sameVerdict_candidateLayout align size

/-! ## The union of one candidate -/

theorem Layout.union_singleton (c : Layout) :
    Layout.union [c] = .ok c.padToAlign := by
  have hpos : 1 ≤ c.align := c.align_pos
  rw [Layout.union_eq_ok_iff]
  simp only [Layout.maxSize_cons, Layout.maxSize_nil, Layout.maxAlign_cons,
    Layout.maxAlign_nil, Nat.max_zero, Nat.max_eq_left hpos]
  exact ⟨rfl, rfl⟩

theorem unionOf_singleton {text : String} {c : Layout}
    (h : parseCandidate text = .ok c) :
    unionOf [text] = .ok c.padToAlign := by
  have hread : parseCandidates [text] = .ok [c] :=
    parseCandidates_eq_ok_iff.mpr (.cons h .nil)
  have hlength : [text].length ≤ candidateLimit := Nat.succ_le_succ (Nat.zero_le 9)
  exact unionOf_eq_ok_iff.mpr
    ⟨hlength, [c], hread, Layout.union_singleton c⟩

theorem unionLine_one (l : Layout) :
    unionLine 1 l = "AlignedCharArrayUnion (1 candidates): " ++
      ("size=" ++ decimal l.size ++ " align=" ++ decimal l.align) := by
  have hone : "AlignedCharArrayUnion (" ++ decimal 1 ++ " candidates): " =
      "AlignedCharArrayUnion (1 candidates): " := by
    decide +kernel
  unfold unionLine
  rw [hone]
  rfl

theorem storageReport_singleton {align size : Nat} {text : String}
    {l c : Layout} (hl : storageLayout align size = .ok l)
    (hc : parseCandidate text = .ok c) :
    storageReport align size [text] =
      ⟨[storageLine align size l,
        "AlignedCharArrayUnion (1 candidates): " ++
          ("size=" ++ decimal c.padToAlign.size ++ " align=" ++
            decimal c.padToAlign.align)], .complete⟩ := by
  rw [← unionLine_one, ← arrayLine_eq]
  exact (storageReport_eq_twoLines_iff hl).mpr
    ⟨List.cons_ne_nil text [], rfl, c.padToAlign, unionOf_singleton hc, rfl⟩

/-- There is array storage of an alignment and a size exactly when the text
of the two is a candidate, whose padded layout, and whose union with nothing
else, is that of the storage; the report shows the same figures twice.  The
storage and the text are refused together: for the alignment with one and
the same error, for the size with one of each kind. -/
theorem storageLayout_agrees_with_candidate {align size : Nat}
    (ha : align ≤ maxWord) (hs : size ≤ maxWord) :
    ((∃ l, storageLayout align size = .ok l) ↔
      ∃ c, parseCandidate (candidateText size align) = .ok c) ∧
    (∀ l c, storageLayout align size = .ok l →
      parseCandidate (candidateText size align) = .ok c →
      l = c.padToAlign ∧ Layout.union [c] = .ok l ∧
        storageReport align size [candidateText size align] =
          ⟨["AlignedCharArray<" ++ decimal align ++ ", " ++ decimal size ++
              ">: " ++
              ("size=" ++ decimal l.size ++ " align=" ++ decimal l.align),
            "AlignedCharArrayUnion (1 candidates): " ++
              ("size=" ++ decimal l.size ++ " align=" ++ decimal l.align)],
            .complete⟩) ∧
    (∀ e, e = .zero ∨ e = .notPowerOfTwo align ∨ e = .tooLarge align →
      (storageLayout align size = .error e ↔
        parseCandidate (candidateText size align) =
          .error (.alignment e))) ∧
    (storageLayout align size = .error (.sizeOverflow size) ↔
      ∃ e, parseCandidate (candidateText size align) =
        .error (.layout e)) ∧
    (∀ e, storageLayout align size = .error e →
      e = .zero ∨ e = .notPowerOfTwo align ∨ e = .tooLarge align ∨
        e = .sizeOverflow size) := by
  have hverdict := sameVerdict_parseCandidate ha hs
  refine ⟨hverdict.exists_ok_iff, ?_, ?_, hverdict.sizeOverflow_iff,
    fun e he ↦ hverdict.error_cases he⟩
  · intro l c hl hc
    have hpad : l = c.padToAlign := by
      rw [hl, hc] at hverdict
      exact hverdict.eq_padToAlign
    have hlines := storageReport_singleton hl hc
    rw [← hpad] at hlines
    exact ⟨hpad, hpad ▸ Layout.union_singleton c, hlines⟩
  · intro e he
    have hne : e ≠ .sizeOverflow size := by
      rcases he with rfl | rfl | rfl <;> nofun
    rw [hverdict.alignment_iff e]
    exact (and_iff_left hne).symm

/-- Eight bytes short of the address limit. -/
def eightBelowLimit : Layout :=
  ⟨0x7ffffffffffffff8, 8, Layout.word.align_isPowerOfTwo, by decide⟩

/-- The greatest size that storage at a multiple of eight can have, and one
more. -/
theorem storageLayout_atLimit :
    8 ≤ maxWord ∧ 0x7ffffffffffffff8 ≤ maxWord ∧ 0x7ffffffffffffff9 ≤ maxWord ∧
      (∃ c, parseCandidate (candidateText 0x7ffffffffffffff8 8) = .ok c) ∧
      storageReport 8 0x7ffffffffffffff8
          [candidateText 0x7ffffffffffffff8 8] =
        ⟨["AlignedCharArray<8, 9223372036854775800>: " ++
            "size=9223372036854775800 align=8",
          "AlignedCharArrayUnion (1 candidates): " ++
            "size=9223372036854775800 align=8"], .complete⟩ ∧
      ∃ e, parseCandidate (candidateText 0x7ffffffffffffff9 8) =
        .error (.layout e) := by
  have hword : 8 ≤ maxWord := by decide
  have hsize : 0x7ffffffffffffff8 ≤ maxWord := by decide
  have hnext : 0x7ffffffffffffff9 ≤ maxWord := by decide
  have hok : storageLayout 8 0x7ffffffffffffff8 = .ok eightBelowLimit := by
    decide
  have hover : storageLayout 8 0x7ffffffffffffff9 =
      .error (.sizeOverflow 0x7ffffffffffffff9) := by
    decide
  obtain ⟨hexists, hsame, _⟩ :=
    storageLayout_agrees_with_candidate hword hsize
  obtain ⟨_, _, _, hrefused, _⟩ :=
    storageLayout_agrees_with_candidate hword hnext
  obtain ⟨c, hc⟩ := hexists.mp ⟨_, hok⟩
  refine ⟨hword, hsize, hnext, ⟨c, hc⟩, ?_, hrefused.mp hover⟩
  rw [(hsame _ c hok hc).2.2]
  decide +kernel

end AlignedStorage
