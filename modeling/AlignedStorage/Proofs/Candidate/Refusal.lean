import AlignedStorage.Proofs.Candidate.Grammar

/-!
# Refusals of candidates

A text that is no candidate is refused for the first check it fails: there is
a colon, the size and the alignment are words, storage can have the alignment,
and there is a layout of both.  Each half is read by itself once the blanks
around it are gone, and what is wrong with it shows in the digits that it
starts with.
-/

namespace AlignedStorage

/-- A text is a numeral of a machine word, perhaps with blanks around it. -/
def IsWordNumeral (cs : List Char) (n : Nat) : Prop :=
  ∃ t : NumeralText, t.chars = cs ∧ t.value = n ∧ n ≤ maxWord

theorem readWord_trim_eq_error_iff {cs : List Char} {cause : NumeralError} :
    readWord (trim cs) = .error cause ↔
      (∀ n, ¬ IsWordNumeral cs n) ∧ cause = numeralFault (trim cs) := by
  rw [readWord_eq_error_iff]
  apply and_congr_left'
  apply forall_congr'
  intro n
  exact not_congr readWord_trim_eq_ok_iff

/-! ## The checks of two numbers -/

/-- The endings of a candidate of two words. -/
inductive LayoutVerdict (size align : Nat) :
    Except CandidateError Layout → Prop
  | alignment {e : AlignmentError} (h : Alignment.ofNat align = .error e) :
      LayoutVerdict size align (.error (.alignment e))
  | layout {a : Alignment} (e : LayoutError)
      (h : Alignment.ofNat align = .ok a)
      (hover : addressLimit < size + align) :
      LayoutVerdict size align (.error (.layout e))
  | ok {a : Alignment} (l : Layout) (h : Alignment.ofNat align = .ok a)
      (hfit : size + align ≤ addressLimit) : LayoutVerdict size align (.ok l)

theorem layoutVerdict (size align : Nat) :
    LayoutVerdict size align (candidateLayout size align) := by
  cases ha : Alignment.ofNat align with
  | error e =>
      simp only [candidateLayout, ha]
      exact .alignment ha
  | ok a =>
      obtain ⟨hvalue, _⟩ := Alignment.ofNat_eq_ok_iff.mp ha
      cases hl : Layout.ofSizeAlign size a.value with
      | error e =>
          have hover := (Layout.ofSizeAlign_eq_error_iff a.isPowerOfTwo).mp hl
          simp only [candidateLayout, ha, hl]
          rw [hvalue] at hover
          exact .layout e ha hover
      | ok l =>
          obtain ⟨hsize, halign⟩ := Layout.ofSizeAlign_eq_ok_iff.mp hl
          have hfit := l.size_add_align_le
          simp only [candidateLayout, ha, hl]
          rw [hsize, halign, hvalue] at hfit
          exact .ok l ha hfit

section

variable {size align : Nat} {x : Except CandidateError Layout}
  (h : LayoutVerdict size align x)

include h

theorem LayoutVerdict.ne_size (cause : NumeralError) :
    x ≠ .error (.size cause) := by
  cases h <;> simp

theorem LayoutVerdict.ne_align (cause : NumeralError) :
    x ≠ .error (.align cause) := by
  cases h <;> simp

theorem LayoutVerdict.alignment_iff {e : AlignmentError} :
    x = .error (.alignment e) ↔ Alignment.ofNat align = .error e := by
  cases h <;> simp [*]

/-- The layout is looked at only if the alignment passes. -/
theorem LayoutVerdict.layout_iff {e : LayoutError} :
    x = .error (.layout e) ↔
      (∃ a, Alignment.ofNat align = .ok a) ∧ addressLimit < size + align := by
  cases e
  cases h with
  | alignment h => simp [h]
  | layout e h hover => simp [h, hover]
  | ok l h hfit => simp [h, Nat.not_lt.mpr hfit]

theorem LayoutVerdict.exists_ok_iff :
    (∃ l, x = .ok l) ↔
      (∃ a, Alignment.ofNat align = .ok a) ∧ size + align ≤ addressLimit := by
  cases h with
  | alignment h => simp [h]
  | layout e h hover => simp [h, Nat.not_le.mpr hover]
  | ok l h hfit => simp [h, hfit]

end

/-! ## The checks of a text -/

/-- The endings of a text with a colon. -/
inductive HalvesVerdict (sizeText alignText : List Char) :
    Except CandidateError Layout → Prop
  | size {cause : NumeralError} (h : readWord (trim sizeText) = .error cause) :
      HalvesVerdict sizeText alignText (.error (.size cause))
  | align {size : Nat} {cause : NumeralError}
      (hsize : readWord (trim sizeText) = .ok size)
      (h : readWord (trim alignText) = .error cause) :
      HalvesVerdict sizeText alignText (.error (.align cause))
  | words {size align : Nat} {x : Except CandidateError Layout}
      (hsize : readWord (trim sizeText) = .ok size)
      (halign : readWord (trim alignText) = .ok align)
      (h : LayoutVerdict size align x) : HalvesVerdict sizeText alignText x

theorem halvesVerdict {text : String} {sizeText alignText : List Char}
    (hsplit : splitFirst ':' text.toList = some (sizeText, alignText)) :
    HalvesVerdict sizeText alignText (parseCandidate text) := by
  cases hsize : readWord (trim sizeText) with
  | error e =>
      simp only [parseCandidate, hsplit, hsize]
      exact .size hsize
  | ok size =>
      cases halign : readWord (trim alignText) with
      | error e =>
          simp only [parseCandidate, hsplit, hsize, halign]
          exact .align hsize halign
      | ok align =>
          simp only [parseCandidate, hsplit, hsize, halign]
          exact .words hsize halign (layoutVerdict size align)

section

variable {sizeText alignText : List Char} {x : Except CandidateError Layout}
  (h : HalvesVerdict sizeText alignText x)

include h

theorem HalvesVerdict.ne_noColon (text : String) :
    x ≠ .error (.noColon text) := by
  cases h with
  | size h => simp
  | align hsize h => simp
  | words hsize halign h => cases h <;> simp

theorem HalvesVerdict.size_iff {cause : NumeralError} :
    x = .error (.size cause) ↔ readWord (trim sizeText) = .error cause := by
  cases h with
  | size h => simp [h]
  | align hsize h => simp [hsize]
  | words hsize halign h => simp [hsize, h.ne_size]

theorem HalvesVerdict.align_iff {size : Nat}
    (hsize : readWord (trim sizeText) = .ok size) {cause : NumeralError} :
    x = .error (.align cause) ↔ readWord (trim alignText) = .error cause := by
  cases h with
  | size h =>
      rw [hsize] at h
      cases h
  | align _ h => simp [h]
  | words _ halign h => simp [halign, h.ne_align]

theorem HalvesVerdict.of_words {size align : Nat}
    (hsize : readWord (trim sizeText) = .ok size)
    (halign : readWord (trim alignText) = .ok align) :
    LayoutVerdict size align x := by
  cases h with
  | size h =>
      rw [hsize] at h
      cases h
  | align _ h =>
      rw [halign] at h
      cases h
  | words hs ha h =>
      rw [hsize] at hs
      rw [halign] at ha
      cases hs
      cases ha
      exact h

end

theorem parseCandidate_eq_noColon_iff {text : String} :
    parseCandidate text = .error (.noColon text) ↔ ':' ∉ text.toList := by
  rw [← splitFirst_eq_none_iff]
  cases hsplit : splitFirst ':' text.toList with
  | none => simp [parseCandidate, hsplit]
  | some halves => simp [(halvesVerdict hsplit).ne_noColon text]

/-- A text is refused for having no colon exactly when it has none.  Of a text
with a colon each half is judged without the blanks around it: the first one
that is no numeral of a word is what the text is refused for, and the cause is
that there is nothing, that the digits it starts with exceed the words, or
else that a character is no digit.  Two words are refused for the alignment if
storage cannot have it, and otherwise if they exceed the address limit. -/
theorem parseCandidate_refusal_exact (text : String) :
    (parseCandidate text = .error (.noColon text) ↔ ':' ∉ text.toList) ∧
    (∀ sizeText alignText, text.toList = sizeText ++ ':' :: alignText →
      ':' ∉ sizeText →
      (∀ cause, parseCandidate text = .error (.size cause) ↔
        (∀ n, ¬ IsWordNumeral sizeText n) ∧
          cause = numeralFault (trim sizeText)) ∧
      ∀ size, IsWordNumeral sizeText size →
        (∀ cause, parseCandidate text = .error (.align cause) ↔
          (∀ n, ¬ IsWordNumeral alignText n) ∧
            cause = numeralFault (trim alignText)) ∧
        ∀ align, IsWordNumeral alignText align →
          (∀ e, parseCandidate text = .error (.alignment e) ↔
            Alignment.ofNat align = .error e) ∧
          (∀ e, parseCandidate text = .error (.layout e) ↔
            (∃ a, Alignment.ofNat align = .ok a) ∧
              0x8000000000000000 < size + align) ∧
          ((∃ l, parseCandidate text = .ok l) ↔
            (∃ a, Alignment.ofNat align = .ok a) ∧
              size + align ≤ 0x8000000000000000)) ∧
    (CandidateError.noColon text).chain =
      ["candidate `" ++ text ++ "` is not SIZE:ALIGN"] ∧
    (∀ cause, (CandidateError.size cause).chain =
      ["invalid candidate size", cause.message]) ∧
    (∀ cause, (CandidateError.align cause).chain =
      ["invalid candidate alignment", cause.message]) ∧
    (∀ e, (CandidateError.alignment e).chain = [e.message]) ∧
    (∀ e, (CandidateError.layout e).chain = [e.message]) ∧
    NumeralError.empty.message = "cannot parse integer from empty string" ∧
    NumeralError.tooLarge.message =
      "number too large to fit in target type" ∧
    NumeralError.invalidDigit.message = "invalid digit found in string" := by
  refine ⟨parseCandidate_eq_noColon_iff, ?_, rfl, fun _ ↦ rfl, fun _ ↦ rfl,
    fun _ ↦ rfl, fun _ ↦ rfl, rfl, rfl, rfl⟩
  intro sizeText alignText htext hcolon
  have h := halvesVerdict (splitFirst_eq_some_iff.mpr ⟨htext, hcolon⟩)
  refine ⟨?_, ?_⟩
  · intro cause
    rw [h.size_iff, readWord_trim_eq_error_iff]
  · intro size hsize
    have hs := readWord_trim_eq_ok_iff.mpr hsize
    refine ⟨?_, ?_⟩
    · intro cause
      rw [h.align_iff hs, readWord_trim_eq_error_iff]
    · intro align halign
      have hwords := h.of_words hs (readWord_trim_eq_ok_iff.mpr halign)
      exact ⟨fun _ ↦ hwords.alignment_iff, fun _ ↦ hwords.layout_iff,
        hwords.exists_ok_iff⟩

/-- Digits past the greatest word are found before the letter behind them, but
the letter behind the greatest word before the overflow it would take part
in. -/
theorem parseCandidate_refusal_nearMaxWord :
    parseCandidate "+18446744073709551616x:8" = .error (.size .tooLarge) ∧
      parseCandidate "7: 18446744073709551615x" =
        .error (.align .invalidDigit) ∧
      parseCandidate " : x" = .error (.size .empty) ∧
      parseCandidate "7:24" = .error (.alignment (.notPowerOfTwo 24)) := by
  have hseven : IsWordNumeral ['7'] 7 := readWord_trim_eq_ok_iff.mp rfl
  obtain ⟨_, hlarge, _⟩ :=
    parseCandidate_refusal_exact "+18446744073709551616x:8"
  obtain ⟨_, hinvalid, _⟩ :=
    parseCandidate_refusal_exact "7: 18446744073709551615x"
  obtain ⟨_, hempty, _⟩ := parseCandidate_refusal_exact " : x"
  obtain ⟨_, halign, _⟩ := parseCandidate_refusal_exact "7:24"
  refine ⟨?_, ?_, ?_, ?_⟩
  · apply ((hlarge "+18446744073709551616x".toList ['8'] rfl (by decide)).1
      .tooLarge).mpr
    exact readWord_trim_eq_error_iff.mp rfl
  · apply (((hinvalid ['7'] " 18446744073709551615x".toList rfl
      (by decide)).2 7 hseven).1 .invalidDigit).mpr
    exact readWord_trim_eq_error_iff.mp rfl
  · apply ((hempty [' '] " x".toList rfl (by decide)).1 .empty).mpr
    exact readWord_trim_eq_error_iff.mp rfl
  · have hnumber : IsWordNumeral ['2', '4'] 24 :=
      readWord_trim_eq_ok_iff.mp rfl
    apply ((((halign ['7'] ['2', '4'] rfl (by decide)).2 7 hseven).2 24
      hnumber).1 (.notPowerOfTwo 24)).mpr
    rfl

end AlignedStorage
