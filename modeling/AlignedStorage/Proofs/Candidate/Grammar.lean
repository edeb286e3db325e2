import AlignedStorage.Candidate
import AlignedStorage.Proofs.Layout.ArrayStorage
import AlignedStorage.Proofs.Numeral
import AlignedStorage.Proofs.Text.Trim

/-!
# The grammar of candidates

A candidate is a size and an alignment with a colon between.  Either number
may have blanks around it, a plus sign in front and any number of leading
zeros, and the layout has exactly these numbers.  So the text that is
printed for a layout is one of those that are read as that layout.
-/

namespace AlignedStorage

/-- A numeral as a candidate may spell it: blanks around an optional plus
sign and at least one digit. -/
structure NumeralText where
  before : List Char
  sign : List Char
  digits : List Char
  after : List Char
  before_blank : AllBlank before
  sign_eq : sign = [] ∨ sign = ['+']
  digits_ne_nil : digits ≠ []
  digits_isDigit : ∀ c ∈ digits, c.isDigit
  after_blank : AllBlank after

namespace NumeralText

/-- The characters of a numeral with those around it. -/
def chars (t : NumeralText) : List Char :=
  t.before ++ t.sign ++ t.digits ++ t.after

/-- The number a numeral spells. -/
def value (t : NumeralText) : Nat :=
  digitsValue t.digits

end NumeralText

theorem not_isBlank_of_isDigit {c : Char} (h : c.isDigit) : ¬ isBlank c := by
  have hrange : 48 ≤ c.toNat ∧ c.toNat ≤ 57 := Char.isDigit_iff_toNat.mp h
  intro hblank
  have hmem : c.toNat ∈ blankCodes := List.contains_iff_mem.mp hblank
  simp only [blankCodes, List.mem_cons, List.not_mem_nil, or_false] at hmem
  omega

theorem NumeralText.not_isBlank_of_mem (t : NumeralText) {c : Char}
    (h : c ∈ t.sign ++ t.digits) : ¬ isBlank c := by
  rcases List.mem_append.mp h with hsign | hdigit
  · rcases t.sign_eq with heq | heq
    · rw [heq] at hsign
      cases hsign
    · rw [heq] at hsign
      rw [List.mem_singleton.mp hsign]
      decide
  · exact not_isBlank_of_isDigit (t.digits_isDigit c hdigit)

theorem NumeralText.trim_chars (t : NumeralText) :
    trim t.chars = t.sign ++ t.digits := by
  have hne : t.sign ++ t.digits ≠ [] :=
    List.append_ne_nil_of_right_ne_nil t.sign t.digits_ne_nil
  rw [chars, List.append_assoc t.before]
  exact trim_append t.before_blank hne (fun _ ↦ t.not_isBlank_of_mem)
    t.after_blank

theorem NumeralText.colon_notMem_chars (t : NumeralText) :
    ':' ∉ t.chars := by
  have hblank : ¬ isBlank ':' := by decide
  have hsign : ':' ∉ t.sign := by
    rcases t.sign_eq with heq | heq
    · rw [heq]
      exact List.not_mem_nil
    · rw [heq]
      decide
  have hdigits : ':' ∉ t.digits := fun h ↦
    absurd (t.digits_isDigit ':' h) (by decide)
  simp only [chars, List.mem_append, not_or]
  exact ⟨⟨⟨fun h ↦ hblank (t.before_blank ':' h), hsign⟩, hdigits⟩,
    fun h ↦ hblank (t.after_blank ':' h)⟩

/-- What is read once the blanks around it are gone. -/
theorem readWord_trim_eq_ok_iff {cs : List Char} {n : Nat} :
    readWord (trim cs) = .ok n ↔
      ∃ t : NumeralText, t.chars = cs ∧ t.value = n ∧ n ≤ maxWord := by
  constructor
  · intro h
    obtain ⟨sign, digits, hword, hsign, hne, hdigits, hvalue, hmax⟩ :=
      readWord_eq_ok_iff.mp h
    obtain ⟨before, after, hbefore, hafter, hcs⟩ := exists_eq_append_trim cs
    refine ⟨⟨before, sign, digits, after, hbefore, hsign, hne, hdigits,
      hafter⟩, ?_, hvalue, hmax⟩
    rw [← hcs, hword, NumeralText.chars, List.append_assoc before]
  · rintro ⟨t, rfl, rfl, hmax⟩
    rw [t.trim_chars, readWord_eq_ok_iff]
    exact ⟨t.sign, t.digits, rfl, t.sign_eq, t.digits_ne_nil,
      t.digits_isDigit, rfl, hmax⟩

theorem candidateLayout_eq_ok_iff {size align : Nat} {l : Layout} :
    candidateLayout size align = .ok l ↔
      l.size = size ∧ l.align = align ∧ align ≤ maxAlignment := by
  constructor
  · intro h
    unfold candidateLayout at h
    split at h
    · cases h
    · rename_i a ha
      obtain ⟨rfl, hle⟩ := Alignment.ofNat_eq_ok_iff.mp ha
      split at h
      · cases h
      · rename_i m hm
        cases h
        obtain ⟨hsize, halign⟩ := Layout.ofSizeAlign_eq_ok_iff.mp hm
        exact ⟨hsize, halign, hle⟩
  · rintro ⟨rfl, rfl, hle⟩
    have ha : Alignment.ofNat l.align = .ok ⟨l.align, l.align_isPowerOfTwo⟩ :=
      Alignment.ofNat_eq_ok_iff.mpr ⟨rfl, hle⟩
    have hl : Layout.ofSizeAlign l.size l.align = .ok l :=
      Layout.ofSizeAlign_eq_ok_iff.mpr ⟨rfl, rfl⟩
    simp only [candidateLayout, ha, hl]

/-- A text of two numerals with a colon between is cut there, since neither
numeral has a colon of its own. -/
theorem parseCandidate_of_numerals {text : String} {s a : NumeralText}
    (h : text.toList = s.chars ++ ':' :: a.chars) (hs : s.value ≤ maxWord)
    (ha : a.value ≤ maxWord) :
    parseCandidate text = candidateLayout s.value a.value := by
  have hsplit : splitFirst ':' text.toList = some (s.chars, a.chars) :=
    splitFirst_eq_some_iff.mpr ⟨h, s.colon_notMem_chars⟩
  have hsize : readWord (trim s.chars) = .ok s.value :=
    readWord_trim_eq_ok_iff.mpr ⟨s, rfl, rfl, hs⟩
  have halign : readWord (trim a.chars) = .ok a.value :=
    readWord_trim_eq_ok_iff.mpr ⟨a, rfl, rfl, ha⟩
  simp only [parseCandidate, hsplit, hsize, halign]

theorem exists_numerals_of_parseCandidate {text : String} {l : Layout}
    (h : parseCandidate text = .ok l) :
    ∃ s a : NumeralText, text.toList = s.chars ++ ':' :: a.chars ∧
      s.value ≤ maxWord ∧ a.value ≤ maxWord := by
  unfold parseCandidate at h
  split at h
  · cases h
  · rename_i sizeText alignText hsplit
    split at h
    · cases h
    · rename_i size hsize
      split at h
      · cases h
      · rename_i align halign
        obtain ⟨s, rfl, rfl, hs⟩ := readWord_trim_eq_ok_iff.mp hsize
        obtain ⟨a, rfl, rfl, ha⟩ := readWord_trim_eq_ok_iff.mp halign
        exact ⟨s, a, (splitFirst_eq_some_iff.mp hsplit).1, hs, ha⟩

/-! ## What is printed is read back -/

theorem NumeralText.exists_of_decimal (n : Nat) :
    ∃ t : NumeralText, t.chars = (decimal n).toList ∧ t.value = n := by
  refine ⟨⟨[], [], decimalDigits n, [], fun _ hc ↦ (List.not_mem_nil hc).elim,
    .inl rfl, decimalDigits_ne_nil n,
    fun _ hc ↦ isDigit_of_mem_decimalDigits hc,
    fun _ hc ↦ (List.not_mem_nil hc).elim⟩, ?_, digitsValue_decimalDigits n⟩
  rw [chars, decimal, String.toList_ofList, List.append_nil]
  rfl

/-- The numerals of two words with a colon between are read as their
layout. -/
theorem parseCandidate_decimal {size align : Nat} (hsize : size ≤ maxWord)
    (halign : align ≤ maxWord) :
    parseCandidate (decimal size ++ ":" ++ decimal align) =
      candidateLayout size align := by
  obtain ⟨s, hs, rfl⟩ := NumeralText.exists_of_decimal size
  obtain ⟨a, ha, rfl⟩ := NumeralText.exists_of_decimal align
  apply parseCandidate_of_numerals _ hsize halign
  rw [String.toList_append, String.toList_append, ← hs, ← ha,
    List.append_assoc]
  rfl

theorem Layout.size_le_maxWord (l : Layout) : l.size ≤ maxWord :=
  Nat.le_trans (Nat.le_of_add_right_le l.size_add_align_le) (by decide)

theorem Layout.align_le_maxWord (l : Layout) : l.align ≤ maxWord :=
  Nat.le_trans (Nat.le_of_add_left_le l.size_add_align_le) (by decide)

/-- A text is read as a layout exactly when it spells the size and the
alignment of that layout, both words, and storage can have the alignment.
The printed figures of the layout are such a text. -/
theorem parseCandidate_eq_ok_iff_numerals (text : String) (l : Layout) :
    (parseCandidate text = .ok l ↔
      ∃ s a : NumeralText, text.toList = s.chars ++ ':' :: a.chars ∧
        s.value = l.size ∧ a.value = l.align ∧
        s.value ≤ maxWord ∧ a.value ≤ maxWord ∧
        a.value.isPowerOfTwo ∧ a.value ≤ 0x20000000 ∧
        s.value ≤ 0x8000000000000000 - a.value) ∧
    (l.align ≤ 0x20000000 →
      parseCandidate (decimal l.size ++ ":" ++ decimal l.align) = .ok l) := by
  constructor
  · constructor
    · intro h
      obtain ⟨s, a, htext, hs, ha⟩ := exists_numerals_of_parseCandidate h
      rw [parseCandidate_of_numerals htext hs ha] at h
      obtain ⟨hsize, halign, hle⟩ := candidateLayout_eq_ok_iff.mp h
      have hsum : s.value + a.value ≤ 0x8000000000000000 := by
        rw [← hsize, ← halign]
        exact l.size_add_align_le
      have hpow : a.value.isPowerOfTwo := halign ▸ l.align_isPowerOfTwo
      exact ⟨s, a, htext, hsize.symm, halign.symm, hs, ha, hpow, hle,
        Nat.le_sub_of_add_le hsum⟩
    · rintro ⟨s, a, htext, hsize, halign, hs, ha, _, hle, _⟩
      rw [parseCandidate_of_numerals htext hs ha]
      exact candidateLayout_eq_ok_iff.mpr ⟨hsize.symm, halign.symm, hle⟩
  · intro hle
    rw [parseCandidate_decimal l.size_le_maxWord l.align_le_maxWord]
    exact candidateLayout_eq_ok_iff.mpr ⟨rfl, rfl, hle⟩

/-- Seven bytes at a multiple of sixteen, without padding. -/
def unpadded : Layout :=
  ⟨7, 16, ⟨4, rfl⟩, by decide⟩

/-- Seven, with everything a numeral may have. -/
def sevenText : NumeralText where
  before := [' ']
  sign := ['+']
  digits := ['0', '0', '7']
  after := [' ']
  before_blank := by decide
  sign_eq := by decide
  digits_ne_nil := by decide
  digits_isDigit := List.all_eq_true.mp (by decide)
  after_blank := by decide

/-- Sixteen behind a blank. -/
def sixteenText : NumeralText where
  before := [' ']
  sign := []
  digits := ['1', '6']
  after := []
  before_blank := by decide
  sign_eq := by decide
  digits_ne_nil := by decide
  digits_isDigit := List.all_eq_true.mp (by decide)
  after_blank := by decide

theorem parseCandidate_unpadded :
    parseCandidate " +007 : 16" = .ok unpadded ∧
      unpadded.align ≤ 0x20000000 ∧
      parseCandidate (decimal 7 ++ ":" ++ decimal 16) = .ok unpadded := by
  have hle : unpadded.align ≤ 0x20000000 := by decide
  refine ⟨?_, hle, ?_⟩
  · exact (parseCandidate_eq_ok_iff_numerals _ _).1.mpr
      ⟨sevenText, sixteenText, rfl, rfl, rfl, by decide, by decide,
        ⟨4, rfl⟩, by decide, by decide⟩
  · exact (parseCandidate_eq_ok_iff_numerals "" unpadded).2 hle

end AlignedStorage
