import AlignedStorage.Numeral

/-!
# Numerals and the numbers they spell

Reading takes an optional plus sign and at least one digit, and gives the
number they spell if it is a machine word.  What is wrong with another text
depends on the digits it starts with.  Writing gives at least one digit, and
the digits spell the number that was written.
-/

namespace AlignedStorage

/-- The number that decimal digits spell behind those of a value. -/
def digitsFrom (value : Nat) (digits : List Char) : Nat :=
  digits.foldl (fun v c ↦ 10 * v + (c.toNat - '0'.toNat)) value

/-- The number that decimal digits spell. -/
def digitsValue (digits : List Char) : Nat :=
  digitsFrom 0 digits

theorem digitsFrom_cons (value : Nat) (c : Char) (rest : List Char) :
    digitsFrom value (c :: rest) =
      digitsFrom (10 * value + (c.toNat - '0'.toNat)) rest := by
  rw [digitsFrom, List.foldl_cons, digitsFrom]

theorem digitsFrom_concat (value : Nat) (digits : List Char) (c : Char) :
    digitsFrom value (digits ++ [c]) =
      10 * digitsFrom value digits + (c.toNat - '0'.toNat) := by
  rw [digitsFrom, List.foldl_append, List.foldl_cons, List.foldl_nil,
    digitsFrom]

theorem le_digitsFrom (value : Nat) (digits : List Char) :
    value ≤ digitsFrom value digits := by
  induction digits generalizing value with
  | nil => exact Nat.le_refl value
  | cons c rest ih =>
      have hrest := ih (10 * value + (c.toNat - '0'.toNat))
      rw [digitsFrom_cons]
      omega

/-! ## Reading -/

theorem digitValue?_of_isDigit {c : Char} (h : c.isDigit) :
    digitValue? c = some (c.toNat - '0'.toNat) := by
  have hrange : '0' ≤ c ∧ c ≤ '9' := by
    simpa [Char.isDigit, Char.le_def] using h
  exact if_pos hrange

theorem digitValue?_of_not_isDigit {c : Char} (h : ¬ c.isDigit) :
    digitValue? c = none := by
  have hrange : ¬ ('0' ≤ c ∧ c ≤ '9') := by
    simpa [Char.isDigit, Char.le_def] using h
  exact if_neg hrange

theorem readDigits_eq_ok_iff {value n : Nat} {digits : List Char}
    (hvalue : value ≤ maxWord) :
    readDigits value digits = .ok n ↔
      (∀ c ∈ digits, c.isDigit) ∧ digitsFrom value digits = n ∧
        n ≤ maxWord := by
  induction digits generalizing value with
  | nil =>
      constructor
      · intro h
        cases h
        exact ⟨fun _ hc ↦ (List.not_mem_nil hc).elim, rfl, hvalue⟩
      · rintro ⟨_, rfl, _⟩
        rfl
  | cons c rest ih =>
      by_cases hdigit : c.isDigit
      · rw [readDigits, digitValue?_of_isDigit hdigit, digitsFrom_cons,
          List.forall_mem_cons]
        by_cases hnext : 10 * value + (c.toNat - '0'.toNat) ≤ maxWord
        · simp only [hnext, ↓reduceIte, ih hnext, hdigit, true_and]
        · -- The number only grows with the digits that follow.
          have hle := le_digitsFrom (10 * value + (c.toNat - '0'.toNat)) rest
          simp only [hnext, ↓reduceIte, reduceCtorEq, false_iff]
          rintro ⟨_, rfl, hmax⟩
          exact hnext (Nat.le_trans hle hmax)
      · rw [readDigits, digitValue?_of_not_isDigit hdigit]
        simp [hdigit]

theorem readWord_plus {digits : List Char} (hne : digits ≠ []) :
    readWord ('+' :: digits) = readDigits 0 digits := by
  obtain ⟨c, rest, rfl⟩ := List.exists_cons_of_ne_nil hne
  rfl

theorem readWord_of_ne_plus {c : Char} (hc : c ≠ '+') (rest : List Char) :
    readWord (c :: rest) = readDigits 0 (c :: rest) := by
  have hhead {digits : List Char} : c :: rest ≠ '+' :: digits :=
    fun h ↦ hc (List.head_eq_of_cons_eq h)
  unfold readWord
  split
  · rename_i h
    cases h
  · rename_i h
    exact absurd h hhead
  · rename_i h
    exact absurd h hhead
  · rfl

theorem readWord_eq_ok_iff {cs : List Char} {n : Nat} :
    readWord cs = .ok n ↔
      ∃ sign digits, cs = sign ++ digits ∧ (sign = [] ∨ sign = ['+']) ∧
        digits ≠ [] ∧ (∀ c ∈ digits, c.isDigit) ∧
        digitsValue digits = n ∧ n ≤ maxWord := by
  have hdigits : ∀ digits, readDigits 0 digits = .ok n ↔
      (∀ c ∈ digits, c.isDigit) ∧ digitsValue digits = n ∧ n ≤ maxWord :=
    fun _ ↦ readDigits_eq_ok_iff (Nat.zero_le _)
  constructor
  · intro h
    cases cs with
    | nil => cases h
    | cons c rest =>
        by_cases hplus : c = '+'
        · subst hplus
          cases rest with
          | nil => cases h
          | cons d rest =>
              rw [readWord_plus (List.cons_ne_nil d rest)] at h
              exact ⟨['+'], d :: rest, rfl, .inr rfl, List.cons_ne_nil d rest,
                (hdigits _).mp h⟩
        · rw [readWord_of_ne_plus hplus] at h
          exact ⟨[], c :: rest, rfl, .inl rfl, List.cons_ne_nil c rest,
            (hdigits _).mp h⟩
  · rintro ⟨sign, digits, rfl, hsign, hne, hall⟩
    rcases hsign with rfl | rfl
    · obtain ⟨c, rest, rfl⟩ := List.exists_cons_of_ne_nil hne
      have hplus : c ≠ '+' := by
        rintro rfl
        exact absurd (hall.1 '+' List.mem_cons_self) (by decide)
      rw [List.nil_append, readWord_of_ne_plus hplus]
      exact (hdigits (c :: rest)).mpr hall
    · exact (readWord_plus hne).trans ((hdigits digits).mpr hall)

/-! ## What is wrong with a text -/

/-- A text without a plus sign in front. -/
def withoutSign : List Char → List Char
  | '+' :: rest => rest
  | cs => cs

/-- The digits that a text starts with, behind one plus sign at most. -/
def leadingDigits (cs : List Char) : List Char :=
  (withoutSign cs).takeWhile Char.isDigit

/-- What is wrong with a text that is no numeral of a word. -/
def numeralFault (cs : List Char) : NumeralError :=
  if cs = [] then .empty
  else if maxWord < digitsValue (leadingDigits cs) then .tooLarge
  else .invalidDigit

theorem withoutSign_of_ne_plus {c : Char} (hc : c ≠ '+') (rest : List Char) :
    withoutSign (c :: rest) = c :: rest := by
  unfold withoutSign
  split
  · rename_i h
    exact absurd (List.head_eq_of_cons_eq h) hc
  · rfl

theorem readDigits_ne_empty (value : Nat) (cs : List Char) :
    readDigits value cs ≠ .error .empty := by
  induction cs generalizing value with
  | nil => simp [readDigits]
  | cons c rest ih =>
      rw [readDigits]
      split
      · simp
      · split
        · apply ih
        · simp

/-- The digits overflow no later than at the last of them, and what follows
the digits is not looked at then. -/
theorem readDigits_eq_tooLarge_iff {value : Nat} {cs : List Char}
    (hvalue : value ≤ maxWord) :
    readDigits value cs = .error .tooLarge ↔
      maxWord < digitsFrom value (cs.takeWhile Char.isDigit) := by
  induction cs generalizing value with
  | nil => simpa [readDigits, digitsFrom] using hvalue
  | cons c rest ih =>
      by_cases hdigit : c.isDigit
      · rw [readDigits, digitValue?_of_isDigit hdigit,
          List.takeWhile_cons_of_pos hdigit, digitsFrom_cons]
        by_cases hnext : 10 * value + (c.toNat - '0'.toNat) ≤ maxWord
        · simp only [hnext, ↓reduceIte]
          apply ih hnext
        · have hle := le_digitsFrom (10 * value + (c.toNat - '0'.toNat))
            (rest.takeWhile Char.isDigit)
          simp only [hnext, ↓reduceIte, true_iff]
          omega
      · rw [readDigits, digitValue?_of_not_isDigit hdigit,
          List.takeWhile_cons_of_neg hdigit]
        simpa [digitsFrom] using hvalue

theorem readWord_eq_readDigits {cs : List Char} (hne : cs ≠ [])
    (hsign : cs ≠ ['+']) : readWord cs = readDigits 0 (withoutSign cs) := by
  obtain ⟨c, rest, rfl⟩ := List.exists_cons_of_ne_nil hne
  by_cases hplus : c = '+'
  · subst hplus
    apply readWord_plus
    rintro rfl
    exact hsign rfl
  · rw [readWord_of_ne_plus hplus, withoutSign_of_ne_plus hplus]

theorem readWord_eq_empty_iff {cs : List Char} :
    readWord cs = .error .empty ↔ cs = [] := by
  by_cases hne : cs = []
  · simp [hne, readWord]
  · by_cases hsign : cs = ['+']
    · simp [hsign, readWord]
    · rw [readWord_eq_readDigits hne hsign]
      exact iff_of_false (readDigits_ne_empty _ _) hne

theorem readWord_eq_tooLarge_iff {cs : List Char} :
    readWord cs = .error .tooLarge ↔
      maxWord < digitsValue (leadingDigits cs) := by
  by_cases hne : cs = []
  · simp [hne, readWord, leadingDigits, withoutSign, digitsValue, digitsFrom]
  · by_cases hsign : cs = ['+']
    · simp [hsign, readWord, leadingDigits, withoutSign, digitsValue,
        digitsFrom]
    · rw [readWord_eq_readDigits hne hsign]
      exact readDigits_eq_tooLarge_iff (Nat.zero_le maxWord)

theorem readWord_eq_error_iff {cs : List Char} {cause : NumeralError} :
    readWord cs = .error cause ↔
      (∀ n, readWord cs ≠ .ok n) ∧ cause = numeralFault cs := by
  have hempty : readWord cs = .error .empty ↔ cs = [] :=
    readWord_eq_empty_iff
  have hlarge : readWord cs = .error .tooLarge ↔
      maxWord < digitsValue (leadingDigits cs) := readWord_eq_tooLarge_iff
  cases h : readWord cs with
  | ok n => simp
  | error e =>
      rw [h] at hempty hlarge
      have hfault : e = numeralFault cs := by
        unfold numeralFault
        cases e <;> simp_all
      simp [hfault, eq_comm]

/-! ## Writing -/

theorem digitChar_lt_ten :
    ∀ d < 10, (digitChar d).isDigit ∧
      (digitChar d).toNat - '0'.toNat = d := by
  decide

theorem isDigit_of_mem_decimalDigits {n : Nat} {c : Char}
    (h : c ∈ decimalDigits n) : c.isDigit := by
  fun_induction decimalDigits n with
  | case1 n hlt =>
      rw [List.mem_singleton.mp h]
      exact (digitChar_lt_ten n hlt).1
  | case2 n hge ih =>
      rcases List.mem_append.mp h with hleft | hlast
      · exact ih hleft
      · rw [List.mem_singleton.mp hlast]
        exact (digitChar_lt_ten _ (Nat.mod_lt n (by decide))).1

theorem decimalDigits_ne_nil (n : Nat) : decimalDigits n ≠ [] := by
  rw [decimalDigits]
  split <;> simp

theorem digitsValue_decimalDigits (n : Nat) :
    digitsValue (decimalDigits n) = n := by
  fun_induction decimalDigits n with
  | case1 n hlt =>
      have hdigit := (digitChar_lt_ten n hlt).2
      simp only [digitsValue, digitsFrom, List.foldl_cons, List.foldl_nil]
      omega
  | case2 n hge ih =>
      have hdigit := (digitChar_lt_ten _ (Nat.mod_lt n (by decide))).2
      rw [digitsValue] at ih ⊢
      rw [digitsFrom_concat, ih, hdigit]
      omega

end AlignedStorage
