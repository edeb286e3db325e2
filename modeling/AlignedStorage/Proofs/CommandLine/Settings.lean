import AlignedStorage.CommandLine.Plain
import AlignedStorage.Proofs.CommandLine.Spelling

/-!
# The options of the plain frontend

The plain frontend reads options one by one, and settles each when the next is
met.  Each adds its own value to those settled before, and candidates keep
their order; so it reads options as documented.
-/

namespace AlignedStorage

/-! ## Forms of an argument -/

theorem Attachable.form_eq {value : String} (h : Attachable value) :
    ArgForm.of value.toList = .plain := by
  obtain ⟨c, rest, hvalue, hdash, _⟩ := h
  rw [hvalue]
  unfold ArgForm.of
  split <;> simp_all

theorem Attachable.attachedValue_eq {value : String} (h : Attachable value) :
    attachedValue value.toList = some value := by
  obtain ⟨c, rest, hvalue, _, hequals⟩ := h
  have hwhole : some (String.ofList (c :: rest)) = some value := by
    rw [← hvalue, String.ofList_toList]
  rw [hvalue, ← hwhole]
  unfold attachedValue
  split <;> simp_all

theorem attachedValue_equals (value : String) :
    attachedValue ("=" ++ value).toList = some value := by
  simp [attachedValue, String.toList_append]

namespace ArgForm

theorem of_letter (option : OptionName) :
    ArgForm.of ("-" ++ option.letter.toString).toList =
      .short option.letter [] := by
  cases option <;> rfl

theorem of_letter_append (option : OptionName) (attached : String) :
    ArgForm.of ("-" ++ option.letter.toString ++ attached).toList =
      .short option.letter attached.toList := by
  cases option <;> simp [ArgForm.of, OptionName.letter, String.toList_append]

theorem of_name (option : OptionName) :
    ArgForm.of ("--" ++ option.long).toList =
      .long option.long.toList none := by
  cases option <;> rfl

theorem of_name_equals (option : OptionName) (value : String) :
    ArgForm.of ("--" ++ option.long ++ ("=" ++ value)).toList =
      .long option.long.toList (some value.toList) := by
  have hname : '=' ∉ option.long.toList := by
    cases option <;> decide
  have hsplit : splitFirst '=' (option.long.toList ++ '=' :: value.toList) =
      some (option.long.toList, value.toList) :=
    splitFirst_eq_some_iff.mpr ⟨rfl, hname⟩
  have htext : ("--" ++ option.long ++ ("=" ++ value)).toList =
      '-' :: '-' :: (option.long.toList ++ '=' :: value.toList) := by
    simp [String.toList_append]
  rw [htext]
  unfold ArgForm.of
  split
  · simp_all
  · rename_i rest heq
    cases heq
    rw [hsplit]
  · rename_i letter attached hdash heq
    cases heq
    exact absurd rfl hdash
  · simp_all

end ArgForm

/-! ## The options that are given -/

/-- The option of an argument, with the value attached to it if there is one. -/
def ArgForm.option? : ArgForm → Option (OptionName × Option String)
  | .long name value =>
      (OptionName.ofLong? name).map (·, value.map String.ofList)
  | .short letter attached =>
      (OptionName.ofLetter? letter).map (·, attachedValue attached)
  | _ => none

/-- The options that arguments give, if they are nothing but options with
values. -/
def givenOptions : List String → Option (List (OptionName × String))
  | [] => some []
  | arg :: rest =>
      match (ArgForm.of arg.toList).option?, rest with
      | some (option, some value), rest =>
          (givenOptions rest).map ((option, value) :: ·)
      | some (option, none), value :: rest =>
          if ArgForm.of value.toList = .plain then
            (givenOptions rest).map ((option, value) :: ·)
          else none
      | _, _ => none

theorem option?_short (option : OptionName) (attached : List Char) :
    (ArgForm.short option.letter attached).option? =
      some (option, attachedValue attached) := by
  cases option <;> rfl

theorem option?_long (option : OptionName) (value : Option (List Char)) :
    (ArgForm.long option.long.toList value).option? =
      some (option, value.map String.ofList) := by
  cases option <;> rfl

theorem givenOptions_of_attached {arg value : String} {option : OptionName}
    (hform : (ArgForm.of arg.toList).option? = some (option, some value))
    (rest : List String) :
    givenOptions (arg :: rest) =
      (givenOptions rest).map ((option, value) :: ·) := by
  rw [givenOptions.eq_def]
  simp only [hform]

theorem givenOptions_of_value {arg value : String} {option : OptionName}
    (hform : (ArgForm.of arg.toList).option? = some (option, none))
    (hvalue : Attachable value) (rest : List String) :
    givenOptions (arg :: value :: rest) =
      (givenOptions rest).map ((option, value) :: ·) := by
  rw [givenOptions.eq_def]
  simp only [hform, hvalue.form_eq, ↓reduceIte]

/-- An option in any of its forms is given with its value. -/
theorem givenOptions_append {option : OptionName} {value : String}
    {front : List String} (hspells : Spells option value front)
    (hvalue : Attachable value) (args : List String) :
    givenOptions (front ++ args) =
      (givenOptions args).map ((option, value) :: ·) := by
  cases hspells with
  | letter =>
      refine givenOptions_of_value ?_ hvalue args
      rw [ArgForm.of_letter, option?_short]
      rfl
  | letterAttached =>
      refine givenOptions_of_attached ?_ args
      rw [ArgForm.of_letter_append, option?_short, hvalue.attachedValue_eq]
  | letterEquals =>
      refine givenOptions_of_attached ?_ args
      rw [ArgForm.of_letter_append, option?_short, attachedValue_equals]
  | name =>
      refine givenOptions_of_value ?_ hvalue args
      rw [ArgForm.of_name, option?_long]
      rfl
  | nameEquals =>
      refine givenOptions_of_attached ?_ args
      rw [ArgForm.of_name_equals, option?_long, Option.map_some,
        String.ofList_toList]

theorem SpellsWord.readWord_eq {text : String} {n : Nat}
    (h : SpellsWord text n) : readWord text.toList = .ok n :=
  readWord_eq_ok_iff.mpr ⟨[], text.toList, rfl, .inl rfl, h.ne_nil,
    h.isDigit, h.value_eq, h.le_maxWord⟩

/-- A number that is settled already, or is still to come, but not both. -/
def Outstanding (old : Option Nat) (texts : List String)
    (final : Option Nat) : Prop :=
  ∃ ns, List.Forall₂ SpellsWord texts ns ∧ old.toList ++ ns = final.toList

theorem outstanding_nil_iff {old final : Option Nat} :
    Outstanding old [] final ↔ old = final := by
  constructor
  · rintro ⟨ns, hspell, heq⟩
    cases hspell
    cases old <;> cases final <;> simp_all
  · rintro rfl
    exact ⟨[], .nil, List.append_nil _⟩

/-- The next text for a number that is still to come is taken for it. -/
theorem Outstanding.exists_settleNumber {old final : Option Nat}
    {text : String} {texts : List String}
    (h : Outstanding old (text :: texts) final) (option : OptionName) :
    ∃ n, StorageOptions.settleNumber option old text = .ok n ∧
      Outstanding (some n) texts final := by
  obtain ⟨ns, hspell, heq⟩ := h
  cases hspell with
  | cons hfirst hrest =>
      cases old with
      | some m => cases final <;> simp at heq
      | none =>
          refine ⟨_, ?_, _, hrest, heq⟩
          simp [StorageOptions.settleNumber, hfirst.readWord_eq]

/-! ## Reading all options -/

/-- Options settled so far that make one request together with the settings
still to come. -/
structure Remaining (p : StorageOptions)
    (settings : List (OptionName × String)) (align : Nat)
    (size : Option Nat) (candidates : List String) : Prop where
  pending_eq : p.pending = none
  align : Outstanding p.align (valuesOf .align settings) (some align)
  size : Outstanding p.size (valuesOf .size settings) size
  candidates_eq : p.candidates ++ valuesOf .candidate settings = candidates

section

variable {o p q : StorageOptions} {option : OptionName} {value : String}
  {settings : List (OptionName × String)} {align : Nat} {size : Option Nat}
  {candidates : List String}

/-- One step: settling a value takes it off those still to come. -/
theorem Remaining.exists_settle
    (h : Remaining p ((option, value) :: settings) align size candidates) :
    ∃ q, p.settle option value = .ok q ∧
      Remaining q settings align size candidates := by
  obtain ⟨hpending, halign, hsize, hcandidates⟩ := h
  cases option with
  | align =>
      rw [valuesOf_cons_self] at halign
      rw [valuesOf_cons_of_ne (by decide)] at hsize hcandidates
      obtain ⟨n, hn, hrest⟩ := halign.exists_settleNumber .align
      refine ⟨{ p with align := some n }, ?_,
        hpending, hrest, hsize, hcandidates⟩
      simp only [StorageOptions.settle, hn]
      rfl
  | size =>
      rw [valuesOf_cons_self] at hsize
      rw [valuesOf_cons_of_ne (by decide)] at halign hcandidates
      obtain ⟨n, hn, hrest⟩ := hsize.exists_settleNumber .size
      refine ⟨{ p with size := some n }, ?_,
        hpending, halign, hrest, hcandidates⟩
      simp only [StorageOptions.settle, hn]
      rfl
  | candidate =>
      rw [valuesOf_cons_self] at hcandidates
      rw [valuesOf_cons_of_ne (by decide)] at halign hsize
      refine ⟨{ p with candidates := p.candidates ++ [value] }, rfl,
        hpending, halign, hsize, ?_⟩
      rw [← hcandidates, List.append_assoc]
      rfl

theorem Remaining.request_eq (h : Remaining p [] align size candidates)
    (ho : o.settlePending = .ok p) :
    o.request = .ok (.storage align (size.getD 0) candidates) := by
  have halign := outstanding_nil_iff.mp h.align
  have hsize := outstanding_nil_iff.mp h.size
  have hcandidates : p.candidates = candidates := by
    rw [← h.candidates_eq]
    exact (List.append_nil p.candidates).symm
  rw [StorageOptions.request, ho, ← hsize, ← hcandidates]
  simp only [bind, Except.bind, halign]
  rfl

theorem meet_none (ho : o.settlePending = .ok p) :
    o.meet option none = .ok { p with pending := some (option, none) } := by
  simp only [StorageOptions.meet, ho]
  rfl

theorem meet_some (ho : o.settlePending = .ok p) :
    o.meet option (some value) = p.settle option value := by
  simp only [StorageOptions.meet, ho]
  rfl

/-- A value that comes behind its option is settled when the option is. -/
theorem settlePending_giveValue (hp : p.pending = none) :
    ({ p with pending := some (option, none) }.giveValue value).settlePending =
      p.settle option value := by
  obtain ⟨align, size, candidates, pending⟩ := p
  cases hp
  rfl

theorem settlePending_of_pending_eq_none (hp : p.pending = none) :
    p.settlePending = .ok p := by
  rw [StorageOptions.settlePending, hp]

end

section

variable {o p q : StorageOptions} {option : OptionName} {arg value : String}
  {attached : Option String} {args rest : List String}
  {settings : List (OptionName × String)} {align : Nat} {size : Option Nat}
  {candidates : List String}

/-- An argument that is an option asks for no explanation. -/
theorem readStorage_of_option
    (hform : (ArgForm.of arg.toList).option? = some (option, attached))
    (hmeet : o.meet option attached = .ok q) :
    readStorage o (arg :: rest) = readStorage q rest := by
  rw [readStorage.eq_def]
  cases hof : ArgForm.of arg.toList with
  | escape =>
      rw [hof] at hform
      cases hform
  | plain =>
      rw [hof] at hform
      cases hform
  | short letter text =>
      rw [hof] at hform
      obtain ⟨found, hletter, hfound⟩ := Option.map_eq_some_iff.mp hform
      cases hfound
      have hhelp : letter ≠ 'h' := by
        rintro rfl
        cases hletter
      simp only [hof, ArgForm.asksHelp, hhelp, hletter, hmeet, decide_false,
        Bool.false_eq_true, ↓reduceIte]
  | long name text =>
      rw [hof] at hform
      obtain ⟨found, hname, hfound⟩ := Option.map_eq_some_iff.mp hform
      cases hfound
      have hhelp : (ArgForm.long name text).asksHelp = false := by
        cases text with
        | some text => rfl
        | none =>
            refine decide_eq_false ?_
            rintro rfl
            cases hname
      simp only [hof, hhelp, hname, hmeet, Bool.false_eq_true, ↓reduceIte]

theorem readStorage_of_value (hvalue : ArgForm.of value.toList = .plain)
    (hawaits : o.awaitsValue) :
    readStorage o (value :: rest) = readStorage (o.giveValue value) rest := by
  rw [readStorage.eq_def]
  simp only [hvalue, ArgForm.asksHelp, hawaits, Bool.false_eq_true,
    ↓reduceIte]

/-- All steps: the options that are given make the request that their values
say. -/
theorem readStorage_eq_ok (hgiven : givenOptions args = some settings)
    (ho : o.settlePending = .ok p)
    (h : Remaining p settings align size candidates) :
    readStorage o args = .ok (.storage align (size.getD 0) candidates) := by
  fun_induction givenOptions args generalizing o p settings with
  | case1 =>
      cases hgiven
      rw [readStorage.eq_def]
      exact h.request_eq ho
  | case2 arg option value rest hform ih =>
      obtain ⟨others, hrest, rfl⟩ := Option.map_eq_some_iff.mp hgiven
      obtain ⟨q, hsettle, hq⟩ := h.exists_settle
      have hmeet : o.meet option (some value) = .ok q := by
        rw [meet_some ho, hsettle]
      rw [readStorage_of_option hform hmeet]
      exact ih hrest (settlePending_of_pending_eq_none hq.pending_eq) hq
  | case3 arg option value rest hform hplain ih =>
      obtain ⟨others, hrest, rfl⟩ := Option.map_eq_some_iff.mp hgiven
      obtain ⟨q, hsettle, hq⟩ := h.exists_settle
      rw [readStorage_of_option hform (meet_none ho),
        readStorage_of_value hplain rfl]
      refine ih hrest ?_ hq
      rw [settlePending_giveValue h.pending_eq, hsettle]
  | case4 => cases hgiven
  | case5 => cases hgiven

end

theorem Frontend.readsOptions_plain (place note : String) :
    (plain place note).ReadsOptions givenOptions where
  given_nil := rfl
  given_append := givenOptions_append
  read_storage := by
    intro args settings align size hgiven halign hsize
    have hstart : Remaining {} settings align size
        (valuesOf .candidate settings) :=
      ⟨rfl, ⟨_, halign, rfl⟩, ⟨_, hsize, rfl⟩, rfl⟩
    have hrequest : Request.ofArgs ("storage" :: args) =
        .ok (.storage align (size.getD 0) (valuesOf .candidate settings)) :=
      readStorage_eq_ok hgiven rfl hstart
    simp only [plain, hrequest]

end AlignedStorage
