import Mathlib.Data.List.Forall2
import AlignedStorage.CommandLine.Outcome
import AlignedStorage.Proofs.Numeral

/-!
# Spellings of options

An option can be given by its letter or by its name, with the value behind it,
attached to it, or attached by an equals sign.  A frontend `ReadsOptions` when
it takes every form for the option with its value, and makes of the values the
request that they declare.
-/

namespace AlignedStorage

/-! ## Forms of an option -/

inductive Spells (option : OptionName) (value : String) : List String → Prop
  | letter : Spells option value ["-" ++ option.letter.toString, value]
  | letterAttached :
      Spells option value ["-" ++ option.letter.toString ++ value]
  | letterEquals :
      Spells option value ["-" ++ option.letter.toString ++ ("=" ++ value)]
  | name : Spells option value ["--" ++ option.long, value]
  | nameEquals : Spells option value ["--" ++ option.long ++ ("=" ++ value)]

/-- A value that can stand behind its option as well as be attached to it. -/
def Attachable (value : String) : Prop :=
  ∃ c rest, value.toList = c :: rest ∧ c ≠ '-' ∧ c ≠ '='

theorem attachable_iff {value : String} :
    Attachable value ↔
      value.toList ≠ [] ∧ value.toList.head? ≠ some '-' ∧
        value.toList.head? ≠ some '=' := by
  unfold Attachable
  cases value.toList <;> simp

instance (value : String) : Decidable (Attachable value) :=
  decidable_of_iff _ attachable_iff.symm

/-! ## Numbers and settings -/

/-- A text of decimal digits that spells a number of machine size. -/
structure SpellsWord (text : String) (n : Nat) : Prop where
  ne_nil : text.toList ≠ []
  isDigit : ∀ c ∈ text.toList, c.isDigit
  value_eq : digitsValue text.toList = n
  le_maxWord : n ≤ maxWord

theorem spellsWord_iff {text : String} {n : Nat} :
    SpellsWord text n ↔
      text.toList ≠ [] ∧ text.toList.all Char.isDigit = true ∧
        digitsValue text.toList = n ∧ n ≤ maxWord := by
  rw [List.all_eq_true]
  exact ⟨fun ⟨hne, hdigits, hvalue, hle⟩ ↦ ⟨hne, hdigits, hvalue, hle⟩,
    fun ⟨hne, hdigits, hvalue, hle⟩ ↦ ⟨hne, hdigits, hvalue, hle⟩⟩

instance (text : String) (n : Nat) : Decidable (SpellsWord text n) :=
  decidable_of_iff _ spellsWord_iff.symm

theorem spellsWord_decimal {n : Nat} (h : n ≤ maxWord) :
    SpellsWord (decimal n) n where
  ne_nil := by
    rw [decimal, String.toList_ofList]
    exact decimalDigits_ne_nil n
  isDigit := by
    rw [decimal, String.toList_ofList]
    exact fun c ↦ isDigit_of_mem_decimalDigits
  value_eq := by
    rw [decimal, String.toList_ofList, digitsValue_decimalDigits]
  le_maxWord := h

theorem SpellsWord.attachable {text : String} {n : Nat}
    (h : SpellsWord text n) : Attachable text := by
  obtain ⟨c, rest, htext⟩ := List.exists_cons_of_ne_nil h.ne_nil
  have hdigit : c.isDigit := h.isDigit c (htext ▸ List.mem_cons_self)
  refine ⟨c, rest, htext, ?_, ?_⟩
  · rintro rfl
    exact absurd hdigit (by decide)
  · rintro rfl
    exact absurd hdigit (by decide)

theorem attachable_of_forall₂ {texts : List String} {ns : List Nat}
    (h : List.Forall₂ SpellsWord texts ns) :
    ∀ text ∈ texts, Attachable text := by
  induction h with
  | nil => nofun
  | cons hfirst _ ih => exact List.forall_mem_cons.mpr ⟨hfirst.attachable, ih⟩

/-- Options with their values, each in one of its forms. -/
inductive SpellsAll : List (OptionName × String) → List String → Prop
  | nil : SpellsAll [] []
  | cons {option : OptionName} {value : String} {front args : List String}
      {settings : List (OptionName × String)}
      (hfirst : Spells option value front) (hrest : SpellsAll settings args) :
      SpellsAll ((option, value) :: settings) (front ++ args)

/-- The values given for an option, in order. -/
def valuesOf (option : OptionName) (settings : List (OptionName × String)) :
    List String :=
  (settings.filter (·.1 = option)).map Prod.snd

theorem valuesOf_cons_self (option : OptionName) (value : String)
    (settings : List (OptionName × String)) :
    valuesOf option ((option, value) :: settings) =
      value :: valuesOf option settings := by
  simp [valuesOf]

theorem valuesOf_cons_of_ne {option other : OptionName} (h : other ≠ option)
    (value : String) (settings : List (OptionName × String)) :
    valuesOf option ((other, value) :: settings) =
      valuesOf option settings := by
  simp [valuesOf, h]

theorem mem_valuesOf {option : OptionName} {value : String}
    {settings : List (OptionName × String)}
    (h : (option, value) ∈ settings) : value ∈ valuesOf option settings :=
  List.mem_map.mpr
    ⟨(option, value), List.mem_filter.mpr ⟨h, decide_eq_true rfl⟩, rfl⟩

/-! ## What is documented of a frontend -/

/-- What is documented of the reading of options.  `given` tells which options
arguments give, with their values, in order. -/
structure Frontend.ReadsOptions (f : Frontend)
    (given : List String → Option (List (OptionName × String))) : Prop where
  given_nil : given [] = some []
  /-- Each form is taken for the option with its value. -/
  given_append : ∀ {option value front}, Spells option value front →
    Attachable value → ∀ args,
      given (front ++ args) = (given args).map ((option, value) :: ·)
  /-- The alignment is required, the size is zero unless it is given, and the
  candidates are collected. -/
  read_storage : ∀ {args : List String}
      {settings : List (OptionName × String)} {align : Nat}
      {size : Option Nat}, given args = some settings →
    List.Forall₂ SpellsWord (valuesOf .align settings) [align] →
    List.Forall₂ SpellsWord (valuesOf .size settings) size.toList →
    f.read ("storage" :: args) =
      .ok (.storage align (size.getD 0) (valuesOf .candidate settings))

/-- What is documented of the reports on errors and faults. -/
structure Frontend.ReportsCauses (f : Frontend) : Prop where
  message : ∀ message, f.errorText [message] = message
  /-- A cause of one line is listed below the message. -/
  cause : ∀ message cause, '\n' ∉ cause.toList →
    f.errorText [message, cause] = message ++ "\n\nCaused by:\n    " ++ cause
  fault : ∀ message, ∃ before behind,
    f.faultText message = before ++ message ++ "\n" ++ behind

section

variable {f : Frontend}
  {given : List String → Option (List (OptionName × String))}
  {settings : List (OptionName × String)} {args : List String}

/-- All options are taken for what they spell, one after the other. -/
theorem Frontend.ReadsOptions.given_eq (h : f.ReadsOptions given)
    (hspells : SpellsAll settings args)
    (hvalues : ∀ s ∈ settings, Attachable s.2) : given args = some settings := by
  induction hspells with
  | nil => exact h.given_nil
  | cons hfirst _ ih =>
      obtain ⟨hvalue, hrest⟩ := List.forall_mem_cons.mp hvalues
      rw [h.given_append hfirst hvalue, ih hrest]
      rfl

theorem Frontend.ReadsOptions.read_eq (h : f.ReadsOptions given)
    (hspells : SpellsAll settings args) {align : Nat} {size : Option Nat}
    {candidates : List String}
    (halign : List.Forall₂ SpellsWord (valuesOf .align settings) [align])
    (hsize : List.Forall₂ SpellsWord (valuesOf .size settings) size.toList)
    (hcandidates : valuesOf .candidate settings = candidates)
    (htexts : ∀ text ∈ candidates, Attachable text) :
    f.read ("storage" :: args) =
      .ok (.storage align (size.getD 0) candidates) := by
  have hvalues : ∀ s ∈ settings, Attachable s.2 := by
    rintro ⟨option, value⟩ hs
    cases option with
    | align => exact attachable_of_forall₂ halign value (mem_valuesOf hs)
    | size => exact attachable_of_forall₂ hsize value (mem_valuesOf hs)
    | candidate => exact htexts value (hcandidates ▸ mem_valuesOf hs)
  rw [h.read_storage (h.given_eq hspells hvalues) halign hsize, hcandidates]

end

end AlignedStorage
