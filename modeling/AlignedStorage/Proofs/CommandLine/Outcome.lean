import AlignedStorage.Proofs.CommandLine.Settings
import AlignedStorage.Proofs.Report.Storage

/-!
# What a run shows

The arguments of the storage command make the request that their values say,
however they are spelled.  So a run shows the report on these values: its lines
on one stream, and on the other what the report ends with.
-/

namespace AlignedStorage

/-! ## How reports end -/

/-- A report never meets another fault than that of a union. -/
theorem eq_unlayable_of_ending {align size : Nat} {texts : List String}
    {x : Fault} (h : (storageReport align size texts).ending = .fault x) :
    x = .unlayable := by
  cases hl : storageLayout align size with
  | error e => simp [storageReport, hl] at h
  | ok l =>
      cases texts with
      | nil => simp [storageReport, hl] at h
      | cons text texts =>
          cases hu : unionOf (text :: texts) with
          | ok u => simp [storageReport, hl, hu] at h
          | error e =>
              have hreport : storageReport align size (text :: texts) =
                  ⟨[arrayLine align size l], .fault x⟩ := by
                simp_all [storageReport]
              exact ((storageReport_eq_fault_iff hl).mp hreport).2.1

theorem newline_notMem_decimal (n : Nat) : '\n' ∉ (decimal n).toList := by
  rw [decimal, String.toList_ofList]
  exact fun h ↦ absurd (isDigit_of_mem_decimalDigits h) (by decide)

theorem AlignmentError.newline_notMem_message (e : AlignmentError) :
    '\n' ∉ e.message.toList := by
  cases e with
  | zero => decide
  | notPowerOfTwo align =>
      simp [message, String.toList_append, newline_notMem_decimal]
  | tooLarge align =>
      simp [message, String.toList_append, newline_notMem_decimal]
  | sizeOverflow size =>
      simp [message, String.toList_append, newline_notMem_decimal]

theorem NumeralError.newline_notMem_message (e : NumeralError) :
    '\n' ∉ e.message.toList := by
  cases e <;> decide

/-- An error has at most one cause, which is a single line. -/
theorem ReportError.chain_cases (e : ReportError) :
    (∃ message, e.chain = [message]) ∨
      ∃ message cause, e.chain = [message, cause] ∧ '\n' ∉ cause.toList := by
  cases e with
  | noStorage align size cause =>
      exact .inr ⟨_, _, rfl, cause.newline_notMem_message⟩
  | tooManyCandidates count => exact .inl ⟨_, rfl⟩
  | candidate cause =>
      cases cause with
      | noColon text => exact .inl ⟨_, rfl⟩
      | size cause => exact .inr ⟨_, _, rfl, cause.newline_notMem_message⟩
      | align cause => exact .inr ⟨_, _, rfl, cause.newline_notMem_message⟩
      | alignment cause => exact .inl ⟨_, rfl⟩
      | layout cause => exact .inl ⟨_, rfl⟩

/-! ## Runs -/

/-- An outcome that shows a report: its lines, each with its end, and behind
them how it ends.  An error is shown with its cause below it, if it has one, and
a fault by its message on a line of its own. -/
structure Outcome.Shows (outcome : Outcome) (report : Report) : Prop where
  out_eq : outcome.out = String.join (report.lines.map (· ++ "\n"))
  complete : report.ending = .complete →
    outcome.err = "" ∧ outcome.status = .code 0
  error : ∀ e, report.ending = .error e → outcome.status = .code 1 ∧
    ((∃ message, e.chain = [message] ∧
        outcome.err = "Error: " ++ message ++ "\n") ∨
      ∃ message cause, e.chain = [message, cause] ∧
        outcome.err = "Error: " ++ message ++ "\n\nCaused by:\n    " ++ cause ++
          "\n")
  fault : ∀ x, report.ending = .fault x → outcome.status = .aborted ∧
    ∃ before behind, outcome.err =
      before ++ "internal error: entered unreachable code" ++ "\n" ++ behind

theorem Frontend.ReportsCauses.shows_outcome {f : Frontend}
    (hf : f.ReportsCauses) {report : Report}
    (hfault : ∀ x, report.ending = .fault x → x = .unlayable) :
    (report.outcome f).Shows report := by
  obtain ⟨lines, ending⟩ := report
  cases ending with
  | complete => exact ⟨rfl, fun _ ↦ ⟨rfl, rfl⟩, nofun, nofun⟩
  | error e =>
      refine ⟨rfl, nofun, fun d hd ↦ ?_, nofun⟩
      cases hd
      refine ⟨rfl, ?_⟩
      rcases e.chain_cases with ⟨message, hchain⟩ |
        ⟨message, cause, hchain, hline⟩
      · refine .inl ⟨message, hchain, ?_⟩
        simp only [Report.outcome, hchain, hf.message]
      · refine .inr ⟨message, cause, hchain, ?_⟩
        simp only [Report.outcome, hchain, hf.cause message cause hline,
          String.append_assoc]
  | fault x =>
      refine ⟨rfl, nofun, nofun, fun y hy ↦ ?_⟩
      cases hy
      obtain rfl := hfault x rfl
      exact ⟨rfl, hf.fault _⟩

/-- The arguments of the storage command mean the same however they are
spelled.  If they give one alignment, at most one size and some candidates, in
any order and each in any form, the program shows the report on just these. -/
theorem run_shows_report {f : Frontend}
    {given : List String → Option (List (OptionName × String))}
    (hread : f.ReadsOptions given) (hcauses : f.ReportsCauses)
    {settings : List (OptionName × String)} {args : List String} {align : Nat}
    {size : Option Nat} {candidates : List String}
    (hspells : SpellsAll settings args)
    (halign : List.Forall₂ SpellsWord (valuesOf .align settings) [align])
    (hsize : List.Forall₂ SpellsWord (valuesOf .size settings) size.toList)
    (hcandidates : valuesOf .candidate settings = candidates)
    (htexts : ∀ text ∈ candidates, Attachable text) :
    f.run ("storage" :: args) =
        (storageReport align (size.getD 0) candidates).outcome f ∧
      (f.run ("storage" :: args)).Shows
        (storageReport align (size.getD 0) candidates) := by
  have hrun : f.run ("storage" :: args) =
      (storageReport align (size.getD 0) candidates).outcome f := by
    rw [Frontend.run, hread.read_eq hspells halign hsize hcandidates htexts]
    rfl
  refine ⟨hrun, ?_⟩
  rw [hrun]
  exact hcauses.shows_outcome fun _ ↦ eq_unlayable_of_ending

theorem Frontend.reportsCauses_plain (place note : String) :
    (plain place note).ReportsCauses where
  message _ := rfl
  cause message cause _ := by
    change message ++ "\n\nCaused by:" ++ ("" ++ ("\n    " ++ cause)) = _
    simp only [String.append_assoc, String.empty_append]
    rfl
  fault message :=
    ⟨"\nthread 'main' panicked at " ++ place ++ ":\n", note, rfl⟩

/-- Runs with every form of an option in them.  The first shows its report to
the end; the others are refused for a cause, refused without one, and ended by a
fault behind the line of the array. -/
theorem run_fiveForms :
    let f := Frontend.plain "a report" ""
    f.ReadsOptions givenOptions ∧ f.ReportsCauses ∧
    f.run ["storage", "-c1:1", "--size", "3", "-a=08", "--candidate=12:4",
        "-c", "2:2"] =
      ⟨"AlignedCharArray<8, 3>: size=8 align=8\n" ++
        "AlignedCharArrayUnion (3 candidates): size=12 align=4\n",
        "", .code 0⟩ ∧
    f.run ["storage", "--align=24"] =
      ⟨"", "Error: no storage for align=24 size=0\n\nCaused by:\n" ++
        "    alignment 24 is not a power of two\n", .code 1⟩ ∧
    f.run ["storage", "-cbad", "-a8"] =
      ⟨"AlignedCharArray<8, 0>: size=0 align=8\n",
        "Error: candidate `bad` is not SIZE:ALIGN\n", .code 1⟩ ∧
    f.run ["storage", "-a8", "-c9223372036854775804:4", "--candidate", "8:8"] =
      ⟨"AlignedCharArray<8, 0>: size=0 align=8\n",
        "\nthread 'main' panicked at a report:\n" ++
        "internal error: entered unreachable code\n", .aborted⟩ := by
  have hread := Frontend.readsOptions_plain "a report" ""
  have hcauses := Frontend.reportsCauses_plain "a report" ""
  have hnone : List.Forall₂ SpellsWord [] (none : Option Nat).toList := .nil
  refine ⟨hread, hcauses, ?complete, ?caused, ?bare, ?aborted⟩
  case complete =>
    have hspells : SpellsAll [(.candidate, "1:1"), (.size, "3"),
          (.align, "08"), (.candidate, "12:4"), (.candidate, "2:2")]
        ["-c1:1", "--size", "3", "-a=08", "--candidate=12:4", "-c", "2:2"] :=
      .cons .letterAttached <| .cons .name <| .cons .letterEquals <|
        .cons .nameEquals <| .cons .letter .nil
    have halign : List.Forall₂ SpellsWord ["08"] [8] := .cons (by decide) .nil
    have hsize : List.Forall₂ SpellsWord ["3"] (some 3).toList :=
      .cons (by decide) .nil
    obtain ⟨hrun, _⟩ :=
      run_shows_report hread hcauses hspells halign hsize rfl (by decide)
    rw [hrun]
    decide +kernel
  case caused =>
    have hspells : SpellsAll [(.align, "24")] ["--align=24"] :=
      .cons .nameEquals .nil
    have halign : List.Forall₂ SpellsWord ["24"] [24] := .cons (by decide) .nil
    obtain ⟨hrun, _⟩ :=
      run_shows_report hread hcauses hspells halign hnone rfl (by decide)
    rw [hrun]
    decide +kernel
  case bare =>
    have hspells : SpellsAll [(.candidate, "bad"), (.align, "8")]
        ["-cbad", "-a8"] :=
      .cons .letterAttached <| .cons .letterAttached .nil
    have halign : List.Forall₂ SpellsWord ["8"] [8] := .cons (by decide) .nil
    obtain ⟨hrun, _⟩ :=
      run_shows_report hread hcauses hspells halign hnone rfl (by decide)
    rw [hrun]
    decide +kernel
  case aborted =>
    have hspells : SpellsAll [(.align, "8"),
          (.candidate, "9223372036854775804:4"), (.candidate, "8:8")]
        ["-a8", "-c9223372036854775804:4", "--candidate", "8:8"] :=
      .cons .letterAttached <| .cons .letterAttached <| .cons .name .nil
    have halign : List.Forall₂ SpellsWord ["8"] [8] := .cons (by decide) .nil
    obtain ⟨hrun, _⟩ :=
      run_shows_report hread hcauses hspells halign hnone rfl (by decide)
    rw [hrun]
    decide +kernel

end AlignedStorage
