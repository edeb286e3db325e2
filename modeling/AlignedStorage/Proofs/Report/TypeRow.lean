import AlignedStorage.Proofs.Console.Chunking
import AlignedStorage.Proofs.Console.Run
import AlignedStorage.Proofs.Numeral
import AlignedStorage.Report.TypeTable

/-!
# Reading rows back

A row of the type table is read from its end: the marks have a fixed width,
and the last two columns hold no spaces, so each of them starts behind the
last space.  What is left is the name with the spaces up to its width.  Only
the spaces at the end of a name are lost.
-/

namespace AlignedStorage

/-! ## Columns -/

/-- What stands behind the last space is determined. -/
theorem append_space_inj {xs ys cs ds : List Char} (hc : ' ' ∉ cs)
    (hd : ' ' ∉ ds) (h : xs ++ ' ' :: cs = ys ++ ' ' :: ds) :
    xs = ys ∧ cs = ds := by
  rcases List.append_eq_append_iff.mp h with
    ⟨zs, rfl, hzs⟩ | ⟨zs, rfl, hzs⟩
  · cases zs with
    | nil => simpa using hzs
    | cons z zs =>
        obtain ⟨rfl, rfl⟩ := List.cons_eq_cons.mp hzs
        simp at hc
  · cases zs with
    | nil => simpa [eq_comm] using hzs
    | cons z zs =>
        obtain ⟨rfl, rfl⟩ := List.cons_eq_cons.mp hzs
        simp at hd

/-- A column that holds no spaces can be taken off the end of a line. -/
theorem append_padStart_inj {width : Nat} {xs ys cs ds : List Char}
    (hc : ' ' ∉ cs) (hd : ' ' ∉ ds)
    (h : xs ++ [' '] ++ padStart width cs = ys ++ [' '] ++ padStart width ds) :
    xs = ys ∧ cs = ds := by
  -- The space in front of the column can as well stand behind its padding.
  have hmove (us vs : List Char) : us ++ [' '] ++ padStart width vs =
      us ++ List.replicate (width - vs.length) ' ' ++ ' ' :: vs := by
    have hspaces (k : Nat) :
        ' ' :: List.replicate k ' ' = List.replicate k ' ' ++ [' '] := by
      rw [← List.replicate_succ, List.replicate_succ']
    calc
      us ++ [' '] ++ padStart width vs =
          us ++ ' ' :: List.replicate (width - vs.length) ' ' ++ vs := by
        simp [padStart]
      _ = us ++ List.replicate (width - vs.length) ' ' ++ ' ' :: vs := by
        rw [hspaces]
        simp
  rw [hmove, hmove] at h
  obtain ⟨hfront, rfl⟩ := append_space_inj hc hd h
  exact ⟨List.append_cancel_right hfront, rfl⟩

theorem length_padStart (width : Nat) (cs : List Char) :
    (padStart width cs).length = max width cs.length := by
  rw [padStart, List.length_append, List.length_replicate]
  omega

theorem length_padEnd (width : Nat) (cs : List Char) :
    (padEnd width cs).length = max width cs.length := by
  rw [padEnd, List.length_append, List.length_replicate]
  omega

/-- Two texts that differ in the spaces at their ends only. -/
def SameUpToSpaces (cs ds : List Char) : Prop :=
  ∃ core m n, cs = core ++ List.replicate m ' ' ∧
    ds = core ++ List.replicate n ' '

theorem sameUpToSpaces_of_append {m n : Nat} {cs ds : List Char}
    (h : cs ++ List.replicate m ' ' = ds ++ List.replicate n ' ') :
    SameUpToSpaces cs ds := by
  rcases List.append_eq_append_iff.mp h with
    ⟨zs, rfl, hzs⟩ | ⟨zs, rfl, hzs⟩
  · obtain ⟨_, hspaces, _⟩ := List.append_eq_replicate_iff.mp hzs.symm
    refine ⟨cs, 0, zs.length, by simp, ?_⟩
    rw [← hspaces]
  · obtain ⟨_, hspaces, _⟩ := List.append_eq_replicate_iff.mp hzs.symm
    refine ⟨ds, zs.length, 0, ?_, by simp⟩
    rw [← hspaces]

theorem SameUpToSpaces.eq {cs ds : List Char} (h : SameUpToSpaces cs ds)
    (hc : cs.getLast? ≠ some ' ') (hd : ds.getLast? ≠ some ' ') :
    cs = ds := by
  obtain ⟨core, m, n, rfl, rfl⟩ := h
  cases m with
  | zero =>
      cases n with
      | zero => rfl
      | succ n => simp [List.replicate_succ'] at hd
  | succ m => simp [List.replicate_succ'] at hc

/-! ## Figures and marks -/

theorem space_notMem_decimalDigits (n : Nat) : ' ' ∉ decimalDigits n := by
  intro h
  have hdigit := isDigit_of_mem_decimalDigits h
  exact absurd hdigit (by decide)

theorem decimalDigits_injective {n m : Nat}
    (h : decimalDigits n = decimalDigits m) : n = m := by
  rw [← digitsValue_decimalDigits n, h, digitsValue_decimalDigits]

theorem Thresholds.marks_injective {t u : Thresholds}
    (h : t.marks = u.marks) : t = u := by
  have hmark {b c : Bool} (hbc : mark b = mark c) : b = c := by
    cases b <;> cases c <;> simp_all [mark]
  simp only [marks, List.cons.injEq, true_and, and_true] at h
  obtain ⟨htwo, hfour, height, hsixteen⟩ := h
  cases t
  cases u
  simp only [mk.injEq]
  exact ⟨hmark htwo, hmark hfour, hmark height, hmark hsixteen⟩

namespace TypeRow

theorem space_notMem_sizeText (r : TypeRow) : ' ' ∉ r.sizeText := by
  unfold sizeText
  split
  · apply space_notMem_decimalDigits
  · decide

theorem size_eq_of_sizeText_eq {r s : TypeRow} (h : r.sizeText = s.sizeText) :
    r.size = s.size := by
  have hunknown (n : Nat) : decimalDigits n ≠ ['?'] := by
    intro hn
    have hdigit := isDigit_of_mem_decimalDigits (n := n) (c := '?') (by simp [hn])
    exact absurd hdigit (by decide)
  unfold sizeText at h
  cases hr : r.size with
  | none =>
      cases hs : s.size with
      | none => rfl
      | some n =>
          rw [hr, hs] at h
          exact absurd h.symm (hunknown n)
  | some n =>
      rw [hr] at h
      cases hs : s.size with
      | none =>
          rw [hs] at h
          exact absurd h (hunknown n)
      | some m =>
          rw [hs] at h
          rw [decimalDigits_injective h]

/-- All but the name of two rows is the same. -/
structure SameFigures (r s : TypeRow) : Prop where
  align_eq : r.align = s.align
  size_eq : r.size = s.size
  atLeast_eq : r.atLeast = s.atLeast
  atMost_eq : r.atMost = s.atMost

theorem SameFigures.eq {r s : TypeRow} (h : r.SameFigures s)
    (hname : r.name = s.name) : r = s := by
  obtain ⟨halign, hsize, hleast, hmost⟩ := h
  cases r
  cases s
  simp_all

/-- A line determines everything but the width of the name. -/
theorem line_eq_iff {r s : TypeRow} :
    r.line = s.line ↔ r.SameFigures s ∧
      padEnd nameWidth r.name.toList = padEnd nameWidth s.name.toList := by
  constructor
  · intro h
    have hchars := String.ofList_injective h
    have hmarks (t u : Thresholds) : t.marks.length = u.marks.length := rfl
    -- From the right: the marks, the size, the alignment.
    obtain ⟨hchars, hmost⟩ := List.append_inj' hchars (hmarks _ _)
    have hchars := List.append_cancel_right hchars
    obtain ⟨hchars, hleast⟩ := List.append_inj' hchars (hmarks _ _)
    have hchars := List.append_cancel_right hchars
    obtain ⟨hchars, hsize⟩ := append_padStart_inj r.space_notMem_sizeText
      s.space_notMem_sizeText hchars
    obtain ⟨hname, halign⟩ := append_padStart_inj
      (space_notMem_decimalDigits r.align)
      (space_notMem_decimalDigits s.align) hchars
    exact ⟨⟨decimalDigits_injective halign, size_eq_of_sizeText_eq hsize,
      Thresholds.marks_injective hleast, Thresholds.marks_injective hmost⟩,
      hname⟩
  · rintro ⟨⟨halign, hsize, hleast, hmost⟩, hname⟩
    have htext : r.sizeText = s.sizeText := by rw [sizeText, sizeText, hsize]
    rw [line, line, halign, htext, hleast, hmost, hname]

theorem length_line (r : TypeRow) :
    r.line.length = max nameWidth r.name.length +
      max figureWidth (decimalDigits r.align).length +
      max figureWidth r.sizeText.length + 22 := by
  simp only [line, String.length_ofList, List.length_append, length_padEnd,
    length_padStart, String.length_toList, List.length_cons, List.length_nil,
    Thresholds.marks]
  omega

end TypeRow

/-! ## What is printed -/

theorem utf8_injective {s t : String} (h : utf8 s = utf8 t) : s = t := by
  rw [← String.toByteArray_inj, ← String.utf8Encode_toList,
    ← String.utf8Encode_toList]
  exact congrArg List.toByteArray h

namespace Console

/-- A system that takes all it is offered gets a line of texts as it is, with
a newline behind it. -/
theorem taken_print_ofTexts {c : Console} {s : Stream}
    (hc : (c.buffer s).Idle s) (texts : List String) :
    (c.print takeAll (.ofTexts s texts true)).2.flatMap Call.taken =
      texts.flatMap utf8 ++ [newlineByte] := by
  have hcalls : (c.print takeAll (.ofTexts s texts true)).2 =
      handOverAll takeAll s
        (chunks (texts.flatMap utf8 ++ [newlineByte])
          (chunkCount (texts.flatMap utf8 ++ [newlineByte]).length)) :=
    calls_print_ofTexts hc rfl
  have htaken : ∀ call ∈ (c.print takeAll (.ofTexts s texts true)).2,
      call.taken = call.offered :=
    fun _ hcall ↦ taken_of_mem_print_takeAll hc hcall
  calc
    (c.print takeAll (.ofTexts s texts true)).2.flatMap Call.taken =
        (c.print takeAll (.ofTexts s texts true)).2.flatMap Call.offered :=
      congrArg List.flatten (List.map_congr_left htaken)
    _ = texts.flatMap utf8 ++ [newlineByte] := by
      rw [hcalls] at htaken ⊢
      rw [handOverAll_of_taken (Nat.le_refl _) htaken]
      exact flatMap_offered_chunkCalls_chunkCount

theorem taken_printLines (lines : List String) :
    (printLines lines).flatMap Call.taken =
      lines.flatMap fun line ↦ utf8 line ++ [newlineByte] := by
  rw [printLines, run_eq_map_alone idle_fresh]
  induction lines with
  | nil => rfl
  | cons line lines ih =>
      have hline := taken_print_ofTexts (idle_fresh .out) [line]
      rw [List.flatMap_singleton] at hline
      rw [List.map_cons, List.map_cons, List.flatten_cons,
        List.flatMap_append, ih, List.flatMap_cons]
      exact congrArg (· ++ _) hline

end Console

namespace TypeRow

/-- The bytes that a system gets when a row is printed. -/
def emitted (r : TypeRow) : List UInt8 :=
  (Console.printLines [r.line]).flatMap Call.taken

theorem emitted_eq_append (r : TypeRow) :
    r.emitted = utf8 r.line ++ [newlineByte] := by
  rw [emitted, Console.taken_printLines, List.flatMap_singleton]

theorem emitted_eq_utf8 (r : TypeRow) : r.emitted = utf8 (r.line ++ "\n") := by
  have hnewline : "\n".toList.flatMap String.utf8EncodeChar = [newlineByte] := by
    decide
  rw [emitted_eq_append, utf8, utf8, String.toList_append,
    List.flatMap_append, hnewline]

theorem emitted_eq_iff {r s : TypeRow} :
    r.emitted = s.emitted ↔ r.line = s.line := by
  rw [emitted_eq_append, emitted_eq_append, List.append_cancel_right_eq]
  exact ⟨utf8_injective, congrArg utf8⟩

/-- A row is printed as its line with a newline, in whatever pieces the line
is formatted, and the columns are never cut.  The bytes determine the row up
to the spaces at the end of its name, so rows whose names do not end in a
space are never printed alike. -/
theorem emitted_determines_row (r s : TypeRow) :
    (∀ (c : Console) (texts : List String), (c.buffer .out).Idle .out →
      texts.flatMap utf8 = utf8 r.line →
      (c.print Console.takeAll (.ofTexts .out texts true)).2.flatMap
        Call.taken = r.emitted) ∧
    r.emitted = utf8 (r.line ++ "\n") ∧
    (r.line ++ "\n").length = max 28 r.name.length +
      max 6 (decimalDigits r.align).length + max 6 r.sizeText.length + 23 ∧
    (r.emitted = s.emitted →
      r.align = s.align ∧ r.size = s.size ∧ r.atLeast = s.atLeast ∧
      r.atMost = s.atMost ∧ SameUpToSpaces r.name.toList s.name.toList ∧
      (r.name.toList.getLast? ≠ some ' ' →
        s.name.toList.getLast? ≠ some ' ' → r = s)) := by
  refine ⟨?_, r.emitted_eq_utf8, ?_, ?_⟩
  · intro c texts hidle hspells
    rw [Console.taken_print_ofTexts hidle, hspells, emitted_eq_append]
  · have hnewline : "\n".length = 1 := by decide
    rw [String.length_append, length_line, hnewline]
    rfl
  · intro h
    obtain ⟨hfigures, hname⟩ := line_eq_iff.mp (emitted_eq_iff.mp h)
    have hsame := sameUpToSpaces_of_append hname
    refine ⟨hfigures.align_eq, hfigures.size_eq, hfigures.atLeast_eq,
      hfigures.atMost_eq, hsame, fun hr hs ↦ hfigures.eq ?_⟩
    exact String.toList_injective (hsame.eq hr hs)

/-- The row of a byte under some name. -/
def ofByte (name : String) : TypeRow :=
  ⟨name, 1, some 1, .atLeast 1, .atMost 1⟩

/-- Spaces at the end of a name are lost in its column; a figure at the end
of a name is not taken for one of the next column. -/
theorem emitted_ofByte :
    (ofByte "u8").emitted = (ofByte "u8  ").emitted ∧
      SameUpToSpaces "u8".toList "u8  ".toList ∧
      "u8      1".toList.getLast? ≠ some ' ' ∧
      "u8".toList.getLast? ≠ some ' ' ∧
      (ofByte "u8      1").emitted ≠ (ofByte "u8").emitted := by
  have hsame : (ofByte "u8").emitted = (ofByte "u8  ").emitted :=
    emitted_eq_iff.mpr (line_eq_iff.mpr ⟨⟨rfl, rfl, rfl, rfl⟩, by decide⟩)
  have hfigure : "u8      1".toList.getLast? ≠ some ' ' := by decide
  have hplain : "u8".toList.getLast? ≠ some ' ' := by decide
  obtain ⟨_, _, _, hspaces⟩ := emitted_determines_row (ofByte "u8") (ofByte "u8  ")
  obtain ⟨_, _, _, hrows⟩ :=
    emitted_determines_row (ofByte "u8      1") (ofByte "u8")
  refine ⟨hsame, (hspaces hsame).2.2.2.2.1, hfigure, hplain, fun h ↦ ?_⟩
  obtain ⟨_, _, _, _, _, heq⟩ := hrows h
  have hname := congrArg name (heq hfigure hplain)
  exact absurd hname (by decide)

end TypeRow

end AlignedStorage
