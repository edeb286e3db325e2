import AlignedStorage.Proofs.Console.Staging

/-!
# Handing over under any answers

The system may take only part of what a write offers, and it may refuse any
write.  The next write offers what was not taken, and there is none after a
refusal.  So the bytes taken are the first of those there were, in order and
each once, and they are all of them exactly if no write was refused.
-/

namespace AlignedStorage

/-- The writes that hand bytes over, the first of them answered by answer
number `i`. -/
inductive HandedOver (answers : Nat → Answer) (s : Stream) :
    Nat → List UInt8 → List Call → Prop
  | nothing (i : Nat) : HandedOver answers s i [] []
  | refused {i : Nat} {bytes : List UInt8} (hbytes : bytes ≠ [])
      (h : answers i = .refuse) :
      HandedOver answers s i bytes [⟨s, bytes, .refuse⟩]
  | taken {i : Nat} {bytes : List UInt8} {more : Nat} {later : List Call}
      (hbytes : bytes ≠ []) (h : answers i = .take more)
      (hlater : HandedOver answers s (i + 1) (bytes.drop (more + 1)) later) :
      HandedOver answers s i bytes (⟨s, bytes, .take more⟩ :: later)

theorem exists_handOver_eq_append (answers : Nat → Answer) (s : Stream)
    (calls : List Call) (bytes : List UInt8) :
    ∃ made, handOver answers s calls bytes = calls ++ made ∧
      HandedOver answers s calls.length bytes made := by
  fun_induction handOver answers s calls bytes with
  | case1 calls => exact ⟨[], (List.append_nil calls).symm, .nothing _⟩
  | case2 calls b rest hrefuse =>
      exact ⟨_, rfl, .refused (List.cons_ne_nil b rest) hrefuse⟩
  | case3 calls b rest more htake ih =>
      obtain ⟨later, hcalls, hlater⟩ := ih
      refine ⟨⟨s, b :: rest, .take more⟩ :: later, ?_,
        .taken (List.cons_ne_nil b rest) htake ?_⟩
      · rw [hcalls, List.append_assoc]
        rfl
      · simpa using hlater

@[simp] theorem Call.taken_refuse (s : Stream) (bytes : List UInt8) :
    (⟨s, bytes, .refuse⟩ : Call).taken = [] :=
  List.take_zero

@[simp] theorem Call.taken_take (s : Stream) (bytes : List UInt8)
    (more : Nat) :
    (⟨s, bytes, .take more⟩ : Call).taken = bytes.take (more + 1) :=
  List.take_eq_take_min.symm

section

variable {answers : Nat → Answer} {s : Stream} {i : Nat}
  {bytes : List UInt8} {made : List Call}

theorem HandedOver.length_le (h : HandedOver answers s i bytes made) :
    made.length ≤ bytes.length := by
  induction h with
  | nothing i => simp
  | refused hbytes _ => exact List.length_pos_iff.mpr hbytes
  | taken hbytes _ _ ih =>
      have hpos := List.length_pos_iff.mpr hbytes
      rw [List.length_drop] at ih
      simp only [List.length_cons]
      omega

theorem HandedOver.taken_prefix (h : HandedOver answers s i bytes made) :
    made.flatMap Call.taken <+: bytes := by
  induction h with
  | nothing i => simp
  | refused _ _ => simp
  | @taken _ bytes more later _ _ _ ih =>
      obtain ⟨rest, hrest⟩ := ih
      refine ⟨rest, ?_⟩
      rw [List.flatMap_cons, Call.taken_take, List.append_assoc, hrest,
        List.take_append_drop]

theorem HandedOver.taken_eq_iff (h : HandedOver answers s i bytes made) :
    made.flatMap Call.taken = bytes ↔
      ∀ call ∈ made, call.answer ≠ .refuse := by
  induction h with
  | nothing i => simp
  | refused hbytes _ => simpa using hbytes.symm
  | @taken _ bytes more later _ _ _ ih =>
      have hsplit := List.take_append_drop (more + 1) bytes
      have hcancel : bytes.take (more + 1) ++ later.flatMap Call.taken =
          bytes ↔ later.flatMap Call.taken = bytes.drop (more + 1) := by
        constructor
        · intro h
          exact List.append_cancel_left (h.trans hsplit.symm)
        · intro h
          rw [h, hsplit]
      simpa [hcancel] using ih

/-- Every write is the first of those that hand over what the writes before
it have left. -/
theorem HandedOver.of_append {before : List Call} {call : Call}
    {after : List Call}
    (h : HandedOver answers s i bytes (before ++ call :: after)) :
    before.flatMap Call.taken ++ call.offered = bytes ∧
      HandedOver answers s (i + before.length) call.offered
        (call :: after) := by
  induction before generalizing i bytes with
  | nil =>
      cases h with
      | refused hbytes h => exact ⟨rfl, .refused hbytes h⟩
      | taken hbytes h hlater => exact ⟨rfl, .taken hbytes h hlater⟩
  | cons first before ih =>
      rw [List.cons_append] at h
      generalize hrest : before ++ call :: after = rest at h
      cases h with
      | refused _ _ => simp at hrest
      | @taken _ _ more _ _ _ hlater =>
          subst hrest
          obtain ⟨hbytes, hcall⟩ := ih hlater
          refine ⟨?_, ?_⟩
          · rw [List.flatMap_cons, Call.taken_take, List.append_assoc,
              hbytes, List.take_append_drop]
          · rwa [List.length_cons, Nat.add_comm before.length, ← Nat.add_assoc]

theorem HandedOver.head {call : Call} {after : List Call}
    (h : HandedOver answers s i bytes (call :: after)) :
    call.stream = s ∧ call.answer = answers i ∧ call.offered ≠ [] ∧
      (call.answer ≠ .refuse → call.taken ≠ []) ∧
      (call.answer = .refuse → after = []) := by
  cases h with
  | refused hbytes h =>
      refine ⟨rfl, h.symm, hbytes, ?_, fun _ ↦ rfl⟩
      intro hne
      exact absurd rfl hne
  | taken hbytes h _ =>
      refine ⟨rfl, h.symm, hbytes, ?_, nofun⟩
      intro _
      simpa using hbytes

theorem HandedOver.taken_eq_nil_iff {call : Call}
    (h : HandedOver answers s i bytes made) (hmem : call ∈ made) :
    call.taken = [] ↔ call.answer = .refuse := by
  obtain ⟨before, after, rfl⟩ := List.append_of_mem hmem
  obtain ⟨_, _, _, htaken, _⟩ := h.of_append.2.head
  constructor
  · intro hnil
    exact Classical.byContradiction fun hne ↦ htaken hne hnil
  · intro hrefuse
    simp [Call.taken, hrefuse, Answer.taken]

end

namespace Printing

/-- A flush makes no more writes than there are bytes pending, and each offers
what those before it have not taken.  A write that is not refused takes at
least one byte, and one that is refused is the last.  The bytes taken are the
first of those pending, and all of them if and only if no write is refused.
The buffer is empty in the end. -/
theorem flush_under_any_answers (answers : Nat → Answer) (p : Printing) :
    ∃ made, (p.flush answers).calls = p.calls ++ made ∧
      made.length ≤ p.buffer.cursor ∧
      (∀ before call after, made = before ++ call :: after →
        call.stream = p.buffer.stream ∧
        call.answer = answers (p.calls.length + before.length) ∧
        call.offered ≠ [] ∧
        before.flatMap Call.taken ++ call.offered = p.buffer.pending ∧
        (call.answer ≠ .refuse → call.taken ≠ []) ∧
        (call.answer = .refuse → after = [])) ∧
      made.flatMap Call.taken <+: p.buffer.pending ∧
      (made.flatMap Call.taken = p.buffer.pending ↔
        ∀ call ∈ made, call.answer ≠ .refuse) ∧
      (p.buffer.cursor = 0 → made = []) ∧
      (p.flush answers).buffer.cursor = 0 := by
  obtain ⟨made, hcalls, hmade⟩ := exists_handOver_eq_append answers
    p.buffer.stream p.calls p.buffer.pending
  have hlength := hmade.length_le
  rw [LineBuffer.length_pending] at hlength
  refine ⟨made, (calls_flush answers p).trans hcalls, hlength, ?_,
    hmade.taken_prefix, hmade.taken_eq_iff, ?_, rfl⟩
  · rintro before call after rfl
    obtain ⟨hbytes, hcall⟩ := hmade.of_append
    obtain ⟨hstream, hanswer, hoffered, htaken, hlast⟩ := hcall.head
    exact ⟨hstream, hanswer, hoffered, hbytes, htaken, hlast⟩
  · intro hzero
    rw [hzero] at hlength
    exact List.length_eq_zero_iff.mp (Nat.le_zero.mp hlength)

/-- A print that has five bytes pending. -/
def fivePending : Printing :=
  pushAll Console.takeAll ⟨LineBuffer.empty .err, []⟩ [97, 108, 105, 103, 110]

/-- A system that takes two bytes and no more. -/
def takeTwo : Nat → Answer
  | 0 => .take 1
  | _ => .refuse

theorem flush_fivePending :
    ∃ before call after,
      (fivePending.flush takeTwo).calls = before ++ call :: after ∧
        call.answer = .refuse ∧ call.offered = [105, 103, 110] ∧
        before.flatMap Call.taken ++ call.offered = [97, 108, 105, 103, 110] ∧
        after = [] ∧ (fivePending.flush takeTwo).buffer.cursor = 0 := by
  have hrun : handOver takeTwo .err [] [97, 108, 105, 103, 110] =
      [⟨.err, [97, 108, 105, 103, 110], .take 1⟩] ++
        [⟨.err, [105, 103, 110], .refuse⟩] := by
    calc
      handOver takeTwo .err [] [97, 108, 105, 103, 110] =
          handOver takeTwo .err [⟨.err, [97, 108, 105, 103, 110], .take 1⟩]
            [105, 103, 110] := handOver_of_take (List.cons_ne_nil _ _) rfl
      _ = _ := handOver_of_refuse (List.cons_ne_nil _ _) rfl
  have hflush := (calls_flush takeTwo fivePending).trans hrun
  obtain ⟨made, hcalls, _, hcall, _, _, _, hcursor⟩ :=
    flush_under_any_answers takeTwo fivePending
  have hmade : made = [⟨.err, [97, 108, 105, 103, 110], .take 1⟩] ++
      [⟨.err, [105, 103, 110], .refuse⟩] := hcalls.symm.trans hflush
  obtain ⟨_, _, _, hbytes, _, hlast⟩ := hcall _ _ [] hmade
  exact ⟨_, _, [], hflush, rfl, rfl, hbytes, hlast rfl, hcursor⟩

end Printing

end AlignedStorage
