import AlignedStorage.Proofs.Console.Handover
import AlignedStorage.Proofs.Console.Print

/-!
# Holes in lines

A refusal discards the bytes that are in the buffer, and nothing tells the
print.  The bytes behind them are staged and handed over as if they had been
taken, so that a line is cut in each of its chunks by itself.  What is left of
the line is its beginning exactly if no write takes bytes after another one
has been refused.
-/

namespace AlignedStorage

/-- The writes that hand over the chunks of a line from chunk `j` on, one run
of them for each chunk. -/
inductive ChunkRuns (answers : Nat → Answer) (s : Stream)
    (bytes : List UInt8) : Nat → List (List Call) → Prop
  | nil (j : Nat) : ChunkRuns answers s bytes j []
  | cons {i j : Nat} {run : List Call} {runs : List (List Call)}
      (hrun : HandedOver answers s i (chunk bytes j) run)
      (hruns : ChunkRuns answers s bytes (j + 1) runs) :
      ChunkRuns answers s bytes j (run :: runs)

/-- The numbers that the bytes taken have in the line, if the runs hand over
its chunks from chunk `j` on. -/
def takenNumbers : Nat → List (List Call) → List Nat
  | _, [] => []
  | j, run :: runs =>
      List.range' (bufferSize * j) (run.flatMap Call.taken).length ++
        takenNumbers (j + 1) runs

/-- No write but refused ones after a refused one. -/
def StaysRefused (calls : List Call) : Prop :=
  calls.Pairwise fun c d ↦ c.answer = .refuse → d.answer = .refuse

theorem HandedOver.staysRefused {answers : Nat → Answer} {s : Stream}
    {i : Nat} {bytes : List UInt8} {made : List Call}
    (h : HandedOver answers s i bytes made) : StaysRefused made := by
  induction h with
  | nothing i => exact .nil
  | refused _ _ => exact List.pairwise_singleton _ _
  | taken _ _ _ ih =>
      refine List.pairwise_cons.mpr ⟨?_, ih⟩
      intro call _ hrefuse
      cases hrefuse

/-! ## Runs of writes -/

section

variable {answers : Nat → Answer} {s : Stream} {bytes : List UInt8}

theorem exists_chunkRuns (answers : Nat → Answer) (s : Stream)
    (bytes : List UInt8) (calls : List Call) (j n : Nat) :
    ∃ runs, ((List.range' j n).map (chunk bytes)).foldl (handOver answers s)
        calls = calls ++ runs.flatten ∧
      runs.length = n ∧ ChunkRuns answers s bytes j runs := by
  induction n generalizing calls j with
  | zero => exact ⟨[], (List.append_nil calls).symm, rfl, .nil j⟩
  | succ n ih =>
      obtain ⟨run, hcalls, hrun⟩ :=
        exists_handOver_eq_append answers s calls (chunk bytes j)
      obtain ⟨runs, hlater, hlength, hruns⟩ := ih (calls ++ run) (j + 1)
      refine ⟨run :: runs, ?_, ?_, .cons hrun hruns⟩
      · rw [List.range'_succ, List.map_cons, List.foldl_cons, hcalls, hlater,
          List.append_assoc, List.flatten_cons]
      · rw [List.length_cons, hlength]

theorem exists_runs_of_chunks (answers : Nat → Answer) (s : Stream)
    (bytes : List UInt8) (n : Nat) :
    ∃ runs, handOverAll answers s (chunks bytes n) = runs.flatten ∧
      runs.length = n ∧ ChunkRuns answers s bytes 0 runs := by
  obtain ⟨runs, hcalls, hruns⟩ := exists_chunkRuns answers s bytes [] 0 n
  rw [← List.range_eq_range', List.nil_append] at hcalls
  exact ⟨runs, hcalls, hruns⟩

variable {j : Nat} {runs : List (List Call)}

theorem ChunkRuns.getElem? {k : Nat} {run : List Call}
    (h : ChunkRuns answers s bytes j runs) (hk : runs[k]? = some run) :
    ∃ i, HandedOver answers s i (chunk bytes (j + k)) run := by
  induction h generalizing k with
  | nil j => cases hk
  | @cons i j first rest hrun _ ih =>
      cases k with
      | zero =>
          cases hk
          exact ⟨i, hrun⟩
      | succ k =>
          obtain ⟨i', hrun'⟩ := ih (by simpa using hk)
          rw [Nat.add_right_comm, Nat.add_assoc] at hrun'
          exact ⟨i', hrun'⟩

/-! ## Numbers of bytes -/

theorem le_of_mem_takenNumbers {k : Nat} (h : k ∈ takenNumbers j runs) :
    bufferSize * j ≤ k := by
  induction runs generalizing j with
  | nil => cases h
  | cons run runs ih =>
      rcases List.mem_append.mp h with hrun | hlater
      · exact (List.mem_range'_1.mp hrun).1
      · exact Nat.le_trans (Nat.mul_le_mul_left bufferSize (Nat.le_succ j))
          (ih hlater)

theorem HandedOver.length_taken_le {i : Nat} {run : List Call}
    (h : HandedOver answers s i (chunk bytes j) run) :
    (run.flatMap Call.taken).length ≤ bufferSize :=
  Nat.le_trans h.taken_prefix.length_le (length_chunk_le bytes j)

theorem ChunkRuns.pairwise_takenNumbers
    (h : ChunkRuns answers s bytes j runs) :
    (takenNumbers j runs).Pairwise (· < ·) := by
  induction h with
  | nil j => exact .nil
  | @cons i j run runs hrun _ ih =>
      refine List.pairwise_append.mpr ⟨List.pairwise_lt_range', ih, ?_⟩
      intro k hk l hl
      have hle := le_of_mem_takenNumbers hl
      have hlt := (List.mem_range'_1.mp hk).2
      have hsize := hrun.length_taken_le
      rw [Nat.mul_succ] at hle
      omega

theorem filterMap_getElem?_range' (bytes : List UInt8) (first n : Nat) :
    (List.range' first n).filterMap (bytes[·]?) =
      (bytes.drop first).take n := by
  induction n generalizing first with
  | zero => simp
  | succ n ih =>
      rw [List.range'_succ, List.filterMap_cons]
      rcases Nat.lt_or_ge first bytes.length with hlt | hge
      · rw [List.getElem?_eq_getElem hlt, ih, List.drop_eq_getElem_cons hlt,
          List.take_succ_cons]
      · rw [List.getElem?_eq_none hge, ih, List.drop_of_length_le hge,
          List.drop_of_length_le (Nat.le_succ_of_le hge)]
        simp

theorem ChunkRuns.filterMap_takenNumbers
    (h : ChunkRuns answers s bytes j runs) :
    (takenNumbers j runs).filterMap (bytes[·]?) =
      runs.flatten.flatMap Call.taken := by
  induction h with
  | nil j => rfl
  | @cons i j run runs hrun _ ih =>
      have htaken := List.prefix_iff_eq_take.mp hrun.taken_prefix
      rw [chunk, List.take_take, Nat.min_eq_left hrun.length_taken_le]
        at htaken
      rw [takenNumbers, List.filterMap_append, ih, List.flatten_cons,
        List.flatMap_append, filterMap_getElem?_range', ← htaken]

/-! ## Holes -/

theorem HandedOver.taken_eq_nil_iff_forall {i : Nat} {run : List Call}
    (h : HandedOver answers s i bytes run) :
    run.flatMap Call.taken = [] ↔ ∀ call ∈ run, call.answer = .refuse := by
  rw [List.flatMap_eq_nil_iff]
  apply forall₂_congr
  intro call hcall
  exact h.taken_eq_nil_iff hcall

theorem ChunkRuns.takenNumbers_eq_nil_iff
    (h : ChunkRuns answers s bytes j runs) :
    takenNumbers j runs = [] ↔
      ∀ call ∈ runs.flatten, call.answer = .refuse := by
  induction h with
  | nil j => simp [takenNumbers]
  | cons hrun _ ih =>
      simp only [takenNumbers, List.append_eq_nil_iff, List.range'_eq_nil_iff,
        List.length_eq_zero_iff, hrun.taken_eq_nil_iff_forall, ih,
        List.flatten_cons, List.forall_mem_append]

theorem staysRefused_of_forall {calls : List Call}
    (h : ∀ call ∈ calls, call.answer = .refuse) : StaysRefused calls := by
  apply List.pairwise_of_forall_mem_list
  intro c _ d hd _
  exact h d hd

theorem eq_range'_iff_of_lt {first : Nat} {numbers : List Nat}
    (h : ∀ k ∈ numbers, first < k) :
    numbers = List.range' first numbers.length ↔ numbers = [] := by
  cases numbers with
  | nil => simp
  | cons k rest =>
      have hlt := h k List.mem_cons_self
      simp only [List.length_cons, List.range'_succ, List.cons.injEq,
        reduceCtorEq, iff_false]
      rintro ⟨rfl, _⟩
      exact Nat.lt_irrefl k hlt

theorem HandedOver.length_taken_lt {i : Nat} {run : List Call}
    (h : HandedOver answers s i (chunk bytes j) run) {call : Call}
    (hmem : call ∈ run) (hrefuse : call.answer = .refuse) :
    (run.flatMap Call.taken).length < bufferSize := by
  have hle := length_chunk_le bytes j
  apply Nat.lt_of_lt_of_le _ hle
  apply Nat.lt_of_le_of_ne h.taken_prefix.length_le
  intro hlength
  exact h.taken_eq_iff.mp (h.taken_prefix.eq_of_length hlength) call hmem
    hrefuse

/-- The numbers from a chunk on have no gap exactly if no write takes bytes
after a refused one.  A run that is cut has to be the last one to take
anything, since the next one starts with another chunk. -/
theorem ChunkRuns.takenNumbers_eq_range'_iff
    (h : ChunkRuns answers s bytes j runs)
    (hbound : j + runs.length ≤ chunkCount bytes.length) :
    takenNumbers j runs =
        List.range' (bufferSize * j) (takenNumbers j runs).length ↔
      StaysRefused runs.flatten := by
  induction h with
  | nil j => simp [takenNumbers, StaysRefused]
  | @cons i j run runs hrun hruns ih =>
      have hnumbers : takenNumbers j (run :: runs) =
            List.range' (bufferSize * j)
              (takenNumbers j (run :: runs)).length ↔
          takenNumbers (j + 1) runs =
            List.range' (bufferSize * j + (run.flatMap Call.taken).length)
              (takenNumbers (j + 1) runs).length := by
        rw [takenNumbers, List.length_append, List.length_range',
          ← List.range'_append_1, List.append_right_inj]
      have hsteady : StaysRefused (run :: runs).flatten ↔
          StaysRefused runs.flatten ∧ ∀ c ∈ run, ∀ d ∈ runs.flatten,
            c.answer = .refuse → d.answer = .refuse := by
        rw [List.flatten_cons, StaysRefused, List.pairwise_append]
        exact and_iff_right hrun.staysRefused
      rw [hnumbers, hsteady]
      by_cases hall : ∀ call ∈ run, call.answer ≠ .refuse
      · have hcross : ∀ c ∈ run, ∀ d ∈ runs.flatten,
            c.answer = .refuse → d.answer = .refuse :=
          fun c hc _ _ hrefuse ↦ absurd hrefuse (hall c hc)
        rw [hrun.taken_eq_iff.mpr hall, and_iff_left hcross]
        cases runs with
        | nil => simp [takenNumbers, StaysRefused]
        | cons next runs =>
            -- A chunk that is not the last one is full.
            have hlt : j + 1 < chunkCount bytes.length := by
              simp only [List.length_cons] at hbound
              omega
            rw [length_chunk (Nat.le_of_lt (lt_chunkCount_iff.mp hlt)),
              ← Nat.mul_succ]
            apply ih
            simp only [List.length_cons] at hbound ⊢
            omega
      · simp only [ne_eq, Classical.not_forall, Classical.not_not] at hall
        obtain ⟨c, hc, hrefuse⟩ := hall
        have hcut := hrun.length_taken_lt hc hrefuse
        have hgap : ∀ k ∈ takenNumbers (j + 1) runs,
            bufferSize * j + (run.flatMap Call.taken).length < k := by
          intro k hk
          have hle := le_of_mem_takenNumbers hk
          rw [Nat.mul_succ] at hle
          omega
        rw [eq_range'_iff_of_lt hgap, hruns.takenNumbers_eq_nil_iff]
        constructor
        · intro hlater
          exact ⟨staysRefused_of_forall hlater, fun _ _ d hd _ ↦ hlater d hd⟩
        · rintro ⟨_, hcross⟩ d hd
          exact hcross c hc d hd hrefuse

end

namespace Console

/-- Whatever the system answers, every chunk of a print that starts with an
idle buffer, as each does after another one, is offered.  What is taken of a
chunk is its beginning, all of it if no write of its run is refused.
The bytes taken are those of the line with increasing numbers.  These are the
first numbers, so that the line is cut and has no hole, if and only if all
writes after a refused one are refused as well. -/
theorem print_cuts_each_chunk (answers : Nat → Answer) (c : Console)
    (job : PrintJob) (hidle : (c.buffer job.stream).Idle job.stream) :
    let calls := (c.print answers job).2
    ∃ runs : List (List Call), calls = runs.flatten ∧
      runs.length = job.count ∧
      (∀ j run, runs[j]? = some run → run ≠ [] ∧
        run.flatMap Call.taken <+: chunk job.bytes j ∧
        (run.flatMap Call.taken = chunk job.bytes j ↔
          ∀ call ∈ run, call.answer ≠ .refuse)) ∧
      (takenNumbers 0 runs).Pairwise (· < ·) ∧
      (takenNumbers 0 runs).filterMap (job.bytes[·]?) =
        calls.flatMap Call.taken ∧
      (takenNumbers 0 runs = List.range (takenNumbers 0 runs).length ↔
        StaysRefused calls) ∧
      (StaysRefused calls → calls.flatMap Call.taken <+: job.bytes) := by
  intro calls
  obtain ⟨runs, hflatten, hlength, hruns⟩ :=
    exists_runs_of_chunks answers job.stream job.bytes job.count
  have hcalls : calls = runs.flatten := (calls_print hidle).trans hflatten
  have hbytes := hruns.filterMap_takenNumbers
  rw [← hcalls] at hbytes
  have hholes : takenNumbers 0 runs =
      List.range (takenNumbers 0 runs).length ↔ StaysRefused calls := by
    rw [hcalls, List.range_eq_range']
    apply hruns.takenNumbers_eq_range'_iff
    rw [hlength, Nat.zero_add]
    exact job.count_le
  refine ⟨runs, hcalls, hlength, ?_, hruns.pairwise_takenNumbers, hbytes,
    hholes, ?_⟩
  · intro j run hj
    obtain ⟨i, hrun⟩ := hruns.getElem? hj
    rw [Nat.zero_add] at hrun
    refine ⟨?_, hrun.taken_prefix, hrun.taken_eq_iff⟩
    rintro rfl
    have hlt : j < job.count := by
      rw [← hlength]
      exact (List.getElem?_eq_some_iff.mp hj).1
    apply chunk_ne_nil (Nat.lt_of_lt_of_le hlt job.count_le)
    exact (hrun.taken_eq_iff.mpr nofun).symm
  · intro hsteady
    rw [← hbytes, hholes.mpr hsteady, List.range_eq_range',
      filterMap_getElem?_range', List.drop_zero]
    exact List.take_prefix _ _

/-- A line that is one byte longer than the buffer. -/
def longLine : PrintJob :=
  ⟨.out, [.text (letters 80)], true⟩

/-- A system that refuses a write and takes all it is offered from then on. -/
def refuseOnce : Nat → Answer
  | 0 => .refuse
  | _ => .take bufferSize

theorem bytes_longLine :
    longLine.bytes = List.replicate 80 120 ++ [newlineByte] := by
  have hstaged : stagedBytes longLine.pieces = List.replicate 80 120 := by
    rw [longLine, stagedBytes, utf8_letters, stagedBytes, List.append_nil]
  have hcomplete : Piece.failure ∉ longLine.pieces := by
    simp [longLine]
  rw [PrintJob.bytes_of_complete hcomplete, hstaged]
  rfl

theorem count_longLine : longLine.count = 2 := by
  have hlength : longLine.bytes.length = 81 := by
    rw [bytes_longLine, List.length_append, List.length_replicate]
    rfl
  rw [PrintJob.count, hlength]
  rfl

theorem chunks_longLine :
    chunks longLine.bytes longLine.count =
      [List.replicate 80 120, [newlineByte]] := by
  have hsize : (List.replicate 80 (120 : UInt8)).length = bufferSize :=
    List.length_replicate
  have hfirst : chunk longLine.bytes 0 = List.replicate 80 120 := by
    rw [chunk, bytes_longLine, Nat.mul_zero, List.drop_zero,
      List.take_left' hsize]
  have hlast : chunk longLine.bytes 1 = [newlineByte] := by
    rw [chunk, bytes_longLine, Nat.mul_one, List.drop_left' hsize]
    rfl
  rw [chunks, count_longLine]
  simp only [List.range_succ, List.range_zero, List.nil_append,
    List.singleton_append, List.map_cons, List.map_nil, hfirst, hlast]

theorem calls_longLine :
    (fresh.print refuseOnce longLine).2 =
      [ ⟨.out, List.replicate 80 120, .refuse⟩,
        ⟨.out, [newlineByte], .take bufferSize⟩ ] := by
  have hletters : List.replicate 80 (120 : UInt8) ≠ [] := by simp
  calc
    (fresh.print refuseOnce longLine).2 =
        handOverAll refuseOnce .out
          [List.replicate 80 120, [newlineByte]] := by
      rw [calls_print (idle_fresh .out), chunks_longLine]
      rfl
    _ = handOver refuseOnce .out
          [⟨.out, List.replicate 80 120, .refuse⟩] [newlineByte] :=
      congrArg (handOver refuseOnce .out · [newlineByte])
        (handOver_of_refuse hletters rfl)
    _ = handOver refuseOnce .out
          [ ⟨.out, List.replicate 80 120, .refuse⟩,
            ⟨.out, [newlineByte], .take bufferSize⟩ ] [] :=
      handOver_of_take (List.cons_ne_nil newlineByte []) rfl
    _ = _ := handOver_nil

theorem print_longLine_cut :
    (fresh.buffer longLine.stream).Idle longLine.stream ∧
      ∃ runs, (fresh.print refuseOnce longLine).2 = runs.flatten ∧
        runs.length = 2 ∧ (∀ run ∈ runs, run ≠ []) ∧
        takenNumbers 0 runs ≠ List.range (takenNumbers 0 runs).length := by
  have hidle : (fresh.buffer longLine.stream).Idle longLine.stream :=
    idle_fresh .out
  obtain ⟨runs, hcalls, hlength, hruns, _, _, hholes, _⟩ :=
    print_cuts_each_chunk refuseOnce fresh longLine hidle
  refine ⟨hidle, runs, hcalls, hlength.trans count_longLine, ?_, ?_⟩
  · intro run hrun
    obtain ⟨j, hj⟩ := List.mem_iff_getElem?.mp hrun
    exact (hruns j run hj).1
  · intro hnumbers
    have hsteady := hholes.mp hnumbers
    rw [calls_longLine, StaysRefused, List.pairwise_pair] at hsteady
    cases hsteady rfl

/-- The line loses its first chunk and keeps its last byte. -/
theorem print_longLine_hole :
    (fresh.print refuseOnce longLine).2.map Call.answer =
        [.refuse, .take bufferSize] ∧
      (fresh.print refuseOnce longLine).2.flatMap Call.taken =
        [newlineByte] ∧
      ¬ (fresh.print refuseOnce longLine).2.flatMap Call.taken <+:
        longLine.bytes := by
  have htaken : (fresh.print refuseOnce longLine).2.flatMap Call.taken =
      [newlineByte] := by
    rw [calls_longLine]
    simp
  refine ⟨?_, htaken, ?_⟩
  · rw [calls_longLine]
    rfl
  · rw [htaken, bytes_longLine, List.replicate_succ, List.cons_append,
      List.cons_prefix_cons]
    rintro ⟨hbyte, _⟩
    exact absurd hbyte (by decide)

end Console

end AlignedStorage
