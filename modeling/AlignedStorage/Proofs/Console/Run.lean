import AlignedStorage.Proofs.Console.Print

/-!
# Runs of prints

Every print finds both buffers idle, however the prints before it ended, so
a run makes the writes that each of its prints makes on a fresh console.  A
print whose formatting fails keeps back the last chunk it staged and writes
those before it.
-/

namespace AlignedStorage

namespace Console

variable {answers : Nat → Answer} {c : Console} {job : PrintJob}

/-- The writes of a print that is the first one on its console. -/
def alone (answers : Nat → Answer) (job : PrintJob) : List Call :=
  (fresh.print answers job).2

theorem calls_print_eq_alone (hc : c.Idle) :
    (c.print answers job).2 = alone answers job :=
  (calls_print (hc job.stream)).trans
    (calls_print (idle_fresh job.stream)).symm

theorem run_eq_map_alone (hc : c.Idle)
    (steps : List ((Nat → Answer) × PrintJob)) :
    c.run steps = steps.map fun step ↦ alone step.1 step.2 := by
  induction steps generalizing c with
  | nil => rfl
  | cons step steps ih =>
      obtain ⟨answers, job⟩ := step
      rw [run, calls_print_eq_alone hc, ih (idle_print hc), List.map_cons]

theorem offered_infix_of_mem_alone {call : Call}
    (h : call ∈ alone answers job) : call.offered <:+: job.bytes := by
  obtain ⟨_, ⟨i, hsuffix⟩, _⟩ := mem_calls_print (idle_fresh job.stream) h
  exact hsuffix.isInfix.trans (isInfix_chunk job.bytes i)

theorem taken_of_mem_alone_takeAll {call : Call}
    (h : call ∈ alone takeAll job) : call.taken = call.offered :=
  taken_of_mem_print_takeAll (idle_fresh job.stream) h

/-- A failing print writes the chunks that made room for what it staged
after them. -/
theorem alone_of_failure (hfailure : Piece.failure ∈ job.pieces)
    (htaken : ∀ call ∈ alone answers job, call.taken = call.offered) :
    alone answers job =
      chunkCalls answers job.stream (stagedBytes job.pieces)
        (sentCount (stagedBytes job.pieces).length) := by
  have hcalls := calls_print_of_taken (idle_fresh job.stream) htaken
  rwa [PrintJob.count, if_pos hfailure, job.bytes_of_failure hfailure]
    at hcalls

/-- No print of a run leaves anything behind for those after it: each makes
the writes it makes alone, and these offer nothing but parts of its own
bytes.  If its formatting fails and its writes take all they are offered, it
writes the full chunks before the last byte it staged. -/
theorem run_leaves_no_residue (steps : List ((Nat → Answer) × PrintJob)) :
    fresh.run steps = steps.map (fun step ↦ alone step.1 step.2) ∧
    ∀ step ∈ steps,
      (∀ call ∈ alone step.1 step.2,
        call.stream = step.2.stream ∧ call.offered <:+: step.2.bytes) ∧
      (Piece.failure ∈ step.2.pieces →
        (∀ call ∈ alone step.1 step.2, call.taken = call.offered) →
        let bytes := stagedBytes step.2.pieces
        let calls := alone step.1 step.2
        calls.length = (bytes.length - 1) / 80 ∧
        (∀ call ∈ calls, call.offered.length = 80) ∧
        calls.flatMap Call.offered =
          bytes.take (80 * ((bytes.length - 1) / 80))) := by
  refine ⟨run_eq_map_alone idle_fresh steps, ?_⟩
  rintro ⟨answers, job⟩ -
  refine ⟨fun call hcall ↦ ⟨?_, offered_infix_of_mem_alone hcall⟩, ?_⟩
  · exact (mem_calls_print (idle_fresh job.stream) hcall).1
  · intro hfailure htaken bytes calls
    have hcalls : calls =
        chunkCalls answers job.stream bytes (sentCount bytes.length) :=
      alone_of_failure hfailure htaken
    refine ⟨?_, ?_, ?_⟩
    · rw [hcalls, length_chunkCalls]
      rfl
    · intro call hcall
      rw [hcalls] at hcall
      exact length_offered_of_mem_chunkCalls (mul_sentCount_le _) hcall
    · rw [hcalls, flatMap_offered_chunkCalls]
      rfl

/-- A line whose formatting fails one byte after the buffer was full for the
second time. -/
def failingJob : PrintJob :=
  ⟨.out, [.text (letters 161), .failure, .text "unreached"], true⟩

/-- A failing line, one on the other stream that the system refuses, and one
that is written. -/
def mixedRun : List ((Nat → Answer) × PrintJob) :=
  [ (takeAll, failingJob), (refuseAll, ⟨.err, [.text "refused"], true⟩),
    (takeAll, ⟨.out, [.text "written"], true⟩) ]

theorem stagedBytes_failingJob :
    stagedBytes failingJob.pieces = List.replicate 161 120 := by
  rw [failingJob, stagedBytes, utf8_letters, stagedBytes, List.append_nil]

theorem run_mixedRun :
    fresh.run mixedRun =
        mixedRun.map (fun step ↦ alone step.1 step.2) ∧
      (takeAll, failingJob) ∈ mixedRun ∧
      Piece.failure ∈ failingJob.pieces ∧
      (∀ call ∈ alone takeAll failingJob, call.taken = call.offered) ∧
      (alone takeAll failingJob).length = 2 ∧
      (alone takeAll failingJob).flatMap Call.offered =
        List.replicate 160 120 := by
  have hmem : (takeAll, failingJob) ∈ mixedRun := List.mem_cons_self
  have hfailure : Piece.failure ∈ failingJob.pieces :=
    List.mem_cons_of_mem _ List.mem_cons_self
  obtain ⟨hrun, hsteps⟩ := run_leaves_no_residue mixedRun
  have htaken : ∀ call ∈ alone takeAll failingJob,
      call.taken = call.offered :=
    fun _ hcall ↦ taken_of_mem_alone_takeAll hcall
  have hbytes : (stagedBytes failingJob.pieces).length = 161 := by
    rw [stagedBytes_failingJob, List.length_replicate]
  have hmin : min (80 * ((161 - 1) / 80)) 161 = 160 := by decide
  have hfull : (stagedBytes failingJob.pieces).take (80 * ((161 - 1) / 80)) =
      List.replicate 160 120 := by
    rw [stagedBytes_failingJob, List.take_replicate, hmin]
  obtain ⟨hlength, _, hoffered⟩ := (hsteps _ hmem).2 hfailure htaken
  simp only [hbytes, hfull] at hlength hoffered
  exact ⟨hrun, hmem, hfailure, htaken, hlength, hoffered⟩

end Console

end AlignedStorage
