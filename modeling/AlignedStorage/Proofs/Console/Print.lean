import AlignedStorage.Proofs.Console.Staging

/-!
# What a print writes

The writes of a print on an idle buffer are those that hand over the chunks
of its bytes: all chunks if the formatting succeeds, and only those that had
to make room if it fails.  Either way the buffer is idle again.
-/

namespace AlignedStorage

/-- The bytes that pieces stage, up to the first that fails. -/
def stagedBytes : List Piece → List UInt8
  | [] => []
  | .failure :: _ => []
  | .text s :: rest => utf8 s ++ stagedBytes rest

theorem stagePieces_eq (answers : Nat → Answer) (p : Printing)
    (pieces : List Piece) :
    stagePieces answers p pieces =
      (p.pushAll answers (stagedBytes pieces),
        decide (Piece.failure ∉ pieces)) := by
  induction pieces generalizing p with
  | nil => rfl
  | cons piece rest ih =>
      cases piece with
      | failure => simp [stagePieces, stagedBytes, Printing.pushAll]
      | text s => simp [stagePieces, stagedBytes, ih, Printing.pushAll]

/-- A text of one letter repeated. -/
def letters (n : Nat) : String :=
  String.ofList (List.replicate n 'x')

theorem utf8_letters (n : Nat) : utf8 (letters n) = List.replicate n 120 := by
  have hletter : String.utf8EncodeChar 'x' = [120] := by decide
  rw [utf8, letters, String.toList_ofList, List.flatMap_replicate, hletter,
    List.flatten_replicate_singleton]

namespace PrintJob

/-- The bytes a print stages: those of its pieces, and a newline if one is
asked for and no piece fails. -/
def bytes (job : PrintJob) : List UInt8 :=
  stagedBytes job.pieces ++
    if job.newline ∧ Piece.failure ∉ job.pieces then [newlineByte] else []

/-- How many chunks of its bytes a print hands over. -/
def count (job : PrintJob) : Nat :=
  if Piece.failure ∈ job.pieces then sentCount job.bytes.length
  else chunkCount job.bytes.length

theorem bytes_of_failure {job : PrintJob} (h : Piece.failure ∈ job.pieces) :
    job.bytes = stagedBytes job.pieces := by
  rw [bytes, if_neg fun hnew ↦ hnew.2 h, List.append_nil]

theorem bytes_of_complete {job : PrintJob} (h : Piece.failure ∉ job.pieces) :
    job.bytes = stagedBytes job.pieces ++
      if job.newline then [newlineByte] else [] := by
  simp only [bytes, h, not_false_eq_true, and_true]

theorem count_le (job : PrintJob) :
    job.count ≤ chunkCount job.bytes.length := by
  unfold count
  split
  · exact sentCount_le_chunkCount _
  · exact Nat.le_refl _

end PrintJob

namespace LineBuffer

variable {answers : Nat → Answer} {b : LineBuffer} {job : PrintJob}

/-- A print stages its bytes one after the other.  Unless its formatting
fails, what is pending in the end is flushed. -/
theorem print_eq (answers : Nat → Answer) (b : LineBuffer)
    (job : PrintJob) :
    b.print answers job.pieces job.newline =
      let p := Printing.pushAll answers ⟨b, []⟩ job.bytes
      (p.buffer.clear,
        if Piece.failure ∈ job.pieces then p.calls
        else (p.flush answers).calls) := by
  by_cases h : Piece.failure ∈ job.pieces
  · simp only [print, stagePieces_eq, h, not_true_eq_false, decide_false,
      job.bytes_of_failure h, ↓reduceIte]
  · simp only [print, stagePieces_eq, h, not_false_eq_true, decide_true,
      job.bytes_of_complete h, ↓reduceIte]
    cases job.newline <;> simp [Printing.pushAll, Printing.flush]

theorem staged_bytes (hb : b.Idle job.stream) :
    Printing.Staged answers job.stream job.bytes
      (Printing.pushAll answers ⟨b, []⟩ job.bytes) :=
  (Printing.staged_nil hb).pushAll job.bytes

theorem idle_print (hb : b.Idle job.stream) :
    (b.print answers job.pieces job.newline).1.Idle job.stream := by
  rw [print_eq]
  exact ⟨(staged_bytes hb).stream_eq, rfl⟩

/-- The writes of a print depend on the bytes it stages, on whether it
fails, and on the answers. -/
theorem calls_print (hb : b.Idle job.stream) :
    (b.print answers job.pieces job.newline).2 =
      handOverAll answers job.stream (chunks job.bytes job.count) := by
  rw [print_eq, PrintJob.count]
  split
  · exact (staged_bytes hb).calls_eq
  · exact (staged_bytes hb).calls_flush

end LineBuffer

namespace Console

/-- The buffer of a stream. -/
def buffer (c : Console) : Stream → LineBuffer
  | .out => c.out
  | .err => c.err

/-- No print is under way on either stream. -/
def Idle (c : Console) : Prop :=
  ∀ s, (c.buffer s).Idle s

theorem idle_fresh : fresh.Idle
  | .out => ⟨rfl, rfl⟩
  | .err => ⟨rfl, rfl⟩

variable {answers : Nat → Answer} {c : Console} {job : PrintJob}

theorem calls_print_eq :
    (c.print answers job).2 =
      ((c.buffer job.stream).print answers job.pieces job.newline).2 := by
  unfold print
  cases job.stream <;> rfl

theorem buffer_print_self :
    (c.print answers job).1.buffer job.stream =
      ((c.buffer job.stream).print answers job.pieces job.newline).1 := by
  unfold print
  cases job.stream <;> rfl

theorem buffer_print_of_ne {s : Stream} (h : s ≠ job.stream) :
    (c.print answers job).1.buffer s = c.buffer s := by
  unfold print
  cases hs : job.stream with
  | out =>
      cases s with
      | out => exact absurd hs.symm h
      | err => rfl
  | err =>
      cases s with
      | out => rfl
      | err => exact absurd hs.symm h

theorem calls_print (hc : (c.buffer job.stream).Idle job.stream) :
    (c.print answers job).2 =
      handOverAll answers job.stream (chunks job.bytes job.count) :=
  calls_print_eq.trans (LineBuffer.calls_print hc)

theorem idle_buffer_print (hc : (c.buffer job.stream).Idle job.stream) :
    ((c.print answers job).1.buffer job.stream).Idle job.stream := by
  rw [buffer_print_self]
  exact LineBuffer.idle_print hc

/-- A print leaves its own buffer idle, and the other one alone. -/
theorem idle_print (hc : c.Idle) : (c.print answers job).1.Idle := by
  intro s
  by_cases hs : s = job.stream
  · rw [hs]
    exact idle_buffer_print (hc job.stream)
  · rw [buffer_print_of_ne hs]
    exact hc s

theorem mem_calls_print (hc : (c.buffer job.stream).Idle job.stream)
    {call : Call} (h : call ∈ (c.print answers job).2) :
    call.stream = job.stream ∧
      (∃ i, call.offered <:+ chunk job.bytes i) ∧
      ∃ i, call.answer = answers i := by
  rw [calls_print hc] at h
  exact mem_handOverAll_chunks h

theorem taken_of_mem_print_takeAll
    (hc : (c.buffer job.stream).Idle job.stream) {call : Call}
    (h : call ∈ (c.print takeAll job).2) : call.taken = call.offered := by
  obtain ⟨_, ⟨i, hsuffix⟩, _, hanswer⟩ := mem_calls_print hc h
  have hlength : call.offered.length ≤ bufferSize :=
    Nat.le_trans hsuffix.length_le (length_chunk_le job.bytes i)
  apply List.take_of_length_le
  rw [hanswer]
  exact Nat.le_min.mpr ⟨Nat.le_succ_of_le hlength, Nat.le_refl _⟩

theorem calls_print_of_taken (hc : (c.buffer job.stream).Idle job.stream)
    (h : ∀ call ∈ (c.print answers job).2, call.taken = call.offered) :
    (c.print answers job).2 =
      chunkCalls answers job.stream job.bytes job.count := by
  rw [calls_print hc] at h ⊢
  exact handOverAll_of_taken job.count_le h

end Console

end AlignedStorage
