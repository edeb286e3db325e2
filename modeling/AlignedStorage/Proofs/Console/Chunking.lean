import AlignedStorage.Proofs.Console.Print

/-!
# Chunking

If the system takes all it is offered, a print makes one write for every 80
bytes of its text and one for the rest.  How the text was cut into pieces
does not show, and neither does what the buffer held before.
-/

namespace AlignedStorage

/-- A print of texts, none of which fails to be formatted. -/
def PrintJob.ofTexts (s : Stream) (texts : List String) (newline : Bool) :
    PrintJob :=
  ⟨s, texts.map .text, newline⟩

theorem failure_notMem_texts (texts : List String) :
    Piece.failure ∉ texts.map Piece.text := by
  simp

theorem stagedBytes_texts (texts : List String) :
    stagedBytes (texts.map .text) = texts.flatMap utf8 := by
  induction texts with
  | nil => rfl
  | cons text texts ih =>
      rw [List.map_cons, stagedBytes, ih, List.flatMap_cons]

theorem Console.calls_print_ofTexts {answers : Nat → Answer} {c : Console}
    {s : Stream} {texts : List String} {newline : Bool} {bytes : List UInt8}
    (hc : (c.buffer s).Idle s)
    (h : (texts.flatMap utf8 ++ if newline then [newlineByte] else []) =
      bytes) :
    (c.print answers (.ofTexts s texts newline)).2 =
      handOverAll answers s (chunks bytes (chunkCount bytes.length)) := by
  have hcomplete := failure_notMem_texts texts
  have hbytes : (PrintJob.ofTexts s texts newline).bytes = bytes := by
    rw [PrintJob.bytes_of_complete hcomplete, PrintJob.ofTexts,
      stagedBytes_texts, h]
  have hcount : (PrintJob.ofTexts s texts newline).count =
      chunkCount bytes.length := by
    rw [← hbytes]
    exact if_neg hcomplete
  calc
    (c.print answers (.ofTexts s texts newline)).2 =
        handOverAll answers s (chunks (PrintJob.ofTexts s texts newline).bytes
          (PrintJob.ofTexts s texts newline).count) := calls_print hc
    _ = handOverAll answers s (chunks bytes (chunkCount bytes.length)) := by
      rw [hbytes, hcount]

section

variable {answers : Nat → Answer} {s : Stream} {bytes : List UInt8}
  {call : Call}

theorem flatMap_offered_chunkCalls_chunkCount :
    (chunkCalls answers s bytes (chunkCount bytes.length)).flatMap
      Call.offered = bytes := by
  have hlength : bytes.length ≤ bufferSize * chunkCount bytes.length :=
    Nat.not_lt.mp fun hlt ↦ Nat.lt_irrefl _ (lt_chunkCount_iff.mpr hlt)
  rw [flatMap_offered_chunkCalls, List.take_of_length_le hlength]

/-- Only the last write may offer less than a full buffer. -/
theorem length_offered_of_mem_dropLast
    (h : call ∈
      (chunkCalls answers s bytes (chunkCount bytes.length)).dropLast) :
    call.offered.length = bufferSize := by
  cases hcount : chunkCount bytes.length with
  | zero =>
      rw [hcount] at h
      cases h
  | succ n =>
      have hlt : n < chunkCount bytes.length := hcount ▸ Nat.lt_succ_self n
      rw [hcount, chunkCalls_succ, List.dropLast_concat] at h
      exact length_offered_of_mem_chunkCalls
        (Nat.le_of_lt (lt_chunkCount_iff.mp hlt)) h

theorem length_offered_of_mem_getLast?
    (h : call ∈
      (chunkCalls answers s bytes (chunkCount bytes.length)).getLast?) :
    1 ≤ call.offered.length ∧ call.offered.length ≤ bufferSize := by
  cases hcount : chunkCount bytes.length with
  | zero =>
      rw [hcount] at h
      cases h
  | succ n =>
      have hlt : n < chunkCount bytes.length := hcount ▸ Nat.lt_succ_self n
      rw [hcount, chunkCalls_succ, List.getLast?_concat] at h
      obtain rfl := Option.mem_some_iff.mp h
      exact ⟨List.length_pos_iff.mpr (chunk_ne_nil hlt),
        length_chunk_le bytes n⟩

end

/-- Each byte of a text is put at its number modulo the size of the
buffer. -/
theorem Printing.pushAll_take_succ (answers : Nat → Answer) {b : LineBuffer}
    {s : Stream} (hb : b.Idle s) {bytes : List UInt8} {k : Nat}
    (hk : k < bytes.length) :
    let p := pushAll answers ⟨b, []⟩ (bytes.take k)
    let q := pushAll answers ⟨b, []⟩ (bytes.take (k + 1))
    q = p.push answers bytes[k] ∧ q.buffer.cursor = k % bufferSize + 1 ∧
      ∃ h : k % bufferSize < bufferSize,
        q.buffer.bytes = p.buffer.bytes.set (k % bufferSize) bytes[k] h := by
  intro p q
  have hlength : (bytes.take k).length = k :=
    List.length_take_of_le (Nat.le_of_lt hk)
  have hpush : q = p.push answers bytes[k] := by
    simp only [q, p, pushAll]
    rw [List.take_succ_eq_append_getElem hk, List.foldl_append]
    rfl
  have hstaged : Staged answers s (bytes.take k) p :=
    (staged_nil hb).pushAll (bytes.take k)
  obtain ⟨hcursor, hbytes⟩ := hstaged.push_buffer bytes[k]
  simp only [hlength] at hcursor hbytes
  rw [hpush]
  exact ⟨rfl, hcursor, Nat.mod_lt _ (by decide), hbytes⟩

namespace Console

/-- The writes of a print of texts on an idle buffer, when the system takes
all it is offered: their number, what they carry, and what happens to the
buffer meanwhile. -/
theorem print_chunked (answers : Nat → Answer) (c : Console) (s : Stream)
    (texts : List String) (newline : Bool) (hidle : (c.buffer s).Idle s)
    (htaken : ∀ call ∈ (c.print answers (.ofTexts s texts newline)).2,
      call.taken = call.offered) :
    let bytes := texts.flatMap utf8 ++
      if newline then [newlineByte] else []
    let calls := (c.print answers (.ofTexts s texts newline)).2
    let staged (k : Nat) :=
      Printing.pushAll answers ⟨c.buffer s, []⟩ (bytes.take k)
    calls.length = (bytes.length + 79) / 80 ∧
    calls.flatMap Call.offered = bytes ∧
    (∀ call ∈ calls.dropLast, call.offered.length = 80) ∧
    (∀ call ∈ calls.getLast?,
      1 ≤ call.offered.length ∧ call.offered.length ≤ 80) ∧
    (∀ call ∈ calls, call.stream = s) ∧
    (∀ (d : Console) (others : List String) (ended : Bool),
      (d.buffer s).Idle s →
      (others.flatMap utf8 ++ if ended then [newlineByte] else []) = bytes →
      (d.print answers (.ofTexts s others ended)).2 = calls) ∧
    (∀ (k : Nat) (hk : k < bytes.length),
      (staged k).buffer.cursor ≤ 80 ∧
      staged (k + 1) = (staged k).push answers bytes[k] ∧
      (staged (k + 1)).buffer.cursor = k % 80 + 1 ∧
      ∃ h : k % 80 < 80, (staged (k + 1)).buffer.bytes =
        (staged k).buffer.bytes.set (k % 80) bytes[k] h) ∧
    calls = ((staged bytes.length).flush answers).calls ∧
    ((c.print answers (.ofTexts s texts newline)).1.buffer s).cursor = 0 := by
  intro bytes calls staged
  have hall : calls =
      handOverAll answers s (chunks bytes (chunkCount bytes.length)) :=
    calls_print_ofTexts hidle rfl
  have hcalls : calls =
      chunkCalls answers s bytes (chunkCount bytes.length) := by
    rw [hall]
    apply handOverAll_of_taken (Nat.le_refl _)
    rw [← hall]
    exact htaken
  refine ⟨?_, ?_, ?_, ?_, ?_, ?_, ?_, ?_, ?_⟩
  · rw [hcalls, length_chunkCalls]
    rfl
  · rw [hcalls, flatMap_offered_chunkCalls_chunkCount]
  · intro call hcall
    rw [hcalls] at hcall
    exact length_offered_of_mem_dropLast hcall
  · intro call hcall
    rw [hcalls] at hcall
    exact length_offered_of_mem_getLast? hcall
  · intro call hcall
    exact (mem_calls_print hidle hcall).1
  · intro d others ended hd hsame
    exact (calls_print_ofTexts hd hsame).trans hall.symm
  · intro k hk
    obtain ⟨hpush, hcursor, hindex⟩ :=
      Printing.pushAll_take_succ answers hidle hk
    exact ⟨(staged k).buffer.cursor_le, hpush, hcursor, hindex⟩
  · have hstaged : Printing.Staged answers s (bytes.take bytes.length)
        (staged bytes.length) :=
      (Printing.staged_nil hidle).pushAll (bytes.take bytes.length)
    rw [List.take_length] at hstaged
    exact hall.trans hstaged.calls_flush.symm
  · have hdone : ((c.print answers (.ofTexts s texts newline)).1.buffer
        s).Idle s := idle_buffer_print hidle
    exact hdone.cursor_eq

/-- A console on which the formatting of a line has failed. -/
def afterFailure : Console :=
  (fresh.print takeAll ⟨.out, [.text "stale", .failure], true⟩).1

theorem print_fullBuffer :
    (afterFailure.buffer .out).Idle .out ∧
      (∀ call ∈ (afterFailure.print takeAll
          (.ofTexts .out [letters 80] true)).2, call.taken = call.offered) ∧
      (afterFailure.print takeAll
        (.ofTexts .out [letters 80] true)).2.length = 2 ∧
      (afterFailure.print takeAll
        (.ofTexts .out [letters 80] true)).2.flatMap Call.offered =
          List.replicate 80 120 ++ [newlineByte] := by
  have hidle : (afterFailure.buffer .out).Idle .out :=
    idle_print idle_fresh .out
  have htaken : ∀ call ∈ (afterFailure.print takeAll
      (.ofTexts .out [letters 80] true)).2, call.taken = call.offered :=
    fun _ hcall ↦ taken_of_mem_print_takeAll hidle hcall
  have hbytes : [letters 80].flatMap utf8 ++ [newlineByte] =
      List.replicate 80 120 ++ [newlineByte] := by
    rw [List.flatMap_singleton, utf8_letters]
  obtain ⟨hlength, hoffered, _⟩ :=
    print_chunked takeAll afterFailure .out [letters 80] true hidle htaken
  simp only [↓reduceIte, hbytes] at hlength hoffered
  exact ⟨hidle, htaken, hlength, hoffered⟩

end Console

end AlignedStorage
