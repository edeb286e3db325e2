import AlignedStorage.Proofs.Console.Chunk

/-!
# Staging

After any number of bytes the buffer holds the last chunk of them, and the
chunks before have been handed over.  One byte more keeps this, whether it
finds room or has the buffer flushed first; so the writes of a print depend
on the bytes it stages and on nothing that was in the buffer before.
-/

namespace AlignedStorage

namespace LineBuffer

@[simp] theorem length_pending (b : LineBuffer) :
    b.pending.length = b.cursor := by
  have h := b.cursor_le
  simp [pending, Nat.min_eq_left h]

theorem pending_put (b : LineBuffer) (c : UInt8) (h : b.cursor < bufferSize) :
    (b.put c h).pending = b.pending ++ [c] := by
  have hlength : b.cursor < b.bytes.toList.length := by
    rw [Vector.length_toList]
    exact h
  have hset : b.bytes.toList.set b.cursor c =
      b.pending ++ c :: b.bytes.toList.drop (b.cursor + 1) := by
    rw [List.set_eq_take_append_cons_drop, if_pos hlength, pending]
  calc
    (b.put c h).pending =
        (b.bytes.toList.set b.cursor c).take (b.pending.length + 1) := by
      rw [b.length_pending, pending, put, Vector.toList_set]
    _ = b.pending ++ [c] := by
      rw [hset, List.take_length_add_append, List.take_succ_cons,
        List.take_zero]

/-- No print is under way on the buffer of a stream. -/
structure Idle (b : LineBuffer) (s : Stream) : Prop where
  stream_eq : b.stream = s
  cursor_eq : b.cursor = 0

end LineBuffer

namespace Printing

/-- A flush hands over the pending bytes and looks at nothing else in the
buffer. -/
theorem offer_eq_handOver (answers : Nat → Answer) (b : LineBuffer)
    (calls : List Call) (written : Nat) :
    offer answers b calls written =
      handOver answers b.stream calls (b.pending.drop written) := by
  have hpending : ∀ w < b.cursor, b.pending.drop w ≠ [] := by
    intro w hlt heq
    have hle := List.drop_eq_nil_iff.mp heq
    rw [b.length_pending] at hle
    omega
  fun_induction offer answers b calls written with
  | case1 calls written hlt offered hrefuse =>
      exact (handOver_of_refuse (hpending written hlt) hrefuse).symm
  | case2 calls written hlt offered more htake ih =>
      -- The offset stops at the cursor even if more could have been taken.
      have hdrop : b.pending.drop
          (written + min (more + 1) (b.cursor - written)) =
            offered.drop (more + 1) := by
        rw [List.drop_drop]
        rcases Nat.le_total (more + 1) (b.cursor - written) with hmore | hmore
        · rw [Nat.min_eq_left hmore]
        · rw [List.drop_of_length_le, List.drop_of_length_le]
          all_goals
            rw [b.length_pending]
            omega
      rw [ih, hdrop, handOver_of_take (hpending written hlt) htake]
  | case3 calls written hle =>
      have hlength : b.pending.length ≤ written := by
        rw [b.length_pending]
        exact Nat.not_lt.mp hle
      rw [List.drop_of_length_le hlength, handOver_nil]

theorem calls_flush (answers : Nat → Answer) (p : Printing) :
    (p.flush answers).calls =
      handOver answers p.buffer.stream p.calls p.buffer.pending :=
  offer_eq_handOver answers p.buffer p.calls 0

/-- What a print on a stream looks like once it has staged bytes. -/
structure Staged (answers : Nat → Answer) (s : Stream) (bytes : List UInt8)
    (p : Printing) : Prop where
  stream_eq : p.buffer.stream = s
  pending_eq :
    p.buffer.pending = bytes.drop (bufferSize * sentCount bytes.length)
  calls_eq :
    p.calls = handOverAll answers s (chunks bytes (sentCount bytes.length))

section

variable {answers : Nat → Answer} {s : Stream} {bytes : List UInt8}
  {p : Printing}

theorem staged_nil {b : LineBuffer} (h : b.Idle s) :
    Staged answers s [] ⟨b, []⟩ := by
  have hpending : b.pending = [] := by
    rw [← List.length_eq_zero_iff, b.length_pending, h.cursor_eq]
  exact ⟨h.stream_eq, hpending, rfl⟩

theorem Staged.cursor_eq (h : Staged answers s bytes p) :
    p.buffer.cursor = bytes.length - bufferSize * sentCount bytes.length := by
  rw [← p.buffer.length_pending, h.pending_eq, List.length_drop]

theorem Staged.calls_flush (h : Staged answers s bytes p) :
    (p.flush answers).calls =
      handOverAll answers s (chunks bytes (chunkCount bytes.length)) := by
  rw [Printing.calls_flush, h.stream_eq, h.calls_eq]
  rcases Nat.eq_zero_or_pos bytes.length with hzero | hpos
  · have hpending : p.buffer.pending = [] := by
      rw [h.pending_eq, List.length_eq_zero_iff.mp hzero, List.drop_nil]
    rw [hpending, handOver_nil, hzero]
    rfl
  · rw [chunkCount_eq_sentCount_succ hpos, handOverAll_chunks_succ,
      h.pending_eq,
      chunk_eq_drop (le_mul_sentCount_succ bytes.length)]

theorem Staged.push (h : Staged answers s bytes p) (c : UInt8) :
    Staged answers s (bytes ++ [c]) (p.push answers c) := by
  have hlength : (bytes ++ [c]).length = bytes.length + 1 :=
    List.length_append
  unfold Printing.push
  split
  · rename_i hroom
    rw [h.cursor_eq] at hroom
    have hcount := (sentCount_succ_of_lt hroom).1
    have hsent := mul_sentCount_le bytes.length
    refine ⟨h.stream_eq, ?_, ?_⟩
    · rw [hlength, hcount, LineBuffer.pending_put, h.pending_eq,
        List.drop_append_of_le_length hsent]
    · rw [hlength, hcount, chunks_append [c] hsent]
      exact h.calls_eq
  · rename_i hfull
    rw [h.cursor_eq, Nat.not_lt] at hfull
    obtain ⟨hcount, hsent, _⟩ := sentCount_succ_of_le hfull
    -- The pending chunk is full, and flushing it is all that is sent.
    have hflush := h.calls_flush
    have hpos : 0 < bytes.length := by
      rw [← hsent]
      exact Nat.mul_pos (by decide) (Nat.succ_pos _)
    rw [chunkCount_eq_sentCount_succ hpos] at hflush
    refine ⟨h.stream_eq, ?_, ?_⟩
    · rw [hlength, hcount, hsent, List.drop_left, LineBuffer.pending_put]
      rfl
    · rw [hlength, hcount, chunks_append [c] (Nat.le_of_eq hsent)]
      exact hflush

/-- A byte goes to the index that its number leaves modulo the size of the
buffer, whether or not the buffer is flushed for it. -/
theorem Staged.push_buffer (h : Staged answers s bytes p) (c : UInt8) :
    (p.push answers c).buffer.cursor = bytes.length % bufferSize + 1 ∧
      (p.push answers c).buffer.bytes =
        p.buffer.bytes.set (bytes.length % bufferSize) c
          (Nat.mod_lt _ (by decide)) := by
  unfold Printing.push
  split
  · rename_i hroom
    have hindex : p.buffer.cursor = bytes.length % bufferSize := by
      rw [h.cursor_eq] at hroom ⊢
      exact (sentCount_succ_of_lt hroom).2
    simp only [LineBuffer.put, hindex, and_self]
  · rename_i hfull
    rw [h.cursor_eq, Nat.not_lt] at hfull
    have hindex := (sentCount_succ_of_le hfull).2.2
    simp only [hindex]
    exact ⟨rfl, rfl⟩

theorem Staged.pushAll (h : Staged answers s bytes p) (more : List UInt8) :
    Staged answers s (bytes ++ more) (p.pushAll answers more) := by
  induction more generalizing bytes p with
  | nil => rwa [List.append_nil]
  | cons c more ih =>
      have hstep := ih (h.push c)
      rwa [List.append_assoc] at hstep

end

end Printing

end AlignedStorage
