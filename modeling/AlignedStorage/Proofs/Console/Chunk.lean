import AlignedStorage.Console.Basic

/-!
# Chunks and how they are handed over

Staged bytes leave the line buffer in chunks of its size.  A chunk is handed
over by one write that takes all of it, or by several that take parts; if
every write takes all it is offered, the writes are the chunks.
-/

namespace AlignedStorage

/-- The bytes of a list that are in the buffer after it was full `i`
times. -/
def chunk (bytes : List UInt8) (i : Nat) : List UInt8 :=
  (bytes.drop (bufferSize * i)).take bufferSize

/-- The first chunks of a list. -/
def chunks (bytes : List UInt8) (count : Nat) : List (List UInt8) :=
  (List.range count).map (chunk bytes)

/-- How many chunks have left the buffer once `n` bytes are staged.  A full
chunk stays until there is a byte for the next one. -/
def sentCount (n : Nat) : Nat :=
  (n - 1) / bufferSize

/-- How many chunks `n` bytes have, the last of them perhaps a short one. -/
def chunkCount (n : Nat) : Nat :=
  (n + (bufferSize - 1)) / bufferSize

theorem mul_sentCount_le (n : Nat) : bufferSize * sentCount n ≤ n := by
  unfold sentCount bufferSize
  omega

theorem le_mul_sentCount_succ (n : Nat) :
    n ≤ bufferSize * (sentCount n + 1) := by
  unfold sentCount bufferSize
  omega

theorem sentCount_succ_of_lt {n : Nat}
    (h : n - bufferSize * sentCount n < bufferSize) :
    sentCount (n + 1) = sentCount n ∧
      n - bufferSize * sentCount n = n % bufferSize := by
  unfold sentCount bufferSize at *
  omega

theorem sentCount_succ_of_le {n : Nat}
    (h : bufferSize ≤ n - bufferSize * sentCount n) :
    sentCount (n + 1) = sentCount n + 1 ∧
      bufferSize * (sentCount n + 1) = n ∧ n % bufferSize = 0 := by
  unfold sentCount bufferSize at *
  omega

theorem chunkCount_eq_sentCount_succ {n : Nat} (hn : 0 < n) :
    chunkCount n = sentCount n + 1 := by
  unfold chunkCount sentCount bufferSize
  omega

theorem lt_chunkCount_iff {i n : Nat} :
    i < chunkCount n ↔ bufferSize * i < n := by
  unfold chunkCount bufferSize
  omega

theorem sentCount_le_chunkCount (n : Nat) : sentCount n ≤ chunkCount n := by
  unfold sentCount chunkCount bufferSize
  omega

@[simp] theorem chunks_zero (bytes : List UInt8) : chunks bytes 0 = [] := rfl

theorem chunks_succ (bytes : List UInt8) (n : Nat) :
    chunks bytes (n + 1) = chunks bytes n ++ [chunk bytes n] := by
  simp [chunks, List.range_succ]

theorem flatten_chunks (bytes : List UInt8) (n : Nat) :
    (chunks bytes n).flatten = bytes.take (bufferSize * n) := by
  induction n with
  | zero => simp
  | succ n ih =>
      rw [chunks_succ, List.flatten_append, ih, List.flatten_singleton,
        Nat.mul_succ, List.take_add]
      rfl

theorem length_chunk {bytes : List UInt8} {i : Nat}
    (h : bufferSize * (i + 1) ≤ bytes.length) :
    (chunk bytes i).length = bufferSize := by
  rw [Nat.mul_succ] at h
  rw [chunk, List.length_take, List.length_drop]
  omega

theorem length_chunk_le (bytes : List UInt8) (i : Nat) :
    (chunk bytes i).length ≤ bufferSize :=
  List.length_take_le _ _

theorem chunk_ne_nil {bytes : List UInt8} {i : Nat}
    (h : i < chunkCount bytes.length) : chunk bytes i ≠ [] := by
  have hlt := lt_chunkCount_iff.mp h
  have hsize : 0 < bufferSize := by decide
  apply List.ne_nil_of_length_pos
  rw [chunk, List.length_take, List.length_drop]
  omega

theorem isInfix_chunk (bytes : List UInt8) (i : Nat) :
    chunk bytes i <:+: bytes :=
  (List.take_prefix _ _).isInfix.trans (List.drop_suffix _ _).isInfix

theorem chunk_eq_drop {bytes : List UInt8} {i : Nat}
    (h : bytes.length ≤ bufferSize * (i + 1)) :
    chunk bytes i = bytes.drop (bufferSize * i) := by
  rw [Nat.mul_succ] at h
  apply List.take_of_length_le
  rw [List.length_drop]
  omega

/-- What is staged later does not change a chunk that is full. -/
theorem chunk_append {bytes : List UInt8} {i : Nat} (more : List UInt8)
    (h : bufferSize * (i + 1) ≤ bytes.length) :
    chunk (bytes ++ more) i = chunk bytes i := by
  rw [Nat.mul_succ] at h
  rw [chunk, chunk, List.drop_append_of_le_length (by omega),
    List.take_append_of_le_length]
  rw [List.length_drop]
  omega

theorem chunks_append {bytes : List UInt8} {n : Nat} (more : List UInt8)
    (h : bufferSize * n ≤ bytes.length) :
    chunks (bytes ++ more) n = chunks bytes n := by
  apply List.map_congr_left
  intro i hi
  have hin : i + 1 ≤ n := List.mem_range.mp hi
  exact chunk_append more
    (Nat.le_trans (Nat.mul_le_mul_left bufferSize hin) h)

/-! ## Handing bytes over -/

/-- The writes that hand bytes over, after those made already.  Each offers
all that is left, and a refusal is the last of them. -/
def handOver (answers : Nat → Answer) (s : Stream) (calls : List Call) :
    List UInt8 → List Call
  | [] => calls
  | b :: rest =>
      match answers calls.length with
      | .refuse => calls ++ [⟨s, b :: rest, .refuse⟩]
      | .take more =>
          handOver answers s (calls ++ [⟨s, b :: rest, .take more⟩])
            (rest.drop more)
termination_by bytes => bytes.length
decreasing_by
  rw [List.length_drop, List.length_cons]
  omega

/-- The writes that hand chunks over, one chunk after the other. -/
def handOverAll (answers : Nat → Answer) (s : Stream)
    (cs : List (List UInt8)) : List Call :=
  cs.foldl (handOver answers s) []

/-- A single write for each of the first chunks of a list. -/
def chunkCalls (answers : Nat → Answer) (s : Stream) (bytes : List UInt8)
    (count : Nat) : List Call :=
  (List.range count).map fun i ↦ ⟨s, chunk bytes i, answers i⟩

section

variable {answers : Nat → Answer} {s : Stream} {calls : List Call}
  {bytes : List UInt8}

@[simp] theorem handOver_nil : handOver answers s calls [] = calls := by
  rw [handOver]

theorem handOver_of_refuse (hbytes : bytes ≠ [])
    (h : answers calls.length = .refuse) :
    handOver answers s calls bytes = calls ++ [⟨s, bytes, .refuse⟩] := by
  obtain ⟨b, rest, rfl⟩ := List.exists_cons_of_ne_nil hbytes
  rw [handOver, h]

theorem handOver_of_take {more : Nat} (hbytes : bytes ≠ [])
    (h : answers calls.length = .take more) :
    handOver answers s calls bytes =
      handOver answers s (calls ++ [⟨s, bytes, .take more⟩])
        (bytes.drop (more + 1)) := by
  obtain ⟨b, rest, rfl⟩ := List.exists_cons_of_ne_nil hbytes
  rw [handOver, h, List.drop_succ_cons]

theorem prefix_handOver : calls <+: handOver answers s calls bytes := by
  fun_induction handOver answers s calls bytes with
  | case1 calls => exact List.prefix_rfl
  | case2 calls b rest _ => exact List.prefix_append _ _
  | case3 calls b rest more _ ih => exact (List.prefix_append _ _).trans ih

/-- What a write offers is the end of what there was to hand over. -/
theorem mem_handOver {call : Call}
    (h : call ∈ handOver answers s calls bytes) :
    call ∈ calls ∨
      call.stream = s ∧ call.offered <:+ bytes ∧
        ∃ i, call.answer = answers i := by
  fun_induction handOver answers s calls bytes with
  | case1 calls => exact .inl h
  | case2 calls b rest hrefuse =>
      rcases List.mem_append.mp h with hold | hnew
      · exact .inl hold
      · rw [List.mem_singleton.mp hnew]
        exact .inr ⟨rfl, List.suffix_rfl, calls.length, hrefuse.symm⟩
  | case3 calls b rest more htake ih =>
      rcases ih h with hold | ⟨hstream, hsuffix, hanswer⟩
      · rcases List.mem_append.mp hold with hold | hnew
        · exact .inl hold
        · rw [List.mem_singleton.mp hnew]
          exact .inr ⟨rfl, List.suffix_rfl, calls.length, htake.symm⟩
      · have hrest : rest.drop more <:+ b :: rest :=
          (List.drop_suffix _ _).trans (List.suffix_cons _ _)
        exact .inr ⟨hstream, hsuffix.trans hrest, hanswer⟩

/-- A write that takes all it is offered is the only one. -/
theorem handOver_of_taken (hbytes : bytes ≠ [])
    (h : ∀ call ∈ handOver answers s calls bytes,
      call.taken = call.offered) :
    handOver answers s calls bytes =
      calls ++ [⟨s, bytes, answers calls.length⟩] := by
  cases hanswer : answers calls.length with
  | refuse => exact handOver_of_refuse hbytes hanswer
  | take more =>
      rw [handOver_of_take hbytes hanswer] at h ⊢
      have hcall : (⟨s, bytes, .take more⟩ : Call).taken = bytes :=
        h _ (prefix_handOver.subset (by simp))
      have hlength : bytes.length ≤ more + 1 := by
        have hle := congrArg List.length hcall
        simp only [Call.taken, Answer.taken, List.length_take] at hle
        omega
      rw [List.drop_of_length_le hlength, handOver_nil]

theorem handOverAll_chunks_succ (n : Nat) :
    handOverAll answers s (chunks bytes (n + 1)) =
      handOver answers s (handOverAll answers s (chunks bytes n))
        (chunk bytes n) := by
  rw [chunks_succ, handOverAll, List.foldl_append]
  rfl

theorem mem_handOverAll_chunks {n : Nat} {call : Call}
    (h : call ∈ handOverAll answers s (chunks bytes n)) :
    call.stream = s ∧
      (∃ i, call.offered <:+ chunk bytes i) ∧
      ∃ i, call.answer = answers i := by
  induction n with
  | zero => cases h
  | succ n ih =>
      rw [handOverAll_chunks_succ] at h
      rcases mem_handOver h with hold | ⟨hstream, hsuffix, hanswer⟩
      · exact ih hold
      · exact ⟨hstream, ⟨n, hsuffix⟩, hanswer⟩

@[simp] theorem length_chunkCalls (n : Nat) :
    (chunkCalls answers s bytes n).length = n := by
  simp [chunkCalls]

theorem chunkCalls_succ (n : Nat) :
    chunkCalls answers s bytes (n + 1) =
      chunkCalls answers s bytes n ++ [⟨s, chunk bytes n, answers n⟩] := by
  simp [chunkCalls, List.range_succ]

theorem flatMap_offered_chunkCalls (n : Nat) :
    (chunkCalls answers s bytes n).flatMap Call.offered =
      bytes.take (bufferSize * n) := by
  rw [← flatten_chunks, chunks, chunkCalls, List.flatMap_map, List.flatMap]

theorem length_offered_of_mem_chunkCalls {n : Nat} {call : Call}
    (hn : bufferSize * n ≤ bytes.length)
    (h : call ∈ chunkCalls answers s bytes n) :
    call.offered.length = bufferSize := by
  obtain ⟨i, hi, rfl⟩ := List.mem_map.mp h
  have hin : i + 1 ≤ n := List.mem_range.mp hi
  exact length_chunk
    (Nat.le_trans (Nat.mul_le_mul_left bufferSize hin) hn)

/-- If every write takes all it is offered, there is one for each chunk. -/
theorem handOverAll_of_taken {n : Nat} (hn : n ≤ chunkCount bytes.length)
    (h : ∀ call ∈ handOverAll answers s (chunks bytes n),
      call.taken = call.offered) :
    handOverAll answers s (chunks bytes n) =
      chunkCalls answers s bytes n := by
  induction n with
  | zero => rfl
  | succ n ih =>
      rw [handOverAll_chunks_succ] at h ⊢
      have hbefore := ih (Nat.le_of_succ_le hn) fun call hcall ↦
        h call (prefix_handOver.subset hcall)
      rw [handOver_of_taken (chunk_ne_nil hn) h, hbefore, length_chunkCalls,
        chunkCalls_succ]

end

end AlignedStorage
