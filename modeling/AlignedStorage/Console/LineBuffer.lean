/-!
# The line buffer

Text on its way to a stream is staged in a fixed buffer of 80 bytes.  A byte
that finds the buffer full flushes it first, and a print flushes what is
left at its end.  The system may take any part of what a write offers, or
refuse it; a refusal discards the buffer and nothing tells the caller.

The system's behaviour is a parameter: `answers i` is its answer to the
write after `i` earlier ones of the same print.
-/

namespace AlignedStorage

inductive Stream
  | out
  | err
deriving DecidableEq, Repr

/-- The system's answer to a write of at least one byte. -/
inductive Answer
  | refuse
  /-- `more + 1` bytes are taken, or all that are offered if they are
  fewer. -/
  | take (more : Nat)
deriving DecidableEq, Repr

def Answer.taken (a : Answer) (offered : Nat) : Nat :=
  match a with
  | .refuse => 0
  | .take more => min (more + 1) offered

/-- One write: where to, the bytes offered and the answer to it. -/
structure Call where
  stream : Stream
  offered : List UInt8
  answer : Answer
deriving DecidableEq, Repr

def Call.taken (c : Call) : List UInt8 :=
  c.offered.take (c.answer.taken c.offered.length)

def bufferSize : Nat := 80

/-- A buffer and the number of its bytes in use.  The others are stale. -/
structure LineBuffer where
  stream : Stream
  bytes : Vector UInt8 bufferSize
  cursor : Nat
  cursor_le : cursor ≤ bufferSize := by decide

namespace LineBuffer

def empty (stream : Stream) : LineBuffer where
  stream := stream
  bytes := Vector.replicate bufferSize 0
  cursor := 0

/-- The buffer with no byte in use; what was in it becomes stale. -/
def clear (b : LineBuffer) : LineBuffer where
  stream := b.stream
  bytes := b.bytes
  cursor := 0

def pending (b : LineBuffer) : List UInt8 :=
  b.bytes.toList.take b.cursor

/-- Puts a byte behind those in use, if there is room. -/
def put (b : LineBuffer) (c : UInt8) (h : b.cursor < bufferSize) :
    LineBuffer where
  stream := b.stream
  bytes := b.bytes.set b.cursor c h
  cursor := b.cursor + 1
  cursor_le := h

end LineBuffer

/-- A print under way: the buffer and the writes made so far. -/
structure Printing where
  buffer : LineBuffer
  calls : List Call

namespace Printing

/-- The writes that hand over the pending bytes from an offset on.  Each
offers all that is left, and a refusal is the last of them. -/
def offer (answers : Nat → Answer) (b : LineBuffer) (calls : List Call)
    (written : Nat) : List Call :=
  if written < b.cursor then
    let offered := b.pending.drop written
    match answers calls.length with
    | .refuse => calls ++ [⟨b.stream, offered, .refuse⟩]
    | .take more =>
        offer answers b (calls ++ [⟨b.stream, offered, .take more⟩])
          (written + min (more + 1) (b.cursor - written))
  else calls
termination_by b.cursor - written
decreasing_by omega

/-- Hands over the pending bytes and empties the buffer, whatever became of
them. -/
def flush (answers : Nat → Answer) (p : Printing) : Printing where
  buffer := p.buffer.clear
  calls := offer answers p.buffer p.calls 0

/-- Stages one byte; a full buffer is flushed before. -/
def push (answers : Nat → Answer) (p : Printing) (c : UInt8) : Printing :=
  if h : p.buffer.cursor < bufferSize then
    { p with buffer := p.buffer.put c h }
  else
    let flushed := p.flush answers
    { flushed with
      buffer := flushed.buffer.put c (by
        change 0 < bufferSize
        decide) }

def pushAll (answers : Nat → Answer) (p : Printing) (bytes : List UInt8) :
    Printing :=
  bytes.foldl (push answers) p

end Printing

end AlignedStorage
