import AlignedStorage.Console.LineBuffer

/-!
# Printing

A print formats its pieces into the line buffer of its stream.  A piece that
fails ends the formatting: the buffer is dropped, and only what had been
flushed before remains.  A console holds one buffer for each stream.
-/

namespace AlignedStorage

def utf8 (s : String) : List UInt8 :=
  s.toList.flatMap String.utf8EncodeChar

/-- A part of what is to be printed. -/
inductive Piece
  | text (s : String)
  /-- Formatting fails here. -/
  | failure
deriving DecidableEq, Repr

/-- A print: its pieces in order, and whether a newline ends it. -/
structure PrintJob where
  stream : Stream
  pieces : List Piece
  newline : Bool
deriving DecidableEq, Repr

def newlineByte : UInt8 := 10

/-- Stages pieces in order up to the first that fails, and tells whether
none did. -/
def stagePieces (answers : Nat → Answer) (p : Printing) :
    List Piece → Printing × Bool
  | [] => (p, true)
  | .failure :: _ => (p, false)
  | .text s :: rest => stagePieces answers (p.pushAll answers (utf8 s)) rest

/-- Carries out a print on a buffer: the buffer afterwards and the writes
made. -/
def LineBuffer.print (answers : Nat → Answer) (b : LineBuffer)
    (pieces : List Piece) (newline : Bool) : LineBuffer × List Call :=
  match stagePieces answers ⟨b, []⟩ pieces with
  | (p, false) => (p.buffer.clear, p.calls)
  | (p, true) =>
      let ended := if newline then p.push answers newlineByte else p
      let done := ended.flush answers
      (done.buffer, done.calls)

/-- The line buffers of both streams. -/
structure Console where
  out : LineBuffer
  err : LineBuffer

namespace Console

def fresh : Console where
  out := LineBuffer.empty .out
  err := LineBuffer.empty .err

/-- Carries out a print, given the system's answers to its writes. -/
def print (c : Console) (answers : Nat → Answer) (job : PrintJob) :
    Console × List Call :=
  match job.stream with
  | .out =>
      let (b, calls) := c.out.print answers job.pieces job.newline
      ({ c with out := b }, calls)
  | .err =>
      let (b, calls) := c.err.print answers job.pieces job.newline
      ({ c with err := b }, calls)

/-- The writes of each print of a list, each with its own answers. -/
def run (c : Console) : List ((Nat → Answer) × PrintJob) → List (List Call)
  | [] => []
  | (answers, job) :: rest =>
      (c.print answers job).2 :: (c.print answers job).1.run rest

def takeAll : Nat → Answer :=
  fun _ ↦ .take bufferSize

def refuseAll : Nat → Answer :=
  fun _ ↦ .refuse

/-- The writes that print lines on the output stream of a fresh console, when
the system takes all it is offered. -/
def printLines (lines : List String) : List Call :=
  (fresh.run (lines.map fun line ↦
    (takeAll, ⟨.out, [.text line], true⟩))).flatten

end Console

end AlignedStorage
