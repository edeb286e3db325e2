import AlignedStorage.Address
import AlignedStorage.Storage.Basic

/-!
# Placement checks

Checks that storage values sit where their type says: boxed one by one, side
by side in a slice, and as local values.  The addresses are given, as the
allocator chose them.  `fillAndRead` writes every byte of one storage value
and reads it back.
-/

namespace AlignedStorage

def checkRounds : Nat := 64

/-- Whether every address has an alignment; the first that does not raises a
fault. -/
def checkAddresses (align : UInt64) (misaligned : Address → Fault) :
    List Address → Except Fault Unit
  | [] => .ok ()
  | a :: rest =>
      match a.isAlignedTo align with
      | .error e => .error e
      | .ok true => checkAddresses align misaligned rest
      | .ok false => .error (misaligned a)

/-- Checks boxed values of a storage type against the alignment and size
they were asked for, sizes first. -/
def repeatedBoxed (storage : Layout) (boxes : List Address)
    (align size : UInt64) : Except Fault Unit :=
  if storage.size < size.toNat then .error .storageTooSmall
  else if storage.align ≠ align.toNat then
    .error (.valuesDiffer storage.align align.toNat)
  else
    checkAddresses align
      (fun a ↦ .boxMisaligned a.toNat align.toNat) boxes

/-- Checks storage values in a slice and then local ones against an
alignment. -/
def repeatedInline (slots locals : List Address) (align : UInt64) :
    Except Fault Unit :=
  match checkAddresses align (fun _ ↦ .slotMisaligned) slots with
  | .error e => .error e
  | .ok () => checkAddresses align (fun _ ↦ .localMisaligned) locals

/-- The addresses of storage values laid side by side from a first one on,
as many as a check makes. -/
def slotsFrom (first stride : Nat) : List Address :=
  (List.range checkRounds).map fun i ↦ ⟨UInt64.ofNat (first + i * stride)⟩

def patternByte (offset : Nat) : UInt8 :=
  UInt8.ofNat offset

/-- Storage with each byte from offset zero up to a count set to its own
pattern. -/
def fillPattern (s : Storage) : Nat → Storage
  | 0 => s
  | n + 1 => (fillPattern s n).poke n (patternByte n)

/-- Whether the bytes from an offset on are the pattern; the first that is
not raises a fault. -/
def checkPattern (offset : Nat) : List UInt8 → Except Fault Unit
  | [] => .ok ()
  | b :: rest =>
      if b = patternByte offset then checkPattern (offset + 1) rest
      else .error (.valuesDiffer b.toNat (patternByte offset).toNat)

def fillAndRead (s : Storage) : Except Fault Unit :=
  checkPattern 0 (fillPattern s s.layout.size).bytes

/-- The checks by name. -/
inductive PlacementCheck
  | boxed (align size : UInt64)
  | inline (align : UInt64)
  | fill
deriving DecidableEq, Repr

/-- Runs a check on a storage type whose values lie at successive multiples
of its alignment, starting with the first. -/
def PlacementCheck.run (s : Storage) : PlacementCheck → Except Fault Unit
  | .boxed align size =>
      repeatedBoxed s.layout (slotsFrom s.layout.align s.layout.size)
        align size
  | .inline align =>
      repeatedInline (slotsFrom s.layout.align s.layout.size)
        (List.replicate checkRounds ⟨UInt64.ofNat s.layout.align⟩) align
  | .fill => fillAndRead s

end AlignedStorage
