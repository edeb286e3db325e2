import AlignedStorage.Fault
import AlignedStorage.Numeral

/-!
# Alignments

An alignment is a power of two.  A storage type can be asked for any of the
thirty alignments from one byte to 2^29, listed in `archetypes`;
`Alignment.ofNat` checks a number against the same rule, and
`Alignment.unchecked` checks only that it is a power of two.
-/

namespace AlignedStorage

/-- A power of two, as the number of bytes an address is a multiple of. -/
structure Alignment where
  value : Nat
  isPowerOfTwo : value.isPowerOfTwo
deriving DecidableEq

/-- The strictest alignment a storage type can be given, 2^29. -/
def maxAlignment : Nat := 0x20000000

/-- Why no storage can be had for a requested alignment and size. -/
inductive AlignmentError
  | zero
  | notPowerOfTwo (align : Nat)
  | tooLarge (align : Nat)
  /-- The padded size is no longer addressable. -/
  | sizeOverflow (size : Nat)
deriving DecidableEq, Repr

def AlignmentError.message : AlignmentError → String
  | .zero => "alignment must be non-zero"
  | .notPowerOfTwo align =>
      "alignment " ++ decimal align ++ " is not a power of two"
  | .tooLarge align =>
      "alignment " ++ decimal align ++ " exceeds the maximum of " ++
        decimal maxAlignment
  | .sizeOverflow size =>
      "storage of " ++ decimal size ++
        " bytes overflows isize::MAX once padded"

def AlignmentError.debugText : AlignmentError → String
  | .zero => "Zero"
  | .notPowerOfTwo align => "NotPowerOfTwo(" ++ decimal align ++ ")"
  | .tooLarge align => "TooLarge(" ++ decimal align ++ ")"
  | .sizeOverflow size => "SizeOverflow(" ++ decimal size ++ ")"

namespace Alignment

/-- The alignment of a number that is a power of two no larger than
`maxAlignment`. -/
def ofNat (n : Nat) : Except AlignmentError Alignment :=
  if n = 0 then .error .zero
  else if h : n.isPowerOfTwo then
    if n ≤ maxAlignment then .ok ⟨n, h⟩ else .error (.tooLarge n)
  else .error (.notPowerOfTwo n)

def unchecked (n : Nat) : Except Fault Alignment :=
  if h : n.isPowerOfTwo then .ok ⟨n, h⟩ else .error .notPowerOfTwo

def log2 (a : Alignment) : Nat :=
  a.value.log2

/-- The bits of an address that an alignment requires to be zero. -/
def mask (a : Alignment) : Nat :=
  a.value - 1

def text (a : Alignment) : String :=
  decimal a.value

def debugText (a : Alignment) : String :=
  "Alignment(" ++ decimal a.value ++ ")"

theorem value_pos (a : Alignment) : 0 < a.value :=
  Nat.pos_of_isPowerOfTwo a.isPowerOfTwo

end Alignment

/-- A zero-sized type that carries one alignment. -/
structure Archetype where
  name : String
  align : Nat
deriving DecidableEq, Repr

/-- The archetypes of all alignments a storage type can have, ascending. -/
def archetypes : List Archetype :=
  [ ⟨"Align1", 1⟩, ⟨"Align2", 2⟩, ⟨"Align4", 4⟩, ⟨"Align8", 8⟩,
    ⟨"Align16", 16⟩, ⟨"Align32", 32⟩, ⟨"Align64", 64⟩,
    ⟨"Align128", 128⟩, ⟨"Align256", 256⟩, ⟨"Align512", 512⟩,
    ⟨"Align1K", 1024⟩, ⟨"Align2K", 2048⟩, ⟨"Align4K", 4096⟩,
    ⟨"Align8K", 8192⟩, ⟨"Align16K", 16384⟩, ⟨"Align32K", 32768⟩,
    ⟨"Align64K", 65536⟩, ⟨"Align128K", 131072⟩, ⟨"Align256K", 262144⟩,
    ⟨"Align512K", 524288⟩, ⟨"Align1M", 1048576⟩, ⟨"Align2M", 2097152⟩,
    ⟨"Align4M", 4194304⟩, ⟨"Align8M", 8388608⟩,
    ⟨"Align16M", 16777216⟩, ⟨"Align32M", 33554432⟩,
    ⟨"Align64M", 67108864⟩, ⟨"Align128M", 134217728⟩,
    ⟨"Align256M", 268435456⟩, ⟨"Align512M", 536870912⟩ ]

def supportedAlignments : List Nat :=
  archetypes.map Archetype.align

def archetype? (align : Nat) : Option Archetype :=
  archetypes.find? (·.align == align)

/-- The refusal of an alignment that no archetype carries. -/
structure UnsupportedAlignment where
  align : Nat
deriving DecidableEq, Repr

def UnsupportedAlignment.message (e : UnsupportedAlignment) : String :=
  "the trait bound `Align<" ++ decimal e.align ++
    ">: SupportedAlignment` is not satisfied"

def selectArchetype (align : Nat) : Except UnsupportedAlignment Archetype :=
  match archetype? align with
  | some archetype => .ok archetype
  | none => .error ⟨align⟩

namespace Alignment

def all : List Alignment :=
  supportedAlignments.filterMap fun n ↦
    if h : n.isPowerOfTwo then some ⟨n, h⟩ else none

def least : Alignment :=
  ⟨1, Nat.isPowerOfTwo_one⟩

def greatest : Alignment :=
  ⟨maxAlignment, 29, rfl⟩

/-- The alignments of a list of numbers, or the position of the first number
that is none and what is wrong with it. -/
def ofList (ns : List Nat) :
    Except (Nat × AlignmentError) (List Alignment) :=
  go 0 ns
where
  /-- Continues at a position of the list. -/
  go (index : Nat) : List Nat → Except (Nat × AlignmentError) (List Alignment)
    | [] => .ok []
    | n :: rest =>
        match ofNat n with
        | .error e => .error (index, e)
        | .ok a => (go (index + 1) rest).map (a :: ·)

/-- Alignments are ordered by their number of bytes. -/
instance : Ord Alignment where
  compare a b := compare a.value b.value

def sort (as : List Alignment) : List Alignment :=
  as.mergeSort fun a b ↦ a.value ≤ b.value

def distinct (as : List Alignment) : Nat :=
  as.eraseDups.length

/-- How each alignment of a list compares with the next. -/
def neighbours (as : List Alignment) : List Ordering :=
  List.zipWith compare as as.tail

def strictest? (as : List Alignment) : Option Alignment :=
  (sort as).getLast?

def weakest? (as : List Alignment) : Option Alignment :=
  (sort as).head?

end Alignment

end AlignedStorage
