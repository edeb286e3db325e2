import AlignedStorage.Alignment
import AlignedStorage.Rounding

/-!
# Layouts

A layout is a size with an alignment.  It is valid when the alignment is a
power of two and the size, rounded up to it, is still addressable.  Unions
of layouts are folded pairwise by `Layout.unionWith`; `Layout.overlay` and
`Layout.sequence` give the layouts of untagged unions and of records with
declared field order in one step.
-/

namespace AlignedStorage

/-- The number of bytes from which on objects are no longer addressable,
2^63. -/
def addressLimit : Nat := 0x8000000000000000

/-- A size in bytes with an alignment. -/
structure Layout where
  size : Nat
  align : Nat
  align_isPowerOfTwo : align.isPowerOfTwo
  size_add_align_le : size + align ≤ addressLimit

/-- The refusal of a size and an alignment that make no valid layout. -/
inductive LayoutError
  | invalidParameters
deriving DecidableEq, Repr

def LayoutError.message : LayoutError → String
  | .invalidParameters => "invalid parameters to Layout::from_size_align"

/-- A power of two within the address limit divides it. -/
theorem dvd_addressLimit {a : Nat} (ha : a.isPowerOfTwo)
    (hle : a ≤ addressLimit) : a ∣ addressLimit := by
  obtain ⟨k, rfl⟩ := ha
  have hk : k ≤ 63 := (Nat.pow_le_pow_iff_right (by decide)).mp hle
  exact Nat.pow_dvd_pow 2 hk

namespace Layout

theorem align_pos (l : Layout) : 0 < l.align :=
  Nat.pos_of_isPowerOfTwo l.align_isPowerOfTwo

@[ext]
theorem ext {l m : Layout} (hsize : l.size = m.size)
    (halign : l.align = m.align) : l = m := by
  cases l
  cases m
  subst hsize halign
  rfl

instance : DecidableEq Layout := fun l m ↦
  decidable_of_iff (l.size = m.size ∧ l.align = m.align)
    ⟨fun h ↦ ext h.1 h.2, fun h ↦ ⟨congrArg size h, congrArg align h⟩⟩

def ofSizeAlign (size align : Nat) : Except LayoutError Layout :=
  if h : align.isPowerOfTwo ∧ size + align ≤ addressLimit then
    .ok ⟨size, align, h.1, h.2⟩
  else .error .invalidParameters

/-- Rounding up to an alignment keeps a layout valid. -/
theorem roundUp_add_align_le (l : Layout) :
    roundUp l.size l.align + l.align ≤ addressLimit := by
  have hle := l.size_add_align_le
  have hdvd : l.align ∣ addressLimit - l.align :=
    Nat.dvd_sub (dvd_addressLimit l.align_isPowerOfTwo (by omega))
      (Nat.dvd_refl _)
  have h := roundUp_le (n := l.size) l.align_pos (by omega) hdvd
  omega

/-- The layout with trailing padding up to its alignment. -/
def padToAlign (l : Layout) : Layout where
  size := roundUp l.size l.align
  align := l.align
  align_isPowerOfTwo := l.align_isPowerOfTwo
  size_add_align_le := l.roundUp_add_align_le

def paddedSize (l : Layout) : Nat :=
  l.padToAlign.size

/-- The padded layout of the larger size and the stricter alignment of
two. -/
def unionWith (l m : Layout) : Except Fault Layout :=
  match ofSizeAlign (max l.size m.size) (max l.align m.align) with
  | .ok both => .ok both.padToAlign
  | .error _ => .error .unlayable

def filler : Layout where
  size := 0
  align := 1
  align_isPowerOfTwo := Nat.isPowerOfTwo_one
  size_add_align_le := by decide

/-- The layout of storage for any one of the candidates: the filler united
with one candidate after the other. -/
def union (candidates : List Layout) : Except Fault Layout :=
  candidates.foldlM unionWith filler

/-- The layouts of a list of sizes and alignments, or the position of the
first pair that makes none and what is wrong with it. -/
def ofPairs (pairs : List (Nat × Nat)) :
    Except (Nat × LayoutError) (List Layout) :=
  go 0 pairs
where
  go (index : Nat) :
      List (Nat × Nat) → Except (Nat × LayoutError) (List Layout)
    | [] => .ok []
    | (size, align) :: rest =>
        match ofSizeAlign size align with
        | .error e => .error (index, e)
        | .ok l => (go (index + 1) rest).map (l :: ·)

def maxSize (ls : List Layout) : Nat :=
  ls.foldr (fun l m ↦ max l.size m) 0

def maxAlign (ls : List Layout) : Nat :=
  ls.foldr (fun l m ↦ max l.align m) 1

/-- The layout of a type whose size is a multiple of its alignment.  No type
reaches the address limit. -/
def ofType? (size align : Nat) : Option Layout :=
  if h : align.isPowerOfTwo ∧ align ≤ addressLimit ∧ align ∣ size ∧
      size < addressLimit then
    some ⟨size, align, h.1, by
      obtain ⟨hpow, hle, ⟨k, rfl⟩, hlt⟩ := h
      obtain ⟨m, hm⟩ := dvd_addressLimit hpow hle
      rw [hm] at hlt ⊢
      have hkm : k < m := Nat.lt_of_mul_lt_mul_left hlt
      exact Nat.mul_le_mul_left align hkm⟩
  else none

/-- An untagged union of members: all start at offset zero, and the size is
rounded up once to the strictest alignment. -/
def overlay (members : List Layout) : Option Layout :=
  ofType? (roundUp (maxSize members) (maxAlign members)) (maxAlign members)

/-- The offset past the last of the fields, each put at the next multiple of
its alignment after the one before, starting at a given offset. -/
def fieldsEnd (start : Nat) : List Layout → Nat
  | [] => start
  | f :: fs => fieldsEnd (roundUp start f.align + f.size) fs

def fieldOffsets (start : Nat) : List Layout → List Nat
  | [] => []
  | f :: fs =>
      roundUp start f.align ::
        fieldOffsets (roundUp start f.align + f.size) fs

/-- A record of fields in declared order, rounded up to the strictest
alignment. -/
def sequence (fields : List Layout) : Option Layout :=
  ofType? (roundUp (fieldsEnd 0 fields) (maxAlign fields)) (maxAlign fields)

end Layout

/-- The padded layout of storage of a given alignment and size. -/
def storageLayout (align size : Nat) : Except AlignmentError Layout :=
  match Alignment.ofNat align with
  | .error e => .error e
  | .ok a =>
      match Layout.ofSizeAlign size a.value with
      | .ok l => .ok l.padToAlign
      | .error _ => .error (.sizeOverflow size)

end AlignedStorage
