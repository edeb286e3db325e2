import AlignedStorage.Layout

/-!
# Storage types

A storage type is either an array of bytes with an alignment marker in
front, or an untagged union of up to ten candidates whose unused slots are
fillers.  Its layout follows from the rules for records and unions; `fit`
decides whether values of a given size and alignment can be placed in it.
-/

namespace AlignedStorage

/-- Why a value cannot be placed in a storage type. -/
inductive Misfit
  | larger
  | stricter
deriving DecidableEq, Repr

def Misfit.message : Misfit → String
  | .larger => "value is larger than the storage"
  | .stricter => "value is more strictly aligned than the storage"

/-- Whether values of a size and alignment can be placed in storage of a
layout.  The size is looked at first. -/
def fit (size align : Nat) (storage : Layout) : Except Misfit Unit :=
  if storage.size < size then .error .larger
  else if storage.align < align then .error .stricter
  else .ok ()

theorem fit_eq_ok_iff {size align : Nat} {storage : Layout} :
    fit size align storage = .ok () ↔
      size ≤ storage.size ∧ align ≤ storage.align := by
  unfold fit
  split
  · simp only [reduceCtorEq, false_iff]
    omega
  · split
    · simp only [reduceCtorEq, false_iff]
      omega
    · simp only [true_iff]
      omega

def maxCandidates : Nat := 10

/-- The description of a storage type. -/
inductive Shape
  /-- `size` bytes at a multiple of `align`. -/
  | array (align size : Nat)
  /-- Storage for any one of the candidates. -/
  | union (candidates : List Layout)
deriving DecidableEq

namespace Shape

/-- The storage type that an alignment and a size name. -/
def named (align size : Nat) : Shape :=
  .array align size

/-- The layout of the zero-sized marker of an alignment, if there is one. -/
def marker? (align : Nat) : Option Layout :=
  if align ∈ supportedAlignments then Layout.ofType? 0 align else none

/-- The slots of a union: its candidates and as many fillers as are left. -/
def slots (candidates : List Layout) : List Layout :=
  candidates ++
    List.replicate (maxCandidates - candidates.length) Layout.filler

def layout? : Shape → Option Layout
  | .array align size => do
      let marker ← marker? align
      let buffer ← Layout.ofType? size 1
      Layout.sequence [marker, buffer]
  | .union candidates =>
      if 0 < candidates.length ∧ candidates.length ≤ maxCandidates then
        Layout.overlay (slots candidates)
      else none

/-- The number of bytes a storage type declares.  The padding of an array is
not counted, that of a union is. -/
def declaredSize (s : Shape) (layout : Layout) : Nat :=
  match s with
  | .array _ size => size
  | .union _ => layout.size

/-- The number of bytes that can be reached as a slice, for storage types
that offer one. -/
def sliceLength? : Shape → Option Nat
  | .array _ size => some size
  | .union _ => none

def label (s : Shape) (layout : Layout) : String :=
  match s with
  | .array align size =>
      "AlignedCharArray<" ++ decimal align ++ ", " ++ decimal size ++ ">"
  | .union _ =>
      "AlignedCharArrayUnion[size=" ++ decimal layout.size ++ ", align=" ++
        decimal layout.align ++ "]"

def markerLabel (align : Nat) : String :=
  "Align<" ++ decimal align ++ ">"

def fillerLabel : String :=
  "Filler"

end Shape

end AlignedStorage
