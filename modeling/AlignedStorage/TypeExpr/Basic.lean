import AlignedStorage.Storage.Shape

/-!
# Type expressions

The types whose alignment and size can be asked for, on a machine with
eight-byte words.  `TypeExpr.measure?` finds the alignment, the size unless
it is known only at run time, and the bit patterns that no value uses, which
an optional value needs to be no larger than the value itself.
-/

namespace AlignedStorage

inductive TypeExpr
  /-- A scalar aligned to its size, with some bit patterns to spare. -/
  | scalar (size : Nat) (spare : Nat)
  /-- A pointer; one to a type of unknown size carries a second word. -/
  | pointer (nonNull : Bool) (target : TypeExpr)
  | heapBuffer
  | slice (element : TypeExpr)
  | str
  /-- An object known only by its trait. -/
  | traitObject
  | array (element : TypeExpr) (count : Nat)
  /-- Fields in whatever order leaves no gaps. -/
  | tuple (fields : List TypeExpr)
  /-- Fields in declared order. -/
  | record (fields : List TypeExpr)
  | option (value : TypeExpr)
  /-- A value that may not be there yet: every bit pattern is allowed. -/
  | uninit (value : TypeExpr)
  /-- The zero-sized type of an alignment. -/
  | marker (align : Nat)
  | byteArray (align size : Nat)
  | union (candidates : List TypeExpr)

/-- What is known of a type. -/
structure Measure where
  align : Nat
  /-- The size, unless values of the type differ in size. -/
  size : Option Nat
  /-- The number of bit patterns that no value uses. -/
  spare : Nat
deriving DecidableEq, Repr

namespace Measure

def layout? (m : Measure) : Option Layout := do
  Layout.ofType? (← m.size) m.align

/-- The measure of a layout all of whose bit patterns are in use. -/
def ofLayout (l : Layout) : Measure where
  align := l.align
  size := some l.size
  spare := 0

/-- The measure of an optional value.  Without a spare pattern for its
absence, a tag is put in front, which takes up as much as the alignment. -/
def optional (m : Measure) : Option Measure := do
  let size ← m.size
  if 0 < m.spare then return { m with spare := m.spare - 1 }
  else return ⟨m.align, some (size + m.align), 254⟩

/-- The measure of fields without gaps between them, strictest first. -/
def packed (fields : List Measure) : Option Measure := do
  let layouts ← fields.mapM layout?
  let align := Layout.maxAlign layouts
  let size := roundUp (layouts.foldl (fun n l ↦ n + l.size) 0) align
  return ⟨align, some size, (fields.map Measure.spare).foldl max 0⟩

def ordered (fields : List Measure) : Option Measure := do
  let layouts ← fields.mapM layout?
  let l ← Layout.sequence layouts
  return { ofLayout l with spare := (fields.map Measure.spare).foldl max 0 }

end Measure

namespace TypeExpr

def pointerMeasure (nonNull : Bool) (target : Measure) : Measure where
  align := 8
  size := some (if target.size.isSome then 8 else 16)
  spare := if nonNull then 1 else 0

mutual

def measure? : TypeExpr → Option Measure
  | .scalar size spare => some ⟨size, some size, spare⟩
  | .pointer nonNull target => target.measure?.map (pointerMeasure nonNull)
  | .heapBuffer => some ⟨8, some 24, addressLimit⟩
  | .slice element => do
      let m ← element.measure?
      return ⟨m.align, none, 0⟩
  | .str => some ⟨1, none, 0⟩
  | .traitObject => some ⟨8, none, 0⟩
  | .array element count => do
      let m ← element.measure?
      return { m with
        size := some (count * (← m.size))
        spare := if count = 0 then 0 else m.spare }
  | .tuple fields => do Measure.packed (← measures? fields)
  | .record fields => do Measure.ordered (← measures? fields)
  | .option value => do (← value.measure?).optional
  | .uninit value => do
      let m ← value.measure?
      return { m with spare := 0 }
  | .marker align => (Shape.marker? align).map Measure.ofLayout
  | .byteArray align size =>
      (Shape.layout? (.array align size)).map Measure.ofLayout
  | .union candidates => do
      let ms ← measures? candidates
      let layouts ← ms.mapM Measure.layout?
      (Shape.layout? (.union layouts)).map Measure.ofLayout

def measures? : List TypeExpr → Option (List Measure)
  | [] => some []
  | t :: rest => do
      let m ← t.measure?
      return m :: (← measures? rest)

end

def layout? (t : TypeExpr) : Option Layout := do
  (← t.measure?).layout?

/-- The storage type that a type expression describes, if it does. -/
def shape? : TypeExpr → Option Shape
  | .byteArray align size => some (.array align size)
  | .union candidates => (candidates.mapM layout?).map .union
  | _ => none

def filler : TypeExpr :=
  .record []

/-- The fields of a type with its values at multiples of an alignment. -/
def alignedTo (align : Nat) (fields : List TypeExpr) : TypeExpr :=
  .record (.marker align :: fields)

def byte : TypeExpr :=
  .scalar 1 0

def word : TypeExpr :=
  .scalar 8 0

/-- A Unicode scalar value.  Code points end at `0x10ffff`, which leaves the
patterns from there to `0xffffffff` to spare. -/
def char : TypeExpr :=
  .scalar 4 0xffef0000

/-- What every object known only by its trait starts with: a pointer to the
dispatch table. -/
def abstractBase : TypeExpr :=
  .record [.pointer false filler]

end TypeExpr

end AlignedStorage
