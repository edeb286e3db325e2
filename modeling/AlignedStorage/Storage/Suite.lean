import AlignedStorage.Storage.Check

/-!
# The tests of an array type

Each array type is tested for where its values come to lie, boxed, in a slice
or local, for holding its bytes, and for being the same when it is asked for
again.  Where the values come to lie is up to the allocator; it keeps to the
alignment of the type.
-/

namespace AlignedStorage

/-- Where storage values of a layout have come to lie. -/
structure Placement (l : Layout) where
  boxes : List Address
  /-- The start of a slice. -/
  first : Address
  locals : List Address
  dvd_boxes : ∀ a ∈ boxes, l.align ∣ a.toNat
  dvd_first : l.align ∣ first.toNat
  dvd_locals : ∀ a ∈ locals, l.align ∣ a.toNat

/-- The addresses of the values in the slice, which follow each other at the
distance of their size. -/
def Placement.slots {l : Layout} (p : Placement l) : List Address :=
  slotsFrom p.first.toNat l.size

/-- Why a test fails. -/
inductive TestFailure
  | check (f : Fault)
  /-- There is no layout for the numbers that name the type. -/
  | noLayout (cause : AlignmentError)
  | layoutsDiffer (left right : Layout)
deriving DecidableEq

/-- The labelled form of a layout. -/
def Layout.debugText (l : Layout) : String :=
  "Layout \x7b size: " ++ decimal l.size ++ ", align: " ++ decimal l.align ++
    " (1 << " ++ decimal l.align.log2 ++ ") \x7d"

def TestFailure.message : TestFailure → String
  | .check f => f.message
  | .noLayout cause =>
      "called `Result::unwrap()` on an `Err` value: " ++ cause.debugText
  | .layoutsDiffer left right =>
      "assertion `left == right` failed\n  left: " ++ left.debugText ++
        "\n right: " ++ right.debugText

/-- The outcome of a check as that of a test. -/
def TestFailure.ofCheck : Except Fault Unit → Except TestFailure Unit
  | .ok () => .ok ()
  | .error f => .error (.check f)

/-- Compares a type with the same type named once more, and with the layout
that is asked for at run time. -/
def checkAgain (type again : Layout) (align size : UInt64) :
    Except TestFailure Unit :=
  if type.align ≠ again.align then
    .error (.check (.valuesDiffer type.align again.align))
  else
    match storageLayout align.toNat size.toNat with
    | .error e => .error (.noLayout e)
    | .ok l =>
        if type = l then .ok () else .error (.layoutsDiffer type l)

/-- The tests by name. -/
inductive StorageTest
  | boxed
  | inline
  | fill
  | idempotent
deriving DecidableEq, Repr

/-- Runs a test of the array type that two numbers name, on two of its values
and with a placement for the others. -/
def StorageTest.run (s again : Storage) (p : Placement s.layout)
    (align size : UInt64) : StorageTest → Except TestFailure Unit
  | .boxed =>
      TestFailure.ofCheck (repeatedBoxed s.layout p.boxes align size)
  | .inline => TestFailure.ofCheck (repeatedInline p.slots p.locals align)
  | .fill => TestFailure.ofCheck (fillAndRead s)
  | .idempotent => checkAgain s.layout again.layout align size

end AlignedStorage
