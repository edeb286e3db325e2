import AlignedStorage.TypeExpr.Basic

/-!
# The type table

One row for each of a few built-in types: name, alignment, size, and how the
alignment compares with a few thresholds.  Columns are padded to a width in
characters and never cut.
-/

namespace AlignedStorage

/-- One truth value for each of the thresholds of 2, 4, 8 and 16 bytes. -/
structure Thresholds where
  two : Bool
  four : Bool
  eight : Bool
  sixteen : Bool
deriving DecidableEq, Repr

namespace Thresholds

def atLeast (align : Nat) : Thresholds where
  two := 2 ≤ align
  four := 4 ≤ align
  eight := 8 ≤ align
  sixteen := 16 ≤ align

def atMost (align : Nat) : Thresholds where
  two := align ≤ 2
  four := align ≤ 4
  eight := align ≤ 8
  sixteen := align ≤ 16

def toList (t : Thresholds) : List Bool :=
  [t.two, t.four, t.eight, t.sixteen]

def ofList? : List Bool → Option Thresholds
  | [two, four, eight, sixteen] => some ⟨two, four, eight, sixteen⟩
  | _ => none

def mark (b : Bool) : Char :=
  if b then 'y' else '-'

def marks (t : Thresholds) : List Char :=
  [mark t.two, ' ', mark t.four, ' ', mark t.eight, ' ', mark t.sixteen]

end Thresholds

/-- A row of the type table. -/
structure TypeRow where
  name : String
  align : Nat
  /-- The size, unless it is known only at run time. -/
  size : Option Nat
  atLeast : Thresholds
  atMost : Thresholds
deriving DecidableEq, Repr

def padEnd (width : Nat) (cs : List Char) : List Char :=
  cs ++ List.replicate (width - cs.length) ' '

def padStart (width : Nat) (cs : List Char) : List Char :=
  List.replicate (width - cs.length) ' ' ++ cs

def nameWidth : Nat := 28

def figureWidth : Nat := 6

namespace TypeRow

def ofMeasure (name : String) (m : Measure) : TypeRow where
  name := name
  align := m.align
  size := m.size
  atLeast := Thresholds.atLeast m.align
  atMost := Thresholds.atMost m.align

/-- The size as it is shown; one that is not known is a question mark. -/
def sizeText (r : TypeRow) : List Char :=
  match r.size with
  | some size => decimalDigits size
  | none => ['?']

def line (r : TypeRow) : String :=
  String.ofList <|
    padEnd nameWidth r.name.toList ++ [' '] ++
      padStart figureWidth (decimalDigits r.align) ++ [' '] ++
      padStart figureWidth r.sizeText ++ [' ', ' ', ' '] ++
      r.atLeast.marks ++ [' ', ' ', ' '] ++ r.atMost.marks

end TypeRow

def tableHeader : String :=
  String.ofList <|
    padEnd nameWidth "type".toList ++ [' '] ++
      padStart figureWidth "align".toList ++ [' '] ++
      padStart figureWidth "size".toList ++
      "   >=2,4,8,16   <=2,4,8,16".toList

/-- The types of the table, each under the name it is listed by. -/
def tableTypes : List (String × TypeExpr) :=
  [ ("u8", .scalar 1 0), ("u16", .scalar 2 0), ("u32", .scalar 4 0),
    ("u64", .scalar 8 0), ("u128", .scalar 16 0), ("usize", TypeExpr.word),
    ("f32", .scalar 4 0), ("f64", .scalar 8 0),
    ("char", TypeExpr.char),
    ("*const ()", .pointer false TypeExpr.filler),
    ("dyn Trait", .traitObject),
    ("AlignedCharArray<16, 3>", .byteArray 16 3),
    ("AlignedCharArray<64, 100>", .byteArray 64 100),
    ("AlignedCharArrayUnion<u8, u64>",
      .union [.scalar 1 0, .scalar 8 0]) ]

def tableRows : List TypeRow :=
  tableTypes.filterMap fun (name, t) ↦
    t.measure?.map (TypeRow.ofMeasure name)

def tableLines : List String :=
  tableHeader :: tableRows.map TypeRow.line

end AlignedStorage
