import AlignedStorage.Grammar.Attribute

/-!
# Names of fields

A field is named, or it has a number.  A number is printed in decimal,
whatever it was spelled like; behind a point, the fraction `0.1` is two
numbers.
-/

namespace AlignedStorage

open Reader

def maxFieldNumber : Nat := UInt32.size - 1

def fieldNumber (negative : Bool) :
    LiteralKind → Except SyntaxFault (List Token)
  | .integer value suffix =>
      if !suffix.isEmpty then .error (.expected ["unsuffixed integer"])
      else if negative then .error (.fieldNumber .invalidDigit)
      else if value ≤ maxFieldNumber then
        .ok [.leaf (.literal (decimal value))]
      else .error (.fieldNumber .tooLarge)
  | _ => .error (.expected ["integer literal"])

/-- The literal of a number at the head of the tokens: whether it is
negative, and its spelling. -/
def headNumber? : List Token → Option (Bool × String)
  | .leaf (.literal spelling) :: _ =>
      if (spelledKind spelling).isNumber then some (false, spelling) else none
  | .leaf (.punct '-' _) :: .leaf (.literal spelling) :: _ =>
      if (spelledKind spelling).isNumber then some (true, spelling) else none
  | _ => none

/-- Takes the tokens of a number and gives back what has been found for
it. -/
def takeNumber {α : Type} (found : Except SyntaxFault α) : Reader α := do
  let _ ← Reader.take (literalExtent (← ahead))
  match found with
  | .ok a => return a
  | .error fault => fail fault

/-- Reads the number or the name of a field, and tells whether it is a
name. -/
def readFieldName : Reader (Bool × List Token) := do
  let tokens ← ahead
  if startsName tokens then return (true, ← name)
  else
    match headNumber? tokens with
    | some (negative, spelling) =>
        match spelledKind spelling with
        | .integer value suffix =>
            return (false,
              ← takeNumber (fieldNumber negative (.integer value suffix)))
        | _ => expected "identifier or integer"
    | none => expected "identifier or integer"

/-- The parts of a spelling between points. -/
def pointParts : List Char → List (List Char)
  | [] => [[]]
  | '.' :: rest => [] :: pointParts rest
  | c :: rest =>
      match pointParts rest with
      | part :: more => (c :: part) :: more
      | [] => [[c]]

/-- The fields that a fraction behind a point stands for, each with a point
in front, and whether a point is left at its end. -/
def fractionFields (point : List Token) (negative : Bool)
    (spelling : String) : Except SyntaxFault (List Token × Bool) := do
  let found := pointParts spelling.toList
  let trailing := found.getLast? = some []
  let numbered := (if trailing then found.dropLast else found).zipIdx
  let fields ← numbered.mapM fun (part, i) ↦
    fieldNumber (negative && i = 0) (literalKind part)
  return (fields.flatMap (point ++ ·), trailing)

/-- Reads fields that a fraction stands for, with a point in front of
each. -/
def readFraction (point : List Token) : Reader (List Token × Bool) := do
  match headNumber? (← ahead) with
  | some (negative, spelling) =>
      takeNumber (fractionFields point negative spelling)
  | none => return ([], true)

def startsFraction (tokens : List Token) : Bool :=
  match headNumber? tokens with
  | some (_, spelling) => spelledKind spelling = .fraction
  | none => false

end AlignedStorage
