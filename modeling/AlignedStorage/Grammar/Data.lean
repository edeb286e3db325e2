import AlignedStorage.Grammar.Function

/-!
# Data types

Structures, unions and enumerations.  Conditions are printed in front of
fields in braces and behind fields in parentheses, wherever they stood.
-/

namespace AlignedStorage

open Reader

/-- Reads the type of a field without a name, whose fields are those of what
it is part of. -/
def readUnnamedField (r : Rules) : Reader (List Token) := do
  let tokens ← ahead
  if startsWord "struct" tokens ||
      startsWord "union" tokens && startsGroup .brace (tokens.drop 1) then
    asWritten (parts [anyWord, r.fields])
  else r.typeTokens

def readNamedField (r : Rules) : Reader (List Token) := do
  let front ← parts [readAttributes r, readVisibility]
  if startsWord "_" (← ahead) then
    let own ← parts [anyWord, mark ":"]
    return front ++ own ++ (← readUnnamedField r)
  else return front ++ (← parts [name, mark ":", r.typeTokens])

def readFields (r : Rules) : Reader (List Token) :=
  group .brace (commas (readNamedField r))

def readTupleFields (r : Rules) : Reader (List Token) :=
  group .paren (commas (parts
    [readAttributes r, readVisibility, r.typeTokens]))

/-- Reads a condition and tells whether there was one, even an empty one. -/
def readWhere? (r : Rules) : Reader (Bool × List Token) := do
  let present := startsWord "where" (← ahead)
  return (present, ← readWhere r)

def readStructBody (r : Rules) : Reader (List Token) := do
  let (present, conditions) ← readWhere? r
  let tokens ← ahead
  if !present && startsGroup .paren tokens then
    let fields ← readTupleFields r
    let (again, behind) ← readWhere? r
    if starts ";" (← ahead) then return fields ++ behind ++ (← mark ";")
    else
      expectedSigns ((if again then [] else [.word "where"]) ++ [.mark ";"])
  else if startsGroup .brace tokens then
    return conditions ++ (← r.fields)
  else if starts ";" tokens then return conditions ++ (← mark ";")
  else if present then expectedSigns [.group .brace, .mark ";"]
  else
    expectedSigns [.word "where", .group .paren, .group .brace, .mark ";"]

def readStruct (r : Rules) : Reader (List Token) :=
  parts [readVisibility, word "struct", name, readParamTokens r,
    readStructBody r]

def readUnion (r : Rules) : Reader (List Token) :=
  parts [readVisibility, word "union", name, readParamTokens r, readWhere r,
    r.fields]

def readVariantFields (r : Rules) : Reader (List Token) := do
  if startsGroup .brace (← ahead) then r.fields
  else when [.group .paren] (readTupleFields r)

/-- Reads a variant of an enumeration.  A visibility in front of it is not
printed. -/
def readVariant (r : Rules) : Reader (List Token) := do
  let attributes ← readAttributes r
  let _ ← readVisibility
  let own ← parts [name, readVariantFields r,
    when [.mark "="] (parts [mark "=", r.exprTokens])]
  return attributes ++ own

def readEnum (r : Rules) : Reader (List Token) :=
  parts [readVisibility, word "enum", name, readParamTokens r, readWhere r,
    group .brace (commas (readVariant r))]

end AlignedStorage
