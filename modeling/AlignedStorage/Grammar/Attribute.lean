import AlignedStorage.Grammar.Rules

/-!
# Attributes

An attribute is a path in square brackets behind a hash sign, with a group of
any tokens or with a value.  An inner attribute, marked by an exclamation
mark, belongs to what encloses it.
-/

namespace AlignedStorage

open Reader

/-- The words besides names that a segment of a plain path can be. -/
def pathWords : List Sign :=
  [.word "super", .word "self", .word "Self", .word "crate"]

def startsSegment (tokens : List Token) : Bool :=
  startsName tokens || startsAny pathWords tokens

def readPlainPath : Reader (List Token) := do
  let root ← mark? "::"
  let segments ← joined "::" (!startsSegment ·) anyWord
  match segments.getLast? with
  | none => name
  | some (_, true) => expected "path segment after `::`"
  | some (_, false) =>
      return root ++ segments.flatMap fun (segment, more) ↦
        segment ++ if more then Token.pathSeparator else []

/-- Whether tokens start with a sign of equality that is not part of another
operator. -/
def startsAssignment (tokens : List Token) : Bool :=
  starts "=" tokens && !starts "==" tokens && !starts "=>" tokens

/-- Reads the value of an attribute: a literal up to the end, or an
expression without attributes in front. -/
def readAttributeValue (r : Rules) : Reader (List Token) := do
  let tokens ← ahead
  let n := literalExtent tokens
  if 0 < n ∧ n = tokens.length then all
  else if starts "#" tokens && startsGroup .bracket (tokens.drop 1) then
    failHere .nestedAttribute
  else r.exprTokens

def readMeta (r : Rules) : Reader (List Token) := do
  let path ←
    if startsWord "unsafe" (← ahead) then word "unsafe" else readPlainPath
  match ← ahead with
  | .group .. :: _ => return path ++ (← take 1)
  | tokens =>
      if startsAssignment tokens then
        return path ++ (← mark "=") ++ (← readAttributeValue r)
      else return path

def readAttribute (r : Rules) (inner : Bool) : Reader (List Token) := do
  let hash ← mark "#"
  let bang ← if inner then mark "!" else pure []
  return hash ++ bang ++ (← group .bracket (readMeta r))

def readAttributes (r : Rules) : Reader (List Token) :=
  many (starts "#") (readAttribute r false)

def readInnerAttributes (r : Rules) : Reader (List Token) :=
  many (fun tokens ↦ starts "#" tokens && starts "!" (tokens.drop 1))
    (readAttribute r true)

def readBody (r : Rules) : Reader (List Token) :=
  group .brace (parts [readInnerAttributes r, r.statements])

end AlignedStorage
