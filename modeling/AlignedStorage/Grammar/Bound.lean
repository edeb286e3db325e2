import AlignedStorage.Grammar.Path

/-!
# Parameters and bounds

A bound is a lifetime, a trait, or for an unnamed type the parameters that it
depends on.  Parameters, whether of an item or of a single bound, are read
here as well, because each kind contains the other.
-/

namespace AlignedStorage

open Reader

/-- Whether tokens start with a sign that ends bounds in front of a value or
the body of an item. -/
def endsBounds (tokens : List Token) : Bool :=
  tokens.isEmpty || startsColon tokens ||
    startsAny [.group .brace, .mark ",", .mark ";", .mark "="] tokens

/-- The spelling of the first token, if it is a word or a lifetime. -/
def headSpelling : List Token → String
  | .leaf l :: _ => l.text
  | _ => ""

def readLifetimeParam (attributes : List Token) : Reader GenericParam := do
  let own ← lifetime
  let colon ← mark? ":"
  let stop (tokens : List Token) : Bool :=
    tokens.isEmpty || colon.isEmpty || starts "," tokens || starts ">" tokens
  let bounds ← joined "+" stop lifetime
  return .lifetime attributes (headSpelling own) (separatedTokens '+' bounds)

def readTypeParam (r : Rules) (attributes : List Token) :
    Reader GenericParam := do
  let own ← name
  let colon ← mark? ":"
  let stop (tokens : List Token) : Bool :=
    tokens.isEmpty || colon.isEmpty ||
      startsAny [.mark ",", .mark ">", .mark "="] tokens
  let bounds ← readBounds r stop
  let fallback ←
    if starts "=" (← ahead) then do
      let _ ← mark "="
      pure (some (← r.typeTokens))
    else pure none
  return .type attributes (headSpelling own) bounds fallback

def readConstParam (r : Rules) (attributes : List Token) :
    Reader GenericParam := do
  let _ ← word "const"
  let own ← name
  let _ ← mark ":"
  let valueType ← r.typeTokens
  let fallback ←
    if starts "=" (← ahead) then do
      let _ ← mark "="
      pure (some (← readConstArgument r))
    else pure none
  return .const attributes (headSpelling own) valueType fallback

/-- Reads a parameter behind its attributes.  An error names the choices that
are given for it. -/
def readParam (r : Rules) (choices : List Sign) (attributes : List Token) :
    Reader GenericParam := do
  let tokens ← ahead
  if startsLifetime tokens then readLifetimeParam attributes
  else if startsName tokens then readTypeParam r attributes
  else if startsWord "const" tokens then readConstParam r attributes
  else expectedSigns choices

/-- Reads a parameter of an item.  An underscore can stand for a type. -/
def readItemParam (r : Rules) : Reader GenericParam := do
  let attributes ← readAttributes r
  if startsWord "_" (← ahead) then
    let _ ← anyWord
    return .type attributes "_" [] none
  else readParam r [.lifetime, .name, .word "const"] attributes

def readGenerics (r : Rules) : Reader Generics := do
  if starts "<" (← ahead) then
    let _ ← mark "<"
    let params ← separated "," (starts ">") (readItemParam r)
    let _ ← mark ">"
    return ⟨params⟩
  else return ⟨[]⟩

/-- Reads the parameters that a bound or a function type is quantified over,
if there are any.  They keep their order. -/
def readBinder (r : Rules) : Reader (List Token) := do
  if startsWord "for" (← ahead) then
    let front ← parts [word "for", mark "<"]
    let params ← separated "," (starts ">") do
      readParam r [.name, .lifetime, .word "const"] (← readAttributes r)
    let close ← mark ">"
    return front ++
      separatedTokens ',' (params.map fun (p, comma) ↦ (p.tokens, comma)) ++
      close
  else return []

/-- Reads a parameter that an unnamed type depends on.  It has to be followed
by a comma or by the end of the list. -/
def readCaptured : Reader (Bool × List Token) := do
  let tokens ← ahead
  if startsAny [.lifetime, .name, .word "Self"] tokens then
    let own ← take 1
    if startsAny [.mark ",", .mark ">"] (← ahead) then
      return (startsLifetime tokens, own)
    else expectedSigns [.mark ",", .mark ">"]
  else expectedSigns [.lifetime, .name, .mark ">"]

def readCapture : Reader (List Token) := do
  let use ← word "use"
  return use ++ AngleEntry.bracketed (← readAngled readCaptured)

/-- How a trait in a bound has to hold in constant evaluation. -/
inductive ConstMark
  | absent
  /-- Always. -/
  | plain
  /-- Whenever the bounds of the item do. -/
  | conditional
deriving DecidableEq, Repr

def readConstMark (place : BoundPlace) : Reader (ConstMark × List Token) := do
  let tokens ← ahead
  if startsGroup .bracket tokens then
    let found ← group .bracket (word "const")
    if place = .object then fail (.constBound true)
    else return (.conditional, found)
  else if startsWord "const" tokens then
    let found ← word "const"
    if place = .object then fail (.constBound false)
    else return (.plain, found)
  else return (.absent, [])

/-- Reads a trait as a bound, and its mark for constant evaluation. -/
def readTraitBound (r : Rules) (place : BoundPlace) :
    Reader (ConstMark × List Token) := do
  let outer ← readBinder r
  let (constMark, constTokens) ← readConstMark place
  let maybe ← mark? "?"
  let inner ←
    if outer.isEmpty && !maybe.isEmpty then readBinder r else pure []
  let path ← readTraitPath r
  if !maybe.isEmpty && !(outer ++ inner).isEmpty then fail .boundBinder
  else return (constMark, outer ++ constTokens ++ maybe ++ path.tokens)

/-- Reads a bound.  One with a mark for constant evaluation is passed on as
it is written. -/
def readBound (r : Rules) (place : BoundPlace) : Reader BoundText := do
  let start ← ahead
  if startsLifetime start then return ⟨← lifetime, .lifetime⟩
  else if startsWord "use" start then
    let tokens ← readCapture
    if place = .anonymous then return ⟨tokens, .capture⟩
    else fail .capture
  else
    let (constMark, tokens) ←
      if startsGroup .paren start then
        let (constMark, inner) ← inside .paren (readTraitBound r place)
        pure (constMark, [Token.group .paren inner])
      else readTraitBound r place
    if constMark = .absent then return ⟨tokens, .trait⟩
    else return ⟨← since start, .trait⟩

def startsBound (place : BoundPlace) (tokens : List Token) : Bool :=
  startsAnyWord tokens ||
    startsAny [.mark "::", .mark "?", .lifetime, .group .paren] tokens ||
    place ≠ .object && startsGroup .bracket tokens

/-- The parts of a list in reverse with a separator behind the last of
them. -/
def closeLast {α : Type} : List (α × Bool) → List (α × Bool)
  | (last, _) :: before => (last, true) :: before
  | [] => []

/-- Reads the bounds behind a first one.  A plus sign adds to them only where
it may, and one can end them. -/
def readMoreBounds (r : Rules) (place : BoundPlace) (plus : Bool)
    (first : BoundText) : Reader (List (BoundText × Bool)) := do
  let found ← repeating [(first, false)] fun done ↦ do
    if plus && starts "+" (← ahead) then
      let _ ← mark "+"
      if startsBound place (← ahead) then
        return ((← r.bound place, false) :: closeLast done, true)
      else return (closeLast done, false)
    else return (done, false)
  return found.reverse

/-- Reads a condition: a type or a lifetime with its bounds. -/
def readPredicate (r : Rules) : Reader (List Token) := do
  let tokens ← ahead
  if startsLifetime tokens && starts ":" (tokens.drop 1) then
    let front ← parts [lifetime, mark ":"]
    let stop (tokens : List Token) : Bool :=
      tokens.isEmpty ||
        startsAny [.group .brace, .mark ",", .mark ";", .mark ":", .mark "="]
          tokens
    return front ++ separatedTokens '+' (← joined "+" stop lifetime)
  else
    let front ← parts [readBinder r, r.typeTokens, mark ":"]
    return front ++ (← readBounds r endsBounds)

/-- Whether angle brackets hold parameters rather than a type. -/
def startsParams (tokens : List Token) : Bool :=
  let second := tokens.drop 1
  let third := tokens.drop 2
  starts "<" tokens &&
    (startsAny [.mark ">", .mark "#"] second ||
      startsAny [.lifetime, .name] second &&
        (startsAny [.mark ">", .mark ",", .mark "="] third ||
          startsColon third) ||
      startsWord "const" second)

/-- Reads the conditions behind `where`, if there are any.  Nothing is left
of an empty list of them. -/
def readPredicates (r : Rules) : Reader (List Token) := do
  if startsWord "where" (← ahead) then
    let _ ← word "where"
    if startsParams (← ahead) then failHere .whereParameters
    else
      return separatedTokens ','
        (← joined "," endsBounds (readPredicate r))
  else return []

/-- Conditions with their `where`, or nothing when there are none. -/
def conditionTokens (predicates : List Token) : List Token :=
  if predicates.isEmpty then [] else Token.word "where" :: predicates

def readWhere (r : Rules) : Reader (List Token) := do
  return conditionTokens (← readPredicates r)

end AlignedStorage
