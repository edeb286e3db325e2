import AlignedStorage.Grammar.Bound

/-!
# Types

`readType` reads a type: a path, a reference or pointer, an array, a tuple, a
function, or the objects of a trait.  Whether a plus sign adds bounds to it
depends on the place.
-/

namespace AlignedStorage

open Reader

def typeSigns : List Sign :=
  [.word "for", .group .paren, .word "fn", .word "unsafe", .word "extern",
    .name, .mark "::", .mark "<", .word "dyn", .group .bracket, .mark "*",
    .mark "&", .mark "!", .word "impl", .word "_", .lifetime]

/-- What a type can go on with behind the parameters that it is quantified
over. -/
def quantifiedSigns : List Sign :=
  [.name, .word "fn", .word "unsafe", .word "extern", .word "super",
    .word "self", .word "Self", .word "crate"]

def startsPath (tokens : List Token) : Bool :=
  startsSegment tokens || startsAny [.mark "::", .mark "<"] tokens

/-- The type of the objects that bounds without a word in front describe. -/
def bareObject (bounds : List (BoundText × Bool)) : TypeText where
  tokens := boundsTokens bounds
  form :=
    match bounds with
    | [(_, false)] => .bareBound
    | _ => .other

/-- Reads the bounds of an object type.  One of them has to be a trait. -/
def readObjectBounds (r : Rules) (plus : Bool) :
    Reader (List (BoundText × Bool)) := do
  let bounds ← readMoreBounds r .object plus (← r.bound .object)
  if bounds.any (·.1.form = .trait) then return bounds
  else fail .noObjectTrait

def readObjectType (r : Rules) (plus : Bool) : Reader TypeText := do
  let front ← word? "dyn"
  let bounds ← readObjectBounds r plus
  if front.isEmpty then return bareObject bounds
  else return ⟨front ++ boundsTokens bounds, .other⟩

/-- Reads the objects that the word `dyn` starts.  With a star they are
passed on as they are written. -/
def readMarkedObject (r : Rules) (plus : Bool) : Reader TypeText := do
  let start ← ahead
  let front ← word "dyn"
  let star ← mark? "*"
  let bounds ← readObjectBounds r plus
  if star.isEmpty then return ⟨front ++ boundsTokens bounds, .other⟩
  else return ⟨← since start, .other⟩

def readUnnamedType (r : Rules) (plus : Bool) : Reader TypeText := do
  let front ← word "impl"
  let bounds ← readMoreBounds r .anonymous plus (← r.bound .anonymous)
  if bounds.any (·.1.form = .trait) then
    return ⟨front ++ boundsTokens bounds, .other⟩
  else fail .noTrait

def readAddedBounds (r : Rules) (first : BoundText) :
    Reader (List (BoundText × Bool)) := do
  let found ← repeating [(first, false)] fun done ↦ do
    if starts "+" (← ahead) then
      let _ ← mark "+"
      return ((← r.bound .object, false) :: closeLast done, true)
    else return (done, false)
  return found.reverse

/-- Reads the rest of a path as a type: the call of a macro, or bounds when
plus signs add to it or parameters stand in front. -/
def readNamedType (r : Rules) (plus : Bool) (binder : List Token) :
    Reader TypeText := do
  let path ← readTypePath r
  if path.qualified then return ⟨path.tokens, .other⟩
  else if startsBang (← ahead) && path.isPlain then
    let bang ← mark "!"
    let (content, _) ← anyGroup
    return ⟨path.tokens ++ bang ++ content, .other⟩
  else if !binder.isEmpty || plus && starts "+" (← ahead) then
    return bareObject (← readMoreBounds r .object plus
      ⟨binder ++ path.tokens, .trait⟩)
  else return ⟨path.tokens, path.form⟩

/-- Whether a parameter of a function type that stands for all further ones
starts here. -/
def startsVariadic (tokens : List Token) : Bool :=
  starts "..." tokens ||
    startsAny [.name, .word "_"] tokens && starts ":" (tokens.drop 1) &&
      starts "..." (tokens.drop 2)

def readParamName (signs : List Sign) : Reader (List Token) := do
  let tokens ← ahead
  if startsAny signs tokens && startsColon (tokens.drop 1) then
    parts [anyWord, mark ":"]
  else return []

def startsChangeableSelf (tokens : List Token) : Bool :=
  startsWord "mut" tokens && startsWord "self" (tokens.drop 1)

/-- Reads a parameter of a function type behind its attributes.  The first
can be a receiver; one that can be changed is passed on as it is written. -/
def readFunctionParam (r : Rules) (first : Bool) : Reader (List Token) := do
  let start ← ahead
  let changeable := first && startsChangeableSelf start
  let _ ← if changeable then word "mut" else pure []
  let isSelf := first && startsWord "self" (← ahead)
  let own ← readParamName
    ([.name, .word "_"] ++ if first then [.word "self"] else [])
  let named := !own.isEmpty
  if first && !(named && isSelf) && startsChangeableSelf (← ahead) then
    let _ ← take 2
    since start
  else if changeable && !named then
    let _ ← word "self"
    since start
  else
    let valueType ← r.typeTokens
    if changeable then since start else return own ++ valueType

/-- Reads the parameters of a function type up to the end of their group or
behind the one that stands for all further ones. -/
def readFunctionParams (r : Rules) : Reader (List Token) := do
  let (found, _) ← repeating ([], true) fun (done, first) ↦ do
    if ← atEnd then return ((done, first), false)
    let attributes ← readAttributes r
    if startsVariadic (← ahead) then
      let last ← parts
        [readParamName [.name, .word "_"], mark "...", mark? ","]
      return ((done ++ attributes ++ last, false), false)
    let own ← readFunctionParam r first
    if ← atEnd then return ((done ++ attributes ++ own, false), false)
    let comma ← mark ","
    return ((done ++ attributes ++ own ++ comma, false), true)
  return found

/-- Reads the calling convention of a function, if it names one. -/
def readConvention : Reader (List Token) :=
  when [.word "extern"] (parts [word "extern", text?])

def readFunctionType (r : Rules) : Reader (List Token) :=
  parts [word? "unsafe", readConvention, word "fn",
    groupUntil .paren (readFunctionParams r)
      do return (← readResult r false).1]

/-- What stands in parentheses where a type is read. -/
inductive Enclosed
  /-- A list of types with at least one comma, or none at all. -/
  | tuple (tokens : List Token)
  | single (t : TypeText)
  /-- A bound that starts with a question mark. -/
  | maybe (tokens : List Token)

def readEnclosed (r : Rules) : Reader Enclosed := do
  let tokens ← ahead
  if tokens.isEmpty then return .tuple []
  else if startsLifetime tokens then
    return .single ⟨(← readObjectType r true).tokens, .other⟩
  else if starts "?" tokens then
    return .maybe (← readTraitBound r .object).2
  else
    let first ← r.type true
    if starts "," (← ahead) then
      let comma ← mark ","
      return .tuple (first.tokens ++ comma ++ (← commas r.typeTokens))
    else return .single first

def withoutParens : List Token → List Token
  | [.group .paren inner] => inner
  | tokens => tokens

/-- Reads a type that starts with parentheses.  With a plus sign behind it, a
trait in parentheses is the first of several bounds. -/
def readParenType (r : Rules) (plus : Bool) : Reader TypeText := do
  let bound (inner : List Token) : BoundText := ⟨[.group .paren inner], .trait⟩
  match ← inside .paren (readEnclosed r) with
  | .tuple inner => return ⟨[.group .paren inner], .other⟩
  | .maybe inner => return bareObject (← readAddedBounds r (bound inner))
  | .single t =>
      if plus && starts "+" (← ahead) then
        match t.form with
        | .name | .path =>
            return bareObject (← readAddedBounds r (bound t.tokens))
        | .bareBound =>
            return bareObject
              (← readAddedBounds r (bound (withoutParens t.tokens)))
        | _ => return ⟨[.group .paren t.tokens], .enclosed⟩
      else return ⟨[.group .paren t.tokens], .enclosed⟩

def readArrayType (r : Rules) : Reader (List Token) :=
  parts [r.typeTokens, when [.mark ";"] (parts [mark ";", r.exprTokens])]

/-- Reads the target of a pointer type with the word in front that tells
whether it can be changed. -/
def readPointerTarget (r : Rules) : Reader (List Token) := do
  let signs := [.word "const", .word "mut"]
  if startsAny signs (← ahead) then
    return (← take 1) ++ (← r.type false).tokens
  else expectedSigns signs

def readType (r : Rules) (plus : Bool) : Reader TypeText := do
  let binder ← readBinder r
  let tokens ← ahead
  let other (part : Reader (List Token)) : Reader TypeText := do
    return ⟨binder ++ (← part), .other⟩
  if !binder.isEmpty && !startsAny quantifiedSigns tokens then
    expectedSigns quantifiedSigns
  else if startsGroup .paren tokens then readParenType r plus
  else if startsAny [.word "fn", .word "unsafe", .word "extern"] tokens then
    other (readFunctionType r)
  else if startsPath tokens then readNamedType r plus binder
  else if startsWord "dyn" tokens then readMarkedObject r plus
  else if startsGroup .bracket tokens then
    other (group .bracket (readArrayType r))
  else if starts "*" tokens then
    other (parts [mark "*", readPointerTarget r])
  else if starts "&" tokens then
    other (parts [mark "&", lifetime?, word? "mut",
      do return (← r.type false).tokens])
  else if starts "!" tokens then other (mark "!")
  else if startsWord "impl" tokens then readUnnamedType r plus
  else if startsWord "_" tokens then other (word "_")
  else if startsLifetime tokens then readObjectType r true
  else expectedSigns typeSigns

end AlignedStorage
