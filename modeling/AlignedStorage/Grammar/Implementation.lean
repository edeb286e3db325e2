import AlignedStorage.Grammar.Trait

/-!
# Implementations and foreign items

The members of an implementation, and the functions, values and types that an
`extern` block names.  Forms that have no meaning of their own, such as a
function without a body in an implementation, are passed on as they are
written.
-/

namespace AlignedStorage

open Reader

/-! ## Members of an implementation -/

/-- What a member of an implementation can start with: `default` only if it
has not been read, the call of a macro only without marks. -/
def implementedSigns (marked defaulted : Bool) : List Sign :=
  (if defaulted then [] else [.word "default"]) ++ memberSigns (!marked)

/-- Reads a method in an implementation; nothing is returned if it has no
body. -/
def readImplementedMethod (r : Rules) : Reader (Option (List Token)) := do
  let head ← readSignature r
  if starts ";" (← ahead) then
    let _ ← mark ";"
    return none
  else return some (head ++ (← readBody r))

/-- Reads a type in an implementation; nothing is returned if it has bounds or
no value. -/
def readImplementedType (r : Rules) : Reader (Option (List Token)) := do
  let d ← readTypeDefinition r .behindValue
  if d.bounded || d.value.isEmpty then return none
  else return some (d.head ++ d.value ++ d.conditions ++ d.close)

/-- Reads a constant in an implementation; nothing is returned if it has no
value or is generic. -/
def readImplementedConst (r : Rules) : Reader (Option (List Token)) := do
  let c ← readConst r
  return if c.valued && !c.generic then some c.tokens else none

def readImplementedMember (r : Rules) : Reader (List Token) := do
  let start ← ahead
  let attributes ← readAttributes r
  let visibility ← readVisibility
  let front ← ahead
  let defaultMark ←
    if startsWord "default" front && !starts "!" (front.drop 1) then
      word "default"
    else pure []
  let marks := visibility ++ defaultMark
  let tokens ← ahead
  let own ←
    if startsFunction false tokens then readImplementedMethod r
    else if startsWord "const" tokens then readImplementedConst r
    else if startsWord "type" tokens then readImplementedType r
    else if marks.isEmpty && startsAny macroSigns tokens then
      do pure (some (← readMemberCall))
    else expectedSigns (implementedSigns (!marks.isEmpty) (!defaultMark.isEmpty))
  match own with
  | some tokens => return attributes ++ marks ++ tokens
  | none => since start

/-! ## Implementations -/

/-- An implementation that has been read: whether it is passed on as it is
written, and its tokens. -/
structure ImplText where
  asWritten : Bool
  tokens : List Token

/-- Reads what an implementation is for: a type, or a trait and a type.  A
trait that is no path makes the implementation be passed on as it is
written. -/
def readImplemented (r : Rules) : Reader ImplText := do
  let front ← ahead
  let negative ←
    if starts "!" front && !startsGroup .brace (front.drop 1) then mark "!"
    else pure []
  let first ← r.type true
  if startsWord "for" (← ahead) then
    let isPath := first.form = .name || first.form = .path
    let self ← parts [word "for", r.typeTokens]
    return ⟨!isPath, negative ++ first.tokens ++ self⟩
  else if negative.isEmpty then return ⟨false, first.tokens⟩
  else fail .negativeInherent

def readImplementation (r : Rules) : Reader ImplText := do
  let visibility ← readVisibility
  let front ← parts [word? "default", word? "unsafe", word "impl"]
  let params ←
    if startsParams (← ahead) then readParamTokens r else pure []
  let tokens ← ahead
  let isConst := startsWord "const" tokens ||
    starts "?" tokens && startsWord "const" (tokens.drop 1)
  let _ ← if isConst then parts [mark? "?", word "const"] else pure []
  let target ← readImplemented r
  let rest ← parts [readWhere r, group .brace (parts
    [readInnerAttributes r, many (!·.isEmpty) (readImplementedMember r)])]
  return ⟨!visibility.isEmpty || isConst || target.asWritten,
    front ++ params ++ target.tokens ++ rest⟩

/-! ## Foreign items -/

def foreignSigns (macros : Bool) : List Sign :=
  [.word "fn", .word "static", .word "type"] ++
    if macros then macroSigns else []

/-- Reads a foreign function; nothing is returned if it has a body or is
marked as safe. -/
def readForeignFunction (r : Rules) : Reader (Option (List Token)) := do
  let (head, isSafe) ← readHead r true
  if startsGroup .brace (← ahead) then
    let _ ← readBody r
    return none
  else
    let close ← mark ";"
    return if isSafe then none else some (head ++ close)

/-- Reads a foreign value; nothing is returned if it has a value here or is
marked as safe or unsafe. -/
def readForeignStatic (r : Rules) : Reader (Option (List Token)) := do
  let unsafeMark ← word? "unsafe"
  let safeMark ← if unsafeMark.isEmpty then word? "safe" else pure []
  let own ← parts [word "static", word? "mut", name, mark ":", r.typeTokens]
  let value ← when [.mark "="] (parts [mark "=", r.exprTokens])
  let close ← mark ";"
  if (unsafeMark ++ safeMark ++ value).isEmpty then
    return some (own ++ close)
  else return none

/-- Reads a foreign type; nothing is returned if it has bounds or a value. -/
def readForeignType (r : Rules) : Reader (Option (List Token)) := do
  let d ← readTypeDefinition r .either
  if d.bounded || !d.value.isEmpty then return none
  else return some (d.head ++ d.conditions ++ d.close)

def readForeignItem (r : Rules) : Reader (List Token) := do
  let start ← ahead
  let attributes ← readAttributes r
  let visibility ← readVisibility
  let tokens ← ahead
  let isStatic := startsWord "static" tokens ||
    startsAny [.word "unsafe", .word "safe"] tokens &&
      startsWord "static" (tokens.drop 1)
  let own ←
    if startsFunction true tokens then readForeignFunction r
    else if isStatic then readForeignStatic r
    else if startsWord "type" tokens then readForeignType r
    else if visibility.isEmpty && startsAny macroSigns tokens then
      do pure (some (← readMemberCall))
    else expectedSigns (foreignSigns visibility.isEmpty)
  match own with
  | some tokens => return attributes ++ visibility ++ tokens
  | none => since start

end AlignedStorage
