import AlignedStorage.Grammar.Function
import AlignedStorage.Trait.Basic

/-!
# Trait definitions

`readTrait` reads a trait definition with its members.  A member with a
visibility or a default mark is read like any other, but it is passed on as it
is written; so is a constant with parameters or conditions.
-/

namespace AlignedStorage

open Reader

/-! ## Constants and types among members -/

/-- A constant that has been read: whether it has parameters or conditions,
whether it has a value, and its tokens. -/
structure ConstText where
  generic : Bool
  valued : Bool
  tokens : List Token

def readConst (r : Rules) : Reader ConstText := do
  let front ← word "const"
  let signs := [.name, .word "_"]
  if !startsAny signs (← ahead) then expectedSigns signs
  else
    let own ← anyWord
    let bracketed := starts "<" (← ahead)
    let params ← readParamTokens r
    let valueType ← parts [mark ":", r.typeTokens]
    let value ← when [.mark "="] (parts [mark "=", r.exprTokens])
    let conditional := startsWord "where" (← ahead)
    let conditions ← readWhere r
    let close ← mark ";"
    return {
      generic := bracketed || conditional
      valued := !value.isEmpty
      tokens := front ++ own ++ params ++ valueType ++ value ++ conditions ++
        close }

/-- Where the conditions of a type stand. -/
inductive ConditionPlace
  | beforeValue
  | behindValue
  | either
deriving DecidableEq, Repr

/-- A type that has been read under a name. -/
structure TypeDefinition where
  /-- The word, the name and the parameters. -/
  head : List Token
  /-- Whether there is a colon, though there may be no bounds. -/
  bounded : Bool
  bounds : List Token
  /-- The equals sign and the type, or nothing. -/
  value : List Token
  conditions : List Token
  close : List Token

def readConditions (r : Rules) (allowed : Bool) : Reader (List Token) := do
  if allowed then readWhere r else return []

def readDefinedBounds (r : Rules) : Reader (List Token) := do
  let stop := startsAny [.word "where", .mark "=", .mark ";"]
  return boundsTokens (← separated "+" stop (r.bound .declaration))

def readTypeDefinition (r : Rules) (place : ConditionPlace) :
    Reader TypeDefinition := do
  let head ← parts [word "type", name, readParamTokens r]
  let colon ← mark? ":"
  let bounds ← if colon.isEmpty then pure [] else readDefinedBounds r
  let early := place != .behindValue && startsWord "where" (← ahead)
  let before ← readConditions r early
  let value ← when [.mark "="] (parts [mark "=", r.typeTokens])
  let behind ← readConditions r (place != .beforeValue && !early)
  let close ← mark ";"
  return { head, bounded := !colon.isEmpty, bounds, value
           conditions := before ++ behind, close }

def TypeDefinition.memberTokens (d : TypeDefinition) : List Token :=
  d.head ++ GenericParam.boundTokens d.bounds ++ d.value ++ d.conditions ++
    d.close

/-! ## Members -/

/-- The words besides names that the call of a macro can start with. -/
def macroSigns : List Sign :=
  [.name, .word "self", .word "super", .word "crate", .mark "::"]

/-- What a member can start with if it may be the call of a macro. -/
def memberSigns (macros : Bool) : List Sign :=
  [.word "fn", .word "const", .word "type"] ++
    if macros then macroSigns else []

def constSigns : List Sign :=
  [.name, .word "_", .word "async", .word "unsafe", .word "extern",
    .word "fn"]

/-- Reads the call of a macro as a member.  A semicolon follows unless it is
in braces. -/
def readMemberCall : Reader (List Token) := do
  let front ← parts [readPlainPath, mark "!"]
  let (content, inBraces) ← anyGroup
  if inBraces then return front ++ content
  else return front ++ content ++ (← mark ";")

def readMethod (r : Rules) : Reader (List Token) := do
  let head ← readSignature r
  let tokens ← ahead
  if startsGroup .brace tokens then return head ++ (← readBody r)
  else if starts ";" tokens then return head ++ (← mark ";")
  else expectedSigns [.group .brace, .mark ";"]

/-- Reads a member behind its marks: what it is, and its tokens unless it is
passed on as it is written. -/
def readMarkedMember (r : Rules) (macros : Bool) :
    Reader (MemberKind × Option (List Token)) := do
  let tokens ← ahead
  let method : Reader (MemberKind × Option (List Token)) := do
    return (.method, some (← readMethod r))
  if startsFunction false tokens then method
  else if startsWord "const" tokens then
    let second := tokens.drop 1
    if startsAny [.name, .word "_"] second then
      let c ← readConst r
      return (.constant, if c.generic then none else some c.tokens)
    else if startsAny constSigns second then method
    else do
      let _ ← word "const"
      expectedSigns constSigns
  else if startsWord "type" tokens then
    let d ← readTypeDefinition r .behindValue
    return (.associatedType, some d.memberTokens)
  else if macros && startsAny macroSigns tokens then
    return (.invocation, some (← readMemberCall))
  else expectedSigns (memberSigns macros)

def readMember (r : Rules) : Reader Member := do
  let start ← ahead
  let attributes ← readAttributes r
  let marks ← parts [readVisibility, word? "default"]
  let (kind, tokens?) ← readMarkedMember r marks.isEmpty
  match marks, tokens? with
  | [], some tokens => return ⟨kind, attributes ++ tokens⟩
  | _, _ => return ⟨.unread, ← since start⟩

def readMembers (r : Rules) : Reader (List Member) := do
  let found ← repeating [] fun done ↦ do
    if ← atEnd then return (done, false)
    return ((← readMember r) :: done, true)
  return found.reverse

/-! ## Definitions -/

/-- What stands in front of the bounds of a trait. -/
structure TraitHead where
  attributes : List Token
  visibility : List Token
  isUnsafe : Bool
  isAuto : Bool
  name : String
  generics : Generics

def readSupertraits (r : Rules) : Reader (List Token) := do
  let colon ← mark? ":"
  let stop (tokens : List Token) : Bool :=
    startsAny [.word "where", .group .brace] tokens
  if colon.isEmpty then return []
  else return boundsTokens (← separated "+" stop (r.bound .declaration))

def readTraitRest (r : Rules) (head : TraitHead) : Reader TraitItem := do
  let supertraits ← readSupertraits r
  let predicates ← readPredicates r
  let (innerAttributes, members) ← inside .brace do
    return (← readInnerAttributes r, ← readMembers r)
  return { head with supertraits, predicates, innerAttributes, members }

/-- Reads the head of a trait definition behind its attributes. -/
def readTraitHead (r : Rules) (attributes : List Token) :
    Reader TraitHead := do
  let visibility ← readVisibility
  let unsafeMark ← word? "unsafe"
  let autoMark ← word? "auto"
  let _ ← word "trait"
  let own ← name
  let generics ← readGenerics r
  return { attributes, visibility, isUnsafe := !unsafeMark.isEmpty
           isAuto := !autoMark.isEmpty, name := headSpelling own, generics }

def readTrait (r : Rules) (attributes : List Token) : Reader TraitItem := do
  readTraitRest r (← readTraitHead r attributes)

end AlignedStorage
