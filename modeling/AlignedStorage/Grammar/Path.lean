import AlignedStorage.Generics
import AlignedStorage.Grammar.Attribute

/-!
# Paths

A path is a list of segments behind double colons.  A segment can have
arguments in angle brackets, or types in parentheses like a function.  In
expressions a double colon stands in front of angle brackets, which could be
comparisons otherwise.
-/

namespace AlignedStorage

open Reader

inductive SegmentArgs
  | none
  | angled (tokens : List Token) (empty : Bool)
  /-- Types in parentheses, with the result behind them. -/
  | called (tokens : List Token)

namespace SegmentArgs

def tokens : SegmentArgs → List Token
  | .none => []
  | .angled tokens _ => tokens
  | .called tokens => tokens

/-- Whether there are no arguments, though there may be brackets. -/
def isEmpty : SegmentArgs → Bool
  | .none => true
  | .angled _ empty => empty
  | .called _ => false

def isNone : SegmentArgs → Bool
  | .none => true
  | _ => false

def isCalled : SegmentArgs → Bool
  | .called _ => true
  | _ => false

end SegmentArgs

structure PathSegment where
  name : List Token
  args : SegmentArgs

structure PathText where
  /-- A type in angle brackets, or nothing, and the double colon in front of
  the segments. -/
  front : List Token
  qualified : Bool
  segments : List PathSegment

namespace PathText

def tokens (p : PathText) : List Token :=
  p.front ++ Token.pathSeparator.intercalate
    (p.segments.map fun s ↦ s.name ++ s.args.tokens)

def isPlain (p : PathText) : Bool :=
  p.segments.all (·.args.isNone)

def isOpen (p : PathText) : Bool :=
  p.segments.getLast?.any (·.args.isEmpty)

/-- A path with arguments in parentheses behind its last segment.  Empty
brackets give way to them. -/
def call (p : PathText) (args : List Token) : PathText :=
  match p.segments.getLast? with
  | none => p
  | some last =>
      { p with segments :=
          p.segments.dropLast ++ [{ last with args := .called args }] }

def form (p : PathText) : TypeForm :=
  if p.qualified then .other
  else
    match p.front, p.segments with
    | [], [s] => if s.args.isCalled then .path else .name
    | _, _ => .path

end PathText

/-- Reads an argument of a constant: a literal, a name or a block. -/
def readConstArgument (r : Rules) : Reader (List Token) := do
  let tokens ← ahead
  if Sign.literal.heads tokens then literal
  else if startsName tokens then name
  else if startsGroup .brace tokens then readBody r
  else failHere (.expected [])

/-- Whether tokens start with an argument for a constant that cannot be a
type. -/
def startsConstArgument (tokens : List Token) : Bool :=
  startsAny [.literal, .group .brace] tokens

def boundsTokens (bounds : List (BoundText × Bool)) : List Token :=
  separatedTokens '+' (bounds.map fun (b, more) ↦ (b.tokens, more))

/-- Reads bounds as long as plus signs follow, up to where the tokens stop
it. -/
def readBounds (r : Rules) (stop : List Token → Bool) :
    Reader (List Token) := do
  return boundsTokens (← joined "+" stop (r.bound .declaration))

/-- Reads what stands behind the name of an associated item among
arguments. -/
def readBinding (r : Rules) : Reader (List Token) := do
  if starts "=" (← ahead) then
    let equals ← mark "="
    if startsConstArgument (← ahead) then
      return equals ++ (← readConstArgument r)
    else return equals ++ (← r.typeTokens)
  else if starts ":" (← ahead) then
    let colon ← mark ":"
    return colon ++
      (← readBounds r fun tokens ↦ starts "," tokens || starts ">" tokens)
  else return []

/-- Reads an argument in angle brackets, and tells whether it is a
lifetime. -/
def readAngleArg (r : Rules) : Reader (Bool × List Token) := do
  let tokens ← ahead
  if startsLifetime tokens && !starts "+" (tokens.drop 1) then
    return (true, ← lifetime)
  else if startsConstArgument tokens then
    return (false, ← readConstArgument r)
  else
    let t ← r.type true
    if t.form = .name then return (false, t.tokens ++ (← readBinding r))
    else return (false, t.tokens)

/-- Reads a list in angle brackets: its elements, each with whether it is a
lifetime. -/
def readAngled (part : Reader (Bool × List Token)) :
    Reader (List AngleEntry) := do
  let _ ← mark "<"
  let parts ← separated "," (starts ">") part
  let _ ← mark ">"
  return parts.map fun ((isLifetime, tokens), comma) ↦
    ⟨isLifetime, tokens, comma⟩

def readAngleArgs (r : Rules) : Reader SegmentArgs := do
  let separator ← mark? "::"
  let entries ← readAngled (readAngleArg r)
  return .angled (separator ++ AngleEntry.bracketed entries) entries.isEmpty

def startsAngleArgs (inExpr : Bool) (tokens : List Token) : Bool :=
  !inExpr && starts "<" tokens && !starts "<=" tokens &&
      !starts "<<=" tokens ||
    starts "::" tokens && starts "<" (tokens.drop 2)

def readSegment (r : Rules) (inExpr : Bool) : Reader PathSegment := do
  let wordOnly := [.word "super", .word "self", .word "crate", .word "try"]
  if startsAny wordOnly (← ahead) then return ⟨← anyWord, .none⟩
  let own ← if startsWord "Self" (← ahead) then anyWord else name
  if startsAngleArgs inExpr (← ahead) then
    return ⟨own, ← readAngleArgs r⟩
  else return ⟨own, .none⟩

def readSegments (r : Rules) (inExpr : Bool)
    (stop : List Token → Bool) (p : PathText) : Reader PathText :=
  repeating p fun p ↦ do
    let tokens ← ahead
    if starts "::" tokens && !stop tokens then
      let _ ← mark "::"
      let s ← readSegment r inExpr
      return ({ p with segments := p.segments ++ [s] }, true)
    else return (p, false)

/-- Whether a double colon stands in front of parentheses. -/
def startsCallMark (tokens : List Token) : Bool :=
  starts "::" tokens && startsGroup .paren (tokens.drop 2)

def readPathRest (r : Rules) (inExpr : Bool) (p : PathText) :
    Reader PathText :=
  readSegments r inExpr startsCallMark p

def readPath (r : Rules) (inExpr : Bool) : Reader PathText := do
  let root ← mark? "::"
  let s ← readSegment r inExpr
  readPathRest r inExpr ⟨root, false, [s]⟩

/-- Reads a path that may start at a type in angle brackets, perhaps seen as
a trait. -/
def readQualifiedPath (r : Rules) (inExpr : Bool) : Reader PathText := do
  if starts "<" (← ahead) then
    let front ← parts [mark "<", r.typeTokens,
      when [.word "as"] (parts [word "as",
        do return (← readPath r false).tokens]),
      mark ">", mark "::"]
    let s ← readSegment r inExpr
    readSegments r inExpr (fun _ ↦ false) ⟨front, true, [s]⟩
  else readPath r inExpr

/-- Reads the result of a function, if there is one, and what it is. -/
def readResult (r : Rules) (plus : Bool) :
    Reader (List Token × Option TypeForm) := do
  if starts "->" (← ahead) then
    let arrow ← mark "->"
    let t ← r.type plus
    return (arrow ++ t.tokens, some t.form)
  else return ([], none)

def startsCall (tokens : List Token) : Bool :=
  startsGroup .paren tokens || startsCallMark tokens

/-- Reads arguments in parentheses with the result behind them, and tells
what the result is. -/
def readCallArgs (r : Rules) : Reader (List Token × Option TypeForm) := do
  let _ ← mark? "::"
  let types ← group .paren (commas r.typeTokens)
  let (result, form) ← readResult r false
  return (types ++ result, form)

/-- Reads a path as a type.  Behind arguments in parentheses the path can go
on if no result was given, or one in parentheses. -/
def readTypePath (r : Rules) : Reader PathText := do
  repeating (← readQualifiedPath r false) fun p ↦ do
    if p.isOpen && startsCall (← ahead) then
      let (args, form) ← readCallArgs r
      if form = none || form = some .enclosed then
        return (← readPathRest r false (p.call args), true)
      else return (p.call args, true)
    else return (p, false)

def readTraitPath (r : Rules) : Reader PathText := do
  let p ← readPath r false
  if p.isOpen && startsCall (← ahead) then
    let (args, _) ← readCallArgs r
    return p.call args
  else return p

end AlignedStorage
