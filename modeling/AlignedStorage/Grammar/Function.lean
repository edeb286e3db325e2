import AlignedStorage.Grammar.Pattern

/-!
# Signatures

The head of a function: its marks, name and parameters, its result and the
conditions on it.  The first parameter can be a receiver.
-/

namespace AlignedStorage

open Reader

def readVisibility : Reader (List Token) := do
  let front ← word? "pub"
  if front.isEmpty then return []
  match ← ahead with
  | .group .paren inner :: _ =>
      if startsAny [.word "crate", .word "self", .word "super"] inner then
        if inner.length = 1 then return front ++ (← take 1)
        else return front
      else if startsWord "in" inner then
        return front ++ (← group .paren (parts [word "in", readPlainPath]))
      else return front
  | _ => return front

/-- Reads the parameters of an item to the tokens they are printed with. -/
def readParamTokens (r : Rules) : Reader (List Token) := do
  return (← readGenerics r).tokensWith GenericParam.tokens

/-- Reads the head of a receiver: the value itself or a reference to it, and
which of them it is.  A path that starts at the same word is none. -/
def readReceiverHead : Reader (List Token × Bool) := do
  let reference ← when [.mark "&"] (parts [mark "&", lifetime?])
  let own ← parts [word? "mut", word "self"]
  if starts "::" (← ahead) then expectedSigns [.mark ":"]
  else return (reference ++ own, !reference.isEmpty)

/-- Reads a receiver behind its head.  The value itself can be given a
type. -/
def readReceiverRest (r : Rules) (head : List Token) (isReference : Bool) :
    Reader (List Token) := do
  if !isReference && starts ":" (← ahead) then
    return head ++ (← mark ":") ++ (← r.typeTokens)
  else return head

/-- A parameter of a function. -/
inductive Param
  | receiver (tokens : List Token)
  | typed (tokens : List Token)
  /-- A parameter that stands for all further ones. -/
  | variadic (tokens : List Token)

/-- Reads a parameter behind its attributes.  A name with arguments is the
type of a parameter without a name. -/
def readParameter (r : Rules) : Reader Param := do
  let tokens ← ahead
  if starts "..." tokens then return .variadic (← mark "...")
  match ← attempt readReceiverHead with
  | some (head, isReference) =>
      return .receiver (← readReceiverRest r head isReference)
  | none =>
      if startsName tokens && starts "<" (tokens.drop 1) then
        let unnamed := [Token.word "_", Token.punct ':']
        return .typed (unnamed ++ (← r.typeTokens))
      else
        let front ← parts [r.patternTokens, mark ":"]
        if starts "..." (← ahead) then
          return .variadic (front ++ (← mark "..."))
        else return .typed (front ++ (← r.typeTokens))

/-- What has been read of the parameters of a function. -/
structure ParamsRead where
  tokens : List Token := []
  started : Bool := false
  hasReceiver : Bool := false

/-- Reads one parameter after others, and tells whether more can follow. -/
def readNextParameter (r : Rules) (done : ParamsRead) :
    Reader (ParamsRead × Bool) := do
  if ← atEnd then return (done, false)
  let attributes ← readAttributes r
  let added (own : List Token) (hasReceiver : Bool) :
      Reader (ParamsRead × Bool) := do
    let front := done.tokens ++ attributes ++ own
    if ← atEnd then return (⟨front, true, hasReceiver⟩, false)
    else return (⟨front ++ (← mark ","), true, hasReceiver⟩, true)
  match ← readParameter r with
  | .variadic own =>
      let (last, _) ← added own done.hasReceiver
      return (last, false)
  | .receiver own =>
      if done.hasReceiver then fail .secondReceiver
      else if done.started then fail .lateReceiver
      else added own true
  | .typed own => added own done.hasReceiver

def readParameters (r : Rules) : Reader (List Token) := do
  return (← repeating {} (readNextParameter r)).tokens

def startsFunction (safe : Bool) (tokens : List Token) : Bool :=
  let past (w : String) (tokens : List Token) : List Token :=
    if startsWord w tokens then tokens.drop 1 else tokens
  let marked := past "async" (past "const" tokens)
  let guarded :=
    if safe && startsWord "safe" marked then marked.drop 1
    else past "unsafe" marked
  let named :=
    if startsWord "extern" guarded then
      let rest := guarded.drop 1
      if Sign.text.heads rest then rest.drop 1 else rest
    else guarded
  startsWord "fn" named

/-- Reads the head of a function.  Where it may, the word `safe` stands in
the place of `unsafe`; whether it does is told. -/
def readHead (r : Rules) (safe : Bool) : Reader (List Token × Bool) := do
  let marks ← parts [word? "const", word? "async", word? "unsafe"]
  let isSafe := safe && !marks.any (·.isWord "unsafe") &&
    startsWord "safe" (← ahead)
  let safeMark ← if isSafe then word "safe" else pure []
  let rest ← parts [readConvention, word "fn", name, readParamTokens r,
    groupUntil .paren (readParameters r)
      (parts [do return (← readResult r true).1, readWhere r])]
  return (marks ++ safeMark ++ rest, isSafe)

def readSignature (r : Rules) : Reader (List Token) := do
  return (← readHead r false).1

end AlignedStorage
