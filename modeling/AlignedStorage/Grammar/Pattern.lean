import AlignedStorage.Grammar.Field
import AlignedStorage.Grammar.Type

/-!
# Patterns

`readPattern` reads a pattern without alternatives at its top: a name, a
path with fields, a literal, a range, or patterns in a group.  Alternatives
stand between bars where a place allows them.  The older mark `...` of a
closed range is printed as `..=`.
-/

namespace AlignedStorage

open Reader

def startsBar (tokens : List Token) : Bool :=
  starts "|" tokens && !starts "||" tokens && !starts "|=" tokens

/-- Reads a pattern with its alternatives.  A bar may stand in front of the
first. -/
def readAlternatives (r : Rules) : Reader PatternText := do
  let bar ← mark? "|"
  let first ← r.pattern
  let more ← many startsBar
    (parts [mark "|", r.patternTokens])
  if bar.isEmpty && more.isEmpty then return first
  else return ⟨bar ++ first.tokens ++ more, .other⟩

def readAlternativeTokens (r : Rules) : Reader (List Token) := do
  return (← readAlternatives r).tokens

def rangeBoundSigns : List Sign :=
  [.literal, .name, .mark "::", .mark "<", .word "self", .word "Self",
    .word "super", .word "crate", .word "const"]

def readConstBlock (r : Rules) : Reader (List Token) :=
  parts [word "const", readBody r]

/-- Whether a range has no upper bound in front of the tokens. -/
def endsRange (tokens : List Token) : Bool :=
  tokens.isEmpty || startsColon tokens ||
    startsAny [.mark "|", .mark "=", .mark ",", .mark ";", .word "if"] tokens

def readRangeBound (r : Rules) : Reader (List Token) := do
  let tokens ← ahead
  if endsRange tokens then return []
  else if Sign.literal.heads tokens then literal
  else if startsPath tokens then
    return (← readQualifiedPath r true).tokens
  else if startsWord "const" tokens then readConstBlock r
  else expectedSigns rangeBoundSigns

def closedMark : List Token :=
  [Token.punct '.', Token.punct '.', Token.punct '=']

/-- Reads the mark of a range, and tells whether its upper bound belongs to
it.  The older mark of a closed range is taken where it may. -/
def readRangeMark (older : Bool) : Reader (List Token × Bool) := do
  let tokens ← ahead
  if starts "..=" tokens then return (← mark "..=", true)
  else if starts "..." tokens then
    if older then
      let _ ← mark "..."
      return (closedMark, true)
    else expectedSigns [.mark "..", .mark "..="]
  else return (← mark "..", false)

def readRange (r : Rules) (lower : List Token) : Reader PatternText := do
  let (dots, closed) ← readRangeMark true
  let upper ← readRangeBound r
  if upper.isEmpty && closed then expected "range upper bound"
  else
    return ⟨lower ++ dots ++ upper,
      if upper.isEmpty then .openRange else .range⟩

/-- Reads a range without a lower bound, or the mark for the fields that are
not named. -/
def readHalfRange (r : Rules) : Reader PatternText := do
  let (dots, closed) ← readRangeMark false
  let upper ← readRangeBound r
  if !upper.isEmpty then return ⟨dots ++ upper, .openRange⟩
  else if closed then expected "range upper bound"
  else return ⟨dots, .rest⟩

/-- Reads a literal, a path or a constant, or a range from it on. -/
def readConstant (r : Rules) : Reader PatternText := do
  let lower ← readRangeBound r
  if starts ".." (← ahead) then readRange r lower
  else return ⟨lower, .other⟩

def readFieldPattern (r : Rules) : Reader (List Token) := do
  let start ← ahead
  let box ← word? "box"
  let marks ← parts [word? "ref", word? "mut"]
  let isMarked := !(box ++ marks).isEmpty
  let (named, own) ←
    if isMarked then do pure (true, ← name) else readFieldName
  if !isMarked && starts ":" (← ahead) || !named then
    return own ++ (← mark ":") ++ (← readAlternativeTokens r)
  else if !box.isEmpty then since start
  else return marks ++ own

/-- Reads the patterns of fields in braces, up to the end or to the mark for
all further ones. -/
def readFieldPatterns (r : Rules) : Reader (List Token) :=
  repeating [] fun done ↦ do
    if ← atEnd then return (done, false)
    let attributes ← readAttributes r
    if starts ".." (← ahead) then
      return (done ++ attributes ++ (← mark ".."), false)
    let field ← readFieldPattern r
    if ← atEnd then return (done ++ attributes ++ field, false)
    return (done ++ attributes ++ field ++ (← mark ","), true)

def readPathPattern (r : Rules) : Reader PatternText := do
  let path ← readQualifiedPath r true
  let tokens ← ahead
  if !path.qualified && startsBang tokens && path.isPlain then
    let bang ← mark "!"
    let (content, _) ← anyGroup
    return ⟨path.tokens ++ bang ++ content, .other⟩
  else if startsGroup .brace tokens then
    return ⟨path.tokens ++ (← group .brace (readFieldPatterns r)), .other⟩
  else if startsGroup .paren tokens then
    let fields ← group .paren (commas (readAlternativeTokens r))
    return ⟨path.tokens ++ fields, .other⟩
  else if starts ".." tokens then readRange r path.tokens
  else return ⟨path.tokens, .other⟩

/-- Reads a name that is bound to a value, and perhaps a pattern that the
value has to match. -/
def readBindingPattern (r : Rules) : Reader PatternText := do
  let marks ← parts [word? "ref", word? "mut"]
  let own ← if startsWord "self" (← ahead) then anyWord else name
  let inner ← when [.mark "@"] (parts [mark "@", r.patternTokens])
  return ⟨marks ++ own ++ inner, .other⟩

/-- Reads a pattern between brackets.  A range with one bound needs
parentheses there. -/
def readElementPattern (r : Rules) : Reader (List Token) := do
  let p ← readAlternatives r
  if p.form = .openRange then fail .openRangeInSlice
  else return p.tokens

def startsNamedPattern (tokens : List Token) : Bool :=
  startsName tokens &&
    startsAny [.mark "::", .mark "!", .group .brace, .group .paren,
      .mark ".."] (tokens.drop 1)

def patternSigns : List Sign :=
  [.name, .mark "::", .mark "<", .word "_", .literal, .word "const",
    .word "ref", .word "mut", .mark "&", .group .paren, .group .bracket,
    .mark "..", .word "const"]

def readPattern (r : Rules) : Reader PatternText := do
  let tokens ← ahead
  let other (part : Reader (List Token)) : Reader PatternText := do
    return ⟨← part, .other⟩
  if startsNamedPattern tokens ||
      startsWord "self" tokens && starts "::" (tokens.drop 1) ||
      startsAny [.mark "::", .mark "<", .word "Self", .word "super",
        .word "crate"] tokens then
    readPathPattern r
  else if startsWord "_" tokens then other (word "_")
  else if startsWord "box" tokens then
    return ⟨← asWritten (parts [word "box", r.patternTokens]), .verbatim⟩
  else if starts "-" tokens ||
      startsAny [.literal, .word "const"] tokens then
    readConstant r
  else if startsAny [.word "ref", .word "mut", .word "self", .name]
      tokens then
    readBindingPattern r
  else if starts "&" tokens then
    other (parts [mark "&", word? "mut", r.patternTokens])
  else if startsGroup .paren tokens then
    other (group .paren (commas (readAlternativeTokens r)))
  else if startsGroup .bracket tokens then
    other (group .bracket (commas (readElementPattern r)))
  else if starts ".." tokens && !starts "..." tokens then
    readHalfRange r
  else expectedSigns patternSigns

end AlignedStorage
