import AlignedStorage.Grammar.Operator

/-!
# Expressions

`readOperand` reads an operand of the operators: an expression that is
complete by itself, with the operators in front of it and what is applied to
it behind.  Blocks and control structures end a statement or the arm of a
match by themselves; `readBounded` reads an expression where that
matters.
-/

namespace AlignedStorage

open Reader

def startsExpr (tokens : List Token) : Bool :=
  let only (m : String) (longer : List String) : Bool :=
    starts m tokens && !longer.any (starts · tokens)
  startsAnyWord tokens && !startsWord "as" tokens ||
    startsAny [.group .paren, .group .bracket, .group .brace, .literal,
      .mark "..", .mark "::", .lifetime, .mark "#"] tokens ||
    only "!" ["!="] || only "-" ["-=", "->"] || only "*" ["*="] ||
    only "|" ["|="] || only "&" ["&="] || only "<" ["<=", "<<="]

/-- Attributes in front of an expression.  They belong to its leftmost
operand; one that is passed on as it is written takes none.  A range is put
in parentheses. -/
def ExprText.attributed (attributes : List Token) (e : ExprText) : ExprText :=
  if attributes.isEmpty || e.verbatimHead then e
  else if e.form = .range then
    { e with tokens := attributes ++ [.group .paren e.tokens] }
  else { e with tokens := attributes ++ e.tokens }

/-! ## Control structures -/

/-- Whether parameters that a closure is quantified over start here. -/
def startsClosureBinder (tokens : List Token) : Bool :=
  startsWord "for" tokens && starts "<" (tokens.drop 1) &&
    startsAny [.lifetime, .mark ">"] (tokens.drop 2)

/-- The tokens of an expression in front of a block, where no structure can
be built without parentheses. -/
def readCondition (r : Rules) : Reader (List Token) := do
  return (← r.expr false).tokens

def readIf (r : Rules) : Reader (List Token) :=
  repeating [] fun done ↦ do
    let branch ← parts [word "if", readCondition r, r.block]
    if startsWord "else" (← ahead) then
      let other ← word "else"
      let tokens ← ahead
      let front := done ++ branch ++ other
      if startsWord "if" tokens then return (front, true)
      else if startsGroup .brace tokens then
        return (front ++ (← r.block), false)
      else expectedSigns [.word "if", .group .brace]
    else return (done ++ branch, false)

def readFor (r : Rules) : Reader (List Token) :=
  parts [word "for", readAlternativeTokens r, word "in", readCondition r,
    readBody r]

def readWhile (r : Rules) : Reader (List Token) :=
  parts [word "while", readCondition r, readBody r]

def readLoop (r : Rules) : Reader (List Token) :=
  parts [word "loop", readBody r]

def readLabeled (r : Rules) : Reader (List Token) := do
  let label ← parts [lifetime, mark ":"]
  let tokens ← ahead
  if startsWord "while" tokens then return label ++ (← readWhile r)
  else if startsWord "for" tokens then return label ++ (← readFor r)
  else if startsWord "loop" tokens then return label ++ (← readLoop r)
  else if startsGroup .brace tokens then return label ++ (← readBody r)
  else expected "loop or block expression"

/-! ## Closures -/

/-- A pattern with attributes in front.  One that is passed on as it is
written takes none, and a range is put in parentheses. -/
def PatternText.attributed (attributes : List Token) (p : PatternText) :
    List Token :=
  if attributes.isEmpty then p.tokens
  else
    match p.form with
    | .verbatim => p.tokens
    | .range | .openRange => attributes ++ [.group .paren p.tokens]
    | _ => attributes ++ p.tokens

def readClosureParam (r : Rules) : Reader (List Token) := do
  let attributes ← readAttributes r
  let p ← r.pattern
  if starts ":" (← ahead) then
    let colon ← mark ":"
    return attributes ++ p.tokens ++ colon ++ (← r.typeTokens)
  else return p.attributed attributes

def startsClosure (tokens : List Token) : Bool :=
  let second := tokens.drop 1
  startsAny [.mark "|", .word "move", .word "static"] tokens ||
    startsClosureBinder tokens ||
    startsWord "const" tokens && !startsGroup .brace second ||
    startsWord "async" tokens && startsAny [.mark "|", .word "move"] second

/-- Reads a closure.  With a result, its body is a block. -/
def readClosure (r : Rules) (structs : Bool) : Reader (List Token) := do
  let front ← parts [readBinder r, word? "const", word? "static",
    word? "async", word? "move", mark "|"]
  let params ← separated "," (starts "|") (readClosureParam r)
  let close ← mark "|"
  let body ←
    if starts "->" (← ahead) then
      parts [mark "->", r.typeTokens, r.block]
    else do pure (← r.expr structs).tokens
  return front ++ separatedTokens ',' params ++ close ++ body

/-! ## Expressions in groups -/

/-- Reads a field of a structure with its value, or a name that stands for
both. -/
def readFieldValue (r : Rules) : Reader (List Token) := do
  let attributes ← readAttributes r
  let (named, own) ← readFieldName
  if starts ":" (← ahead) || !named then
    return attributes ++ own ++ (← mark ":") ++ (← r.exprTokens)
  else return attributes ++ own

/-- Reads the fields of a structure.  The rest can come from another one. -/
def readFieldValues (r : Rules) : Reader (List Token) :=
  repeating [] fun done ↦ do
    if ← atEnd then return (done, false)
    if starts ".." (← ahead) then
      let dots ← mark ".."
      if ← atEnd then return (done ++ dots, false)
      return (done ++ dots ++ (← r.exprTokens), false)
    let field ← readFieldValue r
    if ← atEnd then return (done ++ field, false)
    return (done ++ field ++ (← mark ","), true)

/-- Reads the content of an array: elements between commas, or an element and
how often it is repeated. -/
def readArray (r : Rules) : Reader (List Token) := do
  if ← atEnd then return []
  let first ← r.exprTokens
  if ← atEnd then return first
  else if starts "," (← ahead) then
    let comma ← mark ","
    return first ++ comma ++ (← commas r.exprTokens)
  else if starts ";" (← ahead) then
    let semicolon ← mark ";"
    return first ++ semicolon ++ (← r.exprTokens)
  else expected "`,` or `;`"

/-- Reads a path as an expression: the call of a macro, a structure with its
fields, or the path itself. -/
def readPathExpr (r : Rules) (structs : Bool) : Reader ExprText := do
  let path ← readQualifiedPath r true
  let tokens ← ahead
  if !path.qualified && startsBang tokens && path.isPlain then
    let bang ← mark "!"
    let (content, inBraces) ← anyGroup
    return { tokens := path.tokens ++ bang ++ content
             form := if inBraces then .braceCall else .other }
  else if structs && startsGroup .brace tokens then
    return { tokens := path.tokens ++ (← group .brace (readFieldValues r)) }
  else return { tokens := path.tokens }

/-! ## Jumps -/

def readValue? (r : Rules) : Reader (List Token) := do
  if startsExpr (← ahead) then r.exprTokens else return []

/-- Reads the end of a loop or a block with its value.  A label in front of
the value would be taken for the label of what ends. -/
def readBreak (r : Rules) (structs : Bool) : Reader (List Token) := do
  let front ← word "break"
  let tokens ← ahead
  if startsLifetime tokens && starts ":" (tokens.drop 1) then
    let _ ← r.exprTokens
    fail .labeledValue
  else
    let label ← lifetime?
    if !structs && startsGroup .brace (← ahead) then return front ++ label
    else return front ++ label ++ (← readValue? r)

def readLet (r : Rules) (structs : Bool) : Reader (List Token) := do
  let front ← parts [word "let", readAlternativeTokens r, mark "="]
  let value ← r.climb structs .comparison (← r.operand structs)
  return front ++ value.tokens

/-- Reads an expression that is passed on as it is written. -/
def readVerbatim (part : Reader (List Token)) : Reader ExprText := do
  return { tokens := ← asWritten part, form := .verbatim
           verbatimHead := true }

/-! ## Blocks and arms -/

def readArms (r : Rules) : Reader (List Token) :=
  many (!·.isEmpty) do
    let front ← parts [readAttributes r, readAlternativeTokens r,
      when [.word "if"] (parts [word "if", r.exprTokens]), mark "=>"]
    let value ← r.bounded
    let comma ←
      if value.form = .block || (← atEnd) then mark? "," else mark ","
    return front ++ value.tokens ++ comma

def readMatch (r : Rules) : Reader (List Token) :=
  parts [word "match", readCondition r,
    group .brace (parts [readInnerAttributes r, readArms r])]

/-- The reader for a block or a control structure, if one starts here. -/
def control? (r : Rules) (tokens : List Token) :
    Option (Reader (List Token)) :=
  let second := tokens.drop 1
  if startsWord "if" tokens then some (readIf r)
  else if startsWord "while" tokens then some (readWhile r)
  else if startsWord "for" tokens && !startsClosureBinder tokens then
    some (readFor r)
  else if startsWord "loop" tokens then some (readLoop r)
  else if startsWord "match" tokens then some (readMatch r)
  else if startsWord "try" tokens && startsGroup .brace second then
    some (parts [word "try", r.block])
  else if startsWord "unsafe" tokens then
    some (parts [word "unsafe", readBody r])
  else if startsWord "const" tokens && startsGroup .brace second then
    some (readConstBlock r)
  else if startsGroup .brace tokens then some (readBody r)
  else if startsLifetime tokens then some (readLabeled r)
  else none

/-! ## Operands -/

def startsAsyncBlock (tokens : List Token) : Bool :=
  startsWord "async" tokens &&
    (startsGroup .brace (tokens.drop 1) ||
      startsWord "move" (tokens.drop 1) &&
        startsGroup .brace (tokens.drop 2))

def startsPathExpr (tokens : List Token) : Bool :=
  startsPath tokens ||
    startsWord "try" tokens &&
      startsAny [.mark "!", .mark "::"] (tokens.drop 1)

def readAtom (r : Rules) (structs : Bool) : Reader ExprText := do
  let tokens ← ahead
  let other (part : Reader (List Token)) : Reader ExprText := do
    return { tokens := ← part }
  match control? r tokens with
  | some part => return { tokens := ← part, form := .block }
  | none =>
  if Sign.literal.heads tokens then other literal
  else if startsAsyncBlock tokens then
    other (parts [word "async", word? "move", r.block])
  else if startsClosure tokens then other (readClosure r structs)
  else if startsWord "builtin" tokens && starts "#" (tokens.drop 1) then
    readVerbatim (parts
      [word "builtin", mark "#", name, group .paren all])
  else if startsPathExpr tokens then readPathExpr r structs
  else if startsGroup .paren tokens then
    other (group .paren (commas r.exprTokens))
  else if startsWord "break" tokens then other (readBreak r structs)
  else if startsWord "continue" tokens then
    other (parts [word "continue", lifetime?])
  else if startsWord "return" tokens then
    other (parts [word "return", readValue? r])
  else if startsWord "become" tokens then
    readVerbatim (parts [word "become", r.exprTokens])
  else if startsGroup .bracket tokens then
    other (group .bracket (readArray r))
  else if startsWord "let" tokens then other (readLet r structs)
  else if startsWord "yield" tokens then
    other (parts [word "yield", readValue? r])
  else if starts ".." tokens then
    return { tokens := ← readRangeEnd r structs, form := .range }
  else if startsWord "_" tokens then other (word "_")
  else expected "an expression"

/-- Reads a field, a method call or an awaited value behind its point. -/
def readSelection (r : Rules) : Reader (List Token) := do
  let point ← mark "."
  let (fields, pending) ←
    if startsFraction (← ahead) then readFraction point
    else pure ([], true)
  if !pending then return fields
  else if startsWord "await" (← ahead) then
    return fields ++ point ++ (← word "await")
  else
    let (named, own) ← readFieldName
    let front := fields ++ point ++ own
    if !named then return front
    let arguments ←
      if starts "::" (← ahead) then do
        let separator ← mark "::"
        let entries ← readAngled (readAngleArg r)
        pure (separator ++ AngleEntry.bracketed entries)
      else pure []
    if !arguments.isEmpty || startsGroup .paren (← ahead) then
      return front ++ arguments ++ (← group .paren (commas r.exprTokens))
    else return front

/-- Reads what is applied to an expression.  To a range nothing can be behind
a point or a question mark. -/
def readTrailers (r : Rules) (e : ExprText) : Reader ExprText :=
  repeating e fun e ↦ do
    let tokens ← ahead
    let applied (part : Reader (List Token)) : Reader (ExprText × Bool) := do
      return ({ tokens := e.tokens ++ (← part) }, true)
    if startsGroup .paren tokens then
      applied (group .paren (commas r.exprTokens))
    else if startsPoint tokens && e.form != .range then
      applied (readSelection r)
    else if startsGroup .bracket tokens then
      applied (group .bracket r.exprTokens)
    else if starts "?" tokens && e.form != .range then applied (mark "?")
    else return (e, false)

/-- Reads the marks of a borrowed operand: of a place, or of its address. -/
def readBorrowMarks : Reader (List Token) := do
  let front ← mark "&"
  let tokens ← ahead
  if startsWord "raw" tokens &&
      startsAny [.word "mut", .word "const"] (tokens.drop 1) then
    return front ++ (← take 2)
  else return front ++ (← word? "mut")

/-- Reads an expression with what is applied to it, behind its attributes,
which start at the given tokens. -/
def readApplied (r : Rules) (structs : Bool)
    (start attributes : List Token) : Reader ExprText := do
  let e ← readTrailers r (← readAtom r structs)
  if e.form = .verbatim then return { e with tokens := ← since start }
  else if e.form = .range && !attributes.isEmpty then fail .attributedRange
  else return { e with tokens := attributes ++ e.tokens }

def readOperand (r : Rules) (structs : Bool) : Reader ExprText := do
  let start ← ahead
  let attributes ← readAttributes r
  let tokens ← ahead
  let signed (marks : Reader (List Token)) : Reader ExprText := do
    let front ← marks
    let operand ← r.operand structs
    return { tokens := attributes ++ front ++ operand.tokens }
  if starts "&" tokens then signed readBorrowMarks
  else if startsAny [.mark "*", .mark "!", .mark "-"] tokens then
    signed (take 1)
  else readApplied r structs start attributes

/-- Reads an expression that a block or a control structure at its head can
end. -/
def readBounded (r : Rules) : Reader ExprText := do
  let attributes ← readAttributes r
  match control? r (← ahead) with
  | none =>
      let e ← r.operand true
      r.climb true .jump (e.attributed attributes)
  | some part =>
      let e : ExprText := { tokens := ← part, form := .block }
      let tokens ← ahead
      if startsPoint tokens || starts "?" tokens then
        let applied ← readTrailers r e
        r.climb true .jump (applied.attributed attributes)
      else return e.attributed attributes

end AlignedStorage
