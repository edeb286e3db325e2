import AlignedStorage.Grammar.Expression
import AlignedStorage.Grammar.Item

/-!
# Statements

`readStatements` reads the content of a block: bindings, items, calls of
macros and expressions.  An expression that is no block needs a semicolon
unless it is the last.
-/

namespace AlignedStorage

open Reader

/-- A statement that has been read, and whether only the end of its block can
follow it. -/
structure StatementText where
  tokens : List Token
  needsEnd : Bool

/-! ## Items among statements -/

/-- Whether a constant item starts here, and not a constant block or
closure. -/
def startsConstItem (tokens : List Token) : Bool :=
  let second := tokens.drop 1
  startsWord "const" tokens &&
    !startsAny [.group .brace, .word "static", .word "move", .mark "|"]
      second &&
    !(startsWord "async" second &&
      !startsAny [.word "unsafe", .word "extern", .word "fn"]
        (second.drop 1))

/-- Whether an item other than the call of a macro starts here. -/
def startsItem (tokens : List Token) : Bool :=
  let second := tokens.drop 1
  startsAny [.word "pub", .word "extern", .word "use", .word "fn",
      .word "mod", .word "type", .word "struct", .word "enum",
      .word "trait", .word "impl", .word "macro"] tokens ||
    startsWord "crate" tokens && !starts "::" second ||
    startsWord "static" tokens && startsAny [.word "mut", .name] second ||
    startsConstItem tokens ||
    startsWord "unsafe" tokens && !startsGroup .brace second ||
    startsWord "async" tokens &&
      startsAny [.word "unsafe", .word "extern", .word "fn"] second ||
    startsWord "union" tokens && startsName second ||
    startsWord "auto" tokens && startsWord "trait" second ||
    startsWord "default" tokens &&
      startsAny [.word "unsafe", .word "impl"] second

/-! ## Calls of macros -/

/-- What the call of a macro is among statements. -/
inductive CallKind
  /-- An item, with a name in front of the arguments. -/
  | item
  /-- A statement by itself, with arguments in braces. -/
  | statement
  /-- The head of an expression, or no call. -/
  | other
deriving DecidableEq, Repr

def callKind (tokens : List Token) : CallKind :=
  let second := tokens.drop 1
  let third := second.drop 1
  if !starts "!" tokens then .other
  else if startsAny [.name, .word "try"] second then .item
  else if startsGroup .brace second && !startsPoint third &&
      !starts "?" third then .statement
  else .other

def peekCall : Reader CallKind := do
  let kind ← peeking do
    let _ ← readPlainPath
    return callKind (← ahead)
  return kind.getD .other

/-! ## Statements -/

def endsInBrace (tokens : List Token) : Bool :=
  startsGroup .brace (tokens.drop (tokens.length - 1))

/-- Reads a value that is bound, and a block for when it does not match. -/
def readBoundValue (r : Rules) : Reader (List Token) := do
  let front ← mark "="
  let value ← r.exprTokens
  if !endsInBrace value && startsWord "else" (← ahead) then
    return front ++ value ++ (← parts [word "else", r.block])
  else return front ++ value

def readLocal (r : Rules) : Reader (List Token) :=
  parts [word "let", r.patternTokens,
    when [.mark ":"] (parts [mark ":", r.typeTokens]),
    when [.mark "="] (readBoundValue r), mark ";"]

def readExprStatement (r : Rules) (attributes : List Token) :
    Reader StatementText := do
  let e := (← r.bounded).attributed attributes
  let close ← mark? ";"
  let complete := e.form = .block || e.form = .braceCall
  return ⟨e.tokens ++ close, close.isEmpty && !complete⟩

def readStatement (r : Rules) : Reader StatementText := do
  let start ← ahead
  let attributes ← readAttributes r
  let kind ← peekCall
  let tokens ← ahead
  if kind = .statement then
    let call ← parts [readPlainPath, take 2, mark? ";"]
    return ⟨attributes ++ call, false⟩
  else if startsWord "let" tokens then
    return ⟨attributes ++ (← readLocal r), false⟩
  else if kind = .item || startsItem tokens then
    return ⟨← readItem r start attributes, false⟩
  else readExprStatement r attributes

/-- Reads statements up to the end of a group.  Semicolons without a statement
can stand between them. -/
def readStatements (r : Rules) : Reader (List Token) :=
  repeating [] fun done ↦ do
    if starts ";" (← ahead) then return (done ++ (← mark ";"), true)
    if ← atEnd then return (done, false)
    let s ← readStatement r
    if s.needsEnd && !(← atEnd) then failHere .unfinishedStatement
    else return (done ++ s.tokens, true)

end AlignedStorage
