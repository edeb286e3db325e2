import AlignedStorage.Grammar.Pattern

/-!
# Operators

Infix operators by how strongly they bind.  `readClimb` reads what follows a
left operand as long as it binds strongly enough.  Comparisons cannot be
chained, and a range is no operand of a further operator.
-/

namespace AlignedStorage

open Reader

/-- The infix operators, longer ones in front of those they start with. -/
def infixOperators : List (String × Precedence) :=
  [ ("+=", .assignment), ("-=", .assignment), ("*=", .assignment),
    ("/=", .assignment), ("%=", .assignment), ("^=", .assignment),
    ("&=", .assignment), ("|=", .assignment), ("<<=", .assignment),
    (">>=", .assignment), ("&&", .conjunction), ("||", .disjunction),
    ("<<", .shift), (">>", .shift), ("==", .comparison),
    ("<=", .comparison), ("!=", .comparison), (">=", .comparison),
    ("+", .sum), ("-", .sum), ("*", .product), ("/", .product),
    ("%", .product), ("^", .bitXor), ("&", .bitAnd), ("|", .bitOr),
    ("<", .comparison), (">", .comparison) ]

def infixOperator? (tokens : List Token) : Option (String × Precedence) :=
  infixOperators.find? fun (m, _) ↦ starts m tokens

def startsEquals (tokens : List Token) : Bool :=
  starts "=" tokens && !starts "=>" tokens

/-- How strongly what the tokens start with binds what is in front of
them. -/
def nextPrecedence (tokens : List Token) : Precedence :=
  match infixOperator? tokens with
  | some (_, p) => p
  | none =>
      if startsEquals tokens then .assignment
      else if starts ".." tokens then .range
      else if startsWord "as" tokens then .cast
      else .jump

/-- Reads the right operand of an operator of a given precedence. -/
def readRight (r : Rules) (structs : Bool) (p : Precedence) :
    Reader ExprText := do
  repeating (← r.operand structs) fun right ↦ do
    let tokens ← ahead
    let next := nextPrecedence tokens
    if p.rank < next.rank || next = p && p = .assignment then
      let more ← r.climb structs next right
      return (more, (← ahead).length < tokens.length)
    else return (right, false)

def endsHalfRange (structs : Bool) (tokens : List Token) : Bool :=
  tokens.isEmpty || startsPoint tokens ||
    startsAny [.mark ",", .mark ";", .mark "?", .mark "=", .mark "+",
      .mark "/", .mark "%", .mark "^", .mark ">", .mark "<=", .mark "!=",
      .mark "-=", .mark "*=", .mark "&=", .mark "|=", .mark "<<=",
      .word "as"] tokens ||
    !structs && startsGroup .brace tokens

def readRangeEnd (r : Rules) (structs : Bool) : Reader (List Token) := do
  let (dots, closed) ← readRangeMark false
  if !closed && endsHalfRange structs (← ahead) then return dots
  else return dots ++ (← readRight r structs .range).tokens

def castFollower? (tokens : List Token) : Option String :=
  let second := tokens.drop 1
  if startsPoint tokens then
    if startsWord "await" second then some "`.await`"
    else if startsName second &&
        startsAny [.group .paren, .mark "::"] (second.drop 1) then
      some "a method call"
    else some "a field access"
  else if starts "?" tokens then some "`?`"
  else if startsGroup .bracket tokens then some "indexing"
  else if startsGroup .paren tokens then some "a function call"
  else none

def readCast (r : Rules) : Reader (List Token) := do
  let front ← word "as"
  let target ← r.type false
  match castFollower? (← ahead) with
  | some what => failHere (.castFollower what)
  | none => return front ++ target.tokens

/-- An expression with an operator and its right operand behind it. -/
def ExprText.extend (e : ExprText) (more : List Token) (form : ExprForm) :
    ExprText where
  tokens := e.tokens ++ more
  form := form
  verbatimHead := e.verbatimHead && form != .range

/-- Reads one operator behind a left operand if it binds at least as strongly
as a given precedence, and tells whether it did. -/
def readStep (r : Rules) (structs : Bool) (base : Precedence)
    (left : ExprText) : Reader (ExprText × Bool) := do
  let tokens ← ahead
  if left.form = .range then return (left, false)
  match infixOperator? tokens with
  | some (m, p) =>
      if p.rank < base.rank then return (left, false)
      else if p = .comparison && left.form = .comparison then
        failHere .comparisonChain
      else
        let sign ← mark m
        let right ← readRight r structs p
        let form := if p = .comparison then .comparison else .other
        return (left.extend (sign ++ right.tokens) form, true)
  | none =>
      let binds (p : Precedence) : Bool := base.rank ≤ p.rank
      if binds .assignment && startsEquals tokens then
        let sign ← mark "="
        let right ← readRight r structs .assignment
        return (left.extend (sign ++ right.tokens) .other, true)
      else if binds .range && starts ".." tokens then
        return (left.extend (← readRangeEnd r structs) .range, true)
      else if binds .cast && startsWord "as" tokens then
        return (left.extend (← readCast r) .other, true)
      else return (left, false)

/-- Reads the operators behind a left operand that bind at least as strongly
as a given precedence. -/
def readClimb (r : Rules) (structs : Bool) (base : Precedence)
    (left : ExprText) : Reader ExprText :=
  repeating left (readStep r structs base)

end AlignedStorage
