import AlignedStorage.Grammar.Reader

/-!
# The recursive rules

Types, patterns, expressions, statements and items contain one another.  Each
reader is therefore given the readers for what can stand inside of what it
reads, as a value of `Rules`.  What has been read is kept as tokens, together
with what the tokens around it depend on.
-/

namespace AlignedStorage

inductive TypeForm
  /-- A path of one name, with or without arguments in angle brackets. -/
  | name
  | path
  | enclosed
  /-- One bound that stands for the objects of its trait. -/
  | bareBound
  | other
deriving DecidableEq, Repr

structure TypeText where
  tokens : List Token
  form : TypeForm := .other

/-- Where bounds stand, which decides what a bound can be. -/
inductive BoundPlace
  /-- Behind a parameter, a condition, or the name of a trait. -/
  | declaration
  /-- In a type that is left unnamed. -/
  | anonymous
  /-- In the type of the objects of a trait. -/
  | object
deriving DecidableEq, Repr

inductive BoundForm
  | trait
  | lifetime
  /-- The parameters that an unnamed type depends on. -/
  | capture
deriving DecidableEq, Repr

structure BoundText where
  tokens : List Token
  form : BoundForm

inductive PatternForm
  /-- The fields not named. -/
  | rest
  | range
  | openRange
  /-- A pattern that is passed on as it is written. -/
  | verbatim
  | other
deriving DecidableEq, Repr

structure PatternText where
  tokens : List Token
  form : PatternForm := .other

inductive ExprForm
  | range
  | comparison
  /-- A block or a control structure, which ends a statement by itself. -/
  | block
  | braceCall
  /-- An expression that is passed on as it is written. -/
  | verbatim
  | other
deriving DecidableEq, Repr

structure ExprText where
  tokens : List Token
  form : ExprForm := .other
  /-- Whether the leftmost operand is passed on as it is written. -/
  verbatimHead : Bool := false

/-- How strongly operators bind, from the weakest on. -/
inductive Precedence
  | jump
  | assignment
  | range
  | disjunction
  | conjunction
  | binding
  | comparison
  | bitOr
  | bitXor
  | bitAnd
  | shift
  | sum
  | product
  | cast
deriving DecidableEq, Repr

def Precedence.rank : Precedence → Nat
  | .jump => 0
  | .assignment => 1
  | .range => 2
  | .disjunction => 3
  | .conjunction => 4
  | .binding => 5
  | .comparison => 6
  | .bitOr => 7
  | .bitXor => 8
  | .bitAnd => 9
  | .shift => 10
  | .sum => 11
  | .product => 12
  | .cast => 13

/-- The readers for what contains itself. -/
structure Rules where
  /-- A type; whether a plus sign may add bounds to it. -/
  type : Bool → Reader TypeText
  bound : BoundPlace → Reader BoundText
  /-- A pattern without alternatives. -/
  pattern : Reader PatternText
  /-- An operand with what is applied to it; whether a path may be followed
  by the fields of a structure in braces. -/
  operand : Bool → Reader ExprText
  /-- The operators behind a left operand that bind at least as strongly as a
  given precedence. -/
  climb : Bool → Precedence → ExprText → Reader ExprText
  /-- An expression that a block or a control structure at its head can
  end. -/
  bounded : Reader ExprText
  /-- The statements up to the end of a group. -/
  statements : Reader (List Token)
  fields : Reader (List Token)
  /-- An item with its attributes. -/
  item : Reader (List Token)
  /-- A tree of imported names, and whether it is passed on as it is written;
  whether paths in it may start at the root of all paths. -/
  importTree : Bool → Reader Bool

namespace Rules

def expr (r : Rules) (structs : Bool) : Reader ExprText := do
  r.climb structs .jump (← r.operand structs)

def exprTokens (r : Rules) : Reader (List Token) := do
  return (← r.expr true).tokens

def typeTokens (r : Rules) : Reader (List Token) := do
  return (← r.type true).tokens

def patternTokens (r : Rules) : Reader (List Token) := do
  return (← r.pattern).tokens

def block (r : Rules) : Reader (List Token) :=
  Reader.group .brace r.statements

end Rules

end AlignedStorage
