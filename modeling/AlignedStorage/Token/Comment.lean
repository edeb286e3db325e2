import AlignedStorage.Text.Escape
import AlignedStorage.Token.Basic

/-!
# Comments

A comment runs to the end of its line or, in block form, to the mark that
closes it; block comments nest.  A comment with one more slash or star, or
with an exclamation mark, is documentation and stands for an attribute.
-/

namespace AlignedStorage

/-- The number of characters up to the end of the line, and of those that
belong to the line: a carriage return in front of the line end does not. -/
def lineExtent : List Char → Nat × Nat
  | [] => (0, 0)
  | '\n' :: _ => (0, 0)
  | '\r' :: '\n' :: _ => (1, 0)
  | _ :: rest =>
      let (extent, content) := lineExtent rest
      (extent + 1, content + 1)

/-- The number of characters up to the end of a block comment, in which
`depth + 1` comments are open. -/
def blockLength? : Nat → List Char → Option Nat
  | _, [] => none
  | 0, '*' :: '/' :: _ => some 2
  | depth + 1, '*' :: '/' :: rest => (blockLength? depth rest).map (· + 2)
  | depth, '/' :: '*' :: rest => (blockLength? (depth + 1) rest).map (· + 2)
  | depth, _ :: rest => (blockLength? depth rest).map (· + 1)

def hasNoBareReturn : List Char → Bool
  | [] => true
  | '\r' :: '\n' :: rest => hasNoBareReturn rest
  | '\r' :: _ => false
  | _ :: rest => hasNoBareReturn rest

def textLiteral (cs : List Char) : Leaf :=
  .literal (String.ofList ('"' :: (escapeText cs ++ ['"'])))

/-- The attribute that a documentation comment stands for, if it has no bare
carriage return.  An inner one documents what encloses it. -/
def docAttribute? (inner : Bool) (content : List Char) :
    Option (List Lexeme) :=
  let mark (c : Char) : Lexeme := .leaf (.punct c false)
  if hasNoBareReturn content then
    some ([mark '#'] ++ (if inner then [mark '!'] else []) ++
      [.opening .bracket, .leaf (.word "doc"), mark '=',
        .leaf (textLiteral content), .closing .bracket])
  else none

/-- What a comment is by the characters behind its first two. -/
inductive CommentKind
  | plain
  | documentation (inner : Bool)
deriving DecidableEq, Repr

def CommentKind.ofLine : List Char → CommentKind
  | '/' :: '/' :: _ => .plain
  | '/' :: _ => .documentation false
  | '!' :: _ => .documentation true
  | _ => .plain

def CommentKind.ofBlock : List Char → CommentKind
  | '*' :: '*' :: _ | '*' :: '/' :: _ => .plain
  | '*' :: _ => .documentation false
  | '!' :: _ => .documentation true
  | _ => .plain

def CommentKind.lexemes? (content : List Char) :
    CommentKind → Option (List Lexeme)
  | .plain => some []
  | .documentation inner => docAttribute? inner (content.drop 1)

/-- The lexemes of a line comment, given the text behind its slashes, and the
number of characters of that text they take up. -/
def lineComment? (rest : List Char) : Option (List Lexeme × Nat) := do
  let (extent, content) := lineExtent rest
  let lexemes ← (CommentKind.ofLine rest).lexemes? (rest.take content)
  return (lexemes, extent)

/-- The lexemes of a block comment, given the text behind its opening mark,
and the number of characters of that text they take up. -/
def blockComment? (rest : List Char) : Option (List Lexeme × Nat) := do
  let n ← blockLength? 0 rest
  let lexemes ← (CommentKind.ofBlock rest).lexemes? (rest.take (n - 2))
  return (lexemes, n)

end AlignedStorage
