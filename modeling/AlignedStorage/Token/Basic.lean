/-!
# Tokens

A text of source code is a list of token trees: words, lifetimes, literals,
single punctuation characters, and groups in matching delimiters.  Lexemes
are the flat form, with the delimiters as elements of their own;
`assemble?` nests them and `Token.flatten` spreads them out again.  A group
without delimiters leaves no mark in the flat form.
-/

namespace AlignedStorage

/-- The delimiters of a group. -/
inductive Delimiter
  | paren
  | bracket
  | brace
  /-- No characters: what a macro puts in the place of its parameters. -/
  | invisible
deriving DecidableEq, Repr

def Delimiter.opening : Delimiter → Option Char
  | .paren => some '('
  | .bracket => some '['
  | .brace => some '\x7b'
  | .invisible => none

def Delimiter.closing : Delimiter → Option Char
  | .paren => some ')'
  | .bracket => some ']'
  | .brace => some '\x7d'
  | .invisible => none

/-- A token without inner structure. -/
inductive Leaf
  | word (text : String)
  /-- A lifetime, with its mark. -/
  | lifetime (text : String)
  /-- A literal as it is spelled. -/
  | literal (text : String)
  /-- A punctuation character, and whether another one stands right behind
  it, so that both can spell one operator. -/
  | punct (c : Char) (joint : Bool)
deriving DecidableEq, Repr

def Leaf.text : Leaf → String
  | .word text => text
  | .lifetime text => text
  | .literal text => text
  | .punct c _ => c.toString

/-- A token tree. -/
inductive Token
  | leaf (l : Leaf)
  | group (d : Delimiter) (inner : List Token)
deriving Repr

/-- An element of a flat token list. -/
inductive Lexeme
  | leaf (l : Leaf)
  | opening (d : Delimiter)
  | closing (d : Delimiter)
deriving DecidableEq, Repr

def Lexeme.text : Lexeme → String
  | .leaf l => l.text
  | .opening d => (d.opening.map Char.toString).getD ""
  | .closing d => (d.closing.map Char.toString).getD ""

/-- Nests lexemes.  `outer` holds the groups still open, innermost first,
each with the tokens before it; `done` the tokens of the current group.
Both are kept in reverse. -/
def assembleFrom :
    List (Delimiter × List Token) → List Token → List Lexeme →
      Option (List Token)
  | [], done, [] => some done.reverse
  | _ :: _, _, [] => none
  | outer, done, .leaf l :: rest => assembleFrom outer (.leaf l :: done) rest
  | outer, done, .opening d :: rest =>
      assembleFrom ((d, done) :: outer) [] rest
  | [], _, .closing _ :: _ => none
  | (d, before) :: outer, done, .closing e :: rest =>
      if d = e then
        assembleFrom outer (.group d done.reverse :: before) rest
      else none

def assemble? (lexemes : List Lexeme) : Option (List Token) :=
  assembleFrom [] [] lexemes

mutual

def Token.flatten : Token → List Lexeme
  | .leaf l => [.leaf l]
  | .group .invisible inner => Token.flattenAll inner
  | .group d inner =>
      .opening d :: (Token.flattenAll inner ++ [.closing d])

def Token.flattenAll : List Token → List Lexeme
  | [] => []
  | t :: rest => t.flatten ++ Token.flattenAll rest

end

namespace Token

def word (text : String) : Token :=
  .leaf (.word text)

def lifetime (text : String) : Token :=
  .leaf (.lifetime text)

def punct (c : Char) : Token :=
  .leaf (.punct c false)

def isWord (text : String) : Token → Bool
  | .leaf (.word w) => w == text
  | _ => false

mutual

def decEq : (s t : Token) → Decidable (s = t)
  | .leaf l, .leaf m =>
      decidable_of_iff (l = m) (Token.leaf.injEq l m).symm.to_iff
  | .leaf _, .group .. => isFalse nofun
  | .group .., .leaf _ => isFalse nofun
  | .group d inner, .group e other =>
      have := decEqAll inner other
      decidable_of_iff (d = e ∧ inner = other)
        (Token.group.injEq d inner e other).symm.to_iff

def decEqAll : (s t : List Token) → Decidable (s = t)
  | [], [] => isTrue rfl
  | [], _ :: _ => isFalse nofun
  | _ :: _, [] => isFalse nofun
  | a :: s, b :: t =>
      have := decEq a b
      have := decEqAll s t
      decidable_of_iff (a = b ∧ s = t) (List.cons.injEq a s b t).symm.to_iff

end

instance : DecidableEq Token :=
  decEq

mutual

/-- The number of tokens in a token tree, the groups themselves counted. -/
def count : Token → Nat
  | .leaf _ => 1
  | .group _ inner => countAll inner + 1

def countAll : List Token → Nat
  | [] => 0
  | t :: rest => t.count + countAll rest

end

/-- The separator of a path: two colons without a gap. -/
def pathSeparator : List Token :=
  [.leaf (.punct ':' true), punct ':']

end Token

end AlignedStorage
