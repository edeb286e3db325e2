import AlignedStorage.Text.Blank
import AlignedStorage.Token.Comment
import AlignedStorage.Token.Quotation

/-!
# Reading tokens

`scan` finds the lexemes at the head of a text and how many characters they
take up; `lexemes?` repeats it.  Blanks and comments make no lexemes, except
that a documentation comment stands for the attribute it abbreviates.
-/

namespace AlignedStorage

/-- Whether a character is passed over between tokens.  The marks that turn
the direction of writing are. -/
def isGap (c : Char) : Bool :=
  isBlank c || c.toNat == 0x200e || c.toNat == 0x200f

def punctuation : List Char :=
  "~!@#$%^&*-=+|;:,<.>/?'".toList

/-- Whether a text starts with a punctuation character.  The slash of a
comment is none. -/
def startsPunct : List Char → Bool
  | '/' :: '/' :: _ | '/' :: '*' :: _ => false
  | c :: _ => punctuation.contains c
  | [] => false

/-- The delimiter that a character opens or closes. -/
def delimiterLexeme? (c : Char) : Option Lexeme :=
  [Delimiter.paren, .bracket, .brace].findSome? fun d ↦
    if d.opening = some c then some (.opening d)
    else if d.closing = some c then some (.closing d)
    else none

def reservedNames : List String :=
  ["_", "super", "self", "Self", "crate"]

/-- The number of characters of a name at the head of a text, with the raw
mark if it has one. -/
def nameLength? (cs : List Char) : Option Nat :=
  match cs with
  | 'r' :: '#' :: rest =>
      let n := suffixLength rest
      if n = 0 || reservedNames.contains (String.ofList (rest.take n)) then
        none
      else some (n + 2)
  | cs =>
      let n := suffixLength cs
      if n = 0 then none else some n

/-- Whether a text starts like a quoted literal.  No name is read there. -/
def startsQuotation : List Char → Bool
  | 'r' :: '"' :: _ | 'r' :: '#' :: '"' :: _ | 'r' :: '#' :: '#' :: _ => true
  | 'b' :: '"' :: _ | 'b' :: '\'' :: _ => true
  | 'b' :: 'r' :: '"' :: _ | 'b' :: 'r' :: '#' :: _ => true
  | 'c' :: '"' :: _ => true
  | 'c' :: 'r' :: '"' :: _ | 'c' :: 'r' :: '#' :: _ => true
  | _ => false

/-- The number of characters of a literal at the head of a text, with its
suffix. -/
def literalLength? (cs : List Char) : Option Nat :=
  match quotationLength? cs with
  | some n => some (n + suffixLength (cs.drop n))
  | none => numberLength? cs

/-- Whether what stands behind the name of a lifetime leaves it one.  An
apostrophe does not, and a hash sign only if the name is raw. -/
def endsLifetime (name rest : List Char) : Bool :=
  match name, rest with
  | _, '\'' :: _ => false
  | 'r' :: '#' :: _, '#' :: _ => true
  | _, '#' :: _ => false
  | _, _ => true

/-- The lifetime that an apostrophe starts, given the text behind it, and
the number of characters of that text that belong to it.  In front of a
literal the apostrophe stands alone. -/
def lifetime? (rest : List Char) : Option (Leaf × Nat) :=
  match nameLength? rest with
  | none => none
  | some n =>
      if !endsLifetime rest (rest.drop n) then none
      else if startsQuotation rest then some (.punct '\'' true, 0)
      else some (.lifetime (String.ofList ('\'' :: rest.take n)), n)

/-- The content of the parentheses that stand for a literal which could not
be read. -/
def unreadableLiteral : List Char :=
  "/*ERROR*/)".toList

/-- The word, lifetime or punctuation character at the head of the text
`c :: rest`, and the number of characters it takes up after `c`. -/
def plainLeaf? (c : Char) (rest : List Char) : Option (Leaf × Nat) :=
  if c = '\'' then lifetime? rest
  else if startsPunct (c :: rest) then
    some (.punct c (startsPunct rest), 0)
  else if startsQuotation (c :: rest) then none
  else
    (nameLength? (c :: rest)).map fun n ↦
      (.word (String.ofList ((c :: rest).take n)), n - 1)

/-- The lexemes at the head of the text `c :: rest`, and the number of
characters they take up after `c`. -/
def scan (c : Char) (rest : List Char) : Option (List Lexeme × Nat) :=
  if isGap c then some ([], 0)
  else if c = '/' ∧ rest.head? = some '/' then
    (lineComment? (rest.drop 1)).map fun (lexemes, n) ↦ (lexemes, n + 1)
  else if c = '/' ∧ rest.head? = some '*' then
    (blockComment? (rest.drop 1)).map fun (lexemes, n) ↦ (lexemes, n + 1)
  else if c = '(' ∧ rest.take unreadableLiteral.length = unreadableLiteral then
    some ([.leaf (.literal (String.ofList (c :: unreadableLiteral)))],
      unreadableLiteral.length)
  else
    match delimiterLexeme? c with
    | some lexeme => some ([lexeme], 0)
    | none =>
        match literalLength? (c :: rest) with
        | some n =>
            some ([.leaf (.literal (String.ofList ((c :: rest).take n)))],
              n - 1)
        | none => (plainLeaf? c rest).map fun (leaf, n) ↦ ([.leaf leaf], n)

/-- The lexemes of a text, if it has no character out of place. -/
def lexemes? : List Char → Option (List Lexeme)
  | [] => some []
  | c :: rest =>
      match scan c rest with
      | none => none
      | some (lexemes, n) => (lexemes? (rest.drop n)).map (lexemes ++ ·)
termination_by cs => cs.length
decreasing_by
  simp only [List.length_drop, List.length_cons]
  omega

/-- A text without the byte order mark in front. -/
def dropOrderMark : List Char → List Char
  | c :: rest => if c.toNat = 0xfeff then rest else c :: rest
  | [] => []

def tokens? (text : String) : Option (List Token) := do
  assemble? (← lexemes? (dropOrderMark text.toList))

end AlignedStorage
