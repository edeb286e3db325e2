import AlignedStorage.Token.Quotation
import AlignedStorage.Token.Basic

/-!
# Signs

A sign is what a list of tokens can be asked to start with: a given word or
punctuation, a name, a lifetime, a literal or a group.  The grammar looks at
signs to choose how to read on, and names them in its errors.
-/

namespace AlignedStorage

def keywords : List String :=
  [ "_", "abstract", "as", "async", "await", "become", "box", "break",
    "const", "continue", "crate", "do", "dyn", "else", "enum", "extern",
    "false", "final", "fn", "for", "if", "impl", "in", "let", "loop",
    "macro", "match", "mod", "move", "mut", "override", "priv", "pub",
    "ref", "return", "Self", "self", "static", "struct", "super", "trait",
    "true", "try", "type", "typeof", "unsafe", "unsized", "use", "virtual",
    "where", "while", "yield" ]

/-- What tokens can start with. -/
inductive Sign
  | word (text : String)
  /-- Punctuation; of several characters, each but the last has no gap behind
  it. -/
  | mark (text : String)
  | name
  | lifetime
  | literal
  | text
  | group (d : Delimiter)
deriving DecidableEq, Repr

/-- Whether the tokens start with the characters of an operator.  More
characters can follow. -/
def startsMark : List Char → List Token → Bool
  | [], _ => false
  | [c], .leaf (.punct p _) :: _ => p == c
  | c :: more, .leaf (.punct p joint) :: rest =>
      p == c && joint && startsMark more rest
  | _, _ => false

def isTruthValue (w : String) : Bool :=
  w == "true" || w == "false"

def spelledKind (spelling : String) : LiteralKind :=
  literalKind spelling.toList

def LiteralKind.isNumber : LiteralKind → Bool
  | .integer .. | .fraction => true
  | .text | .other => false

/-- The number of tokens that a literal at the head of the tokens takes up,
or none.  A minus sign belongs to the number behind it. -/
def literalExtent : List Token → Nat
  | .leaf (.literal _) :: _ => 1
  | .leaf (.word w) :: _ => if isTruthValue w then 1 else 0
  | .leaf (.punct '-' _) :: .leaf (.literal spelling) :: _ =>
      if (spelledKind spelling).isNumber then 2 else 0
  | _ => 0

namespace Sign

def heads : Sign → List Token → Bool
  | .word w, .leaf (.word v) :: _ => v == w
  | .mark m, tokens => startsMark m.toList tokens
  | .name, .leaf (.word w) :: _ => !keywords.contains w
  | .lifetime, .leaf (.lifetime _) :: _ => true
  | .literal, tokens => 0 < literalExtent tokens
  | .text, .leaf (.literal spelling) :: _ => spelledKind spelling = .text
  | .group d, .group e _ :: _ => d = e
  | _, _ => false

def label : Sign → String
  | .word w => "`" ++ w ++ "`"
  | .mark m => "`" ++ m ++ "`"
  | .name => "identifier"
  | .lifetime => "lifetime"
  | .literal => "literal"
  | .text => "string literal"
  | .group .paren => "parentheses"
  | .group .bracket => "square brackets"
  | .group .brace => "curly braces"
  | .group .invisible => "invisible group"

end Sign

def startsAny (signs : List Sign) (tokens : List Token) : Bool :=
  signs.any (·.heads tokens)

def startsWord (w : String) (tokens : List Token) : Bool :=
  (Sign.word w).heads tokens

def starts (m : String) (tokens : List Token) : Bool :=
  (Sign.mark m).heads tokens

def startsName (tokens : List Token) : Bool :=
  Sign.name.heads tokens

def startsLifetime (tokens : List Token) : Bool :=
  Sign.lifetime.heads tokens

def startsGroup (d : Delimiter) (tokens : List Token) : Bool :=
  (Sign.group d).heads tokens

def startsAnyWord : List Token → Bool
  | .leaf (.word _) :: _ => true
  | _ => false

def startsColon (tokens : List Token) : Bool :=
  starts ":" tokens && !starts "::" tokens

/-- Whether tokens start with a single point, not with a range. -/
def startsPoint (tokens : List Token) : Bool :=
  starts "." tokens && !starts ".." tokens

/-- Whether tokens start with an exclamation mark that calls a macro. -/
def startsBang (tokens : List Token) : Bool :=
  starts "!" tokens && !starts "!=" tokens

end AlignedStorage
