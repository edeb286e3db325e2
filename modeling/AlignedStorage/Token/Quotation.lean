import AlignedStorage.Token.Number

/-!
# Quoted literals

Text, bytes and texts with a terminator stand between double quotes, single
characters and bytes between apostrophes.  A backslash starts an escape; in a
raw literal it stands for itself, and a number of hash signs around the quotes
keeps quotes inside from closing.  The lengths found here are numbers of
characters; a literal with an escape that spells nothing, or with a carriage
return that is not part of a line end, has none.
-/

namespace AlignedStorage

/-- What the characters of a quoted literal spell. -/
inductive Quotation
  | text
  | bytes
  /-- Text that must not hold the NUL that ends it. -/
  | terminated
deriving DecidableEq, Repr

namespace Quotation

def allows (q : Quotation) (c : Char) : Bool :=
  match q with
  | .text => true
  | .bytes => c.toNat < 128
  | .terminated => c.toNat != 0

def allowsByte (q : Quotation) (n : Nat) : Bool :=
  match q with
  | .text => n < 128
  | .bytes => true
  | .terminated => n != 0

def allowsCode (q : Quotation) (n : Nat) : Bool :=
  match q with
  | .text => true
  | .bytes => false
  | .terminated => n != 0

def allowsLetter (q : Quotation) (c : Char) : Bool :=
  ['n', 'r', 't', '\\', '\'', '"'].contains c || c == '0' && q != .terminated

end Quotation

/-- Reads the digits of a code point up to the brace behind them, on top of
the value of the digits before: the number of characters, and the value. -/
def codePoint? (value digits : Nat) : List Char → Option (Nat × Nat)
  | [] => none
  | '_' :: rest =>
      if digits = 0 then none
      else (codePoint? value digits rest).map fun (n, v) ↦ (n + 1, v)
  | '\x7d' :: _ =>
      if 0 < digits ∧ value.isValidChar then some (1, value) else none
  | c :: rest =>
      match hexadecimalDigit? c with
      | some d =>
          if digits < 6 then
            (codePoint? (16 * value + d) (digits + 1) rest).map
              fun (n, v) ↦ (n + 1, v)
          else none
      | none => none

/-- The number of blanks and line ends that a backslash in front of a line
end hides.  Something has to follow them. -/
def continuationLength? : List Char → Option Nat
  | [] => none
  | '\r' :: '\n' :: rest => (continuationLength? rest).map (· + 2)
  | '\r' :: _ => none
  | c :: rest =>
      if c = ' ' ∨ c = '\t' ∨ c = '\n' then
        (continuationLength? rest).map (· + 1)
      else some 0

/-- The number of characters of an escape behind its backslash. -/
def escapeLength? (q : Quotation) : List Char → Option Nat
  | 'x' :: a :: b :: _ => do
      let high ← hexadecimalDigit? a
      let low ← hexadecimalDigit? b
      if q.allowsByte (16 * high + low) then some 3 else none
  | 'u' :: '\x7b' :: rest => do
      let (n, value) ← codePoint? 0 0 rest
      if q.allowsCode value then some (n + 2) else none
  | c :: _ => if q.allowsLetter c then some 1 else none
  | [] => none

/-- The number of characters that a backslash takes up behind itself in a
literal of several lines. -/
def hiddenLength? (q : Quotation) : List Char → Option Nat
  | '\n' :: rest => continuationLength? ('\n' :: rest)
  | '\r' :: rest => continuationLength? ('\r' :: rest)
  | rest => escapeLength? q rest

/-- The number of characters up to the double quote that closes a literal,
which is counted. -/
def quotedLength? (q : Quotation) : List Char → Option Nat
  | [] => none
  | '"' :: _ => some 1
  | '\r' :: '\n' :: rest => (quotedLength? q rest).map (· + 2)
  | '\r' :: _ => none
  | '\\' :: rest =>
      match hiddenLength? q rest with
      | none => none
      | some n => (quotedLength? q (rest.drop n)).map (· + (n + 1))
  | c :: rest =>
      if q.allows c then (quotedLength? q rest).map (· + 1) else none
termination_by cs => cs.length
decreasing_by
  all_goals simp only [List.length_cons, List.length_drop]
  all_goals omega

/-- The number of characters up to the quote and the hash signs that close a
raw literal, which are counted. -/
def rawBodyLength? (q : Quotation) (hashes : Nat) : List Char → Option Nat
  | [] => none
  | '\r' :: '\n' :: rest => (rawBodyLength? q hashes rest).map (· + 2)
  | '\r' :: _ => none
  | c :: rest =>
      if c = '"' ∧ rest.take hashes = List.replicate hashes '#' then
        some (1 + hashes)
      else if q.allows c then (rawBodyLength? q hashes rest).map (· + 1)
      else none

/-- The number of characters of a raw literal behind its letters.  It can
have up to 255 hash signs. -/
def rawLength? (q : Quotation) (cs : List Char) : Option Nat :=
  let hashes := (cs.takeWhile (· = '#')).length
  match cs.drop hashes with
  | '"' :: body =>
      if hashes ≤ 255 then
        (rawBodyLength? q hashes body).map (· + (hashes + 1))
      else none
  | _ => none

/-- The number of characters of a single character behind its apostrophe, up
to the one that closes it, which is counted. -/
def characterLength? (q : Quotation) : List Char → Option Nat
  | '\\' :: rest =>
      match escapeLength? q rest with
      | none => none
      | some n => if rest[n]? = some '\'' then some (n + 2) else none
  | c :: '\'' :: _ => if q.allows c then some 2 else none
  | _ => none

/-- The number of characters of a quoted literal at the head of a text,
without a suffix. -/
def quotationLength? : List Char → Option Nat
  | '"' :: rest => (quotedLength? .text rest).map (· + 1)
  | 'b' :: '"' :: rest => (quotedLength? .bytes rest).map (· + 2)
  | 'c' :: '"' :: rest => (quotedLength? .terminated rest).map (· + 2)
  | 'b' :: 'r' :: rest => (rawLength? .bytes rest).map (· + 2)
  | 'c' :: 'r' :: rest => (rawLength? .terminated rest).map (· + 2)
  | 'r' :: rest => (rawLength? .text rest).map (· + 1)
  | 'b' :: '\'' :: rest => (characterLength? .bytes rest).map (· + 2)
  | '\'' :: rest => (characterLength? .text rest).map (· + 1)
  | _ => none

/-- What a literal spells, as far as its first characters and its digits
show it. -/
inductive LiteralKind
  | text
  | integer (value : Nat) (suffix : List Char)
  | fraction
  | other
deriving DecidableEq, Repr

def literalKind (cs : List Char) : LiteralKind :=
  match cs with
  | '"' :: _ | 'r' :: _ => .text
  | c :: _ =>
      if c.isDigit then
        match integerLiteral? cs with
        | some (value, suffix) => .integer value suffix
        | none => .fraction
      else .other
  | [] => .other

end AlignedStorage
