import AlignedStorage.Numeral
import AlignedStorage.Text.Identifier

/-!
# Numeric literals

A numeric literal is an integer in one of four bases or a decimal fraction,
with an optional suffix right behind its digits.  The lengths found here are
numbers of characters; `integerLiteral?` finds the value and the suffix that
a literal spells.
-/

namespace AlignedStorage

def wordLength (cs : List Char) : Nat :=
  (cs.takeWhile isIdentifierContinue).length

/-- The number of characters of a suffix that stands right behind a
literal. -/
def suffixLength (cs : List Char) : Nat :=
  match cs with
  | c :: _ => if isIdentifierStart c then wordLength cs else 0
  | [] => 0

/-- Whether a character is a decimal digit or an underscore between
digits. -/
def isDigitOrGap (c : Char) : Bool :=
  c.isDigit || c == '_'

def digitRun (cs : List Char) : Nat :=
  (cs.takeWhile isDigitOrGap).length

/-- Adds the suffix to a number of `n` characters.  What follows the number
must not go on as an identifier would. -/
def endNumber? (cs : List Char) (n : Nat) : Option Nat :=
  match cs.drop n with
  | [] => some n
  | c :: rest =>
      if isIdentifierStart c then some (n + wordLength (c :: rest))
      else if isIdentifierContinue c then none
      else some n

/-- The number of characters of an exponent behind its mark: underscores, a
sign, and then at least one digit. -/
def exponentLength? (cs : List Char) : Option Nat :=
  let gap := (cs.takeWhile (· == '_')).length
  let sign := match cs.drop gap with
    | '+' :: _ | '-' :: _ => 1
    | _ => 0
  let digits := (cs.drop (gap + sign)).takeWhile isDigitOrGap
  if digits.any Char.isDigit then some (gap + sign + digits.length) else none

def isExponentMark (c : Char) : Bool :=
  c == 'e' || c == 'E'

/-- The number of characters of a decimal number with a point or an exponent.
A point is part of it unless another point or a name follows.  A mark without
an exponent is left to the suffix if there is a point. -/
def fractionLength? (cs : List Char) : Option Nat :=
  let whole := digitRun cs
  match cs.drop whole with
  | '.' :: after =>
      if after.head?.any fun c ↦ c == '.' || isIdentifierStart c then none
      else
        let n := whole + 1 + digitRun after
        match cs.drop n with
        | c :: rest =>
            if isExponentMark c then
              some (n + ((exponentLength? rest).map (· + 1)).getD 0)
            else some n
        | [] => some n
  | c :: rest =>
      if isExponentMark c then
        (exponentLength? rest).map (whole + 1 + ·)
      else none
  | [] => none

def hexadecimalDigit? (c : Char) : Option Nat :=
  if c.isDigit then some (c.toNat - 48)
  else if 'a' ≤ c ∧ c ≤ 'f' then some (c.toNat - 87)
  else if 'A' ≤ c ∧ c ≤ 'F' then some (c.toNat - 55)
  else none

/-- The base of an integer and the number of characters that mark it. -/
def integerBase : List Char → Nat × Nat
  | '0' :: 'x' :: _ => (16, 2)
  | '0' :: 'o' :: _ => (8, 2)
  | '0' :: 'b' :: _ => (2, 2)
  | _ => (10, 0)

/-- Whether a character belongs to the digits of an integer.  Decimal digits
too great for the base do; letters too great for it start the suffix. -/
def isDigitOf (base : Nat) (c : Char) : Bool :=
  isDigitOrGap c || (hexadecimalDigit? c).any (· < base)

/-- The number of characters of an integer without its suffix, if each digit
fits the base and there is one. -/
def integerLength? (cs : List Char) : Option Nat :=
  let (base, mark) := integerBase cs
  let digits := (cs.drop mark).takeWhile (isDigitOf base)
  let values := digits.filterMap hexadecimalDigit?
  if values.isEmpty || !values.all (· < base) then none
  else some (mark + digits.length)

/-- The number of characters of a numeric literal at the head of a text. -/
def numberLength? (cs : List Char) : Option Nat :=
  match cs with
  | c :: _ =>
      if c.isDigit then
        (fractionLength? cs).bind (endNumber? cs) <|>
          (integerLength? cs).bind (endNumber? cs)
      else none
  | [] => none

/-- Whether what follows the digits of a decimal literal makes a fraction of
it: a point, or an exponent mark with at least one digit behind it. -/
def hasFraction : List Char → Bool
  | '.' :: _ => true
  | c :: rest => isExponentMark c && (exponentLength? rest).isSome
  | [] => false

/-- The value and the suffix of an integer literal.  Fractions have no
integer value. -/
def integerLiteral? (cs : List Char) : Option (Nat × List Char) :=
  let (base, mark) := integerBase cs
  let digits := (cs.drop mark).takeWhile (isDigitOf base)
  let suffix := cs.drop (mark + digits.length)
  let values := digits.filterMap hexadecimalDigit?
  if values.isEmpty || base == 10 && hasFraction suffix then none
  else some (values.foldl (fun n d ↦ base * n + d) 0, suffix)

end AlignedStorage
