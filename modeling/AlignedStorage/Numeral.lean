/-!
# Numerals

Numbers are written in decimal, addresses in hexadecimal, both without
leading zeros.  Reading a decimal numeral takes an optional plus sign and
then digits up to a given bound; the first problem met from the left is the
one reported.
-/

namespace AlignedStorage

def digitChar (d : Nat) : Char :=
  if d < 10 then Char.ofNat (48 + d) else Char.ofNat (87 + d)

def decimalDigits (n : Nat) : List Char :=
  if n < 10 then [digitChar n]
  else decimalDigits (n / 10) ++ [digitChar (n % 10)]

def decimal (n : Nat) : String :=
  String.ofList (decimalDigits n)

/-- The decimal numeral of an integer: a minus sign marks those below
zero. -/
def signedDecimal : Int → String
  | .ofNat n => decimal n
  | .negSucc n => "-" ++ decimal (n + 1)

/-- The hexadecimal digits of a number, most significant first. -/
def hexadecimalDigits (n : Nat) : List Char :=
  if n < 16 then [digitChar n]
  else hexadecimalDigits (n / 16) ++ [digitChar (n % 16)]

def hexadecimal (n : Nat) : String :=
  "0x" ++ String.ofList (hexadecimalDigits n)

def byteDigits (b : UInt8) : List Char :=
  [digitChar (b.toNat / 16), digitChar (b.toNat % 16)]

def maxWord : Nat := UInt64.size - 1

/-- Why a text is no numeral of a machine word. -/
inductive NumeralError
  /-- There are no characters at all. -/
  | empty
  /-- A character is not an ASCII digit, or a sign stands alone. -/
  | invalidDigit
  /-- The digits so far exceed the greatest machine word. -/
  | tooLarge
deriving DecidableEq, Repr

def NumeralError.message : NumeralError → String
  | .empty => "cannot parse integer from empty string"
  | .invalidDigit => "invalid digit found in string"
  | .tooLarge => "number too large to fit in target type"

def digitValue? (c : Char) : Option Nat :=
  if '0' ≤ c ∧ c ≤ '9' then some (c.toNat - 48) else none

/-- Reads digits on top of the value of those before them.  A character
that is no digit is found before the overflow it would share its position
with. -/
def readDigits (value : Nat) : List Char → Except NumeralError Nat
  | [] => .ok value
  | c :: rest =>
      match digitValue? c with
      | none => .error .invalidDigit
      | some d =>
          if 10 * value + d ≤ maxWord then readDigits (10 * value + d) rest
          else .error .tooLarge

/-- Reads a machine word: one optional plus sign, then at least one ASCII
digit. -/
def readWord : List Char → Except NumeralError Nat
  | [] => .error .empty
  | ['+'] => .error .invalidDigit
  | '+' :: digits => readDigits 0 digits
  | digits => readDigits 0 digits

end AlignedStorage
