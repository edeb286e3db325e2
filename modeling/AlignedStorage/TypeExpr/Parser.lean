import AlignedStorage.Token.Lexer
import AlignedStorage.TypeExpr.Basic

/-!
# Reading type expressions

`TypeExpr.ofText?` reads a type by its spelling.  Paths are known by their
last segment.  The reader walks over flat lexemes and takes one step of its
budget for each type or list element; with a budget in proportion to the
number of lexemes, a type that takes more steps is not read.
-/

namespace AlignedStorage

/-- An argument of a generic type. -/
inductive TypeArg
  | type (t : TypeExpr)
  | number (n : Nat)
  | lifetime

namespace TypeArg

def types (args : List TypeArg) : List TypeExpr :=
  args.filterMap fun
    | .type t => some t
    | _ => none

def numbers (args : List TypeArg) : List Nat :=
  args.filterMap fun
    | .number n => some n
    | _ => none

end TypeArg

namespace TypeExpr

def ofName? : String → Option TypeExpr
  | "u8" | "i8" => some (.scalar 1 0)
  | "u16" | "i16" => some (.scalar 2 0)
  | "u32" | "i32" | "f32" => some (.scalar 4 0)
  | "u64" | "i64" | "usize" | "isize" | "f64" => some (.scalar 8 0)
  | "u128" | "i128" => some (.scalar 16 0)
  | "bool" => some (.scalar 1 254)
  | "char" => some char
  | "NonZeroU8" | "NonZeroI8" => some (.scalar 1 1)
  | "NonZeroU16" | "NonZeroI16" => some (.scalar 2 1)
  | "NonZeroU32" | "NonZeroI32" => some (.scalar 4 1)
  | "NonZeroU64" | "NonZeroI64" | "NonZeroUsize" | "NonZeroIsize" =>
      some (.scalar 8 1)
  | "NonZeroU128" | "NonZeroI128" => some (.scalar 16 1)
  | "str" => some .str
  | "String" => some .heapBuffer
  | "Filler" | "PhantomData" => some filler
  | "AbstractBase" => some abstractBase
  | "Address" | "Alignment" => some word
  | "Layout" => some (.record [word, word])
  | "Mixed" => some (.record [.scalar 1 0, .scalar 4 0, .scalar 2 0])
  | "Wide32" => some (alignedTo 32 [.array byte 32])
  | "CacheLine" => some (alignedTo 64 [.array byte 64])
  | "Tracked" => some (.record [word, .pointer true word])
  | _ => none

/-- The type of a name with arguments.  A container named without arguments
stands for one of its usual elements. -/
def ofPath? (name : String) (args : List TypeArg) : Option TypeExpr :=
  match name, TypeArg.types args, TypeArg.numbers args with
  | "Option", [t], [] => some (.option t)
  | "Box", [t], [] | "Rc", [t], [] | "Arc", [t], [] |
      "NonNull", [t], [] =>
      some (.pointer true t)
  | "Box", [], [] => some (.pointer true word)
  | "Vec", _, [] => some .heapBuffer
  | "MaybeUninit", [t], [] => some (.uninit t)
  | "ManuallyDrop", [t], [] | "Cell", [t], [] => some t
  | "PhantomData", _, [] => some filler
  | "NonZero", [.scalar size _], [] => some (.scalar size 1)
  | "Align", [], [n] => some (.marker n)
  | "AlignedCharArray", [], [align, size] | "array", [], [align, size] =>
      some (.byteArray align size)
  | "AlignedCharArrayUnion", ts, [] | "union", ts, [] => some (.union ts)
  | _, [], [] => ofName? name
  | _, _, _ => none

def literalNumber? (text : String) : Option Nat :=
  let digits := text.toList.takeWhile fun c ↦ c.isDigit || c == '_'
  match readDigits 0 (digits.filter Char.isDigit) with
  | .ok n => if digits.isEmpty then none else some n
  | .error _ => none

mutual

def readType : Nat → List Lexeme → Option (TypeExpr × List Lexeme)
  | 0, _ => none
  | fuel + 1, lexemes =>
      match lexemes with
      | .opening .paren :: rest => do
          let (fields, comma, rest) ← readFields fuel rest
          match fields, comma with
          | [t], false => return (t, rest)
          | fields, _ => return (.tuple fields, rest)
      | .opening .bracket :: rest => do
          let (element, rest) ← readType fuel rest
          match rest with
          | .closing .bracket :: rest => return (.slice element, rest)
          | .leaf (.punct ';' _) :: .leaf (.literal n) ::
              .closing .bracket :: rest =>
              return (.array element (← literalNumber? n), rest)
          | _ => none
      | .leaf (.punct '&' _) :: rest => do
          let rest := match rest with
            | .leaf (.lifetime _) :: rest => rest
            | rest => rest
          let rest := match rest with
            | .leaf (.word "mut") :: rest => rest
            | rest => rest
          let (target, rest) ← readType fuel rest
          return (.pointer true target, rest)
      | .leaf (.punct '*' _) :: .leaf (.word _) :: rest => do
          let (target, rest) ← readType fuel rest
          return (.pointer false target, rest)
      | .leaf (.punct '!' _) :: rest => some (filler, rest)
      | .leaf (.word "dyn") :: rest => do
          return (.traitObject, ← readBounds fuel rest)
      | .leaf (.word "unsafe") :: rest => readType fuel rest
      | .leaf (.word "extern") :: .leaf (.literal _) :: rest =>
          readType fuel rest
      | .leaf (.word "fn") :: .opening .paren :: rest => do
          let (_, _, rest) ← readFields fuel rest
          return (.pointer true word, ← readResult fuel rest)
      | .leaf (.punct ':' _) :: .leaf (.punct ':' _) :: rest =>
          readType fuel rest
      | .leaf (.word _) :: .leaf (.punct ':' _) :: .leaf (.punct ':' _) ::
          .leaf (.word next) :: rest =>
          readType fuel (.leaf (.word next) :: rest)
      | .leaf (.word name) :: .leaf (.punct ':' _) :: .leaf (.punct ':' _) ::
          .leaf (.punct '<' _) :: rest => do
          let (args, rest) ← readArgs fuel rest
          return (← ofPath? name args, rest)
      | .leaf (.word name) :: .leaf (.punct '<' _) :: rest => do
          let (args, rest) ← readArgs fuel rest
          return (← ofPath? name args, rest)
      | .leaf (.word name) :: rest => do
          return (← ofPath? name [], rest)
      | _ => none

/-- Reads types between commas up to a closing parenthesis, and whether a
comma ended them. -/
def readFields :
    Nat → List Lexeme → Option (List TypeExpr × Bool × List Lexeme)
  | 0, _ => none
  | _ + 1, .closing .paren :: rest => some ([], false, rest)
  | fuel + 1, lexemes => do
      let (t, rest) ← readType fuel lexemes
      match rest with
      | .leaf (.punct ',' _) :: .closing .paren :: rest =>
          return ([t], true, rest)
      | .leaf (.punct ',' _) :: rest => do
          let (ts, comma, rest) ← readFields fuel rest
          return (t :: ts, comma, rest)
      | .closing .paren :: rest => return ([t], false, rest)
      | _ => none

def readArgs : Nat → List Lexeme → Option (List TypeArg × List Lexeme)
  | 0, _ => none
  | _ + 1, .leaf (.punct '>' _) :: rest => some ([], rest)
  | fuel + 1, .leaf (.punct ',' _) :: rest => readArgs fuel rest
  | fuel + 1, .leaf (.lifetime _) :: rest => do
      let (args, rest) ← readArgs fuel rest
      return (.lifetime :: args, rest)
  | fuel + 1, .leaf (.literal n) :: rest => do
      let n ← literalNumber? n
      let (args, rest) ← readArgs fuel rest
      return (.number n :: args, rest)
  | fuel + 1, .leaf (.word _) :: .leaf (.punct '=' _) :: rest =>
      readArgs fuel rest
  | fuel + 1, .opening .brace :: .leaf (.literal n) ::
      .closing .brace :: rest => do
      let n ← literalNumber? n
      let (args, rest) ← readArgs fuel rest
      return (.number n :: args, rest)
  | fuel + 1, lexemes => do
      let (t, rest) ← readType fuel lexemes
      let (args, rest) ← readArgs fuel rest
      return (.type t :: args, rest)

/-- Passes over an arrow and the type behind it, if they are there. -/
def readResult : Nat → List Lexeme → Option (List Lexeme)
  | 0, _ => none
  | fuel + 1, .leaf (.punct '-' _) :: .leaf (.punct '>' _) :: rest => do
      let (_, rest) ← readType fuel rest
      return rest
  | _ + 1, rest => some rest

def readBounds : Nat → List Lexeme → Option (List Lexeme)
  | 0, _ => none
  | fuel + 1, lexemes => do
      let rest ← match lexemes with
        | .leaf (.lifetime _) :: rest => some rest
        | lexemes => readTraitPath fuel lexemes
      match rest with
      | .leaf (.punct '+' _) :: rest => readBounds fuel rest
      | rest => return rest

def readTraitPath : Nat → List Lexeme → Option (List Lexeme)
  | 0, _ => none
  | fuel + 1, .leaf (.word "for") :: .leaf (.punct '<' _) :: rest => do
      let (_, rest) ← readArgs fuel rest
      readTraitPath fuel rest
  | fuel + 1, .leaf (.punct ':' _) :: .leaf (.punct ':' _) :: rest =>
      readTraitPath fuel rest
  | fuel + 1, .leaf (.word _) :: .leaf (.punct ':' _) ::
      .leaf (.punct ':' _) :: rest =>
      readTraitPath fuel rest
  | fuel + 1, .leaf (.word _) :: .leaf (.punct '<' _) :: rest => do
      let (_, rest) ← readArgs fuel rest
      return rest
  | fuel + 1, .leaf (.word _) :: .opening .paren :: rest => do
      let (_, _, rest) ← readFields fuel rest
      readResult fuel rest
  | _ + 1, .leaf (.word _) :: rest => some rest
  | _ + 1, _ => none

end

def ofText? (text : String) : Option TypeExpr := do
  let lexemes ← lexemes? text.toList
  match ← readType (2 * lexemes.length + 2) lexemes with
  | (t, []) => some t
  | _ => none

end TypeExpr

end AlignedStorage
