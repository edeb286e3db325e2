import AlignedStorage.Grammar.Statement

/-!
# Nesting

The rules for what can nest, up to a given depth.  A text is read by rules of
a depth in proportion to the number of its tokens; what goes deeper is refused
there, with an error of its own.
-/

namespace AlignedStorage

namespace Rules

def nothing : Rules where
  type _ := Reader.fail .tooDeep
  bound _ := Reader.fail .tooDeep
  pattern := Reader.fail .tooDeep
  operand _ := Reader.fail .tooDeep
  climb _ _ _ := Reader.fail .tooDeep
  bounded := Reader.fail .tooDeep
  statements := Reader.fail .tooDeep
  fields := Reader.fail .tooDeep
  item := Reader.fail .tooDeep
  importTree _ := Reader.fail .tooDeep

/-- The rules for what contains things that are read by given rules. -/
def around (r : Rules) : Rules where
  type := readType r
  bound := readBound r
  pattern := readPattern r
  operand := readOperand r
  climb := readClimb r
  bounded := readBounded r
  statements := readStatements r
  fields := readFields r
  item := readAttributedItem r
  importTree := readImportTree r

def ofDepth : Nat → Rules
  | 0 => nothing
  | n + 1 => (ofDepth n).around

/-- The depth to which some tokens are read. -/
def depthLimit (tokens : List Token) : Nat :=
  4 * Token.countAll tokens + 16

end Rules

/-- Reads something that takes up all of the tokens.  Tokens that are left
over, in a group or behind it, are reported once it has been read. -/
def Reader.run {α : Type} (reader : Rules → Reader α)
    (tokens : List Token) : Except SyntaxError α := do
  let rules := Rules.ofDepth (Rules.depthLimit tokens)
  let (a, place) ← reader rules ⟨tokens, none⟩
  match place.leftover, place.rest with
  | none, [] => return a
  | some d, _ => throw ⟨.leftover (some d), false⟩
  | none, _ :: _ => throw ⟨.leftover none, false⟩

end AlignedStorage
