import AlignedStorage.Grammar.Nesting
import AlignedStorage.Token.Comment
import AlignedStorage.Trait.Abstract

/-!
# Reading traits

`TraitItem.parse` reads a trait definition that takes up all of the tokens.
With it and the printing of definitions, `TraitGrammar.ofRules` is the grammar
of traits that the rules give.
-/

namespace AlignedStorage

def readAttributedTrait (r : Rules) : Reader TraitItem := do
  readTrait r (← readAttributes r)

def TraitItem.parse (tokens : List Token) : Except SyntaxError TraitItem :=
  Reader.run readAttributedTrait tokens

/-- The call of the macro that reports an error. -/
def errorCall (message : String) : List Token :=
  absolutePath ["core", "compile_error"] ++
    [Token.punct '!', .group .brace [.leaf (textLiteral message.toList)]]

def TraitGrammar.ofRules : TraitGrammar where
  parse item :=
    match TraitItem.parse item with
    | .ok t => .ok t
    | .error e => .error e.message
  print := TraitItem.tokens
  declared g := g.tokensWith GenericParam.declaration
  applied g := g.tokensWith fun p ↦ [p.nameToken]
  conditions := conditionTokens
  refusal := errorCall

theorem TraitGrammar.parse_ofRules {item : List Token} {t : TraitItem} :
    ofRules.parse item = .ok t ↔ TraitItem.parse item = .ok t := by
  simp only [ofRules]
  cases TraitItem.parse item <;> simp

end AlignedStorage
