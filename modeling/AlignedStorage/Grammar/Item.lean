import AlignedStorage.Grammar.Data
import AlignedStorage.Grammar.Implementation

/-!
# Items

`readItem` reads an item behind its attributes and gives back the tokens that
both are printed with.  Items in forms that have no meaning of their own are
passed on as they are written, with their attributes.
-/

namespace AlignedStorage

open Reader

/-! ## Imports -/

def importSigns : List Sign :=
  [.name, .word "self", .word "super", .word "crate", .word "try",
    .mark "*", .group .brace]

/-- Reads the trees in the braces of an import, and tells whether a path in
them starts at the root of all paths. -/
def readImportGroup (r : Rules) (roots : Bool) : Reader Bool :=
  repeating false fun found ↦ do
    if ← atEnd then return (found, false)
    let root ← if roots then mark? "::" else pure []
    let inner ← r.importTree (roots && root.isEmpty)
    let found := found || inner || !root.isEmpty
    if ← atEnd then return (found, false)
    let _ ← mark ","
    return (found, true)

/-- Reads a tree of imported names, and tells whether a path in it starts at
the root of all paths, which it may only do in braces. -/
def readImportTree (r : Rules) (roots : Bool) : Reader Bool := do
  let tokens ← ahead
  if startsAny [.name, .word "self", .word "super", .word "crate",
      .word "try"] tokens then
    let _ ← anyWord
    if starts "::" (← ahead) then
      let _ ← mark "::"
      r.importTree false
    else if startsWord "as" (← ahead) then
      let _ ← word "as"
      if startsAny [.name, .word "_"] (← ahead) then
        let _ ← anyWord
        return false
      else expected "identifier or underscore"
    else return false
  else if starts "*" tokens then
    let _ ← mark "*"
    return false
  else if startsGroup .brace tokens then
    inside .brace (readImportGroup r roots)
  else expectedSigns importSigns

/-! ## Items with a word in front -/

/-- An item that has been read, or nothing if it is passed on as it is
written. -/
abbrev ItemText := Option (List Token)

def readOwn (part : Reader (List Token)) : Reader ItemText := do
  return some (← part)

def readImport (r : Rules) : Reader ItemText := do
  let start ← ahead
  let _ ← parts [readVisibility, word "use"]
  let root ← mark? "::"
  let rooted ← r.importTree root.isEmpty
  let _ ← mark ";"
  if rooted then return none else return some (← since start)

def readFunction (r : Rules) : Reader ItemText := do
  let head ← parts [readVisibility, readSignature r]
  if starts ";" (← ahead) then
    let _ ← mark ";"
    return none
  else return some (head ++ (← readBody r))

def readRename : Reader (List Token) :=
  when [.word "as"] (parts [word "as", do
    if startsWord "_" (← ahead) then anyWord else name])

def readExternCrate : Reader ItemText :=
  readOwn (parts [readVisibility, word "extern", word "crate",
    do if startsWord "self" (← ahead) then anyWord else name,
    readRename, mark ";"])

def readForeignBlock (r : Rules) : Reader ItemText :=
  readOwn (parts [word? "unsafe", word "extern", text?, group .brace
    (parts [readInnerAttributes r,
      many (!·.isEmpty) (readForeignItem r)])])

/-- Reads an item that starts with `extern` behind its visibility, from its
visibility on. -/
def readExtern (r : Rules) (tokens : List Token) : Reader ItemText := do
  let second := tokens.drop 1
  if startsWord "crate" second then readExternCrate
  else if startsGroup .brace second then readForeignBlock r
  else if Sign.text.heads second then
    if startsGroup .brace (second.drop 1) then readForeignBlock r
    else
      let _ ← parts [readVisibility, take 2]
      expectedSigns [.group .brace]
  else
    let _ ← parts [readVisibility, take 1]
    expectedSigns [.word "crate", .group .brace, .text]

/-- Reads a value with a place of its own; nothing is returned if its type or
its value is left out. -/
def readStatic (r : Rules) : Reader ItemText := do
  let front ← parts [readVisibility, word "static", word? "mut", name]
  if starts "=" (← ahead) then
    let _ ← parts [mark "=", r.exprTokens, mark ";"]
    return none
  else
    let typed ← parts [mark ":", r.typeTokens]
    if starts ";" (← ahead) then
      let _ ← mark ";"
      return none
    else
      let value ← parts [mark "=", r.exprTokens, mark ";"]
      return some (front ++ typed ++ value)

/-- Reads a constant; nothing is returned if it has no value or is
generic. -/
def readConstItem (r : Rules) : Reader ItemText := do
  let visibility ← readVisibility
  let c ← readConst r
  return if c.valued && !c.generic then some (visibility ++ c.tokens)
    else none

/-- Reads a module.  Its name can be the word `try`. -/
def readModule (r : Rules) : Reader ItemText := do
  let front ← parts [readVisibility, word? "unsafe", word "mod",
    do if startsWord "try" (← ahead) then anyWord else name]
  let tokens ← ahead
  if starts ";" tokens then return some (front ++ (← mark ";"))
  else if startsGroup .brace tokens then
    return some (front ++ (← group .brace (parts
      [readInnerAttributes r, many (!·.isEmpty) r.item])))
  else expectedSigns [.mark ";", .group .brace]

/-- Reads another name for a type; nothing is returned if it has bounds or no
type. -/
def readAlias (r : Rules) : Reader ItemText := do
  let visibility ← readVisibility
  let d ← readTypeDefinition r .beforeValue
  if d.bounded || d.value.isEmpty then return none
  else
    return some (visibility ++ d.head ++ d.conditions ++ d.value ++ d.close)

def readTraitAlias (r : Rules) (head : TraitHead) : Reader (List Token) := do
  let equals ← mark "="
  let stop := startsAny [.word "where", .mark ";"]
  let bounds ← separated "+" stop (r.bound .object)
  let conditions ← readWhere r
  let close ← mark ";"
  return head.visibility ++ [Token.word "trait", Token.word head.name] ++
    head.generics.tokensWith GenericParam.tokens ++ equals ++
    boundsTokens bounds ++ conditions ++ close

def readTraitOrAlias (r : Rules) : Reader ItemText := do
  let head ← readTraitHead r []
  let tokens ← ahead
  if startsAny [.group .brace, .mark ":", .word "where"] tokens then
    return some (← readTraitRest r head).tokens
  else if starts "=" tokens then readOwn (readTraitAlias r head)
  else expectedSigns [.group .brace, .mark ":", .word "where", .mark "="]

def readTraitDefinition (r : Rules) : Reader ItemText := do
  return some (← readTrait r []).tokens

def readImplementationItem (r : Rules) : Reader ItemText := do
  let found ← readImplementation r
  return if found.asWritten then none else some found.tokens

/-- Reads a macro that is declared with its parameters, which is passed on as
it is written. -/
def readMacroDeclaration : Reader ItemText := do
  let _ ← parts [readVisibility, word "macro", name]
  let enclosed := startsGroup .paren (← ahead)
  let _ ← when [.group .paren] (take 1)
  if startsGroup .brace (← ahead) then
    let _ ← take 1
    return none
  else
    expectedSigns ((if enclosed then [] else [.group .paren]) ++
      [.group .brace])

/-- Reads the call of a macro as an item.  A name can stand in front of its
arguments. -/
def readItemCall : Reader ItemText := do
  let front ← parts [readPlainPath, mark "!",
    when [.word "try", .name] anyWord]
  let (content, inBraces) ← anyGroup
  if inBraces then return some (front ++ content)
  else return some (front ++ content ++ (← mark ";"))

/-! ## All items -/

def itemSigns (macros : Bool) : List Sign :=
  [.word "fn", .word "extern", .word "use", .word "static", .word "const",
    .word "unsafe", .word "mod", .word "type", .word "struct", .word "enum",
    .word "union", .word "trait", .word "auto", .word "impl",
    .word "default", .word "macro"] ++ if macros then macroSigns else []

/-- Reads an item that starts with `unsafe` behind its visibility, from its
visibility on. -/
def readUnsafeItem (r : Rules) (tokens : List Token) : Reader ItemText := do
  let second := tokens.drop 1
  if startsWord "trait" second ||
      startsWord "auto" second && startsWord "trait" (second.drop 1) then
    readTraitDefinition r
  else if startsWord "impl" second then readImplementationItem r
  else if startsWord "extern" second then readForeignBlock r
  else if startsWord "mod" second then readModule r
  else
    let _ ← parts [readVisibility, take 1]
    expectedSigns [.word "trait", .word "auto", .word "impl",
      .word "extern", .word "mod"]

/-- Reads an item from its visibility on, given the tokens behind that. -/
def readItemBody (r : Rules) (visible : Bool) (tokens : List Token) :
    Reader ItemText := do
  let second := tokens.drop 1
  if startsFunction false tokens then readFunction r
  else if startsWord "extern" tokens then readExtern r tokens
  else if startsWord "use" tokens then readImport r
  else if startsWord "static" tokens then readStatic r
  else if startsWord "const" tokens then readConstItem r
  else if startsWord "unsafe" tokens then readUnsafeItem r tokens
  else if startsWord "mod" tokens then readModule r
  else if startsWord "type" tokens then readAlias r
  else if startsWord "struct" tokens then readOwn (readStruct r)
  else if startsWord "enum" tokens then readOwn (readEnum r)
  else if startsWord "union" tokens && startsName second then
    readOwn (readUnion r)
  else if startsWord "trait" tokens then readTraitOrAlias r
  else if startsWord "auto" tokens && startsWord "trait" second then
    readTraitDefinition r
  else if startsWord "impl" tokens ||
      startsWord "default" tokens && !starts "!" second then
    readImplementationItem r
  else if startsWord "macro" tokens then readMacroDeclaration
  else if !visible && startsAny macroSigns tokens then readItemCall
  else
    let _ ← readVisibility
    expectedSigns (itemSigns (!visible))

/-- Reads an item behind its attributes, which start at the given tokens. -/
def readItem (r : Rules) (start attributes : List Token) :
    Reader (List Token) := do
  let place ← get
  let visibility ← readVisibility
  let tokens ← ahead
  set place
  match ← readItemBody r (!visibility.isEmpty) tokens with
  | some own => return attributes ++ own
  | none => since start

def readAttributedItem (r : Rules) : Reader (List Token) := do
  let start ← ahead
  readItem r start (← readAttributes r)

end AlignedStorage
