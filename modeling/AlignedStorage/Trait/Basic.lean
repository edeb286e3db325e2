import AlignedStorage.Generics

/-!
# Traits

The parts of a trait definition that matter for implementing something for
its objects: parameters, supertraits, conditions and members.  Bounds, types
and members are kept as the tokens they are printed with.
`TraitItem.tokens` prints a definition; empty lists leave no mark.
-/

namespace AlignedStorage

/-- What a member of a trait is. -/
inductive MemberKind
  | method
  | constant
  /-- A type that each implementation chooses. -/
  | associatedType
  | invocation
  /-- A member that is passed on as it is written: one with a visibility or a
  default mark, or a constant with parameters. -/
  | unread
deriving DecidableEq, Repr

/-- A member of a trait, with the tokens it is printed with. -/
structure Member where
  kind : MemberKind
  tokens : List Token
deriving DecidableEq

/-- A trait definition. -/
structure TraitItem where
  attributes : List Token
  visibility : List Token
  isUnsafe : Bool
  isAuto : Bool
  name : String
  generics : Generics
  supertraits : List Token
  /-- The conditions behind `where`. -/
  predicates : List Token
  /-- The attributes inside the braces. -/
  innerAttributes : List Token
  members : List Member

namespace TraitItem

def optionalWord (text : String) (present : Bool) : List Token :=
  if present then [Token.word text] else []

/-- The conditions of a trait with their `where`, or nothing when there are
none. -/
def whereTokens (t : TraitItem) : List Token :=
  if t.predicates.isEmpty then [] else Token.word "where" :: t.predicates

def bodyTokens (t : TraitItem) : List Token :=
  t.innerAttributes ++ t.members.flatMap Member.tokens

def tokens (t : TraitItem) : List Token :=
  t.attributes ++ t.visibility ++ optionalWord "unsafe" t.isUnsafe ++
    optionalWord "auto" t.isAuto ++
    [Token.word "trait", Token.word t.name] ++
    t.generics.tokensWith GenericParam.tokens ++
    GenericParam.boundTokens t.supertraits ++ t.whereTokens ++
    [.group .brace t.bodyTokens]

end TraitItem

end AlignedStorage
