import AlignedStorage.Trait.Basic

/-!
# Abstract types

A trait marked as an abstract type has a known alignment behind every
pointer to one of its objects: that of the common base.  `TraitItem.expand`
states this for the plain objects of the trait, for those that can be sent
to other threads, and for those that can be shared as well.  How tokens are
read as a trait, and how its parts are printed, is up to the `TraitGrammar`.
-/

namespace AlignedStorage

/-- What an expansion is built on: how tokens are read as a trait definition,
and how one and its parts are printed. -/
structure TraitGrammar where
  /-- A trait definition, or the message of what is wrong with the tokens. -/
  parse : List Token → Except String TraitItem
  print : TraitItem → List Token
  /-- Parameters the way an implementation declares them. -/
  declared : Generics → List Token
  /-- Parameters the way a type is applied to them. -/
  applied : Generics → List Token
  /-- Conditions with what stands in front of them. -/
  conditions : List Token → List Token
  /-- What reports an error with a message. -/
  refusal : String → List Token

inductive AbstractTypeError
  | takesArguments
  | item (message : String)
  | associatedType
deriving DecidableEq, Repr

def AbstractTypeError.message : AbstractTypeError → String
  | .takesArguments => "#[abstract_type] does not take arguments"
  | .item message => message
  | .associatedType =>
      "#[abstract_type] traits cannot have associated types"

/-- The path of the given segments, from the root of all paths. -/
def absolutePath (segments : List String) : List Token :=
  segments.flatMap fun s ↦ Token.pathSeparator ++ [Token.word s]

def objectLifetime : String := "'__alignkit_dyn"

def alignOfPath : List Token :=
  absolutePath ["alignkit", "AlignOf"]

def abstractBasePath : List Token :=
  absolutePath ["alignkit", "AbstractBase"]

/-- The markers that an object type can carry besides its trait. -/
inductive ObjectMarkers
  | plain
  | send
  | sendSync
deriving DecidableEq, Repr

def ObjectMarkers.tokens : ObjectMarkers → List Token
  | .plain => []
  | .send =>
      Token.punct '+' :: absolutePath ["core", "marker", "Send"]
  | .sendSync =>
      Token.punct '+' :: absolutePath ["core", "marker", "Send"] ++
        Token.punct '+' :: absolutePath ["core", "marker", "Sync"]

/-- The body of an implementation: the alignment is that of the base. -/
def alignmentConstant : List Token :=
  [Token.word "const", Token.word "ALIGNMENT", Token.punct ':',
    Token.word "usize", Token.punct '='] ++
    Token.punct '<' :: abstractBasePath ++ Token.word "as" :: alignOfPath ++
    [Token.punct '>'] ++ Token.pathSeparator ++
    [Token.word "ALIGNMENT", Token.punct ';']

namespace TraitItem

/-- The parameters of an implementation: the lifetime of the objects, then
those of the trait. -/
def implGenerics (t : TraitItem) : Generics :=
  t.generics.cons (.lifetime [] objectLifetime [])

def objectType (g : TraitGrammar) (t : TraitItem) (markers : ObjectMarkers) :
    List Token :=
  [Token.word "dyn", Token.word t.name] ++ g.applied t.generics ++
    markers.tokens ++ [Token.punct '+', Token.lifetime objectLifetime]

/-- The implementation for the objects of a trait with some markers. -/
def implementation (g : TraitGrammar) (t : TraitItem)
    (markers : ObjectMarkers) : List Token :=
  Token.word "impl" :: g.declared t.implGenerics ++ alignOfPath ++
    Token.word "for" :: t.objectType g markers ++ g.conditions t.predicates ++
    [.group .brace alignmentConstant]

/-- A trait definition with the implementations for its objects behind
it. -/
def expand (g : TraitGrammar) (t : TraitItem) : List Token :=
  g.print t ++ t.implementation g .plain ++ t.implementation g .send ++
    t.implementation g .sendSync

end TraitItem

/-- The tokens that a marked item stands for.  Arguments are refused before
the item is looked at, and any associated type once it has been read. -/
def abstractType (g : TraitGrammar) (arguments item : List Token) :
    Except AbstractTypeError (List Token) :=
  if arguments.isEmpty then
    match g.parse item with
    | .error message => .error (.item message)
    | .ok t =>
        if t.members.any (·.kind = .associatedType) then
          .error .associatedType
        else .ok (t.expand g)
  else .error .takesArguments

theorem abstractType_eq_ok {g : TraitGrammar} {item : List Token}
    {t : TraitItem} (ht : g.parse item = .ok t)
    (h : ∀ m ∈ t.members, m.kind ≠ .associatedType) :
    abstractType g [] item = .ok (t.expand g) := by
  have hnone : (t.members.any fun m ↦ m.kind = .associatedType) = false := by
    simpa using h
  simp [abstractType, ht, hnone]

/-- The tokens in the place of a marked item.  A refused item leaves nothing
but the report. -/
def abstractTypeOutput (g : TraitGrammar) (arguments item : List Token) :
    List Token :=
  match abstractType g arguments item with
  | .ok tokens => tokens
  | .error e => g.refusal e.message

end AlignedStorage
