import AlignedStorage.Token.Basic

/-!
# Generic parameters

Parameters and arguments stand in angle brackets with commas between them.
They are printed with the lifetimes first, in whatever order they were
given; each keeps the comma behind it, and one is put in where the last
lifetime had none and others follow.
-/

namespace AlignedStorage

/-- An element of a list in angle brackets. -/
structure AngleEntry where
  isLifetime : Bool
  tokens : List Token
  /-- Whether a comma follows. -/
  comma : Bool

namespace AngleEntry

def text (e : AngleEntry) : List Token :=
  e.tokens ++ if e.comma then [Token.punct ','] else []

def lifetimes (entries : List AngleEntry) : List AngleEntry :=
  entries.filter AngleEntry.isLifetime

def others (entries : List AngleEntry) : List AngleEntry :=
  entries.filter (!·.isLifetime)

/-- Whether a comma has to be put between the lifetimes and the rest. -/
def lacksComma (entries : List AngleEntry) : Bool :=
  match (lifetimes entries).getLast? with
  | some last => !last.comma && !(others entries).isEmpty
  | none => false

def ordered (entries : List AngleEntry) : List Token :=
  (lifetimes entries).flatMap text ++
    (if lacksComma entries then [Token.punct ','] else []) ++
    (others entries).flatMap text

def bracketed (entries : List AngleEntry) : List Token :=
  Token.punct '<' :: (ordered entries ++ [Token.punct '>'])

end AngleEntry

/-- A parameter, with the attributes in front of it. -/
inductive GenericParam
  | lifetime (attributes : List Token) (name : String)
      (bounds : List Token)
  | type (attributes : List Token) (name : String) (bounds : List Token)
      (fallback : Option (List Token))
  | const (attributes : List Token) (name : String)
      (valueType : List Token) (fallback : Option (List Token))

namespace GenericParam

def isLifetime : GenericParam → Bool
  | .lifetime .. => true
  | _ => false

/-- A colon with bounds behind it, or nothing when there are none. -/
def boundTokens (bounds : List Token) : List Token :=
  if bounds.isEmpty then [] else Token.punct ':' :: bounds

/-- An equals sign with a default behind it, or nothing when there is
none. -/
def defaultTokens : Option (List Token) → List Token
  | none => []
  | some fallback => Token.punct '=' :: fallback

def nameToken : GenericParam → Token
  | .lifetime _ name _ => Token.lifetime name
  | .type _ name _ _ => Token.word name
  | .const _ name _ _ => Token.word name

/-- A parameter with its bounds but without its default, the way an
implementation declares it. -/
def declaration : GenericParam → List Token
  | .lifetime attributes name bounds =>
      attributes ++ Token.lifetime name :: boundTokens bounds
  | .type attributes name bounds _ =>
      attributes ++ Token.word name :: boundTokens bounds
  | .const attributes name valueType _ =>
      attributes ++
        Token.word "const" :: Token.word name :: Token.punct ':' :: valueType

def default? : GenericParam → Option (List Token)
  | .lifetime .. => none
  | .type _ _ _ fallback => fallback
  | .const _ _ _ fallback => fallback

def tokens (p : GenericParam) : List Token :=
  p.declaration ++ defaultTokens p.default?

end GenericParam

/-- A list of parameters, each with whether a comma follows it. -/
structure Generics where
  params : List (GenericParam × Bool)

namespace Generics

/-- The parameters as elements in angle brackets, each printed in a given
way. -/
def entries (print : GenericParam → List Token) (g : Generics) :
    List AngleEntry :=
  g.params.map fun (p, comma) ↦ ⟨p.isLifetime, print p, comma⟩

/-- A list of parameters in angle brackets, each printed in a given way.  An
empty list has no brackets either. -/
def tokensWith (print : GenericParam → List Token) (g : Generics) :
    List Token :=
  if g.params.isEmpty then [] else AngleEntry.bracketed (g.entries print)

def cons (p : GenericParam) (g : Generics) : Generics where
  params := (p, !g.params.isEmpty) :: g.params

end Generics

end AlignedStorage
