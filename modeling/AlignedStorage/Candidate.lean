import AlignedStorage.Layout
import AlignedStorage.Text.Blank
import AlignedStorage.Text.Split

/-!
# Union candidates

A candidate of a union is written `SIZE:ALIGN`.  `parseCandidate` reads its
layout; `unionOf` reads up to ten candidates and unites them.
-/

namespace AlignedStorage

/-- Why a text is no candidate. -/
inductive CandidateError
  /-- The text has no colon. -/
  | noColon (text : String)
  | size (cause : NumeralError)
  | align (cause : NumeralError)
  | alignment (cause : AlignmentError)
  | layout (cause : LayoutError)
deriving DecidableEq, Repr

/-- The texts a candidate error is reported with, each the cause of the one
before. -/
def CandidateError.chain : CandidateError → List String
  | .noColon text => ["candidate `" ++ text ++ "` is not SIZE:ALIGN"]
  | .size cause => ["invalid candidate size", cause.message]
  | .align cause => ["invalid candidate alignment", cause.message]
  | .alignment cause => [cause.message]
  | .layout cause => [cause.message]

/-- The layout of a size and an alignment that storage can have. -/
def candidateLayout (size align : Nat) : Except CandidateError Layout :=
  match Alignment.ofNat align with
  | .error e => .error (.alignment e)
  | .ok a =>
      match Layout.ofSizeAlign size a.value with
      | .error e => .error (.layout e)
      | .ok l => .ok l

/-- The layout that a candidate text spells, without padding.  Both numbers
are read before either is judged. -/
def parseCandidate (text : String) : Except CandidateError Layout :=
  match splitFirst ':' text.toList with
  | none => .error (.noColon text)
  | some (sizeText, alignText) =>
      match readWord (trim sizeText) with
      | .error e => .error (.size e)
      | .ok size =>
          match readWord (trim alignText) with
          | .error e => .error (.align e)
          | .ok align => candidateLayout size align

def candidateLimit : Nat := 10

/-- Why there is no union of candidate texts. -/
inductive UnionError
  | tooMany (count : Nat)
  | candidate (cause : CandidateError)
  /-- The candidates are fine but nothing can hold all of them. -/
  | fault (cause : Fault)
deriving DecidableEq, Repr

/-- The layouts of candidate texts, or the error of the first that is
none. -/
def parseCandidates : List String → Except CandidateError (List Layout)
  | [] => .ok []
  | text :: rest =>
      match parseCandidate text with
      | .error e => .error e
      | .ok l =>
          match parseCandidates rest with
          | .error e => .error e
          | .ok ls => .ok (l :: ls)

/-- The layout of storage for any one of the candidates.  Their number is
checked before their texts. -/
def unionOf (texts : List String) : Except UnionError Layout :=
  if texts.length ≤ candidateLimit then
    match parseCandidates texts with
    | .error e => .error (.candidate e)
    | .ok ls =>
        match Layout.union ls with
        | .error e => .error (.fault e)
        | .ok l => .ok l
  else .error (.tooMany texts.length)

end AlignedStorage
