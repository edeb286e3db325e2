import AlignedStorage.Grammar.Error
import AlignedStorage.Grammar.Sign

/-!
# Readers

A reader takes tokens from the front of a list, or finds an error.  What it
returns is mostly tokens again, in the form in which they are printed.  The
content of a group is read by itself; the first group that has tokens left
over is remembered, and reported once all has been read.

Readers that go on as long as something stands in front are bounded by the
number of tokens left, for each round takes at least one.
-/

namespace AlignedStorage

structure Place where
  /-- The tokens left in the group that is read. -/
  rest : List Token
  /-- The first group that had tokens left over. -/
  leftover : Option Delimiter

abbrev Reader := StateT Place (Except SyntaxError)

namespace Reader

def ahead : Reader (List Token) := do
  return (← get).rest

/-- An error whether or not tokens are left. -/
def fail {α : Type} (fault : SyntaxFault) : Reader α :=
  throw ⟨fault, false⟩

/-- An error at the next token, or at the end if there is none. -/
def failHere {α : Type} (fault : SyntaxFault) : Reader α := do
  throw ⟨fault, (← ahead).isEmpty⟩

def expected {α : Type} (what : String) : Reader α :=
  failHere (.expected [what])

/-- The error that none of some signs stands here.  One that does, but was
turned down for what follows it, is not named. -/
def expectedSigns {α : Type} (signs : List Sign) : Reader α := do
  let tokens ← ahead
  failHere (.expected ((signs.filter (!·.heads tokens)).map Sign.label))

def atEnd : Reader Bool := do
  return (← ahead).isEmpty

def take (n : Nat) : Reader (List Token) := do
  let place ← get
  set { place with rest := place.rest.drop n }
  return place.rest.take n

def word (w : String) : Reader (List Token) := do
  if startsWord w (← ahead) then take 1
  else expectedSigns [.word w]

def word? (w : String) : Reader (List Token) := do
  if startsWord w (← ahead) then take 1 else return []

/-- Takes punctuation.  Its absence is not reported as an end. -/
def mark (m : String) : Reader (List Token) := do
  if starts m (← ahead) then take m.length
  else fail (.expected [(Sign.mark m).label])

def mark? (m : String) : Reader (List Token) := do
  if starts m (← ahead) then take m.length else return []

def name : Reader (List Token) := do
  match ← ahead with
  | .leaf (.word w) :: _ =>
      if keywords.contains w then failHere (.keyword w) else take 1
  | _ => expectedSigns [.name]

def anyWord : Reader (List Token) := do
  if startsAnyWord (← ahead) then take 1 else expected "ident"

def lifetime : Reader (List Token) := do
  if startsLifetime (← ahead) then take 1
  else expectedSigns [.lifetime]

def lifetime? : Reader (List Token) := do
  if startsLifetime (← ahead) then take 1 else return []

def literal : Reader (List Token) := do
  match literalExtent (← ahead) with
  | 0 => expectedSigns [.literal]
  | n => take n

def text? : Reader (List Token) := do
  if Sign.text.heads (← ahead) then take 1 else return []

/-- Reads the content of a group and what stands behind the group.  Tokens
that are left over in the group are remembered once both have been read,
unless others have been before. -/
def insideUntil {α β : Type} (d : Delimiter) (content : Reader α)
    (behind : Reader β) : Reader (α × β) := do
  let place ← get
  match place.rest with
  | .group e inner :: rest =>
      if d = e then do
        set { place with rest := inner }
        let a ← content
        let after ← get
        set { after with rest }
        let b ← behind
        let last ← get
        let own := if after.rest.isEmpty then none else some d
        set { last with leftover := last.leftover <|> own }
        return (a, b)
      else expectedSigns [.group d]
  | _ => expectedSigns [.group d]

def inside {α : Type} (d : Delimiter) (content : Reader α) : Reader α := do
  return (← insideUntil d content (pure ())).1

def group (d : Delimiter) (content : Reader (List Token)) :
    Reader (List Token) := do
  return [.group d (← inside d content)]

/-- Reads a group and what stands behind it to the tokens they are printed
with. -/
def groupUntil (d : Delimiter) (content behind : Reader (List Token)) :
    Reader (List Token) := do
  let (inner, rest) ← insideUntil d content behind
  return .group d inner :: rest

def all : Reader (List Token) := do
  take (← ahead).length

/-- Takes a group of any kind as it is, and tells whether it is in braces. -/
def anyGroup : Reader (List Token × Bool) := do
  match ← ahead with
  | .group .invisible _ :: _ => expected "delimiter"
  | .group d _ :: _ => return (← take 1, d = .brace)
  | _ => expected "delimiter"

def parts : List (Reader (List Token)) → Reader (List Token)
  | [] => return []
  | part :: rest => do
      let first ← part
      return first ++ (← parts rest)

def when (signs : List Sign) (part : Reader (List Token)) :
    Reader (List Token) := do
  if startsAny signs (← ahead) then part else return []

/-- What a reader would return here, without going on. -/
def peeking {α : Type} (r : Reader α) : Reader (Option α) := fun place ↦
  match r place with
  | .ok (a, _) => .ok (some a, place)
  | .error _ => .ok (none, place)

def attempt {α : Type} (r : Reader α) : Reader (Option α) := fun place ↦
  match r place with
  | .ok (a, after) => .ok (some a, after)
  | .error _ => .ok (none, place)

/-- The tokens from an earlier place on, as they are written, up to here. -/
def since (start : List Token) : Reader (List Token) := do
  return start.take (start.length - (← ahead).length)

def asWritten {α : Type} (r : Reader α) : Reader (List Token) := do
  let start ← ahead
  let _ ← r
  since start

/-- Repeats a step, at most a number of times, while it asks for it. -/
def repeatFrom {α : Type} (step : α → Reader (α × Bool)) :
    Nat → α → Reader α
  | 0, a => return a
  | n + 1, a => do
      let (b, again) ← step a
      if again then repeatFrom step n b else return b

def repeating {α : Type} (a : α) (step : α → Reader (α × Bool)) :
    Reader α := do
  repeatFrom step ((← ahead).length + 1) a

/-- Reads something again and again as long as the tokens allow it. -/
def many (more : List Token → Bool) (part : Reader (List Token)) :
    Reader (List Token) :=
  repeating [] fun tokens ↦ do
    if more (← ahead) then return (tokens ++ (← part), true)
    else return (tokens, false)

/-- Reads parts up to where the tokens stop it, with a separator between each
two; one can stand behind the last as well.  Each part comes with whether a
separator follows it. -/
def separated {α : Type} (separator : String)
    (stop : List Token → Bool) (part : Reader α) :
    Reader (List (α × Bool)) := do
  let found ← repeating [] fun done ↦ do
    if stop (← ahead) then return (done, false)
    let a ← part
    if stop (← ahead) then return ((a, false) :: done, false)
    let _ ← mark separator
    return ((a, true) :: done, true)
  return found.reverse

/-- Reads parts as long as a separator follows and the tokens do not stop
it. -/
def joined {α : Type} (separator : String)
    (stop : List Token → Bool) (part : Reader α) :
    Reader (List (α × Bool)) := do
  let found ← repeating [] fun done ↦ do
    if stop (← ahead) then return (done, false)
    let a ← part
    if starts separator (← ahead) then
      let _ ← mark separator
      return ((a, true) :: done, true)
    else return ((a, false) :: done, false)
  return found.reverse

end Reader

/-- The tokens of parts with a separator of one character behind those that
have it. -/
def separatedTokens (separator : Char) (parts : List (List Token × Bool)) :
    List Token :=
  parts.flatMap fun (tokens, more) ↦
    tokens ++ if more then [Token.punct separator] else []

def Reader.commas (part : Reader (List Token)) : Reader (List Token) := do
  return separatedTokens ',' (← separated "," List.isEmpty part)

end AlignedStorage
