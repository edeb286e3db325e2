import AlignedStorage.Candidate

/-!
# Storage reports

A report states the layout of array storage of some alignment and size, and
that of a union of candidates if there are any.  What was printed before a
failure stays printed.
-/

namespace AlignedStorage

/-- Why a report ends early. -/
inductive ReportError
  | noStorage (align size : Nat) (cause : AlignmentError)
  | tooManyCandidates (count : Nat)
  | candidate (cause : CandidateError)
deriving DecidableEq, Repr

/-- The texts a report error is shown with, each the cause of the one
before. -/
def ReportError.chain : ReportError → List String
  | .noStorage align size cause =>
      [ "no storage for align=" ++ decimal align ++ " size=" ++ decimal size,
        cause.message ]
  | .tooManyCandidates count =>
      [ "at most " ++ decimal candidateLimit ++
          " union candidates are supported, got " ++ decimal count ]
  | .candidate cause => cause.chain

/-- How a report ends. -/
inductive ReportEnd
  | complete
  | error (e : ReportError)
  | fault (f : Fault)
deriving DecidableEq, Repr

/-- A report: the lines printed and how it ends. -/
structure Report where
  lines : List String
  ending : ReportEnd
deriving DecidableEq, Repr

def UnionError.reportEnd : UnionError → ReportEnd
  | .tooMany count => .error (.tooManyCandidates count)
  | .candidate cause => .error (.candidate cause)
  | .fault f => .fault f

def figures (l : Layout) : String :=
  "size=" ++ decimal l.size ++ " align=" ++ decimal l.align

def arrayLine (align size : Nat) (l : Layout) : String :=
  "AlignedCharArray<" ++ decimal align ++ ", " ++ decimal size ++ ">: " ++
    figures l

def unionLine (count : Nat) (l : Layout) : String :=
  "AlignedCharArrayUnion (" ++ decimal count ++ " candidates): " ++
    figures l

/-- The report on storage of an alignment and size and on a union of
candidates. -/
def storageReport (align size : Nat) (candidates : List String) : Report :=
  match storageLayout align size with
  | .error e => ⟨[], .error (.noStorage align size e)⟩
  | .ok l =>
      let first := arrayLine align size l
      if candidates.isEmpty then ⟨[first], .complete⟩
      else
        match unionOf candidates with
        | .error e => ⟨[first], e.reportEnd⟩
        | .ok u => ⟨[first, unionLine candidates.length u], .complete⟩

end AlignedStorage
