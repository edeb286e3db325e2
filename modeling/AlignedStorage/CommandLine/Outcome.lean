import AlignedStorage.CommandLine.Basic
import AlignedStorage.Report.Storage
import AlignedStorage.Report.TypeTable

/-!
# Outcomes

What a run of the program prints on both streams, and how it ends.  A
fault aborts the program and keeps what was printed before.  How arguments are
read, and how errors and faults are shown, is up to the `Frontend`.
-/

namespace AlignedStorage

/-- How a run of the program ends. -/
inductive ExitStatus
  | code (n : Nat)
  /-- A fault aborts the program. -/
  | aborted
deriving DecidableEq, Repr

/-- A run of the program: the texts on both streams, and its end. -/
structure Outcome where
  out : String
  err : String
  status : ExitStatus
deriving DecidableEq, Repr

/-- What the program is built on: how its arguments are read, and how errors
and faults are shown. -/
structure Frontend where
  /-- The request that arguments make, or the end of a run without one. -/
  read : List String → Except Outcome Request
  /-- The text of an error, from its own message and those of its causes. -/
  errorText : List String → String
  /-- What is shown for a fault with a message. -/
  faultText : String → String

/-- Lines as they are printed, each with its end. -/
def printedLines (lines : List String) : String :=
  String.join (lines.map (· ++ "\n"))

def Report.outcome (f : Frontend) (r : Report) : Outcome :=
  match r.ending with
  | .complete => ⟨printedLines r.lines, "", .code 0⟩
  | .error e =>
      ⟨printedLines r.lines, "Error: " ++ f.errorText e.chain ++ "\n", .code 1⟩
  | .fault x => ⟨printedLines r.lines, f.faultText x.message, .aborted⟩

def Request.outcome (f : Frontend) : Request → Outcome
  | .types => ⟨printedLines tableLines, "", .code 0⟩
  | .storage align size candidates =>
      (storageReport align size candidates).outcome f

def Frontend.run (f : Frontend) (args : List String) : Outcome :=
  match f.read args with
  | .ok request => request.outcome f
  | .error outcome => outcome

end AlignedStorage
