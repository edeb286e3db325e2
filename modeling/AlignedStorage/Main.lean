import AlignedStorage.CommandLine.Plain

/-!
# The program

Runs the command line on the arguments and prints its outcome.
-/

open AlignedStorage

/-- Prints the outcome of the arguments.  An aborted run ends with the code
of the abort signal. -/
def main (args : List String) : IO UInt32 := do
  let outcome := (Frontend.plain "a report" "").run args
  IO.print outcome.out
  IO.eprint outcome.err
  match outcome.status with
  | .code n => return UInt32.ofNat n
  | .aborted => return 134
