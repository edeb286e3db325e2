import AlignedStorage.CommandLine.Outcome
import AlignedStorage.CommandLine.Parser
import AlignedStorage.Text.Terminal

/-!
# The plain frontend

Arguments are read by `Request.ofArgs`.  The causes of an error are listed
below it, and a fault is shown with its place.
-/

namespace AlignedStorage

/-- What is wrong with arguments that make no request.  They are quoted without
terminal controls. -/
def UsageError.text : UsageError → String
  | .help text => text
  | .noCommand => programSummary
  | .unknownCommand name =>
      "error: unrecognized subcommand '" ++ withoutControls name ++ "'"
  | .unexpectedArgument arg =>
      "error: unexpected argument '" ++ withoutControls arg ++ "' found"
  | .invalidValue option value cause =>
      "error: invalid value '" ++ withoutControls value ++ "' for '" ++
        option.usage ++ "': " ++ cause.message
  | .repeated option =>
      "error: the argument '" ++ option.usage ++
        "' cannot be used multiple times"
  | .missingValue option =>
      "error: a value is required for '" ++ option.usage ++
        "' but none was supplied"
  | .unneededValue value =>
      "error: unexpected value '" ++ withoutControls value ++
        "' for '--help' found; no more were expected"
  | .missingAlign =>
      "error: the following required arguments were not provided:\n  " ++
        OptionName.align.usage

/-- The end of a run without a request.  An explanation is no failure. -/
def UsageError.outcome : UsageError → Outcome
  | .help text => ⟨text ++ "\n", "", .code 0⟩
  | e => ⟨"", e.text ++ "\n", .code 2⟩

/-- The text of an error with its causes below it, one to a line. -/
def causesText : List String → String
  | [] => ""
  | [message] => message
  | message :: causes =>
      message ++ "\n\nCaused by:" ++
        String.join (causes.map ("\n    " ++ ·))

/-- A fault with the place where it was met and a note behind it. -/
def placedFault (place note message : String) : String :=
  "\nthread 'main' panicked at " ++ place ++ ":\n" ++ message ++ "\n" ++ note

/-- The frontend that shows faults with a given place and note. -/
def Frontend.plain (place note : String) : Frontend where
  read args :=
    match Request.ofArgs args with
    | .ok request => .ok request
    | .error e => .error e.outcome
  errorText := causesText
  faultText := placedFault place note

end AlignedStorage
