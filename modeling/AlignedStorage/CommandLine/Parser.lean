import AlignedStorage.CommandLine.Basic
import AlignedStorage.Text.Split

/-!
# Reading the command line

Options are short or long; the value of one is attached to it or follows as
the next argument.  An option whose value is still to come is settled when
the next option is met or the arguments end, so that an unknown argument in
between is reported first.
-/

namespace AlignedStorage

/-- The options settled so far, and the one last met with its value, if that
has come. -/
structure StorageOptions where
  align : Option Nat := none
  size : Option Nat := none
  candidates : List String := []
  pending : Option (OptionName × Option String) := none
deriving DecidableEq, Repr

namespace StorageOptions

def settleNumber (option : OptionName) (old : Option Nat) (value : String) :
    Except UsageError Nat :=
  if old.isSome then .error (.repeated option)
  else
    match readWord value.toList with
    | .ok n => .ok n
    | .error e => .error (.invalidValue option value e)

def settle (o : StorageOptions) (option : OptionName) (value : String) :
    Except UsageError StorageOptions :=
  match option with
  | .align => do
      return { o with align := ← settleNumber .align o.align value }
  | .size => do
      return { o with size := ← settleNumber .size o.size value }
  | .candidate =>
      .ok { o with candidates := o.candidates ++ [value] }

def settlePending (o : StorageOptions) : Except UsageError StorageOptions :=
  match o.pending with
  | none => .ok o
  | some (option, none) => .error (.missingValue option)
  | some (option, some value) =>
      { o with pending := none }.settle option value

/-- Meets an option, with the value attached to it if there is one. -/
def meet (o : StorageOptions) (option : OptionName)
    (attached : Option String) : Except UsageError StorageOptions := do
  let settled ← o.settlePending
  match attached with
  | some value => settled.settle option value
  | none => return { settled with pending := some (option, none) }

def awaitsValue (o : StorageOptions) : Bool :=
  match o.pending with
  | some (_, none) => true
  | _ => false

/-- Takes an argument as the value of the option last met. -/
def giveValue (o : StorageOptions) (value : String) : StorageOptions :=
  { o with pending := o.pending.map fun (option, _) ↦ (option, some value) }

/-- The request that the options make once all arguments are read. -/
def request (o : StorageOptions) : Except UsageError Request := do
  let settled ← o.settlePending
  match settled.align with
  | none => .error .missingAlign
  | some align =>
      return .storage align (settled.size.getD 0) settled.candidates

end StorageOptions

inductive ArgForm
  | escape
  /-- A double dash with a name, and perhaps an equals sign and a value. -/
  | long (name : List Char) (value : Option (List Char))
  /-- A single dash with a letter and what is attached to it. -/
  | short (letter : Char) (attached : List Char)
  | plain
deriving DecidableEq, Repr

/-- How an argument reads.  A single dash is a plain argument. -/
def ArgForm.of : List Char → ArgForm
  | ['-', '-'] => .escape
  | '-' :: '-' :: rest =>
      match splitFirst '=' rest with
      | some (name, value) => .long name (some value)
      | none => .long rest none
  | '-' :: letter :: attached => .short letter attached
  | _ => .plain

/-- The value attached to a short option; an equals sign in front of it does
not belong to it. -/
def attachedValue : List Char → Option String
  | [] => none
  | '=' :: value => some (String.ofList value)
  | value => some (String.ofList value)

def longArgument (name : List Char) : String :=
  "--" ++ String.ofList name

def shortArgument (letter : Char) : String :=
  "-" ++ letter.toString

def ArgForm.asksHelp : ArgForm → Bool
  | .long name none => name = "help".toList
  | .short letter _ => letter = 'h'
  | _ => false

/-- The error of a long argument that is no option.  A request for an
explanation takes no value. -/
def unknownLong (name : List Char) (value : Option (List Char)) :
    UsageError :=
  match value with
  | some value =>
      if name = "help".toList then .unneededValue (String.ofList value)
      else .unexpectedArgument (longArgument name)
  | none => .unexpectedArgument (longArgument name)

def readStorage (o : StorageOptions) :
    List String → Except UsageError Request
  | [] => o.request
  | arg :: rest =>
      let form := ArgForm.of arg.toList
      if form.asksHelp then do
        let _ ← o.settlePending
        throw (.help storageSummary)
      else
        match form with
        | .escape =>
            match rest with
            | [] => o.request
            | next :: _ => .error (.unexpectedArgument next)
        | .long name value =>
            match OptionName.ofLong? name with
            | none => .error (unknownLong name value)
            | some option =>
                match o.meet option (value.map String.ofList) with
                | .error e => .error e
                | .ok o => readStorage o rest
        | .short letter attached =>
            match OptionName.ofLetter? letter with
            | none => .error (.unexpectedArgument (shortArgument letter))
            | some option =>
                match o.meet option (attachedValue attached) with
                | .error e => .error e
                | .ok o => readStorage o rest
        | .plain =>
            if o.awaitsValue then readStorage (o.giveValue arg) rest
            else .error (.unexpectedArgument arg)

/-- Reads the arguments of the type table, which has none of its own. -/
def readTypes : List String → Except UsageError Request
  | [] => .ok .types
  | arg :: rest =>
      let form := ArgForm.of arg.toList
      if form.asksHelp then .error (.help typesSummary)
      else
        match form with
        | .escape =>
            match rest with
            | [] => .ok .types
            | next :: _ => .error (.unexpectedArgument next)
        | .long name value => .error (unknownLong name value)
        | .short letter _ =>
            .error (.unexpectedArgument (shortArgument letter))
        | .plain => .error (.unexpectedArgument arg)

/-- Reads what is left after a double dash in place of a command. -/
def readEscaped : List String → Except UsageError Request
  | [] => .error .noCommand
  | name :: _ =>
      if (commandSummary? name).isSome then
        .error (.unexpectedArgument name)
      else .error (.unknownCommand name)

/-- Reads the command to explain.  No command has commands of its own. -/
def readHelp : List String → Except UsageError Request
  | [] => .error (.help programSummary)
  | name :: rest =>
      match commandSummary? name, rest with
      | none, _ => .error (.unknownCommand name)
      | some summary, [] => .error (.help summary)
      | some _, inner :: _ => .error (.unknownCommand inner)

def Request.ofArgs : List String → Except UsageError Request
  | [] => .error .noCommand
  | "types" :: rest => readTypes rest
  | "storage" :: rest => readStorage {} rest
  | "help" :: rest => readHelp rest
  | arg :: rest =>
      let form := ArgForm.of arg.toList
      if form.asksHelp then .error (.help programSummary)
      else
        match form with
        | .escape => readEscaped rest
        | .long name value => .error (unknownLong name value)
        | .short letter _ =>
            .error (.unexpectedArgument (shortArgument letter))
        | .plain => .error (.unknownCommand arg)

end AlignedStorage
