import AlignedStorage.Numeral

/-!
# Requests

The program has two commands: `types` prints the type table, and `storage` a
storage report with options of its own.  A usage error is a reason why
arguments ask for neither.
-/

namespace AlignedStorage

/-- The options of a storage report. -/
inductive OptionName
  | align
  | size
  | candidate
deriving DecidableEq, Repr

namespace OptionName

def ofLetter? : Char → Option OptionName
  | 'a' => some .align
  | 's' => some .size
  | 'c' => some .candidate
  | _ => none

def long : OptionName → String
  | .align => "align"
  | .size => "size"
  | .candidate => "candidate"

def letter : OptionName → Char
  | .align => 'a'
  | .size => 's'
  | .candidate => 'c'

def ofLong? (cs : List Char) : Option OptionName :=
  [OptionName.align, .size, .candidate].find? fun o ↦ o.long.toList = cs

def usage : OptionName → String
  | .align => "--align <ALIGN>"
  | .size => "--size <SIZE>"
  | .candidate => "--candidate <CANDIDATE>"

end OptionName

/-- What the program is asked to do. -/
inductive Request
  | types
  | storage (align size : Nat) (candidates : List String)
deriving DecidableEq, Repr

/-- Why arguments make no request. -/
inductive UsageError
  /-- The program or one of its commands is to be explained instead. -/
  | help (text : String)
  /-- There is no command. -/
  | noCommand
  | unknownCommand (name : String)
  | unexpectedArgument (arg : String)
  | invalidValue (option : OptionName) (value : String)
      (cause : NumeralError)
  | repeated (option : OptionName)
  | missingValue (option : OptionName)
  /-- A value is attached to the request for an explanation. -/
  | unneededValue (value : String)
  | missingAlign
deriving DecidableEq, Repr

def programSummary : String :=
  "Inspect the alignment and size of types and aligned storage"

def storageSummary : String :=
  "Print the layout of aligned storage"

def typesSummary : String :=
  "Print alignment, size and threshold flags of built-in types"

def helpSummary : String :=
  "Print this message or the help of the given subcommand(s)"

def commandSummary? : String → Option String
  | "types" => some typesSummary
  | "storage" => some storageSummary
  | "help" => some helpSummary
  | _ => none

end AlignedStorage
