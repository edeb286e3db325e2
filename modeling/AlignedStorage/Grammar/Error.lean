import AlignedStorage.Numeral
import AlignedStorage.Token.Basic

/-!
# Errors of the grammar

Why a list of tokens does not follow the grammar, and how that is reported.
An error at the end of a group says that the input ended.
-/

namespace AlignedStorage

/-- What is wrong with the tokens at some place. -/
inductive SyntaxFault
  /-- None of the choices stands there. -/
  | expected (choices : List String)
  /-- A reserved word stands where a name has to. -/
  | keyword (word : String)
  /-- A group, or the whole input, has tokens left over. -/
  | leftover (group : Option Delimiter)
  | unfinishedStatement
  | nestedAttribute
  | whereParameters
  | capture
  /-- A bound cannot be constant here, with or without conditions. -/
  | constBound (conditional : Bool)
  | boundBinder
  | noTrait
  | noObjectTrait
  | secondReceiver
  | lateReceiver
  | attributedRange
  | comparisonChain
  /-- Something is applied to a cast without parentheses. -/
  | castFollower (what : String)
  | labeledValue
  | openRangeInSlice
  | negativeInherent
  /-- The number of a field is not in range. -/
  | fieldNumber (cause : NumeralError)
  /-- Things contain one another more often than the rules go. -/
  | tooDeep
deriving DecidableEq, Repr

/-- An error of the grammar, and whether it was found at the end of a
group. -/
structure SyntaxError where
  fault : SyntaxFault
  atEnd : Bool
deriving DecidableEq, Repr

def choicesText : List String → String
  | [] => "unexpected token"
  | [one] => "expected " ++ one
  | [one, two] => "expected " ++ one ++ " or " ++ two
  | many => "expected one of: " ++ String.intercalate ", " many

def leftoverText (group : Option Delimiter) : String :=
  match group.bind Delimiter.closing with
  | none => "unexpected token"
  | some c => "unexpected token, expected `" ++ c.toString ++ "`"

def SyntaxFault.text : SyntaxFault → String
  | .expected choices => choicesText choices
  | .keyword word => "expected identifier, found keyword `" ++ word ++ "`"
  | .leftover group => leftoverText group
  | .unfinishedStatement => "unexpected token, expected `;`"
  | .nestedAttribute => "unexpected attribute inside of attribute"
  | .whereParameters =>
      "generic parameters on `where` clauses are reserved for future use"
  | .capture =>
      "`use<...>` precise capturing syntax is not allowed here"
  | .constBound true => "`[const]` is not allowed here"
  | .constBound false => "`const` is not allowed here"
  | .boundBinder =>
      "`for<...>` binder not allowed with `?` trait polarity modifier"
  | .noTrait => "at least one trait must be specified"
  | .noObjectTrait => "at least one trait is required for an object type"
  | .secondReceiver => "unexpected second method receiver"
  | .lateReceiver => "unexpected method receiver"
  | .attributedRange =>
      "attributes are not allowed on range expressions starting with `..`"
  | .comparisonChain => "comparison operators cannot be chained"
  | .castFollower what => "casts cannot be followed by " ++ what
  | .labeledValue => "parentheses required"
  | .openRangeInSlice =>
      "range pattern is not allowed unparenthesized inside slice pattern"
  | .negativeInherent => "inherent impls cannot be negative"
  | .fieldNumber cause => cause.message
  | .tooDeep => "nesting is too deep"

def SyntaxError.message (e : SyntaxError) : String :=
  if !e.atEnd then e.fault.text
  else if e.fault = .expected [] then "unexpected end of input"
  else "unexpected end of input, " ++ e.fault.text

end AlignedStorage
