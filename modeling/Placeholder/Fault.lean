/-
What can go wrong, by cause, and the text that reports each cause.
-/
import Placeholder.Value
import Placeholder.Json.Basic
import Placeholder.Pattern.Reader

namespace Placeholder

/-- Why a text could not be turned into a value. -/
inductive Mismatch
  | missingDefault
  | integer (f : Integer.ReadFault)
  | double (f : Binary64.ReadFault)
  | decimal (f : Decimal.ReadFault)
  | notMoment
  | notDate
  | notTime
  | notBool
  | unknownType
  | emptyRange
  | tooLong (limit : Nat)
  deriving DecidableEq, Repr

def Integer.ReadFault.message : Integer.ReadFault → Text
  | empty => "cannot parse integer from empty string".toList
  | invalidDigit => "invalid digit found in string".toList
  | tooLarge => "number too large to fit in target type".toList
  | tooSmall => "number too small to fit in target type".toList

def Binary64.ReadFault.message : Binary64.ReadFault → Text
  | empty => "cannot parse float from empty string".toList
  | invalid => "invalid float literal".toList

def Mismatch.message : Mismatch → Text
  | missingDefault => "default value is missing".toList
  | integer f => f.message
  | double f => f.message
  | decimal f => f.message
  | notMoment => "not a recognised date and time".toList
  | notDate => "not a recognised date".toList
  | notTime => "not a recognised time of day".toList
  | notBool => "expected 'true' or 'false'".toList
  | unknownType => "unsupported type".toList
  | emptyRange => "range is empty".toList
  | tooLong limit => "length exceeds ".toList ++ Text.ofNat limit

inductive Fault
  | emptyExpression
  | emptyPattern
  | patternWithoutVar (source : Text)
  | valuesNotObject
  | notAssignment (text : Text)
  /-- Tags that survived a pass in strict mode. -/
  | unresolved (tokens : List Text)
  /-- A clause without a format and a default, or a generator tag with improper arguments. -/
  | malformedClause (clause : Text)
  | coercion (type value : Text) (why : Mismatch)
  | unsupportedFormat (kind : Value.Kind) (spec : Text)
  | unknownReserved (key : Text)
  /-- The text still had live tags after the allowed number of passes. -/
  | passLimit (limit : Nat)
  | pattern (f : Pattern.Fault)
  /-- A file could not be read or written. -/
  | io
  | json (f : Json.Fault)
  deriving DecidableEq, Repr

def Fault.message : Fault → Text
  | emptyExpression => "Invalid input: expression is empty".toList
  | emptyPattern => "Invalid input: tag pattern is empty".toList
  | patternWithoutVar source =>
    "Invalid input: tag pattern has no 'var' capture group: ".toList ++ source
  | valuesNotObject => "Invalid input: tag values must be a JSON object".toList
  | notAssignment text => "Invalid input: expected KEY=VALUE, got '".toList ++ text ++ "'".toList
  | unresolved tokens =>
    "Cannot find a key '".toList ++ Text.joinWith ", ".toList tokens ++
      "', so the expression is not resolved!".toList
  | malformedClause clause => "Malformed extended clause: ".toList ++ clause
  | coercion type value why =>
    "Cannot convert '".toList ++ value ++ "' to type [".toList ++ type ++ "]: ".toList ++ why.message
  | unsupportedFormat kind spec =>
    "Unsupported format '".toList ++ spec ++ "' for value of kind ".toList ++ kind.name
  | unknownReserved key => "Unknown reserved keyword: ".toList ++ key
  | passLimit limit =>
    "Expression did not converge after ".toList ++ Text.ofNat limit ++ " passes".toList
  | pattern f => "Regex error: ".toList ++ f.message
  | io => "IO error: the file cannot be read or written".toList
  | json f => "JSON error: ".toList ++ f.message

/-- A result or a fault. -/
abbrev Outcome := Except Fault

namespace Outcome

variable {α β : Type} {o : Outcome α} {f : Fault}

theorem bind_eq_ok {next : α → Outcome β} {b : β} : o >>= next = .ok b ↔ ∃ a, o = .ok a ∧ next a = .ok b := by
  cases o <;> simp [bind, Except.bind]

theorem map_eq_ok {g : α → β} {b : β} : o.map g = .ok b ↔ ∃ a, o = .ok a ∧ g a = b := by
  cases o <;> simp [Except.map]

end Outcome

end Placeholder
