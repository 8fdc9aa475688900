/-
Typed literals: a type name in parentheses and a text of that type. Without a type name the literal
is a string.
-/
import Placeholder.Fault

namespace Placeholder.Literal

/-- The type name and the text behind it, if the literal starts with a type name. -/
def splitType? (t : Text) : Option (Text × Text) := do
  let rest ← Text.afterHead? ['('] (Text.trimStart t)
  let (name, raw) ← Text.splitAtFirst? ')' rest
  let name := Text.trim name
  if name.isEmpty || !name.all Text.isAsciiLetter then none else some (name, raw)

/-- What a type name stands for. -/
inductive LiteralType
  | int
  | double
  | decimal
  | moment
  | date
  | time
  | bool
  | string
  deriving DecidableEq, Repr

/-- The types by their names in small letters. -/
def typeNames : List (Text × LiteralType) :=
  [("int".toList, .int), ("double".toList, .double), ("decimal".toList, .decimal),
   ("datetime".toList, .moment), ("dateonly".toList, .date), ("date".toList, .date),
   ("timeonly".toList, .time), ("time".toList, .time), ("bool".toList, .bool),
   ("string".toList, .string)]

/-- Reads a text of a type; the text has no blanks at its ends. -/
def LiteralType.read : LiteralType → Text → Except Mismatch Value
  | int, t => match Integer.readIn Integer.least Integer.greatest t with
    | .error f => .error (.integer f)
    | .ok i => match Value.ofInt? i with
      | some v => .ok v
      | none => .error (.integer .tooLarge)
  | double, t => match Binary64.read t with
    | .error f => .error (.double f)
    | .ok x => .ok (.double x)
  | decimal, t => match Decimal.read t with
    | .error f => .error (.decimal f)
    | .ok d => .ok (.decimal d)
  | moment, t => match Calendar.readMoment? t with
    | some m => .ok (.moment m)
    | none => .error .notMoment
  | date, t => match Calendar.readDate? t with
    | some d => .ok (.date d)
    | none => .error .notDate
  | time, t => match Calendar.readTime? t with
    | some t => .ok (.time t)
    | none => .error .notTime
  | bool, t => match readBool? t with
    | some b => .ok (.boolean b)
    | none => .error .notBool
  | string, t => .ok (.string t)

/-- Reads a literal. -/
def read (t : Text) : Outcome Value :=
  if t.isEmpty then .error (.coercion "default".toList t .missingDefault)
  else match splitType? t with
    | none => .ok (.string (Text.trim t))
    | some (name, raw) =>
      let raw := Text.trim raw
      match typeNames.lookup (Text.asciiLower name) with
      | none => .error (.coercion name raw .unknownType)
      | some type => match type.read raw with
        | .ok v => .ok v
        | .error why => .error (.coercion name raw why)

end Placeholder.Literal
