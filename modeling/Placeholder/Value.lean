/-
The values that a tag can stand for, and when two of them are equal.
-/
import Placeholder.Number.Decimal.Reader
import Placeholder.Number.Integer
import Placeholder.Number.Binary64.Reader
import Placeholder.Calendar.Reader

namespace Placeholder

/-- A value of the caller's own kind: a text, and a text for each specifier that it knows. Two such
values are one only if they have one identity. -/
structure Custom where
  identity : Nat
  text : Text
  format : Text → Option Text

/-- A whole number of 64 bits with sign. -/
abbrev Int64Value := { i : Int // Integer.least ≤ i ∧ i ≤ Integer.greatest }

inductive Value
  | integer (i : Int64Value)
  | double (x : Binary64)
  | decimal (d : Decimal)
  | moment (m : Moment)
  | date (d : Date)
  | time (t : TimeOfDay)
  | boolean (b : Bool)
  | string (s : Text)
  | custom (c : Custom)

namespace Value

inductive Kind
  | integer
  | double
  | decimal
  | moment
  | date
  | time
  | boolean
  | string
  | custom
  deriving DecidableEq, Repr

def Kind.name : Kind → Text
  | integer => "Integer".toList
  | double => "Double".toList
  | decimal => "Decimal".toList
  | moment => "DateTime".toList
  | date => "Date".toList
  | time => "Time".toList
  | boolean => "Boolean".toList
  | string => "String".toList
  | custom => "Opaque".toList

def kind : Value → Kind
  | integer _ => .integer
  | double _ => .double
  | decimal _ => .decimal
  | moment _ => .moment
  | date _ => .date
  | time _ => .time
  | boolean _ => .boolean
  | string _ => .string
  | custom _ => .custom

/-- The integer value of a number in range. -/
def ofInt? (i : Int) : Option Value :=
  if h : Integer.least ≤ i ∧ i ≤ Integer.greatest then some (integer ⟨i, h⟩) else none

/-- The integer value of a small count. -/
def ofNat (n : Nat) (h : n < 2 ^ 63 := by decide) : Value :=
  integer ⟨n, by simp only [Integer.least, Integer.greatest]; omega⟩

/-- Equality of values of one kind, with numbers compared as numbers. -/
def same : Value → Value → Bool
  | integer a, integer b => a.1 == b.1
  | double a, double b => a.same b
  | decimal a, decimal b => a.same b
  | moment a, moment b => a == b
  | date a, date b => a == b
  | time a, time b => a == b
  | boolean a, boolean b => a == b
  | string a, string b => a == b
  | custom a, custom b => a.identity == b.identity
  | _, _ => false

/-- Equality of entries, each of which may be null. -/
def sameEntry : Option Value → Option Value → Bool
  | none, none => true
  | some a, some b => a.same b
  | _, _ => false

end Value

/-- Reads `true` or `false` in letters of any case, with blanks around it. -/
def readBool? (t : Text) : Option Bool :=
  let word := Text.trim t
  if Text.sameUpToAsciiCase word "true".toList then some true
  else if Text.sameUpToAsciiCase word "false".toList then some false
  else none

end Placeholder
