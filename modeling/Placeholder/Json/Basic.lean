/-
JSON values. The members of an object stand in the order of their names, and no name comes twice;
`insertMember` keeps it so.
-/
import Placeholder.Number.Binary64

namespace Placeholder

inductive Json
  | null
  | bool (b : Bool)
  /-- A whole number from the least number of 64 bits with sign to the greatest without. -/
  | integer (i : Int)
  | float (x : Binary64)
  | string (s : Text)
  | array (items : List Json)
  | object (members : List (Text × Json))

namespace Json

/-- Why a JSON text is refused. -/
inductive Fault
  | endOfText
  | unexpected
  | badNumber
  | numberOutOfRange
  | badString
  | badEscape
  | tooDeep
  | trailing
  deriving DecidableEq, Repr

def Fault.message : Fault → Text
  | endOfText => "the text ends too early".toList
  | unexpected => "a value or a delimiter is missing".toList
  | badNumber => "a number is not well formed".toList
  | numberOutOfRange => "a number is out of range".toList
  | badString => "a string is not well formed".toList
  | badEscape => "an escape sequence is not well formed".toList
  | tooDeep => "the values are nested too deep".toList
  | trailing => "there is text behind the value".toList

/-- Puts a member in its place; a member of the same name is replaced. -/
def insertMember (name : Text) (value : Json) : List (Text × Json) → List (Text × Json)
  | [] => [(name, value)]
  | (n, v) :: rest =>
    if n = name then (name, value) :: rest
    else if Text.before name n then (name, value) :: (n, v) :: rest
    else (n, v) :: insertMember name value rest

mutual

/-- Equality of JSON values, with floating-point numbers compared as numbers. -/
def same : Json → Json → Bool
  | null, null => true
  | bool a, bool b => a == b
  | integer a, integer b => a == b
  | float a, float b => a.same b
  | string a, string b => a == b
  | array a, array b => sameItems a b
  | object a, object b => sameMembers a b
  | _, _ => false

def sameItems : List Json → List Json → Bool
  | [], [] => true
  | a :: as, b :: bs => same a b && sameItems as bs
  | _, _ => false

def sameMembers : List (Text × Json) → List (Text × Json) → Bool
  | [], [] => true
  | (m, a) :: as, (n, b) :: bs => m == n && same a b && sameMembers as bs
  | _, _ => false

end

end Json

end Placeholder
