/-
Reading whole numbers of a bounded range from text: an optional sign and ASCII digits.
-/
import Placeholder.Number.Ratio

namespace Placeholder.Integer

/-- Why a text is no number of the range. -/
inductive ReadFault
  | empty
  | invalidDigit
  | tooLarge
  | tooSmall
  deriving DecidableEq, Repr

/-- The least and the greatest number of 64 bits with sign. -/
def least : Int := -(2 ^ 63)

def greatest : Int := 2 ^ 63 - 1

/-- The greatest size of 64 bits without sign. -/
def greatestSize : Int := 2 ^ 64 - 1

/-- Reads the digits behind `value`; the first digit that is none, or that takes the value past
`bound`, is the fault. -/
def readDigits (bound : Nat) (fault : ReadFault) : (value : Nat) → Text → Except ReadFault Nat
  | value, [] => .ok value
  | value, c :: t =>
    if !Text.isAsciiDigit c then .error .invalidDigit
    else
      let next := 10 * value + Text.digitValue c
      if bound < next then .error fault else readDigits bound fault next t

/-- Reads one digit or more. -/
def readSome (bound : Nat) (fault : ReadFault) (digits : Text) : Except ReadFault Nat :=
  if digits.isEmpty then .error .invalidDigit else readDigits bound fault 0 digits

/-- Reads a number between `low` and `high`; a minus sign is a digit out of place if `low` is
not negative. -/
def readIn (low high : Int) : Text → Except ReadFault Int
  | [] => .error .empty
  | '+' :: digits => (readSome high.toNat .tooLarge digits).map fun n => (n : Int)
  | '-' :: digits =>
    if low < 0 then (readSome (-low).toNat .tooSmall digits).map fun n => -(n : Int)
    else .error .invalidDigit
  | digits => (readSome high.toNat .tooLarge digits).map fun n => (n : Int)

/-- Reads a number of 64 bits with sign. -/
def read (t : Text) : Except ReadFault Int := readIn least greatest t

/-- Reads a size. -/
def readSize (t : Text) : Except ReadFault Nat := (readIn 0 greatestSize t).map Int.toNat

end Placeholder.Integer
