/-
Generated numbers and strings. Where the chance comes from is left to the caller: a supply holds
the numbers that are drawn one after another.
-/
import Placeholder.Digest
import Placeholder.Display.Basic

namespace Placeholder.Generator

/-- The numbers to be drawn, by position. -/
abbrev Supply := Nat → Nat

/-- A supply that hangs on a seed alone: each number is the digest of the seed and its position. -/
def Supply.ofSeed (seed : List UInt8) : Supply := fun n =>
  (Digest.sha256 (seed ++ Digest.lengthBytes n)).foldl (fun m b => 256 * m + b.toNat) 0

def numberKey : Text := "randomnumber".toList

def stringKey : Text := "randomstring".toList

/-- The greatest length of a generated string. -/
def greatestLength : Nat := 65536

/-- The characters of generated strings. -/
def alphabet : Text := "ABCDEFGHIJKLMNOPQRSTUVWXYZabcdefghijklmnopqrstuvwxyz0123456789".toList

/-- The character that a draw picks. -/
def pickChar (draw : Nat) : Char := (alphabet[draw % alphabet.length]?).getD 'A'

/-- The number that a draw picks from `low` up to but without `high`. -/
def pickNumber (low high : Int) (draw : Nat) : Int := low + (draw : Int) % (high - low)

/-- A string of `length` letters and digits, with the draws from position `drawn` on. -/
def string (supply : Supply) (drawn length : Nat) : Text :=
  (List.range length).map fun i => pickChar (supply (drawn + i))

/-- The bounds in order; a missing one is zero. -/
def bounds (min : Int) (max : Option Int) : Int × Int :=
  let other := max.getD 0
  if other < min then (other, min) else (min, other)

/-- The text of a number between the bounds, with the draw at position `drawn`. -/
def number (supply : Supply) (drawn : Nat) (min : Int) (max : Option Int) (format : Text) :
    Outcome Text :=
  let (low, high) := bounds min max
  if low = high then
    let range := '[' :: Text.ofInt min ++ ',' :: Text.ofInt (max.getD 0) ++ [']']
    .error (.coercion numberKey range .emptyRange)
  else match Value.ofInt? (pickNumber low high (supply drawn)) with
    | some v => v.format format
    | none => .error (.coercion numberKey [] .emptyRange)

/-- Reads the length of a string. -/
def readLength (t : Text) : Outcome Nat :=
  match Integer.readSize t with
  | .error f => .error (.coercion stringKey t (.integer f))
  | .ok n => if greatestLength < n then .error (.coercion stringKey t (.tooLong greatestLength)) else .ok n

/-- Reads a bound of a number. -/
def readBound (t : Text) : Outcome Int :=
  match Integer.read t with
  | .error f => .error (.coercion numberKey t (.integer f))
  | .ok i => .ok i

end Placeholder.Generator
