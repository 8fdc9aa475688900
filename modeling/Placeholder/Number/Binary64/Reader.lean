/-
Reading binary floating-point numbers from text: an optional sign, and then digits with an optional
point and exponent, or one of the words `inf`, `infinity` and `nan` in letters of any case.
-/
import Placeholder.Number.Binary64

namespace Placeholder.Binary64

/-- Why a text is no number. -/
inductive ReadFault
  | empty
  | invalid
  deriving DecidableEq, Repr

/-- A number in decimal notation: `digits * 10 ^ exponent`. -/
structure Numeral where
  digits : Nat
  exponent : Int
  deriving DecidableEq, Repr

/-- An optional sign. -/
def takeSign : Text → Bool × Text
  | '-' :: t => (true, t)
  | '+' :: t => (false, t)
  | t => (false, t)

/-- The exponent behind the letter `e`, or zero if there is none. -/
def exponent? : Text → Option Int
  | [] => some 0
  | c :: t =>
    if c = 'e' || c = 'E' then
      let (negative, t) := takeSign t
      match Text.takeDigits t with
      | (_ :: _, []) =>
        let n : Int := Text.natOfDigits t
        some (if negative then -n else n)
      | _ => none
    else none

/-- Reads an unsigned numeral that makes up the whole text. -/
def numeral? (t : Text) : Option Numeral :=
  let (whole, rest) := Text.takeDigits t
  let (places, rest) := match rest with
    | '.' :: after => Text.takeDigits after
    | _ => ([], rest)
  if whole.isEmpty && places.isEmpty then none
  else (exponent? rest).map fun e =>
    ⟨Text.natOfDigits (whole ++ places), e - (places.length : Int)⟩

/-- The value of a numeral, rounded by `near`. A numeral far beyond the range of the format on
either side is settled by its length alone. -/
def Numeral.round (near : Ratio → Binary64) (zero infinite : Binary64) (n : Numeral) : Binary64 :=
  let leading := n.exponent + ((Text.ofNat n.digits).length : Int)
  if n.digits = 0 then zero
  else if leading > 400 then infinite
  else if leading < -400 then zero
  else near ((Ratio.ofNat n.digits).timesPower 10 n.exponent)

/-- Reads a text, with `near` to round a magnitude. -/
def readBy (near : Bool → Ratio → Binary64) (t : Text) : Except ReadFault Binary64 :=
  if t.isEmpty then .error .empty
  else
    let (negative, body) := takeSign t
    let word := Text.asciiLower body
    if word = "inf".toList || word = "infinity".toList then .ok (.infinite negative)
    else if word = "nan".toList then .ok .nan
    else match numeral? body with
      | some n => .ok (n.round (near negative) (zero negative) (.infinite negative))
      | none => .error .invalid

/-- Reads a text as the nearest number. -/
def read (t : Text) : Except ReadFault Binary64 := readBy nearest t

/-- Reads a text as the nearest number of single precision. -/
def readSingle (t : Text) : Except ReadFault Binary64 := readBy nearestSingle t

end Placeholder.Binary64
