/-
Numbers under standard specifiers: a letter and a precision.

`F`, `N`, `P` and `C` round to a number of places, a half away from zero; `E` and `G` round to a
number of significant digits; `D` and `X` write whole numbers with leading zeros; `G` without a
precision and `R` give the plain text.
-/
import Placeholder.Value

namespace Placeholder.Display

/-- A number to be shown: exact where it fits into a decimal number. -/
inductive Amount
  | decimal (d : Decimal)
  | binary (x : Binary64)

namespace Amount

/-- The greatest power of ten by which an amount is multiplied or divided in one step. -/
def greatestStep : Nat := 18

/-- A whole number; one of 64 bits always fits. -/
def ofInt (i : Int) : Amount :=
  match Decimal.ofInt? i with
  | some d => decimal d
  | none => binary (if i < 0 then (Binary64.ofNat i.natAbs).neg else .ofNat i.natAbs)

/-- The decimal number with the shortest text of a binary one, if it fits. -/
def ofBinary64 (x : Binary64) : Amount :=
  match Decimal.read x.toText with
  | .ok d => decimal d
  | .error _ => binary x

def isNegative : Amount → Bool
  | decimal d => d.isNegative
  | binary x => x.isNegative

def isZero : Amount → Bool
  | decimal d => d.isZero
  | binary x => x.isZero

def abs : Amount → Amount
  | decimal d => decimal d.abs
  | binary x => binary x.abs

def toBinary64 : Amount → Binary64
  | decimal d => d.toBinary64
  | binary x => x

/-- Multiplies or divides by `10 ^ power` in steps. -/
def scaleSteps (up : Bool) : (fuel power : Nat) → Decimal → Option Decimal
  | 0, _, d => some d
  | _, 0, d => some d
  | fuel + 1, power, d =>
    let step := min power greatestStep
    (if up then d.timesTen? step else d.overTen? step).bind (scaleSteps up fuel (power - step))

/-- The amount times `10 ^ power`; what gets too large goes on as a binary number. -/
def scale (power : Int) : Amount → Amount
  | decimal d => match scaleSteps (0 ≤ power) power.natAbs power.natAbs d with
    | some d => decimal d
    | none => binary (d.toBinary64.mul (Binary64.powerOfTen power))
  | binary x => if power = 0 then binary x else binary (x.mul (Binary64.powerOfTen power))

/-- The integer digits and exactly `places` digits of the fraction of the magnitude. -/
def fixed (places : Nat) : Amount → Text × Text
  | decimal d => d.fixed places
  | binary x =>
    let (whole, digits) := x.fixed places
    (whole, digits ++ List.replicate (places - digits.length) '0')

end Amount

/-- The number behind a numeric value. -/
inductive Numeral
  | integer (i : Int)
  | double (x : Binary64)
  | decimal (d : Decimal)

namespace Numeral

def amount : Numeral → Amount
  | integer i => .ofInt i
  | double x => .ofBinary64 x
  | decimal d => .decimal d

end Numeral

/-- The letter `E` in the case of the specifier, the sign of the exponent, and at least `width` digits
of it. -/
def exponentText (letter : Char) (width : Nat) (e : Int) : Text :=
  (if letter.isUpper then 'E' else 'e') :: (if e < 0 then '-' else '+') ::
    Text.padLeft width '0' (Text.ofNat e.natAbs)

/-- The names of the numbers that are not finite. -/
def nonFinite? : Binary64 → Option Text
  | .nan => some "NaN".toList
  | .infinite negative => some (if negative then "-Infinity".toList else "Infinity".toList)
  | .finite .. => none

/-- The shortest text that reads back, with an exponent from `1E+15` on and below `0.0001`. -/
def doubleText (x : Binary64) : Text :=
  match x with
  | .finite negative m e _ =>
    let d := Binary64.shortest m e
    let leading := if m = 0 then 0 else d.leading
    if -4 ≤ leading && leading < 15 then x.toText
    else Binary64.signed negative (Binary64.pointed (Text.ofNat d.digits) ++ exponentText 'E' 2 leading)
  | _ => (nonFinite? x).getD []

namespace Numeral

/-- The text of a number without a specifier. -/
def plainText : Numeral → Text
  | integer i => Text.ofInt i
  | double x => doubleText x
  | decimal d => d.toText

end Numeral

def hasNonzeroDigit (t : Text) : Bool := t.any fun c => Text.isAsciiDigit c && c != '0'

/-- A minus sign before a text that shows a digit other than zero. -/
def signedIfNonzero (negative : Bool) (body : Text) : Text :=
  if negative && hasNonzeroDigit body then '-' :: body else body

/-- Commas between groups of three digits, counted from the end. -/
def groupThousands : Text → Text
  | [] => []
  | c :: rest =>
    if rest.length % 3 = 0 && !rest.isEmpty then c :: ',' :: groupThousands rest
    else c :: groupThousands rest

/-- Integer digits and, if there are any, a point and the digits of the fraction. -/
def joinPoint (whole places : Text) : Text :=
  if places.isEmpty then whole else whole ++ '.' :: places

/-- The digits of a magnitude with `n` significant ones, and the exponent of the first. -/
def significantDigits (n : Nat) : Binary64 → Text × Int
  | .finite _ m e _ =>
    if m = 0 then (List.replicate n '0', 0)
    else
      let d := Binary64.significant n m e
      (Text.ofNat d.digits, d.leading)
  | x => (x.toText, 0)

/-- One digit, a point and `precision` digits more, and an exponent of three digits at least. -/
def exponential (x : Binary64) (precision : Nat) (letter : Char) : Text :=
  let (digits, e) := significantDigits (precision + 1) x
  Binary64.pointed digits ++ exponentText letter 3 e

def dropFractionZeros (t : Text) : Text :=
  if t.contains '.' then Text.dropTrailing '.' (Text.dropTrailing '0' t) else t

/-- `n` significant digits, with an exponent where it is below -4 or not below `n`. -/
def general (x : Binary64) (n : Nat) (letter : Char) : Text :=
  let (digits, e) := significantDigits n x
  if e < -4 || (n : Int) ≤ e then
    dropFractionZeros (Binary64.pointed digits) ++ exponentText letter 2 e
  else
    let rounded : Binary64.Numeral := ⟨Text.natOfDigits digits, e - ((digits.length : Int) - 1)⟩
    (rounded.round (Binary64.nearest false) (Binary64.zero false) (.infinite false)).toText

/-- Hexadecimal digits of a 64-bit word in two's complement. -/
def hexDigits (i : Int) : Text := Nat.toDigits 16 (i % 2 ^ 64).toNat

/-- The greatest precision of a standard specifier. -/
def greatestPrecision : Nat := 99

/-- The letter and the precision of a standard specifier. -/
def standardSpec? : Text → Option (Char × Option Nat)
  | [] => none
  | letter :: digits =>
    if !Text.isAsciiLetter letter then none
    else if digits.isEmpty then some (letter, none)
    else if digits.length ≤ 9 && digits.all Text.isAsciiDigit then
      some (letter, some (Text.natOfDigits digits))
    else none

/-- A number under a standard specifier; `none` if the letter does not apply to it. -/
def standard (number : Numeral) (letter : Char) (precision : Option Nat) : Option Text :=
  let amount := number.amount
  let negative := amount.isNegative
  let places := precision.getD 2
  if precision.any (greatestPrecision < ·) then none
  else match letter.toUpper with
    | 'D' => match number with
      | .integer i =>
        let digits := Text.padLeft (precision.getD 0) '0' (Text.ofNat i.natAbs)
        some (if i < 0 then '-' :: digits else digits)
      | _ => none
    | 'X' => match number with
      | .integer i =>
        let digits := Text.padLeft (precision.getD 0) '0' (hexDigits i)
        some (if letter.isUpper then Text.asciiUpper digits else digits)
      | _ => none
    | 'F' =>
      let (whole, digits) := amount.fixed places
      some (signedIfNonzero negative (joinPoint whole digits))
    | 'N' =>
      let (whole, digits) := amount.fixed places
      some (signedIfNonzero negative (joinPoint (groupThousands whole) digits))
    | 'P' =>
      let (whole, digits) := (amount.scale 2).fixed places
      some (signedIfNonzero negative (joinPoint (groupThousands whole) digits ++ [' ', '%']))
    | 'C' =>
      let (whole, digits) := amount.fixed places
      let body := '¤' :: joinPoint (groupThousands whole) digits
      some (if negative && hasNonzeroDigit body then '(' :: body ++ [')'] else body)
    | 'E' =>
      some (signedIfNonzero negative (exponential amount.toBinary64.abs (precision.getD 6) letter))
    | 'G' => match precision with
      | none | some 0 => some number.plainText
      | some n => some (signedIfNonzero negative (general amount.toBinary64.abs n letter))
    | 'R' => some number.plainText
    | _ => none

end Placeholder.Display
