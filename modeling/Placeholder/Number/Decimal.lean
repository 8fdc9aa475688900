/-
Decimal numbers with a coefficient of 96 bits and up to 28 places.

The number of places (`scale`) belongs to the number: `1.0` and `1.00` are equal as numbers and
differ in their texts.
-/
import Placeholder.Number.Binary64.Digits

namespace Placeholder

/-- The number `coefficient / 10 ^ scale` with a sign. -/
structure Decimal where
  negative : Bool
  coefficient : Nat
  scale : Nat
  fits : coefficient < 2 ^ 96 := by omega
  scale_le : scale ≤ 28 := by omega
  deriving DecidableEq

namespace Decimal

/-- The number with the given parts, if they fit. A zero has no sign. -/
def make? (negative : Bool) (coefficient scale : Nat) : Option Decimal :=
  if h : coefficient < 2 ^ 96 ∧ scale ≤ 28 then
    some ⟨negative && coefficient != 0, coefficient, scale, h.1, h.2⟩
  else none

def zero : Decimal := ⟨false, 0, 0, by omega, by omega⟩

/-- The whole number, if it fits. -/
def ofInt? (i : Int) : Option Decimal := make? (decide (i < 0)) i.natAbs 0

def isZero (d : Decimal) : Bool := d.coefficient == 0

def isNegative (d : Decimal) : Bool := d.negative && d.coefficient != 0

def abs (d : Decimal) : Decimal := { d with negative := false }

/-- The magnitude of the number. -/
def ratio (d : Decimal) : Ratio := ⟨d.coefficient, 10 ^ d.scale⟩

/-- Equality of the numbers, whatever their scales. -/
def same (a b : Decimal) : Bool :=
  (a.isZero && b.isZero) ||
    (a.negative == b.negative &&
      a.coefficient * 10 ^ b.scale == b.coefficient * 10 ^ a.scale)

/-- The number with all its places. -/
def toText (d : Decimal) : Text :=
  let (whole, places) := Ratio.splitDigits d.scale d.coefficient
  let body := if places.isEmpty then whole else whole ++ '.' :: places
  if d.negative then '-' :: body else body

/-- The magnitude rounded to `places` places, a half away from zero, in units of the last place. -/
def units (d : Decimal) (places : Nat) : Nat := (d.ratio.timesPower 10 places).halfUp

/-- The integer digits and exactly `places` digits of the fraction of the rounded magnitude. Past
the 28th place there are zeros only. -/
def fixed (d : Decimal) (places : Nat) : Text × Text :=
  let (whole, digits) := Ratio.splitDigits (min places 28) (d.units (min places 28))
  (whole, digits ++ List.replicate (places - digits.length) '0')

/-- The least number of places that must go so that a coefficient fits, and the coefficient
rounded to those that stay, in a tie to the even digit. -/
def fitted? (negative : Bool) (coefficient scale : Nat) : (fuel dropped : Nat) → Option Decimal
  | 0, _ => none
  | fuel + 1, dropped =>
    if scale < dropped then none
    else
      match make? negative (Ratio.mk coefficient (10 ^ dropped)).halfEven (scale - dropped) with
      | some d => some d
      | none => fitted? negative coefficient scale fuel (dropped + 1)

/-- The number times `10 ^ power`, unless it is too large. -/
def timesTen? (d : Decimal) (power : Nat) : Option Decimal :=
  if d.isZero then some zero
  else fitted? d.negative (d.coefficient * 10 ^ power) d.scale 30 0

/-- The number over `10 ^ power`, rounded to 28 places, in a tie to the even digit. -/
def overTen? (d : Decimal) (power : Nat) : Option Decimal :=
  let scale := d.scale + power
  if scale ≤ 28 then make? d.negative d.coefficient scale
  else make? d.negative (Ratio.mk d.coefficient (10 ^ (scale - 28))).halfEven 28

/-- A binary number near the magnitude: the sum of the whole part and the fraction, each of them
rounded, and then rounded to the places of the decimal number. -/
def magnitude64 (d : Decimal) : Binary64 :=
  let unit := 10 ^ d.scale
  let whole := Binary64.ofNat (d.coefficient / unit)
  if d.scale = 0 then whole
  else
    let fraction := (Binary64.ofNat (d.coefficient % unit)).div (Binary64.ofNat unit)
    if fraction.isZero then whole
    else
      let scaling := Binary64.powerOfTen d.scale
      (((whole.addMagnitudes fraction).mul scaling).round).div scaling

/-- A binary number near the number. -/
def toBinary64 (d : Decimal) : Binary64 :=
  if d.negative then d.magnitude64.neg else d.magnitude64

end Decimal

end Placeholder
