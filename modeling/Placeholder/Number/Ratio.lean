/-
Non-negative fractions and their rounding to whole numbers. Everything that is rounded in this
library is rounded here, on exact numerators and denominators.
-/
import Placeholder.Number.Instances
import Placeholder.Text

namespace Placeholder

/-- The fraction `num / den`. -/
structure Ratio where
  num : Nat
  den : Nat
  deriving DecidableEq, Repr

namespace Ratio

def ofNat (n : Nat) : Ratio := ⟨n, 1⟩

/-- The fraction times `base ^ power`. -/
def timesPower (r : Ratio) (base : Nat) (power : Int) : Ratio :=
  if 0 ≤ power then ⟨r.num * base ^ power.toNat, r.den⟩ else ⟨r.num, r.den * base ^ (-power).toNat⟩

def floor (r : Ratio) : Nat := r.num / r.den

/-- The nearest whole number; a half goes to the even neighbour. -/
def halfEven (r : Ratio) : Nat :=
  let rest := 2 * (r.num % r.den)
  if rest > r.den || (rest == r.den && r.floor % 2 == 1) then r.floor + 1 else r.floor

/-- The nearest whole number; a half goes up. -/
def halfUp (r : Ratio) : Nat := (2 * r.num + r.den) / (2 * r.den)

/-- The exponent of the leading decimal digit of a fraction that is not zero. -/
def leadingExponent (r : Ratio) : Int :=
  if r.den ≤ r.num then ((Text.ofNat r.floor).length : Int) - 1
  else
    let places := (Text.ofNat (r.den / r.num)).length
    if r.den = r.num * 10 ^ (places - 1) then -((places - 1 : Nat) : Int) else -(places : Int)

/-- The integer digits and the `places` digits of the fraction of `n / 10 ^ places`. -/
def splitDigits (places n : Nat) : Text × Text :=
  (Text.ofNat (n / 10 ^ places),
    if places = 0 then [] else Text.padLeft places '0' (Text.ofNat (n % 10 ^ places)))

end Ratio

end Placeholder
