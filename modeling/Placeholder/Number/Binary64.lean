/-
Binary floating-point numbers of 64 bits, as sign, significand and exponent.

The arithmetic is exact arithmetic on fractions followed by one rounding to the nearest number of
the format, where a tie goes to the even significand.
-/
import Placeholder.Number.Ratio

namespace Placeholder

namespace Binary64

/-- The significands and exponents of the format: 53 bits, all of them in use unless the exponent
is the least one. -/
def Canonical (m : Nat) (e : Int) : Prop :=
  m < 2 ^ 53 ∧ -1074 ≤ e ∧ e ≤ 971 ∧ (2 ^ 52 ≤ m ∨ e = -1074)

instance (m : Nat) (e : Int) : Decidable (Canonical m e) := by
  unfold Canonical
  infer_instance

end Binary64

/-- A finite number is `significand * 2 ^ exponent` with a sign. -/
inductive Binary64
  | nan
  | infinite (negative : Bool)
  | finite (negative : Bool) (significand : Nat) (exponent : Int)
      (canonical : Binary64.Canonical significand exponent)
  deriving DecidableEq

namespace Binary64

/-- The significand and the exponent nearest to a fraction in a format with `bits` binary digits
and the least exponent `least`. -/
def nearestParts (bits : Nat) (least : Int) (r : Ratio) : Nat × Int :=
  if r.num = 0 then (0, least)
  else
    let guess := (Nat.log2 r.num : Int) - (Nat.log2 r.den : Int) - ((bits : Int) - 1)
    let exact := if (r.timesPower 2 (-guess)).floor < 2 ^ (bits - 1) then guess - 1 else guess
    let e := max exact least
    let m := (r.timesPower 2 (-e)).halfEven
    if m = 2 ^ bits then (2 ^ (bits - 1), e + 1) else (m, e)

/-- The number with the given parts; beyond the range it is infinite. -/
def ofParts (negative : Bool) (m : Nat) (e : Int) : Binary64 :=
  if h : Canonical m e then .finite negative m e h else .infinite negative

/-- The number nearest to a fraction with a sign. -/
def nearest (negative : Bool) (r : Ratio) : Binary64 :=
  let (m, e) := nearestParts 53 (-1074) r
  ofParts negative m e

/-- The number of single precision (24 bits) nearest to a fraction. -/
def nearestSingle (negative : Bool) (r : Ratio) : Binary64 :=
  let (m, e) := nearestParts 24 (-149) r
  if e > 104 then .infinite negative else nearest negative ((Ratio.ofNat m).timesPower 2 e)

def zero (negative : Bool) : Binary64 := nearest negative ⟨0, 1⟩

def ofNat (n : Nat) : Binary64 := nearest false (.ofNat n)

/-- The magnitude of a finite number. -/
def ratio (m : Nat) (e : Int) : Ratio := (Ratio.ofNat m).timesPower 2 e

def isNegative : Binary64 → Bool
  | nan => false
  | infinite negative => negative
  | finite negative m _ _ => negative && m != 0

def isZero : Binary64 → Bool
  | finite _ m _ _ => m == 0
  | _ => false

def abs : Binary64 → Binary64
  | nan => nan
  | infinite _ => infinite false
  | finite _ m e h => finite false m e h

def neg : Binary64 → Binary64
  | nan => nan
  | infinite negative => infinite !negative
  | finite negative m e h => finite (!negative) m e h

/-- Equality of numbers: zeros of both signs are equal, and what is not a number equals nothing. -/
def same : Binary64 → Binary64 → Bool
  | nan, _ => false
  | _, nan => false
  | a, b => (a.isZero && b.isZero) || a == b

def mul : Binary64 → Binary64 → Binary64
  | nan, _ => nan
  | _, nan => nan
  | infinite s, infinite t => infinite (s != t)
  | infinite s, finite t m _ _ => if m = 0 then nan else infinite (s != t)
  | finite s m _ _, infinite t => if m = 0 then nan else infinite (s != t)
  | finite s m e _, finite t n f _ => nearest (s != t) (ratio (m * n) (e + f))

def div : Binary64 → Binary64 → Binary64
  | nan, _ => nan
  | _, nan => nan
  | infinite _, infinite _ => nan
  | infinite s, finite t _ _ _ => infinite (s != t)
  | finite s _ _ _, infinite t => zero (s != t)
  | finite s m e _, finite t n f _ =>
    if n = 0 then (if m = 0 then nan else infinite (s != t))
    else nearest (s != t) ((Ratio.mk m n).timesPower 2 (e - f))

/-- The sum of two numbers that are not negative. -/
def addMagnitudes : Binary64 → Binary64 → Binary64
  | finite _ m e _, finite _ n f _ =>
    let low := min e f
    nearest false (ratio (m * 2 ^ (e - low).toNat + n * 2 ^ (f - low).toNat) low)
  | nan, _ => nan
  | _, nan => nan
  | _, _ => infinite false

/-- The nearest whole number, a half away from zero. -/
def round : Binary64 → Binary64
  | finite negative m e h =>
    if 0 ≤ e then finite negative m e h else nearest negative (.ofNat (ratio m e).halfUp)
  | x => x

/-- The product of `result` and `base ^ n`, by repeated squaring. -/
def powerLoop (base : Binary64) (n : Nat) (result : Binary64) : Binary64 :=
  let result := if n % 2 = 1 then result.mul base else result
  if h : n / 2 = 0 then result else powerLoop (base.mul base) (n / 2) result
termination_by n
decreasing_by omega

/-- The power of ten, by repeated squaring; a negative power is the reciprocal of the positive one. -/
def powerOfTen (n : Int) : Binary64 :=
  let p := powerLoop (ofNat 10) n.natAbs (ofNat 1)
  if n < 0 then (ofNat 1).div p else p

/-- The 64 bits of the number. -/
def toBits : Binary64 → Nat
  | nan => 0x7ff8000000000000
  | infinite negative => (if negative then 2 ^ 63 else 0) + 0x7ff0000000000000
  | finite negative m e _ =>
    (if negative then 2 ^ 63 else 0) +
      (if m < 2 ^ 52 then m else (e + 1075).toNat * 2 ^ 52 + (m - 2 ^ 52))

end Binary64

end Placeholder
