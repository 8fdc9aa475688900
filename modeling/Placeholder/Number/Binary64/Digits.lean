/-
The decimal digits of binary floating-point numbers: the fewest that read back as the same number,
a given number of significant ones, or a given number of places.
-/
import Placeholder.Number.Binary64

namespace Placeholder.Binary64

/-- The whole number `digits` times a power of ten. -/
structure Decimals where
  digits : Nat
  exponent : Int
  deriving DecidableEq, Repr

/-- Moves the zeros at the end of the digits into the exponent. -/
def Decimals.trim : Nat → Decimals → Decimals
  | 0, d => d
  | fuel + 1, d =>
    if d.digits ≠ 0 ∧ d.digits % 10 = 0 then Decimals.trim fuel ⟨d.digits / 10, d.exponent + 1⟩ else d

/-- The exponent of the leading digit. -/
def Decimals.leading (d : Decimals) : Int := d.exponent + ((Text.ofNat d.digits).length : Int) - 1

/-- The reals that round to a number, as fractions over one denominator: the number itself, and
the ends of the interval, which belong to it if `closed`. -/
structure Interval where
  low : Nat
  value : Nat
  high : Nat
  den : Nat
  closed : Bool

/-- The interval of the number `m * 2 ^ e`. Below a power of two the neighbour is half as far. -/
def interval (m : Nat) (e : Int) : Interval :=
  let factor := 2 ^ (e - 2).toNat
  let below := if m = 2 ^ 52 ∧ -1074 < e then 1 else 2
  ⟨(4 * m - below) * factor, 4 * m * factor, (4 * m + 2) * factor, 2 ^ (2 - e).toNat, m % 2 == 0⟩

/-- Whether `d * 10 ^ k` lies in the interval. -/
def Interval.holds (i : Interval) (d : Nat) (k : Int) : Bool :=
  let x := (Ratio.ofNat d).timesPower 10 k
  let scaled := x.num * i.den
  if i.closed then i.low * x.den ≤ scaled && scaled ≤ i.high * x.den
  else i.low * x.den < scaled && scaled < i.high * x.den

/-- Tries the two neighbours of the value among the numbers with `n` significant digits; of two
that lie in the interval it takes the nearer one, and the upper one in a tie. -/
def Interval.onGrid (i : Interval) (leading : Int) (n : Nat) : Option Decimals :=
  let k := leading - n + 1
  let r := (Ratio.mk i.value i.den).timesPower 10 (-k)
  let down := r.floor
  let up := down + 1
  match i.holds down k, i.holds up k with
  | true, true => some ⟨if 2 * (r.num % r.den) < r.den then down else up, k⟩
  | true, false => some ⟨down, k⟩
  | false, true => some ⟨up, k⟩
  | false, false => none

/-- The first hit on the grids of `n`, `n + 1`, … digits. -/
def Interval.search (i : Interval) (leading : Int) : (fuel n : Nat) → Decimals
  | 0, n => ⟨(((Ratio.mk i.value i.den).timesPower 10 (n - leading - 1)).halfEven), leading - n + 1⟩
  | fuel + 1, n => match i.onGrid leading n with
    | some d => d
    | none => i.search leading fuel (n + 1)

/-- The fewest digits that read back as `m * 2 ^ e`, and among those the nearest to it. -/
def shortest (m : Nat) (e : Int) : Decimals :=
  if m = 0 then ⟨0, 0⟩
  else ((interval m e).search (ratio m e).leadingExponent 17 1).trim 20

/-- `n` significant digits of `m * 2 ^ e`, rounded to the nearest and in a tie to the even digit. -/
def significant (n : Nat) (m : Nat) (e : Int) : Decimals :=
  if m = 0 then ⟨0, 1 - n⟩
  else
    let k := (ratio m e).leadingExponent - n + 1
    let d := ((ratio m e).timesPower 10 (-k)).halfEven
    if d = 10 ^ n then ⟨d / 10, k + 1⟩ else ⟨d, k⟩

/-- Digits in positional notation. -/
def Decimals.positional (d : Decimals) : Text :=
  let digits := Text.ofNat d.digits
  if 0 ≤ d.exponent then
    if d.digits = 0 then digits else digits ++ List.replicate d.exponent.toNat '0'
  else
    let places := (-d.exponent).toNat
    let padded := Text.padLeft (places + 1) '0' digits
    padded.take (padded.length - places) ++ '.' :: padded.drop (padded.length - places)

/-- Puts a minus sign before a text. -/
def signed (negative : Bool) (t : Text) : Text := if negative then '-' :: t else t

/-- The shortest digits in positional notation, with the sign also of a zero. -/
def toText : Binary64 → Text
  | nan => "NaN".toList
  | infinite negative => signed negative "inf".toList
  | finite negative m e _ => signed negative (shortest m e).positional

/-- A decimal point behind the first digit, if there is a second one. -/
def pointed : Text → Text
  | [] => []
  | [c] => [c]
  | c :: rest => c :: '.' :: rest

/-- The integer digits and exactly `places` digits of the fraction, rounded half to even; what is
not finite is named instead. -/
def fixed (places : Nat) : Binary64 → Text × Text
  | nan => ("NaN".toList, [])
  | infinite _ => ("inf".toList, [])
  | finite _ m e _ =>
    Ratio.splitDigits places ((ratio m e).timesPower 10 places).halfEven

end Placeholder.Binary64
