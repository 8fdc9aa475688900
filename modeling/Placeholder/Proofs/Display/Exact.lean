/-
Exact values. A whole number of 64 bits and a decimal number stand for one rational number each, and both are shown
as a decimal number; so what a numeric specifier has to do with them is told by the number alone (`shown_exact`).
-/
import Placeholder.Display.Basic
import Placeholder.Proofs.Number.Rounding

namespace Placeholder

namespace Decimal

/-- The number with its sign. -/
def value (d : Decimal) : ℚ := if d.negative then -d.magnitude else d.magnitude

theorem magnitude_nonneg (d : Decimal) : 0 ≤ d.magnitude := by
  rw [magnitude]
  positivity

theorem magnitude_eq_zero {d : Decimal} : d.magnitude = 0 ↔ d.coefficient = 0 := by
  rw [magnitude, div_eq_zero_iff, or_iff_left (by positivity), Nat.cast_eq_zero]

theorem abs_value (d : Decimal) : |d.value| = d.magnitude := by
  rw [value]
  split
  · rw [abs_neg, abs_of_nonneg d.magnitude_nonneg]
  · exact abs_of_nonneg d.magnitude_nonneg

theorem value_abs (d : Decimal) : d.abs.value = |d.value| := d.abs_value.symm

/-- A zero is not negative, whatever its sign. -/
theorem isNegative_iff {d : Decimal} : d.isNegative = true ↔ d.value < 0 := by
  rw [isNegative, Bool.and_eq_true, bne_iff_ne, ne_eq, ← magnitude_eq_zero, value]
  by_cases hsign : d.negative = true
  · rw [if_pos hsign, neg_lt_zero, and_iff_right hsign]
    exact ⟨fun hne => lt_of_le_of_ne d.magnitude_nonneg (Ne.symm hne), ne_of_gt⟩
  · rw [if_neg hsign]
    exact ⟨fun h => absurd h.1 hsign, fun h => absurd h (not_lt.2 d.magnitude_nonneg)⟩

theorem isZero_iff {d : Decimal} : d.isZero = true ↔ d.value = 0 := by
  rw [isZero, beq_iff_eq, ← magnitude_eq_zero, ← abs_value, abs_eq_zero]

/-- The digits of a number are those of its magnitude. -/
theorem fixed_congr {d d' : Decimal} (h : d.magnitude = d'.magnitude) (places : Nat) :
    d.fixed places = d'.fixed places := by
  have hunits : d.units (min places 28) = d'.units (min places 28) := by
    have hround := d.units_eq_round (min places 28)
    rw [h, ← units_eq_round] at hround
    exact_mod_cast hround
  rw [fixed, fixed, hunits]

end Decimal

namespace Value

open Display

/-- The number that a value stands for, if it is a whole or a decimal number. -/
def rational? : Value → Option ℚ
  | integer i => some i.1
  | decimal d => some d.value
  | _ => none

/-- An exact value is shown as the decimal number that it is. -/
theorem shown_exact {v : Value} {q : ℚ} (h : v.rational? = some q) : ∃ (n : Numeral) (d : Decimal),
    n.amount = .decimal d ∧ d.value = q ∧ ∀ spec, v.underSpec? spec =
      match standardSpec? spec with
      | some (letter, precision) => standard n letter precision
      | none => some (Display.custom (.decimal d) spec) := by
  cases v with
  | integer i =>
    obtain rfl : (i.1 : ℚ) = q := Option.some.inj h
    obtain ⟨d, hd, hnegative, hcoefficient, hscale⟩ := Amount.ofInt_eq i.2.1 i.2.2
    refine ⟨.integer i.1, d, hd, ?_, fun spec => ?_⟩
    · have habs : |d.value| = |(i.1 : ℚ)| := by
        rw [Decimal.abs_value, Decimal.magnitude, hcoefficient, hscale, pow_zero, div_one, Nat.cast_natAbs,
          Int.cast_abs]
      have hsign : d.value < 0 ↔ (i.1 : ℚ) < 0 := by
        rw [← Decimal.isNegative_iff, hnegative, decide_eq_true_eq, Int.cast_lt_zero]
      by_cases hneg : (i.1 : ℚ) < 0
      · rwa [abs_of_neg hneg, abs_of_neg (hsign.2 hneg), neg_inj] at habs
      · rwa [abs_of_nonneg (not_lt.1 hneg), abs_of_nonneg (not_lt.1 fun h => hneg (hsign.1 h))] at habs
    · rw [← hd]
      rfl
  | decimal d =>
    obtain rfl : d.value = q := Option.some.inj h
    exact ⟨.decimal d, d, rfl, rfl, fun spec => rfl⟩
  | _ => cases h

/-- The magnitude of an exact value is exact. The least whole number has its magnitude among the decimal numbers. -/
theorem rational?_abs {v : Value} {q : ℚ} (h : v.rational? = some q) : ∃ w : Value, w.rational? = some |q| := by
  obtain ⟨-, d, -, rfl, -⟩ := shown_exact h
  exact ⟨decimal d.abs, congrArg some d.value_abs⟩

end Value

end Placeholder
