/-
What decimal numbers denote. A power of ten goes into the coefficient or into the scale, and as long as both fit,
nothing is lost (`scale_decimal`). Digits are cut from a number that is rounded first, once and to all the places
that are asked for, with a half away from zero (`fixed_value`); a number has no more than 28 places, so past them
there is nothing left to round.
-/
import Mathlib.Algebra.Order.Round
import Mathlib.Data.Rat.Floor
import Placeholder.Display.Numeral
import Placeholder.Proofs.Digits

namespace Placeholder

/-! ## Fractions -/

namespace Ratio

def value (r : Ratio) : ℚ := r.num / r.den

theorem halfUp_eq_round {r : Ratio} (h : 0 < r.den) : (r.halfUp : ℤ) = round r.value := by
  have hden : (r.den : ℚ) ≠ 0 := by exact_mod_cast h.ne'
  have hhalf : r.value + 1 / 2 = ((2 * r.num + r.den : ℕ) : ℚ) / ((2 * r.den : ℕ) : ℚ) := by
    rw [value]
    push_cast
    field_simp
  rw [round_eq, hhalf, Rat.floor_natCast_div_natCast, halfUp]
  rfl

/-- A number of units is split into the whole and the digits of the fraction. -/
theorem splitDigits_value (places n : Nat) :
    (splitDigits places n).1 = Text.ofNat (n / 10 ^ places) ∧ (splitDigits places n).2.length = places ∧
      Text.IsDigits (splitDigits places n).2 ∧
      ((n / 10 ^ places : ℕ) : ℚ) + Text.fractionOfDigits (splitDigits places n).2 = n / 10 ^ places := by
  rw [splitDigits]
  by_cases hplaces : places = 0
  · subst hplaces
    simp [Text.isDigits_nil, Text.fractionOfDigits, Text.natOfDigits]
  · simp only [hplaces, if_false, true_and]
    have hpow : 0 < 10 ^ places := Nat.pow_pos (by decide)
    have hlen : (Text.ofNat (n % 10 ^ places)).length ≤ places :=
      (Nat.length_toDigits_le_iff (by decide) (Nat.pos_of_ne_zero hplaces)).2 (Nat.mod_lt n hpow)
    have hpadded : (Text.padLeft places '0' (Text.ofNat (n % 10 ^ places))).length = places := by
      rw [Text.length_padLeft]
      omega
    refine ⟨hpadded, Text.isDigits_padLeft (Text.isDigits_ofNat _) _, ?_⟩
    have hsplit : (n : ℚ) = 10 ^ places * ((n / 10 ^ places : ℕ) : ℚ) + ((n % 10 ^ places : ℕ) : ℚ) := by
      exact_mod_cast (Nat.div_add_mod n (10 ^ places)).symm
    have hne : (10 : ℚ) ^ places ≠ 0 := by positivity
    rw [Text.fractionOfDigits, hpadded, Text.natOfDigits_padLeft, Text.natOfDigits_ofNat, hsplit]
    field_simp

end Ratio

/-! ## Decimal numbers -/

namespace Decimal

/-- The number without its sign. -/
def magnitude (d : Decimal) : ℚ := d.coefficient / 10 ^ d.scale

theorem units_eq_round (d : Decimal) (places : Nat) : (d.units places : ℤ) = round (d.magnitude * 10 ^ places) := by
  have hden : 0 < (d.ratio.timesPower 10 places).den := by
    simp only [ratio, Ratio.timesPower, Int.natCast_nonneg, if_true]
    exact Nat.pow_pos (by decide)
  have hvalue : (d.ratio.timesPower 10 places).value = d.magnitude * 10 ^ places := by
    simp only [ratio, Ratio.timesPower, Int.natCast_nonneg, if_true, Int.toNat_natCast, Ratio.value, magnitude]
    push_cast
    ring
  rw [units, Ratio.halfUp_eq_round hden, hvalue]

theorem round_of_scale_le {d : Decimal} {places : Nat} (h : d.scale ≤ places) :
    (round (d.magnitude * 10 ^ places) : ℚ) / 10 ^ places = d.magnitude := by
  have hscale : (10 : ℚ) ^ d.scale ≠ 0 := by positivity
  have hplaces : (10 : ℚ) ^ places ≠ 0 := by positivity
  have hwhole : d.magnitude * 10 ^ places = ((d.coefficient * 10 ^ (places - d.scale) : ℕ) : ℚ) := by
    have hpow : (10 : ℚ) ^ places = 10 ^ d.scale * 10 ^ (places - d.scale) := by
      rw [← pow_add, Nat.add_sub_cancel' h]
    rw [magnitude, hpow]
    push_cast
    field_simp
  have hround : (round (d.magnitude * 10 ^ places) : ℚ) = d.magnitude * 10 ^ places := by
    rw [hwhole, round_natCast]
    norm_cast
  rw [hround]
  field_simp

/-- **The digits of a decimal number** are those of the number rounded to all the places asked for. -/
theorem fixed_value (d : Decimal) (places : Nat) :
    ∃ whole : Nat, (d.fixed places).1 = Text.ofNat whole ∧ (d.fixed places).2.length = places ∧
      Text.IsDigits (d.fixed places).2 ∧
      (whole : ℚ) + Text.fractionOfDigits (d.fixed places).2 = round (d.magnitude * 10 ^ places) / 10 ^ places := by
  obtain ⟨hwhole, hlength, hdigits, hvalue⟩ := Ratio.splitDigits_value (min places 28) (d.units (min places 28))
  have hunits : (d.units (min places 28) : ℚ) = round (d.magnitude * 10 ^ min places 28) := by
    exact_mod_cast units_eq_round d (min places 28)
  refine ⟨_, hwhole, ?_, Text.isDigits_append.2 ⟨hdigits, Text.isDigits_replicate_zero _⟩, ?_⟩
  · simp only [fixed, List.length_append, List.length_replicate, hlength]
    omega
  · simp only [fixed]
    rw [Text.fractionOfDigits_append_zeros, hvalue, hunits]
    rcases Nat.le_total places 28 with hle | hge
    · rw [Nat.min_eq_left hle]
    · rw [Nat.min_eq_right hge, round_of_scale_le d.scale_le, round_of_scale_le (d.scale_le.trans hge)]

/-! ## Powers of ten -/

theorem timesTen?_exact {d : Decimal} {power : Nat} (h : d.coefficient * 10 ^ power < 2 ^ 96) :
    ∃ d', d.timesTen? power = some d' ∧ d'.coefficient = d.coefficient * 10 ^ power ∧
      d'.magnitude = d.magnitude * 10 ^ power := by
  rw [timesTen?]
  by_cases hzero : d.coefficient = 0
  · have hisZero : d.isZero = true := by simp [isZero, hzero]
    refine ⟨zero, if_pos hisZero, ?_, ?_⟩
    · simp [zero, hzero]
    · simp [magnitude, zero, hzero]
  · have hisZero : ¬ d.isZero = true := by simp [isZero, hzero]
    rw [if_neg hisZero, fitted?, if_neg (Nat.not_lt_zero _)]
    have heven : (Ratio.mk (d.coefficient * 10 ^ power) (10 ^ 0)).halfEven = d.coefficient * 10 ^ power := by
      simp [Ratio.halfEven, Ratio.floor, Nat.mod_one]
    rw [heven, Nat.sub_zero, make?, dif_pos ⟨h, d.scale_le⟩]
    refine ⟨_, rfl, rfl, ?_⟩
    simp only [magnitude]
    push_cast
    ring

theorem overTen?_exact {d : Decimal} {power : Nat} (h : d.scale + power ≤ 28) :
    ∃ d', d.overTen? power = some d' ∧ d'.scale = d.scale + power ∧ d'.magnitude = d.magnitude / 10 ^ power := by
  rw [overTen?]
  simp only [h, if_true]
  rw [make?, dif_pos ⟨d.fits, h⟩]
  refine ⟨_, rfl, rfl, ?_⟩
  simp only [magnitude]
  rw [pow_add, div_div]

end Decimal

namespace Display.Amount

/-- A whole number of 64 bits is shown as a decimal number without places. -/
theorem ofInt_eq {i : Int} (hlow : Integer.least ≤ i) (hhigh : i ≤ Integer.greatest) :
    ∃ d, ofInt i = decimal d ∧ d.isNegative = decide (i < 0) ∧ d.coefficient = i.natAbs ∧ d.scale = 0 := by
  unfold Integer.least at hlow
  unfold Integer.greatest at hhigh
  have hfits : i.natAbs < 2 ^ 96 ∧ 0 ≤ 28 := by omega
  rw [ofInt, Decimal.ofInt?, Decimal.make?, dif_pos hfits]
  refine ⟨_, rfl, ?_, rfl, rfl⟩
  by_cases hneg : i < 0
  · have hne : i.natAbs ≠ 0 := by omega
    simp [Decimal.isNegative, hneg, hne]
  · simp [Decimal.isNegative, hneg]

/-- The first step of a power of ten, and what is left of it. -/
theorem exists_step (power : Nat) : ∃ step rest, min (power + 1) greatestStep = step ∧ power + 1 - step = rest ∧
    power + 1 = step + rest ∧ rest ≤ power := by
  have hpos : 0 < min (power + 1) greatestStep := Nat.lt_min.2 ⟨Nat.succ_pos _, by decide⟩
  have hle : min (power + 1) greatestStep ≤ power + 1 := Nat.min_le_left ..
  exact ⟨_, _, rfl, rfl, (Nat.add_sub_cancel' hle).symm, by omega⟩

theorem scaleSteps_up {fuel power : Nat} {d : Decimal} (hfuel : power ≤ fuel)
    (h : d.coefficient * 10 ^ power < 2 ^ 96) :
    ∃ d', scaleSteps true fuel power d = some d' ∧ d'.magnitude = d.magnitude * 10 ^ power := by
  induction fuel generalizing power d with
  | zero =>
    obtain rfl : power = 0 := Nat.le_zero.1 hfuel
    exact ⟨d, rfl, by simp⟩
  | succ fuel ih =>
    cases power with
    | zero => exact ⟨d, rfl, by simp⟩
    | succ power =>
      obtain ⟨step, rest, hstep, hrest, hsum, hle⟩ := exists_step power
      rw [hsum, Nat.pow_add, ← Nat.mul_assoc] at h
      have hfirst : d.coefficient * 10 ^ step < 2 ^ 96 :=
        lt_of_le_of_lt (Nat.le_mul_of_pos_right _ (Nat.pow_pos (by decide))) h
      obtain ⟨d₁, hd₁, hcoefficient, hmagnitude₁⟩ := Decimal.timesTen?_exact hfirst
      rw [← hcoefficient] at h
      obtain ⟨d₂, hd₂, hmagnitude₂⟩ := ih (hle.trans (Nat.le_of_succ_le_succ hfuel)) h
      refine ⟨d₂, ?_, ?_⟩
      · rw [scaleSteps]
        · simp only [hstep, hrest, if_true, hd₁, Option.bind_some, hd₂]
        · exact Nat.succ_ne_zero power
      · rw [hmagnitude₂, hmagnitude₁, hsum, pow_add, mul_assoc]

theorem scaleSteps_down {fuel power : Nat} {d : Decimal} (hfuel : power ≤ fuel) (h : d.scale + power ≤ 28) :
    ∃ d', scaleSteps false fuel power d = some d' ∧ d'.magnitude = d.magnitude / 10 ^ power := by
  induction fuel generalizing power d with
  | zero =>
    obtain rfl : power = 0 := Nat.le_zero.1 hfuel
    exact ⟨d, rfl, by simp⟩
  | succ fuel ih =>
    cases power with
    | zero => exact ⟨d, rfl, by simp⟩
    | succ power =>
      obtain ⟨step, rest, hstep, hrest, hsum, hle⟩ := exists_step power
      have hfirst : d.scale + step ≤ 28 := by omega
      obtain ⟨d₁, hd₁, hscale, hmagnitude₁⟩ := Decimal.overTen?_exact hfirst
      have hsecond : d₁.scale + rest ≤ 28 := by omega
      obtain ⟨d₂, hd₂, hmagnitude₂⟩ := ih (hle.trans (Nat.le_of_succ_le_succ hfuel)) hsecond
      refine ⟨d₂, ?_, ?_⟩
      · rw [scaleSteps]
        · simp only [hstep, hrest, Bool.false_eq_true, if_false, hd₁, Option.bind_some, hd₂]
        · exact Nat.succ_ne_zero power
      · rw [hmagnitude₂, hmagnitude₁, hsum, pow_add, div_div]

/-- **A power of ten is exact** as long as the coefficient and the scale fit. -/
theorem scale_decimal {d : Decimal} {power : Int} (hup : d.coefficient * 10 ^ power.toNat < 2 ^ 96)
    (hdown : d.scale + (-power).toNat ≤ 28) :
    ∃ d', (decimal d).scale power = decimal d' ∧ d'.magnitude = d.magnitude * (10 : ℚ) ^ power := by
  rw [scale]
  by_cases hpower : 0 ≤ power
  · obtain ⟨n, rfl⟩ := Int.eq_ofNat_of_zero_le hpower
    obtain ⟨d', hsteps, hmagnitude⟩ := scaleSteps_up (Nat.le_refl n) hup
    refine ⟨d', ?_, ?_⟩
    · simp only [hpower, decide_true, Int.natAbs_natCast, hsteps]
    · rw [hmagnitude, zpow_natCast]
  · obtain ⟨n, rfl⟩ : ∃ n : Nat, power = -n := ⟨(-power).toNat, by omega⟩
    rw [neg_neg, Int.toNat_natCast] at hdown
    obtain ⟨d', hsteps, hmagnitude⟩ := scaleSteps_down (Nat.le_refl n) hdown
    refine ⟨d', ?_, ?_⟩
    · simp only [hpower, decide_false, Int.natAbs_neg, Int.natAbs_natCast, hsteps]
    · rw [hmagnitude, zpow_neg, zpow_natCast, div_eq_mul_inv]

theorem isNegative_ofInt (i : Int64Value) : (ofInt i.1).isNegative = decide (i.1 < 0) := by
  obtain ⟨d, hd, hnegative, -, -⟩ := ofInt_eq i.2.1 i.2.2
  rw [hd]
  exact hnegative

/-- A whole number of 64 bits is below `2 ^ 63`, so up to nine places more and up to 27 places less are exact. -/
theorem scale_ofInt (i : Int64Value) {power : Int} (hlow : -27 ≤ power) (hhigh : power ≤ 9) :
    ∃ d, (ofInt i.1).abs.scale power = decimal d ∧ d.magnitude = |(i.1 : ℚ) * 10 ^ power| := by
  obtain ⟨d, hd, -, hcoefficient, hscale⟩ := ofInt_eq i.2.1 i.2.2
  have hup : d.abs.coefficient * 10 ^ power.toNat < 2 ^ 96 := by
    have hbound : i.1.natAbs ≤ 2 ^ 63 := by
      have hleast := i.2.1
      have hgreatest := i.2.2
      unfold Integer.least at hleast
      unfold Integer.greatest at hgreatest
      omega
    have hpow : 10 ^ power.toNat ≤ 10 ^ 9 := Nat.pow_le_pow_right (by decide) (by omega)
    calc d.abs.coefficient * 10 ^ power.toNat ≤ 2 ^ 63 * 10 ^ 9 :=
          Nat.mul_le_mul (hcoefficient.trans_le hbound) hpow
      _ < 2 ^ 96 := by decide
  have hdown : d.abs.scale + (-power).toNat ≤ 28 := by
    have hzero : d.abs.scale = 0 := hscale
    omega
  obtain ⟨d', hd', hmagnitude⟩ := scale_decimal hup hdown
  refine ⟨d', by rw [hd]; exact hd', ?_⟩
  have habs : d.abs.magnitude = |(i.1 : ℚ)| := by
    have hwhole : d.abs.magnitude = d.coefficient / 10 ^ d.scale := rfl
    rw [hwhole, hcoefficient, hscale, pow_zero, div_one, Nat.cast_natAbs, Int.cast_abs]
  have hpow : (0 : ℚ) ≤ 10 ^ power := zpow_nonneg (by positivity) power
  rw [hmagnitude, habs, abs_mul, abs_of_nonneg hpow]

end Display.Amount

end Placeholder
