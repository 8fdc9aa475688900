/-
The binary number nearest to a fraction. The fraction is taken in units in which it has 53 binary digits, or in the
least unit if it is too small for that, and is rounded to a whole number of them (`nearestParts_eq`). So a number of the
format is its own nearest (`nearest_self`), and in the range of 53 digits what is lost is no more than the fraction over
`2 ^ 53` (`nearest_normal`).
-/
import Mathlib.Algebra.Order.Field.Power
import Mathlib.Data.Int.Log
import Mathlib.Tactic.Linarith
import Mathlib.Tactic.NormNum
import Placeholder.Proofs.Number.Rounding

namespace Placeholder

/-! ## Fractions -/

namespace Ratio

variable {r : Ratio}

theorem value_ofNat (n : Nat) : (ofNat n).value = n := by simp [value, ofNat]

theorem value_timesPower (r : Ratio) {base : Nat} (hbase : base ≠ 0) (power : Int) :
    (r.timesPower base power).value = r.value * (base : ℚ) ^ power := by
  have hcast : (base : ℚ) ≠ 0 := by exact_mod_cast hbase
  unfold timesPower value
  split
  next hpower =>
    obtain ⟨n, rfl⟩ := Int.eq_ofNat_of_zero_le hpower
    simp only [Int.toNat_natCast, zpow_natCast]
    push_cast
    ring
  next hpower =>
    obtain ⟨n, rfl⟩ : ∃ n : Nat, power = -n := ⟨(-power).toNat, by omega⟩
    simp only [neg_neg, Int.toNat_natCast, zpow_neg, zpow_natCast]
    push_cast
    rw [div_mul_eq_div_div, div_eq_mul_inv _ ((base : ℚ) ^ n)]

theorem den_timesPower_pos (h : 0 < r.den) {base : Nat} (hbase : 0 < base) (power : Int) :
    0 < (r.timesPower base power).den := by
  unfold timesPower
  split
  · exact h
  · exact Nat.mul_pos h (Nat.pow_pos hbase)

theorem value_pos (hnum : r.num ≠ 0) (hden : 0 < r.den) : 0 < r.value :=
  div_pos (by exact_mod_cast Nat.pos_of_ne_zero hnum) (by exact_mod_cast hden)

theorem floor_lt_iff (h : 0 < r.den) {n : Nat} : r.floor < n ↔ r.value < n := by
  have hden : (0 : ℚ) < r.den := by exact_mod_cast h
  rw [floor, value, Nat.div_lt_iff_lt_mul h, div_lt_iff₀ hden]
  exact_mod_cast Iff.rfl

/-- The nearest whole number is one of the two neighbours, and not the farther one. -/
theorem halfEven_cases (r : Ratio) : (r.halfEven = r.floor ∧ 2 * (r.num % r.den) ≤ r.den) ∨
    (r.halfEven = r.floor + 1 ∧ r.den ≤ 2 * (r.num % r.den)) := by
  unfold halfEven
  dsimp only
  split
  next h =>
    simp only [gt_iff_lt, Bool.or_eq_true, decide_eq_true_eq, Bool.and_eq_true, beq_iff_eq] at h
    exact .inr ⟨rfl, by omega⟩
  next h =>
    simp only [gt_iff_lt, Bool.or_eq_true, decide_eq_true_eq, Bool.and_eq_true, beq_iff_eq] at h
    exact .inl ⟨rfl, by omega⟩

theorem value_eq_floor_add (h : 0 < r.den) : r.value = r.floor + ((r.num % r.den : ℕ) : ℚ) / r.den := by
  have hden : (r.den : ℚ) ≠ 0 := by exact_mod_cast h.ne'
  have hsplit : (r.num : ℚ) = r.den * ((r.num / r.den : ℕ) : ℚ) + ((r.num % r.den : ℕ) : ℚ) := by
    exact_mod_cast (Nat.div_add_mod r.num r.den).symm
  rw [value, floor, hsplit]
  field_simp

theorem halfEven_dist (h : 0 < r.den) : |(r.halfEven : ℚ) - r.value| ≤ 1 / 2 := by
  have hden : (0 : ℚ) < r.den := by exact_mod_cast h
  have hmod : ((r.num % r.den : ℕ) : ℚ) ≤ r.den := by exact_mod_cast (Nat.mod_lt _ h).le
  rw [value_eq_floor_add h]
  rcases r.halfEven_cases with ⟨heq, hrest⟩ | ⟨heq, hrest⟩
  · have hhalf : ((r.num % r.den : ℕ) : ℚ) / r.den ≤ 1 / 2 := by
      rw [div_le_iff₀ hden]
      have : (2 * ((r.num % r.den : ℕ) : ℚ)) ≤ r.den := by exact_mod_cast hrest
      linarith
    have hpos : (0 : ℚ) ≤ ((r.num % r.den : ℕ) : ℚ) / r.den := by positivity
    rw [heq, abs_le]
    constructor <;> linarith
  · have hhalf : 1 / 2 ≤ ((r.num % r.den : ℕ) : ℚ) / r.den := by
      rw [le_div_iff₀ hden]
      have : (r.den : ℚ) ≤ 2 * ((r.num % r.den : ℕ) : ℚ) := by exact_mod_cast hrest
      linarith
    have hone : ((r.num % r.den : ℕ) : ℚ) / r.den ≤ 1 := (div_le_one hden).2 hmod
    rw [heq, abs_le]
    push_cast
    constructor <;> linarith

/-- Rounded in units, a number is off by half a unit at most. -/
theorem halfEven_near (h : 0 < r.den) {q unit : ℚ} (hunit : 0 < unit) (hq : r.value = q / unit) :
    |r.halfEven * unit - q| ≤ unit / 2 := by
  have hsplit : r.halfEven * unit - q = (r.halfEven - r.value) * unit := by
    rw [hq, sub_mul, div_mul_cancel₀ q hunit.ne']
  have hmul := mul_le_mul_of_nonneg_right (halfEven_dist h) hunit.le
  rw [hsplit, abs_mul, abs_of_pos hunit]
  linarith

theorem halfEven_le (h : 0 < r.den) {n : Nat} (hn : r.value ≤ n) : r.halfEven ≤ n := by
  have hdist := (abs_le.1 (halfEven_dist h)).2
  have hlt : (r.halfEven : ℚ) < n + 1 := by linarith
  exact Nat.lt_succ_iff.1 (by exact_mod_cast hlt)

theorem le_halfEven (h : 0 < r.den) {n : Nat} (hn : (n : ℚ) ≤ r.value) : n ≤ r.halfEven := by
  have hdist := (abs_le.1 (halfEven_dist h)).1
  have hlt : (n : ℚ) < r.halfEven + 1 := by linarith
  exact Nat.lt_succ_iff.1 (by exact_mod_cast hlt)

theorem halfEven_eq (h : 0 < r.den) {n : Nat} (hn : r.value = n) : r.halfEven = n :=
  le_antisymm (halfEven_le h hn.le) (le_halfEven h hn.ge)

theorem halfUp_le (h : 0 < r.den) {n : Nat} (hn : r.value ≤ n) : r.halfUp ≤ n := by
  have hden : (0 : ℚ) < r.den := by exact_mod_cast h
  rw [value, div_le_iff₀ hden] at hn
  have hnum : r.num ≤ n * r.den := by exact_mod_cast hn
  have hsplit : (n + 1) * (2 * r.den) = 2 * (n * r.den) + 2 * r.den := by ring
  rw [halfUp, ← Nat.lt_succ_iff, Nat.div_lt_iff_lt_mul (by omega), Nat.succ_eq_add_one, hsplit]
  omega

/-- Between the powers of two that its parts lie between. -/
theorem value_between (hnum : r.num ≠ 0) (hden : 0 < r.den) :
    (2 : ℚ) ^ ((r.num.log2 : ℤ) - r.den.log2 - 1) < r.value ∧
      r.value < (2 : ℚ) ^ ((r.num.log2 : ℤ) - r.den.log2 + 1) := by
  have hdenq : (0 : ℚ) < r.den := by exact_mod_cast hden
  have hnumlow : (2 : ℚ) ^ r.num.log2 ≤ r.num := by exact_mod_cast Nat.log2_self_le hnum
  have hnumhigh : (r.num : ℚ) < 2 ^ (r.num.log2 + 1) := by exact_mod_cast Nat.lt_log2_self
  have hdenlow : (2 : ℚ) ^ r.den.log2 ≤ r.den := by exact_mod_cast Nat.log2_self_le hden.ne'
  have hdenhigh : (r.den : ℚ) < 2 ^ (r.den.log2 + 1) := by exact_mod_cast Nat.lt_log2_self
  have hdown : (2 : ℚ) ^ ((r.num.log2 : ℤ) - r.den.log2 - 1) * 2 ^ (r.den.log2 + 1) = 2 ^ r.num.log2 := by
    rw [← zpow_natCast, ← zpow_natCast, ← zpow_add₀ two_ne_zero]
    congr 1
    push_cast
    ring
  have hup : (2 : ℚ) ^ ((r.num.log2 : ℤ) - r.den.log2 + 1) * 2 ^ r.den.log2 = 2 ^ (r.num.log2 + 1) := by
    rw [← zpow_natCast, ← zpow_natCast, ← zpow_add₀ two_ne_zero]
    congr 1
    push_cast
    ring
  rw [value, lt_div_iff₀ hdenq, div_lt_iff₀ hdenq]
  constructor
  · calc (2 : ℚ) ^ ((r.num.log2 : ℤ) - r.den.log2 - 1) * r.den
        < 2 ^ ((r.num.log2 : ℤ) - r.den.log2 - 1) * 2 ^ (r.den.log2 + 1) := by gcongr
      _ ≤ r.num := hdown.trans_le hnumlow
  · calc (r.num : ℚ) < 2 ^ (r.num.log2 + 1) := hnumhigh
      _ = 2 ^ ((r.num.log2 : ℤ) - r.den.log2 + 1) * 2 ^ r.den.log2 := hup.symm
      _ ≤ 2 ^ ((r.num.log2 : ℤ) - r.den.log2 + 1) * r.den := by gcongr

end Ratio

/-! ## Binary numbers -/

namespace Binary64

theorem two_zpow_pos (z : ℤ) : (0 : ℚ) < 2 ^ z := zpow_pos (by norm_num) z

theorem two_zpow_add (a b : ℤ) : (2 : ℚ) ^ (a + b) = 2 ^ a * 2 ^ b := zpow_add₀ two_ne_zero a b

/-- The exponent of the unit in which a fraction is rounded: it has 53 binary digits there, or fewer in the least
unit. -/
structure IsUnit (r : Ratio) (e : ℤ) : Prop where
  least_le : -1074 ≤ e
  low : (2 : ℚ) ^ (e + 52) ≤ r.value ∨ e = -1074
  high : r.value < (2 : ℚ) ^ (e + 53)

theorem IsUnit.unique {r : Ratio} {e e' : ℤ} (h : IsUnit r e) (h' : IsUnit r e') : e = e' := by
  have hle : ∀ {a b : ℤ}, IsUnit r a → IsUnit r b → a ≤ b := by
    intro a b ha hb
    rcases ha.low with hlow | hleast
    · have hpow := (zpow_lt_zpow_iff_right₀ (by norm_num : (1 : ℚ) < 2)).1 (hlow.trans_lt hb.high)
      omega
    · have hb' := hb.least_le
      omega
  exact le_antisymm (hle h h') (hle h' h)

/-- The significand is rounded in the unit of the fraction; one that is carried to 54 digits is halved. -/
theorem nearestParts_eq {r : Ratio} (hnum : r.num ≠ 0) (hden : 0 < r.den) : ∃ e, IsUnit r e ∧
    nearestParts 53 (-1074) r =
      if (r.timesPower 2 (-e)).halfEven = 2 ^ 53 then (2 ^ 52, e + 1) else ((r.timesPower 2 (-e)).halfEven, e) := by
  obtain ⟨hlow, hhigh⟩ := r.value_between hnum hden
  let guess : ℤ := (r.num.log2 : ℤ) - (r.den.log2 : ℤ) - 52
  let exact : ℤ := if (r.timesPower 2 (-guess)).floor < 2 ^ 52 then guess - 1 else guess
  have hfloor : (r.timesPower 2 (-guess)).floor < 2 ^ 52 ↔ r.value < (2 : ℚ) ^ (guess + 52) := by
    rw [Ratio.floor_lt_iff (Ratio.den_timesPower_pos hden (by decide) _), Ratio.value_timesPower r (by decide),
      two_zpow_add, zpow_neg]
    push_cast
    rw [mul_inv_lt_iff₀ (two_zpow_pos _), mul_comm]
  have hexact : (2 : ℚ) ^ (exact + 52) ≤ r.value ∧ r.value < (2 : ℚ) ^ (exact + 53) := by
    by_cases h : (r.timesPower 2 (-guess)).floor < 2 ^ 52
    · have hguess : exact = guess - 1 := if_pos h
      rw [hguess]
      have hlow' : guess - 1 + 52 = (r.num.log2 : ℤ) - r.den.log2 - 1 := by omega
      have hhigh' : guess - 1 + 53 = guess + 52 := by omega
      rw [hlow', hhigh']
      exact ⟨hlow.le, hfloor.1 h⟩
    · have hguess : exact = guess := if_neg h
      rw [hguess]
      have hhigh' : guess + 53 = (r.num.log2 : ℤ) - r.den.log2 + 1 := by omega
      rw [hhigh']
      exact ⟨not_lt.1 fun hlt => h (hfloor.2 hlt), hhigh⟩
  refine ⟨max exact (-1074), ⟨le_max_right _ _, ?_, ?_⟩, ?_⟩
  · rcases le_total exact (-1074) with hle | hle
    · exact .inr (max_eq_right hle)
    · rw [max_eq_left hle]
      exact .inl hexact.1
  · refine hexact.2.trans_le ((zpow_le_zpow_iff_right₀ (by norm_num : (1 : ℚ) < 2)).2 ?_)
    have := le_max_left exact (-1074)
    omega
  · rw [nearestParts, if_neg hnum]
    rfl

theorem value_in_units (r : Ratio) (e : ℤ) : (r.timesPower 2 (-e)).value = r.value / 2 ^ e := by
  rw [Ratio.value_timesPower r (by decide), zpow_neg, div_eq_mul_inv]
  rfl

section

variable {r : Ratio} (hnum : r.num ≠ 0) (hden : 0 < r.den)
include hnum hden

theorem nearest_eq {e : ℤ} (hunit : IsUnit r e) (negative : Bool) : nearest negative r =
    if (r.timesPower 2 (-e)).halfEven = 2 ^ 53 then ofParts negative (2 ^ 52) (e + 1)
    else ofParts negative (r.timesPower 2 (-e)).halfEven e := by
  obtain ⟨e', hunit', hparts⟩ := nearestParts_eq hnum hden
  obtain rfl := hunit'.unique hunit
  unfold nearest
  rw [hparts]
  by_cases hcarry : (r.timesPower 2 (-e')).halfEven = 2 ^ 53
  · rw [if_pos hcarry, if_pos hcarry]
  · rw [if_neg hcarry, if_neg hcarry]

/-- The nearest number is the fraction rounded to a whole number of units. -/
theorem nearest_finite {e : ℤ} (hunit : IsUnit r e) (he : e ≤ 970) (negative : Bool) :
    ∃ m e' h, nearest negative r = .finite negative m e' h ∧
      (m : ℚ) * 2 ^ e' = ((r.timesPower 2 (-e)).halfEven : ℚ) * 2 ^ e := by
  have hpos : 0 < (r.timesPower 2 (-e)).den := Ratio.den_timesPower_pos hden (by decide) (-e)
  have hleast := hunit.least_le
  have hle : (r.timesPower 2 (-e)).halfEven ≤ 2 ^ 53 := by
    refine Ratio.halfEven_le hpos ?_
    rw [value_in_units, div_le_iff₀ (two_zpow_pos e)]
    have hhigh := hunit.high
    rw [add_comm, two_zpow_add] at hhigh
    exact_mod_cast hhigh.le
  have hge : 2 ^ 52 ≤ (r.timesPower 2 (-e)).halfEven ∨ e = -1074 := by
    refine hunit.low.imp_left fun hlow => Ratio.le_halfEven hpos ?_
    rw [value_in_units, le_div_iff₀ (two_zpow_pos e)]
    rw [add_comm, two_zpow_add] at hlow
    exact_mod_cast hlow
  rw [nearest_eq hnum hden hunit]
  split
  next heq =>
    have hcanonical : Canonical (2 ^ 52) (e + 1) := ⟨by decide, by omega, by omega, .inl (le_refl _)⟩
    refine ⟨2 ^ 52, e + 1, hcanonical, dif_pos hcanonical, ?_⟩
    rw [heq, two_zpow_add]
    push_cast
    ring
  next hne =>
    have hcanonical : Canonical (r.timesPower 2 (-e)).halfEven e := ⟨by omega, hleast, by omega, hge⟩
    exact ⟨_, e, hcanonical, dif_pos hcanonical, rfl⟩

/-- A number of the format is its own nearest. -/
theorem nearest_self {m : ℕ} {e : ℤ} (h : Canonical m e) (hvalue : r.value = m * 2 ^ e) (negative : Bool) :
    nearest negative r = .finite negative m e h := by
  have hunit : IsUnit r e := by
    refine ⟨h.2.1, h.2.2.2.imp_left fun hm => ?_, ?_⟩
    · rw [hvalue, add_comm, two_zpow_add]
      have hmq : (2 : ℚ) ^ (52 : ℤ) ≤ m := by exact_mod_cast hm
      gcongr
    · rw [hvalue, add_comm, two_zpow_add]
      have hmq : (m : ℚ) < 2 ^ (53 : ℤ) := by exact_mod_cast h.1
      gcongr
  have heven : (r.timesPower 2 (-e)).halfEven = m := by
    refine Ratio.halfEven_eq (Ratio.den_timesPower_pos hden (by decide) _) ?_
    rw [value_in_units, hvalue, mul_div_cancel_right₀ _ (two_zpow_pos e).ne']
  rw [nearest_eq hnum hden hunit, heven, if_neg h.1.ne]
  exact dif_pos h

/-- In the range of 53 digits the nearest number is as near as half a unit. -/
theorem nearest_normal (hlow : (2 : ℚ) ^ (-1022 : ℤ) ≤ r.value) (hhigh : r.value < 2 ^ (1022 : ℤ)) (negative : Bool) :
    ∃ m e h, nearest negative r = .finite negative m e h ∧ |(m : ℚ) * 2 ^ e - r.value| ≤ r.value / 2 ^ 53 := by
  obtain ⟨e, hunit, -⟩ := nearestParts_eq hnum hden
  have hlow' : (2 : ℚ) ^ (e + 52) ≤ r.value := by
    rcases hunit.low with h | h
    · exact h
    · rw [h]
      exact hlow
  have he : e + 52 < 1022 := (zpow_lt_zpow_iff_right₀ (by norm_num : (1 : ℚ) < 2)).1 (hlow'.trans_lt hhigh)
  obtain ⟨m, e', h, hnearest, hvalue⟩ := nearest_finite hnum hden hunit (by omega) negative
  refine ⟨m, e', h, hnearest, ?_⟩
  have hpos : 0 < (r.timesPower 2 (-e)).den := Ratio.den_timesPower_pos hden (by decide) (-e)
  rw [hvalue]
  calc |((r.timesPower 2 (-e)).halfEven : ℚ) * 2 ^ e - r.value| ≤ 2 ^ e / 2 :=
        Ratio.halfEven_near hpos (two_zpow_pos e) (value_in_units r e)
    _ = 2 ^ (e + 52) / 2 ^ 53 := by
      rw [two_zpow_add]
      norm_num
      ring
    _ ≤ r.value / 2 ^ 53 := by gcongr

end

end Binary64

end Placeholder
