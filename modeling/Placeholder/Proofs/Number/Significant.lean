/-
Significant digits. A number is rounded to `n` of them in the unit of its `n`-th digit, and its exponent grows by one
where the digits are carried over: from half a unit below the next power of ten on (`exponent_eq`). So the exponent
follows the number (`exponent_mono`). The digits of a binary number are as near to it as half a unit, and their exponent
is that of the rounded number (`significantDigits_spec`); a number that has no more digits is shown as it is
(`significant_exact`).
-/
import Placeholder.Proofs.Number.Nearest

namespace Placeholder

/-! ## Powers of ten -/

theorem ten_zpow_pos (z : ℤ) : (0 : ℚ) < 10 ^ z := zpow_pos (by norm_num) z

theorem ten_zpow_add (a b : ℤ) : (10 : ℚ) ^ (a + b) = 10 ^ a * 10 ^ b := zpow_add₀ (by norm_num) a b

theorem le_log_ten {q : ℚ} (hq : 0 < q) {k : ℤ} : k ≤ Int.log 10 q ↔ 10 ^ k ≤ q := by
  have h := Int.zpow_le_iff_le_log (b := 10) (by decide) (x := k) hq
  exact_mod_cast h.symm

theorem log_ten_lt {q : ℚ} (hq : 0 < q) {k : ℤ} : Int.log 10 q < k ↔ q < 10 ^ k := by
  rw [← not_le, le_log_ten hq, not_le]

theorem log_ten_eq {q : ℚ} {k : ℤ} (hlow : 10 ^ k ≤ q) (hhigh : q < 10 ^ (k + 1)) : Int.log 10 q = k := by
  have hq : 0 < q := (ten_zpow_pos k).trans_le hlow
  have hge := (le_log_ten hq).2 hlow
  have hlt := (log_ten_lt hq).2 hhigh
  omega

namespace Ratio

variable {r : Ratio}

/-- From one on, the exponent counts the digits before the point. -/
theorem log_value_of_le (hden : 0 < r.den) (hle : r.den ≤ r.num) : Int.log 10 r.value = Nat.log 10 r.floor := by
  have hdenq : (0 : ℚ) < r.den := by exact_mod_cast hden
  have hfloor : r.floor ≠ 0 := (Nat.div_pos hle hden).ne'
  refine log_ten_eq ?_ ?_
  · rw [zpow_natCast, value, le_div_iff₀ hdenq]
    exact_mod_cast (Nat.le_div_iff_mul_le hden).1 (Nat.pow_log_le_self 10 hfloor)
  · have hlt := (floor_lt_iff hden).1 (Nat.lt_pow_succ_log_self (by decide : 1 < 10) r.floor)
    exact_mod_cast hlt

/-- Below one, it counts the digits of the quotient the other way round, which is rounded down. -/
theorem log_value_of_lt (hnum : r.num ≠ 0) (hlt : r.num < r.den) : Int.log 10 r.value =
    if r.den = r.num * 10 ^ Nat.log 10 (r.den / r.num) then -(Nat.log 10 (r.den / r.num) : ℤ)
    else -((Nat.log 10 (r.den / r.num) + 1 : ℕ) : ℤ) := by
  have hden : 0 < r.den := Nat.zero_lt_of_lt hlt
  have hdenq : (0 : ℚ) < r.den := by exact_mod_cast hden
  have hnumq : (0 : ℚ) < r.num := by exact_mod_cast Nat.pos_of_ne_zero hnum
  have hquotient : r.den / r.num ≠ 0 := (Nat.div_pos hlt.le (Nat.pos_of_ne_zero hnum)).ne'
  have hlow : r.num * 10 ^ Nat.log 10 (r.den / r.num) ≤ r.den := by
    rw [Nat.mul_comm]
    exact (Nat.le_div_iff_mul_le (Nat.pos_of_ne_zero hnum)).1 (Nat.pow_log_le_self 10 hquotient)
  have hhigh : r.den < r.num * 10 ^ (Nat.log 10 (r.den / r.num) + 1) := by
    rw [Nat.mul_comm]
    exact (Nat.div_lt_iff_lt_mul (Nat.pos_of_ne_zero hnum)).1 (Nat.lt_pow_succ_log_self (by decide) _)
  have hvalue : ∀ {l : ℕ} {q : ℚ}, r.num * 10 ^ l = q → r.value = q / r.den * 10 ^ (-(l : ℤ)) := by
    intro l q hq
    rw [← hq, value, zpow_neg, zpow_natCast]
    field_simp
  split
  next heq =>
    have hone : r.value = 10 ^ (-(Nat.log 10 (r.den / r.num) : ℤ)) := by
      have hcast : (r.num : ℚ) * 10 ^ Nat.log 10 (r.den / r.num) = r.den := by exact_mod_cast heq.symm
      rw [hvalue hcast, div_self hdenq.ne', one_mul]
    refine log_ten_eq hone.ge ?_
    rw [hone]
    exact (zpow_lt_zpow_iff_right₀ (by norm_num : (1 : ℚ) < 10)).2 (lt_add_one _)
  next hne =>
    refine log_ten_eq ?_ ?_
    · rw [hvalue rfl]
      refine le_mul_of_one_le_left (ten_zpow_pos _).le ?_
      rw [one_le_div hdenq]
      exact_mod_cast hhigh.le
    · rw [hvalue (l := Nat.log 10 (r.den / r.num)) rfl]
      push_cast
      rw [neg_add_rev, neg_add_cancel_comm]
      refine mul_lt_of_lt_one_left (ten_zpow_pos _) ?_
      rw [div_lt_one hdenq]
      exact_mod_cast lt_of_le_of_ne hlow (Ne.symm hne)

theorem leadingExponent_eq (hnum : r.num ≠ 0) (hden : 0 < r.den) : r.leadingExponent = Int.log 10 r.value := by
  rw [leadingExponent]
  split
  next hle =>
    rw [log_value_of_le hden hle, Text.length_ofNat]
    push_cast
    ring
  next hlt =>
    rw [log_value_of_lt hnum (not_le.1 hlt)]
    simp only [Text.length_ofNat, Nat.add_sub_cancel]

end Ratio

/-! ## Rounding to significant digits -/

namespace Significant

/-- The unit of the last one of `n` significant digits. -/
def unit (n : ℕ) (q : ℚ) : ℚ := 10 ^ (Int.log 10 q - n + 1)

/-- The number with `n` significant digits. -/
def rounded (n : ℕ) (q : ℚ) : ℚ := round (q / unit n q) * unit n q

/-- The exponent of the leading digit of the number with `n` significant digits. -/
def exponent (n : ℕ) (q : ℚ) : ℤ := Int.log 10 (rounded n q)

variable {n : ℕ} {q : ℚ}

theorem unit_pos (n : ℕ) (q : ℚ) : 0 < unit n q := ten_zpow_pos _

theorem pow_mul_unit (n : ℕ) (q : ℚ) : 10 ^ n * unit n q = 10 ^ (Int.log 10 q + 1) := by
  rw [unit, ← zpow_natCast, ← ten_zpow_add]
  congr 1
  omega

theorem scaled_lt (hq : 0 < q) : q / unit n q < 10 ^ n := by
  rw [div_lt_iff₀ (unit_pos n q), pow_mul_unit]
  exact (log_ten_lt hq).1 (lt_add_one _)

theorem le_scaled (hq : 0 < q) : 10 ^ n ≤ q / unit (n + 1) q := by
  have hlow := (le_log_ten hq).1 le_rfl
  have hsplit := pow_mul_unit (n + 1) q
  rw [ten_zpow_add, pow_succ] at hsplit
  rw [le_div_iff₀ (unit_pos _ q)]
  linarith

/-- The exponent grows by one where the digits are carried over. -/
theorem exponent_eq (hn : n ≠ 0) (hq : 0 < q) :
    exponent n q = if 10 ^ n - 1 / 2 ≤ q / unit n q then Int.log 10 q + 1 else Int.log 10 q := by
  obtain ⟨n, rfl⟩ := Nat.exists_eq_add_one_of_ne_zero hn
  have hlow : 10 ^ n ≤ q / unit (n + 1) q := le_scaled hq
  have hhigh : q / unit (n + 1) q < 10 ^ (n + 1) := scaled_lt hq
  unfold exponent rounded
  split
  next hcarry =>
    have hround : round (q / unit (n + 1) q) = 10 ^ (n + 1) := by
      rw [round_eq, Int.floor_eq_iff]
      push_cast
      constructor <;> linarith
    rw [hround]
    push_cast
    rw [pow_mul_unit]
    exact log_ten_eq le_rfl ((zpow_lt_zpow_iff_right₀ (by norm_num)).2 (lt_add_one _))
  next hcarry =>
    have hge : 10 ^ n ≤ round (q / unit (n + 1) q) := by
      rw [round_eq, Int.le_floor]
      push_cast
      linarith
    have hlt : round (q / unit (n + 1) q) < 10 ^ (n + 1) := by
      rw [round_eq, Int.floor_lt]
      push_cast
      linarith
    have hgeq : (10 : ℚ) ^ n ≤ round (q / unit (n + 1) q) := by exact_mod_cast hge
    have hltq : (round (q / unit (n + 1) q) : ℚ) < 10 ^ (n + 1) := by exact_mod_cast hlt
    refine log_ten_eq ?_ ?_
    · have hsplit := pow_mul_unit (n + 1) q
      rw [ten_zpow_add, pow_succ] at hsplit
      have hmul := mul_le_mul_of_nonneg_right hgeq (unit_pos (n + 1) q).le
      linarith
    · rw [← pow_mul_unit (n + 1) q]
      exact mul_lt_mul_of_pos_right hltq (unit_pos _ q)

/-- The least number whose `n` digits have the exponent `k`. -/
theorem le_exponent_iff (hn : n ≠ 0) (hq : 0 < q) {k : ℤ} :
    k ≤ exponent n q ↔ (10 ^ n - 1 / 2) * (10 : ℚ) ^ (k - n) ≤ q := by
  have hpow : (10 : ℚ) ≤ 10 ^ n := le_self_pow₀ (by norm_num) hn
  have hsplit : ∀ z : ℤ, (10 : ℚ) ^ n * 10 ^ (z - n) = 10 ^ z := by
    intro z
    rw [← zpow_natCast, ← ten_zpow_add]
    congr 1
    omega
  -- the bound for `z` lies between the power of ten before and its own
  have hbound : ∀ z : ℤ, (10 : ℚ) ^ (z - 1) ≤ (10 ^ n - 1 / 2) * (10 : ℚ) ^ (z - n) ∧
      (10 ^ n - 1 / 2) * (10 : ℚ) ^ (z - n) < 10 ^ z := by
    intro z
    have hpos := ten_zpow_pos (z - n)
    have hup := hsplit z
    have hdown : (10 : ℚ) ^ z = 10 ^ (z - 1) * 10 := by
      rw [← zpow_add_one₀ (by norm_num)]
      congr 1
      omega
    have hten := mul_le_mul_of_nonneg_right hpow hpos.le
    constructor <;> linarith
  have hcarry : 10 ^ n - 1 / 2 ≤ q / unit n q ↔ (10 ^ n - 1 / 2) * (10 : ℚ) ^ (Int.log 10 q + 1 - n) ≤ q := by
    rw [le_div_iff₀ (unit_pos n q), unit, sub_add_eq_add_sub]
  have hlow := (le_log_ten hq).1 (le_refl (Int.log 10 q))
  have hhigh := (log_ten_lt hq).1 (lt_add_one (Int.log 10 q))
  rcases lt_trichotomy k (Int.log 10 q + 1) with hk | rfl | hk
  · have hle : (10 ^ n - 1 / 2) * (10 : ℚ) ^ (k - n) ≤ q :=
      (hbound k).2.le.trans (((zpow_le_zpow_iff_right₀ (by norm_num)).2 (by omega)).trans hlow)
    refine iff_of_true ?_ hle
    rw [exponent_eq hn hq]
    split <;> omega
  · rw [exponent_eq hn hq, ← hcarry]
    split
    next h => exact iff_of_true le_rfl h
    next h => exact iff_of_false (by omega) h
  · have hlt : q < (10 ^ n - 1 / 2) * (10 : ℚ) ^ (k - n) :=
      hhigh.trans_le (((zpow_le_zpow_iff_right₀ (by norm_num)).2 (by omega)).trans (hbound k).1)
    refine iff_of_false ?_ (not_le.2 hlt)
    rw [exponent_eq hn hq]
    split <;> omega

/-- A greater number has no smaller exponent. -/
theorem exponent_mono (hn : n ≠ 0) {a b : ℚ} (ha : 0 < a) (hab : a ≤ b) : exponent n a ≤ exponent n b :=
  (le_exponent_iff hn (ha.trans_le hab)).2 (((le_exponent_iff hn ha).1 le_rfl).trans hab)

end Significant

/-! ## The digits of a binary number -/

/-- The next whole number after an odd one is reached from the half on. -/
theorem Ratio.succ_le_halfEven_iff {r : Ratio} (h : 0 < r.den) {j : ℕ} (hodd : j % 2 = 1) :
    j + 1 ≤ r.halfEven ↔ (j : ℚ) + 1 / 2 ≤ r.value := by
  have hfloor : (r.floor : ℚ) ≤ r.value ∧ r.value < r.floor + 1 := by
    refine ⟨not_lt.1 fun hlt => lt_irrefl _ ((floor_lt_iff h).2 hlt), ?_⟩
    exact_mod_cast (floor_lt_iff h).1 (Nat.lt_succ_self r.floor)
  rcases lt_trichotomy r.floor j with hlt | rfl | hgt
  · have hle : ((r.floor : ℚ) + 1) ≤ j := by exact_mod_cast hlt
    refine iff_of_false ?_ (by linarith)
    rcases r.halfEven_cases with ⟨heq, -⟩ | ⟨heq, -⟩ <;> omega
  · have hden : (0 : ℚ) < r.den := by exact_mod_cast h
    rw [value_eq_floor_add h, add_le_add_iff_left, div_le_div_iff₀ two_pos hden, one_mul]
    have hrest : (r.den : ℚ) ≤ ((r.num % r.den : ℕ) : ℚ) * 2 ↔ r.den ≤ 2 * (r.num % r.den) := by
      rw [mul_comm]
      exact_mod_cast Iff.rfl
    rw [hrest, halfEven]
    simp only [gt_iff_lt, Bool.or_eq_true, decide_eq_true_eq, Bool.and_eq_true, beq_iff_eq]
    split <;> omega
  · have hge : ((j : ℚ) + 1) ≤ r.floor := by exact_mod_cast hgt
    refine iff_of_true (le_halfEven h ?_) (by linarith)
    push_cast
    linarith

/-- The digits are carried over from half a unit below the next power of ten on. -/
theorem Ratio.halfEven_carry {r : Ratio} (h : 0 < r.den) {n : ℕ} (hle : r.halfEven ≤ 10 ^ (n + 1)) :
    r.halfEven = 10 ^ (n + 1) ↔ 10 ^ (n + 1) - 1 / 2 ≤ r.value := by
  have hpow : 0 < 10 ^ (n + 1) := Nat.pow_pos (by decide)
  have hodd : (10 ^ (n + 1) - 1) % 2 = 1 := by
    rw [Nat.pow_succ]
    omega
  have hiff := succ_le_halfEven_iff h hodd
  rw [Nat.sub_add_cancel hpow, Nat.cast_sub hpow] at hiff
  push_cast at hiff
  have hhalf : (10 : ℚ) ^ (n + 1) - 1 + 1 / 2 = 10 ^ (n + 1) - 1 / 2 := by ring
  rw [hhalf] at hiff
  rw [← hiff]
  omega

namespace Binary64

theorem value_ratio (m : ℕ) (e : ℤ) : (ratio m e).value = m * 2 ^ e := by
  rw [ratio, Ratio.value_timesPower _ (by decide), Ratio.value_ofNat]
  rfl

theorem den_ratio_pos (m : ℕ) (e : ℤ) : 0 < (ratio m e).den := Ratio.den_timesPower_pos Nat.one_pos (by decide) e

theorem num_ratio_ne_zero {m : ℕ} (hm : m ≠ 0) (e : ℤ) : (ratio m e).num ≠ 0 := by
  intro h
  have hvalue := value_ratio m e
  rw [Ratio.value, h, Nat.cast_zero, zero_div] at hvalue
  have hpos : (0 : ℚ) < m * 2 ^ e := mul_pos (by exact_mod_cast Nat.pos_of_ne_zero hm) (two_zpow_pos e)
  linarith

/-- The number that digits with an exponent denote. -/
def Decimals.value (d : Decimals) : ℚ := d.digits * 10 ^ d.exponent

section

variable {n m : ℕ} {e : ℤ} (hm : m ≠ 0)
include hm

theorem leadingExponent_ratio : (ratio m e).leadingExponent = Int.log 10 ((m : ℚ) * 2 ^ e) := by
  rw [Ratio.leadingExponent_eq (num_ratio_ne_zero hm e) (den_ratio_pos m e), value_ratio]

theorem magnitude_pos : (0 : ℚ) < m * 2 ^ e := mul_pos (by exact_mod_cast Nat.pos_of_ne_zero hm) (two_zpow_pos e)

/-- The digits are counted in units of the last one. -/
theorem significant_eq : ∃ r : Ratio, 0 < r.den ∧ r.value = m * 2 ^ e / Significant.unit n (m * 2 ^ e) ∧
    significant n m e =
      if r.halfEven = 10 ^ n then ⟨10 ^ n / 10, Int.log 10 ((m : ℚ) * 2 ^ e) - n + 2⟩
      else ⟨r.halfEven, Int.log 10 ((m : ℚ) * 2 ^ e) - n + 1⟩ := by
  refine ⟨(ratio m e).timesPower 10 (-(Int.log 10 ((m : ℚ) * 2 ^ e) - n + 1)),
    Ratio.den_timesPower_pos (den_ratio_pos m e) (by decide) _, ?_, ?_⟩
  · rw [Ratio.value_timesPower _ (by decide), value_ratio, Significant.unit, div_eq_mul_inv, ← zpow_neg]
    rfl
  · rw [significant, if_neg hm, leadingExponent_ratio hm]
    split
    next heq => rw [if_pos heq, heq, add_assoc, one_add_one_eq_two]
    next hne => rw [if_neg hne]

/-- A number with no more than `n` digits is shown with its own. -/
theorem significant_exact {c : ℕ} (h : (m : ℚ) * 2 ^ e = c * Significant.unit n (m * 2 ^ e)) :
    significant n m e = ⟨c, Int.log 10 ((m : ℚ) * 2 ^ e) - n + 1⟩ := by
  obtain ⟨r, hden, hvalue, hdigits⟩ := significant_eq (n := n) (e := e) hm
  have hc : r.value = c := by
    rw [hvalue, div_eq_iff (Significant.unit_pos n _).ne', ← h]
  have hlt : (c : ℚ) < 10 ^ n := by
    rw [← hc, hvalue]
    exact Significant.scaled_lt (magnitude_pos hm)
  have hne : c ≠ 10 ^ n := (by exact_mod_cast hlt : c < 10 ^ n).ne
  rw [hdigits, Ratio.halfEven_eq hden hc, if_neg hne]

/-- The digits are `n` in number, no farther from the number than half a unit, and lead with the exponent of the
rounded number. -/
theorem significant_spec (hn : n ≠ 0) :
    10 ^ (n - 1) ≤ (significant n m e).digits ∧ (significant n m e).digits < 10 ^ n ∧
    (significant n m e).exponent = Significant.exponent n (m * 2 ^ e) - n + 1 ∧
    |(significant n m e).value - m * 2 ^ e| ≤ Significant.unit n (m * 2 ^ e) / 2 := by
  obtain ⟨r, hden, hvalue, hdigits⟩ := significant_eq (n := n) (e := e) hm
  have hpos := magnitude_pos (e := e) hm
  have hexponent := Significant.exponent_eq hn hpos
  obtain ⟨n, rfl⟩ := Nat.exists_eq_add_one_of_ne_zero hn
  have hlow : 10 ^ n ≤ r.halfEven := by
    refine Ratio.le_halfEven hden ?_
    rw [hvalue]
    exact_mod_cast Significant.le_scaled hpos
  have hhigh : r.halfEven ≤ 10 ^ (n + 1) := by
    refine Ratio.halfEven_le hden ?_
    rw [hvalue]
    exact_mod_cast (Significant.scaled_lt hpos).le
  have hcarry := Ratio.halfEven_carry hden hhigh
  have hnear : |(r.halfEven : ℚ) * Significant.unit (n + 1) (m * 2 ^ e) - m * 2 ^ e| ≤
      Significant.unit (n + 1) (m * 2 ^ e) / 2 := Ratio.halfEven_near hden (Significant.unit_pos _ _) hvalue
  rw [← hvalue] at hexponent
  rw [hdigits, hexponent]
  by_cases heq : r.halfEven = 10 ^ (n + 1)
  · rw [if_pos heq, if_pos (hcarry.1 heq)]
    have htenth : 10 ^ (n + 1) / 10 = 10 ^ n := by rw [Nat.pow_succ, Nat.mul_div_cancel _ (by decide)]
    refine ⟨?_, ?_, ?_, ?_⟩
    · rw [htenth, Nat.succ_sub_one]
    · rw [htenth]
      exact Nat.pow_lt_pow_right (by decide) (lt_add_one n)
    · simp only
      ring
    · rw [heq] at hnear
      refine le_of_eq_of_le ?_ hnear
      rw [Decimals.value, htenth, Significant.unit]
      push_cast
      congr 2
      rw [pow_succ, mul_assoc]
      congr 1
      rw [← zpow_one_add₀ (by norm_num)]
      congr 1
      ring
  · rw [if_neg heq, if_neg fun h => heq (hcarry.2 h)]
    exact ⟨hlow, lt_of_le_of_ne hhigh heq, rfl, hnear⟩

end

end Binary64

/-- `n` digits and the exponent of the first, for a number that is not zero. -/
structure Significant.Digits (n : ℕ) (digits : Text) (k : ℤ) (q : ℚ) : Prop where
  isDigits : Text.IsDigits digits
  length_eq : digits.length = n
  head?_ne : digits.head? ≠ some '0'
  exponent_eq : k = exponent n q
  near : |(Text.natOfDigits digits : ℚ) * 10 ^ (k - n + 1) - q| ≤ unit n q / 2

/-- **The significant digits of a number** that is not zero. -/
theorem Display.significantDigits_spec {n m : ℕ} {e : ℤ} (hn : n ≠ 0) (hm : m ≠ 0) (negative : Bool)
    (h : Binary64.Canonical m e) : ∃ digits k,
    significantDigits n (.finite negative m e h) = (digits, k) ∧ Significant.Digits n digits k (m * 2 ^ e) := by
  obtain ⟨hlow, hhigh, hexponent, hnear⟩ := Binary64.significant_spec (e := e) hm hn
  have hpos : (Binary64.significant n m e).digits ≠ 0 := (Nat.pow_pos (by decide)).trans_le hlow |>.ne'
  have hlength : (Text.ofNat (Binary64.significant n m e).digits).length = n := by
    rw [Text.length_ofNat]
    have hlog : Nat.log 10 (Binary64.significant n m e).digits = n - 1 := by
      rw [Nat.log_eq_iff (.inr ⟨by decide, hpos⟩), Nat.sub_add_cancel (Nat.pos_of_ne_zero hn)]
      exact ⟨hlow, hhigh⟩
    omega
  have hleading : (Binary64.significant n m e).leading = Significant.exponent n (m * 2 ^ e) := by
    rw [Binary64.Decimals.leading, hlength, hexponent]
    ring
  refine ⟨_, _, if_neg hm, Text.isDigits_ofNat _, hlength, Text.head?_ofNat hpos, hleading, ?_⟩
  rw [Text.natOfDigits_ofNat, hleading, ← hexponent]
  exact hnear

end Placeholder
