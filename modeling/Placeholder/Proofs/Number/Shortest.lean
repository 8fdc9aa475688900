/-
The shortest digits of a binary number. They are looked for on one grid of decimal numbers after another, each ten
times as fine as the one before, among the two neighbours of the number. A hit lies in the interval of the numbers that
round to it, and on the grid of seventeen digits there always is one, for the interval is wider than the grid; so the
digits are as near to the number as half of its unit (`shortest_spec`). A whole number in units no greater than one is
the only whole number in its interval, so it is found itself (`value_shortest_whole`).
-/
import Placeholder.Proofs.Number.Significant

namespace Placeholder

theorem Text.ofNat_mul_pow {n : ℕ} (hn : n ≠ 0) (k : ℕ) :
    ofNat (n * 10 ^ k) = ofNat n ++ List.replicate k '0' := by
  induction k with
  | zero => simp
  | succ k ih =>
    have hpos := Nat.mul_pos (Nat.pos_of_ne_zero hn) (Nat.pow_pos (n := k) (by decide : 0 < 10))
    have hsplit : n * 10 ^ (k + 1) = n * 10 ^ k * 10 := by rw [Nat.pow_succ, Nat.mul_assoc]
    have hge : 10 ≤ n * 10 ^ (k + 1) := by omega
    rw [ofNat, Nat.toDigits_of_base_le (by decide) hge, hsplit, Nat.mul_div_cancel _ (by decide), Nat.mul_mod_left,
      List.replicate_succ', ← List.append_assoc, ← ih]
    rfl

namespace Binary64

/-! ## Digits with an exponent -/

namespace Decimals

/-- Zeros at the end of the digits go into the exponent, and the number stays the same. -/
theorem trim_spec (fuel : ℕ) (d : Decimals) :
    (trim fuel d).value = d.value ∧ d.exponent ≤ (trim fuel d).exponent ∧ (trim fuel d).digits ≤ d.digits := by
  induction fuel generalizing d with
  | zero => exact ⟨rfl, le_rfl, le_rfl⟩
  | succ fuel ih =>
    rw [trim]
    split
    next h =>
      obtain ⟨hvalue, hexponent, hdigits⟩ := ih ⟨d.digits / 10, d.exponent + 1⟩
      dsimp only at hexponent hdigits
      have htimes : d.digits = d.digits / 10 * 10 := by omega
      refine ⟨?_, by omega, by omega⟩
      rw [hvalue, value, value, zpow_add_one₀ (by norm_num)]
      have hcast : (d.digits : ℚ) = ((d.digits / 10 : ℕ) : ℚ) * 10 := by exact_mod_cast htimes
      rw [hcast]
      ring
    next => exact ⟨rfl, le_rfl, le_rfl⟩

theorem value_of_exponent {d : Decimals} (h : 0 ≤ d.exponent) :
    d.value = ((d.digits * 10 ^ d.exponent.toNat : ℕ) : ℚ) := by
  obtain ⟨k, hk⟩ := Int.eq_ofNat_of_zero_le h
  rw [value, hk, zpow_natCast, Int.toNat_natCast]
  push_cast
  rfl

theorem value_of_places {d : Decimals} {places : ℕ} (h : d.exponent = -places) : d.value = d.digits / 10 ^ places := by
  rw [value, h, zpow_neg, zpow_natCast, div_eq_mul_inv]

/-- A whole number is written with its own digits. -/
theorem positional_whole {d : Decimals} {n : ℕ} (hn : n ≠ 0) (hexponent : 0 ≤ d.exponent) (hvalue : d.value = n) :
    d.positional = Text.ofNat n := by
  have hproduct : d.digits * 10 ^ d.exponent.toNat = n := by
    rw [value_of_exponent hexponent] at hvalue
    exact_mod_cast hvalue
  have hdigits : d.digits ≠ 0 := by
    intro hzero
    rw [hzero, Nat.zero_mul] at hproduct
    exact hn hproduct.symm
  rw [positional, if_pos hexponent, if_neg hdigits, ← Text.ofNat_mul_pow hdigits, hproduct]

end Decimals

/-! ## Intervals -/

namespace Interval

def lower (i : Interval) : ℚ := i.low / i.den

def middle (i : Interval) : ℚ := i.value / i.den

def upper (i : Interval) : ℚ := i.high / i.den

/-- The neighbour below the number on the grid of `10 ^ k`. -/
def below (i : Interval) (k : ℤ) : ℕ := ((Ratio.mk i.value i.den).timesPower 10 (-k)).floor

section

variable {i : Interval} (hden : 0 < i.den)
include hden

theorem holds_iff (d : ℕ) (k : ℤ) : i.holds d k = true ↔
    if i.closed then i.lower ≤ d * 10 ^ k ∧ (d * 10 ^ k : ℚ) ≤ i.upper
    else i.lower < d * 10 ^ k ∧ (d * 10 ^ k : ℚ) < i.upper := by
  have hx : 0 < ((Ratio.ofNat d).timesPower 10 k).den := Ratio.den_timesPower_pos Nat.one_pos (by decide) k
  have hdenq : (0 : ℚ) < i.den := by exact_mod_cast hden
  have hxq : (0 : ℚ) < ((Ratio.ofNat d).timesPower 10 k).den := by exact_mod_cast hx
  have hvalue : (d : ℚ) * 10 ^ k =
      ((Ratio.ofNat d).timesPower 10 k).num / ((Ratio.ofNat d).timesPower 10 k).den := by
    have htimes := Ratio.value_timesPower (Ratio.ofNat d) (by decide : 10 ≠ 0) k
    rw [Ratio.value_ofNat] at htimes
    exact htimes.symm
  rw [hvalue, lower, upper, div_le_div_iff₀ hdenq hxq, div_le_div_iff₀ hxq hdenq, div_lt_div_iff₀ hdenq hxq,
    div_lt_div_iff₀ hxq hdenq, holds]
  split
  · rw [Bool.and_eq_true, decide_eq_true_eq, decide_eq_true_eq]
    exact_mod_cast Iff.rfl
  · rw [Bool.and_eq_true, decide_eq_true_eq, decide_eq_true_eq]
    exact_mod_cast Iff.rfl

theorem between_of_holds {d : ℕ} {k : ℤ} (h : i.holds d k = true) :
    i.lower ≤ d * 10 ^ k ∧ (d * 10 ^ k : ℚ) ≤ i.upper := by
  have hiff := (holds_iff hden d k).1 h
  split at hiff
  · exact hiff
  · exact ⟨hiff.1.le, hiff.2.le⟩

theorem holds_of_between {d : ℕ} {k : ℤ} (hlow : i.lower < d * 10 ^ k) (hhigh : (d * 10 ^ k : ℚ) < i.upper) :
    i.holds d k = true := by
  refine (holds_iff hden d k).2 ?_
  split
  · exact ⟨hlow.le, hhigh.le⟩
  · exact ⟨hlow, hhigh⟩

theorem below_le (k : ℤ) : i.below k * 10 ^ k ≤ i.middle ∧ i.middle < (i.below k + 1) * 10 ^ k := by
  have hscaled : 0 < ((Ratio.mk i.value i.den).timesPower 10 (-k)).den :=
    Ratio.den_timesPower_pos hden (by decide) (-k)
  have hvalue : ((Ratio.mk i.value i.den).timesPower 10 (-k)).value = i.middle / 10 ^ k := by
    rw [Ratio.value_timesPower _ (by decide), zpow_neg, div_eq_mul_inv]
    rfl
  have hiff : ∀ j : ℕ, i.below k < j ↔ i.middle < j * 10 ^ k := by
    intro j
    rw [below, Ratio.floor_lt_iff hscaled, hvalue, div_lt_iff₀ (ten_zpow_pos k)]
  constructor
  · exact not_lt.1 fun hlt => lt_irrefl _ ((hiff _).2 hlt)
  · exact_mod_cast (hiff _).1 (Nat.lt_succ_self (i.below k))

end

/-- A hit is one of the neighbours of the number. -/
theorem onGrid_some {i : Interval} {leading : ℤ} {n : ℕ} {d : Decimals} (h : i.onGrid leading n = some d) :
    d.exponent = leading - n + 1 ∧ i.holds d.digits d.exponent = true ∧ d.digits ≤ i.below (leading - n + 1) + 1 := by
  rw [onGrid] at h
  split at h
  next hdown hup =>
    obtain rfl := Option.some.inj h
    refine ⟨rfl, ?_, ?_⟩
    · dsimp only
      split
      · exact hdown
      · exact hup
    · dsimp only
      split
      · exact Nat.le_succ _
      · exact le_rfl
  next hdown _ =>
    obtain rfl := Option.some.inj h
    exact ⟨rfl, hdown, Nat.le_succ _⟩
  next _ hup =>
    obtain rfl := Option.some.inj h
    exact ⟨rfl, hup, le_rfl⟩
  next => cases h

theorem isSome_onGrid {i : Interval} {leading : ℤ} {n : ℕ}
    (h : i.holds (i.below (leading - n + 1)) (leading - n + 1) = true ∨
      i.holds (i.below (leading - n + 1) + 1) (leading - n + 1) = true) : (i.onGrid leading n).isSome = true := by
  unfold below at h
  unfold onGrid
  dsimp only
  split
  · rfl
  · rfl
  · rfl
  next hdown hup =>
    rw [hdown, hup] at h
    cases h with
    | inl h => cases h
    | inr h => cases h

/-- The search ends no later than on a grid with a hit. -/
theorem search_found {i : Interval} {leading : ℤ} {fuel n j : ℕ} (hn : n ≤ j) (hj : j < n + fuel)
    (h : (i.onGrid leading j).isSome = true) :
    ∃ j', n ≤ j' ∧ j' ≤ j ∧ i.onGrid leading j' = some (i.search leading fuel n) := by
  induction fuel generalizing n with
  | zero => omega
  | succ fuel ih =>
    rw [search]
    cases hgrid : i.onGrid leading n with
    | some d => exact ⟨n, le_rfl, hn, hgrid⟩
    | none =>
      have hne : n ≠ j := by
        rintro rfl
        rw [hgrid] at h
        cases h
      obtain ⟨j', hlow, hhigh, hfound⟩ := ih (n := n + 1) (by omega) (by omega)
      exact ⟨j', by omega, hhigh, hfound⟩

end Interval

/-! ## The interval of a number -/

theorem den_interval_pos (m : ℕ) (e : ℤ) : 0 < (interval m e).den := Nat.pow_pos (by decide)

/-- The ends are counted in quarters of the unit. -/
theorem quarters (c : ℕ) (e : ℤ) :
    ((c * 2 ^ (e - 2).toNat : ℕ) : ℚ) / ((2 ^ (2 - e).toNat : ℕ) : ℚ) = c / 4 * 2 ^ e := by
  have hfour : (2 : ℚ) ^ e = 2 ^ (e - 2) * 4 := by
    rw [← sub_add_cancel e 2, two_zpow_add, sub_add_cancel]
    norm_num
  rw [hfour]
  push_cast
  rcases le_total 2 e with he | he
  · obtain ⟨k, hk⟩ := Int.eq_ofNat_of_zero_le (sub_nonneg.2 he)
    have hzero : (2 - e).toNat = 0 := by omega
    rw [hzero, hk, Int.toNat_natCast, zpow_natCast]
    ring
  · obtain ⟨k, hk⟩ := Int.eq_ofNat_of_zero_le (sub_nonneg.2 he)
    have hzero : (e - 2).toNat = 0 := by omega
    have hneg : e - 2 = -k := by omega
    rw [hzero, hk, Int.toNat_natCast, hneg, zpow_neg, zpow_natCast]
    field_simp

theorem middle_interval (m : ℕ) (e : ℤ) : (interval m e).middle = m * 2 ^ e := by
  have hquarters := quarters (4 * m) e
  rw [Interval.middle, interval]
  dsimp only
  rw [hquarters]
  push_cast
  ring

theorem upper_interval (m : ℕ) (e : ℤ) : (interval m e).upper = (m + 1 / 2) * 2 ^ e := by
  have hquarters := quarters (4 * m + 2) e
  rw [Interval.upper, interval]
  dsimp only
  rw [hquarters]
  push_cast
  ring

section

variable {m : ℕ} {e : ℤ} (hm : m ≠ 0)
include hm

/-- Half a unit below the number, or a quarter if it is the least one with its exponent. -/
theorem lower_interval : (interval m e).lower = (m - 1 / 2) * 2 ^ e ∨
    m = 2 ^ 52 ∧ (interval m e).lower = (m - 1 / 4) * 2 ^ e := by
  have hquarters : ∀ c : ℕ, c ≤ 2 → ((4 * m - c) * 2 ^ (e - 2).toNat : ℕ) / ((2 ^ (2 - e).toNat : ℕ) : ℚ) =
      (m - c / 4) * 2 ^ e := by
    intro c hc
    rw [quarters, Nat.cast_sub (by omega)]
    push_cast
    ring
  rw [Interval.lower, interval]
  dsimp only
  split
  next h =>
    refine .inr ⟨h.1, ?_⟩
    rw [hquarters 1 (by decide)]
    push_cast
    ring
  next =>
    refine .inl ?_
    rw [hquarters 2 (by decide)]
    push_cast
    ring

theorem half_unit_le_lower : (m - 1 / 2) * 2 ^ e ≤ (interval m e).lower ∧ (interval m e).lower < m * 2 ^ e := by
  have hpos := two_zpow_pos e
  rcases lower_interval (e := e) hm with hlower | ⟨-, hlower⟩
  · rw [hlower]
    constructor <;> linarith
  · rw [hlower]
    constructor <;> linarith

theorem near_of_holds {d : ℕ} {k : ℤ} (h : (interval m e).holds d k = true) :
    |(d * 10 ^ k : ℚ) - m * 2 ^ e| ≤ 2 ^ e / 2 := by
  obtain ⟨hlow, hhigh⟩ := Interval.between_of_holds (den_interval_pos m e) h
  have hlower := (half_unit_le_lower (e := e) hm).1
  rw [upper_interval] at hhigh
  rw [abs_le]
  constructor <;> linarith

/-- Seventeen digits suffice: the interval is wider than their grid. -/
theorem isSome_onGrid_seventeen (hlt : m < 2 ^ 53) :
    ((interval m e).onGrid (Int.log 10 ((m : ℚ) * 2 ^ e)) 17).isSome = true := by
  refine Interval.isSome_onGrid ?_
  let k : ℤ := Int.log 10 ((m : ℚ) * 2 ^ e) - (17 : ℕ) + 1
  show (interval m e).holds ((interval m e).below k) k = true ∨
    (interval m e).holds ((interval m e).below k + 1) k = true
  have hden := den_interval_pos m e
  have hpos := two_zpow_pos e
  obtain ⟨hbelow, habove⟩ := Interval.below_le hden k
  rw [middle_interval] at hbelow habove
  have hgrid : (10 : ℚ) ^ k * 10 ^ 16 ≤ m * 2 ^ e := by
    have hlog := (le_log_ten (magnitude_pos (e := e) hm)).1 le_rfl
    refine le_of_eq_of_le ?_ hlog
    rw [← zpow_natCast, ← ten_zpow_add]
    congr 1
    show k + ((16 : ℕ) : ℤ) = Int.log 10 ((m : ℚ) * 2 ^ e)
    omega
  have hwide : (10 : ℚ) ^ k < (interval m e).upper - (interval m e).lower := by
    have hmq : (m : ℚ) < 2 ^ 53 := by exact_mod_cast hlt
    have hunit : (m : ℚ) * 2 ^ e < 2 ^ 53 * 2 ^ e := by gcongr
    rw [upper_interval]
    rcases lower_interval (e := e) hm with hlower | ⟨rfl, hlower⟩
    · rw [hlower]
      linarith
    · rw [hlower]
      push_cast at hgrid ⊢
      linarith
  by_contra hnone
  rw [not_or] at hnone
  -- neither neighbour is inside, so the interval lies between them
  have hlow : ((interval m e).below k : ℚ) * 10 ^ k ≤ (interval m e).lower := by
    refine not_lt.1 fun hinside => hnone.1 (Interval.holds_of_between hden hinside ?_)
    rw [upper_interval]
    linarith
  have hhigh : (interval m e).upper ≤ ((interval m e).below k + 1 : ℕ) * 10 ^ k := by
    refine not_lt.1 fun hinside => hnone.2 (Interval.holds_of_between hden ?_ hinside)
    push_cast
    linarith [(half_unit_le_lower (e := e) hm).2]
  push_cast at hhigh
  linarith

/-- The digits are found on a grid, and not on a finer one than a grid with a hit. -/
theorem shortest_onGrid {j : ℕ} (hj : 1 ≤ j) (hj' : j ≤ 17)
    (h : ((interval m e).onGrid (Int.log 10 ((m : ℚ) * 2 ^ e)) j).isSome = true) :
    ∃ j' d, j' ≤ j ∧ (interval m e).onGrid (Int.log 10 ((m : ℚ) * 2 ^ e)) j' = some d ∧
      shortest m e = d.trim 20 := by
  obtain ⟨j', -, hle, hfound⟩ := Interval.search_found hj (by omega : j < 1 + 17) h
  refine ⟨j', _, hle, hfound, ?_⟩
  rw [shortest, if_neg hm, leadingExponent_ratio hm]

/-- **The shortest digits** are seventeen at most, and as near to the number as half of its unit. -/
theorem shortest_spec (hlt : m < 2 ^ 53) :
    (shortest m e).digits ≤ 10 ^ 17 ∧ |(shortest m e).value - m * 2 ^ e| ≤ 2 ^ e / 2 := by
  obtain ⟨j, d, hj, hgrid, hshortest⟩ :=
    shortest_onGrid hm (by decide) le_rfl (isSome_onGrid_seventeen (e := e) hm hlt)
  obtain ⟨hexponent, hholds, hdigits⟩ := Interval.onGrid_some hgrid
  obtain ⟨hvalue, -, htrim⟩ := Decimals.trim_spec 20 d
  rw [hshortest, hvalue]
  refine ⟨htrim.trans (hdigits.trans ?_), near_of_holds hm hholds⟩
  have hbelow := (Interval.below_le (den_interval_pos m e) (Int.log 10 ((m : ℚ) * 2 ^ e) - j + 1)).1
  rw [middle_interval] at hbelow
  have hlog := (log_ten_lt (magnitude_pos (e := e) hm)).1 (lt_add_one _)
  have hsplit : (10 : ℚ) ^ (Int.log 10 ((m : ℚ) * 2 ^ e) + 1) =
      10 ^ j * 10 ^ (Int.log 10 ((m : ℚ) * 2 ^ e) - j + 1) := by
    rw [← zpow_natCast, ← ten_zpow_add]
    congr 1
    omega
  rw [hsplit] at hlog
  have hcount := lt_of_mul_lt_mul_right (hbelow.trans_lt hlog) (ten_zpow_pos _).le
  have hpow : 10 ^ j ≤ 10 ^ 17 := Nat.pow_le_pow_right (by decide) hj
  have hnat : (interval m e).below (Int.log 10 ((m : ℚ) * 2 ^ e) - j + 1) < 10 ^ j := by exact_mod_cast hcount
  omega

theorem digits_shortest_ne_zero (hlt : m < 2 ^ 53) : (shortest m e).digits ≠ 0 := by
  intro hzero
  have hnear := (shortest_spec (e := e) hm hlt).2
  rw [Decimals.value, hzero, Nat.cast_zero, zero_mul, zero_sub, abs_neg, abs_of_pos (magnitude_pos hm)] at hnear
  have hone : (1 : ℚ) ≤ m := by exact_mod_cast Nat.one_le_iff_ne_zero.2 hm
  have hmul := mul_le_mul_of_nonneg_right hone (two_zpow_pos e).le
  linarith [two_zpow_pos e]

/-- From `2 ^ 96` on all the digits of a number are in use, and it is near to its shortest ones. -/
theorem near_shortest_large (h : Canonical m e) (hlarge : 2 ^ 96 ≤ (shortest m e).value) :
    |(m : ℚ) * 2 ^ e - (shortest m e).value| ≤ (shortest m e).value / 2 ^ 48 := by
  have hnear := (shortest_spec (e := e) hm h.1).2
  have hpos := two_zpow_pos e
  obtain ⟨hlow, hhigh⟩ := abs_le.1 hnear
  have hnormal : 2 ^ 52 ≤ m := by
    refine h.2.2.2.resolve_right fun he => ?_
    have hone : (2 : ℚ) ^ e ≤ 1 := zpow_le_one_of_nonpos₀ (by norm_num) (by omega)
    have hmq : (m : ℚ) ≤ 2 ^ 53 := by exact_mod_cast h.1.le
    have hsmall : (m : ℚ) * 2 ^ e ≤ m * 1 := by gcongr
    linarith
  have hnormalq : (2 : ℚ) ^ 52 ≤ m := by exact_mod_cast hnormal
  have hunit : (2 : ℚ) ^ 52 * 2 ^ e ≤ m * 2 ^ e := mul_le_mul_of_nonneg_right hnormalq hpos.le
  rw [abs_sub_comm]
  refine hnear.trans ?_
  linarith

/-- A whole number has whole shortest digits, for it is a hit itself on the grid of the whole numbers. -/
theorem exponent_shortest_nonneg (hlt : m < 2 ^ 53) {n : ℕ} (hn : (m : ℚ) * 2 ^ e = n) :
    0 ≤ (shortest m e).exponent := by
  have hlog : Int.log 10 ((m : ℚ) * 2 ^ e) = Nat.log 10 n := by rw [hn, Int.log_natCast]
  suffices hgrid : ∃ j ≤ Nat.log 10 n + 1, 1 ≤ j ∧ j ≤ 17 ∧
      ((interval m e).onGrid (Int.log 10 ((m : ℚ) * 2 ^ e)) j).isSome = true by
    obtain ⟨j, hj, hlow, hhigh, hsome⟩ := hgrid
    obtain ⟨j', d, hj', hfound, hshortest⟩ := shortest_onGrid hm hlow hhigh hsome
    have hexponent := (Interval.onGrid_some hfound).1
    have htrim := (Decimals.trim_spec 20 d).2.1
    rw [hlog] at hexponent
    rw [hshortest]
    omega
  by_cases hlarge : 17 ≤ Nat.log 10 n + 1
  · exact ⟨17, hlarge, by decide, le_rfl, isSome_onGrid_seventeen hm hlt⟩
  · refine ⟨Nat.log 10 n + 1, le_rfl, by omega, by omega, Interval.isSome_onGrid (.inl ?_)⟩
    have hzero : (Nat.log 10 n : ℤ) - ((Nat.log 10 n + 1 : ℕ) : ℤ) + 1 = 0 := by omega
    have hden := den_interval_pos m e
    obtain ⟨hbelow, habove⟩ := Interval.below_le hden 0
    rw [middle_interval, hn, zpow_zero, mul_one] at hbelow habove
    have hself : (interval m e).below 0 = n := by
      have hle : (interval m e).below 0 ≤ n := by exact_mod_cast hbelow
      have hge : n < (interval m e).below 0 + 1 := by exact_mod_cast habove
      omega
    have hpos := two_zpow_pos e
    rw [hlog, hzero, hself]
    refine Interval.holds_of_between hden ?_ ?_
    · rw [zpow_zero, mul_one, ← hn]
      exact (half_unit_le_lower hm).2
    · rw [zpow_zero, mul_one, ← hn, upper_interval]
      linarith

/-- A whole number in units no greater than one is found itself. -/
theorem value_shortest_whole (hlt : m < 2 ^ 53) (he : e ≤ 0) {n : ℕ} (hn : (m : ℚ) * 2 ^ e = n) :
    (shortest m e).value = n := by
  have hwhole := Decimals.value_of_exponent (exponent_shortest_nonneg hm hlt hn)
  have hunit : (2 : ℚ) ^ e ≤ 1 := zpow_le_one_of_nonpos₀ (by norm_num) he
  have hnear := (shortest_spec (e := e) hm hlt).2
  rw [hn, hwhole] at hnear
  -- two whole numbers with less than one between them
  have hless : |((shortest m e).digits * 10 ^ (shortest m e).exponent.toNat : ℕ) - (n : ℤ)| < 1 := by
    have hq : |(((shortest m e).digits * 10 ^ (shortest m e).exponent.toNat : ℕ) : ℚ) - n| < 1 := by linarith
    exact_mod_cast hq
  rw [Int.abs_lt_one_iff, sub_eq_zero] at hless
  rw [hwhole]
  exact_mod_cast hless

end

end Binary64

end Placeholder
