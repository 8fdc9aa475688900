/-
How near a decimal number is to the binary number that it goes on as. Each operation rounds once and so loses no more
than one part in `2 ^ 53`; the losses of a number are counted (`Close`), and they add up over sums, products and
quotients. The conversion of a decimal number loses less than one part in `2 ^ 48` (`magnitude64_near`), since it
works with whole numbers and with powers of ten, which are exact or rounded once.
-/
import Placeholder.Proofs.Number.Whole

namespace Placeholder

namespace Binary64

/-! ## Losses -/

/-- What is left by a loss of one part in `2 ^ 53`. -/
def shrink : ℚ := 1 - 1 / 2 ^ 53

theorem shrink_pos : 0 < shrink := by norm_num [shrink]

theorem shrink_le_one : shrink ≤ 1 := by norm_num [shrink]

theorem shrink_pow_pos (k : ℕ) : 0 < shrink ^ k := pow_pos shrink_pos k

/-- Two numbers that differ by `k` losses, one way or the other. -/
structure Close (k : ℕ) (a b : ℚ) : Prop where
  left_nonneg : 0 ≤ a
  right_nonneg : 0 ≤ b
  le_left : shrink ^ k * b ≤ a
  le_right : shrink ^ k * a ≤ b

namespace Close

variable {i j k : ℕ} {a b c d : ℚ}

theorem refl (h : 0 ≤ a) : Close 0 a a := ⟨h, h, by simp, by simp⟩

theorem trans (h : Close i a b) (h' : Close j b c) : Close (i + j) a c where
  left_nonneg := h.left_nonneg
  right_nonneg := h'.right_nonneg
  le_left := by
    have hmul := mul_le_mul_of_nonneg_left h'.le_left (shrink_pow_pos i).le
    have hfirst := h.le_left
    rw [pow_add]
    linarith
  le_right := by
    have hmul := mul_le_mul_of_nonneg_left h.le_right (shrink_pow_pos j).le
    have hsecond := h'.le_right
    rw [pow_add]
    linarith

theorem mono (h : Close i a b) (hij : i ≤ j) : Close j a b := by
  have hpow := pow_le_pow_of_le_one shrink_pos.le shrink_le_one hij
  refine ⟨h.left_nonneg, h.right_nonneg, ?_, ?_⟩
  · exact (mul_le_mul_of_nonneg_right hpow h.right_nonneg).trans h.le_left
  · exact (mul_le_mul_of_nonneg_right hpow h.left_nonneg).trans h.le_right

theorem add (h : Close k a b) (h' : Close k c d) : Close k (a + c) (b + d) where
  left_nonneg := add_nonneg h.left_nonneg h'.left_nonneg
  right_nonneg := add_nonneg h.right_nonneg h'.right_nonneg
  le_left := by
    rw [mul_add]
    exact add_le_add h.le_left h'.le_left
  le_right := by
    rw [mul_add]
    exact add_le_add h.le_right h'.le_right

theorem mul (h : Close i a b) (h' : Close j c d) : Close (i + j) (a * c) (b * d) where
  left_nonneg := mul_nonneg h.left_nonneg h'.left_nonneg
  right_nonneg := mul_nonneg h.right_nonneg h'.right_nonneg
  le_left := by
    rw [pow_add, mul_mul_mul_comm]
    exact mul_le_mul h.le_left h'.le_left (mul_nonneg (shrink_pow_pos j).le h'.right_nonneg) h.left_nonneg
  le_right := by
    rw [pow_add, mul_mul_mul_comm]
    exact mul_le_mul h.le_right h'.le_right (mul_nonneg (shrink_pow_pos j).le h'.left_nonneg) h.right_nonneg

theorem left_pos (h : Close k a b) (hb : 0 < b) : 0 < a := (mul_pos (shrink_pow_pos k) hb).trans_le h.le_left

theorem inv (h : Close k a b) (hb : 0 < b) : Close k a⁻¹ b⁻¹ := by
  have ha := h.left_pos hb
  refine ⟨(inv_pos.2 ha).le, (inv_pos.2 hb).le, ?_, ?_⟩
  · rw [← div_eq_mul_inv, div_le_iff₀ hb, ← div_eq_inv_mul, le_div_iff₀ ha]
    exact h.le_right
  · rw [← div_eq_mul_inv, div_le_iff₀ ha, ← div_eq_inv_mul, le_div_iff₀ hb]
    exact h.le_left

theorem div (h : Close i a b) (h' : Close j c d) (hd : 0 < d) : Close (i + j) (a / c) (b / d) := by
  rw [div_eq_mul_inv, div_eq_mul_inv]
  exact h.mul (h'.inv hd)

/-- A few losses are as small as their number says, but for one. -/
theorem dist (h : Close k a b) (hk : k ≤ 100) : |a - b| ≤ (k + 1) / 2 ^ 53 * b := by
  have hkq : (k : ℚ) ≤ 100 := by exact_mod_cast hk
  have hk0 : (0 : ℚ) ≤ k := Nat.cast_nonneg k
  have hpow : 1 - (k : ℚ) / 2 ^ 53 ≤ shrink ^ k := by
    have hbernoulli := one_add_mul_le_pow (by norm_num : (-2 : ℚ) ≤ -1 / 2 ^ 53) k
    have hbase : 1 + -1 / 2 ^ 53 = shrink := by norm_num [shrink]
    rw [hbase] at hbernoulli
    linarith
  have hlow := mul_le_mul_of_nonneg_right hpow h.right_nonneg
  have hhigh := mul_le_mul_of_nonneg_right hpow h.left_nonneg
  have hleft := h.le_left
  have hright := h.le_right
  have hb := h.right_nonneg
  rw [abs_le]
  constructor
  · nlinarith
  · by_contra hfar
    rw [not_le] at hfar
    have hfactor : (1 : ℚ) ≤ (1 - k / 2 ^ 53) * (1 + (k + 1) / 2 ^ 53) := by nlinarith
    have hpos : (0 : ℚ) < 1 - k / 2 ^ 53 := by linarith
    have hless : b * (1 + (k + 1) / 2 ^ 53) < a := by linarith
    have hmul := mul_lt_mul_of_pos_left hless hpos
    have hone := mul_le_mul_of_nonneg_left hfactor hb
    nlinarith

/-- A small distance is a few losses. -/
theorem of_dist (ha : 0 ≤ a) (hb : 0 ≤ b) (hk : k ≤ 100) (h : |a - b| ≤ k / 2 ^ 53 * b) : Close (k + 1) a b := by
  have hkq : (k : ℚ) ≤ 100 := by exact_mod_cast hk
  have hk0 : (0 : ℚ) ≤ k := Nat.cast_nonneg k
  obtain ⟨hlow, hhigh⟩ := abs_le.1 h
  have hgrow : shrink ^ (k + 1) * (1 + (k + 1) / 2 ^ 53) ≤ 1 := by
    have hbernoulli := one_add_mul_le_pow (by norm_num : (-2 : ℚ) ≤ 1 / 2 ^ 53) (k + 1)
    have hproduct : shrink ^ (k + 1) * (1 + 1 / 2 ^ 53) ^ (k + 1) ≤ 1 := by
      rw [← mul_pow]
      exact pow_le_one₀ (by norm_num [shrink]) (by norm_num [shrink])
    refine le_trans (mul_le_mul_of_nonneg_left ?_ (shrink_pow_pos (k + 1)).le) hproduct
    push_cast at hbernoulli
    linarith
  have hfactor : (1 : ℚ) ≤ (1 - k / 2 ^ 53) * (1 + (k + 1) / 2 ^ 53) := by nlinarith
  have hpow := shrink_pow_pos (k + 1)
  refine ⟨ha, hb, ?_, ?_⟩
  · have hscale : (0 : ℚ) < 1 + (k + 1) / 2 ^ 53 := by positivity
    have hshrink : shrink ^ (k + 1) ≤ 1 - k / 2 ^ 53 := le_of_mul_le_mul_right (hgrow.trans hfactor) hscale
    have hmul := mul_le_mul_of_nonneg_right hshrink hb
    linarith
  · have hmul := mul_le_mul_of_nonneg_right hgrow hb
    have hstep : a ≤ (1 + (k + 1) / 2 ^ 53) * b := by
      have : (0 : ℚ) ≤ 1 / 2 ^ 53 * b := by positivity
      linarith
    have hscaled := mul_le_mul_of_nonneg_left hstep hpow.le
    linarith

/-- One part in `2 ^ 53` is one loss. -/
theorem once (ha : 0 ≤ a) (hb : 0 ≤ b) (h : |a - b| ≤ b / 2 ^ 53) : Close 1 a b := by
  obtain ⟨hdown, hup⟩ := abs_le.1 h
  refine ⟨ha, hb, ?_, ?_⟩
  · rw [pow_one, shrink]
    linarith
  · rw [pow_one, shrink]
    have hle : a ≤ b * (1 + 1 / 2 ^ 53) := by linarith
    have hmul := mul_le_mul_of_nonneg_left hle (by norm_num : (0 : ℚ) ≤ 1 - 1 / 2 ^ 53)
    have hsquare : (0 : ℚ) ≤ b * (1 / 2 ^ 53) ^ 2 := by positivity
    linarith

end Close

/-! ## Operations -/

/-- Far from the ends of the range. -/
def Moderate (q : ℚ) : Prop := q = 0 ∨ (2 : ℚ) ^ (-200 : ℤ) ≤ q ∧ q ≤ 2 ^ (200 : ℤ)

/-- Decimal numbers of 96 bits are far from the ends, and so are their parts. -/
theorem moderate_fraction {c s : ℕ} (hc : c < 10 ^ 60) (hs : s ≤ 28) : Moderate ((c : ℚ) / 10 ^ s) := by
  rcases Nat.eq_zero_or_pos c with rfl | hpos
  · exact .inl (by simp)
  · have hcq : (c : ℚ) ≤ 10 ^ 60 := by exact_mod_cast hc.le
    have hone : (1 : ℚ) ≤ c := by exact_mod_cast hpos
    have hpow : (10 : ℚ) ^ s ≤ 10 ^ 28 := pow_le_pow_right₀ (by norm_num) hs
    have hpow1 : (1 : ℚ) ≤ 10 ^ s := one_le_pow₀ (by norm_num)
    have hten : (0 : ℚ) < 10 ^ s := by positivity
    refine .inr ⟨?_, ?_⟩
    · have hsmall : (2 : ℚ) ^ (-200 : ℤ) ≤ 1 / 10 ^ 28 := by norm_num
      refine hsmall.trans ((one_div_le_one_div_of_le hten hpow).trans ?_)
      exact div_le_div_of_nonneg_right hone hten.le
    · have hlarge : (10 : ℚ) ^ 60 ≤ 2 ^ (200 : ℤ) := by norm_num
      exact (div_le_self (by positivity) hpow1).trans (hcq.trans hlarge)

theorem moderate_natCast {c : ℕ} (hc : c < 10 ^ 60) : Moderate (c : ℚ) := by
  have h := moderate_fraction hc (Nat.zero_le 28)
  rwa [pow_zero, div_one] at h

/-- A finite number, not negative, that differs from `q` by `k` losses. -/
def Approximates (k : ℕ) (x : Binary64) (q : ℚ) : Prop :=
  ∃ m e h, x = finite false m e h ∧ Close k (m * 2 ^ e) q

namespace Approximates

variable {i j k : ℕ} {x y : Binary64} {a b q : ℚ}

theorem mono (h : Approximates i x q) (hij : i ≤ j) : Approximates j x q := by
  obtain ⟨m, e, hcanonical, hx, hclose⟩ := h
  exact ⟨m, e, hcanonical, hx, hclose.mono hij⟩

theorem eq_zero_of_isZero (h : Approximates k x q) (hzero : x.isZero = true) : q = 0 := by
  obtain ⟨m, e, hcanonical, rfl, hclose⟩ := h
  obtain rfl : m = 0 := by simpa [isZero] using hzero
  have hle := hclose.le_left
  rw [Nat.cast_zero, zero_mul] at hle
  refine le_antisymm (not_lt.1 fun hpos => ?_) hclose.right_nonneg
  exact absurd (mul_pos (shrink_pow_pos k) hpos) (not_lt.2 hle)

/-- Rounding loses once. -/
theorem nearest {r : Ratio} (hden : 0 < r.den) (h : Close k r.value q) (hk : k ≤ 20) (hq : Moderate q) :
    Approximates (k + 1) (nearest false r) q := by
  by_cases hnum : r.num = 0
  · have hzero : r.value = 0 := by rw [Ratio.value, hnum, Nat.cast_zero, zero_div]
    refine ⟨0, -1074, by decide, ?_, ?_⟩
    · rw [Binary64.nearest, nearestParts, if_pos hnum]
      rfl
    · rw [Nat.cast_zero, zero_mul, ← hzero]
      exact h.mono (Nat.le_succ k)
  · have hpos := Ratio.value_pos hnum hden
    have hhalf : (1 / 2 : ℚ) ≤ shrink ^ k := by
      refine le_trans ?_ (pow_le_pow_of_le_one shrink_pos.le shrink_le_one hk)
      norm_num [shrink]
    have hqpos : 0 < q := (mul_pos (shrink_pow_pos k) hpos).trans_le h.le_right
    obtain ⟨hleast, hgreatest⟩ := hq.resolve_left hqpos.ne'
    have hlow : (2 : ℚ) ^ (-1022 : ℤ) ≤ r.value := by
      have hmul := mul_le_mul_of_nonneg_right hhalf hqpos.le
      have hleft := h.le_left
      have hgap : (2 : ℚ) ^ (-201 : ℤ) = 1 / 2 * 2 ^ (-200 : ℤ) := by norm_num
      refine ((zpow_le_zpow_iff_right₀ (by norm_num)).2 (by decide : (-1022 : ℤ) ≤ -201)).trans ?_
      rw [hgap]
      exact (mul_le_mul_of_nonneg_left hleast (by norm_num)).trans (hmul.trans hleft)
    have hhigh : r.value < (2 : ℚ) ^ (1022 : ℤ) := by
      have hmul := mul_le_mul_of_nonneg_right hhalf hpos.le
      have hright := h.le_right
      have hgap : (2 : ℚ) ^ (201 : ℤ) = 2 * 2 ^ (200 : ℤ) := by norm_num
      refine lt_of_le_of_lt ?_ ((zpow_lt_zpow_iff_right₀ (by norm_num)).2 (by decide : (201 : ℤ) < 1022))
      have htwice : r.value ≤ 2 * q := by linarith only [hmul, hright]
      rw [hgap]
      exact htwice.trans (mul_le_mul_of_nonneg_left hgreatest (by norm_num))
    obtain ⟨m, e, hcanonical, hnearest, hdist⟩ := nearest_normal hnum hden hlow hhigh false
    refine ⟨m, e, hcanonical, hnearest, ?_⟩
    rw [Nat.add_comm]
    exact (Close.once (mul_nonneg (Nat.cast_nonneg m) (two_zpow_pos e).le) hpos.le hdist).trans h

theorem ofNat {n : ℕ} (h : n < 10 ^ 60) : Approximates 1 (ofNat n) n := by
  have hclose : Close 0 (Ratio.ofNat n).value n := by
    rw [Ratio.value_ofNat]
    exact Close.refl (Nat.cast_nonneg n)
  exact nearest Nat.one_pos hclose (Nat.zero_le 20) (moderate_natCast h)

theorem mul (hx : Approximates i x a) (hy : Approximates j y b) (hij : i + j ≤ 20) (hab : Moderate (a * b)) :
    Approximates (i + j + 1) (x.mul y) (a * b) := by
  obtain ⟨m, e, hm, rfl, hxa⟩ := hx
  obtain ⟨n, f, hn, rfl, hyb⟩ := hy
  refine nearest (den_ratio_pos _ _) ?_ hij hab
  have hvalue : (ratio (m * n) (e + f)).value = (m * 2 ^ e) * (n * 2 ^ f) := by
    rw [value_ratio, two_zpow_add]
    push_cast
    ring
  rw [hvalue]
  exact hxa.mul hyb

theorem div (hx : Approximates i x a) (hy : Approximates j y b) (hb : 0 < b) (hij : i + j ≤ 20)
    (hab : Moderate (a / b)) : Approximates (i + j + 1) (x.div y) (a / b) := by
  obtain ⟨m, e, hm, rfl, hxa⟩ := hx
  obtain ⟨n, f, hn, rfl, hyb⟩ := hy
  have hne : n ≠ 0 := by
    rintro rfl
    have hpos := hyb.left_pos hb
    rw [Nat.cast_zero, zero_mul] at hpos
    exact lt_irrefl _ hpos
  rw [Binary64.div, if_neg hne]
  refine nearest (Ratio.den_timesPower_pos (Nat.pos_of_ne_zero hne) (by decide) _) ?_ hij hab
  have hvalue : ((Ratio.mk m n).timesPower 2 (e - f)).value = (m * 2 ^ e) / (n * 2 ^ f) := by
    rw [Ratio.value_timesPower _ (by decide), Ratio.value, sub_eq_add_neg, Nat.cast_ofNat, two_zpow_add, zpow_neg]
    have hpos := two_zpow_pos f
    have hnq : (n : ℚ) ≠ 0 := by exact_mod_cast hne
    field_simp
  rw [hvalue]
  exact hxa.div hyb hb

theorem addMagnitudes (hx : Approximates k x a) (hy : Approximates k y b) (hk : k ≤ 20) (hab : Moderate (a + b)) :
    Approximates (k + 1) (x.addMagnitudes y) (a + b) := by
  obtain ⟨m, e, hm, rfl, hxa⟩ := hx
  obtain ⟨n, f, hn, rfl, hyb⟩ := hy
  refine nearest (den_ratio_pos _ _) ?_ hk hab
  have haligned : ∀ {z low : ℤ}, low ≤ z → (2 : ℚ) ^ (z - low).toNat * 2 ^ low = 2 ^ z := by
    intro z low h
    rw [← zpow_natCast, Int.toNat_of_nonneg (sub_nonneg.2 h), ← two_zpow_add, sub_add_cancel]
  have hvalue : (ratio (m * 2 ^ (e - min e f).toNat + n * 2 ^ (f - min e f).toNat) (min e f)).value =
      m * 2 ^ e + n * 2 ^ f := by
    rw [value_ratio]
    push_cast
    rw [add_mul, mul_assoc, mul_assoc, haligned (min_le_left e f), haligned (min_le_right e f)]
  rw [hvalue]
  exact hxa.add hyb

/-- A number near a whole one is rounded to a whole number that is at most twice as far from it. -/
theorem round {n : ℕ} (hx : Approximates k x n) (hk : k ≤ 20) : Approximates (2 * k + 3) x.round n := by
  obtain ⟨m, e, hm, rfl, hclose⟩ := hx
  have hdist := hclose.dist (by omega)
  suffices hwhole : ∃ m' e' h', (finite false m e hm).round = finite false m' e' h' ∧
      |((m' : ℚ) * 2 ^ e') - n| ≤ 2 * |(m : ℚ) * 2 ^ e - n| by
    obtain ⟨m', e', h', hround, hnear⟩ := hwhole
    refine ⟨m', e', h', hround, Close.of_dist (by positivity) (Nat.cast_nonneg n) (by omega : 2 * k + 2 ≤ 100) ?_⟩
    refine hnear.trans ?_
    push_cast
    linarith
  rw [Binary64.round]
  split
  next => exact ⟨m, e, hm, rfl, by linarith [abs_nonneg ((m : ℚ) * 2 ^ e - n)]⟩
  next he =>
    have hbound : (ratio m e).value ≤ (2 ^ 53 : ℕ) := by
      have hunit : (2 : ℚ) ^ e ≤ 1 := zpow_le_one_of_nonpos₀ (by norm_num) (not_le.1 he).le
      have hmq : (m : ℚ) ≤ (2 ^ 53 : ℕ) := by exact_mod_cast hm.1.le
      rw [value_ratio]
      exact (mul_le_of_le_one_right (Nat.cast_nonneg m) hunit).trans hmq
    obtain ⟨m', e', h', hnearest, hvalue⟩ := ofNat_exact (Ratio.halfUp_le (den_ratio_pos m e) hbound)
    refine ⟨m', e', h', hnearest, ?_⟩
    have hnearer : |(m : ℚ) * 2 ^ e - ((ratio m e).halfUp : ℤ)| ≤ |(m : ℚ) * 2 ^ e - (n : ℤ)| := by
      rw [Ratio.halfUp_eq_round (den_ratio_pos m e), value_ratio]
      exact round_le _ _
    rw [Int.cast_natCast, Int.cast_natCast, abs_sub_comm] at hnearer
    rw [hvalue]
    calc |((ratio m e).halfUp : ℚ) - n|
        ≤ |((ratio m e).halfUp : ℚ) - m * 2 ^ e| + |(m : ℚ) * 2 ^ e - n| := abs_sub_le _ _ _
      _ ≤ 2 * |(m : ℚ) * 2 ^ e - n| := by linarith

end Approximates

/-- Powers of ten are rounded once at most. -/
theorem powerOfTen_eq {s : ℕ} (h : s ≤ 28) : powerOfTen s = ofNat (10 ^ s) := by
  have hall : ∀ s < 29, powerOfTen (s : ℕ) = ofNat (10 ^ s) := by decide +kernel
  exact hall s (by omega)

end Binary64

/-! ## Decimal numbers -/

namespace Decimal

open Binary64

/-- The scaled sum is rounded to the coefficient, as far as the losses allow. -/
theorem magnitude64_approximates (d : Decimal) : Approximates 17 d.magnitude64 d.magnitude := by
  have hfits : d.coefficient < 10 ^ 60 := d.fits.trans (by decide)
  have hscale : 10 ^ d.scale < 10 ^ 60 := Nat.pow_lt_pow_right (by decide) (d.scale_le.trans_lt (by decide))
  have hunit : (0 : ℚ) < ((10 ^ d.scale : ℕ) : ℚ) := by positivity
  have hwhole : Approximates 1 (ofNat (d.coefficient / 10 ^ d.scale)) ((d.coefficient / 10 ^ d.scale : ℕ) : ℚ) :=
    Approximates.ofNat ((Nat.div_le_self _ _).trans_lt hfits)
  have hsplit : d.magnitude =
      (d.coefficient / 10 ^ d.scale : ℕ) + ((d.coefficient % 10 ^ d.scale : ℕ) : ℚ) / ((10 ^ d.scale : ℕ) : ℚ) := by
    have hmod : (d.coefficient : ℚ) = ((10 ^ d.scale : ℕ) : ℚ) * ((d.coefficient / 10 ^ d.scale : ℕ) : ℚ) +
        ((d.coefficient % 10 ^ d.scale : ℕ) : ℚ) := by
      exact_mod_cast (Nat.div_add_mod d.coefficient (10 ^ d.scale)).symm
    have hcast : (10 : ℚ) ^ d.scale = ((10 ^ d.scale : ℕ) : ℚ) := by push_cast; rfl
    rw [magnitude, hmod, hcast]
    field_simp
  rw [magnitude64]
  dsimp only
  split
  next hzero =>
    rw [hzero, pow_zero, Nat.div_one] at hwhole ⊢
    rw [magnitude, hzero, pow_zero, div_one]
    exact hwhole.mono (by decide)
  next =>
    have hrest : d.coefficient % 10 ^ d.scale < 10 ^ 60 := (Nat.mod_le _ _).trans_lt hfits
    have hmoderate : Moderate (((d.coefficient % 10 ^ d.scale : ℕ) : ℚ) / ((10 ^ d.scale : ℕ) : ℚ)) := by
      have h := moderate_fraction hrest d.scale_le
      exact_mod_cast h
    have hfraction := (Approximates.ofNat hrest).div (Approximates.ofNat hscale) hunit (by decide) hmoderate
    have hdecimal : Moderate d.magnitude := moderate_fraction hfits d.scale_le
    split
    next hzero =>
      rw [hsplit, hfraction.eq_zero_of_isZero hzero, add_zero]
      exact hwhole.mono (by decide)
    next =>
      have hscaling : Approximates 1 (powerOfTen d.scale) ((10 ^ d.scale : ℕ) : ℚ) := by
        rw [powerOfTen_eq d.scale_le]
        exact Approximates.ofNat hscale
      have hcoefficient : d.magnitude * ((10 ^ d.scale : ℕ) : ℚ) = d.coefficient := by
        rw [magnitude]
        push_cast
        field_simp
      have hquotient : (d.coefficient : ℚ) / ((10 ^ d.scale : ℕ) : ℚ) = d.magnitude := by
        rw [div_eq_iff hunit.ne', hcoefficient]
      have hsum := (hwhole.mono (by decide : 1 ≤ 3)).addMagnitudes hfraction (by decide) (hsplit ▸ hdecimal)
      rw [← hsplit] at hsum
      have hproduct := hsum.mul hscaling (by decide) (hcoefficient.symm ▸ moderate_natCast hfits)
      rw [hcoefficient] at hproduct
      have hresult := (hproduct.round (by decide)).div hscaling hunit (by decide) (hquotient.symm ▸ hdecimal)
      rw [hquotient] at hresult
      exact hresult

/-- **The binary number of a decimal number** is finite, and within one part in `2 ^ 48` of it. -/
theorem magnitude64_near (d : Decimal) : ∃ m e h, d.magnitude64 = .finite false m e h ∧
    |(m : ℚ) * 2 ^ e - d.magnitude| ≤ d.magnitude / 2 ^ 48 := by
  obtain ⟨m, e, h, hfinite, hclose⟩ := d.magnitude64_approximates
  refine ⟨m, e, h, hfinite, (hclose.dist (by decide)).trans ?_⟩
  have hnonneg := hclose.right_nonneg
  push_cast
  linarith

end Decimal

end Placeholder
