/-
Whole numbers under the general format. The digits are those of the nearest binary number. Where there are enough of
them for it, they are read back as that number and its shortest text is shown (`general_whole`): up to `2 ^ 53` this is
the text of the number itself (`format_general`). Where the nearest binary number is the power of ten behind all the
digits, it is shown with an exponent (`general_carried`).
-/
import Placeholder.Proofs.Display.Radix
import Placeholder.Proofs.Number.Whole

namespace Placeholder

theorem Text.dropTrailing_append_replicate (c : Char) (t : Text) (k : ℕ) :
    dropTrailing c (t ++ List.replicate k c) = dropTrailing c t := by
  rw [dropTrailing, dropTrailing, List.reverse_append, List.reverse_replicate,
    List.dropWhile_append_of_pos (by simp)]

namespace Display

open Text

/-! ## Binary numbers that are whole -/

section

variable {m p n : ℕ} {e : ℤ} (hm : m ≠ 0) (hp : p ≠ 0)
include hm hp

/-- A whole number below `10 ^ p` has its own digits, filled up with zeros. -/
theorem significantDigits_whole (hn : (m : ℚ) * 2 ^ e = n) (hlt : n < 10 ^ p) (negative : Bool)
    (h : Binary64.Canonical m e) : ∃ c : ℕ, c ≠ 0 ∧ (ofNat c).length = p ∧ Nat.log 10 n < p ∧
      significantDigits p (.finite negative m e h) = (ofNat c, (Nat.log 10 n : ℤ)) ∧
      (c : ℚ) * 10 ^ ((Nat.log 10 n : ℤ) - p + 1) = n := by
  have hlog : Int.log 10 ((m : ℚ) * 2 ^ e) = Nat.log 10 n := by rw [hn, Int.log_natCast]
  have hlength : Nat.log 10 n < p := Nat.log_lt_of_lt_pow' hp hlt
  have hunits : ((n * 10 ^ (p - 1 - Nat.log 10 n) : ℕ) : ℚ) * 10 ^ ((Nat.log 10 n : ℤ) - p + 1) = n := by
    have hinverse : (Nat.log 10 n : ℤ) - p + 1 = -((p - 1 - Nat.log 10 n : ℕ) : ℤ) := by omega
    rw [hinverse, zpow_neg, zpow_natCast]
    push_cast
    rw [mul_assoc, mul_inv_cancel₀ (by positivity), mul_one]
  have hexact : Binary64.significant p m e = ⟨n * 10 ^ (p - 1 - Nat.log 10 n), (Nat.log 10 n : ℤ) - p + 1⟩ := by
    rw [← hlog]
    refine Binary64.significant_exact hm ?_
    rw [Significant.unit, hlog, hunits, hn]
  obtain ⟨digits, k, hdigits, hshown⟩ := significantDigits_spec hp hm negative h
  have hsame : significantDigits p (.finite negative m e h) =
      (ofNat (n * 10 ^ (p - 1 - Nat.log 10 n)), (Binary64.significant p m e).leading) := by
    rw [significantDigits, if_neg hm, hexact]
  rw [hsame, Prod.mk.injEq] at hdigits
  obtain ⟨rfl, rfl⟩ := hdigits
  have hcount := hshown.length_eq
  refine ⟨_, ?_, hcount, hlength, hsame.trans ?_, hunits⟩
  · intro hzero
    have hhead := hshown.head?_ne
    rw [hzero] at hhead
    exact hhead (by decide)
  · rw [hexact, Binary64.Decimals.leading, hcount, Prod.mk.injEq]
    exact ⟨rfl, by ring⟩

/-- Digits without loss are read back as the number, and its shortest text is shown. -/
theorem general_whole (hp99 : p ≤ 99) (hn : (m : ℚ) * 2 ^ e = n) (hlt : n < 10 ^ p) (negative : Bool) (letter : Char)
    (h : Binary64.Canonical m e) :
    general (.finite negative m e h) p letter = (Binary64.finite false m e h).toText := by
  obtain ⟨c, hc, hlength, hlog, hdigits, hvalue⟩ := significantDigits_whole hm hp hn hlt negative h
  have hsmall : ¬ ((Nat.log 10 n : ℤ) < -4 || (p : ℤ) ≤ Nat.log 10 n) = true := by
    simp only [Bool.or_eq_true, decide_eq_true_eq]
    omega
  have hexponent : (Nat.log 10 n : ℤ) - ((p : ℤ) - 1) = (Nat.log 10 n : ℤ) - p + 1 := by ring
  have hratio : ((Ratio.ofNat c).timesPower 10 ((Nat.log 10 n : ℤ) - p + 1)).value = m * 2 ^ e := by
    rw [Ratio.value_timesPower _ (by decide), Ratio.value_ofNat, hn]
    exact_mod_cast hvalue
  have hden : 0 < ((Ratio.ofNat c).timesPower 10 ((Nat.log 10 n : ℤ) - p + 1)).den :=
    Ratio.den_timesPower_pos Nat.one_pos (by decide) _
  have hnum : ((Ratio.ofNat c).timesPower 10 ((Nat.log 10 n : ℤ) - p + 1)).num ≠ 0 := by
    intro hzero
    rw [Ratio.value, hzero, Nat.cast_zero, zero_div] at hratio
    exact (Binary64.magnitude_pos hm).ne hratio
  rw [general]
  simp only [hdigits, if_neg hsmall, natOfDigits_ofNat, hlength, hexponent]
  congr 1
  rw [Binary64.Numeral.round]
  dsimp only
  rw [if_neg hc, hlength, if_neg (by omega), if_neg (by omega)]
  exact Binary64.nearest_self hnum hden h hratio false

/-- The power of ten behind all the digits is shown with an exponent. -/
theorem general_carried (hn : (m : ℚ) * 2 ^ e = (10 ^ p : ℕ)) (negative : Bool) (letter : Char)
    (h : Binary64.Canonical m e) : general (.finite negative m e h) p letter = '1' :: exponentText letter 2 p := by
  obtain ⟨p, rfl⟩ := Nat.exists_eq_add_one_of_ne_zero hp
  have hlog : Int.log 10 ((m : ℚ) * 2 ^ e) = (p + 1 : ℕ) := by
    rw [hn, Int.log_natCast, Nat.log_pow (by decide)]
  have hexact : Binary64.significant (p + 1) m e = ⟨10 ^ p, 1⟩ := by
    have hone : Int.log 10 ((m : ℚ) * 2 ^ e) - (p + 1 : ℕ) + 1 = 1 := by omega
    have hunits := Binary64.significant_exact (n := p + 1) (c := 10 ^ p) (e := e) hm
    rw [Significant.unit, hone, hn, zpow_one, ← hn] at hunits
    refine hunits ?_
    rw [hn]
    push_cast
    exact pow_succ 10 p
  have hzeros : ofNat (10 ^ p) = '1' :: List.replicate p '0' := by
    rw [← Nat.one_mul (10 ^ p), ofNat_mul_pow Nat.one_ne_zero]
    rfl
  have hleading : (Binary64.Decimals.mk (10 ^ p) 1).leading = (p + 1 : ℕ) := by
    rw [Binary64.Decimals.leading, hzeros, List.length_cons, List.length_replicate]
    push_cast
    ring
  have hdropped : dropFractionZeros (Binary64.pointed ('1' :: List.replicate p '0')) = ['1'] := by
    cases p with
    | zero => rfl
    | succ p =>
      have hpointed : Binary64.pointed ('1' :: List.replicate (p + 1) '0') = ['1', '.'] ++ List.replicate (p + 1) '0' :=
        rfl
      rw [hpointed, dropFractionZeros, if_pos (by simp), dropTrailing_append_replicate]
      rfl
  rw [general, significantDigits, if_neg hm]
  simp only [hexact, hleading, hzeros, hdropped, le_refl, decide_true, Bool.or_true, if_true, List.singleton_append]

end

/-! ## Integers -/

theorem standard_G (n : Numeral) {p : ℕ} (hp : p ≠ 0) (hp99 : p ≤ greatestPrecision) : standard n 'G' (some p) =
    some (signedIfNonzero n.amount.isNegative (general n.amount.toBinary64.abs p 'G')) := by
  have hletter : 'G'.toUpper = 'G' := by decide
  obtain ⟨p, rfl⟩ := Nat.exists_eq_add_one_of_ne_zero hp
  unfold standard
  rw [if_neg (any_precision (fun q hq => by cases hq; exact hp99)), hletter]
  rfl

/-- An integer goes on as the nearest binary number. -/
theorem abs_toBinary64_ofInt (i : Int64Value) :
    (Amount.ofInt i.1).toBinary64.abs = (Binary64.ofNat i.1.natAbs).abs := by
  obtain ⟨d, hd, -, hcoefficient, hscale⟩ := Amount.ofInt_eq i.2.1 i.2.2
  have hmagnitude : d.magnitude64 = Binary64.ofNat i.1.natAbs := by
    rw [Decimal.magnitude64, hscale, if_pos rfl, pow_zero, Nat.div_one, hcoefficient]
  have habs : ∀ x : Binary64, x.neg.abs = x.abs := by
    intro x
    cases x <;> rfl
  rw [hd, Amount.toBinary64, Decimal.toBinary64, hmagnitude]
  split
  · exact habs _
  · rfl

theorem general_zero {p : ℕ} (hp : p ≠ 0) (letter : Char) : general (Binary64.ofNat 0) p letter = ['0'] := by
  have hsmall : ¬ ((0 : ℤ) < -4 || (p : ℤ) ≤ 0) = true := by
    simp only [Bool.or_eq_true, decide_eq_true_eq]
    omega
  rw [Binary64.ofNat_zero, general, significantDigits, if_pos rfl]
  simp only [if_neg hsmall, natOfDigits_replicate_zero, Binary64.Numeral.round, if_true]
  decide

/-- The nearest binary number under the general format, with enough digits for the whole number. -/
theorem general_ofNat {n p : ℕ} (hn : n < 2 ^ 64) (hp : p ≠ 0) (hp99 : p ≤ 99) (hlt : n < 10 ^ p) (negative : Bool) :
    signedIfNonzero (negative && n != 0) (general (Binary64.ofNat n).abs p 'G') =
      Binary64.signed (negative && n != 0) (if (Binary64.ofNat n).magnitude < 10 ^ p then (Binary64.ofNat n).toText
        else '1' :: exponentText 'G' 2 p) := by
  rcases eq_or_ne n 0 with rfl | hne
  · have hmagnitude : (Binary64.ofNat 0).magnitude = 0 := by
      rw [Binary64.ofNat_zero, Binary64.magnitude, Nat.cast_zero, zero_mul]
    have habs : (Binary64.ofNat 0).abs = Binary64.ofNat 0 := by decide
    have htext : (Binary64.ofNat 0).toText = ['0'] := by decide
    rw [habs, general_zero hp, hmagnitude, if_pos (by positivity), htext, bne_self_eq_false, Bool.and_false]
    rfl
  · obtain ⟨m, e, h, hnearest, hm, near, hvalue, -, hle⟩ := Binary64.ofNat_whole hne hn
    rw [hnearest, Binary64.abs, Binary64.magnitude, hvalue]
    by_cases hsmall : near < 10 ^ p
    · obtain ⟨shown, hshown, htext⟩ := Binary64.toText_whole hm h hvalue
      rw [if_pos (by exact_mod_cast hsmall), general_whole hm hp hp99 hvalue hsmall, signedIfNonzero_eq]
      rw [htext, hasNonzeroDigit_iff (isDigits_ofNat shown), natOfDigits_ofNat]
      exact hshown
    · obtain rfl : near = 10 ^ p := le_antisymm (hle p hlt.le) (not_lt.1 hsmall)
      rw [if_neg (by exact_mod_cast hsmall), general_carried hm hp hvalue, signedIfNonzero_eq]
      rfl

/-- **Integers under the general format** with enough digits for them. Up to `2 ^ 53` the text is that of the integer.
In general it is the shortest text of the nearest binary number, unless that number is a power of ten with one digit
more than there are to show, which has an exponent. -/
theorem format_general (i : Int64Value) {p : ℕ} (hp99 : p ≤ 99) (hlength : (ofNat i.1.natAbs).length ≤ p) :
    (i.1.natAbs ≤ 2 ^ 53 → (Value.integer i).format (specifier 'G' (some p)) = .ok (ofInt i.1)) ∧
    (Value.integer i).format (specifier 'G' (some p)) = .ok (Binary64.signed (decide (i.1 < 0))
      (if (Binary64.ofNat i.1.natAbs).magnitude < 10 ^ p then (Binary64.ofNat i.1.natAbs).toText
        else '1' :: exponentText 'G' 2 p)) := by
  have hp : p ≠ 0 := by
    rintro rfl
    exact ofNat_ne_nil _ (List.length_eq_zero_iff.1 (Nat.le_zero.1 hlength))
  have hlt : i.1.natAbs < 10 ^ p := (Nat.length_toDigits_le_iff (by decide) (Nat.pos_of_ne_zero hp)).1 hlength
  have hfits : i.1.natAbs < 2 ^ 64 := by
    have hleast := i.2.1
    have hgreatest := i.2.2
    unfold Integer.least at hleast
    unfold Integer.greatest at hgreatest
    omega
  have hsign : decide (i.1 < 0) = (decide (i.1 < 0) && i.1.natAbs != 0) := by
    by_cases hneg : i.1 < 0
    · have hne : i.1.natAbs ≠ 0 := by omega
      simp [hneg, hne]
    · simp [hneg]
  have hformat : (Value.integer i).format (specifier 'G' (some p)) = .ok (Binary64.signed (decide (i.1 < 0))
      (if (Binary64.ofNat i.1.natAbs).magnitude < 10 ^ p then (Binary64.ofNat i.1.natAbs).toText
        else '1' :: exponentText 'G' 2 p)) := by
    refine format_integer_standard i (fun q hq => by cases hq; exact hp99) (by decide) ?_
    rw [standard_G _ hp hp99, Numeral.amount, Amount.isNegative_ofInt, abs_toBinary64_ofInt, hsign,
      general_ofNat hfits hp hp99 hlt]
  refine ⟨fun hexact => ?_, hformat⟩
  have hmagnitude : (Binary64.ofNat i.1.natAbs).magnitude < 10 ^ p := by
    rw [Binary64.magnitude_ofNat hexact]
    exact_mod_cast hlt
  rw [hformat, if_pos hmagnitude, Binary64.toText_ofNat hexact]
  simp only [Binary64.signed, ofInt, decide_eq_true_eq]

/-- The least integer is a power of two, and yet shown by its shortest digits. -/
theorem format_general_least :
    let i : Int64Value := ⟨-2 ^ 63, by decide⟩
    19 ≤ 99 ∧ (ofNat i.1.natAbs).length ≤ 19 ∧
      (Value.integer i).format (specifier 'G' (some 19)) = .ok "-9223372036854776000".toList := by
  intro i
  have hp : 19 ≤ 99 := by decide
  have hlength : (ofNat i.1.natAbs).length ≤ 19 := by decide
  have hformat := (format_general i hp hlength).2
  have hnearest : Binary64.ofNat i.1.natAbs = .finite false (2 ^ 52) 11 (by decide) := by decide +kernel
  have hsmall : (Binary64.finite false (2 ^ 52) 11 (by decide)).magnitude < 10 ^ 19 := by
    rw [Binary64.magnitude]
    norm_num
  have htext : (Binary64.finite false (2 ^ 52) 11 (by decide)).toText = "9223372036854776000".toList := by
    decide +kernel
  have hnegative : i.1 < 0 := by decide
  have hsigned : Binary64.signed true "9223372036854776000".toList = "-9223372036854776000".toList := by decide
  rw [hnearest, if_pos hsmall, htext, decide_eq_true hnegative, hsigned] at hformat
  exact ⟨hp, hlength, hformat⟩

/-- The first integer past `2 ^ 53` is shown as the one before it. -/
theorem format_general_rounded :
    let i : Int64Value := ⟨2 ^ 53 + 1, by decide⟩
    (ofNat i.1.natAbs).length ≤ 16 ∧ (Value.integer i).format "G16".toList = .ok "9007199254740992".toList ∧
      ofInt i.1 = "9007199254740993".toList := by
  refine ⟨by decide, ?_, by decide⟩
  rfl

end Display

end Placeholder
