/-
Positional texts, read as decimal numbers. Up to 28 places are read as they are; of more, the next digit decides
whether the number is rounded up, which is what rounding to 28 places does with a number that is not negative
(`readDigits_positional`). So what is read is near to the number by half a unit of the 28th place, and a smaller number
is read as zero. A whole number that does not fit into 96 bits is refused (`readDigits_positional_large`).
-/
import Placeholder.Proofs.Number.ReadBack
import Placeholder.Proofs.Number.Shortest

namespace Placeholder

open Text (IsDigits isAsciiDigit natOfDigits digitValue)

/-- Rounding a number of tenths goes by the last of them. -/
theorem Ratio.halfUp_tenths {n unit : ℕ} (h : 0 < unit) : (Ratio.mk n (10 * unit)).halfUp =
    if 5 ≤ n / unit % 10 then n / unit / 10 + 1 else n / unit / 10 := by
  have hdouble : 2 * n + 10 * unit = 2 * (n + 5 * unit) := by ring
  have hquotient : (n + 5 * unit) / (10 * unit) = (n / unit + 5) / 10 := by
    rw [Nat.mul_comm 10, ← Nat.div_div_eq_div_mul, Nat.add_mul_div_right _ _ h]
  rw [halfUp]
  dsimp only
  rw [hdouble, Nat.mul_div_mul_left _ _ two_pos, hquotient]
  split <;> omega

namespace Binary64.Decimals

/-- With places, the digits stand around a point. -/
theorem positional_pointed {d : Decimals} {places : ℕ} (hplaces : places ≠ 0) (hexponent : d.exponent = -places) :
    ∃ whole fraction, d.positional = whole ++ '.' :: fraction ∧ whole ≠ [] ∧ IsDigits (whole ++ fraction) ∧
      fraction.length = places ∧ natOfDigits (whole ++ fraction) = d.digits := by
  let padded := Text.padLeft (places + 1) '0' (Text.ofNat d.digits)
  have hlength : places + 1 ≤ padded.length := by
    rw [Text.length_padLeft]
    exact le_max_left _ _
  refine ⟨padded.take (padded.length - places), padded.drop (padded.length - places), ?_, ?_, ?_, ?_, ?_⟩
  · have hneg : ¬ (0 : ℤ) ≤ -places := by omega
    rw [positional, hexponent]
    simp only [if_neg hneg, neg_neg, Int.toNat_natCast]
    rfl
  · refine List.ne_nil_of_length_pos ?_
    rw [List.length_take]
    omega
  · rw [List.take_append_drop]
    exact Text.isDigits_padLeft (Text.isDigits_ofNat _) _
  · rw [List.length_drop]
    omega
  · rw [List.take_append_drop]
    show natOfDigits (Text.padLeft (places + 1) '0' (Text.ofNat d.digits)) = d.digits
    rw [Text.natOfDigits_padLeft, Text.natOfDigits_ofNat]

/-- A positional text is that of a whole number, or has its digits around a point. -/
theorem positional_cases {d : Decimals} (hd : d.digits ≠ 0) :
    (0 ≤ d.exponent ∧ ∃ n : ℕ, d.value = n ∧ d.positional = Text.ofNat n) ∨
    (d.exponent < 0 ∧ ∃ whole fraction, d.positional = whole ++ '.' :: fraction ∧ whole ≠ [] ∧
      IsDigits (whole ++ fraction) ∧ d.exponent = -fraction.length ∧ natOfDigits (whole ++ fraction) = d.digits ∧
      d.value = natOfDigits (whole ++ fraction) / 10 ^ fraction.length) := by
  rcases le_or_gt 0 d.exponent with hexponent | hexponent
  · have hwhole : d.digits * 10 ^ d.exponent.toNat ≠ 0 :=
      (Nat.mul_pos (Nat.pos_of_ne_zero hd) (by positivity)).ne'
    have hvalue := value_of_exponent hexponent
    exact .inl ⟨hexponent, _, hvalue, positional_whole hwhole hexponent hvalue⟩
  · obtain ⟨places, hplaces⟩ : ∃ places : ℕ, d.exponent = -places := ⟨(-d.exponent).toNat, by omega⟩
    obtain ⟨whole, fraction, hpositional, hne, hall, rfl, hnumber⟩ := positional_pointed (by omega) hplaces
    have hvalue := value_of_places hplaces
    rw [← hnumber] at hvalue
    exact .inr ⟨hexponent, whole, fraction, hpositional, hne, hall, hplaces, hnumber, hvalue⟩

end Binary64.Decimals

namespace Decimal

/-- The number as far as 28 places go. -/
def kept (q : ℚ) : ℚ := round (q * 10 ^ 28) / 10 ^ 28

theorem kept_of_fits {n scale : ℕ} (h : scale ≤ 28) : kept ((n : ℚ) / 10 ^ scale) = n / 10 ^ scale := by
  have hpow : (10 : ℚ) ^ 28 = 10 ^ scale * 10 ^ (28 - scale) := by rw [← pow_add, Nat.add_sub_cancel' h]
  have hwhole : (n : ℚ) / 10 ^ scale * 10 ^ 28 = ((n * 10 ^ (28 - scale) : ℕ) : ℚ) := by
    rw [hpow]
    push_cast
    field_simp
  rw [kept, hwhole, round_natCast, hpow]
  push_cast
  field_simp

/-- Digits with no more than 28 places are kept. -/
theorem kept_value {d : Binary64.Decimals} (h : -28 ≤ d.exponent) : kept d.value = d.value := by
  rcases le_or_gt 0 d.exponent with hexponent | hexponent
  · have hkept := kept_of_fits (n := d.digits * 10 ^ d.exponent.toNat) (Nat.zero_le 28)
    rw [pow_zero, div_one] at hkept
    rw [Binary64.Decimals.value_of_exponent hexponent, hkept]
  · obtain ⟨places, hplaces⟩ : ∃ places : ℕ, d.exponent = -places := ⟨(-d.exponent).toNat, by omega⟩
    rw [Binary64.Decimals.value_of_places hplaces]
    exact kept_of_fits (by omega)

/-- Half a unit of the last place is kept, and no less. -/
theorem kept_eq_zero {q : ℚ} (h : 0 ≤ q) : kept q = 0 ↔ q < 5 / 10 ^ 29 := by
  have hround : round (q * 10 ^ 28) = 0 ↔ q * 10 ^ 28 < 1 / 2 := by
    have hscaled : 0 ≤ q * 10 ^ 28 := by positivity
    rw [round_eq, Int.floor_eq_zero_iff, Set.mem_Ico]
    constructor
    · intro hbetween
      linarith [hbetween.2]
    · intro hlt
      constructor <;> linarith
  rw [kept, div_eq_zero_iff, or_iff_left (by positivity), Int.cast_eq_zero, hround]
  constructor
  · intro hlt
    norm_num at hlt ⊢
    linarith
  · intro hlt
    norm_num at hlt ⊢
    linarith

theorem kept_nonneg {q : ℚ} (h : 0 ≤ q) : 0 ≤ kept q := by
  have hround : 0 ≤ round (q * 10 ^ 28) := by
    rw [round_eq]
    positivity
  have hcast : (0 : ℚ) ≤ round (q * 10 ^ 28) := by exact_mod_cast hround
  rw [kept]
  positivity

/-- Of more than 28 places, the digit behind them decides. -/
theorem kept_of_long {front : ℕ} {c : Char} {rest : Text} (h : IsDigits (c :: rest)) :
    kept (((10 * front + digitValue c) * 10 ^ rest.length + natOfDigits rest : ℕ) / 10 ^ (28 + (rest.length + 1))) =
      (if 5 ≤ digitValue c then front + 1 else front : ℕ) / 10 ^ 28 := by
  have hdigit := Text.digitValue_le (h c (List.mem_cons_self ..))
  have hlt : natOfDigits rest < 10 ^ rest.length := Text.natOfDigits_lt (h.subset (List.subset_cons_self c rest))
  have hunit : 0 < 10 ^ rest.length := Nat.pow_pos (by decide)
  have htenths : ((10 * front + digitValue c) * 10 ^ rest.length + natOfDigits rest) / 10 ^ rest.length =
      10 * front + digitValue c := by
    rw [Nat.mul_comm, Nat.mul_add_div hunit, Nat.div_eq_of_lt hlt, Nat.add_zero]
  have hup : (Ratio.mk ((10 * front + digitValue c) * 10 ^ rest.length + natOfDigits rest)
      (10 * 10 ^ rest.length)).halfUp = if 5 ≤ digitValue c then front + 1 else front := by
    rw [Ratio.halfUp_tenths hunit, htenths, Nat.mul_add_mod, Nat.mod_eq_of_lt (by omega), Nat.mul_add_div (by decide),
      Nat.div_eq_of_lt (by omega)]
    rfl
  rw [← hup, ← Int.cast_natCast (Ratio.halfUp _), Ratio.halfUp_eq_round (Nat.mul_pos (by decide) hunit), kept,
    Ratio.value, pow_add]
  push_cast
  congr 3
  field_simp
  ring

/-! ## Reading -/

/-- Digits before the point that do not fit are refused. -/
theorem readDigits_overflow {started : Bool} {n scale : ℕ} {t : Text} (h : IsDigits t) (hn : n < 2 ^ 96)
    (hlarge : 2 ^ 96 ≤ n * 10 ^ t.length + natOfDigits t) :
    readDigits false started ⟨n, scale⟩ t = .error .tooManyDigits := by
  induction t generalizing started n scale with
  | nil =>
    simp only [List.length_nil, Nat.pow_zero, Nat.mul_one, natOfDigits, List.foldl_nil, Nat.add_zero] at hlarge
    omega
  | cons c t ih =>
    rw [← Text.prefix_cons] at hlarge
    rw [readDigits, Bool.false_and, if_neg Bool.false_ne_true, if_pos (h c (List.mem_cons_self ..))]
    dsimp only
    by_cases hfits : 10 * n + digitValue c < 2 ^ 96
    · rw [if_pos hfits]
      exact ih (h.subset (List.subset_cons_self c t)) hfits hlarge
    · rw [if_neg hfits]
      rfl

/-- The first digit behind 28 places rounds them. -/
theorem roundBy_digit {n scale : ℕ} {c : Char} (hc : isAsciiDigit c = true) (hn : n + 1 < 2 ^ 96) :
    Digits.roundBy ⟨n, scale⟩ c = .ok ⟨if 5 ≤ digitValue c then n + 1 else n, scale⟩ := by
  rw [Digits.roundBy, hc, Bool.true_or, Bool.true_or, if_pos rfl, Bool.true_and]
  by_cases hfive : 5 ≤ digitValue c
  · rw [if_pos (decide_eq_true hfive), if_pos hfive]
    exact if_pos hn
  · rw [if_neg (by simpa using hfive), if_neg hfive]

section

variable {whole fraction : Text} (hdigits : IsDigits (whole ++ fraction)) (hne : whole ≠ [])
  (hfits : natOfDigits (whole ++ fraction) + 1 < 2 ^ 96)
include hdigits hne hfits

/-- The digits around a point, up to 28 places. -/
theorem readDigits_places : readDigits false false ⟨0, 0⟩ (whole ++ '.' :: fraction) =
    readDigits true true ⟨natOfDigits (whole ++ fraction.take 28), (fraction.take 28).length⟩ (fraction.drop 28) := by
  obtain ⟨hwhole, hfraction⟩ := Text.isDigits_append.1 hdigits
  have htake : IsDigits (fraction.take 28) := hfraction.subset (List.take_subset 28 fraction)
  have hlewhole : natOfDigits whole ≤ natOfDigits (whole ++ fraction) := by
    rw [Text.natOfDigits_append]
    exact Text.prefix_le _ _
  have hletake : natOfDigits (whole ++ fraction.take 28) ≤ natOfDigits (whole ++ fraction) := by
    have hsplit : whole ++ fraction = (whole ++ fraction.take 28) ++ fraction.drop 28 := by
      rw [List.append_assoc, List.take_append_drop]
    rw [hsplit, Text.natOfDigits_append (whole ++ fraction.take 28)]
    exact Text.prefix_le _ _
  have hfirst : readDigits false false ⟨0, 0⟩ (whole ++ '.' :: fraction) =
      readDigits false true ⟨natOfDigits whole, 0⟩ ('.' :: fraction) := by
    have hstarted : (false || !whole.isEmpty) = true := by
      rw [List.isEmpty_eq_false_iff.2 hne]
      rfl
    rw [readDigits_digits _ hwhole (by omega) (fun htrue => by cases htrue) fun _ => rfl, hstarted, Nat.zero_mul,
      Nat.zero_add, if_neg Bool.false_ne_true]
  have hpoint : readDigits false true ⟨natOfDigits whole, 0⟩ ('.' :: fraction) =
      readDigits true true ⟨natOfDigits whole, 0⟩ (fraction.take 28 ++ fraction.drop 28) := by
    rw [List.take_append_drop]
    rfl
  have hlength : (fraction.take 28).length ≤ 28 := by
    rw [List.length_take]
    exact Nat.min_le_left _ _
  rw [hfirst, hpoint, readDigits_digits _ htake (by rw [← Text.natOfDigits_append]; omega) (fun _ => by omega)
    (fun hfalse => by cases hfalse), ← Text.natOfDigits_append, Bool.true_or, if_pos rfl, Nat.zero_add]

/-- Of digits around a point 28 places are kept. -/
theorem readDigits_pointed : ∃ n scale, readDigits false false ⟨0, 0⟩ (whole ++ '.' :: fraction) = .ok ⟨n, scale⟩ ∧
    n < 2 ^ 96 ∧ scale ≤ 28 ∧
    (n : ℚ) / 10 ^ scale = kept ((natOfDigits (whole ++ fraction) : ℚ) / 10 ^ fraction.length) := by
  rw [readDigits_places hdigits hne hfits]
  rcases Nat.le_total fraction.length 28 with hshort | hlong
  · rw [List.take_of_length_le hshort, List.drop_eq_nil_of_le hshort]
    exact ⟨_, _, rfl, by omega, hshort, (kept_of_fits hshort).symm⟩
  · cases hrest : fraction.drop 28 with
    | nil =>
      have hshort : fraction.length ≤ 28 := List.drop_eq_nil_iff.1 hrest
      rw [List.take_of_length_le hshort]
      exact ⟨_, _, rfl, by omega, hshort, (kept_of_fits hshort).symm⟩
    | cons c rest =>
      have hlength : (fraction.take 28).length = 28 := by
        rw [List.length_take]
        exact Nat.min_eq_left hlong
      have hsplit : whole ++ fraction = (whole ++ fraction.take 28) ++ c :: rest := by
        rw [← hrest, List.append_assoc, List.take_append_drop]
      have hbehind : IsDigits (c :: rest) := (Text.isDigits_append.1 (hsplit ▸ hdigits)).2
      have hvalue : natOfDigits (whole ++ fraction) =
          (10 * natOfDigits (whole ++ fraction.take 28) + digitValue c) * 10 ^ rest.length + natOfDigits rest := by
        rw [Text.prefix_cons, hsplit, Text.natOfDigits_append (whole ++ fraction.take 28)]
      have hplaces : fraction.length = 28 + (rest.length + 1) := by
        have hdrop := congrArg List.length hrest
        rw [List.length_drop, List.length_cons] at hdrop
        omega
      have hsmall : natOfDigits (whole ++ fraction.take 28) + 1 < 2 ^ 96 := by
        have hunit : 0 < 10 ^ rest.length := Nat.pow_pos (by decide)
        have hle := Text.prefix_le (10 * natOfDigits (whole ++ fraction.take 28) + digitValue c) rest
        have hless := Nat.mul_le_mul_left (10 * natOfDigits (whole ++ fraction.take 28) + digitValue c) hunit
        omega
      refine ⟨if 5 ≤ digitValue c then natOfDigits (whole ++ fraction.take 28) + 1
        else natOfDigits (whole ++ fraction.take 28), 28, ?_, ?_, le_rfl, ?_⟩
      · rw [hlength, readDigits, if_pos rfl]
        exact roundBy_digit (hbehind c (List.mem_cons_self ..)) hsmall
      · split <;> omega
      · rw [hvalue, hplaces, kept_of_long hbehind]

end

/-! ## Positional texts -/

variable {d : Binary64.Decimals} (hpositive : d.digits ≠ 0) (hdigits : d.digits ≤ 10 ^ 17)
include hpositive hdigits

/-- A positional text that fits is read as the number with 28 places. -/
theorem readDigits_positional (hfits : d.value < 2 ^ 96) : ∃ n scale,
    readDigits false false ⟨0, 0⟩ d.positional = .ok ⟨n, scale⟩ ∧ n < 2 ^ 96 ∧ scale ≤ 28 ∧
      (n : ℚ) / 10 ^ scale = kept d.value := by
  rcases Binary64.Decimals.positional_cases hpositive with
    ⟨hexponent, n, hvalue, hpositional⟩ | ⟨-, whole, fraction, hpositional, hne, hall, -, hnumber, hvalue⟩
  · have hlt : n < 2 ^ 96 := by
      rw [hvalue] at hfits
      exact_mod_cast hfits
    refine ⟨n, 0, ?_, hlt, Nat.zero_le _, ?_⟩
    · have hread := readDigits_ofNat hlt []
      rw [List.append_nil] at hread
      rw [hpositional, hread]
      rfl
    · rw [pow_zero, div_one, kept_value (by omega), hvalue]
  · rw [hpositional, hvalue]
    exact readDigits_pointed hall hne (by omega)

/-- A whole number of more than 96 bits is refused. -/
theorem readDigits_positional_large (hlarge : 2 ^ 96 ≤ d.value) :
    0 ≤ d.exponent ∧ readDigits false false ⟨0, 0⟩ d.positional = .error .tooManyDigits := by
  rcases Binary64.Decimals.positional_cases hpositive with
    ⟨hexponent, n, hvalue, hpositional⟩ | ⟨hneg, -⟩
  · refine ⟨hexponent, ?_⟩
    rw [hpositional]
    refine readDigits_overflow (Text.isDigits_ofNat _) (by decide) ?_
    rw [Nat.zero_mul, Nat.zero_add, Text.natOfDigits_ofNat]
    rw [hvalue] at hlarge
    exact_mod_cast hlarge
  · have hone : (10 : ℚ) ^ d.exponent ≤ 1 := zpow_le_one_of_nonpos₀ (by norm_num) hneg.le
    have hdigitsq : (d.digits : ℚ) ≤ 10 ^ 17 := by exact_mod_cast hdigits
    have hsmall : d.value ≤ d.digits := mul_le_of_le_one_right (Nat.cast_nonneg _) hone
    exact absurd hlarge (by linarith)

end Decimal

end Placeholder
