/-
Exact values with a fixed number of places. `F`, `N` and `C` show one number, with its thousands together, with its
thousands parted, and as an amount of money (`format_fixed`). It is the number of the value rounded once, with a half
away from zero; so it is zero where it rounds to zero, and a zero has neither a sign nor parentheses.
-/
import Placeholder.Proofs.Display.Exact
import Placeholder.Proofs.Display.Picture
import Placeholder.Proofs.Text

namespace Placeholder.Display

open Text Picture

/-! ## Specifiers -/

/-- The standard specifier with a letter and a precision, if there is one. -/
def specifier (letter : Char) (precision : Option Nat) : Text := letter :: (precision.map ofNat).getD []

theorem standardSpec?_specifier {letter : Char} (hletter : isAsciiLetter letter = true) {precision : Option Nat}
    (h : ∀ p ∈ precision, p ≤ greatestPrecision) :
    standardSpec? (specifier letter precision) = some (letter, precision) := by
  cases precision with
  | none => simp [specifier, standardSpec?, hletter]
  | some p =>
    have hne : ofNat p ≠ [] := Nat.toDigits_ne_nil
    have hlength : (ofNat p).length ≤ 9 :=
      (Nat.length_toDigits_le_iff (by decide) (by decide)).2 ((h p rfl).trans_lt (by decide))
    have hdigits : (ofNat p).all isAsciiDigit = true := List.all_eq_true.2 (isDigits_ofNat p)
    simp [specifier, standardSpec?, hletter, hne, hlength, hdigits]

/-! ## Reading back -/

/-- The number that a numeral denotes. -/
def denoted (t : Text) : ℚ :=
  if t.head? = some '-' then -(natOfDigits (whole t.tail) + fractionOfDigits (fraction t.tail))
  else natOfDigits (whole t) + fractionOfDigits (fraction t)

/-- The first point of a numeral is the one between its digits. -/
theorem split_pointed {digits : Text} (h : IsDigits digits) (places : Text) :
    whole (digits ++ pointed places) = digits ∧ fraction (digits ++ pointed places) = places := by
  have hpass : ∀ c ∈ digits, (c != '.') = true := by
    intro c hc
    rw [bne_iff_ne]
    rintro rfl
    exact absurd (h _ hc) (by decide)
  rw [whole, fraction, List.takeWhile_append_of_pos hpass, List.dropWhile_append_of_pos hpass]
  cases places <;> simp [pointed]

theorem sign_not_mem {digits places : Text} (hdigits : IsDigits digits) (hplaces : IsDigits places) :
    '-' ∉ digits ++ pointed places := by
  rw [pointed]
  split
  · rw [List.append_nil]
    exact fun h => absurd (hdigits _ h) (by decide)
  · rw [List.mem_append, List.mem_cons]
    rintro (h | h | h)
    · exact absurd (hdigits _ h) (by decide)
    · cases h
    · exact absurd (hplaces _ h) (by decide)

theorem withoutCommas_joinWith (groups : List Text) :
    withoutCommas (joinWith [','] groups) = withoutCommas groups.flatten := by
  fun_induction joinWith [','] groups with
  | case1 => rfl
  | case2 t => rw [List.flatten_singleton]
  | case3 t ts hne ih =>
    have hcomma : withoutCommas [','] = [] := rfl
    rw [withoutCommas_append, withoutCommas_append, ih, List.flatten_cons, withoutCommas_append, hcomma,
      List.append_nil]

namespace Picture.Shown

/-- The number without its sign. -/
def unsigned (n : Shown) : Shown := { n with negative := false }

/-- As an amount of money: behind a currency sign, and in parentheses instead of behind a minus sign. -/
def money (n : Shown) : Text :=
  if n.negative then ['('] ++ '¤' :: n.unsigned.text ++ [')'] else '¤' :: n.unsigned.text

theorem denoted_numeral {n : Shown} (h : IsDigits (n.whole ++ n.places)) : denoted n.numeral = n.value := by
  obtain ⟨hdigits, hplaces⟩ := isDigits_append.1 h
  obtain ⟨hwhole, hfraction⟩ := split_pointed hdigits n.places
  rw [denoted, numeral, value, sign, List.append_assoc]
  by_cases hnegative : n.negative = true
  · rw [if_pos hnegative, if_pos hnegative, List.singleton_append, List.head?_cons, if_pos rfl, List.tail_cons, hwhole,
      hfraction, neg_one_mul]
  · have hunsigned : (n.whole ++ pointed n.places).head? ≠ some '-' := fun hhead =>
      sign_not_mem hdigits hplaces (List.mem_of_head? hhead)
    rw [if_neg hnegative, if_neg hnegative, List.nil_append, if_neg hunsigned, hwhole, hfraction, one_mul]

theorem withoutCommas_text {n : Shown} (h : IsDigits (n.whole ++ n.places)) : withoutCommas n.text = n.numeral := by
  obtain ⟨hwhole, hplaces⟩ := isDigits_append.1 h
  have hgroups : withoutCommas (joinWith [','] n.groups) = n.whole := by
    rw [withoutCommas_joinWith]
    exact withoutCommas_digits hwhole
  rw [text, numeral, withoutCommas_append, withoutCommas_append, n.sign_eq.2, hgroups, withoutCommas_pointed hplaces]

/-- A number is shown with a number of places: it is rounded to them, a half away from zero, and has a sign if it is
negative then; the whole is written without leading zeros, and its groups are of three digits, but for the first. -/
structure Rounds (n : Shown) (places : Nat) (q : ℚ) : Prop where
  reads : denoted n.numeral = roundAway places q
  negative_iff : n.negative = true ↔ roundAway places q < 0
  isDigits : IsDigits (n.whole ++ n.places)
  whole_eq : n.whole = ofNat (natOfDigits n.whole)
  length_eq : n.places.length = places
  grouped : ∃ first others, n.groups = first :: others ∧ 1 ≤ first.length ∧ first.length ≤ 3 ∧
    ∀ group ∈ others, group.length = 3

end Picture.Shown

/-! ## Decimal numbers -/

theorem fixed_roundAway (d : Decimal) (places : Nat) :
    ∃ w : Nat, (d.fixed places).1 = ofNat w ∧ (d.fixed places).2.length = places ∧ IsDigits (d.fixed places).2 ∧
      (w : ℚ) + fractionOfDigits (d.fixed places).2 = |roundAway places d.value| := by
  obtain ⟨w, hwhole, hlength, hplaces, hvalue⟩ := d.fixed_value places
  exact ⟨w, hwhole, hlength, hplaces, by rw [hvalue, (roundAway_cases places d.value).1, d.abs_value]⟩

/-- A decimal number as it is shown with a number of places. -/
def Picture.Shown.ofDecimal (places : Nat) (d : Decimal) : Shown where
  negative := decide (roundAway places d.value < 0)
  groups := thousands (d.fixed places).1
  places := (d.fixed places).2

theorem whole_ofDecimal (places : Nat) (d : Decimal) : (Shown.ofDecimal places d).whole = (d.fixed places).1 :=
  (thousands_spec _).1

theorem rounds_ofDecimal (places : Nat) (d : Decimal) : (Shown.ofDecimal places d).Rounds places d.value := by
  obtain ⟨w, hwhole, hlength, hplaces, hvalue⟩ := fixed_roundAway d places
  have hdigits : IsDigits ((Shown.ofDecimal places d).whole ++ (Shown.ofDecimal places d).places) := by
    rw [whole_ofDecimal, hwhole]
    exact isDigits_append.2 ⟨isDigits_ofNat w, hplaces⟩
  refine ⟨?_, decide_eq_true_iff, hdigits, ?_, hlength, ?_⟩
  · rw [Shown.denoted_numeral hdigits]
    refine Shown.value_eq_of_abs ?_ decide_eq_true_iff
    rw [whole_ofDecimal, hwhole, natOfDigits_ofNat]
    exact hvalue
  · rw [whole_ofDecimal, hwhole, natOfDigits_ofNat]
  · have hne : (d.fixed places).1 ≠ [] := by
      rw [hwhole]
      exact Nat.toDigits_ne_nil
    obtain ⟨first, others, hgroups, hfirst, hothers⟩ := (thousands_spec (d.fixed places).1).2 hne
    exact ⟨first, others, hgroups, by omega, by omega, hothers⟩

/-- The sign of a number is shown where the number is negative after it is rounded. -/
theorem negative_ofDecimal (places : Nat) (d : Decimal) {body : Text}
    (h : hasNonzeroDigit body = hasNonzeroDigit ((d.fixed places).1 ++ pointed (d.fixed places).2)) :
    (d.isNegative && hasNonzeroDigit body) = (Shown.ofDecimal places d).negative := by
  obtain ⟨w, hwhole, -, hplaces, hvalue⟩ := fixed_roundAway d places
  have hnonzero : hasNonzeroDigit body = true ↔ roundAway places d.value ≠ 0 := by
    rw [h, hwhole, hasNonzeroDigit_append, hasNonzeroDigit_pointed, hasNonzeroDigit_sides (isDigits_ofNat w) hplaces,
      natOfDigits_ofNat, hvalue, ne_eq, abs_eq_zero]
  rw [Bool.eq_iff_iff, Bool.and_eq_true, Decimal.isNegative_iff, hnonzero, ← (roundAway_cases places d.value).2]
  exact decide_eq_true_iff.symm

theorem joinPoint_eq (whole places : Text) : joinPoint whole places = whole ++ pointed places := by
  rw [joinPoint, pointed]
  split
  · rw [List.append_nil]
  · rfl

theorem signedIfNonzero_eq {body : Text} (h : hasNonzeroDigit body = true) (negative : Bool) :
    signedIfNonzero negative body = Binary64.signed negative body := by
  rw [signedIfNonzero, h, Bool.and_true, Binary64.signed]

theorem signedIfNonzero_ofDecimal (places : Nat) (d : Decimal) {body : Text}
    (h : hasNonzeroDigit body = hasNonzeroDigit ((d.fixed places).1 ++ pointed (d.fixed places).2)) :
    signedIfNonzero d.isNegative body = (Shown.ofDecimal places d).sign ++ body := by
  rw [signedIfNonzero, negative_ofDecimal places d h, Shown.sign]
  split <;> rfl

theorem hasNonzeroDigit_grouped (whole rest : Text) :
    hasNonzeroDigit (groupThousands whole ++ rest) = hasNonzeroDigit (whole ++ rest) := by
  rw [hasNonzeroDigit_append, hasNonzeroDigit_append, hasNonzeroDigit_groupThousands]

section

variable {n : Numeral} {d : Decimal} {precision : Option Nat}

theorem any_precision (h : ∀ p ∈ precision, p ≤ greatestPrecision) :
    ¬ precision.any (greatestPrecision < ·) = true := by
  cases precision with
  | none => exact Bool.false_ne_true
  | some p => simpa using h p rfl

theorem standard_F (hn : n.amount = .decimal d) (h : ∀ p ∈ precision, p ≤ greatestPrecision) :
    standard n 'F' precision = some (Shown.ofDecimal (precision.getD 2) d).numeral := by
  have hletter : 'F'.toUpper = 'F' := by decide
  unfold standard
  rw [if_neg (any_precision h), hletter]
  simp only [hn, Amount.fixed, Amount.isNegative]
  rw [joinPoint_eq, signedIfNonzero_ofDecimal (precision.getD 2) d rfl, Shown.numeral, whole_ofDecimal,
    List.append_assoc]
  rfl

theorem standard_N (hn : n.amount = .decimal d) (h : ∀ p ∈ precision, p ≤ greatestPrecision) :
    standard n 'N' precision = some (Shown.ofDecimal (precision.getD 2) d).text := by
  have hletter : 'N'.toUpper = 'N' := by decide
  unfold standard
  rw [if_neg (any_precision h), hletter]
  simp only [hn, Amount.fixed, Amount.isNegative]
  rw [joinPoint_eq, signedIfNonzero_ofDecimal (precision.getD 2) d (hasNonzeroDigit_grouped _ _), Shown.text,
    List.append_assoc, groupThousands_eq]
  rfl

theorem standard_C (hn : n.amount = .decimal d) (h : ∀ p ∈ precision, p ≤ greatestPrecision) :
    standard n 'C' precision = some (Shown.ofDecimal (precision.getD 2) d).money := by
  have hletter : 'C'.toUpper = 'C' := by decide
  have hunsigned : groupThousands (d.fixed (precision.getD 2)).1 ++ pointed (d.fixed (precision.getD 2)).2 =
      (Shown.ofDecimal (precision.getD 2) d).unsigned.text := by
    rw [groupThousands_eq]
    rfl
  unfold standard
  rw [if_neg (any_precision h), hletter]
  simp only [hn, Amount.fixed, Amount.isNegative]
  rw [negative_ofDecimal (precision.getD 2) d ?_, joinPoint_eq, hunsigned, Shown.money]
  · rfl
  · rw [joinPoint_eq]
    exact hasNonzeroDigit_grouped _ _

end

/-! ## Exact values -/

/-- The magnitude is shown like the number, without its sign. -/
theorem ofDecimal_abs {d d' : Decimal} (h : d'.value = |d.value|) (places : Nat) :
    Shown.ofDecimal places d' = (Shown.ofDecimal places d).unsigned := by
  have hmagnitude : d'.magnitude = d.magnitude := by rw [← d'.abs_value, h, abs_abs, d.abs_value]
  have hnegative : ¬ roundAway places |d.value| < 0 := fun hneg =>
    absurd ((roundAway_cases places |d.value|).2.1 hneg).1 (not_lt.2 (abs_nonneg _))
  rw [Shown.ofDecimal, Shown.ofDecimal, Shown.unsigned, h, decide_eq_false hnegative, Decimal.fixed_congr hmagnitude]

/-- An exact value under the three specifiers. -/
theorem format_exact {v : Value} {q : ℚ} (hv : v.rational? = some q) {precision : Option Nat}
    (hprecision : ∀ p ∈ precision, p ≤ greatestPrecision) : ∃ d : Decimal, d.value = q ∧
      v.format (specifier 'F' precision) = .ok (Shown.ofDecimal (precision.getD 2) d).numeral ∧
      v.format (specifier 'N' precision) = .ok (Shown.ofDecimal (precision.getD 2) d).text ∧
      v.format (specifier 'C' precision) = .ok (Shown.ofDecimal (precision.getD 2) d).money := by
  obtain ⟨n, d, hn, hd, hshown⟩ := v.shown_exact hv
  have hformat : ∀ {letter t}, isAsciiLetter letter = true → standard n letter precision = some t →
      v.format (specifier letter precision) = .ok t := by
    intro letter t hletter hstandard
    rw [Value.format, if_neg (by simp [specifier]), hshown, standardSpec?_specifier hletter hprecision]
    simp only [hstandard]
  exact ⟨d, hd, hformat (by decide) (standard_F hn hprecision), hformat (by decide) (standard_N hn hprecision),
    hformat (by decide) (standard_C hn hprecision)⟩

/-- **An exact value with a fixed number of places** is rounded to them, a half away from zero. `F` shows the rounded
number, `N` shows it with commas between its thousands, and `C` shows the magnitude as `N` does, behind a currency sign
and in parentheses if the rounded number is negative. -/
theorem format_fixed {v : Value} {q : ℚ} (hv : v.rational? = some q) {precision : Option Nat}
    (hprecision : ∀ p ∈ precision, p ≤ 99) :
    ∃ n : Shown, n.Rounds (precision.getD 2) q ∧
      v.format (specifier 'F' precision) = .ok n.numeral ∧
      v.format (specifier 'N' precision) = .ok n.text ∧ withoutCommas n.text = n.numeral ∧
      (∃ w : Value, w.rational? = some |q|) ∧
      ∀ w : Value, w.rational? = some |q| → ∃ t, w.format (specifier 'N' precision) = .ok t ∧
        v.format (specifier 'C' precision) = .ok (if n.negative then ['('] ++ '¤' :: t ++ [')'] else '¤' :: t) := by
  obtain ⟨d, rfl, hF, hN, hC⟩ := format_exact hv hprecision
  have hrounds := rounds_ofDecimal (precision.getD 2) d
  refine ⟨Shown.ofDecimal (precision.getD 2) d, hrounds, hF, hN, Shown.withoutCommas_text hrounds.isDigits,
    v.rational?_abs hv, fun w hw => ?_⟩
  obtain ⟨d', hd', -, hN', -⟩ := format_exact hw hprecision
  rw [ofDecimal_abs hd'] at hN'
  exact ⟨_, hN', hC⟩

/-- A tie below zero that is carried into another group. -/
theorem format_fixed_carry :
    let v : Value := .decimal ⟨true, 999995, 3, by decide, by decide⟩
    v.rational? = some (-999995 / 1000) ∧ v.format ['C'] = .ok "(¤1,000.00)".toList ∧
      ∃ n : Shown, n.numeral = "-1000.00".toList ∧ n.text = "-1,000.00".toList ∧ n.Rounds 2 (-999995 / 1000) := by
  intro v
  have hv : v.rational? = some (-999995 / 1000) := by
    rw [Value.rational?, Decimal.value, if_pos rfl, Decimal.magnitude]
    norm_num
  have hF : v.format (specifier 'F' none) = .ok "-1000.00".toList := by decide
  have hN : v.format (specifier 'N' none) = .ok "-1,000.00".toList := by decide
  have hprecision : ∀ p ∈ (none : Option Nat), p ≤ 99 := fun _ h => by cases h
  obtain ⟨n, hrounds, hF', hN', -⟩ := format_fixed hv hprecision
  rw [hF] at hF'
  rw [hN] at hN'
  exact ⟨hv, by decide, n, (Except.ok.inj hF').symm, (Except.ok.inj hN').symm, hrounds⟩

end Placeholder.Display
