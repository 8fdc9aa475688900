/-
Binary numbers under the exponent format. The number is shown through a decimal number where its shortest text can be
read as one, and that keeps 28 places: a number of which nothing is kept is shown as zero, and of the others the digits
are those of a number that is within one part in `2 ^ 48` of what is kept (`format_exponential`). So the exponent is
that of the kept number rounded to the digits shown, unless a carry falls into that gap.
-/
import Placeholder.Proofs.Display.Precision
import Placeholder.Proofs.Number.Accuracy
import Placeholder.Proofs.Number.Positional

namespace Placeholder

open Text (IsDigits natOfDigits)
open Decimal (kept)

/-! ## Positional texts -/

namespace Binary64.Decimals

variable {d : Decimals}

/-- A positional text begins with a digit. -/
theorem positional_cons (hd : d.digits ≠ 0) : ∃ c t, d.positional = c :: t ∧ c ≠ '+' ∧ c ≠ '-' := by
  rcases positional_cases hd with
    ⟨-, n, -, hpositional⟩ | ⟨-, whole, fraction, hpositional, hne, hall, -⟩
  · rw [hpositional]
    exact Text.exists_digits_cons (Text.isDigits_ofNat _) (Text.ofNat_ne_nil _)
  · obtain ⟨c, t, rfl, hc⟩ := Text.exists_digits_cons (Text.isDigits_append.1 hall).1 hne
    exact ⟨c, t ++ '.' :: fraction, hpositional, hc⟩

/-- A positional text denotes the number of the digits, and has a place for each negative power of ten. -/
theorem denoted_positional (hd : d.digits ≠ 0) : Display.denoted d.positional = d.value ∧
    (Display.Picture.fraction d.positional).length = (-d.exponent).toNat := by
  have hunsigned : d.positional.head? ≠ some '-' := by
    obtain ⟨c, t, hcons, -, hminus⟩ := positional_cons hd
    rw [hcons, List.head?_cons, ne_eq, Option.some.injEq]
    exact hminus
  rw [Display.denoted, if_neg hunsigned]
  rcases positional_cases hd with
    ⟨hexponent, n, hvalue, hpositional⟩ | ⟨hneg, whole, fraction, hpositional, -, hall, hplaces, -, hvalue⟩
  · obtain ⟨hleft, hright⟩ := Display.split_pointed (Text.isDigits_ofNat n) []
    rw [Display.Picture.pointed, List.isEmpty_nil, if_pos rfl, List.append_nil] at hleft hright
    rw [hpositional, hleft, hright, Text.natOfDigits_ofNat, hvalue]
    refine ⟨?_, by rw [List.length_nil]; omega⟩
    simp [Text.fractionOfDigits, natOfDigits]
  · have hpoint : '.' :: fraction = Display.Picture.pointed fraction := by
      have hne : fraction ≠ [] := List.ne_nil_of_length_pos (by omega)
      rw [Display.Picture.pointed, List.isEmpty_eq_false_iff.2 hne, if_neg Bool.false_ne_true]
    obtain ⟨hleft, hright⟩ := Display.split_pointed (Text.isDigits_append.1 hall).1 fraction
    rw [hpositional, hpoint, hleft, hright]
    refine ⟨?_, by omega⟩
    rw [hvalue, Text.natOfDigits_append, Text.fractionOfDigits]
    push_cast
    field_simp

end Binary64.Decimals

/-! ## The amount of a binary number -/

namespace Decimal

theorem read_ok {t : Text} {p : Digits} {d : Decimal} (ht : ∃ c u, t = c :: u ∧ c ≠ '+' ∧ c ≠ '-') (negative : Bool)
    (h : readDigits false false ⟨0, 0⟩ t = .ok p) (hd : make? negative p.coefficient p.scale = some d) :
    read (Binary64.signed negative t) = .ok d := by
  obtain ⟨c, u, rfl, hplus, hminus⟩ := ht
  cases negative with
  | true => exact read_minus h hd
  | false => exact read_unsigned hplus hminus h hd

theorem read_error {t : Text} {fault : ReadFault} (ht : ∃ c u, t = c :: u ∧ c ≠ '+' ∧ c ≠ '-') (negative : Bool)
    (h : readDigits false false ⟨0, 0⟩ t = .error fault) : read (Binary64.signed negative t) = .error fault := by
  obtain ⟨c, u, rfl, hplus, hminus⟩ := ht
  cases negative with
  | true =>
    rw [Binary64.signed, if_pos rfl, read]
    simp only [bind, Except.bind, h]
  | false =>
    rw [Binary64.signed, if_neg Bool.false_ne_true, read]
    · simp only [bind, Except.bind, h]
    · exact fun heq => by cases heq
    · exact fun body heq => hminus (List.cons.inj heq).1
    · exact fun body heq => hplus (List.cons.inj heq).1

end Decimal

namespace Display

section

variable {m : ℕ} {e : ℤ} (hm : m ≠ 0) (h : Binary64.Canonical m e)
include hm h

/-- What a binary number goes on as: a number near to what is kept of its shortest text. -/
theorem ofBinary64_near (negative : Bool) : ∃ m' e' h',
    (Amount.ofBinary64 (.finite negative m e h)).toBinary64.abs = .finite false m' e' h' ∧
    |(m' : ℚ) * 2 ^ e' - kept (Binary64.shortest m e).value| ≤ kept (Binary64.shortest m e).value / 2 ^ 48 ∧
    (Amount.ofBinary64 (.finite negative m e h)).isNegative =
      (negative && decide (kept (Binary64.shortest m e).value ≠ 0)) := by
  have hpositive := Binary64.digits_shortest_ne_zero (e := e) hm h.1
  have hdigits := (Binary64.shortest_spec (e := e) hm h.1).1
  have hcons := Binary64.Decimals.positional_cons hpositive
  have htext : (Binary64.finite negative m e h).toText =
      Binary64.signed negative (Binary64.shortest m e).positional := rfl
  rcases le_or_gt ((2 : ℚ) ^ 96) (Binary64.shortest m e).value with hlarge | hfits
  · obtain ⟨hexponent, hread⟩ := Decimal.readDigits_positional_large hpositive hdigits hlarge
    have hamount : Amount.ofBinary64 (.finite negative m e h) = .binary (.finite negative m e h) := by
      rw [Amount.ofBinary64, htext, Decimal.read_error hcons negative hread]
    have hkept : kept (Binary64.shortest m e).value = (Binary64.shortest m e).value :=
      Decimal.kept_value (by omega)
    have hne : (Binary64.shortest m e).value ≠ 0 := by
      intro hzero
      rw [hzero] at hlarge
      norm_num at hlarge
    rw [hamount, hkept, decide_eq_true hne, Bool.and_true]
    refine ⟨m, e, h, rfl, Binary64.near_shortest_large hm h hlarge, ?_⟩
    simp [Amount.isNegative, Binary64.isNegative, hm]
  · obtain ⟨n, scale, hread, hn, hscale, hkept⟩ := Decimal.readDigits_positional hpositive hdigits hfits
    have hmake : Decimal.make? negative n scale = some ⟨negative && n != 0, n, scale, hn, hscale⟩ :=
      dif_pos ⟨hn, hscale⟩
    have hamount : Amount.ofBinary64 (.finite negative m e h) =
        .decimal ⟨negative && n != 0, n, scale, hn, hscale⟩ := by
      rw [Amount.ofBinary64, htext, Decimal.read_ok hcons negative hread hmake]
    obtain ⟨m', e', h', hbinary, hnear⟩ :=
      Decimal.magnitude64_near ⟨negative && n != 0, n, scale, hn, hscale⟩
    have hmagnitude : Decimal.magnitude ⟨negative && n != 0, n, scale, hn, hscale⟩ =
        kept (Binary64.shortest m e).value := hkept
    rw [hmagnitude] at hnear
    rw [hamount]
    refine ⟨m', e', h', ?_, hnear, ?_⟩
    · rw [Amount.toBinary64, Decimal.toBinary64, hbinary]
      split <;> rfl
    · have hzero : kept (Binary64.shortest m e).value ≠ 0 ↔ n ≠ 0 := by
        rw [← hmagnitude, ne_eq, Decimal.magnitude_eq_zero]
      have hsign : decide (kept (Binary64.shortest m e).value ≠ 0) = (n != 0) := by
        rw [Bool.eq_iff_iff, decide_eq_true_eq, bne_iff_ne]
        exact hzero
      rw [Amount.isNegative, Decimal.isNegative, hsign, Bool.and_assoc, Bool.and_self]

end

/-! ## The exponent format -/

theorem standard_E (n : Numeral) {p : ℕ} (hp : p ≤ greatestPrecision) : standard n 'E' (some p) =
    some (signedIfNonzero n.amount.isNegative (exponential n.amount.toBinary64.abs p 'E')) := by
  have hletter : 'E'.toUpper = 'E' := by decide
  unfold standard
  rw [if_neg (any_precision (fun q hq => by cases hq; exact hp)), hletter]
  rfl

/-- A binary number under the exponent format goes through its amount. -/
theorem format_double_E (negative : Bool) {m : ℕ} {e : ℤ} (h : Binary64.Canonical m e) {p : ℕ} (hp : p ≤ 99) :
    let amount := Amount.ofBinary64 (.finite negative m e h)
    (Value.double (.finite negative m e h)).format (specifier 'E' (some p)) =
      .ok (signedIfNonzero amount.isNegative (exponential amount.toBinary64.abs p 'E')) := by
  have hread : standardSpec? (specifier 'E' (some p)) = some ('E', some p) :=
    standardSpec?_specifier (by decide) fun r hr => by cases hr; exact hp
  have hnumeral : (Value.double (.finite negative m e h)).numeral? = some (.double (.finite negative m e h)) := rfl
  have hcons : specifier 'E' (some p) ≠ [] := List.cons_ne_nil _ _
  rw [Value.format_eq_outcome _ hcons, Value.underSpec?_numeral hnumeral, hread]
  dsimp only
  rw [standard_E _ hp]
  rfl

/-- A digit other than zero at the start makes the sign show. -/
theorem signedIfNonzero_pointed {digits : Text} (h : IsDigits digits) (hne : digits ≠ [])
    (hhead : digits.head? ≠ some '0') (negative : Bool) (rest : Text) :
    signedIfNonzero negative (Binary64.pointed digits ++ rest) =
      Binary64.signed negative (Binary64.pointed digits ++ rest) := by
  obtain ⟨c, t, rfl⟩ := List.exists_cons_of_ne_nil hne
  have hc : (Text.isAsciiDigit c && c != '0') = true := by
    rw [Bool.and_eq_true, bne_iff_ne]
    refine ⟨h c (List.mem_cons_self ..), fun hzero => hhead ?_⟩
    rw [hzero, List.head?_cons]
  obtain ⟨u, hpointed⟩ : ∃ u, Binary64.pointed (c :: t) = c :: u := by
    cases t with
    | nil => exact ⟨[], rfl⟩
    | cons d t => exact ⟨_, rfl⟩
  have hnonzero : hasNonzeroDigit (Binary64.pointed (c :: t) ++ rest) = true := by
    rw [hpointed, List.cons_append, hasNonzeroDigit, List.any_cons, hc, Bool.true_or]
  exact signedIfNonzero_eq hnonzero negative

/-- A number within one part in `2 ^ 48` of another has an exponent between those of the ends of that range. -/
theorem exponent_near {n : ℕ} (hn : n ≠ 0) {y q : ℚ} (hq : 0 < q) (h : |y - q| ≤ q / 2 ^ 48) :
    0 < y ∧ Significant.exponent n (q * (1 - 1 / 2 ^ 48)) ≤ Significant.exponent n y ∧
      Significant.exponent n y ≤ Significant.exponent n (q * (1 + 1 / 2 ^ 48)) := by
  obtain ⟨hlow, hhigh⟩ := abs_le.1 h
  have hpos : 0 < q * (1 - 1 / 2 ^ 48) := mul_pos hq (by norm_num)
  have hbelow : q * (1 - 1 / 2 ^ 48) ≤ y := by linarith
  have habove : y ≤ q * (1 + 1 / 2 ^ 48) := by linarith
  have hy : 0 < y := hpos.trans_le hbelow
  exact ⟨hy, Significant.exponent_mono hn hpos hbelow, Significant.exponent_mono hn hy habove⟩

/-- **Binary numbers under the exponent format.** Of the shortest text of the number 28 places are kept; the text of a
number below half a unit of the last of them shows zeros only. The first digit of any other is not zero, and the digits
are those of a number within one part in `2 ^ 48` of what is kept, so that the exponent is that of the kept number, as
far as this range tells. A text with no more than 28 places is kept as it is. -/
theorem format_exponential {m : ℕ} {e : ℤ} (hm : m ≠ 0) (h : Binary64.Canonical m e) (negative : Bool) {p : ℕ}
    (hp : p ≤ 99) :
    let shown := (Binary64.finite false m e h).toText
    let q := denoted shown
    ∃ digits k, (Value.double (.finite negative m e h)).format (specifier 'E' (some p)) =
        .ok (Binary64.signed (negative && decide (kept q ≠ 0)) (Binary64.pointed digits ++ exponentText 'E' 3 k)) ∧
      (q < 5 / 10 ^ 29 → digits = List.replicate (p + 1) '0' ∧ k = 0) ∧
      (5 / 10 ^ 29 ≤ q → (∃ y, |y - kept q| ≤ kept q / 2 ^ 48 ∧ Significant.Digits (p + 1) digits k y) ∧
        Significant.exponent (p + 1) (kept q * (1 - 1 / 2 ^ 48)) ≤ k ∧
        k ≤ Significant.exponent (p + 1) (kept q * (1 + 1 / 2 ^ 48))) ∧
      ((Picture.fraction shown).length ≤ 28 → kept q = q) := by
  intro shown q
  have hpositive := Binary64.digits_shortest_ne_zero (e := e) hm h.1
  obtain ⟨hdenoted, hplaces⟩ := Binary64.Decimals.denoted_positional hpositive
  have hq : q = (Binary64.shortest m e).value := hdenoted
  have hnonneg : 0 ≤ q := by
    rw [hq, Binary64.Decimals.value]
    exact mul_nonneg (Nat.cast_nonneg _) (ten_zpow_pos _).le
  have hsame : (Picture.fraction shown).length ≤ 28 → kept q = q := by
    intro hlength
    have hfraction : (Picture.fraction shown).length = (-(Binary64.shortest m e).exponent).toNat := hplaces
    rw [hq]
    exact Decimal.kept_value (by omega)
  obtain ⟨m', e', h', hbinary, hnear, hnegative⟩ := ofBinary64_near hm h negative
  rw [← hq] at hnear hnegative
  have hformat : (Value.double (.finite negative m e h)).format (specifier 'E' (some p)) =
      .ok (signedIfNonzero (negative && decide (kept q ≠ 0)) (exponential (.finite false m' e' h') p 'E')) := by
    rw [format_double_E negative h hp, hbinary, hnegative]
  by_cases hzero : kept q = 0
  · -- nothing is kept
    have hsmall := (Decimal.kept_eq_zero hnonneg).1 hzero
    have hm' : m' = 0 := by
      rw [hzero, zero_div, sub_zero] at hnear
      by_contra hne
      have hpos := Binary64.magnitude_pos (e := e') hne
      rw [abs_of_pos hpos] at hnear
      linarith
    refine ⟨List.replicate (p + 1) '0', 0, ?_, fun _ => ⟨rfl, rfl⟩, fun hge => absurd hsmall (not_lt.2 hge), hsame⟩
    rw [hformat, exponential, significantDigits, if_pos hm', decide_eq_false (not_not.2 hzero), Bool.and_false]
    rfl
  · have hpos : 0 < kept q := lt_of_le_of_ne (Decimal.kept_nonneg hnonneg) (Ne.symm hzero)
    have hlarge : 5 / 10 ^ 29 ≤ q := not_lt.1 fun hsmall => hzero ((Decimal.kept_eq_zero hnonneg).2 hsmall)
    obtain ⟨hy, hbelow, habove⟩ := exponent_near (Nat.succ_ne_zero p) hpos hnear
    have hm' : m' ≠ 0 := by
      rintro rfl
      rw [Nat.cast_zero, zero_mul] at hy
      exact lt_irrefl _ hy
    obtain ⟨digits, k, hdigits, hshown⟩ := significantDigits_spec (Nat.succ_ne_zero p) hm' false h'
    have hne : digits ≠ [] := List.ne_nil_of_length_pos (by rw [hshown.length_eq]; exact Nat.succ_pos p)
    refine ⟨digits, k, ?_, fun hsmall => absurd hlarge (not_le.2 hsmall), fun _ => ⟨⟨_, hnear, hshown⟩, ?_⟩, hsame⟩
    · rw [hformat, exponential, hdigits]
      exact congrArg Except.ok (signedIfNonzero_pointed hshown.isDigits hne hshown.head?_ne _ _)
    · rw [hshown.exponent_eq]
      exact ⟨hbelow, habove⟩

/-- Six units of the 29th place are kept as ten. -/
theorem format_exponential_raised :
    ∃ h : Binary64.Canonical 5352178847647350 (-146), 5352178847647350 ≠ 0 ∧ 2 ≤ 99 ∧
      denoted (Binary64.finite false 5352178847647350 (-146) h).toText = 6 / 10 ^ 29 ∧
      ∃ digits, (Value.double (.finite true 5352178847647350 (-146) h)).format (specifier 'E' (some 2)) =
        .ok (Binary64.signed true (Binary64.pointed digits ++ exponentText 'E' 3 (-28))) ∧ digits.head? ≠ some '0' := by
  have h : Binary64.Canonical 5352178847647350 (-146) := by decide
  have hm : 5352178847647350 ≠ 0 := by decide
  have hshortest : Binary64.shortest 5352178847647350 (-146) = ⟨6, -29⟩ := by decide +kernel
  have hq : denoted (Binary64.finite false 5352178847647350 (-146) h).toText = 6 / 10 ^ 29 := by
    refine (Binary64.Decimals.denoted_positional (Binary64.digits_shortest_ne_zero (e := -146) hm h.1)).1.trans ?_
    rw [hshortest, Binary64.Decimals.value]
    norm_num
  have hkept : kept (6 / 10 ^ 29) = 1 / 10 ^ 28 := by norm_num [kept, round_eq]
  refine ⟨h, hm, by decide, hq, ?_⟩
  obtain ⟨digits, k, hformat, -, hlarge, -⟩ := format_exponential hm h true (by decide : 2 ≤ 99)
  rw [hq, hkept] at hformat hlarge
  obtain ⟨⟨y, -, hdigits⟩, hlow, hhigh⟩ := hlarge (by norm_num)
  have hk : k = -28 := by
    have hge : -28 ≤ Significant.exponent (2 + 1) (1 / 10 ^ 28 * (1 - 1 / 2 ^ 48)) := by
      rw [Significant.le_exponent_iff (by decide) (by norm_num)]
      norm_num
    have hlt : ¬ -27 ≤ Significant.exponent (2 + 1) (1 / 10 ^ 28 * (1 + 1 / 2 ^ 48)) := by
      rw [Significant.le_exponent_iff (by decide) (by norm_num)]
      norm_num
    omega
  have hsign : (true && decide ((1 : ℚ) / 10 ^ 28 ≠ 0)) = true := by norm_num
  rw [hk, hsign] at hformat
  exact ⟨digits, hformat, hdigits.head?_ne⟩

/-- A number below half a unit of the 28th place is shown as zero, and one that is kept as a whole unit of it with the
exponent of that unit. -/
theorem format_exponential_lost :
    (Value.double (.finite false 5708990770823840 (-152) (by decide))).format "E2".toList = .ok "0.00E+000".toList ∧
      (Binary64.shortest 5708990770823840 (-152)).digits = 1 ∧
      (Value.double (.finite false 8563486156235759 (-146) (by decide))).format "E2".toList = .ok "1.00E-028".toList ∧
      (Binary64.shortest 8563486156235759 (-146)) = ⟨96, -30⟩ := by
  refine ⟨?_, ?_, ?_, ?_⟩ <;> decide +kernel

end Display

end Placeholder
