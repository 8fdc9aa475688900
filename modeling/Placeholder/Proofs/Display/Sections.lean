/-
Exact values under custom specifiers with sections. A section shows a digit other than zero where the amount, scaled and
rounded as the section asks, is not zero, and where a literal of the section has such a digit
(`hasNonzeroDigit_renderSection`). That is what the automatic minus sign goes by.

So the sign does not tell a digit of the number from one of a literal, and the second section is chosen by the sign that
the number has before it is rounded: a negative number that is zero in the end is shown as zero, but in its own section,
and behind a minus sign if a literal has a digit other than zero (`format_custom`).
-/
import Placeholder.Proofs.Display.Exact
import Placeholder.Proofs.Display.Places

namespace Placeholder

namespace Decimal

theorem timesTen?_zero {d : Decimal} (h : d.coefficient = 0) (power : Nat) :
    ∃ d', d.timesTen? power = some d' ∧ d'.coefficient = 0 :=
  ⟨zero, if_pos (beq_iff_eq.2 h), rfl⟩

theorem overTen?_zero {d : Decimal} (h : d.coefficient = 0) (power : Nat) :
    ∃ d', d.overTen? power = some d' ∧ d'.coefficient = 0 := by
  have hmake : ∀ {scale}, scale ≤ 28 → ∃ d', make? d.negative 0 scale = some d' ∧ d'.coefficient = 0 := fun hscale =>
    ⟨_, dif_pos ⟨by decide, hscale⟩, rfl⟩
  have heven : ∀ den, (Ratio.mk 0 den).halfEven = 0 := by simp [Ratio.halfEven, Ratio.floor]
  rw [overTen?, h]
  split
  next hscale => exact hmake hscale
  next =>
    rw [heven]
    exact hmake (Nat.le_refl 28)

end Decimal

namespace Display

open Text

/-! ## Amounts -/

namespace Amount

/-- The magnitude in units of the last of `places` places, rounded as it is shown; what is not finite has none. -/
def units? (places : Nat) : Amount → Option Nat
  | decimal d => some (d.units places)
  | binary (.finite _ m e _) => some ((Binary64.ratio m e).timesPower 10 places).halfEven
  | binary _ => none

/-- The digits of an amount denote its rounded magnitude. -/
theorem fixed_units {amount : Amount} {places n : Nat} (h : amount.units? places = some n) :
    ∃ w : Nat, (amount.fixed places).1 = ofNat w ∧ (amount.fixed places).2.length = places ∧
      IsDigits (amount.fixed places).2 ∧ (w : ℚ) + fractionOfDigits (amount.fixed places).2 = n / 10 ^ places := by
  cases amount with
  | decimal d =>
    obtain rfl : d.units places = n := Option.some.inj h
    obtain ⟨w, hwhole, hlength, hplaces, hvalue⟩ := d.fixed_value places
    have hunits : (d.units places : ℚ) = round (d.magnitude * 10 ^ places) := by
      exact_mod_cast d.units_eq_round places
    exact ⟨w, hwhole, hlength, hplaces, by rw [hunits]; exact hvalue⟩
  | binary x =>
    cases x with
    | finite negative m e hcanonical =>
      obtain rfl := Option.some.inj h
      obtain ⟨hwhole, hlength, hplaces, hvalue⟩ :=
        Ratio.splitDigits_value places ((Binary64.ratio m e).timesPower 10 places).halfEven
      have hfixed : (binary (.finite negative m e hcanonical)).fixed places =
          Ratio.splitDigits places ((Binary64.ratio m e).timesPower 10 places).halfEven := by
        simp [fixed, Binary64.fixed, hlength]
      rw [hfixed]
      exact ⟨_, hwhole, hlength, hplaces, hvalue⟩
    | nan => cases h
    | infinite negative => cases h

/-- What is not finite has a name instead of digits. -/
theorem fixed_unitless {amount : Amount} {places : Nat} (h : amount.units? places = none) :
    hasNonzeroDigit (amount.fixed places).1 = false ∧ (amount.fixed places).2 = List.replicate places '0' := by
  cases amount with
  | decimal d => cases h
  | binary x =>
    cases x with
    | finite negative m e hcanonical => cases h
    | nan => exact ⟨rfl, rfl⟩
    | infinite negative => exact ⟨rfl, rfl⟩

theorem length_fixed (amount : Amount) (places : Nat) : (amount.fixed places).2.length = places := by
  cases h : amount.units? places with
  | none => rw [(fixed_unitless h).2, List.length_replicate]
  | some n =>
    obtain ⟨-, -, hlength, -⟩ := fixed_units h
    exact hlength

theorem hasNonzeroDigit_fixed (amount : Amount) (places : Nat) :
    (hasNonzeroDigit (amount.fixed places).1 || hasNonzeroDigit (amount.fixed places).2) =
      (amount.units? places).any (· != 0) := by
  cases h : amount.units? places with
  | none =>
    obtain ⟨hname, hzeros⟩ := fixed_unitless h
    rw [hname, hzeros, hasNonzeroDigit_zeros]
    rfl
  | some n =>
    obtain ⟨w, hwhole, -, hplaces, hvalue⟩ := fixed_units h
    rw [hwhole, Option.any_some, Bool.eq_iff_iff, hasNonzeroDigit_sides (isDigits_ofNat w) hplaces, natOfDigits_ofNat,
      hvalue, ne_eq, div_eq_zero_iff, or_iff_left (by positivity), Nat.cast_eq_zero, bne_iff_ne]

/-- A magnitude that is zero after it is rounded has the digits of zero. -/
theorem fixed_zero {amount : Amount} {places : Nat} (h : amount.units? places = some 0) :
    amount.fixed places = (['0'], List.replicate places '0') := by
  obtain ⟨w, hwhole, hlength, hplaces, hvalue⟩ := fixed_units h
  have hnone : ¬ (hasNonzeroDigit (amount.fixed places).1 || hasNonzeroDigit (amount.fixed places).2) = true := by
    rw [hasNonzeroDigit_fixed, h]
    exact Bool.false_ne_true
  rw [Bool.or_eq_true, not_or, hasNonzeroDigit_iff hplaces, not_not, natOfDigits_eq_zero hplaces, hwhole,
    hasNonzeroDigit_iff (isDigits_ofNat w), not_not, natOfDigits_ofNat] at hnone
  obtain ⟨rfl, hzeros⟩ := hnone
  exact Prod.ext hwhole (List.eq_replicate_iff.2 ⟨hlength, hzeros⟩)

/-! ## Zero -/

theorem scaleSteps_zero (up : Bool) (fuel power : Nat) {d : Decimal} (h : d.coefficient = 0) :
    ∃ d', scaleSteps up fuel power d = some d' ∧ d'.coefficient = 0 := by
  induction fuel generalizing power d with
  | zero => exact ⟨d, rfl, h⟩
  | succ fuel ih =>
    cases power with
    | zero => exact ⟨d, rfl, h⟩
    | succ power =>
      obtain ⟨d₁, hstep, hzero⟩ : ∃ d₁, (if up then d.timesTen? (min (power + 1) greatestStep)
          else d.overTen? (min (power + 1) greatestStep)) = some d₁ ∧ d₁.coefficient = 0 := by
        split
        · exact d.timesTen?_zero h _
        · exact d.overTen?_zero h _
      rw [scaleSteps]
      · simp only [hstep, Option.bind_some]
        exact ih _ hzero
      · exact Nat.succ_ne_zero power

/-- Zero is zero at every scale. -/
theorem units?_scale_zero {d : Decimal} (h : d.coefficient = 0) (power : Int) (places : Nat) :
    ((decimal d).scale power).units? places = some 0 := by
  obtain ⟨d', hsteps, hzero⟩ := scaleSteps_zero (0 ≤ power) power.natAbs power.natAbs h
  have hunits : (d'.units places : ℤ) = 0 := by
    rw [Decimal.units_eq_round, Decimal.magnitude_eq_zero.2 hzero, zero_mul, round_zero]
  rw [scale, hsteps, units?, Int.natCast_eq_zero.1 hunits]

end Amount

/-! ## Sections -/

/-- A literal has a digit other than zero. -/
def hasLiteralDigit (tokens : List Token) : Bool := tokens.any fun t => hasNonzeroDigit t.ownText

/-- The number of places behind the point. -/
def fractionPlaces (tokens : List Token) : Nat := (((splitPoint tokens).2.getD []).filter Token.isPlace).length

/-- The magnitude in units of the last place of a section, scaled and rounded as it is shown there. -/
def sectionUnits? (tokens : List Token) (amount : Amount) : Option Nat :=
  (amount.scale (power tokens)).units? (fractionPlaces tokens)

/-- As long as the power of ten is exact, the units of a section are those of the scaled number, rounded once. -/
theorem sectionUnits?_decimal {tokens : List Token} {d : Decimal}
    (hup : d.coefficient * 10 ^ (power tokens).toNat < 2 ^ 96) (hdown : d.scale + (-power tokens).toNat ≤ 28) :
    ∃ n : Nat, sectionUnits? tokens (.decimal d) = some n ∧
      (n : ℤ) = round (d.magnitude * (10 : ℚ) ^ power tokens * 10 ^ fractionPlaces tokens) := by
  obtain ⟨d', hscale, hmagnitude⟩ := Amount.scale_decimal hup hdown
  exact ⟨_, congrArg (Amount.units? (fractionPlaces tokens)) hscale, by rw [Decimal.units_eq_round, hmagnitude]⟩

theorem hasLiteralDigit_cons (t : Token) (tokens : List Token) :
    hasLiteralDigit (t :: tokens) = (hasNonzeroDigit t.ownText || hasLiteralDigit tokens) := List.any_cons

theorem hasLiteralDigit_splitPoint (tokens : List Token) :
    hasLiteralDigit tokens =
      (hasLiteralDigit (splitPoint tokens).1 || hasLiteralDigit ((splitPoint tokens).2.getD [])) := by
  fun_induction splitPoint tokens with
  | case1 => rfl
  | case2 rest => exact (hasLiteralDigit_cons .point rest).trans (Bool.false_or _)
  | case3 t rest hpoint before after hrest ih =>
    rw [hasLiteralDigit_cons, ih, hrest, hasLiteralDigit_cons, Bool.or_assoc]

/-- Where there are places enough, all digits are shown, besides those of the literals. -/
theorem hasNonzeroDigit_place {tokens : List Token} {shown : List Text}
    (h : shown.length ≤ tokens.countP Token.isPlace) :
    hasNonzeroDigit (place tokens shown) = (hasLiteralDigit tokens || hasNonzeroDigit shown.flatten) := by
  induction tokens generalizing shown with
  | nil =>
    obtain rfl : shown = [] := List.length_eq_zero_iff.1 (Nat.le_zero.1 h)
    rfl
  | cons t tokens ih =>
    rw [List.countP_cons] at h
    rw [hasLiteralDigit_cons]
    by_cases ht : t.isPlace = true
    · have hown : t.ownText = [] := by
        cases t <;> first | rfl | cases ht
      rw [if_pos ht] at h
      rw [hown]
      cases shown with
      | nil =>
        simp only [place, ht, if_true]
        exact ih (Nat.zero_le _)
      | cons s shown =>
        rw [List.length_cons, Nat.add_le_add_iff_right] at h
        simp only [place, ht, if_true]
        rw [hasNonzeroDigit_append, ih h, List.flatten_cons, hasNonzeroDigit_append]
        exact Bool.or_left_comm ..
    · rw [if_neg ht, Nat.add_zero] at h
      have hplace : place (t :: tokens) shown = t.ownText ++ place tokens shown := by
        cases shown <;> simp only [place, ht, if_false, Bool.false_eq_true]
      rw [hplace, hasNonzeroDigit_append, ih h, Bool.or_assoc]

theorem hasNonzeroDigit_renderWhole (tokens : List Token) (digits : Text) :
    hasNonzeroDigit (renderWhole tokens digits) = (hasLiteralDigit tokens || hasNonzeroDigit digits) := by
  rw [renderWhole]
  by_cases hnone : tokens.countP Token.isPlace = 0
  · have hempty : hasNonzeroDigit (place tokens []) = hasLiteralDigit tokens :=
      (hasNonzeroDigit_place (Nat.zero_le _)).trans (Bool.or_false _)
    rw [if_pos hnone, hasNonzeroDigit_append, hempty]
  · rw [if_neg hnone]
    split
    · have hroom : [groupThousands digits].length ≤ tokens.countP Token.isPlace := Nat.pos_of_ne_zero hnone
      rw [hasNonzeroDigit_place hroom, List.flatten_singleton, hasNonzeroDigit_groupThousands]
    · obtain ⟨hflatten, hlength⟩ := flatten_shares (Nat.pos_of_ne_zero hnone) digits
      rw [hasNonzeroDigit_place (Nat.le_of_eq hlength), hflatten]

theorem hasNonzeroDigit_wholeDigits (least : Nat) (digits : Text) :
    hasNonzeroDigit (wholeDigits least digits) = hasNonzeroDigit digits := by
  rw [wholeDigits, padLeft, hasNonzeroDigit_append, hasNonzeroDigit_zeros, Bool.false_or]
  split
  next hzero =>
    rw [hzero]
    rfl
  next => rfl

theorem hasNonzeroDigit_trimFraction (least : Nat) (digits : Text) :
    hasNonzeroDigit (trimFraction least digits) = hasNonzeroDigit digits := by
  obtain ⟨n, hsplit⟩ := trimFraction_append least digits
  conv_rhs => rw [hsplit]
  rw [hasNonzeroDigit_append, hasNonzeroDigit_zeros, Bool.or_false]

/-- What is shown behind the point. -/
theorem hasNonzeroDigit_placeFraction (tokens : List Token) {digits : Text}
    (h : digits.length = (tokens.filter Token.isPlace).length) (least : Nat) :
    hasNonzeroDigit (place tokens ((trimFraction least digits).map fun c => [c])) =
      (hasLiteralDigit tokens || hasNonzeroDigit digits) := by
  have hroom : ((trimFraction least digits).map fun c => [c]).length ≤ tokens.countP Token.isPlace := by
    obtain ⟨n, hsplit⟩ := trimFraction_append least digits
    have hlength := congrArg List.length hsplit
    rw [List.length_append, h, ← List.countP_eq_length_filter] at hlength
    rw [List.length_map]
    omega
  rw [hasNonzeroDigit_place hroom, flatten_map_singleton, hasNonzeroDigit_trimFraction]

/-- **A digit other than zero** is shown in a section where its literals have one or the amount is not zero there. -/
theorem hasNonzeroDigit_renderSection (amount : Amount) (tokens : List Token) :
    hasNonzeroDigit (renderSection amount tokens) =
      (hasLiteralDigit tokens || (sectionUnits? tokens amount).any (· != 0)) := by
  have hpoint : ∀ shown : Bool, hasNonzeroDigit (if shown then ['.'] else []) = false := by decide
  have hfraction := hasNonzeroDigit_placeFraction ((splitPoint tokens).2.getD [])
    ((amount.scale (power tokens)).length_fixed (fractionPlaces tokens))
  rw [sectionUnits?, ← Amount.hasNonzeroDigit_fixed, hasLiteralDigit_splitPoint]
  unfold renderSection
  unfold fractionPlaces at hfraction ⊢
  simp only [hasNonzeroDigit_append, hasNonzeroDigit_renderWhole, hasNonzeroDigit_wholeDigits, hpoint, hfraction,
    Bool.or_false]
  -- What is left is the order of the four parts: literals and digits before the point, and those behind it.
  simp only [Bool.or_assoc, Bool.or_left_comm]

theorem renderSection_congr {a b : Amount} {tokens : List Token}
    (h : (a.scale (power tokens)).fixed (fractionPlaces tokens) =
      (b.scale (power tokens)).fixed (fractionPlaces tokens)) :
    renderSection a tokens = renderSection b tokens := by
  unfold fractionPlaces at h
  unfold renderSection
  simp only [h]

/-- An amount that is zero in a section is shown there like zero. -/
theorem renderSection_zero {amount : Amount} {tokens : List Token} (h : sectionUnits? tokens amount = some 0) :
    renderSection amount tokens = renderSection (.decimal .zero) tokens :=
  renderSection_congr ((Amount.fixed_zero h).trans (Amount.fixed_zero (Amount.units?_scale_zero rfl _ _)).symm)

/-! ## The section of an amount -/

/-- The section at a position behind the first, unless it is empty. -/
def otherSection? (spec : Text) (i : Nat) : Option (List Token) :=
  (sections spec)[i]?.filter fun tokens => !tokens.isEmpty

def mainSection (spec : Text) : List Token := (sections spec).headD []

def minusSection? (spec : Text) : Option (List Token) := otherSection? spec 1

def zeroSection? (spec : Text) : Option (List Token) := otherSection? spec 2

/-- The section for an amount, unless it is the first. -/
def sectionFor? (amount : Amount) (spec : Text) : Option (List Token) :=
  (if amount.isZero then zeroSection? spec else none).or (if amount.isNegative then minusSection? spec else none)

/-- In the first section the sign is still to be put. -/
theorem chooseSection_eq (amount : Amount) (spec : Text) : chooseSection amount (sections spec) =
    ((sectionFor? amount spec).getD (mainSection spec), (sectionFor? amount spec).isNone) := by
  unfold sectionFor? zeroSection? minusSection? otherSection? mainSection
  generalize sections spec = ss
  rcases ss with _ | ⟨first, _ | ⟨minus, _ | ⟨zero, rest⟩⟩⟩
  · simp [chooseSection]
  · simp [chooseSection]
  · cases hminus : minus.isEmpty <;> cases hnegative : amount.isNegative <;>
      simp [chooseSection, hminus, hnegative, Option.filter]
  · cases hminus : minus.isEmpty <;> cases hnegative : amount.isNegative <;> cases hempty : zero.isEmpty <;>
      cases hzero : amount.isZero <;> simp [chooseSection, hminus, hnegative, hempty, hzero, Option.filter]

theorem custom_eq (amount : Amount) (spec : Text) : custom amount spec =
    if (sectionFor? amount spec).isNone && amount.isNegative &&
        hasNonzeroDigit (renderSection amount.abs ((sectionFor? amount spec).getD (mainSection spec))) then
      '-' :: renderSection amount.abs ((sectionFor? amount spec).getD (mainSection spec))
    else renderSection amount.abs ((sectionFor? amount spec).getD (mainSection spec)) := by
  unfold custom
  simp only [chooseSection_eq, signedIfNonzero]
  cases (sectionFor? amount spec).isNone <;> rfl

/-- **An exact value under a custom specifier.** Zero is shown in the third section and a negative number in the second,
where they are not empty, and everything else in the first. There a negative number has a minus sign if it is not zero
after it is scaled and rounded for the section, but also if a literal of the section has a digit other than zero. A
number that is zero for a section is shown in it like zero. -/
theorem format_custom {v : Value} {q : ℚ} (hv : v.rational? = some q) {spec : Text} (hne : spec ≠ [])
    (hspec : standardSpec? spec = none) : ∃ d : Decimal, d.value = q ∧
      (q = 0 → v.format spec = .ok (renderSection (.decimal .zero) ((zeroSection? spec).getD (mainSection spec)))) ∧
      (0 < q → v.format spec = .ok (renderSection (.decimal d.abs) (mainSection spec))) ∧
      (q < 0 → ∀ minus, minusSection? spec = some minus → v.format spec = .ok (renderSection (.decimal d.abs) minus)) ∧
      (q < 0 → minusSection? spec = none → v.format spec = .ok
        (if hasLiteralDigit (mainSection spec) || (sectionUnits? (mainSection spec) (.decimal d.abs)).any (· != 0) then
          '-' :: renderSection (.decimal d.abs) (mainSection spec)
        else renderSection (.decimal d.abs) (mainSection spec))) ∧
      ∀ tokens, sectionUnits? tokens (.decimal d.abs) = some 0 →
        renderSection (.decimal d.abs) tokens = renderSection (.decimal .zero) tokens := by
  obtain ⟨n, d, -, rfl, hshown⟩ := v.shown_exact hv
  have hformat : v.format spec = .ok (custom (.decimal d) spec) := by
    rw [Value.format, if_neg (by simpa using hne), hshown, hspec]
  have hisZero : (Amount.decimal d).isZero = decide (d.value = 0) := by
    rw [Bool.eq_iff_iff, decide_eq_true_iff]
    exact Decimal.isZero_iff
  have hisNegative : (Amount.decimal d).isNegative = decide (d.value < 0) := by
    rw [Bool.eq_iff_iff, decide_eq_true_iff]
    exact Decimal.isNegative_iff
  have hsection : sectionFor? (.decimal d) spec = (if d.value = 0 then zeroSection? spec else none).or
      (if d.value < 0 then minusSection? spec else none) := by
    simp only [sectionFor?, hisZero, hisNegative, decide_eq_true_eq]
  rw [custom_eq, hsection, hisNegative] at hformat
  refine ⟨d, rfl, fun hzero => ?_, fun hpositive => ?_, fun hnegative minus hminus => ?_, fun hnegative hminus => ?_,
    fun tokens => renderSection_zero⟩
  · have hcoefficient : d.coefficient = 0 := beq_iff_eq.1 (Decimal.isZero_iff.2 hzero)
    have hunits : ∀ tokens, sectionUnits? tokens (Amount.decimal d).abs = some 0 := fun tokens =>
      Amount.units?_scale_zero (d := d.abs) hcoefficient _ _
    rw [if_pos hzero, if_neg hzero.not_lt, Option.or_none, decide_eq_false hzero.not_lt, Bool.and_false, Bool.false_and,
      if_neg Bool.false_ne_true, renderSection_zero (hunits _)] at hformat
    exact hformat
  · rw [if_neg hpositive.ne', if_neg hpositive.not_gt, decide_eq_false hpositive.not_gt, Bool.and_false, Bool.false_and,
      if_neg Bool.false_ne_true] at hformat
    exact hformat
  · rw [if_neg hnegative.ne, if_pos hnegative, hminus] at hformat
    exact hformat
  · rw [if_neg hnegative.ne, if_pos hnegative, hminus, decide_eq_true hnegative,
      hasNonzeroDigit_renderSection] at hformat
    exact hformat

/-- A number that rounds to zero loses its sign, and is not shown in the third section. -/
theorem format_custom_vanishing :
    let v : Value := .decimal ⟨true, 4, 3, by decide, by decide⟩
    v.rational? = some (-4 / 1000) ∧ v.format "0.00;;none".toList = .ok "0.00".toList := by
  intro v
  have hv : v.rational? = some (-4 / 1000) := by
    rw [Value.rational?, Decimal.value, if_pos rfl, Decimal.magnitude]
    norm_num
  have hsections : sections "0.00;;none".toList =
      [[.zero, .point, .zero, .zero], [], [.literal ['n'], .literal ['o'], .literal ['n'], .literal ['e']]] := by
    decide +kernel
  have hmain : mainSection "0.00;;none".toList = [.zero, .point, .zero, .zero] := by rw [mainSection, hsections]; rfl
  have hminus : minusSection? "0.00;;none".toList = none := by rw [minusSection?, otherSection?, hsections]; rfl
  have hne : "0.00;;none".toList ≠ [] := by decide
  obtain ⟨d, hd, -, -, -, hformat, hzero⟩ := format_custom hv hne (by decide)
  have hpower : power [.zero, .point, .zero, .zero] = 0 := by decide
  have hplaces : fractionPlaces [.zero, .point, .zero, .zero] = 2 := by decide
  have hmagnitude : d.abs.magnitude = 4 / 1000 := by
    rw [← d.abs.abs_value, d.value_abs, hd]
    norm_num [abs_div]
  have hup : d.abs.coefficient * 10 ^ (power [.zero, .point, .zero, .zero]).toNat < 2 ^ 96 := by
    simpa [hpower] using d.abs.fits
  have hdown : d.abs.scale + (-power [.zero, .point, .zero, .zero]).toNat ≤ 28 := by
    simpa [hpower] using d.abs.scale_le
  obtain ⟨n, hunits, hn⟩ := sectionUnits?_decimal hup hdown
  obtain rfl : n = 0 := by
    rw [hmagnitude, hpower, hplaces, round_eq] at hn
    norm_num at hn
    exact hn
  refine ⟨hv, ?_⟩
  rw [hformat (by norm_num) hminus, hmain, hunits, hzero _ hunits]
  rfl

/-- A number that rounds to zero has the sign of a negative one where a literal has a digit, and a negative section even
where it has none. -/
theorem format_custom_negative_zero :
    let v : Value := .decimal ⟨true, 1, 3, by decide, by decide⟩
    let zero : Value := .integer ⟨0, by decide⟩
    sectionUnits? (mainSection "0'1'".toList) (.decimal ⟨false, 1, 3, by decide, by decide⟩) = some 0 ∧
      v.format "0'1'".toList = .ok "-01".toList ∧ zero.format "0'1'".toList = .ok "01".toList ∧
      v.format "0;(0)".toList = .ok "(0)".toList ∧ zero.format "0;(0)".toList = .ok "0".toList := by
  decide +kernel

end Display

end Placeholder
