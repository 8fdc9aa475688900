/-
Whole numbers under pictures. A picture is a custom specifier of places, points, commas, percent and per-mille
signs only, so all that it shows is a number. The number is the given one, times a power of ten, rounded once, with
a half away from zero (`format_integer_fits`): the signs and the commas behind the last place make the power, the
places behind the point say how far it is rounded, and the zeros how it is padded.

The first section of this module says what a picture asks for and what a shown number is, without the tokens that
the specifier is read into. The tokens follow the characters one by one (`sections_eq`).
-/
import Mathlib.Tactic.Linarith
import Mathlib.Tactic.NormNum
import Placeholder.Display.Basic
import Placeholder.Proofs.Number.Rounding
import Placeholder.Proofs.Display.Places

namespace Placeholder.Display

open Text

namespace Picture

/-! ## What a picture asks for -/

/-- The characters of pictures. -/
def alphabet : Text := ['0', '#', '.', ',', '%', '‰']

def isPlace (c : Char) : Bool := c == '0' || c == '#'

/-- What stands before the first point. -/
def whole (spec : Text) : Text := spec.takeWhile (· != '.')

/-- What stands behind the first point. -/
def fraction (spec : Text) : Text := (spec.dropWhile (· != '.')).drop 1

def fractionPlaces (spec : Text) : Nat := (fraction spec).countP isPlace

/-- The number of places before the point from the first `0` on. -/
def leastWhole (spec : Text) : Nat := (((whole spec).filter isPlace).dropWhile (· != '0')).length

/-- The number of places behind the point up to the last `0`. -/
def leastFraction (spec : Text) : Nat := (((fraction spec).filter isPlace).reverse.dropWhile (· != '0')).length

/-- The number of commas behind the last place before the point, if there is a place. -/
def scalingCommas (spec : Text) : Nat :=
  if (whole spec).any isPlace then ((whole spec).reverse.takeWhile fun c => !isPlace c).count ',' else 0

/-- The power of ten by which a number is multiplied. -/
def power (spec : Text) : Int := 2 * spec.count '%' + 3 * spec.count '‰' - 3 * scalingCommas spec

/-- A comma stands between two places before the point. -/
def Grouped (spec : Text) : Prop :=
  ∃ before after, whole spec = before ++ ',' :: after ∧ before.any isPlace = true ∧ after.any isPlace = true

/-- A number rounded to a number of places, a half away from zero. -/
def roundAway (places : Nat) (q : ℚ) : ℚ :=
  if q < 0 then -(round (|q| * 10 ^ places) / 10 ^ places) else round (|q| * 10 ^ places) / 10 ^ places

/-- Digits of a magnitude as a picture asks for them: the whole is padded with zeros to `leastWhole` digits
exactly, and the fraction loses zeros at its end down to `leastFraction` digits. -/
structure Written (spec digits places : Text) (r : ℚ) : Prop where
  isDigits : IsDigits (digits ++ places)
  value_eq : (natOfDigits digits : ℚ) + fractionOfDigits places = r
  leastWhole_le : leastWhole spec ≤ digits.length
  head?_ne : leastWhole spec < digits.length → digits.head? ≠ some '0'
  leastFraction_le : leastFraction spec ≤ places.length
  length_le : places.length ≤ fractionPlaces spec
  getLast?_ne : leastFraction spec < places.length → places.getLast? ≠ some '0'

/-- The places behind a point; where there are no places, there is no point. -/
def pointed (places : Text) : Text := if places.isEmpty then [] else '.' :: places

/-- A number as it is shown: the digits before the point in groups, and those behind it. -/
structure Shown where
  negative : Bool
  groups : List Text
  places : Text

namespace Shown

def whole (n : Shown) : Text := n.groups.flatten

def sign (n : Shown) : Text := if n.negative then ['-'] else []

/-- The text with commas between the groups. -/
def text (n : Shown) : Text := n.sign ++ joinWith [','] n.groups ++ pointed n.places

/-- The text without commas. -/
def numeral (n : Shown) : Text := n.sign ++ n.whole ++ pointed n.places

/-- The number that is shown; digits that are missing on either side of the point count as zero. -/
def value (n : Shown) : ℚ := (if n.negative then -1 else 1) * (natOfDigits n.whole + fractionOfDigits n.places)

/-- A number is shown as a picture asks. -/
structure Fits (n : Shown) (spec : Text) (r : ℚ) : Prop where
  value_eq : n.value = r
  negative_iff : n.negative = true ↔ r < 0
  written : Written spec n.whole n.places |r|
  grouped : Grouped spec → ∀ first others, n.groups = first :: others →
    1 ≤ first.length ∧ first.length ≤ 3 ∧ ∀ group ∈ others, group.length = 3
  ungrouped : ¬ Grouped spec → n.groups.length ≤ 1

/-- The digits give the magnitude, and the sign gives the rest. -/
theorem value_eq_of_abs {n : Shown} {r : ℚ} (h : (natOfDigits n.whole : ℚ) + fractionOfDigits n.places = |r|)
    (hnegative : n.negative = true ↔ r < 0) : n.value = r := by
  rw [value, h]
  by_cases hr : r < 0
  · rw [if_pos (hnegative.2 hr), abs_of_neg hr, neg_one_mul, neg_neg]
  · rw [if_neg fun hsign => hr (hnegative.1 hsign), abs_of_nonneg (not_lt.1 hr), one_mul]

end Shown

/-! ## Tokens -/

/-- The token of a character. -/
def token : Char → Token
  | '0' => .zero
  | '#' => .hash
  | '.' => .point
  | ',' => .comma
  | '%' => .percent
  | '‰' => .perMille
  | c => .literal [c]

@[simp] theorem isPlace_token (c : Char) : (token c).isPlace = isPlace c := by
  unfold token
  split <;> simp_all [Token.isPlace, isPlace]

/-- The characters of pictures have tokens of their own. -/
theorem token_eq_iff {c x : Char} (hx : x ∈ alphabet) : token c = token x ↔ c = x := by
  refine ⟨fun h => ?_, congrArg token⟩
  simp only [alphabet, List.mem_cons, List.not_mem_nil, or_false] at hx
  rcases hx with rfl | rfl | rfl | rfl | rfl | rfl <;> unfold token at h <;> split at h <;>
    first | rfl | cases h

theorem beq_token {c x : Char} (hx : x ∈ alphabet) : (token c == token x) = (c == x) := by
  rw [Bool.eq_iff_iff, beq_iff_eq, beq_iff_eq, token_eq_iff hx]

theorem isBare_token {c : Char} (hc : c ∈ alphabet) : (token c).IsBare := by
  simp only [alphabet, List.mem_cons, List.not_mem_nil, or_false] at hc
  rcases hc with rfl | rfl | rfl | rfl | rfl | rfl <;> rfl

/-- A character that neither parts a specifier nor takes others with it into a literal. -/
def standsAlone (c : Char) : Bool := c != ';' && c != '\\' && c != '\'' && c != '"'

theorem standsAlone_of_mem {c : Char} (hc : c ∈ alphabet) : standsAlone c = true := by
  simp only [alphabet, List.mem_cons, List.not_mem_nil, or_false] at hc
  rcases hc with rfl | rfl | rfl | rfl | rfl | rfl <;> rfl

theorem nextToken_eq {c : Char} (hc : standsAlone c = true) (t : Text) : nextToken c t = (some [token c], t) := by
  unfold nextToken token
  split <;> simp_all [standsAlone]

theorem sectionsFrom_eq {spec : Text} (hspec : ∀ c ∈ spec, standsAlone c = true) (current : List Token) :
    sectionsFrom current spec = [current.reverse ++ spec.map token] := by
  induction spec generalizing current with
  | nil => rw [sectionsFrom, List.map_nil, List.append_nil]
  | cons c spec ih =>
    have hnext := nextToken_eq (hspec c (List.mem_cons_self ..)) spec
    rw [sectionsFrom]
    split
    next h =>
      rw [hnext] at h
      cases h
    next h =>
      rw [hnext] at h
      cases h
      rw [ih fun c' hc' => hspec c' (List.mem_cons_of_mem c hc')]
      simp

/-- A specifier without semicolons and quotes has one section, with a token for each of its characters. -/
theorem sections_eq {spec : Text} (hspec : ∀ c ∈ spec, standsAlone c = true) : sections spec = [spec.map token] :=
  sectionsFrom_eq hspec []

theorem splitPoint_map (spec : Text) : splitPoint (spec.map token) =
    ((whole spec).map token, if '.' ∈ spec then some ((fraction spec).map token) else none) := by
  induction spec with
  | nil => rfl
  | cons c spec ih =>
    by_cases hc : c = '.'
    · subst hc
      simp [splitPoint, token, whole, fraction]
    · have hpoint : token c ≠ .point := fun h => hc ((token_eq_iff (by decide)).1 h)
      have hwhole : whole (c :: spec) = c :: whole spec := by simp [whole, hc]
      have hfraction : fraction (c :: spec) = fraction spec := by simp [fraction, hc]
      have hmem : '.' ∈ c :: spec ↔ '.' ∈ spec := by simp [Ne.symm hc]
      rw [List.map_cons, splitPoint, ih, hwhole, hfraction]
      · simp only [hmem, List.map_cons]
      · exact hpoint

theorem filter_isPlace_map (t : Text) : (t.map token).filter Token.isPlace = (t.filter isPlace).map token := by
  rw [List.filter_map]
  congr 2
  funext c
  exact isPlace_token c

theorem dropWhile_zero_map (t : Text) :
    (t.map token).dropWhile (· != .zero) = (t.dropWhile (· != '0')).map token := by
  rw [List.dropWhile_map]
  congr 2
  funext c
  exact congrArg not (beq_token (x := '0') (by decide))

theorem zerosBefore_map (spec : Text) :
    zerosBefore (((whole spec).map token).filter Token.isPlace) = leastWhole spec := by
  rw [zerosBefore, filter_isPlace_map, dropWhile_zero_map, List.length_map, leastWhole]

theorem zerosBehind_map (spec : Text) :
    zerosBehind (((fraction spec).map token).filter Token.isPlace) = leastFraction spec := by
  rw [zerosBehind, filter_isPlace_map, ← List.map_reverse, dropWhile_zero_map, List.length_map, leastFraction]

theorem count_map {x : Char} (hx : x ∈ alphabet) (t : Text) : (t.map token).count (token x) = t.count x := by
  rw [List.count, List.count, List.countP_map]
  congr 1
  funext c
  exact beq_token hx

theorem any_isPlace_map (t : Text) : (t.map token).any Token.isPlace = t.any isPlace := by
  rw [List.any_map]
  congr 1
  funext c
  exact isPlace_token c

theorem power_map (spec : Text) : Display.power (spec.map token) = power spec := by
  have hpercent : (spec.map token).count .percent = spec.count '%' := count_map (x := '%') (by decide) spec
  have hperMille : (spec.map token).count .perMille = spec.count '‰' := count_map (x := '‰') (by decide) spec
  have hafter : afterLastPlace ((whole spec).map token) =
      (((whole spec).reverse.takeWhile fun c => !isPlace c).map token).reverse := by
    rw [afterLastPlace, ← List.map_reverse, List.takeWhile_map]
    congr 3
    funext c
    exact congrArg not (isPlace_token c)
  have hcommas : Display.scalingCommas ((whole spec).map token) = scalingCommas spec := by
    rw [Display.scalingCommas, scalingCommas, any_isPlace_map, hafter, List.count_reverse,
      show Token.comma = token ',' from rfl, count_map (by decide)]
  rw [Display.power, power, splitPoint_map, hpercent, hperMille, hcommas]

theorem groups_map (spec : Text) : groups ((whole spec).map token) = true ↔ Grouped spec := by
  rw [groups_iff, Grouped]
  constructor
  · rintro ⟨before, after, hmap, hbefore, hafter⟩
    obtain ⟨b, rest, hwhole, rfl, hrest⟩ := List.map_eq_append_iff.1 hmap
    obtain ⟨c, a, rfl, hcomma, rfl⟩ := List.map_eq_cons_iff.1 hrest
    obtain rfl : c = ',' := (token_eq_iff (by decide)).1 hcomma
    rw [any_isPlace_map] at hbefore hafter
    exact ⟨b, a, hwhole, hbefore, hafter⟩
  · rintro ⟨before, after, hwhole, hbefore, hafter⟩
    refine ⟨before.map token, after.map token, ?_, ?_, ?_⟩
    · rw [hwhole, List.map_append, List.map_cons]
      rfl
    · rwa [any_isPlace_map]
    · rwa [any_isPlace_map]

/-! ## One section -/

theorem fraction_eq_nil {spec : Text} (h : '.' ∉ spec) : fraction spec = [] := by
  have hall : spec.dropWhile (· != '.') = [] := by
    rw [List.dropWhile_eq_nil_iff]
    intro c hc
    rw [bne_iff_ne]
    rintro rfl
    exact h hc
  rw [fraction, hall]
  rfl

theorem getD_fraction (spec : Text) :
    (if '.' ∈ spec then some ((fraction spec).map token) else none).getD [] = (fraction spec).map token := by
  split
  next => rfl
  next h =>
    rw [fraction_eq_nil h]
    rfl

theorem isBare_of_mem {spec t : Text} (hspec : ∀ c ∈ spec, c ∈ alphabet) (ht : t ⊆ spec) :
    ∀ x ∈ t.map token, x.IsBare := by
  intro x hx
  obtain ⟨c, hc, rfl⟩ := List.mem_map.1 hx
  exact isBare_token (hspec c (ht hc))

theorem whole_subset (spec : Text) : whole spec ⊆ spec := (List.takeWhile_prefix _).subset

theorem fraction_subset (spec : Text) : fraction spec ⊆ spec :=
  ((List.drop_suffix 1 _).trans (List.dropWhile_suffix _)).subset

/-- Places are shown only where there is a point. -/
theorem withoutSigns_fraction {spec places : Text} (hspec : ∀ c ∈ spec, c ∈ alphabet) (hplaces : IsDigits places)
    (hlength : places.length ≤ fractionPlaces spec) :
    withoutSigns ((if (if '.' ∈ spec then some ((fraction spec).map token) else none).isSome && !places.isEmpty
        then ['.'] else []) ++ place ((fraction spec).map token) (places.map fun c => [c])) = pointed places := by
  have hroom : (places.map fun c => [c]).length ≤ ((fraction spec).map token).countP Token.isPlace := by
    rw [List.length_map, List.countP_map]
    refine hlength.trans_eq ?_
    rw [fractionPlaces]
    congr 1
    funext c
    exact (isPlace_token c).symm
  rw [withoutSigns_append, withoutSigns_place (isBare_of_mem hspec (fraction_subset spec)) hroom,
    flatten_map_singleton, withoutSigns_digits hplaces, pointed]
  cases hempty : places.isEmpty with
  | true =>
    rw [List.isEmpty_iff.1 hempty]
    simp [withoutSigns]
  | false =>
    have hpoint : '.' ∈ spec := by
      by_contra hnot
      rw [fractionPlaces, fraction_eq_nil hnot] at hlength
      rw [List.length_eq_zero_iff.1 (Nat.le_zero.1 hlength)] at hempty
      cases hempty
    simp [hpoint, withoutSigns]

theorem withoutCommas_pointed {places : Text} (h : IsDigits places) : withoutCommas (pointed places) = pointed places := by
  rw [pointed]
  split
  · rfl
  · have hpoint : withoutCommas ('.' :: places) = '.' :: withoutCommas places := rfl
    rw [hpoint, withoutCommas_digits h]

/-- The digits that a section shows. -/
theorem withoutSigns_renderSection {spec : Text} (hspec : ∀ c ∈ spec, c ∈ alphabet) {amount : Amount} {d : Decimal}
    (hscale : amount.scale (power spec) = .decimal d) :
    ∃ digits places, withoutSigns (renderSection amount (spec.map token)) =
        (if groups ((whole spec).map token) then groupThousands digits else digits) ++ pointed places ∧
      Written spec digits places (round (d.magnitude * 10 ^ fractionPlaces spec) / 10 ^ fractionPlaces spec) := by
  obtain ⟨w, hwhole, hlength, hfixed, hvalue⟩ := d.fixed_value (fractionPlaces spec)
  have hle : leastFraction spec ≤ (d.fixed (fractionPlaces spec)).2.length := by
    rw [hlength, fractionPlaces, List.countP_eq_length_filter, leastFraction]
    exact (List.dropWhile_suffix _).length_le.trans_eq (List.length_reverse ..)
  obtain ⟨hdigits, hnat, hleast, hhead⟩ := wholeDigits_ofNat (leastWhole spec) w
  obtain ⟨hplaces, hfraction, hleast', hlength', hlast⟩ := trimFraction_spec hle hfixed
  refine ⟨wholeDigits (leastWhole spec) (ofNat w),
    trimFraction (leastFraction spec) (d.fixed (fractionPlaces spec)).2, ?_, ?_⟩
  · have hfilter : (((fraction spec).map token).filter Token.isPlace).length = fractionPlaces spec := by
      rw [filter_isPlace_map, List.length_map, fractionPlaces, List.countP_eq_length_filter]
    rw [renderSection, splitPoint_map]
    simp only [getD_fraction, power_map, hscale, hfilter, Amount.fixed, zerosBefore_map, zerosBehind_map, hwhole]
    rw [List.append_assoc, withoutSigns_append, withoutSigns_fraction hspec hplaces (hlength'.trans_eq hlength),
      withoutSigns_renderWhole (isBare_of_mem hspec (whole_subset spec)) hdigits]
  · exact ⟨isDigits_append.2 ⟨hdigits, hplaces⟩, by rw [hnat, hfraction, hvalue], hleast, hhead, hleast',
      hlength'.trans_eq hlength, hlast⟩

/-! ## Whole numbers -/

theorem standardSpec?_eq_none {spec : Text} (hspec : ∀ c ∈ spec, c ∈ alphabet) : standardSpec? spec = none := by
  cases spec with
  | nil => rfl
  | cons c spec =>
    have hletter : isAsciiLetter c = false := by
      have hc := hspec c (List.mem_cons_self ..)
      simp only [alphabet, List.mem_cons, List.not_mem_nil, or_false] at hc
      rcases hc with rfl | rfl | rfl | rfl | rfl | rfl <;> decide
    rw [standardSpec?, hletter, Bool.not_false, if_pos rfl]

theorem format_eq (i : Int64Value) {spec : Text} (hne : spec ≠ []) (hspec : ∀ c ∈ spec, c ∈ alphabet) :
    (Value.integer i).format spec = .ok (signedIfNonzero (Amount.ofInt i.1).isNegative
      (renderSection (Amount.ofInt i.1).abs (spec.map token))) := by
  have hcustom : custom (Amount.ofInt i.1) spec = signedIfNonzero (Amount.ofInt i.1).isNegative
      (renderSection (Amount.ofInt i.1).abs (spec.map token)) := by
    rw [custom, sections_eq fun c hc => standsAlone_of_mem (hspec c hc)]
    rfl
  have hnumber : Display.number (.integer i.1) spec = some (custom (Amount.ofInt i.1) spec) := by
    unfold Display.number
    rw [standardSpec?_eq_none hspec]
    rfl
  rw [Value.format, if_neg (by simpa using hne)]
  simp only [Value.underSpec?, hnumber, hcustom]

theorem round_nonneg {q : ℚ} (h : 0 ≤ q) : 0 ≤ round q := by
  rw [round_eq, Int.floor_nonneg]
  linarith

/-- A rounded number and its magnitude. -/
theorem roundAway_cases (places : Nat) (q : ℚ) :
    |roundAway places q| = round (|q| * 10 ^ places) / 10 ^ places ∧
      (roundAway places q < 0 ↔ q < 0 ∧ roundAway places q ≠ 0) := by
  have hround : (0 : ℚ) ≤ round (|q| * 10 ^ places) := by
    exact_mod_cast round_nonneg (by positivity : (0 : ℚ) ≤ |q| * 10 ^ places)
  have hnonneg : (0 : ℚ) ≤ round (|q| * 10 ^ places) / 10 ^ places := by positivity
  rw [roundAway]
  by_cases hq : q < 0
  · rw [if_pos hq, abs_neg, abs_of_nonneg hnonneg, neg_lt_zero, neg_ne_zero]
    exact ⟨rfl, fun h => ⟨hq, h.ne'⟩, fun h => lt_of_le_of_ne hnonneg h.2.symm⟩
  · rw [if_neg hq, abs_of_nonneg hnonneg]
    exact ⟨rfl, fun h => absurd h (not_lt.2 hnonneg), fun h => absurd h.1 hq⟩

theorem hasNonzeroDigit_pointed (places : Text) : hasNonzeroDigit (pointed places) = hasNonzeroDigit places := by
  rw [pointed]
  split
  next hempty => rw [List.isEmpty_iff.1 hempty]
  next => rfl

/-- Digits are shown for zero only if they are zeros. -/
theorem Written.hasNonzeroDigit_iff {spec digits places : Text} {r : ℚ} (h : Written spec digits places r) :
    hasNonzeroDigit (digits ++ pointed places) = true ↔ r ≠ 0 := by
  obtain ⟨hdigits, hplaces⟩ := isDigits_append.1 h.isDigits
  rw [hasNonzeroDigit_append, hasNonzeroDigit_pointed, hasNonzeroDigit_sides hdigits hplaces, h.value_eq]

/-! ## The shown number -/

/-- The number that is shown with given digits, which are in groups if the picture asks for them. -/
def shown (spec : Text) (negative : Bool) (digits places : Text) : Shown where
  negative := negative
  groups := if groups ((whole spec).map token) then thousands digits else [digits]
  places := places

section

variable {spec digits places : Text} {negative : Bool}

theorem sign_shown : (shown spec negative digits places).sign = if negative then ['-'] else [] := rfl

theorem joinWith_shown : joinWith [','] (shown spec negative digits places).groups =
    if groups ((whole spec).map token) then groupThousands digits else digits := by
  rw [shown]
  split
  · rw [groupThousands_eq]
  · rfl

theorem whole_shown : (shown spec negative digits places).whole = digits := by
  rw [Shown.whole, shown]
  split
  · exact (thousands_spec digits).1
  · exact List.flatten_singleton

/-- Digits that are written as the picture asks, with a sign if the number is negative, fit the picture. -/
theorem Written.fits {r : ℚ} (h : Written spec digits places |r|) (hnegative : negative = true ↔ r < 0) :
    (shown spec negative digits places).Fits spec r := by
  refine ⟨?_, hnegative, by rw [whole_shown]; exact h, fun hgrouped first others hfirst => ?_, fun hungrouped => ?_⟩
  · refine Shown.value_eq_of_abs ?_ hnegative
    rw [whole_shown]
    exact h.value_eq
  · have hthousands : thousands digits = first :: others := by
      rw [← hfirst]
      exact (if_pos ((groups_map spec).2 hgrouped)).symm
    have hne : digits ≠ [] := by
      rintro rfl
      cases hthousands
    obtain ⟨first', others', heq, hlength, hothers⟩ := (thousands_spec digits).2 hne
    rw [hthousands] at heq
    obtain ⟨rfl, rfl⟩ := List.cons.inj heq
    exact ⟨by omega, by omega, hothers⟩
  · have hone : (shown spec negative digits places).groups = [digits] :=
      if_neg fun h => hungrouped ((groups_map spec).1 h)
    rw [hone, List.length_singleton]

end

theorem Shown.sign_eq (n : Shown) : withoutSigns n.sign = n.sign ∧ withoutCommas n.sign = n.sign := by
  rw [Shown.sign]
  split <;> exact ⟨rfl, rfl⟩

/-- **A whole number under a picture** is the number times a power of ten, rounded with a half away from zero to
the places behind the point. It is padded with zeros, loses zeros at its end and is parted by commas as the picture
asks, and has a sign if it is negative after it is rounded. -/
theorem format_integer_fits (i : Int64Value) {spec : Text} (hne : spec ≠ []) (hspec : ∀ c ∈ spec, c ∈ alphabet)
    (hlow : -27 ≤ power spec) (hhigh : power spec ≤ 9) :
    ∃ (out : Text) (n : Shown), (Value.integer i).format spec = .ok out ∧ withoutSigns out = n.text ∧
      withoutCommas (withoutSigns out) = n.numeral ∧
      n.Fits spec (roundAway (fractionPlaces spec) ((i.1 : ℚ) * 10 ^ power spec)) := by
  obtain ⟨d, hscale, hmagnitude⟩ := Amount.scale_ofInt i hlow hhigh
  obtain ⟨digits, places, hbody, hwritten⟩ := withoutSigns_renderSection hspec hscale
  obtain ⟨hround, hneg⟩ := roundAway_cases (fractionPlaces spec) ((i.1 : ℚ) * 10 ^ power spec)
  rw [hmagnitude, ← hround] at hwritten
  generalize roundAway (fractionPlaces spec) ((i.1 : ℚ) * 10 ^ power spec) = r at hwritten hneg ⊢
  generalize hrender : renderSection (Amount.ofInt i.1).abs (spec.map token) = body at hbody
  have hnumeral : withoutCommas (withoutSigns body) = digits ++ pointed places := by
    obtain ⟨hdigits, hplaces⟩ := isDigits_append.1 hwritten.isDigits
    rw [hbody, withoutCommas_append, withoutCommas_pointed hplaces]
    split
    · rw [withoutCommas_groupThousands, withoutCommas_digits hdigits]
    · rw [withoutCommas_digits hdigits]
  -- The sign is put where a digit other than zero is shown, and that is where the rounded number is not zero.
  have hnegative : (decide (i.1 < 0) && hasNonzeroDigit body) = true ↔ r < 0 := by
    have hpow : (0 : ℚ) < 10 ^ power spec := zpow_pos (by norm_num) _
    have hsign : (i.1 : ℚ) * 10 ^ power spec < 0 ↔ i.1 < 0 := by
      rw [← Int.cast_lt_zero (R := ℚ)]
      exact ⟨fun h => (neg_iff_pos_of_mul_neg h).2 hpow, fun h => mul_neg_of_neg_of_pos h hpow⟩
    have hnonzero : hasNonzeroDigit body = true ↔ r ≠ 0 := by
      rw [← hasNonzeroDigit_withoutSigns, ← hasNonzeroDigit_withoutCommas, hnumeral, hwritten.hasNonzeroDigit_iff,
        ne_eq, abs_eq_zero]
    rw [hneg, hsign, ← hnonzero, Bool.and_eq_true, decide_eq_true_eq]
  let n := shown spec (decide (i.1 < 0) && hasNonzeroDigit body) digits places
  have hout : signedIfNonzero (Amount.ofInt i.1).isNegative body = n.sign ++ body := by
    rw [Amount.isNegative_ofInt, signedIfNonzero, sign_shown]
    split <;> rfl
  obtain ⟨hsigns, hcommas⟩ := n.sign_eq
  refine ⟨n.sign ++ body, n, ?_, ?_, ?_, hwritten.fits hnegative⟩
  · rw [format_eq i hne hspec, hrender, hout]
  · rw [withoutSigns_append, hsigns, hbody, Shown.text, joinWith_shown, List.append_assoc]
    rfl
  · rw [withoutSigns_append, hsigns, withoutCommas_append, hcommas, hnumeral, Shown.numeral, whole_shown,
      List.append_assoc]
    rfl

/-- Scaling, grouping and a tie below zero in one picture. -/
theorem format_integer_tie :
    (Value.integer ⟨-1234500, by decide⟩).format ['#', ',', '0', ','] = .ok "-1,235".toList ∧
      ∃ n : Shown, n.text = "-1,235".toList ∧ n.numeral = "-1235".toList ∧ n.Fits ['#', ',', '0', ','] (-1235) := by
  have hne : ['#', ',', '0', ','] ≠ [] := by decide
  have hspec : ∀ c ∈ ['#', ',', '0', ','], c ∈ alphabet := by simp [alphabet]
  have hpower : power ['#', ',', '0', ','] = -3 := by decide
  have hplaces : fractionPlaces ['#', ',', '0', ','] = 0 := by decide
  have hformat : (Value.integer ⟨-1234500, by decide⟩).format ['#', ',', '0', ','] = .ok "-1,235".toList := by
    rw [format_eq _ hne hspec]
    decide
  obtain ⟨out, n, hout, htext, hnumeral, hfits⟩ :=
    format_integer_fits ⟨-1234500, by decide⟩ hne hspec (by rw [hpower]; decide) (by rw [hpower]; decide)
  have hround : roundAway 0 (((-1234500 : Int) : ℚ) * 10 ^ (-3 : Int)) = -1235 := by
    norm_num [roundAway, round_eq]
  rw [hformat] at hout
  cases hout
  rw [hpower, hplaces, hround] at hfits
  exact ⟨hformat, n, htext.symm, hnumeral.symm, hfits⟩

end Picture

end Placeholder.Display
