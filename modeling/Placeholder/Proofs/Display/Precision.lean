/-
Letters with a precision. A precision counts for the number that its digits denote, up to 99, as long as there are no
more than nine digits. More digits, zeros in front included, make the specifier a custom one: it then shows a text
whatever the number is, and the letter is part of the text (`format_precision`).
-/
import Placeholder.Proofs.Display.FixedPoint

namespace Placeholder

namespace Value

open Display

/-- The number behind a value, if it is finite. -/
def numeral? : Value → Option Numeral
  | integer i => some (.integer i.1)
  | double x => if (nonFinite? x).isNone then some (.double x) else none
  | decimal d => some (.decimal d)
  | _ => none

/-- A finite number under a specifier. -/
theorem underSpec?_numeral {v : Value} {n : Numeral} (h : v.numeral? = some n) (spec : Text) :
    v.underSpec? spec = match standardSpec? spec with
      | some (letter, precision) => standard n letter precision
      | none => some (Display.custom n.amount spec) := by
  cases v with
  | integer i =>
    obtain rfl := Option.some.inj h
    rfl
  | double x =>
    cases hname : nonFinite? x with
    | none =>
      obtain rfl : Numeral.double x = n := by simpa [numeral?, hname] using h
      have hnumber : (double x).underSpec? spec = Display.number (.double x) spec := rfl
      rw [hnumber, Display.number]
      cases standardSpec? spec <;> simp only [hname]
    | some name => simp [numeral?, hname] at h
  | decimal d =>
    obtain rfl := Option.some.inj h
    rfl
  | _ => cases h

/-- The outcome of a text that may be missing; a fault names the kind of the value and the specifier. -/
def outcome (v : Value) (spec : Text) : Option Text → Outcome Text
  | some shown => .ok shown
  | none => .error (.unsupportedFormat v.kind spec)

theorem format_eq_outcome (v : Value) {spec : Text} (h : spec ≠ []) :
    v.format spec = v.outcome spec (v.underSpec? spec) := by
  rw [format, if_neg (by simpa using h)]
  cases v.underSpec? spec <;> rfl

end Value

namespace Display

open Text

section

variable {letter : Char} {digits : Text} (hletter : isAsciiLetter letter = true) (hne : digits ≠ [])
  (hdigits : IsDigits digits)

include hletter hne hdigits in
/-- Nine digits are read at most. -/
theorem standardSpec?_digits : standardSpec? (letter :: digits) =
    if digits.length ≤ 9 then some (letter, some (natOfDigits digits)) else none := by
  have hall : digits.all isAsciiDigit = true := List.all_eq_true.2 hdigits
  simp [standardSpec?, hletter, hne, hall]

theorem standard_large {n : Numeral} {p : Nat} (h : greatestPrecision < p) : standard n letter (some p) = none := by
  unfold standard
  simp [h]

/-! ## The letter as a literal -/

/-- A section shows a literal at its start before all else. -/
theorem renderSection_literal (amount : Amount) (t : Text) (tokens : List Token) :
    ∃ shown, renderSection amount (.literal t :: tokens) = t ++ shown := by
  have hplace : ∀ tokens shown, place (.literal t :: tokens) shown = t ++ place tokens shown := by
    intro tokens shown
    cases shown <;> rfl
  have hwhole : ∀ tokens digits, ∃ shown, renderWhole (.literal t :: tokens) digits = t ++ shown := by
    intro tokens digits
    simp only [renderWhole, hplace, List.append_assoc]
    split
    · exact ⟨_, rfl⟩
    · split <;> exact ⟨_, rfl⟩
  have hsplit : splitPoint (.literal t :: tokens) = (.literal t :: (splitPoint tokens).1, (splitPoint tokens).2) := rfl
  unfold renderSection
  simp only [hsplit]
  obtain ⟨shown, hshown⟩ := hwhole (splitPoint tokens).1 (wholeDigits
    (zerosBefore ((Token.literal t :: (splitPoint tokens).1).filter Token.isPlace))
    ((amount.scale (power (.literal t :: tokens))).fixed
      (((splitPoint tokens).2.getD []).filter Token.isPlace).length).1)
  rw [hshown, List.append_assoc, List.append_assoc]
  exact ⟨_, rfl⟩

theorem standsAlone_of_word {c : Char} (h : isAsciiLetter c = true ∨ isAsciiDigit c = true) :
    Picture.standsAlone c = true := by
  simp only [Picture.standsAlone, Bool.and_eq_true, bne_iff_ne, ne_eq]
  refine ⟨⟨⟨?_, ?_⟩, ?_⟩, ?_⟩ <;>
  · intro heq
    subst heq
    revert h
    decide

include hletter in
theorem token_letter : Picture.token letter = .literal [letter] := by
  unfold Picture.token
  split
  all_goals first | rfl | exact absurd hletter (by decide)

include hletter hdigits in
/-- A letter with digits is one section of a custom specifier. -/
theorem custom_digits (amount : Amount) : ∃ shown,
    custom amount (letter :: digits) = letter :: shown ∨ custom amount (letter :: digits) = '-' :: letter :: shown := by
  have halone : ∀ c ∈ letter :: digits, Picture.standsAlone c = true := by
    intro c hc
    rcases List.mem_cons.1 hc with rfl | hc
    · exact standsAlone_of_word (.inl hletter)
    · exact standsAlone_of_word (.inr (hdigits c hc))
  obtain ⟨shown, hshown⟩ := renderSection_literal amount.abs [letter] (digits.map Picture.token)
  refine ⟨shown, ?_⟩
  unfold custom
  rw [Picture.sections_eq halone, List.map_cons, token_letter hletter]
  simp only [chooseSection, if_true, hshown, List.singleton_append, signedIfNonzero]
  split
  · exact .inr rfl
  · exact .inl rfl

end

/-! ## Precisions -/

/-- **A precision of any length.** With up to nine digits it counts for the number that they denote: above 99 it is
refused, and otherwise the specifier shows what it shows with that number written without zeros in front, or is refused
like it. With more digits nothing is refused: the specifier is a custom one, and the text begins with the letter, behind
a minus sign if there is one. -/
theorem format_precision {v : Value} {n : Numeral} (hv : v.numeral? = some n) {letter : Char}
    (hletter : isAsciiLetter letter = true) {digits : Text} (hne : digits ≠ []) (hdigits : IsDigits digits) :
    (digits.length ≤ 9 → 99 < natOfDigits digits →
      v.format (letter :: digits) = .error (.unsupportedFormat v.kind (letter :: digits))) ∧
    (digits.length ≤ 9 → natOfDigits digits ≤ 99 → ∃ shown : Option Text,
      v.format (letter :: digits) = v.outcome (letter :: digits) shown ∧
      v.format (specifier letter (some (natOfDigits digits))) =
        v.outcome (specifier letter (some (natOfDigits digits))) shown) ∧
    (9 < digits.length → ∃ shown, v.format (letter :: digits) = .ok (letter :: shown) ∨
      v.format (letter :: digits) = .ok ('-' :: letter :: shown)) := by
  have hformat : v.format (letter :: digits) = v.outcome (letter :: digits) (v.underSpec? (letter :: digits)) :=
    v.format_eq_outcome (List.cons_ne_nil _ _)
  have hread := standardSpec?_digits hletter hne hdigits
  refine ⟨fun hlength hlarge => ?_, fun hlength hsmall => ?_, fun hlength => ?_⟩
  · rw [if_pos hlength] at hread
    rw [hformat, Value.underSpec?_numeral hv, hread]
    have hnone : standard n letter (some (natOfDigits digits)) = none := standard_large hlarge
    simp only [hnone]
    rfl
  · rw [if_pos hlength] at hread
    have hread' : standardSpec? (specifier letter (some (natOfDigits digits))) =
        some (letter, some (natOfDigits digits)) := by
      refine standardSpec?_specifier hletter ?_
      intro p hp
      obtain rfl := Option.some.inj hp
      exact hsmall
    refine ⟨standard n letter (some (natOfDigits digits)), ?_, ?_⟩
    · rw [hformat, Value.underSpec?_numeral hv, hread]
    · have hcons : specifier letter (some (natOfDigits digits)) ≠ [] := List.cons_ne_nil _ _
      rw [v.format_eq_outcome hcons, Value.underSpec?_numeral hv, hread']
  · rw [if_neg (Nat.not_le.2 hlength)] at hread
    rw [Value.underSpec?_numeral hv, hread] at hformat
    obtain ⟨shown, hshown⟩ := custom_digits hletter hdigits n.amount
    refine ⟨shown, hshown.imp (fun heq => ?_) fun heq => ?_⟩
    · rw [hformat, heq]
      rfl
    · rw [hformat, heq]
      rfl

/-- Two places for a negative number, with seven zeros in front of the precision. -/
theorem format_precision_zeros :
    let v : Value := .decimal ⟨true, 12345, 3, by decide, by decide⟩
    v.numeral? = some (.decimal ⟨true, 12345, 3, by decide, by decide⟩) ∧ isAsciiLetter 'F' = true ∧
      IsDigits "000000002".toList ∧ v.format "F000000002".toList = .ok "-12.35".toList := by
  intro v
  have hdigits : IsDigits "000000002".toList := List.all_eq_true.1 (by decide)
  have hletter : isAsciiLetter 'F' = true := by decide
  obtain ⟨-, hsmall, -⟩ := format_precision (v := v) rfl hletter (by decide) hdigits
  obtain ⟨shown, hlong, hshort⟩ := hsmall (by decide) (by decide)
  have hspecifier : v.format (specifier 'F' (some (natOfDigits "000000002".toList))) = .ok "-12.35".toList := by decide
  rw [hspecifier] at hshort
  cases shown with
  | none => cases hshort
  | some t =>
    rw [Except.ok.inj hshort]
    exact ⟨rfl, hletter, hdigits, hlong⟩

/-- Ten digits: a precision far above 99 is shown instead of refused, and so is one that is two. -/
theorem format_precision_long :
    let v : Value := .integer ⟨1, by decide⟩
    v.format "F1000000000".toList = .ok "F1000000001".toList ∧
      v.format "F0000000002".toList = .ok "F0000000012".toList ∧ v.format "F2".toList = .ok "1.00".toList := by
  refine ⟨?_, ?_, ?_⟩ <;> decide +kernel

end Display

end Placeholder
