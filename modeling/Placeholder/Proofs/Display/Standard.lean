/-
Default texts beside standard patterns. A date, a time of day and a moment each have a standard letter whose pattern
describes the default text: `d`, `T` and `G`. Default texts and patterns are written by two different ways, and the
two agree except at the edges (`format_standard_iff`).

A pattern is written run by run (`renderPattern_run`), so the text under a standard letter is known part by part, and
only two parts can differ. Where a year does not fit into four digits, the default text puts a sign before four digits,
while the pattern counts the sign as one of its four places and has no plus sign. And in a leap second the default
text counts on, while the pattern shows the second that has ended.
-/
import Placeholder.Display.Basic
import Placeholder.Proofs.Calendar.ReadBack

namespace Placeholder

open Calendar (twoDigits padded yearText)

namespace Display

variable {v : Temporal} {c : Char} {written rest : Text}

/-! ## Patterns, run by run -/

/-- The characters that lead to something else than a run. -/
def leads (c : Char) : Bool := c = '\'' || c = '"' || c = '\\' || c = '%'

theorem renderPattern_cons (hc : leads c = false) (t : Text) : renderPattern v written (c :: t) =
    (runText v c (1 + (t.length - (t.dropWhile (· == c)).length)) written).bind fun shown => match shown with
      | none => renderPattern v (c :: written) t
      | some written => renderPattern v written (t.dropWhile (· == c)) := by
  simp only [leads, Bool.or_eq_false_iff, decide_eq_false_iff_not] at hc
  obtain ⟨⟨⟨hquote, hquotes⟩, hescape⟩, hpercent⟩ := hc
  rw [renderPattern.eq_def]
  simp only [hquote, hquotes, hescape, hpercent, decide_false, Bool.or_self, Bool.false_eq_true, if_false]
  cases runText v c (1 + (t.length - (t.dropWhile (· == c)).length)) written with
  | none => rfl
  | some shown => cases shown <;> rfl

/-- A run of letters is written as one. -/
theorem renderPattern_run {n : Nat} {written' : Text} (hc : leads c = false) (hrest : rest.head? ≠ some c)
    (hrun : runText v c (n + 1) written = some (some written')) :
    renderPattern v written (List.replicate (n + 1) c ++ rest) = renderPattern v written' rest := by
  have hdrop : (List.replicate n c ++ rest).dropWhile (· == c) = rest := by
    rw [List.dropWhile_append_of_pos (by simp)]
    cases rest with
    | nil => rfl
    | cons d rest =>
      have hd : d ≠ c := fun h => hrest (by rw [h, List.head?_cons])
      rw [List.dropWhile_cons_of_neg (by simpa using hd)]
  have hlength : 1 + ((List.replicate n c ++ rest).length - rest.length) = n + 1 := by
    rw [List.length_append, List.length_replicate]
    omega
  rw [List.replicate_succ, List.cons_append, renderPattern_cons hc, hdrop, hlength, hrun, Option.bind_some]

/-- A character that is no letter of a pattern stands for itself. -/
theorem renderPattern_mark (hc : leads c = false) (hrun : ∀ run written, runText v c run written = some none) :
    renderPattern v written (c :: rest) = renderPattern v (c :: written) rest := by
  rw [renderPattern_cons hc, hrun, Option.bind_some]

theorem renderPattern_quote (hquote : c = '\'' || c = '"') (t : Text) : renderPattern v written (c :: t) =
    renderPattern v (push (t.takeWhile (· != c)) written) ((t.dropWhile (· != c)).drop 1) := by
  rw [renderPattern.eq_def]
  exact if_pos hquote

theorem renderPattern_escape (d : Char) (t : Text) :
    renderPattern v written ('\\' :: d :: t) = renderPattern v (d :: written) t := by
  rw [renderPattern.eq_def]
  rfl

theorem renderPattern_percent (t : Text) : renderPattern v written ('%' :: t) = renderPattern v written t := by
  rw [renderPattern.eq_def]
  rfl

theorem push_append (a b : Text) : push (a ++ b) written = push b (push a written) := by
  simp [push]

theorem push_cons (c : Char) (t : Text) : push (c :: t) written = push t (c :: written) := by
  simp [push]

end Display

/-! ## The text under a standard letter -/

/-- The date under `MM/dd/yyyy`. -/
def Date.patternText (d : Date) : Text := twoDigits d.month ++ '/' :: (twoDigits d.day ++ '/' :: padded 4 d.year)

/-- The time of day under `HH:mm:ss`. -/
def TimeOfDay.patternText (t : TimeOfDay) : Text :=
  twoDigits t.hour ++ ':' :: (twoDigits t.minute ++ ':' :: twoDigits t.second)

namespace Display

variable {rest written : Text}

theorem renderPattern_date (d : Date) (time : Option TimeOfDay) (hrest : rest.head? ≠ some 'y') :
    renderPattern ⟨some d, time⟩ written ("MM/dd/yyyy".toList ++ rest) =
      renderPattern ⟨some d, time⟩ (push d.patternText written) rest := by
  have hpattern : "MM/dd/yyyy".toList ++ rest = List.replicate 2 'M' ++ '/' :: (List.replicate 2 'd' ++ '/' ::
      (List.replicate 4 'y' ++ rest)) := rfl
  rw [hpattern, renderPattern_run rfl (by simp) rfl, renderPattern_mark rfl fun _ _ => rfl,
    renderPattern_run rfl (by simp) rfl, renderPattern_mark rfl fun _ _ => rfl, renderPattern_run rfl hrest rfl,
    Date.patternText, push_append, push_cons, push_append, push_cons]
  rfl

theorem renderPattern_clock (date : Option Date) (t : TimeOfDay) :
    renderPattern ⟨date, some t⟩ written "HH:mm:ss".toList = some (push t.patternText written).reverse := by
  have hpattern : "HH:mm:ss".toList = List.replicate 2 'H' ++ ':' :: (List.replicate 2 'm' ++ ':' ::
      (List.replicate 2 's' ++ [])) := rfl
  rw [hpattern, renderPattern_run rfl (by decide) rfl, renderPattern_mark rfl fun _ _ => rfl,
    renderPattern_run rfl (by decide) rfl, renderPattern_mark rfl fun _ _ => rfl,
    renderPattern_run rfl (by decide) rfl, renderPattern, TimeOfDay.patternText, push_append, push_cons, push_append,
    push_cons]
  rfl

theorem temporal_d (d : Date) (time : Option TimeOfDay) : temporal ⟨some d, time⟩ ['d'] = some d.patternText := by
  have hpattern : "MM/dd/yyyy".toList = "MM/dd/yyyy".toList ++ [] := rfl
  rw [temporal, standardPattern?, Option.bind_some, hpattern, renderPattern_date _ _ (by decide), renderPattern]
  simp [push]

theorem temporal_T (date : Option Date) (t : TimeOfDay) : temporal ⟨date, some t⟩ ['T'] = some t.patternText := by
  rw [temporal, standardPattern?, Option.bind_some, renderPattern_clock]
  simp [push]

theorem temporal_G (m : Moment) :
    temporal ⟨some m.date, some m.time⟩ ['G'] = some (m.date.patternText ++ ' ' :: m.time.patternText) := by
  have hpattern : "MM/dd/yyyy HH:mm:ss".toList = "MM/dd/yyyy".toList ++ ' ' :: "HH:mm:ss".toList := rfl
  rw [temporal, standardPattern?, Option.bind_some, hpattern, renderPattern_date _ _ (by decide),
    renderPattern_mark rfl fun _ _ => rfl, renderPattern_clock]
  simp [push]

end Display

/-! ## Where the two agree -/

/-- The years that both ways write alike. -/
def Date.WrittenAlike (year : Int) : Prop := year ≤ -1000 ∨ (0 ≤ year ∧ year ≤ 9999)

namespace Calendar

theorem length_ofNat_le_iff {n places : Nat} (h : 0 < places) : (Text.ofNat n).length ≤ places ↔ n < 10 ^ places :=
  Nat.length_toDigits_le_iff (by decide) h

/-- One more place makes no difference to a number that fills it. -/
theorem padLeft_succ_eq_iff {places n : Nat} (h : 0 < places) :
    Text.padLeft (places + 1) '0' (Text.ofNat n) = Text.padLeft places '0' (Text.ofNat n) ↔ 10 ^ places ≤ n := by
  rw [← Nat.not_lt, ← length_ofNat_le_iff h, Nat.not_le]
  constructor
  · intro heq
    have hlength := congrArg List.length heq
    rw [Text.length_padLeft, Text.length_padLeft] at hlength
    omega
  · intro hlong
    rw [Text.padLeft_of_le hlong, Text.padLeft_of_le (Nat.le_of_lt hlong)]

theorem yearText_eq_padded_iff (year : Int) : yearText year = padded 4 year ↔ Date.WrittenAlike year := by
  rw [Date.WrittenAlike, yearText, padded]
  by_cases hneg : year < 0
  · have hshort : ¬ (0 ≤ year ∧ year ≤ 9999) := by omega
    rw [if_neg hshort, if_pos hneg, if_pos hneg, List.cons.injEq, and_iff_right rfl,
      padLeft_succ_eq_iff (show 0 < 3 by decide)]
    omega
  · by_cases hshort : 0 ≤ year ∧ year ≤ 9999
    · rw [if_pos hshort, if_neg hneg]
      exact iff_of_true rfl (.inr hshort)
    · rw [if_neg hshort, if_neg hneg, if_neg hneg]
      refine iff_of_false (fun heq => ?_) (by omega)
      -- The pattern writes digits only.
      have hdigits : Text.IsDigits (Text.padLeft 4 '0' (Text.ofNat year.natAbs)) :=
        Text.isDigits_padLeft (Text.isDigits_ofNat _) 4
      rw [← heq] at hdigits
      exact absurd (hdigits '+' (List.mem_cons_self ..)) (by decide)

end Calendar

theorem Date.toText_eq_patternText_iff (d : Date) : d.toText = d.patternText ↔ Date.WrittenAlike d.year := by
  have htext := d.toText_append []
  simp only [List.append_nil] at htext
  rw [htext, patternText, List.append_cancel_left_eq, List.cons.injEq, and_iff_right rfl, List.append_cancel_left_eq,
    List.cons.injEq, and_iff_right rfl, Calendar.yearText_eq_padded_iff]

namespace TimeOfDay

theorem clockText_eq_patternText_iff (t : TimeOfDay) : t.clockText = t.patternText ↔ t.nano < 1000000000 := by
  have htext : t.clockText = twoDigits t.hour ++ ':' :: (twoDigits t.minute ++ ':' :: twoDigits t.countedSecond) := by
    simp [clockText]
  rw [htext, patternText, List.append_cancel_left_eq, List.cons.injEq, and_iff_right rfl, List.append_cancel_left_eq,
    List.cons.injEq, and_iff_right rfl]
  constructor
  · intro heq
    have hsecond := congrArg Text.natOfDigits heq
    rw [Calendar.natOfDigits_twoDigits, Calendar.natOfDigits_twoDigits, countedSecond] at hsecond
    omega
  · intro hnano
    rw [countedSecond, Nat.div_eq_of_lt hnano, Nat.add_zero]

theorem length_clockText (t : TimeOfDay) : t.clockText.length = 8 := by
  obtain ⟨hhour, hminute, hsecond, hnano⟩ := t.valid
  have hcounted : t.countedSecond < 100 := by
    rw [countedSecond]
    omega
  simp [clockText, Calendar.length_twoDigits hcounted, Calendar.length_twoDigits (n := t.hour) (by omega),
    Calendar.length_twoDigits (n := t.minute) (by omega)]

theorem length_patternText (t : TimeOfDay) : t.patternText.length = 8 := by
  obtain ⟨hhour, hminute, hsecond, -⟩ := t.valid
  simp [patternText, Calendar.length_twoDigits (n := t.hour) (by omega),
    Calendar.length_twoDigits (n := t.minute) (by omega), Calendar.length_twoDigits (n := t.second) (by omega)]

/-- The default text shows the fraction, if there is one, and the pattern never does. -/
theorem toText_eq_patternText_iff (t : TimeOfDay) : t.toText = t.patternText ↔ t.nano = 0 := by
  rw [toText]
  split
  next hnone =>
    rw [clockText_eq_patternText_iff]
    rw [fraction] at hnone
    omega
  next hfraction =>
    refine iff_of_false (fun heq => ?_) (fun hzero => hfraction (by rw [fraction, hzero]))
    have hlength := congrArg List.length heq
    rw [List.length_append, length_clockText, length_patternText, List.length_cons] at hlength
    omega

end TimeOfDay

theorem Moment.toText_eq_patternText_iff (m : Moment) :
    m.toText = m.date.patternText ++ ' ' :: m.time.patternText ↔
      Date.WrittenAlike m.date.year ∧ m.time.nano < 1000000000 := by
  rw [toText, ← Date.toText_eq_patternText_iff, ← TimeOfDay.clockText_eq_patternText_iff]
  constructor
  · intro heq
    obtain ⟨hdate, hclock⟩ := List.append_inj' heq (by
      rw [List.length_cons, List.length_cons, TimeOfDay.length_clockText, TimeOfDay.length_patternText])
    exact ⟨hdate, (List.cons.inj hclock).2⟩
  · rintro ⟨hdate, hclock⟩
    rw [hdate, hclock]

namespace Value

section

variable {v : Value} {spec : Text} (hne : spec ≠ [])
include hne

theorem format_eq_ok_iff {shown : Text} :
    v.format spec = .ok shown ↔ v.underSpec? spec = some shown := by
  rw [format, if_neg (by simpa using hne)]
  cases v.underSpec? spec <;> simp

theorem format_eq_unsupported_iff :
    v.format spec = .error (.unsupportedFormat v.kind spec) ↔ v.underSpec? spec = none := by
  rw [format, if_neg (by simpa using hne)]
  cases v.underSpec? spec <;> simp

end

/-- **Default texts and standard patterns** are the same for a moment under `G` and for a date under `d` exactly if
the year has four digits or is at most -1000, and the moment is not in a leap second; and for a time of day under `T`
exactly if it has neither a fraction nor a leap second. -/
theorem format_standard_iff (m : Moment) (d : Date) (t : TimeOfDay) :
    ((moment m).format ['G'] = .ok (moment m).plainText ↔ Date.WrittenAlike m.date.year ∧ m.time.nano < 1000000000) ∧
    ((date d).format ['d'] = .ok (date d).plainText ↔ Date.WrittenAlike d.year) ∧
    ((time t).format ['T'] = .ok (time t).plainText ↔ t.nano = 0) := by
  refine ⟨?_, ?_, ?_⟩
  · rw [← m.toText_eq_patternText_iff, format, underSpec?, Display.temporal_G]
    simp [plainText, eq_comm]
  · rw [← d.toText_eq_patternText_iff, format, underSpec?, Display.temporal_d]
    simp [plainText, eq_comm]
  · rw [← t.toText_eq_patternText_iff, format, underSpec?, Display.temporal_T]
    simp [plainText, eq_comm]

/-- The leap second at the end of the year 2016 is the sixtieth by default and the fifty-ninth under `G`. -/
theorem format_leapSecond :
    let leap : Moment := ⟨⟨2016, 12, 31, by decide⟩, ⟨23, 59, 59, 1000000000, by decide⟩⟩
    (moment leap).plainText = "12/31/2016 23:59:60".toList ∧
      (moment leap).format ['G'] = .ok "12/31/2016 23:59:59".toList := by
  intro leap
  refine ⟨by decide, ?_⟩
  rw [format, underSpec?, Display.temporal_G]
  decide

end Value

end Placeholder
