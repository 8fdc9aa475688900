/-
Sortable texts, read back. Under `o` and `s` dates and times of day are written from the year down to the fraction of
the second, and such a text is read as the value that it was written for, as far as it holds it (`read_sortable`).

The reader tries internet time stamps first, and then its layouts in turn. A time stamp has a distance from universal
time at its end, which is missing here. The layouts before the one with a `T` fail at the first dash, or at the `T`
where they expect an hour.
-/
import Placeholder.Proofs.Display.Standard

namespace Placeholder

open Calendar (twoDigits padded yearText Fields Layout Field)
open Text (IsDigits natOfDigits)

/-- The date under `yyyy-MM-dd`. -/
def Date.sortableText (d : Date) : Text := padded 4 d.year ++ '-' :: (twoDigits d.month ++ '-' :: twoDigits d.day)

/-! ## Writing -/

namespace Display

variable {v : Temporal} {c : Char} {written rest : Text}

/-- One character in quotes stands for itself. -/
theorem renderPattern_quoted (hc : c ≠ '\'') (rest : Text) :
    renderPattern v written ('\'' :: c :: '\'' :: rest) = renderPattern v (c :: written) rest := by
  rw [renderPattern_quote rfl]
  simp [hc, push]

theorem renderPattern_sortableDate (d : Date) (time : Option TimeOfDay) (hrest : rest.head? ≠ some 'd') :
    renderPattern ⟨some d, time⟩ written ("yyyy'-'MM'-'dd".toList ++ rest) =
      renderPattern ⟨some d, time⟩ (push d.sortableText written) rest := by
  have hpattern : "yyyy'-'MM'-'dd".toList ++ rest = List.replicate 4 'y' ++ '\'' :: '-' :: '\'' ::
      (List.replicate 2 'M' ++ '\'' :: '-' :: '\'' :: (List.replicate 2 'd' ++ rest)) := rfl
  rw [hpattern, renderPattern_run rfl (by simp) rfl, renderPattern_quoted (by decide),
    renderPattern_run rfl (by simp) rfl, renderPattern_quoted (by decide), renderPattern_run rfl hrest rfl,
    Date.sortableText, push_append, push_cons, push_append, push_cons]
  rfl

theorem renderPattern_quotedClock (date : Option Date) (t : TimeOfDay) (hrest : rest.head? ≠ some 's') :
    renderPattern ⟨date, some t⟩ written ("HH':'mm':'ss".toList ++ rest) =
      renderPattern ⟨date, some t⟩ (push t.patternText written) rest := by
  have hpattern : "HH':'mm':'ss".toList ++ rest = List.replicate 2 'H' ++ '\'' :: ':' :: '\'' ::
      (List.replicate 2 'm' ++ '\'' :: ':' :: '\'' :: (List.replicate 2 's' ++ rest)) := rfl
  rw [hpattern, renderPattern_run rfl (by simp) rfl, renderPattern_quoted (by decide),
    renderPattern_run rfl (by simp) rfl, renderPattern_quoted (by decide), renderPattern_run rfl hrest rfl,
    TimeOfDay.patternText, push_append, push_cons, push_append, push_cons]
  rfl

theorem renderPattern_fraction (date : Option Date) (t : TimeOfDay) :
    renderPattern ⟨date, some t⟩ written "'.'fffffff".toList =
      some (push ('.' :: fractionDigits 7 t) written).reverse := by
  have hpattern : "'.'fffffff".toList = '\'' :: '.' :: '\'' :: (List.replicate 7 'f' ++ []) := rfl
  rw [hpattern, renderPattern_quoted (by decide), renderPattern_run rfl (by decide) rfl, renderPattern, push_cons]

theorem temporal_o_date (d : Date) : temporal ⟨some d, none⟩ ['o'] = some d.sortableText := by
  have hpattern : "yyyy'-'MM'-'dd".toList = "yyyy'-'MM'-'dd".toList ++ [] := rfl
  rw [temporal, standardPattern?, Option.bind_some, hpattern, renderPattern_sortableDate _ _ (by decide),
    renderPattern]
  simp [push]

theorem temporal_o_time (t : TimeOfDay) :
    temporal ⟨none, some t⟩ ['o'] = some (t.patternText ++ '.' :: fractionDigits 7 t) := by
  have hpattern : "HH':'mm':'ss'.'fffffff".toList = "HH':'mm':'ss".toList ++ "'.'fffffff".toList := rfl
  rw [temporal, standardPattern?, Option.bind_some, hpattern, renderPattern_quotedClock _ _ (by decide),
    renderPattern_fraction]
  simp [push]

theorem temporal_o_moment (m : Moment) : temporal ⟨some m.date, some m.time⟩ ['o'] =
    some (m.date.sortableText ++ 'T' :: (m.time.patternText ++ '.' :: fractionDigits 7 m.time)) := by
  have hpattern : "yyyy'-'MM'-'dd'T'HH':'mm':'ss'.'fffffff".toList =
      "yyyy'-'MM'-'dd".toList ++ '\'' :: 'T' :: '\'' :: ("HH':'mm':'ss".toList ++ "'.'fffffff".toList) := rfl
  rw [temporal, standardPattern?, Option.bind_some, hpattern, renderPattern_sortableDate _ _ (by decide),
    renderPattern_quoted (by decide), renderPattern_quotedClock _ _ (by decide), renderPattern_fraction]
  simp [push]

theorem temporal_s (m : Moment) : temporal ⟨some m.date, some m.time⟩ ['s'] =
    some (m.date.sortableText ++ 'T' :: m.time.patternText) := by
  have hpattern : "yyyy'-'MM'-'dd'T'HH':'mm':'ss".toList =
      "yyyy'-'MM'-'dd".toList ++ '\'' :: 'T' :: '\'' :: ("HH':'mm':'ss".toList ++ []) := rfl
  rw [temporal, standardPattern?, Option.bind_some, hpattern, renderPattern_sortableDate _ _ (by decide),
    renderPattern_quoted (by decide), renderPattern_quotedClock _ _ (by decide), renderPattern]
  simp [push]

end Display

/-! ## Reading -/

namespace Display

theorem fractionDigits_seven (t : TimeOfDay) : IsDigits (fractionDigits 7 t) ∧ (fractionDigits 7 t).length = 7 ∧
    natOfDigits (fractionDigits 7 t) = t.fraction / 100 := by
  have hfraction : t.fraction < 10 ^ 9 := Nat.mod_lt _ (by decide)
  have hdigits : IsDigits (Text.padLeft 9 '0' (Text.ofNat t.fraction)) :=
    Text.isDigits_padLeft (Text.isDigits_ofNat _) 9
  have hlength : (Text.padLeft 9 '0' (Text.ofNat t.fraction)).length = 9 := by
    rw [Text.length_padLeft, Nat.max_eq_left ((Calendar.length_ofNat_le_iff (by decide)).2 hfraction)]
  refine ⟨hdigits.subset (List.take_subset ..), ?_, ?_⟩
  · rw [fractionDigits, List.length_take, hlength]
    rfl
  · rw [fractionDigits, Text.natOfDigits_take hdigits, hlength, Text.natOfDigits_padLeft, Text.natOfDigits_ofNat]
    rfl

end Display

namespace Calendar

/-- What stands behind the clock for so many nanoseconds: nothing, or a point and seven digits. -/
def Places (nano : Nat) (t : Text) : Prop :=
  (nano = 0 ∧ t = []) ∨ ∃ digits, t = '.' :: digits ∧ IsDigits digits ∧ digits.length = 7 ∧
    natOfDigits digits * 100 = nano

theorem takeExactly_digits {n : Nat} {digits : Text} (h : IsDigits digits) (hlength : digits.length = n)
    (rest : Text) : takeExactly n (digits ++ rest) = some (natOfDigits digits, rest) := by
  subst hlength
  have hall : digits.all Text.isAsciiDigit = true := List.all_eq_true.2 h
  simp [takeExactly, hall]

theorem takeTwo_twoDigits {low high n : Nat} (hlow : low ≤ n) (hhigh : n ≤ high) (h : high < 100) (rest : Text) :
    takeTwo low high (twoDigits n ++ rest) = some (n, rest) := by
  rw [takeTwo, takeExactly_digits (isDigits_twoDigits n) (length_twoDigits (by omega)), natOfDigits_twoDigits]
  simp [hlow, hhigh]

theorem bind_of_eq_some {α β : Type} {o : Option α} {a : α} {next : α → Option β} (h : o = some a) :
    o >>= next = next a := by
  rw [h]
  rfl

theorem takeMark_self (c : Char) (t : Text) : takeMark c (c :: t) = some t := if_pos rfl

section

variable {d : Date} (hyear : 0 ≤ d.year ∧ d.year ≤ 9999)
include hyear

theorem sortableText_append (rest : Text) : d.sortableText ++ rest =
    yearText d.year ++ '-' :: (twoDigits d.month ++ '-' :: (twoDigits d.day ++ rest)) := by
  rw [Date.sortableText, ← (yearText_eq_padded_iff d.year).2 (.inr hyear)]
  simp

theorem read_sortableDate (layout : Layout) (seen : Fields) (rest : Text) :
    Layout.read (Layout.yearFirst '-' ++ layout) seen (d.sortableText ++ rest) =
      layout.read { seen with year := some d.year, month := d.month, day := d.day } rest := by
  obtain ⟨hmonth, hmonth', hday, hday'⟩ := d.month_day_bounds
  rw [sortableText_append hyear]
  calc Layout.read (Layout.yearFirst '-' ++ layout) seen _
      = Layout.read (.mark '-' :: .month :: .mark '-' :: .day :: layout) { seen with year := some d.year } _ :=
        read_yearText _ _ _ fun c hc => by cases hc; decide
    _ = Layout.read (.month :: .mark '-' :: .day :: layout) { seen with year := some d.year } _ := read_mark ..
    _ = Layout.read (.mark '-' :: .day :: layout) { seen with year := some d.year, month := d.month } _ :=
        read_twoDigits (fun seen n => { seen with month := n }) (fun _ _ => rfl) hmonth hmonth' (by decide) ..
    _ = Layout.read (.day :: layout) { seen with year := some d.year, month := d.month } _ := read_mark ..
    _ = layout.read { seen with year := some d.year, month := d.month, day := d.day } rest :=
        read_twoDigits (fun seen n => { seen with day := n }) (fun _ _ => rfl) hday hday' (by decide) ..

/-- A layout with slashes fails at the first dash. -/
theorem read_slashes (layout : Layout) (seen : Fields) (rest : Text) :
    Layout.read (Layout.yearFirst '/' ++ layout) seen (d.sortableText ++ rest) = none := by
  rw [sortableText_append hyear]
  exact (read_yearText _ _ _ fun c hc => by cases hc; decide).trans (read_mark_none (by decide) _ _ _)

/-- Where an hour is expected behind a gap, the `T` is none. -/
theorem read_gap_letter (layout : Layout) (seen : Fields) (rest : Text) :
    Layout.read (Layout.yearFirst '-' ++ .gap :: .hour :: layout) seen (d.sortableText ++ 'T' :: rest) = none := by
  have hgap (seen : Fields) : Field.gap.take seen ('T' :: rest) = some (seen, 'T' :: rest) := rfl
  rw [read_sortableDate hyear, read_cons (hgap _)]
  exact read_cons_none rfl

/-- A distance from universal time is missing at the end. -/
theorem readStamp?_sortable {t : TimeOfDay} {nano : Nat} {places : Text} (hplaces : Places nano places) :
    readStamp? (d.sortableText ++ 'T' :: (t.patternText ++ places)) = none := by
  obtain ⟨hmonth, hmonth', hday, hday'⟩ := d.month_day_bounds
  obtain ⟨hhour, hminute, hsecond, -⟩ := t.valid
  have hdigits : IsDigits (yearText d.year) := by
    rw [yearText, if_pos hyear]
    exact Text.isDigits_padLeft (Text.isDigits_ofNat _) 4
  have hlength : (yearText d.year).length = 4 := by
    rw [yearText, if_pos hyear, Text.length_padLeft, Nat.max_eq_left]
    exact (length_ofNat_le_iff (by decide)).2 (by omega)
  have hclock : t.patternText ++ places =
      twoDigits t.hour ++ ':' :: (twoDigits t.minute ++ ':' :: (twoDigits t.second ++ places)) := by
    simp [TimeOfDay.patternText]
  rw [sortableText_append hyear, hclock, readStamp?]
  refine (bind_of_eq_some (takeExactly_digits hdigits hlength _)).trans ?_
  refine (bind_of_eq_some (takeMark_self ..)).trans
    ((bind_of_eq_some (takeTwo_twoDigits hmonth hmonth' (by decide) _)).trans ?_)
  refine (bind_of_eq_some (takeMark_self ..)).trans
    ((bind_of_eq_some (takeTwo_twoDigits hday hday' (by decide) _)).trans ?_)
  refine (bind_of_eq_some rfl).trans
    ((bind_of_eq_some (takeTwo_twoDigits (Nat.zero_le _) (Nat.le_of_lt_succ hhour) (by decide) _)).trans ?_)
  refine (bind_of_eq_some (takeMark_self ..)).trans
    ((bind_of_eq_some (takeTwo_twoDigits (Nat.zero_le _) (Nat.le_of_lt_succ hminute) (by decide) _)).trans ?_)
  refine (bind_of_eq_some (takeMark_self ..)).trans
    ((bind_of_eq_some (takeTwo_twoDigits (Nat.zero_le _) (by omega) (by decide) _)).trans ?_)
  rcases hplaces with ⟨-, rfl⟩ | ⟨digits, rfl, hplaces, hseven, -⟩
  · rfl
  · simp [takeFraction_digits hplaces hseven, takeOffset]

end

theorem read_sortableClock {t : TimeOfDay} (hnano : t.nano < 1000000000) {nano : Nat} {places : Text}
    (hplaces : Places nano places) (year : Option Int) (month day : Nat) :
    Layout.read Layout.clock ⟨year, month, day, 0, 0, 0, 0⟩ (t.patternText ++ places) =
      some ⟨year, month, day, t.hour, t.minute, t.countedSecond, nano⟩ := by
  rw [← (t.clockText_eq_patternText_iff).2 hnano, Layout.clock, read_clockText]
  rcases hplaces with ⟨hzero, rfl⟩ | ⟨digits, rfl, hdigits, hlength, hvalue⟩
  · rw [hzero]
    rfl
  · rw [read_fraction hdigits hlength, hvalue]

section

variable {unit : Nat} (hunit : unit ∣ 1000000000) {places : Text}
include hunit

theorem time?_sortableClock {t : TimeOfDay} (hnano : t.nano < 1000000000) (year : Option Int) (month day : Nat) :
    Fields.time? ⟨year, month, day, t.hour, t.minute, t.countedSecond, t.nano / unit * unit⟩ =
      some (t.truncate unit) := by
  have hfraction : t.fraction = t.nano := Nat.mod_eq_of_lt hnano
  have htime := time?_clock t hunit year month day
  rwa [hfraction, TimeOfDay.settled_eq_self (.inr hnano)] at htime

theorem readTime?_sortable {t : TimeOfDay} (hnano : t.nano < 1000000000)
    (hplaces : Places (t.nano / unit * unit) places) :
    readTime? (t.patternText ++ places) = some (t.truncate unit) := by
  have hread : readBy Layout.times Fields.time? (t.patternText ++ places) = some (t.truncate unit) :=
    readBy_cons_some (read_sortableClock hnano hplaces none 1 1) (time?_sortableClock hunit hnano none 1 1)
  rw [readTime?, hread]
  rfl

theorem readMoment?_sortable {m : Moment} (hyear : 0 ≤ m.date.year ∧ m.date.year ≤ 9999)
    (hnano : m.time.nano < 1000000000) (hplaces : Places (m.time.nano / unit * unit) places) :
    readMoment? (m.date.sortableText ++ 'T' :: (m.time.patternText ++ places)) =
      some ⟨m.date, m.time.truncate unit⟩ := by
  have hread : Layout.read (Layout.yearFirst '-' ++ .mark 'T' :: Layout.clock) {}
      (m.date.sortableText ++ 'T' :: (m.time.patternText ++ places)) =
        some ⟨some m.date.year, m.date.month, m.date.day, m.time.hour, m.time.minute, m.time.countedSecond,
          m.time.nano / unit * unit⟩ := by
    rw [read_sortableDate hyear, read_mark]
    exact read_sortableClock hnano hplaces ..
  have hvalue : Fields.moment? ⟨some m.date.year, m.date.month, m.date.day, m.time.hour, m.time.minute,
      m.time.countedSecond, m.time.nano / unit * unit⟩ = some ⟨m.date, m.time.truncate unit⟩ := by
    have hdate : Fields.date? ⟨some m.date.year, m.date.month, m.date.day, m.time.hour, m.time.minute,
        m.time.countedSecond, m.time.nano / unit * unit⟩ = some m.date := make?_date m.date
    rw [Fields.moment?, time?_sortableClock hunit hnano, hdate]
    rfl
  have hmoment : readBy Layout.moments Fields.moment?
      (m.date.sortableText ++ 'T' :: (m.time.patternText ++ places)) = some ⟨m.date, m.time.truncate unit⟩ :=
    calc readBy Layout.moments Fields.moment? _
        = readBy (Layout.moments.drop 1) Fields.moment? _ := readBy_cons_none (read_slashes hyear ..)
      _ = readBy (Layout.moments.drop 2) Fields.moment? _ := readBy_cons_none (read_slashes hyear ..)
      _ = readBy (Layout.moments.drop 3) Fields.moment? _ := readBy_cons_none (read_gap_letter hyear ..)
      _ = readBy (Layout.moments.drop 4) Fields.moment? _ := readBy_cons_none (read_gap_letter hyear ..)
      _ = some ⟨m.date, m.time.truncate unit⟩ := readBy_cons_some hread hvalue
  rw [readMoment?, readStamp?_sortable hyear hplaces, hmoment]
  rfl

end

theorem readDate?_sortable {d : Date} (hyear : 0 ≤ d.year ∧ d.year ≤ 9999) : readDate? d.sortableText = some d := by
  have hslashes := read_slashes hyear [] {} []
  have hread := read_sortableDate hyear [] {} []
  rw [List.append_nil, List.append_nil] at hslashes hread
  have hdate : readDateOnly? d.sortableText = some d := by
    rw [readDateOnly?, Layout.dates, readBy_cons_none hslashes]
    exact readBy_cons_some hread (make?_date d)
  rw [readDate?, hdate]
  rfl

/-- The fraction under `fffffff`. -/
theorem places_fraction {t : TimeOfDay} (hnano : t.nano < 1000000000) :
    Places (t.nano / 100 * 100) ('.' :: Display.fractionDigits 7 t) := by
  obtain ⟨hdigits, hlength, hvalue⟩ := Display.fractionDigits_seven t
  have hfraction : t.fraction = t.nano := Nat.mod_eq_of_lt hnano
  exact .inr ⟨_, rfl, hdigits, hlength, by rw [hvalue, hfraction]⟩

theorem places_nil {t : TimeOfDay} (hnano : t.nano < 1000000000) : Places (t.nano / 1000000000 * 1000000000) [] :=
  .inl ⟨by rw [Nat.div_eq_of_lt hnano, Nat.zero_mul], rfl⟩

end Calendar

open Calendar (readMoment? readDate? readTime?)

namespace Value

/-- **Sortable texts read back.** In the years 0 to 9999 and outside of leap seconds, a moment is read back from its
text under `o` to a tenth of a microsecond and from its text under `s` to the second; in these years a date is read
back from its text under `o`; and so is a time of day outside of leap seconds, to a tenth of a microsecond. -/
theorem read_sortable (m : Moment) (d : Date) (t : TimeOfDay) :
    (0 ≤ m.date.year ∧ m.date.year ≤ 9999 → m.time.nano < 1000000000 →
      (∃ shown, (moment m).format ['o'] = .ok shown ∧ readMoment? shown = some ⟨m.date, m.time.truncate 100⟩) ∧
      ∃ shown, (moment m).format ['s'] = .ok shown ∧
        readMoment? shown = some ⟨m.date, m.time.truncate 1000000000⟩) ∧
    (0 ≤ d.year ∧ d.year ≤ 9999 → ∃ shown, (date d).format ['o'] = .ok shown ∧ readDate? shown = some d) ∧
    (t.nano < 1000000000 →
      ∃ shown, (time t).format ['o'] = .ok shown ∧ readTime? shown = some (t.truncate 100)) := by
  refine ⟨fun hyear hnano => ⟨?_, ?_⟩, fun hyear => ?_, fun hnano => ?_⟩
  · exact ⟨_, (format_eq_ok_iff (by decide)).2 (Display.temporal_o_moment m),
      Calendar.readMoment?_sortable (by decide) hyear hnano (Calendar.places_fraction hnano)⟩
  · have hread := Calendar.readMoment?_sortable (by decide) hyear hnano (Calendar.places_nil hnano)
    rw [List.append_nil] at hread
    exact ⟨_, (format_eq_ok_iff (by decide)).2 (Display.temporal_s m), hread⟩
  · exact ⟨_, (format_eq_ok_iff (by decide)).2 (Display.temporal_o_date d), Calendar.readDate?_sortable hyear⟩
  · exact ⟨_, (format_eq_ok_iff (by decide)).2 (Display.temporal_o_time t),
      Calendar.readTime?_sortable (by decide) hnano (Calendar.places_fraction hnano)⟩

/-- The last nanosecond of the leap day of the year 0. -/
theorem read_sortable_yearZero :
    let m : Moment := ⟨⟨0, 2, 29, by decide⟩, ⟨23, 59, 59, 999999999, by decide⟩⟩
    (0 ≤ m.date.year ∧ m.date.year ≤ 9999 ∧ m.time.nano < 1000000000) ∧
      (∃ shown, (moment m).format ['o'] = .ok shown ∧
        readMoment? shown = some ⟨m.date, ⟨23, 59, 59, 999999900, by decide⟩⟩) ∧
      (∃ shown, (moment m).format ['s'] = .ok shown ∧ readMoment? shown = some ⟨m.date, ⟨23, 59, 59, 0, by decide⟩⟩) ∧
      (∃ shown, (date m.date).format ['o'] = .ok shown ∧ readDate? shown = some m.date) ∧
      ∃ shown, (time m.time).format ['o'] = .ok shown ∧
        readTime? shown = some ⟨23, 59, 59, 999999900, by decide⟩ := by
  intro m
  have hyear : 0 ≤ m.date.year ∧ m.date.year ≤ 9999 := by decide
  have hnano : m.time.nano < 1000000000 := by decide
  have hplaces : m.time.truncate 100 = ⟨23, 59, 59, 999999900, by decide⟩ := by decide
  have hsecond : m.time.truncate 1000000000 = ⟨23, 59, 59, 0, by decide⟩ := by decide
  obtain ⟨hmoment, hdate, htime⟩ := read_sortable m m.date m.time
  rw [hplaces, hsecond] at hmoment
  rw [hplaces] at htime
  exact ⟨⟨hyear.1, hyear.2, hnano⟩, (hmoment hyear hnano).1, (hmoment hyear hnano).2, hdate hyear, htime hnano⟩

end Value

end Placeholder
