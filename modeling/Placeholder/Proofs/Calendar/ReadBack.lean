/-
Texts of dates, times and moments, read back. Reading tries several layouts in turn, and the one that the texts are
written in comes last. The layouts before it fail on every such text, since a year in front would take the month, and
then the day would take two digits of the year and leave two.
-/
import Mathlib.Data.List.TakeWhile
import Placeholder.Calendar.Reader
import Placeholder.Proofs.Digits
import Placeholder.Proofs.Text

namespace Placeholder

open Text (IsDigits isAsciiDigit natOfDigits)

theorem Text.isBlank_of_digit {c : Char} (h : isAsciiDigit c = true) : isBlank c = false := by
  simp only [isAsciiDigit, Bool.and_eq_true, decide_eq_true_eq] at h
  have hlow : '0'.toNat ≤ c.toNat := h.1
  have hhigh : c.toNat ≤ '9'.toNat := h.2
  exact isBlank_eq_false (Nat.lt_of_lt_of_le (by decide) hlow) (Nat.lt_of_le_of_lt hhigh (by decide))

/-- Digits that begin a text are not trimmed. -/
theorem Text.trimStart_digits {digits : Text} (h : IsDigits digits) (hne : digits ≠ []) (rest : Text) :
    trimStart (digits ++ rest) = digits ++ rest := by
  obtain ⟨c, t, rfl⟩ := List.exists_cons_of_ne_nil hne
  refine trimStart_eq_self fun d hd => ?_
  cases hd
  exact isBlank_of_digit (h c (List.mem_cons_self ..))

theorem Date.daysInMonth_le (year : Int) (month : Nat) : daysInMonth year month ≤ 31 := by
  fun_cases daysInMonth year month <;> decide

theorem Date.month_day_bounds (d : Date) : 1 ≤ d.month ∧ d.month ≤ 12 ∧ 1 ≤ d.day ∧ d.day ≤ 31 := by
  have hvalid := d.valid
  have hdays := daysInMonth_le d.year d.month
  simp only [isValid, Bool.and_eq_true, decide_eq_true_eq] at hvalid
  omega

theorem Date.toText_append (d : Date) (rest : Text) : d.toText ++ rest =
    Calendar.twoDigits d.month ++ '/' :: (Calendar.twoDigits d.day ++ '/' :: (Calendar.yearText d.year ++ rest)) := by
  simp [toText]

namespace Calendar

/-! ## Numbers -/

/-- Digits are taken as a number if they are as many as can be taken, or no digit follows. -/
theorem takeNumber_digits {width : Nat} {digits rest : Text} (h : IsDigits digits) (hne : digits ≠ [])
    (hwidth : digits.length ≤ width) (hstop : digits.length = width ∨ ∀ c ∈ rest.head?, isAsciiDigit c = false) :
    takeNumber width (digits ++ rest) = some (natOfDigits digits, rest) := by
  have hrest : (rest.take (width - digits.length)).takeWhile isAsciiDigit = [] := by
    rcases hstop with hlen | hnone
    · rw [hlen, Nat.sub_self, List.take_zero, List.takeWhile_nil]
    · cases rest with
      | nil => simp
      | cons c rest =>
        cases width - digits.length with
        | zero => rfl
        | succ n => simp [hnone c rfl]
  have htaken : ((digits ++ rest).take width).takeWhile isAsciiDigit = digits := by
    rw [List.take_append, List.take_of_length_le hwidth, List.takeWhile_append_of_pos h, hrest, List.append_nil]
  rw [takeNumber, htaken]
  simp [hne]

theorem isDigits_twoDigits (n : Nat) : IsDigits (twoDigits n) := Text.isDigits_padLeft (Text.isDigits_ofNat n) 2

theorem length_twoDigits {n : Nat} (h : n < 100) : (twoDigits n).length = 2 := by
  have hlen : (Text.ofNat n).length ≤ 2 := (Nat.length_toDigits_le_iff (by decide) (by decide)).2 h
  rw [twoDigits, Text.length_padLeft]
  omega

theorem natOfDigits_twoDigits (n : Nat) : natOfDigits (twoDigits n) = n := by
  rw [twoDigits, Text.natOfDigits_padLeft, Text.natOfDigits_ofNat]

theorem takeBounded_digits {low high : Nat} {digits : Text} (h : IsDigits digits) (hlen : digits.length = 2)
    (rest : Text) : takeBounded low high (digits ++ rest) =
      if low ≤ natOfDigits digits && natOfDigits digits ≤ high then some (natOfDigits digits, rest) else none := by
  have hne : digits ≠ [] := List.ne_nil_of_length_pos (by omega)
  rw [takeBounded, Text.trimStart_digits h hne, takeNumber_digits h hne (Nat.le_of_eq hlen) (.inl hlen)]
  rfl

theorem takeBounded_cases (low high : Nat) {digits : Text} (h : IsDigits digits) (hlen : digits.length = 2)
    (rest : Text) : takeBounded low high (digits ++ rest) = none ∨
      takeBounded low high (digits ++ rest) = some (natOfDigits digits, rest) := by
  rw [takeBounded_digits h hlen]
  split
  · exact .inr rfl
  · exact .inl rfl

theorem takeBounded_twoDigits {low high n : Nat} (hlow : low ≤ n) (hhigh : n ≤ high) (h : high < 100) (rest : Text) :
    takeBounded low high (twoDigits n ++ rest) = some (n, rest) := by
  rw [takeBounded_digits (isDigits_twoDigits n) (length_twoDigits (by omega)), natOfDigits_twoDigits]
  simp [hlow, hhigh]

/-! ## Years -/

/-- A year is written with four digits, or with a sign and four digits at least. -/
theorem yearText_cases (year : Int) :
    (IsDigits (yearText year) ∧ (yearText year).length = 4 ∧ (natOfDigits (yearText year) : Int) = year) ∨
    ∃ sign digits, yearText year = sign :: digits ∧ IsDigits digits ∧ digits ≠ [] ∧
      ((sign = '-' ∧ -(natOfDigits digits : Int) = year) ∨ (sign = '+' ∧ (natOfDigits digits : Int) = year)) := by
  have hdigits : IsDigits (Text.padLeft 4 '0' (Text.ofNat year.natAbs)) :=
    Text.isDigits_padLeft (Text.isDigits_ofNat _) 4
  have hlen := Text.length_padLeft 4 '0' (Text.ofNat year.natAbs)
  have hvalue : natOfDigits (Text.padLeft 4 '0' (Text.ofNat year.natAbs)) = year.natAbs := by
    rw [Text.natOfDigits_padLeft, Text.natOfDigits_ofNat]
  rw [yearText]
  split
  next hshort =>
    have hofNat : (Text.ofNat year.natAbs).length ≤ 4 :=
      (Nat.length_toDigits_le_iff (by decide) (by decide)).2 (by omega)
    exact .inl ⟨hdigits, by omega, by omega⟩
  next hlong =>
    refine .inr ⟨_, _, rfl, hdigits, List.ne_nil_of_length_pos (by omega), ?_⟩
    split
    · exact .inl ⟨rfl, by omega⟩
    · exact .inr ⟨rfl, by omega⟩

theorem takeYear_digits {digits rest : Text} (h : IsDigits digits) (hne : digits ≠ []) (hlen : digits.length ≤ 4)
    (hstop : digits.length = 4 ∨ ∀ c ∈ rest.head?, isAsciiDigit c = false) :
    takeYear (digits ++ rest) = some ((natOfDigits digits : Int), rest) := by
  obtain ⟨c, t, rfl⟩ := List.exists_cons_of_ne_nil hne
  obtain ⟨hplus, hminus⟩ := Text.ne_sign_of_digit (h c (List.mem_cons_self ..))
  unfold takeYear
  split
  next heq => exact absurd (List.cons.inj heq).1 hminus
  next heq => exact absurd (List.cons.inj heq).1 hplus
  next =>
    rw [takeNumber_digits h hne hlen hstop]
    rfl

/-- A year is read back where no digit follows. -/
theorem takeYear_yearText (year : Int) {rest : Text} (hrest : ∀ c ∈ rest.head?, isAsciiDigit c = false) :
    takeYear (Text.trimStart (yearText year ++ rest)) = some (year, rest) := by
  rcases yearText_cases year with ⟨hdigits, hlen, hvalue⟩ | ⟨sign, digits, heq, hdigits, hne, hsign⟩
  · have hne : yearText year ≠ [] := List.ne_nil_of_length_pos (by omega)
    rw [Text.trimStart_digits hdigits hne, takeYear_digits hdigits hne (Nat.le_of_eq hlen) (.inl hlen), hvalue]
  · have hwhole : takeWholeNumber (digits ++ rest) = some (natOfDigits digits, rest) :=
      takeNumber_digits hdigits hne (by simp) (.inr hrest)
    have htrim : Text.trimStart (sign :: digits ++ rest) = sign :: digits ++ rest := by
      refine Text.trimStart_eq_self fun c hc => ?_
      cases hc
      rcases hsign with ⟨rfl, -⟩ | ⟨rfl, -⟩ <;> decide
    rw [heq, htrim]
    rcases hsign with ⟨rfl, hvalue⟩ | ⟨rfl, hvalue⟩
    · rw [List.cons_append, takeYear, hwhole, ← hvalue]
      rfl
    · rw [List.cons_append, takeYear, hwhole, ← hvalue]
      rfl

/-! ## Layouts -/

theorem read_cons {f : Field} {layout : Layout} {seen seen' : Fields} {t t' : Text}
    (h : f.take seen t = some (seen', t')) : Layout.read (f :: layout) seen t = layout.read seen' t' := by
  rw [Layout.read, h]
  rfl

theorem read_cons_none {f : Field} {layout : Layout} {seen : Fields} {t : Text} (h : f.take seen t = none) :
    Layout.read (f :: layout) seen t = none := by
  rw [Layout.read, h]
  rfl

theorem read_mark (c : Char) (layout : Layout) (seen : Fields) (t : Text) :
    Layout.read (.mark c :: layout) seen (c :: t) = layout.read seen t := read_cons (if_pos rfl)

theorem read_mark_none {c d : Char} (h : c ≠ d) (layout : Layout) (seen : Fields) (t : Text) :
    Layout.read (.mark c :: layout) seen (d :: t) = none := read_cons_none (if_neg h)

/-- A field of two digits, which keeps its number by `keep`, is read back. -/
theorem read_twoDigits {f : Field} {low high n : Nat} (keep : Fields → Nat → Fields)
    (hf : ∀ seen t, f.take seen t = (takeBounded low high t).map fun p => (keep seen p.1, p.2)) (hlow : low ≤ n)
    (hhigh : n ≤ high) (h : high < 100) (layout : Layout) (seen : Fields) (rest : Text) :
    Layout.read (f :: layout) seen (twoDigits n ++ rest) = layout.read (keep seen n) rest := by
  refine read_cons ?_
  rw [hf, takeBounded_twoDigits hlow hhigh h]
  rfl

/-- A year is read back where no digit follows. -/
theorem read_yearText (year : Int) (layout : Layout) (seen : Fields) {rest : Text}
    (hrest : ∀ c ∈ rest.head?, isAsciiDigit c = false) :
    Layout.read (.year :: layout) seen (yearText year ++ rest) = layout.read { seen with year := some year } rest := by
  refine read_cons ?_
  rw [Field.take, takeYear_yearText year hrest]
  rfl

/-- The text of a date is read back by its layout, where no digit follows. -/
theorem read_monthFirst (d : Date) (layout : Layout) (seen : Fields) {rest : Text}
    (hrest : ∀ c ∈ rest.head?, isAsciiDigit c = false) :
    Layout.read (Layout.monthFirst ++ layout) seen (d.toText ++ rest) =
      layout.read { seen with year := some d.year, month := d.month, day := d.day } rest := by
  obtain ⟨hmonth, hmonth', hday, hday'⟩ := d.month_day_bounds
  rw [d.toText_append]
  calc Layout.read (Layout.monthFirst ++ layout) seen _
      = Layout.read (.mark '/' :: .day :: .mark '/' :: .year :: layout) { seen with month := d.month } _ :=
        read_twoDigits (fun seen n => { seen with month := n }) (fun _ _ => rfl) hmonth hmonth' (by decide) ..
    _ = Layout.read (.day :: .mark '/' :: .year :: layout) { seen with month := d.month } _ := read_mark ..
    _ = Layout.read (.mark '/' :: .year :: layout) { seen with month := d.month, day := d.day } _ :=
        read_twoDigits (fun seen n => { seen with day := n }) (fun _ _ => rfl) hday hday' (by decide) ..
    _ = Layout.read (.year :: layout) { seen with month := d.month, day := d.day } _ := read_mark ..
    _ = layout.read { seen with year := some d.year, month := d.month, day := d.day } rest :=
        read_yearText _ _ _ hrest

/-- Behind the slashes of a date comes a year, of which a day takes no more than two digits. -/
theorem read_day_yearText (year : Int) {layout : Layout} (seen : Fields) {rest : Text}
    (hlayout : ∀ seen digits, IsDigits digits → digits.length = 2 → layout.read seen (digits ++ rest) = none) :
    Layout.read (.day :: layout) seen (yearText year ++ rest) = none := by
  rcases yearText_cases year with ⟨hdigits, hlen, -⟩ | ⟨sign, digits, heq, -, -, hsign⟩
  · have hfirst : IsDigits ((yearText year).take 2) := hdigits.subset (List.take_subset ..)
    have hsplit : yearText year ++ rest = (yearText year).take 2 ++ ((yearText year).drop 2 ++ rest) := by
      rw [← List.append_assoc, List.take_append_drop]
    rw [hsplit]
    rcases takeBounded_cases 1 31 hfirst (by simp [hlen]) ((yearText year).drop 2 ++ rest) with hday | hday
    · exact read_cons_none (by rw [Field.take, hday]; rfl)
    · rw [read_cons (by rw [Field.take, hday]; rfl)]
      exact hlayout _ _ (hdigits.subset (List.drop_subset ..)) (by simp [hlen])
  · refine read_cons_none ?_
    have hnone : takeBounded 1 31 (sign :: (digits ++ rest)) = none := by
      rcases hsign with ⟨rfl, -⟩ | ⟨rfl, -⟩ <;> rfl
    rw [heq, List.cons_append, Field.take, hnone]
    rfl

/-- A layout with the year in front fails on the text of a date, if what it has behind the day fails on the two
digits that are left of the year. -/
theorem read_yearFirst (d : Date) {c : Char} {layout : Layout} {rest : Text}
    (hlayout : c = '/' →
      ∀ seen digits, IsDigits digits → digits.length = 2 → layout.read seen (digits ++ rest) = none) :
    Layout.read (Layout.yearFirst c ++ layout) {} (d.toText ++ rest) = none := by
  obtain ⟨hmonth, hmonth', hday, hday'⟩ := d.month_day_bounds
  have hlen := length_twoDigits (n := d.month) (by omega)
  have hne : twoDigits d.month ≠ [] := List.ne_nil_of_length_pos (by omega)
  have hyear : takeYear (Text.trimStart (d.toText ++ rest)) =
      some ((d.month : Int), '/' :: (twoDigits d.day ++ '/' :: (yearText d.year ++ rest))) := by
    rw [d.toText_append, Text.trimStart_digits (isDigits_twoDigits _) hne,
      takeYear_digits (isDigits_twoDigits _) hne (by omega) (.inr fun c hc => by cases hc; decide),
      natOfDigits_twoDigits]
  have hyearTaken : Field.year.take {} (d.toText ++ rest) =
      some ({ year := some d.month }, '/' :: (twoDigits d.day ++ '/' :: (yearText d.year ++ rest))) := by
    rw [Field.take, hyear]
    rfl
  rw [Layout.yearFirst, List.cons_append, read_cons hyearTaken, List.cons_append]
  by_cases hc : c = '/'
  · subst hc
    rw [read_mark, List.cons_append]
    rcases takeBounded_cases 1 12 (isDigits_twoDigits d.day) (length_twoDigits (by omega))
      ('/' :: (yearText d.year ++ rest)) with hmonth | hmonth
    · exact read_cons_none (by rw [Field.take, hmonth]; rfl)
    · rw [read_cons (by rw [Field.take, hmonth]; rfl)]
      exact (read_mark ..).trans (read_day_yearText _ _ (hlayout rfl))
  · exact read_mark_none hc _ _ _

/-- Hour, minute and second are read back as the clock counts them. -/
theorem read_clockText (t : TimeOfDay) (layout : Layout) (seen : Fields) (rest : Text) :
    Layout.read (.hour :: .mark ':' :: .minute :: .mark ':' :: .second :: layout) seen (t.clockText ++ rest) =
      layout.read { seen with hour := t.hour, minute := t.minute, second := t.countedSecond } rest := by
  obtain ⟨hhour, hminute, hsecond, hnano⟩ := t.valid
  have hcounted : t.countedSecond ≤ 60 := by
    rw [TimeOfDay.countedSecond]
    omega
  have htext : t.clockText ++ rest =
      twoDigits t.hour ++ ':' :: (twoDigits t.minute ++ ':' :: (twoDigits t.countedSecond ++ rest)) := by
    simp [TimeOfDay.clockText]
  rw [htext]
  calc Layout.read (.hour :: .mark ':' :: .minute :: .mark ':' :: .second :: layout) seen _
      = Layout.read (.mark ':' :: .minute :: .mark ':' :: .second :: layout) { seen with hour := t.hour } _ :=
        read_twoDigits (fun seen n => { seen with hour := n }) (fun _ _ => rfl) (Nat.zero_le _) (by omega)
          (by decide) ..
    _ = Layout.read (.minute :: .mark ':' :: .second :: layout) { seen with hour := t.hour } _ := read_mark ..
    _ = Layout.read (.mark ':' :: .second :: layout) { seen with hour := t.hour, minute := t.minute } _ :=
        read_twoDigits (fun seen n => { seen with minute := n }) (fun _ _ => rfl) (Nat.zero_le _) (by omega)
          (by decide) ..
    _ = Layout.read (.second :: layout) { seen with hour := t.hour, minute := t.minute } _ := read_mark ..
    _ = layout.read { seen with hour := t.hour, minute := t.minute, second := t.countedSecond } rest :=
        read_twoDigits (fun seen n => { seen with second := n }) (fun _ _ => rfl) (Nat.zero_le _) hcounted
          (by decide) ..

/-- Seven places of a second are a number of hundreds of nanoseconds. -/
theorem takeFraction_digits {digits : Text} (h : IsDigits digits) (hlen : digits.length = 7) :
    takeFraction digits = some (natOfDigits digits * 100, []) := by
  have hne : digits ≠ [] := List.ne_nil_of_length_pos (by omega)
  have htaken : Text.takeDigits digits = (digits, []) := by
    rw [Text.takeDigits, List.takeWhile_eq_self_iff.2 h, List.dropWhile_eq_nil_iff.2 h]
  rw [takeFraction, htaken]
  dsimp only
  rw [List.take_of_length_le (by omega), hlen]
  simp [hne]

theorem read_fraction {digits : Text} (h : IsDigits digits) (hlen : digits.length = 7) (seen : Fields) :
    Layout.read [.fraction] seen ('.' :: digits) = some { seen with nano := natOfDigits digits * 100 } := by
  rw [read_cons (by rw [Field.take, takeFraction_digits h hlen]; rfl)]
  rfl

end Calendar

/-! ## Leap seconds -/

namespace TimeOfDay

/-- The time with its nanoseconds cut to a multiple of `unit`. -/
def truncate (unit : Nat) (t : TimeOfDay) : TimeOfDay :=
  ⟨t.hour, t.minute, t.second, t.nano / unit * unit,
    ⟨t.valid.1, t.valid.2.1, t.valid.2.2.1, Nat.lt_of_le_of_lt (Nat.div_mul_le_self ..) t.valid.2.2.2⟩⟩

/-- The time with a leap second in the last second of a minute only; any other is the second that follows. -/
def settled (t : TimeOfDay) : TimeOfDay :=
  if h : t.second = 59 ∨ t.nano < 1000000000 then t
  else ⟨t.hour, t.minute, t.second + 1, t.nano - 1000000000, by have := t.valid; omega⟩

theorem settled_eq_self {t : TimeOfDay} (h : t.second = 59 ∨ t.nano < 1000000000) : t.settled = t := dif_pos h

theorem make?_valid (t : TimeOfDay) : make? t.hour t.minute t.second t.nano = some t := dif_pos t.valid

end TimeOfDay

namespace Calendar

/-- The time that the fields of a clock stand for: the sixtieth second is a leap second of the one before. -/
theorem time?_clock (t : TimeOfDay) {unit : Nat} (hunit : unit ∣ 1000000000) (year : Option Int) (month day : Nat) :
    Fields.time? ⟨year, month, day, t.hour, t.minute, t.countedSecond, t.fraction / unit * unit⟩ =
      some (t.settled.truncate unit) := by
  have hvalid := t.valid
  rw [← TimeOfDay.make?_valid (t.settled.truncate unit)]
  by_cases hnano : t.nano < 1000000000
  · have hcounted : t.countedSecond = t.second := by
      rw [TimeOfDay.countedSecond]
      omega
    have hfraction : t.fraction = t.nano := Nat.mod_eq_of_lt hnano
    rw [TimeOfDay.settled_eq_self (.inr hnano), Fields.time?, if_neg (by dsimp only; omega), hcounted, hfraction]
    rfl
  · have hcounted : t.countedSecond = t.second + 1 := by
      rw [TimeOfDay.countedSecond]
      omega
    have hfraction : t.fraction = t.nano - 1000000000 := by
      rw [TimeOfDay.fraction]
      omega
    rw [Fields.time?, hcounted, hfraction]
    by_cases hlast : t.second = 59
    · have hleap : 1000000000 + (t.nano - 1000000000) / unit * unit = t.nano / unit * unit := by
        obtain ⟨k, hk⟩ := hunit
        have hpos : 0 < unit := Nat.pos_of_ne_zero fun hzero => by rw [hzero, Nat.zero_mul] at hk; omega
        have hdiv : t.nano / unit = k + (t.nano - 1000000000) / unit := by
          rw [← Nat.mul_add_div hpos, ← hk, Nat.add_sub_cancel' (Nat.not_lt.1 hnano)]
        rw [hdiv, Nat.add_mul, Nat.mul_comm k unit, ← hk]
      rw [if_pos (by dsimp only; omega), TimeOfDay.settled_eq_self (.inl hlast)]
      dsimp only
      rw [hleap, TimeOfDay.truncate]
      dsimp only
      rw [hlast]
    · have hsettled : t.settled = ⟨t.hour, t.minute, t.second + 1, t.nano - 1000000000, by omega⟩ :=
        dif_neg (by omega)
      rw [if_neg (by dsimp only; omega), hsettled]
      rfl

/-! ## Reading -/

variable {α : Type} {value? : Fields → Option α} {layout : Layout} {layouts : List Layout} {t : Text}

theorem readBy_cons_none (h : layout.read {} t = none) :
    readBy (layout :: layouts) value? t = readBy layouts value? t := by
  rw [readBy, List.findSome?_cons, h]
  rfl

theorem readBy_cons_some {seen : Fields} {a : α} (h : layout.read {} t = some seen) (ha : value? seen = some a) :
    readBy (layout :: layouts) value? t = some a := by
  rw [readBy, List.findSome?_cons, h, Option.bind_some, ha]

theorem make?_date (d : Date) : Date.make? d.year d.month d.day = some d := dif_pos d.valid

theorem readDateOnly?_toText (d : Date) : readDateOnly? d.toText = some d := by
  have hyearFirst : ∀ c, Layout.read (Layout.yearFirst c) {} d.toText = none := by
    intro c
    have hread : Layout.read (Layout.yearFirst c ++ []) {} (d.toText ++ []) = none := by
      refine read_yearFirst d fun _ seen digits _ hlen => ?_
      cases digits with
      | nil => cases hlen
      | cons e digits => rfl
    simpa using hread
  have hmonthFirst : Layout.read (Layout.monthFirst ++ []) {} (d.toText ++ []) =
      some ⟨some d.year, d.month, d.day, 0, 0, 0, 0⟩ :=
    read_monthFirst d [] {} fun c hc => by cases hc
  rw [List.append_nil, List.append_nil] at hmonthFirst
  rw [readDateOnly?, Layout.dates, readBy_cons_none (hyearFirst _), readBy_cons_none (hyearFirst _)]
  exact readBy_cons_some hmonthFirst (make?_date d)

theorem readDate?_toText (d : Date) : readDate? d.toText = some d := by
  rw [readDate?, readDateOnly?_toText]
  rfl

theorem readTime?_toText (t : TimeOfDay) : readTime? t.toText = some (t.settled.truncate 100) := by
  have hclock : Layout.read Layout.clock {} t.toText =
      some ⟨none, 1, 1, t.hour, t.minute, t.countedSecond, t.fraction / 100 * 100⟩ := by
    rw [TimeOfDay.toText]
    split
    next hzero =>
      rw [← List.append_nil t.clockText, Layout.clock, read_clockText, hzero]
      rfl
    next =>
      have hlen : (Text.padLeft 7 '0' (Text.ofNat (t.fraction / 100))).length = 7 := by
        rw [Text.length_padLeft, Nat.max_eq_left]
        refine (Nat.length_toDigits_le_iff (by decide) (by decide)).2 ?_
        rw [TimeOfDay.fraction]
        omega
      rw [Layout.clock, read_clockText, read_fraction (Text.isDigits_padLeft (Text.isDigits_ofNat _) 7) hlen,
        Text.natOfDigits_padLeft, Text.natOfDigits_ofNat]
  rw [readTime?, Layout.times, readBy_cons_some hclock (time?_clock t (by decide) _ _ _)]
  rfl

/-- No text that begins with a date is a time stamp, which begins with four digits. -/
theorem readStamp?_toText (d : Date) (rest : Text) : readStamp? (d.toText ++ rest) = none := by
  have hmonth := length_twoDigits (n := d.month) (by have := d.month_day_bounds; omega)
  have hslash : '/' ∈ (d.toText ++ rest).take 4 := by
    rw [d.toText_append, List.take_append, hmonth]
    simp
  have hdigits : ((d.toText ++ rest).take 4).all isAsciiDigit = false :=
    List.all_eq_false.2 ⟨'/', hslash, by decide⟩
  have hfour : takeExactly 4 (d.toText ++ rest) = none := by
    rw [takeExactly, hdigits, Bool.and_false]
    rfl
  rw [readStamp?, hfour]
  rfl

/-- An hour behind a gap takes the two digits that are left of a year, and no colon follows. -/
theorem read_gap_hour (layout : Layout) (seen : Fields) {digits : Text} (h : IsDigits digits)
    (hlen : digits.length = 2) (rest : Text) :
    Layout.read (.gap :: .hour :: .mark ':' :: layout) seen (digits ++ ' ' :: rest) = none := by
  have hgap : Field.gap.take seen (digits ++ ' ' :: rest) = some (seen, digits ++ ' ' :: rest) := by
    rw [Field.take, Text.trimStart_digits h (List.ne_nil_of_length_pos (by omega))]
  rw [read_cons hgap]
  rcases takeBounded_cases 0 23 h hlen (' ' :: rest) with hhour | hhour
  · exact read_cons_none (by rw [Field.take, hhour]; rfl)
  · rw [read_cons (by rw [Field.take, hhour]; rfl)]
    exact read_mark_none (by decide) _ _ _

theorem trimStart_clockText (t : TimeOfDay) : Text.trimStart (' ' :: t.clockText) = t.clockText := by
  have hne : twoDigits t.hour ≠ [] := by
    have := t.valid
    exact List.ne_nil_of_length_pos (by rw [length_twoDigits (by omega)]; decide)
  rw [Text.trimStart, List.dropWhile_cons_of_pos (by decide), ← Text.trimStart, TimeOfDay.clockText, List.append_assoc,
    Text.trimStart_digits (isDigits_twoDigits _) hne]

theorem readMoment?_toText (m : Moment) : readMoment? m.toText = some ⟨m.date, m.time.settled.truncate 1000000000⟩ := by
  have hslash : ∀ layout,
      Layout.read (Layout.yearFirst '/' ++ .gap :: .hour :: .mark ':' :: layout) {} m.toText = none :=
    fun layout => read_yearFirst m.date fun _ seen digits h hlen => read_gap_hour layout seen h hlen _
  have hdash : ∀ layout, Layout.read (Layout.yearFirst '-' ++ layout) {} m.toText = none :=
    fun layout => read_yearFirst m.date fun heq => absurd heq (by decide)
  have hmonthFirst : Layout.read (Layout.monthFirst ++ .gap :: Layout.clock) {} m.toText =
      some ⟨some m.date.year, m.date.month, m.date.day, m.time.hour, m.time.minute, m.time.countedSecond,
        m.time.fraction / 1000000000 * 1000000000⟩ := by
    have hzero : m.time.fraction / 1000000000 = 0 := Nat.div_eq_of_lt (Nat.mod_lt _ (by decide))
    rw [Moment.toText, read_monthFirst m.date _ {} fun c hc => by cases hc; decide, hzero,
      read_cons (by rw [Field.take, trimStart_clockText]), ← List.append_nil m.time.clockText, Layout.clock,
      read_clockText]
    rfl
  have hvalue : Fields.moment? ⟨some m.date.year, m.date.month, m.date.day, m.time.hour, m.time.minute,
      m.time.countedSecond, m.time.fraction / 1000000000 * 1000000000⟩ =
        some ⟨m.date, m.time.settled.truncate 1000000000⟩ := by
    rw [Fields.moment?, time?_clock m.time (Nat.dvd_refl _)]
    have hdate : Fields.date? ⟨some m.date.year, m.date.month, m.date.day, m.time.hour, m.time.minute,
        m.time.countedSecond, m.time.fraction / 1000000000 * 1000000000⟩ = some m.date := make?_date m.date
    rw [hdate]
    rfl
  have hmoment : readBy Layout.moments Fields.moment? m.toText = some ⟨m.date, m.time.settled.truncate 1000000000⟩ :=
    calc readBy Layout.moments Fields.moment? m.toText
        = readBy (Layout.moments.drop 1) Fields.moment? m.toText := readBy_cons_none (hslash _)
      _ = readBy (Layout.moments.drop 2) Fields.moment? m.toText := readBy_cons_none (hslash _)
      _ = readBy (Layout.moments.drop 3) Fields.moment? m.toText := readBy_cons_none (hdash _)
      _ = readBy (Layout.moments.drop 4) Fields.moment? m.toText := readBy_cons_none (hdash _)
      _ = readBy (Layout.moments.drop 5) Fields.moment? m.toText := readBy_cons_none (hdash _)
      _ = readBy (Layout.moments.drop 6) Fields.moment? m.toText := readBy_cons_none (hdash _)
      _ = some ⟨m.date, m.time.settled.truncate 1000000000⟩ := readBy_cons_some hmonthFirst hvalue
  rw [readMoment?, Moment.toText, readStamp?_toText, ← Moment.toText, hmoment]
  rfl

end Calendar

end Placeholder
