/-
Dates and times of day as parts of moments. A text that is read as a moment is read as the date and as the time of day
of this moment, and a text is read as a date exactly if it is read as a moment (`readDate?_readTime?_of_readMoment?`).

The three readers try their layouts in different orders, so what carries this is not the order but the marks. A layout
takes only the characters that its fields admit, and it takes all of its marks. So the text of a moment, if it is not
that of a date alone, has a colon, which no layout of a date admits; and the text of a moment or of a date has a slash
or a dash, which no layout of a time of day admits.
-/
import Mathlib.Data.List.TakeWhile
import Placeholder.Calendar.Reader

namespace Placeholder.Calendar

open Text (isAsciiDigit isBlank)

variable {α : Type} {layout : Layout} {layouts : List Layout} {seen seen' : Fields} {t rest : Text} {c : Char}

/-! ## What fields take -/

/-- The characters that a field can take. -/
def Field.admits : Field → Char → Bool
  | .year, c => isBlank c || isAsciiDigit c || c = '+' || c = '-'
  | .month, c | .day, c | .hour, c | .minute, c | .second, c => isBlank c || isAsciiDigit c
  | .fraction, c => isAsciiDigit c || c = '.'
  | .gap, c => isBlank c
  | .mark d, c => c = d

/-- A head of the text of which all characters have a property, and the rest. -/
def Takes (p : Char → Bool) (t rest : Text) : Prop := ∃ taken, t = taken ++ rest ∧ ∀ c ∈ taken, p c = true

theorem Takes.trans {p : Char → Bool} {u : Text} (h : Takes p t u) (h' : Takes p u rest) : Takes p t rest := by
  obtain ⟨taken, rfl, htaken⟩ := h
  obtain ⟨taken', rfl, htaken'⟩ := h'
  refine ⟨taken ++ taken', by rw [List.append_assoc], fun c hc => ?_⟩
  exact (List.mem_append.1 hc).elim (htaken c) (htaken' c)

theorem Takes.mono {p q : Char → Bool} (h : Takes p t rest) (hpq : ∀ c, p c = true → q c = true) : Takes q t rest := by
  obtain ⟨taken, rfl, htaken⟩ := h
  exact ⟨taken, rfl, fun c hc => hpq c (htaken c hc)⟩

theorem Takes.cons {p : Char → Bool} (h : Takes p t rest) (hc : p c = true) : Takes p (c :: t) rest := by
  obtain ⟨taken, rfl, htaken⟩ := h
  exact ⟨c :: taken, rfl, List.forall_mem_cons.2 ⟨hc, htaken⟩⟩

theorem Takes.subset {p : Char → Bool} (h : Takes p t rest) : rest ⊆ t := by
  obtain ⟨taken, rfl, -⟩ := h
  exact List.subset_append_right ..

theorem takes_trimStart (t : Text) : Takes isBlank t (Text.trimStart t) :=
  ⟨t.takeWhile isBlank, (List.takeWhile_append_dropWhile).symm, fun _ => List.mem_takeWhile_imp⟩

theorem takes_takeNumber {width n : Nat} (h : takeNumber width t = some (n, rest)) : Takes isAsciiDigit t rest := by
  rw [takeNumber] at h
  split at h
  · cases h
  · cases h
    have hprefix := (List.takeWhile_prefix isAsciiDigit).trans (List.take_prefix width t)
    exact ⟨_, (List.prefix_iff_eq_append.1 hprefix).symm, fun _ => List.mem_takeWhile_imp⟩

theorem takes_takeBounded {low high n : Nat} (h : takeBounded low high t = some (n, rest)) :
    Takes (fun c => isBlank c || isAsciiDigit c) t rest := by
  simp only [takeBounded, Option.bind_eq_bind, Option.bind_eq_some_iff, Prod.exists, Option.ite_none_right_eq_some,
    Option.some.injEq, Prod.mk.injEq] at h
  obtain ⟨m, u, hnumber, -, -, rfl⟩ := h
  exact ((takes_trimStart t).mono fun c hc => by simp [hc]).trans
    ((takes_takeNumber hnumber).mono fun c hc => by simp [hc])

theorem takes_takeYear {year : Int} (h : takeYear t = some (year, rest)) :
    Takes (fun c => isAsciiDigit c || c = '+' || c = '-') t rest := by
  rw [takeYear.eq_def] at h
  split at h <;> obtain ⟨⟨n, u⟩, hnumber, heq⟩ := Option.map_eq_some_iff.1 h <;> cases heq
  · exact ((takes_takeNumber hnumber).mono fun c hc => by simp [hc]).cons (by decide)
  · exact ((takes_takeNumber hnumber).mono fun c hc => by simp [hc]).cons (by decide)
  · exact (takes_takeNumber hnumber).mono fun c hc => by simp [hc]

theorem takes_takeFraction {n : Nat} (h : takeFraction t = some (n, rest)) : Takes isAsciiDigit t rest := by
  rw [takeFraction, Text.takeDigits] at h
  dsimp only at h
  split at h
  · cases h
  · cases h
    exact ⟨_, (List.takeWhile_append_dropWhile).symm, fun _ => List.mem_takeWhile_imp⟩

theorem Field.take_mark (h : (mark c).take seen t = some (seen', rest)) : t = c :: rest := by
  rw [take.eq_def] at h
  dsimp only at h
  split at h
  · split at h
    next heq =>
      cases h
      rw [heq]
    next => cases h
  · cases h

/-- A field takes only what it admits. -/
theorem Field.takes_take {f : Field} (h : f.take seen t = some (seen', rest)) : Takes f.admits t rest := by
  cases f with
  | year =>
    obtain ⟨⟨n, u⟩, hyear, heq⟩ := Option.map_eq_some_iff.1 h
    cases heq
    exact ((takes_trimStart t).mono fun c hc => by simp [admits, hc]).trans
      ((takes_takeYear hyear).mono fun c hc => by simp_all [admits, or_assoc])
  | month | day | hour | minute | second =>
    obtain ⟨⟨n, u⟩, hnumber, heq⟩ := Option.map_eq_some_iff.1 h
    cases heq
    exact takes_takeBounded hnumber
  | fraction =>
    rw [take.eq_def] at h
    dsimp only at h
    split at h
    · obtain ⟨⟨n, u⟩, hfraction, heq⟩ := Option.map_eq_some_iff.1 h
      cases heq
      exact ((takes_takeFraction hfraction).mono fun c hc => by simp [admits, hc]).cons (by decide)
    · cases h
      exact ⟨[], rfl, fun c hc => by cases hc⟩
  | gap =>
    cases h
    exact takes_trimStart t
  | mark d =>
    rw [take_mark h]
    exact ⟨[d], rfl, by simp [admits]⟩

/-! ## What layouts take -/

/-- A layout reads nothing else than its fields admit. -/
theorem admits_of_read (h : Layout.read layout seen t = some seen') (hc : c ∈ t) :
    ∃ f ∈ layout, f.admits c = true := by
  induction layout generalizing seen t with
  | nil =>
    cases t with
    | nil => cases hc
    | cons d t => cases h
  | cons f layout ih =>
    obtain ⟨⟨seen'', rest⟩, htake, hread⟩ := Option.bind_eq_some_iff.1 h
    obtain ⟨taken, rfl, htaken⟩ := Field.takes_take htake
    rcases List.mem_append.1 hc with hc | hc
    · exact ⟨f, List.mem_cons_self .., htaken c hc⟩
    · obtain ⟨g, hg, hadmits⟩ := ih hread hc
      exact ⟨g, List.mem_cons_of_mem _ hg, hadmits⟩

/-- A layout reads all of its marks. -/
theorem mark_mem_of_read (h : Layout.read layout seen t = some seen') (hmark : .mark c ∈ layout) : c ∈ t := by
  induction layout generalizing seen t with
  | nil => cases hmark
  | cons f layout ih =>
    obtain ⟨⟨seen'', rest⟩, htake, hread⟩ := Option.bind_eq_some_iff.1 h
    rcases List.mem_cons.1 hmark with rfl | hmark
    · rw [Field.take_mark htake]
      exact List.mem_cons_self ..
    · exact (Field.takes_take htake).subset (ih hread hmark)

theorem marks_of_readBy {value? : Fields → Option α} {a : α} (h : readBy layouts value? t = some a) :
    ∃ layout ∈ layouts, ∀ c, .mark c ∈ layout → c ∈ t := by
  obtain ⟨layout, hlayout, hread⟩ := List.exists_of_findSome?_eq_some h
  obtain ⟨seen, hseen, -⟩ := Option.bind_eq_some_iff.1 hread
  exact ⟨layout, hlayout, fun c hmark => mark_mem_of_read hseen hmark⟩

theorem readBy_eq_none (value? : Fields → Option α) (hc : c ∈ t)
    (hadmits : ∀ layout ∈ layouts, ∀ f ∈ layout, f.admits c = false) : readBy layouts value? t = none := by
  rw [readBy, List.findSome?_eq_none_iff]
  intro layout hlayout
  rw [Option.bind_eq_none_iff]
  intro seen hseen
  obtain ⟨f, hf, hadmit⟩ := admits_of_read hseen hc
  rw [hadmits layout hlayout f hf] at hadmit
  cases hadmit

/-! ## Time stamps -/

theorem takes_takeExactly {n k : Nat} (h : takeExactly n t = some (k, rest)) : Takes isAsciiDigit t rest := by
  rw [takeExactly] at h
  split at h
  next hdigits =>
    cases h
    rw [Bool.and_eq_true, List.all_eq_true] at hdigits
    exact ⟨_, (List.take_append_drop n t).symm, hdigits.2⟩
  next => cases h

theorem takes_takeTwo {low high n : Nat} (h : takeTwo low high t = some (n, rest)) : Takes isAsciiDigit t rest := by
  simp only [takeTwo, Option.bind_eq_bind, Option.bind_eq_some_iff, Prod.exists, Option.ite_none_right_eq_some,
    Option.some.injEq, Prod.mk.injEq] at h
  obtain ⟨m, u, hexactly, -, -, rfl⟩ := h
  exact takes_takeExactly hexactly

theorem takeMark_eq_some (h : takeMark c t = some rest) : t = c :: rest := by
  cases t with
  | nil => cases h
  | cons d t =>
    rw [takeMark, Option.ite_none_right_eq_some] at h
    obtain ⟨rfl, h⟩ := h
    rw [Option.some.inj h]

/-- A time stamp has a dash behind its year and a colon behind its hour. -/
theorem marks_of_readStamp? {m : Moment} (h : readStamp? t = some m) : '-' ∈ t ∧ ':' ∈ t := by
  rw [readStamp?] at h
  obtain ⟨⟨year, t₁⟩, hyear, h⟩ := Option.bind_eq_some_iff.1 h
  obtain ⟨t₂, hdash, h⟩ := Option.bind_eq_some_iff.1 h
  obtain ⟨⟨month, t₃⟩, hmonth, h⟩ := Option.bind_eq_some_iff.1 h
  obtain ⟨t₄, hdash', h⟩ := Option.bind_eq_some_iff.1 h
  obtain ⟨⟨day, t₅⟩, hday, h⟩ := Option.bind_eq_some_iff.1 h
  dsimp only at h
  split at h
  next letter t₆ =>
    split at h
    next =>
      obtain ⟨_, heq, h⟩ := Option.bind_eq_some_iff.1 h
      cases heq
      obtain ⟨⟨hour, t₇⟩, hhour, h⟩ := Option.bind_eq_some_iff.1 h
      obtain ⟨t₈, hcolon, -⟩ := Option.bind_eq_some_iff.1 h
      rw [takeMark_eq_some hdash] at hyear
      rw [takeMark_eq_some hdash'] at hmonth
      rw [show t₇ = ':' :: t₈ from takeMark_eq_some hcolon] at hhour
      have hday' : ':' ∈ t₄ :=
        (takes_takeTwo hday).subset (List.mem_cons_of_mem _ ((takes_takeTwo hhour).subset (List.mem_cons_self ..)))
      have hmonth' : ':' ∈ t₂ := (takes_takeTwo hmonth).subset (List.mem_cons_of_mem _ hday')
      have hall := (takes_takeExactly hyear).subset
      exact ⟨hall (List.mem_cons_self ..), hall (List.mem_cons_of_mem _ hmonth')⟩
    next => cases h
  next => cases h

/-! ## Dates and times of day of moments -/

/-- The text of a moment has a colon, if it is not the text of a date. -/
theorem colon_of_read {m : Moment} (h : readStamp? t = some m ∨ readBy Layout.moments Fields.moment? t = some m) :
    ':' ∈ t := by
  rcases h with hstamp | hread
  · exact (marks_of_readStamp? hstamp).2
  · obtain ⟨layout, hlayout, hmarks⟩ := marks_of_readBy hread
    have hall : ∀ layout ∈ Layout.moments, .mark ':' ∈ layout := by decide
    exact hmarks ':' (hall layout hlayout)

theorem separator_of_readMoment? {m : Moment} (h : readMoment? t = some m) : '/' ∈ t ∨ '-' ∈ t := by
  have hmarks {α : Type} {layouts : List Layout} {value? : Fields → Option α} {a : α}
      (hall : ∀ layout ∈ layouts, .mark '/' ∈ layout ∨ .mark '-' ∈ layout)
      (h : readBy layouts value? t = some a) : '/' ∈ t ∨ '-' ∈ t := by
    obtain ⟨layout, hlayout, hmarks⟩ := marks_of_readBy h
    exact (hall layout hlayout).imp (hmarks '/') (hmarks '-')
  rw [readMoment?, Option.or_eq_some_iff, Option.or_eq_some_iff] at h
  rcases h with hstamp | ⟨-, hmoment | ⟨-, hdate⟩⟩
  · exact .inr (marks_of_readStamp? hstamp).1
  · exact hmarks (by decide) hmoment
  · obtain ⟨d, hd, -⟩ := Option.map_eq_some_iff.1 hdate
    exact hmarks (by decide) hd

/-- A date alone is read as its midnight, and as no other moment. -/
theorem readMoment?_of_readDateOnly? {d : Date} (h : readDateOnly? t = some d) :
    readMoment? t = some ⟨d, .midnight⟩ := by
  have hcolon : ':' ∉ t := by
    intro hc
    have hnone : readDateOnly? t = none := readBy_eq_none _ hc (by decide)
    rw [hnone] at h
    cases h
  have hstamp : readStamp? t = none :=
    Option.eq_none_iff_forall_ne_some.2 fun m hm => hcolon (colon_of_read (.inl hm))
  have hmoment : readBy Layout.moments Fields.moment? t = none :=
    Option.eq_none_iff_forall_ne_some.2 fun m hm => hcolon (colon_of_read (.inr hm))
  rw [readMoment?, hstamp, hmoment, h]
  rfl

theorem readDate?_eq (t : Text) : readDate? t = (readMoment? t).map (·.date) := by
  rw [readDate?]
  cases h : readDateOnly? t with
  | none => rfl
  | some d =>
    rw [readMoment?_of_readDateOnly? h]
    rfl

theorem readTime?_of_readMoment? {m : Moment} (h : readMoment? t = some m) : readTime? t = some m.time := by
  have hnone : readBy Layout.times Fields.time? t = none := by
    rcases separator_of_readMoment? h with hslash | hdash
    · exact readBy_eq_none _ hslash (by decide)
    · exact readBy_eq_none _ hdash (by decide)
  rw [readTime?, hnone, h]
  rfl

/-- **Dates and times of day are parts of moments.** A text is read as a date exactly if it is read as a moment, and
then it is read as the date and as the time of day of this moment. -/
theorem readDate?_readTime?_of_readMoment? (t : Text) : ((readDate? t).isSome = true ↔ (readMoment? t).isSome = true) ∧
    ∀ m, readMoment? t = some m → readDate? t = some m.date ∧ readTime? t = some m.time := by
  refine ⟨by rw [readDate?_eq, Option.isSome_map], fun m hm => ⟨?_, readTime?_of_readMoment? hm⟩⟩
  rw [readDate?_eq, hm]
  rfl

/-- A leap second, which ended a year one hour east of universal time. -/
theorem readDate?_readTime?_leapSecond :
    let t : Text := "2017-01-01 00:59:60.5+01:00".toList
    let m : Moment := ⟨⟨2016, 12, 31, by decide⟩, ⟨23, 59, 59, 1500000000, by decide⟩⟩
    readMoment? t = some m ∧ readDate? t = some m.date ∧ readTime? t = some m.time := by
  intro t m
  have hmoment : readMoment? t = some m := by decide +kernel
  exact ⟨hmoment, (readDate?_readTime?_of_readMoment? t).2 m hmoment⟩

end Placeholder.Calendar
