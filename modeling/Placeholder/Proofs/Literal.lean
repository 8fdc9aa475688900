/-
Literals undo plain texts: the text of a value behind the name of its type is read as that value, as far as the text
holds it (`read_plainText`). Times keep seven places of the second, moments whole seconds, and strings lose the blanks
at their ends.

A leap second is kept where it is the last second of its minute. The values may have one behind any other second too;
a clock shows it as the second that follows, and so it is read (`TimeOfDay.settled`).
-/
import Placeholder.Display.Basic
import Placeholder.Literal
import Placeholder.Proofs.Calendar.ReadBack
import Placeholder.Proofs.Number.ReadBack

namespace Placeholder

/-! ## Texts without blanks at their ends -/

namespace Text

/-- A text without blanks. -/
def NoBlanks (t : Text) : Prop := ∀ c ∈ t, isBlank c = false

theorem IsDigits.noBlanks {t : Text} (h : IsDigits t) : NoBlanks t := fun c hc => isBlank_of_digit (h c hc)

theorem noBlanks_append {a b : Text} : NoBlanks (a ++ b) ↔ NoBlanks a ∧ NoBlanks b := by
  simp only [NoBlanks, List.mem_append, or_imp, forall_and]

theorem noBlanks_cons {c : Char} {t : Text} : NoBlanks (c :: t) ↔ isBlank c = false ∧ NoBlanks t := by
  simp only [NoBlanks, List.forall_mem_cons]

theorem NoBlanks.trim_eq {t : Text} (h : NoBlanks t) : trim t = t :=
  trim_eq_self (fun c hc => h c (List.mem_of_mem_head? hc)) fun c hc => h c (List.mem_of_mem_getLast? hc)

theorem trim_between {a b : Text} (ha : NoBlanks a) (hb : NoBlanks b) (hane : a ≠ []) (hbne : b ≠ []) (t : Text) :
    trim (a ++ t ++ b) = a ++ t ++ b := by
  refine trim_eq_self (fun c hc => ha c ?_) fun c hc => hb c ?_
  · rw [List.append_assoc, List.head?_append_of_ne_nil _ hane] at hc
    exact List.mem_of_mem_head? hc
  · rw [List.getLast?_append_of_ne_nil _ hbne] at hc
    exact List.mem_of_mem_getLast? hc

theorem noBlanks_ofInt (i : Int) : NoBlanks (ofInt i) := by
  have hdigits := (isDigits_ofNat i.natAbs).noBlanks
  rw [ofInt]
  split
  · exact noBlanks_cons.2 ⟨by decide, hdigits⟩
  · exact hdigits

end Text

open Text (NoBlanks noBlanks_append noBlanks_cons)

theorem Decimal.noBlanks_toText (d : Decimal) : NoBlanks d.toText := by
  have habs : NoBlanks d.abs.toText := by
    rw [toText_abs, noBlanks_append]
    refine ⟨(Text.isDigits_ofNat _).noBlanks, ?_⟩
    split
    · exact fun c hc => by cases hc
    · exact noBlanks_cons.2 ⟨by decide, (Text.isDigits_padLeft (Text.isDigits_ofNat _) _).noBlanks⟩
  rw [toText_eq]
  split
  · exact noBlanks_cons.2 ⟨by decide, habs⟩
  · exact habs

theorem Calendar.noBlanks_twoDigits (n : Nat) : NoBlanks (twoDigits n) := (isDigits_twoDigits n).noBlanks

theorem Calendar.noBlanks_yearText (year : Int) : NoBlanks (yearText year) := by
  rcases yearText_cases year with ⟨hdigits, -, -⟩ | ⟨sign, digits, heq, hdigits, -, hsign⟩
  · exact hdigits.noBlanks
  · rw [heq]
    rcases hsign with ⟨rfl, -⟩ | ⟨rfl, -⟩ <;> exact noBlanks_cons.2 ⟨by decide, hdigits.noBlanks⟩

theorem Date.noBlanks_toText (d : Date) : NoBlanks d.toText := by
  simp only [toText, noBlanks_append, noBlanks_cons, Calendar.noBlanks_twoDigits, Calendar.noBlanks_yearText, and_true]
  decide

theorem TimeOfDay.noBlanks_clockText (t : TimeOfDay) : NoBlanks t.clockText := by
  simp only [clockText, noBlanks_append, noBlanks_cons, Calendar.noBlanks_twoDigits, and_true]
  decide

theorem TimeOfDay.noBlanks_toText (t : TimeOfDay) : NoBlanks t.toText := by
  rw [toText]
  split
  · exact t.noBlanks_clockText
  · refine noBlanks_append.2 ⟨t.noBlanks_clockText, noBlanks_cons.2 ⟨by decide, ?_⟩⟩
    exact (Text.isDigits_padLeft (Text.isDigits_ofNat _) 7).noBlanks

/-- The one blank in the text of a moment stands inside. -/
theorem Moment.trim_toText (m : Moment) : Text.trim m.toText = m.toText := by
  have hdate : m.date.toText ≠ [] := by simp [Date.toText]
  have hclock : m.time.clockText ≠ [] := by simp [TimeOfDay.clockText]
  have htext : m.toText = m.date.toText ++ [' '] ++ m.time.clockText := by simp [toText]
  rw [htext, Text.trim_between m.date.noBlanks_toText m.time.noBlanks_clockText hdate hclock]

/-! ## Literals with a type -/

theorem Text.splitAtFirst?_append {c : Char} {a : Text} (h : c ∉ a) (b : Text) :
    splitAtFirst? c (a ++ c :: b) = some (a, b) := by
  induction a with
  | nil => simp [splitAtFirst?]
  | cons d a ih =>
    rw [List.mem_cons, not_or] at h
    rw [List.cons_append, splitAtFirst?, if_neg (Ne.symm h.1), ih h.2]
    rfl

namespace Literal

/-- The names of types are letters, so they stand for themselves between the parentheses. -/
theorem typeNames_letters : ∀ p ∈ typeNames, p.1 ≠ [] ∧ p.1.all Text.isAsciiLetter = true ∧
    Text.trim p.1 = p.1 ∧ ')' ∉ p.1 ∧ typeNames.lookup (Text.asciiLower p.1) = some p.2 := by
  decide

/-- A literal with a type reads the trimmed text behind the name. -/
theorem read_typed {name raw : Text} {type : LiteralType} {v : Value} (hname : (name, type) ∈ typeNames)
    (hread : type.read (Text.trim raw) = .ok v) : read ('(' :: name ++ ')' :: raw) = .ok v := by
  obtain ⟨hne, hletters, htrim, hclosing, hlookup⟩ := typeNames_letters _ hname
  have hsplit : splitType? ('(' :: name ++ ')' :: raw) = some (name, raw) := by
    have hstart : Text.trimStart ('(' :: (name ++ ')' :: raw)) = ['('] ++ (name ++ ')' :: raw) :=
      Text.trimStart_eq_self fun c hc => by cases hc; decide
    rw [splitType?, List.cons_append, hstart, Text.afterHead?_append]
    simpa [Text.splitAtFirst?_append hclosing, htrim] using ⟨hne, List.all_eq_true.1 hletters⟩
  rw [read, if_neg (by simp), hsplit]
  simp only [hlookup, hread]

end Literal

/-! ## Plain texts -/

namespace Value

/-- The name of the type whose literals are read as values of the kind. Floating-point numbers and the caller's own
values are not considered. -/
def typeName? : Value → Option Text
  | integer _ => some "int".toList
  | decimal _ => some "decimal".toList
  | boolean _ => some "bool".toList
  | date _ => some "date".toList
  | time _ => some "time".toList
  | moment _ => some "datetime".toList
  | string _ => some "string".toList
  | double _ => none
  | custom _ => none

/-- What the plain text of a value holds of it. -/
def kept : Value → Value
  | time t => time (t.settled.truncate 100)
  | moment m => moment ⟨m.date, m.time.settled.truncate 1000000000⟩
  | string s => string (Text.trim s)
  | v => v

end Value

/-- **Literals undo plain texts.** The plain text of an integer, a decimal number, a truth value, a date, a time or a
moment, behind the name of its type, is a literal of what the text holds of the value; and so is any text as a
string. -/
theorem Literal.read_plainText {v : Value} {name : Text} (h : v.typeName? = some name) :
    ∃ w, Literal.read ('(' :: name ++ ')' :: v.plainText) = .ok w ∧ w.same v.kept = true := by
  cases v with
  | integer i =>
    cases h
    have hread : LiteralType.int.read (Text.trim (Text.ofInt i.1)) = .ok (.integer i) := by
      rw [(Text.noBlanks_ofInt i.1).trim_eq, LiteralType.read, Integer.readIn_ofInt i.2]
      simp only [Value.ofInt?, dif_pos i.2]
    exact ⟨_, read_typed (by decide) hread, beq_self_eq_true i.1⟩
  | double x => cases h
  | decimal d =>
    cases h
    obtain ⟨e, he, hsame⟩ := d.read_toText
    have hread : LiteralType.decimal.read (Text.trim d.toText) = .ok (.decimal e) := by
      rw [d.noBlanks_toText.trim_eq, LiteralType.read, he]
    exact ⟨_, read_typed (by decide) hread, hsame⟩
  | moment m =>
    cases h
    have hread : LiteralType.moment.read (Text.trim m.toText) = .ok (Value.kept (.moment m)) := by
      rw [m.trim_toText, LiteralType.read, Calendar.readMoment?_toText]
      rfl
    exact ⟨_, read_typed (by decide) hread, beq_self_eq_true _⟩
  | date d =>
    cases h
    have hread : LiteralType.date.read (Text.trim d.toText) = .ok (.date d) := by
      rw [d.noBlanks_toText.trim_eq, LiteralType.read, Calendar.readDate?_toText]
    exact ⟨_, read_typed (by decide) hread, beq_self_eq_true d⟩
  | time t =>
    cases h
    have hread : LiteralType.time.read (Text.trim t.toText) = .ok (Value.kept (.time t)) := by
      rw [t.noBlanks_toText.trim_eq, LiteralType.read, Calendar.readTime?_toText]
      rfl
    exact ⟨_, read_typed (by decide) hread, beq_self_eq_true _⟩
  | boolean b =>
    cases h
    have hread : LiteralType.bool.read (Text.trim (Value.boolean b).plainText) = .ok (.boolean b) := by
      cases b <;> rfl
    exact ⟨_, read_typed (by decide) hread, beq_self_eq_true b⟩
  | string s =>
    cases h
    have hread : LiteralType.string.read (Text.trim s) = .ok (.string (Text.trim s)) := rfl
    exact ⟨_, read_typed (by decide) hread, beq_self_eq_true (Text.trim s)⟩
  | custom c => cases h

/-- A leap second, in a year before the first one. -/
theorem Literal.read_leapSecond :
    ∃ w, Literal.read ('(' :: "datetime".toList ++ ')' :: "03/15/-0044 23:59:60".toList) = .ok w ∧
      w.same (.moment ⟨⟨-44, 3, 15, by decide⟩, ⟨23, 59, 59, 1000000000, by decide⟩⟩) = true := by
  let m : Moment := ⟨⟨-44, 3, 15, by decide⟩, ⟨23, 59, 59, 1500000000, by decide⟩⟩
  have htext : (Value.moment m).plainText = "03/15/-0044 23:59:60".toList := by decide +kernel
  have hkept : (Value.moment m).kept =
      .moment ⟨⟨-44, 3, 15, by decide⟩, ⟨23, 59, 59, 1000000000, by decide⟩⟩ :=
    congrArg Value.moment (by decide +kernel)
  rw [← htext, ← hkept]
  exact read_plainText rfl

/-- A leap second inside a minute is shown, and read, as the second that follows. -/
theorem Literal.read_leapInsideMinute :
    let t : TimeOfDay := ⟨23, 56, 4, 1333333333, by decide⟩
    ∃ w, Literal.read ('(' :: "time".toList ++ ')' :: (Value.time t).plainText) = .ok w ∧
      w.same (.time ⟨23, 56, 5, 333333300, by decide⟩) = true ∧ w.same (.time (t.truncate 100)) = false := by
  intro t
  have hsettled : t.settled.truncate 100 = ⟨23, 56, 5, 333333300, by decide⟩ := by decide +kernel
  have hread : LiteralType.time.read (Text.trim t.toText) = .ok (.time ⟨23, 56, 5, 333333300, by decide⟩) := by
    rw [t.noBlanks_toText.trim_eq, LiteralType.read, Calendar.readTime?_toText, hsettled]
  exact ⟨_, read_typed (by decide) hread, by decide +kernel, by decide +kernel⟩

end Placeholder
