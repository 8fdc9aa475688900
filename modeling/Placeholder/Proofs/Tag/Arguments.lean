/-
The arguments of generators, said without patterns: the clauses that spell them (`StringClause`, `NumberClause`), each
in one way (`NumberClause.unique`), and what the patterns of generators find (`Reads`).

A pattern is looked for anywhere in a text, so the arguments that it finds in a tag can be those of a tag in its
clause. But they cannot be those of any such tag: the tags end in a bracket and a brace, and the clause of a live tag
has these two nowhere inside (`endsOnce_of_readsBack`). What is found is the first tag that the tag ends in
(`Reads.find_eq_some`): the tag itself, or one that its clause ends in (`endsIn_opening_iff`).
-/
import Placeholder.Clause
import Placeholder.Generator
import Placeholder.Proofs.Pattern.Captures
import Placeholder.Proofs.Tag.Enclosed

namespace Placeholder

namespace Clause

open Pattern Expr Ways

/-! ## Clauses of generators -/

/-- A run of digits of any script. -/
def IsNumeral (t : Text) : Prop := t ≠ [] ∧ ∀ c ∈ t, Unicode.isDigit c = true

/-- `:[length]`, the clause of a generator of strings. -/
inductive StringClause : (length : Text) → Text → Prop
  | intro {length} : IsNumeral length → StringClause length (':' :: '[' :: (length ++ [']']))

/-- Nothing, or a comma with blanks around it and a second bound. -/
inductive SecondBound : Option Text → Text → Prop
  | none : SecondBound none []
  | some {before behind max} : (∀ c ∈ before, Text.isBlank c = true) → (∀ c ∈ behind, Text.isBlank c = true) →
      IsNumeral max → SecondBound (some max) (before ++ ',' :: (behind ++ max))

/-- Nothing, or a segment `[format:spec]`. -/
inductive FormatSegment : Option Text → Text → Prop
  | none : FormatSegment none []
  | some {word spec} : Spelled "[format:".toList word → '\n' ∉ spec →
      FormatSegment (some spec) (word ++ (spec ++ [']']))

/-- `:[min]` or `:[min,max]`, and a format behind it if there is one: the clause of a generator of numbers. -/
inductive NumberClause : NumberArgs → Text → Prop
  | intro {min max format m f} : IsNumeral min → SecondBound max m → FormatSegment format f →
      NumberClause ⟨min, max, format⟩ (':' :: '[' :: (min ++ (m ++ ']' :: f)))

/-! ## The patterns of generators -/

theorem spans_digits : Spans digits.ways IsNumeral := Spans.rounds_one true .digit

theorem spans_blanks : Spans blanks.ways fun u => ∀ c ∈ u, Text.isBlank c = true := Spans.star_one true .blank

theorem spans_shortRun : Spans Tag.shortRun.ways fun u => '\n' ∉ u :=
  (Spans.star_one false .inLine).congr fun u => by
    simp only [CharSet.has, CharSet.inLine]
    constructor
    · intro h hmem
      simpa using h '\n' hmem
    · intro h c hc
      have hne : c ≠ '\n' := fun heq => h (heq ▸ hc)
      simpa using hne

/-- The opening of a tag with the given key. -/
def opening (key : Text) : Text := '$' :: '\x7b' :: key

/-- An opening with a colon and a bracket is an opening and these. -/
theorem spelled_opening {key o : Text} :
    Spelled (opening key ++ [':', '[']) o ↔ ∃ o', o = o' ++ [':', '['] ∧ Spelled (opening key) o' := by
  have hcaseless : ∀ c ∈ [':', '['], CharSet.literal true c = .chars [c] := by
    rw [List.forall_mem_cons, List.forall_mem_singleton]
    decide +kernel
  rw [spelled_append_iff]
  constructor
  · rintro ⟨o', w, rfl, ho', hw⟩
    rw [spelled_iff_eq hcaseless] at hw
    exact ⟨o', by rw [hw], ho'⟩
  · rintro ⟨o', rfl, ho'⟩
    exact ⟨o', _, rfl, ho', (spelled_iff_eq hcaseless).2 rfl⟩

/-- The ways of a generator of strings. -/
theorem mem_stringWays {pos : Nat} {t : Text} {w : Way} : w ∈ stringPattern.body.ways pos t ↔
    ∃ o length rest, t = o ++ (length ++ ']' :: '}' :: rest) ∧ Spelled (opening Generator.stringKey ++ [':', '[']) o ∧
      IsNumeral length ∧
      w = ⟨o.length + (length.length + 2), [(3, pos + o.length + length.length), (2, pos + o.length)]⟩ := by
  have hend : Spans (chain (Tag.char ']').ways (Tag.char '}').ways) (· = [']', '}']) :=
    ((Spans.char ']').chain (Spans.char '}')).congr fun u => by
      constructor
      · rintro ⟨a, b, rfl, rfl, rfl⟩
        rfl
      · rintro rfl
        exact ⟨[']'], ['}'], rfl, rfl, rfl⟩
  have hways : stringPattern.body.ways = chain (word "$\x7brandomstring:[").ways
      (chain (group 1 digits).ways (chain (Tag.char ']').ways (Tag.char '}').ways)) := rfl
  have hopening : "$\x7brandomstring:[".toList = opening Generator.stringKey ++ [':', '['] := rfl
  rw [hways, word, hopening, (Spans.text _).mem_chain]
  simp only [spans_digits.mem_group_chain, hend.mem_iff]
  constructor
  · rintro ⟨o, _, rfl, ho, _, ⟨length, _, rfl, hlength, _, ⟨_, rest, rfl, rfl, rfl⟩, rfl⟩, rfl⟩
    exact ⟨o, length, rest, rfl, ho, hlength, rfl⟩
  · rintro ⟨o, length, rest, rfl, ho, hlength, rfl⟩
    exact ⟨o, _, rfl, ho, _, ⟨length, _, rfl, hlength, _, ⟨[']', '}'], rest, rfl, rfl, rfl⟩, rfl⟩, rfl⟩

/-- The ways behind the bounds of a generator of numbers. -/
def formatEnd : Ways := chain (optional true (sequence [word "[format:", group 3 Tag.shortRun, Tag.char ']'])).ways
  (Tag.char '}').ways

/-- What is noted of a format that stands at a position. -/
def formatMarks (pos : Nat) : Option Text → Marks
  | none => []
  | some spec => [(7, pos + 8 + spec.length), (6, pos + 8)]

theorem mem_formatEnd {pos : Nat} {t : Text} {w : Way} : w ∈ formatEnd pos t ↔
    ∃ format f rest, t = f ++ '}' :: rest ∧ FormatSegment format f ∧
      w = ⟨f.length + 1, formatMarks pos format⟩ := by
  have hsegment : chain (sequence [word "[format:", group 3 Tag.shortRun, Tag.char ']']).ways (Tag.char '}').ways =
      chain (word "[format:").ways (chain (group 3 Tag.shortRun).ways
        (chain (Tag.char ']').ways (Tag.char '}').ways)) := by
    simp only [ways_sequence_cons, chain_assoc]
    rw [Expr.sequence, ways, stay_chain]
  rw [formatEnd, mem_optional_chain, hsegment, word, (Spans.text _).mem_chain]
  simp only [spans_shortRun.mem_group_chain, (Spans.char ']').mem_chain, (Spans.char '}').mem_iff]
  constructor
  · rintro (⟨o, _, rfl, ho, _, ⟨spec, _, rfl, hspec, _, ⟨_, _, rfl, rfl, _, ⟨_, rest, rfl, rfl, rfl⟩, rfl⟩, rfl⟩, rfl⟩ |
      ⟨_, rest, rfl, rfl, rfl⟩)
    · refine ⟨some spec, o ++ (spec ++ [']']), rest, by simp, .some ho hspec, ?_⟩
      have hlen : o.length = 8 := ho.length_eq
      simp [formatMarks, hlen, Nat.add_assoc]
    · exact ⟨none, [], rest, rfl, .none, rfl⟩
  · rintro ⟨format, f, rest, rfl, hf, rfl⟩
    cases hf with
    | none => exact .inr ⟨['}'], rest, rfl, rfl, rfl⟩
    | @some o spec ho hspec =>
      refine .inl ⟨o, spec ++ (']' :: '}' :: rest), by simp, ho, _, ⟨spec, ']' :: '}' :: rest, rfl, hspec, _,
        ⟨[']'], '}' :: rest, rfl, rfl, _, ⟨['}'], rest, rfl, rfl, rfl⟩, rfl⟩, rfl⟩, ?_⟩
      have hlen : o.length = 8 := ho.length_eq
      simp [formatMarks, hlen, Nat.add_assoc]

/-- The ways behind the first bound. -/
def boundEnd : Ways := chain (optional true (sequence [blanks, Tag.char ',', blanks, group 2 digits])).ways
  (chain (Tag.char ']').ways formatEnd)

/-- What is noted of a second bound that ends at a position. -/
def boundMarks (stop : Nat) : Option Text → Marks
  | none => []
  | some max => [(5, stop), (4, stop - max.length)]

theorem mem_boundEnd {pos : Nat} {t : Text} {w : Way} : w ∈ boundEnd pos t ↔
    ∃ max m format f rest, t = m ++ ']' :: (f ++ '}' :: rest) ∧ SecondBound max m ∧ FormatSegment format f ∧
      w = ⟨m.length + (f.length + 2),
        formatMarks (pos + m.length + 1) format ++ boundMarks (pos + m.length) max⟩ := by
  have hbound : chain (sequence [blanks, Tag.char ',', blanks, group 2 digits]).ways
      (chain (Tag.char ']').ways formatEnd) = chain blanks.ways (chain (Tag.char ',').ways (chain blanks.ways
        (chain (group 2 digits).ways (chain (Tag.char ']').ways formatEnd)))) := by
    simp only [ways_sequence_cons, chain_assoc]
    rw [Expr.sequence, ways, stay_chain]
  rw [boundEnd, mem_optional_chain, hbound, spans_blanks.mem_chain]
  simp only [(Spans.char _).mem_chain, spans_blanks.mem_chain, spans_digits.mem_group_chain, mem_formatEnd]
  constructor
  · rintro (⟨before, _, rfl, hbefore, _, ⟨_, _, rfl, rfl, _, ⟨behind, _, rfl, hbehind, _, ⟨max, _, rfl, hmax, _,
        ⟨_, _, rfl, rfl, _, ⟨format, f, rest, rfl, hf, rfl⟩, rfl⟩, rfl⟩, rfl⟩, rfl⟩, rfl⟩ |
      ⟨_, _, rfl, rfl, _, ⟨format, f, rest, rfl, hf, rfl⟩, rfl⟩)
    · refine ⟨some max, _, format, f, rest, ?_, .some hbefore hbehind hmax, hf, ?_⟩
      · simp
      · cases format <;> simp [formatMarks, boundMarks] <;> omega
    · refine ⟨none, [], format, f, rest, rfl, .none, hf, ?_⟩
      cases format <;> simp [formatMarks, boundMarks] <;> omega
  · rintro ⟨max, m, format, f, rest, rfl, hm, hf, rfl⟩
    cases hm with
    | none =>
      refine .inr ⟨[']'], _, rfl, rfl, _, ⟨format, f, rest, rfl, hf, rfl⟩, ?_⟩
      cases format <;> simp [formatMarks, boundMarks] <;> omega
    | @some before behind max hbefore hbehind hmax =>
      refine .inl ⟨before, ',' :: (behind ++ (max ++ ']' :: (f ++ '}' :: rest))), by simp, hbefore, _,
        ⟨[','], _, rfl, rfl, _, ⟨behind, _, rfl, hbehind, _, ⟨max, _, rfl, hmax, _,
          ⟨[']'], _, rfl, rfl, _, ⟨format, f, rest, rfl, hf, rfl⟩, rfl⟩, rfl⟩, rfl⟩, rfl⟩, ?_⟩
      cases format <;> simp [formatMarks, boundMarks] <;> omega

/-- What is noted of a generator of numbers whose first bound begins at a position. -/
def numberMarks (start : Nat) (min m : Text) (max format : Option Text) : Marks :=
  formatMarks (start + min.length + m.length + 1) format ++ boundMarks (start + min.length + m.length) max ++
    [(3, start + min.length), (2, start)]

/-- The ways of a generator of numbers. -/
theorem mem_numberWays {pos : Nat} {t : Text} {w : Way} : w ∈ numberPattern.body.ways pos t ↔
    ∃ o min max m format f rest, t = o ++ (min ++ (m ++ ']' :: (f ++ '}' :: rest))) ∧
      Spelled (opening Generator.numberKey ++ [':', '[']) o ∧ IsNumeral min ∧ SecondBound max m ∧ FormatSegment format f ∧
      w = ⟨o.length + (min.length + (m.length + (f.length + 2))), numberMarks (pos + o.length) min m max format⟩ := by
  have hways : numberPattern.body.ways =
      chain (word "$\x7brandomnumber:[").ways (chain (group 1 digits).ways boundEnd) := rfl
  have hopening : "$\x7brandomnumber:[".toList = opening Generator.numberKey ++ [':', '['] := rfl
  rw [hways, word, hopening, (Spans.text _).mem_chain]
  simp only [spans_digits.mem_group_chain, mem_boundEnd]
  constructor
  · rintro ⟨o, _, rfl, ho, _, ⟨min, _, rfl, hmin, _, ⟨max, m, format, f, rest, rfl, hm, hf, rfl⟩, rfl⟩, rfl⟩
    exact ⟨o, min, max, m, format, f, rest, rfl, ho, hmin, hm, hf, rfl⟩
  · rintro ⟨o, min, max, m, format, f, rest, rfl, ho, hmin, hm, hf, rfl⟩
    exact ⟨o, _, rfl, ho, _, ⟨min, _, rfl, hmin, _, ⟨max, m, format, f, rest, rfl, hm, hf, rfl⟩, rfl⟩, rfl⟩

/-! ## One clause, one reading -/

theorem isDigit_of_isBlank {c : Char} (h : Text.isBlank c = true) : Unicode.isDigit c = false := by
  revert h
  simp only [Text.isBlank, Text.blankRanges, Unicode.isDigit, Unicode.digitRanges, Unicode.Ranges.holds]
  grind

/-- A run of characters with a property ends where one without it comes. -/
theorem run_unique {p : Char → Bool} {u v u' v' : Text} (h : u ++ v = u' ++ v') (hu : ∀ c ∈ u, p c = true)
    (hu' : ∀ c ∈ u', p c = true) (hv : ∀ c ∈ v.head?, p c = false) (hv' : ∀ c ∈ v'.head?, p c = false) :
    u = u' ∧ v = v' := by
  have hrun : ∀ {u v : Text}, (∀ c ∈ u, p c = true) → (∀ c ∈ v.head?, p c = false) → (u ++ v).takeWhile p = u := by
    intro u v hu hv
    rw [List.takeWhile_append_of_pos hu]
    cases v with
    | nil => simp
    | cons c v => simp [hv c rfl]
  obtain rfl : u = u' := by rw [← hrun hu hv, h, hrun hu' hv']
  exact ⟨rfl, List.append_cancel_left h⟩

/-- A numeral begins with no blank. -/
theorem IsNumeral.head_not_blank {t rest : Text} (h : IsNumeral t) : ∀ c ∈ (t ++ rest).head?, Text.isBlank c = false := by
  obtain ⟨d, t, rfl⟩ := List.exists_cons_of_ne_nil h.1
  intro c hc
  obtain rfl : d = c := by simpa using hc
  have hdigit := h.2 d (List.mem_cons_self ..)
  cases hblank : Text.isBlank d with
  | false => rfl
  | true =>
    rw [isDigit_of_isBlank hblank] at hdigit
    cases hdigit

/-- A second bound begins with no digit, and what stands behind it neither. -/
theorem SecondBound.head_not_digit {max : Option Text} {m f : Text} (h : SecondBound max m) :
    ∀ c ∈ (m ++ ']' :: f).head?, Unicode.isDigit c = false := by
  intro c hc
  cases h with
  | none =>
    obtain rfl : ']' = c := by simpa using hc
    decide +kernel
  | @some before behind max hbefore _ _ =>
    cases before with
    | nil =>
      obtain rfl : ',' = c := by simpa using hc
      decide +kernel
    | cons d before =>
      obtain rfl : d = c := by simpa using hc
      exact isDigit_of_isBlank (hbefore d (List.mem_cons_self ..))

theorem SecondBound.unique {max max' : Option Text} {m m' f f' : Text} (h : SecondBound max m)
    (h' : SecondBound max' m') (heq : m ++ ']' :: f = m' ++ ']' :: f') : max = max' ∧ f = f' := by
  have hcomma : ∀ {rest : Text}, ∀ c ∈ (',' :: rest).head?, Text.isBlank c = false := by
    intro rest c hc
    obtain rfl : ',' = c := by simpa using hc
    decide
  -- A bracket is not where blanks and a comma are.
  have hmixed : ∀ {before rest f : Text}, (∀ c ∈ before, Text.isBlank c = true) →
      before ++ ',' :: rest ≠ ']' :: f := by
    intro before rest f hbefore h
    cases before with
    | nil => cases h
    | cons c before =>
      obtain rfl := (List.cons.inj h).1
      exact absurd (hbefore ']' (List.mem_cons_self ..)) (by decide)
  cases h with
  | none =>
    cases h' with
    | none => exact ⟨rfl, by simpa using heq⟩
    | some hbefore => exact absurd heq.symm (by simpa using hmixed hbefore)
  | @some before behind max hbefore hbehind hmax =>
    cases h' with
    | none => exact absurd heq (by simpa using hmixed hbefore)
    | @some before' behind' max' hbefore' hbehind' hmax' =>
      simp only [List.append_assoc, List.cons_append] at heq
      obtain ⟨-, hrest⟩ := run_unique heq hbefore hbefore' hcomma hcomma
      obtain ⟨-, hrest⟩ := run_unique (List.cons.inj hrest).2 hbehind hbehind' hmax.head_not_blank hmax'.head_not_blank
      have hend : ∀ {f : Text}, ∀ c ∈ (']' :: f).head?, Unicode.isDigit c = false := SecondBound.none.head_not_digit
      obtain ⟨rfl, hbracket⟩ := run_unique hrest hmax.2 hmax'.2 hend hend
      exact ⟨rfl, (List.cons.inj hbracket).2⟩

/-- The format of a segment is what stands behind its eight first characters, without the bracket at the end. -/
theorem FormatSegment.eq {format : Option Text} {f : Text} (h : FormatSegment format f) :
    format = if f = [] then Option.none else Option.some ((f.drop 8).dropLast) := by
  cases h with
  | none => rfl
  | @some word spec hword hspec =>
    have hlen : word.length = 8 := hword.length_eq
    rw [if_neg (by simp), ← hlen, List.drop_left, List.dropLast_concat]

theorem NumberClause.unique {args args' : NumberArgs} {x : Text} (h : NumberClause args x)
    (h' : NumberClause args' x) : args = args' := by
  obtain ⟨hmin, hm, hf⟩ := h
  generalize hx : ':' :: '[' :: (_ ++ (_ ++ ']' :: _)) = x at h'
  obtain ⟨hmin', hm', hf'⟩ := h'
  simp only [List.cons.injEq, true_and] at hx
  obtain ⟨rfl, hrest⟩ := run_unique hx hmin.2 hmin'.2 hm.head_not_digit hm'.head_not_digit
  obtain ⟨rfl, rfl⟩ := hm.unique hm' hrest
  rw [hf.eq, hf'.eq]

theorem StringClause.unique {length length' x : Text} (h : StringClause length x) (h' : StringClause length' x) :
    length = length' := by
  obtain ⟨-⟩ := h
  generalize hx : ':' :: '[' :: (length ++ [']']) = x at h'
  obtain ⟨-⟩ := h'
  simpa using hx

/-! ## What the patterns find -/

variable {α : Type} {p : Pattern} {key : Text} {Spells : α → Text → Prop} {pick : Match → Option α}

/-- A pattern finds the tags with a key and a clause that spells arguments, and they can be picked out of what it
finds. -/
structure Reads (p : Pattern) (key : Text) (Spells : α → Text → Prop) (pick : Match → Option α) : Prop where
  simple : p.body.simple = true
  unique {a a' x} : Spells a x → Spells a' x → a = a'
  bracket {a x} : Spells a x → ∃ y, x = y ++ [']']
  ways_ne_nil {a o x} (rest : Text) : Spelled (opening key) o → Spells a x →
    p.body.ways 0 (o ++ (x ++ '}' :: rest)) ≠ []
  of_mem_ways {t w} : w ∈ p.body.ways 0 t → ∃ a o x rest, t = o ++ (x ++ '}' :: rest) ∧
    Spelled (opening key) o ∧ Spells a x ∧ pick ⟨t.take w.taken, w.marks⟩ = some a

theorem StringClause.bracket {length x : Text} (h : StringClause length x) : ∃ y, x = y ++ [']'] := by
  obtain ⟨-⟩ := h
  exact ⟨':' :: '[' :: length, rfl⟩

theorem NumberClause.bracket {args : NumberArgs} {x : Text} (h : NumberClause args x) : ∃ y, x = y ++ [']'] := by
  obtain @⟨min, max, format, m, f, hmin, hm, hf⟩ := h
  cases hf with
  | none => exact ⟨':' :: '[' :: (min ++ m), by simp⟩
  | @some word spec _ _ => exact ⟨':' :: '[' :: (min ++ (m ++ ']' :: (word ++ spec))), by simp⟩

theorem reads_string : Reads stringPattern Generator.stringKey StringClause
    (stringPattern.named? · "length".toList) where
  simple := by decide
  unique := StringClause.unique
  bracket := StringClause.bracket
  ways_ne_nil rest ho hx := by
    obtain ⟨hlength⟩ := hx
    refine List.ne_nil_of_mem (mem_stringWays.2 ⟨_, _, rest, ?_, spelled_opening.2 ⟨_, rfl, ho⟩, hlength, rfl⟩)
    simp
  of_mem_ways hw := by
    obtain ⟨_, length, rest, rfl, ho, hlength, rfl⟩ := mem_stringWays.1 hw
    obtain ⟨o, rfl, ho'⟩ := spelled_opening.1 ho
    refine ⟨length, o, _, rest, ?_, ho', .intro hlength, ?_⟩
    · simp
    · have hgroup : ∀ m, stringPattern.named? m "length".toList = m.group? 1 := fun _ => rfl
      rw [hgroup, ← List.append_assoc]
      exact Match.group?_eq (by simp) (by simp [List.lookup_cons]) (by simp)

/-- The second group covers the second bound. -/
theorem SecondBound.group?_eq {max : Option Text} {u m v : Text} {marks : Marks} {taken : Nat} (h : SecondBound max m)
    (htaken : u.length + m.length ≤ taken)
    (hstart : marks.lookup 4 = max.map fun max => u.length + m.length - max.length)
    (hstop : marks.lookup 5 = max.map fun _ => u.length + m.length) :
    Match.group? ⟨(u ++ (m ++ v)).take taken, marks⟩ 2 = max := by
  cases h with
  | none => exact Match.group?_eq_none hstart
  | @some before behind max _ _ _ =>
    have hsplit : u ++ (before ++ ',' :: (behind ++ max) ++ v) = u ++ before ++ ',' :: behind ++ max ++ v := by simp
    rw [hsplit]
    refine Match.group?_eq ?_ (hstart.trans ?_) (hstop.trans ?_) <;> simp at * <;> omega

/-- The third group covers the format. -/
theorem FormatSegment.group?_eq {format : Option Text} {u f v : Text} {marks : Marks} {taken : Nat}
    (h : FormatSegment format f) (htaken : u.length + f.length ≤ taken)
    (hstart : marks.lookup 6 = format.map fun _ => u.length + 8)
    (hstop : marks.lookup 7 = format.map fun spec => u.length + 8 + spec.length) :
    Match.group? ⟨(u ++ (f ++ v)).take taken, marks⟩ 3 = format := by
  cases h with
  | none => exact Match.group?_eq_none hstart
  | @some word spec hword _ =>
    have hlen : word.length = 8 := hword.length_eq
    have hsplit : u ++ (word ++ (spec ++ [']']) ++ v) = u ++ word ++ spec ++ ']' :: v := by simp
    rw [hsplit]
    refine Match.group?_eq ?_ (hstart.trans ?_) (hstop.trans ?_) <;> simp at * <;> omega

/-- The groups of a tag of the generator of numbers are its arguments. -/
theorem numberGroups (o min rest : Text) {max format : Option Text} {m f : Text} (hm : SecondBound max m)
    (hf : FormatSegment format f) :
    let found : Match := ⟨(o ++ (min ++ (m ++ ']' :: (f ++ '}' :: rest)))).take
      (o.length + (min.length + (m.length + (f.length + 2)))), numberMarks o.length min m max format⟩
    found.group? 1 = some min ∧ found.group? 2 = max ∧ found.group? 3 = format := by
  refine ⟨?_, ?_, ?_⟩
  · rw [← List.append_assoc]
    refine Match.group?_eq (by omega) ?_ ?_ <;>
      cases max <;> cases format <;> simp [numberMarks, formatMarks, boundMarks, List.lookup_cons]
  · rw [← List.append_assoc]
    refine hm.group?_eq (by simp; omega) ?_ ?_ <;>
      cases max <;> cases format <;> simp [numberMarks, formatMarks, boundMarks, List.lookup_cons]
  · have hsplit : o ++ (min ++ (m ++ ']' :: (f ++ '}' :: rest))) = o ++ min ++ m ++ [']'] ++ (f ++ '}' :: rest) := by simp
    rw [hsplit]
    refine hf.group?_eq (by simp; omega) ?_ ?_ <;>
      cases max <;> cases format <;> simp [numberMarks, formatMarks, boundMarks, List.lookup_cons] <;> omega

theorem reads_number : Reads numberPattern Generator.numberKey NumberClause
    fun m => do return ⟨← numberPattern.named? m "min".toList, numberPattern.named? m "max".toList,
      numberPattern.named? m "format".toList⟩ where
  simple := by decide
  unique := NumberClause.unique
  bracket := NumberClause.bracket
  ways_ne_nil rest ho hx := by
    obtain ⟨hmin, hm, hf⟩ := hx
    refine List.ne_nil_of_mem (mem_numberWays.2 ⟨_, _, _, _, _, _, rest, ?_, spelled_opening.2 ⟨_, rfl, ho⟩, hmin, hm, hf,
      rfl⟩)
    simp
  of_mem_ways hw := by
    obtain ⟨_, min, max, m, format, f, rest, rfl, ho, hmin, hm, hf, rfl⟩ := mem_numberWays.1 hw
    obtain ⟨o, rfl, ho'⟩ := spelled_opening.1 ho
    refine ⟨⟨min, max, format⟩, o, _, rest, ?_, ho', .intro hmin hm hf, ?_⟩
    · simp
    · have hgroups : ∀ found : Match, (do return ⟨← numberPattern.named? found "min".toList,
          numberPattern.named? found "max".toList, numberPattern.named? found "format".toList⟩ : Option NumberArgs) =
          (do return ⟨← found.group? 1, found.group? 2, found.group? 3⟩) := fun _ => rfl
      obtain ⟨h1, h2, h3⟩ := numberGroups (o ++ [':', '[']) min rest hm hf
      rw [hgroups, Nat.zero_add, h1, h2, h3]
      rfl

/-! ## Where arguments are found -/

/-- Behind `head`, the text ends in an opening with the key and a clause that spells the arguments. -/
def EndsIn (key : Text) (Spells : α → Text → Prop) (a : α) (head t : Text) : Prop :=
  ∃ o x, t = head ++ (o ++ x) ∧ Spelled (opening key) o ∧ Spells a x

/-- A bracket with a brace behind it is all that is left of the text. -/
def EndsOnce (t : Text) : Prop := ∀ u v, t = u ++ ']' :: '}' :: v → v = []

/-- In a live tag, with any key in the place of its own, a bracket with a brace behind it stands at the end. -/
theorem endsOnce_of_readsBack {g : Tag} (hg : Tag.ReadsBack ['$', '{'] ['}'] g) (hkey : ']' ∉ opening key) :
    EndsOnce (opening key ++ g.extended.getD [] ++ ['}']) := by
  intro u v h
  rw [List.append_assoc] at h
  -- The bracket stands in the clause, for none stands in the opening.
  obtain ⟨u, hu⟩ : ∃ u', g.extended.getD [] ++ ['}'] = u' ++ ']' :: '}' :: v := by
    rcases List.append_eq_append_iff.1 h with ⟨a, -, ha⟩ | ⟨a, ha, hb⟩
    · exact ⟨a, ha⟩
    · cases a with
      | nil => exact ⟨[], hb.symm⟩
      | cons c a =>
        obtain rfl := (List.cons.inj hb).1
        exact absurd (ha ▸ List.mem_append_right u (List.mem_cons_self ..)) hkey
  have hraw : g.raw = '$' :: '{' :: (g.var ++ u) ++ ']' :: '}' :: v := by
    rw [(Tag.recognise?_eq_some (hg [])).1.raw, List.append_assoc, hu]
    simp
  have hback := hg []
  rw [List.append_nil, hraw] at hback
  have hlen := Tag.length_raw_le hback
  rw [hraw] at hlen
  simp only [List.length_append, List.length_cons] at hlen
  exact List.length_eq_zero_iff.1 (by omega)

theorem exists_cons_of_spelled_opening {o : Text} (h : Spelled (opening key) o) : ∃ o', o = '$' :: o' := by
  cases h with
  | @cons _ d _ o' hd _ =>
    have hdollar : CharSet.literal true '$' = .chars ['$'] := by decide +kernel
    rw [hdollar] at hd
    obtain rfl : d = '$' := by simpa [CharSet.has] using hd
    exact ⟨o', rfl⟩

/-- A tag ends in the tag that it is, and in those that its clause ends in. -/
theorem endsIn_opening_iff {a : α} {head clause : Text} (hkey : '$' ∉ key)
    (hself : Spelled (opening key) (opening key)) :
    EndsIn key Spells a head (opening key ++ clause) ↔
      (head = [] ∧ Spells a clause) ∨ ∃ head', head = opening key ++ head' ∧ EndsIn key Spells a head' clause := by
  constructor
  · rintro ⟨o, x, h, ho, hx⟩
    have hinside : ∀ head', head = opening key ++ head' → EndsIn key Spells a head' clause := by
      rintro head' rfl
      rw [List.append_assoc] at h
      exact ⟨o, x, List.append_cancel_left h, ho, hx⟩
    rcases List.append_eq_append_iff.1 h with ⟨b, hb, -⟩ | ⟨b, hb, hrest⟩
    · exact .inr ⟨b, hb, hinside b hb⟩
    · match head, b, hb with
      | [], _, _ =>
        rw [List.nil_append] at h
        rw [(List.append_inj h ho.length_eq.symm).2]
        exact .inl ⟨rfl, hx⟩
      | c :: head, [], hb =>
        have hhead : c :: head = opening key ++ [] := by rw [List.append_nil, hb, List.append_nil]
        exact .inr ⟨[], hhead, hinside [] hhead⟩
      | c :: head, d :: b, hb =>
        -- The other tag would open in the opening.
        obtain ⟨o', rfl⟩ := exists_cons_of_spelled_opening ho
        obtain rfl := (List.cons.inj hrest).1
        have hmem : '$' ∈ '\x7b' :: key := by
          rw [(List.cons.inj hb).2]
          simp
        rcases List.mem_cons.1 hmem with h | h
        · cases h
        · exact absurd h hkey
  · rintro (⟨rfl, hx⟩ | ⟨head', rfl, o, x, rfl, ho, hx⟩)
    · exact ⟨opening key, clause, rfl, hself, hx⟩
    · exact ⟨o, x, by rw [List.append_assoc], ho, hx⟩

namespace Reads

/-- At one place a text ends in one tag. -/
theorem endsIn_unique (h : Reads p key Spells pick) {a a' : α} {head head' t : Text} (ha : EndsIn key Spells a head t)
    (ha' : EndsIn key Spells a' head' t) (hlen : head.length = head'.length) : a = a' := by
  obtain ⟨o, x, rfl, ho, hx⟩ := ha
  obtain ⟨o', x', ht, ho', hx'⟩ := ha'
  obtain ⟨-, hrest⟩ := List.append_inj ht hlen
  obtain ⟨-, rfl⟩ := List.append_inj hrest (ho.length_eq.trans ho'.length_eq.symm)
  exact h.unique hx hx'

variable {t : Text}

theorem find_ne_none (h : Reads p key Spells pick) {a : α} {head : Text} (ha : EndsIn key Spells a head t) :
    (p.first? none (t ++ ['}'])).bind pick ≠ none := by
  obtain ⟨o, x, rfl, ho, hx⟩ := ha
  have hsplit : head ++ (o ++ x) ++ ['}'] = head ++ (o ++ (x ++ ['}'])) := by simp
  have hsome := (first?_isSome_iff h.simple none _).2 ⟨head, _, hsplit, h.ways_ne_nil [] ho hx⟩
  obtain ⟨m, hm⟩ := Option.isSome_iff_exists.1 hsome
  obtain ⟨_, _, -, ⟨w, hw, rfl⟩, -⟩ := first?_eq_some h.simple hm
  obtain ⟨a', _, _, _, -, -, -, hpick⟩ := h.of_mem_ways hw
  rw [hm, Option.bind_some, hpick]
  exact Option.some_ne_none a'

/-- What is found is at the end of the text, and nothing else that is there begins before it. -/
theorem endsIn_of_find (h : Reads p key Spells pick) (hend : EndsOnce (t ++ ['}'])) {a : α}
    (ha : (p.first? none (t ++ ['}'])).bind pick = some a) :
    ∃ head, EndsIn key Spells a head t ∧ ∀ a' head', EndsIn key Spells a' head' t → head.length ≤ head'.length := by
  obtain ⟨m, hm, hpick⟩ := Option.bind_eq_some_iff.1 ha
  obtain ⟨head, _, ht, ⟨w, hw, rfl⟩, hfirst⟩ := first?_eq_some h.simple hm
  obtain ⟨a', o, x, rest, rfl, ho, hx, hpick'⟩ := h.of_mem_ways hw
  obtain rfl : a' = a := Option.some.inj (hpick'.symm.trans hpick)
  obtain ⟨y, rfl⟩ := h.bracket hx
  obtain rfl := hend (head ++ (o ++ y)) rest (by rw [ht]; simp)
  refine ⟨head, ⟨o, y ++ [']'], ?_, ho, hx⟩, ?_⟩
  · refine List.append_cancel_right (ht.trans ?_)
    simp
  · rintro a'' head' ⟨o', x', rfl, ho', hx'⟩
    exact hfirst head' (o' ++ (x' ++ ['}'])) (by simp) (h.ways_ne_nil [] ho' hx')

/-- **What is found** are the arguments of the first tag that the text ends in. -/
theorem find_eq_some (h : Reads p key Spells pick) (hend : EndsOnce (t ++ ['}'])) {a : α} {head : Text}
    (ha : EndsIn key Spells a head t)
    (hfirst : ∀ a' head', EndsIn key Spells a' head' t → head.length ≤ head'.length) :
    (p.first? none (t ++ ['}'])).bind pick = some a := by
  obtain ⟨a', ha'⟩ := Option.ne_none_iff_exists'.1 (h.find_ne_none ha)
  obtain ⟨head', hends, hfirst'⟩ := h.endsIn_of_find hend ha'
  rw [ha', h.endsIn_unique hends ha (Nat.le_antisymm (hfirst' a head ha) (hfirst a' head' hends))]

end Reads

end Clause

end Placeholder
