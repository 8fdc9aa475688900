/-
Tags that are written with a format and a default. Such a tag is found as a whole, with its key and its clause, and
the clause gives the two texts back, in whichever order they stand (`locate_written`).

Two searches have to cut the tag in the same places. The one for the end of the tag goes to the first closing bracket
that a brace follows, and the one for the end of a part goes to the first closing bracket. What is written in a part
may be anything of one line without a closing bracket, braces and openings of tags and of parts included; so the first
closing bracket is always the one of the part, and a brace follows only the last of them.
-/
import Placeholder.Proofs.Tag.Context
import Placeholder.Proofs.Tag.Parts

namespace Placeholder

namespace Clause

open Pattern

namespace Part

/-- A part without its brackets. -/
def inside : Part → Text
  | format spec => formatWord.tail ++ spec
  | default text => defaultWord.tail ++ text

/-- A part as it is written. -/
def text (part : Part) : Text := '[' :: part.inside ++ [']']

theorem text_format (spec : Text) : (format spec).text = formatWord ++ spec ++ [']'] := rfl

theorem text_default (text : Text) : (default text).text = defaultWord ++ text ++ [']'] := rfl

/-- What is written in the part is of one line and has no closing bracket. -/
def IsPlain (part : Part) : Prop := ']' ∉ part.inside ∧ '\n' ∉ part.inside

theorem isPlain_format_iff {spec : Text} : (format spec).IsPlain ↔ ']' ∉ spec ∧ '\n' ∉ spec := by
  have hword : ']' ∉ formatWord.tail ∧ '\n' ∉ formatWord.tail := by decide
  simp only [IsPlain, inside, List.mem_append, hword, false_or]

theorem isPlain_default_iff {text : Text} : (default text).IsPlain ↔ ']' ∉ text ∧ '\n' ∉ text := by
  have hword : ']' ∉ defaultWord.tail ∧ '\n' ∉ defaultWord.tail := by decide
  simp only [IsPlain, inside, List.mem_append, hword, false_or]

theorem length_text (part : Part) : part.text.length = part.size := by
  have hformat : formatWord.length = 8 := rfl
  have hdefault : defaultWord.length = 9 := rfl
  cases part with
  | format spec => rw [text_format, List.length_append, List.length_append, hformat, size, List.length_singleton]
  | default text => rw [text_default, List.length_append, List.length_append, hdefault, size, List.length_singleton]

end Part

/-! ## Reading written parts -/

theorem afterWord?_other (rest : Text) : afterWord? formatWord (defaultWord ++ rest) = none := by
  have hfirst : ¬ (CharSet.literal true 'f').has 'd' = true := by decide +kernel
  have hformat : formatWord = '[' :: 'f' :: formatWord.drop 2 := rfl
  have hdefault : defaultWord = '[' :: 'd' :: defaultWord.drop 2 := rfl
  rw [hformat, hdefault, List.cons_append, afterWord?, if_pos (CharSet.literal_self _), List.cons_append, afterWord?,
    if_neg hfirst]

/-- A written part is the part ahead. -/
theorem partAhead?_text {part : Part} (h : part.IsPlain) (rest : Text) :
    partAhead? (part.text ++ rest) = some part := by
  have hself : ∀ word, Spelled word word := fun _ => spelled_self fun c _ => CharSet.literal_self c
  cases part with
  | format spec =>
    obtain ⟨hbracket, hline⟩ := Part.isPlain_format_iff.1 h
    have hsplit : (Part.format spec).text ++ rest = formatWord ++ (spec ++ ']' :: rest) := by simp [Part.text_format]
    rw [hsplit, partAhead?_format (hself _) hline, ← eq_takeWhile_iff.2 hbracket]
  | default text =>
    obtain ⟨hbracket, hline⟩ := Part.isPlain_default_iff.1 h
    have hsplit : (Part.default text).text ++ rest = defaultWord ++ (text ++ ']' :: rest) := by simp [Part.text_default]
    rw [hsplit, partAhead?, afterWord?_other, afterWord?_eq_some.2 ⟨defaultWord, hself _, rfl⟩,
      Option.bind_some, upToBracket?_takeWhile hline, ← eq_takeWhile_iff.2 hbracket]
    rfl

theorem parts_flatMap_text {ps : List Part} (h : ∀ part ∈ ps, part.IsPlain) : parts (ps.flatMap Part.text) = ps := by
  induction ps with
  | nil => rw [List.flatMap_nil, parts]
  | cons part ps ih =>
    have hhead := partAhead?_text (h part (List.mem_cons_self ..)) (ps.flatMap Part.text)
    rw [List.flatMap_cons, parts_of_partAhead? hhead, ← Part.length_text, List.drop_left,
      ih fun part' hpart' => h part' (List.mem_cons_of_mem part hpart')]

end Clause

namespace Tag

open Clause (Part)

/-! ## Finding written tags -/

/-- The search for the end of a tag passes over all parts but the last. -/
theorem bodyAhead?_parts {u : Text} (hbracket : ']' ∉ u) (hline : '\n' ∉ u) {ps : List Part}
    (h : ∀ part ∈ ps, part.IsPlain) (rest : Text) :
    bodyAhead? ['}'] (u ++ ']' :: (ps.flatMap Part.text ++ '}' :: rest)) = some (u ++ ']' :: ps.flatMap Part.text) := by
  induction ps generalizing u with
  | nil =>
    rw [bodyAhead?_append_of_not_mem hbracket hline, List.flatMap_nil, List.nil_append, bodyAhead?,
      if_pos ⟨rfl, rfl⟩]
    rfl
  | cons part ps ih =>
    obtain ⟨hbracket', hline'⟩ := h part (List.mem_cons_self ..)
    have hrest := ih (u := '[' :: part.inside) (by simpa using hbracket') (by simpa using hline')
      fun part' hpart' => h part' (List.mem_cons_of_mem part hpart')
    have htext : ∀ v,
        (part :: ps).flatMap Part.text ++ v = '[' :: part.inside ++ ']' :: (ps.flatMap Part.text ++ v) := by
      intro v
      simp [Part.text]
    have hnil := htext []
    rw [List.append_nil, List.append_nil] at hnil
    rw [bodyAhead?_append_of_not_mem hbracket hline, htext, bodyAhead?, List.cons_append,
      Text.afterHead?_cons_ne (by decide), if_neg (by simp), if_neg (by decide), ← List.cons_append, hrest, hnil]
    rfl

/-- What may stand between a key and the brackets of its clause. -/
def separators : List Text := [[], ['='], [':']]

theorem clauseAhead?_parts {separator : Text} (hseparator : separator ∈ separators) {ps : List Part} (hne : ps ≠ [])
    (h : ∀ part ∈ ps, part.IsPlain) (rest : Text) :
    clauseAhead? ['}'] (separator ++ ps.flatMap Part.text ++ '}' :: rest) =
      some (separator ++ ps.flatMap Part.text) := by
  obtain ⟨part, ps, rfl⟩ := List.exists_cons_of_ne_nil hne
  obtain ⟨hbracket, hline⟩ := h part (List.mem_cons_self ..)
  have hbody := bodyAhead?_parts hbracket hline (fun part' hpart' => h part' (List.mem_cons_of_mem part hpart')) rest
  have htext : (part :: ps).flatMap Part.text = '[' :: (part.inside ++ ']' :: ps.flatMap Part.text) := by
    simp [Part.text]
  rw [htext]
  simp only [separators, List.mem_cons, List.not_mem_nil, or_false] at hseparator
  rcases hseparator with rfl | rfl | rfl
  · simp [clauseAhead?, hbody]
  · simp [clauseAhead?, Text.afterHead?, hbody]
  · simp [clauseAhead?, Text.afterHead?, hbody]

/-- A key and a clause between the opening and the closing text are a tag. -/
theorem recognise?_clause {closing k x rest : Text} (h : IsKey k)
    (hx : clauseAhead? closing (x ++ closing ++ rest) = some x) (opening : Text) :
    recognise? opening closing (opening ++ k ++ x ++ closing ++ rest) =
      some ⟨opening ++ k ++ x ++ closing, k, some x⟩ := by
  have hsplit : opening ++ k ++ x ++ closing ++ rest = opening ++ (k ++ (x ++ closing ++ rest)) := by simp
  rw [hsplit, recognise?, Text.afterHead?_append]
  simp only [Option.bind_eq_bind, Option.bind_some, h.keyAhead_of_clauseAhead? hx, h.ne_nil, if_false, List.drop_left,
    hx]

/-- A tag with written parts is found, and it is all that is found in its text. -/
theorem locate_parts {key separator : Text} (hkey : IsKey key) (hseparator : separator ∈ separators) {ps : List Part}
    (hne : ps ≠ []) (h : ∀ part ∈ ps, part.IsPlain) :
    let clause := separator ++ ps.flatMap Part.text
    let t := ['$', '{'] ++ key ++ clause ++ ['}']
    locate livePattern t = [⟨⟨t, key, some clause⟩, 0, Text.byteSize t⟩] := by
  intro clause t
  have hclause : clauseAhead? ['}'] (clause ++ ['}'] ++ []) = some clause := by
    rw [List.append_nil]
    exact clauseAhead?_parts hseparator hne h []
  have hg := recognise?_clause hkey hclause ['$', '{']
  have hcut := (readsBack hg).cut_append []
  rw [List.append_nil, cut_nil] at hcut
  rw [locate, livePattern_delimited.segments_eq_cut, hcut, locateFrom, locateFrom, Nat.zero_add]

theorem read_parts {separator : Text} (hseparator : separator ∈ separators) {ps : List Part}
    (h : ∀ part ∈ ps, part.IsPlain) :
    Clause.read (separator ++ ps.flatMap Part.text) = ⟨ps.findSome? Part.format?, ps.findSome? Part.default?⟩ := by
  have hopening : '[' ∉ separator := by
    simp only [separators, List.mem_cons, List.not_mem_nil, or_false] at hseparator
    rcases hseparator with rfl | rfl | rfl <;> decide
  rw [Clause.read_eq_parts, Clause.parts_of_no_opening hopening, Clause.parts_flatMap_text h]

/-- **A tag that is written with a format and a default** is found as a whole, with its key, and its clause gives the
format and the default back, in whichever order they are written. -/
theorem locate_written {key separator format default : Text} (hkey : IsKey key) (hseparator : separator ∈ separators)
    (hformat : ']' ∉ format ∧ '\n' ∉ format) (hdefault : ']' ∉ default ∧ '\n' ∉ default) {segments : Text}
    (hsegments : segments = Clause.formatWord ++ format ++ [']'] ++ (Clause.defaultWord ++ default ++ [']']) ∨
      segments = Clause.defaultWord ++ default ++ [']'] ++ (Clause.formatWord ++ format ++ [']'])) :
    let t := ['$', '{'] ++ key ++ (separator ++ segments) ++ ['}']
    ∃ g : Tag, locate livePattern t = [⟨g, 0, Text.byteSize t⟩] ∧ g.raw = t ∧ g.var = key ∧
      g.key = Unicode.toLower key ∧ g.extended = some (separator ++ segments) ∧
      Clause.read (separator ++ segments) = ⟨some format, some default⟩ := by
  have hplain := Part.isPlain_format_iff.2 hformat
  have hplain' := Part.isPlain_default_iff.2 hdefault
  obtain ⟨ps, hne, hps, hread, rfl⟩ : ∃ ps : List Part, ps ≠ [] ∧ (∀ part ∈ ps, part.IsPlain) ∧
      (ps.findSome? Part.format? = some format ∧ ps.findSome? Part.default? = some default) ∧
      segments = ps.flatMap Part.text := by
    rcases hsegments with rfl | rfl
    · refine ⟨[.format format, .default default], List.cons_ne_nil _ _, ?_, ⟨rfl, rfl⟩, ?_⟩
      · simp [hplain, hplain']
      · simp [Part.text_format, Part.text_default]
    · refine ⟨[.default default, .format format], List.cons_ne_nil _ _, ?_, ⟨rfl, rfl⟩, ?_⟩
      · simp [hplain, hplain']
      · simp [Part.text_format, Part.text_default]
  refine ⟨_, locate_parts hkey hseparator hne hps, rfl, rfl, rfl, rfl, ?_⟩
  rw [read_parts hseparator hps, hread.1, hread.2]

/-- The default looks like the end of the tag and the start of another format. -/
theorem locate_written_openings :
    let clause := [':'] ++ (Clause.defaultWord ++ (['}'] ++ Clause.formatWord) ++ [']'] ++
      (Clause.formatWord ++ ['$', '{', 'x'] ++ [']']))
    let t := ['$', '{'] ++ ['a', ':', 'B'] ++ clause ++ ['}']
    (∃ g, locate livePattern t = [⟨g, 0, Text.byteSize t⟩] ∧ g.key = ['a', ':', 'b']) ∧
      Clause.read clause = ⟨some ['$', '{', 'x'], some (['}'] ++ Clause.formatWord)⟩ := by
  have hkey : IsKey ['a', ':', 'B'] :=
    ⟨List.all_eq_true.1 (by decide +kernel), ⟨'a', rfl, by decide +kernel⟩, ⟨'B', rfl, by decide +kernel⟩⟩
  have hlower : Unicode.toLower ['a', ':', 'B'] = ['a', ':', 'b'] := by decide +kernel
  have hseparator : [':'] ∈ separators := by decide
  have hformat : ']' ∉ ['$', '{', 'x'] ∧ '\n' ∉ ['$', '{', 'x'] := by decide
  have hdefault : ']' ∉ ['}'] ++ Clause.formatWord ∧ '\n' ∉ ['}'] ++ Clause.formatWord := by decide
  obtain ⟨g, hlocate, -, -, hg, -, hread⟩ := locate_written hkey hseparator hformat hdefault (.inr rfl)
  exact ⟨⟨g, hlocate, hg.trans hlower⟩, hread⟩

end Tag

end Placeholder
