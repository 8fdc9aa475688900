/-
Texts that an expansion only puts into their end form, since no live tag is in them. Escaped tags are such
texts, so a text whose live tags are escaped comes out as it was before (`parse_escape`), whatever the values.

That is so of escaped tags without a clause. The clause of an escaped tag may have live tags in it, and these are
resolved like any others; the escaped tags of a text are inert only if there are none (`parse_eq_unescape_iff`).
-/
import Placeholder.Proofs.Expansion.Passes
import Placeholder.Proofs.Tag.Enclosed

namespace Placeholder.Builder

variable {b : Builder}

/-- Without live tags there is no pass, so no source is asked and no pass is counted. -/
theorem parse_of_no_tags {t : Text} (ht : t ≠ []) (h : Tag.all b.pattern t = []) (sources : Sources) (strict : Bool) :
    b.parse sources strict t = .ok (b.finish true t) := by
  rw [parse_of_reaches ht (Nat.zero_add _).symm .refl, passes_settled h]
  rfl

/-- **Escaping protects tags.** If a text has no escaped tag, and none of its live tags has a clause, then with
its live tags escaped it has none, and every expansion gives the text back. -/
theorem parse_escape (hb : b.pattern = Tag.livePattern) (hunescape : b.options.unescapeOnFirstPass = true)
    {t : Text} (ht : t ≠ []) (hescaped : Tag.all Tag.escapedPattern t = [])
    (hclauses : ∀ g ∈ Tag.all Tag.livePattern t, g.extended = none) :
    Tag.all Tag.livePattern (Tag.escape t) = [] ∧
      ∀ sources strict, b.parse sources strict (Tag.escape t) = .ok t := by
  have hnone := Tag.all_escape hescaped hclauses
  have hback := Tag.unescape_escape hescaped hclauses
  refine ⟨hnone, fun sources strict => ?_⟩
  have hne : Tag.escape t ≠ [] := by
    intro h
    rw [h, Tag.unescape_of_no_dollar List.not_mem_nil] at hback
    exact ht hback.symm
  rw [parse_of_no_tags hne (by rw [hb, hnone]), finish, hunescape, hback]
  rfl

/-- A tag between a dollar sign and braces, and brackets behind it. -/
theorem parse_escape_among_braces :
    Tag.escape ['$', '$', '{', 'a', '}', '}', '[', ']'] =
      ['$', '$', '$', '{', '{', 'a', '}', '}', '}', '[', ']'] ∧
    Tag.all Tag.livePattern ['$', '$', '$', '{', '{', 'a', '}', '}', '}', '[', ']'] = [] ∧
    ∀ sources strict,
      ({ options := { maxPasses := 0 } } : Builder).parse sources strict
        ['$', '$', '$', '{', '{', 'a', '}', '}', '}', '[', ']'] =
      .ok ['$', '$', '{', 'a', '}', '}', '[', ']'] := by
  let t : Text := ['$', '$', '{', 'a', '}', '}', '[', ']']
  have hsegs : Tag.segments Tag.livePattern t =
      .plain '$' :: .tag ⟨['$', '{', 'a', '}'], ['a'], none⟩ :: ['}', '[', ']'].map .plain := by
    rw [Tag.livePattern_delimited.segments_eq_cut]
    cbv
  have hescape : Tag.escape t = ['$', '$', '$', '{', '{', 'a', '}', '}', '}', '[', ']'] := by
    rw [Tag.escape, hsegs]
    simp [Tag.Segment.escaped]
  have hescaped : Tag.all Tag.escapedPattern t = [] := by
    rw [Tag.all, Tag.escapedPattern_delimited.segments_eq_cut]
    simp [t, Tag.cut, Tag.recognise?, Text.afterHead?, Tag.Segment.tag?]
  have hclauses : ∀ g ∈ Tag.all Tag.livePattern t, g.extended = none := by
    have hall : Tag.all Tag.livePattern t = [⟨['$', '{', 'a', '}'], ['a'], none⟩] := by
      rw [Tag.all, hsegs]
      rfl
    simp [hall]
  have hall := parse_escape (b := { options := { maxPasses := 0 } }) rfl rfl (by decide) hescaped hclauses
  rw [hescape] at hall
  exact ⟨hescape, hall⟩

/-! ## Escaped tags with clauses -/

/-- **Escaped tags are inert** as long as no live tag stands in them. Let no live tag open outside of the escaped
tags of a text. Then every expansion only restores them, whatever the sources and the number of passes, if and
only if none of them has a live tag inside. -/
theorem parse_eq_unescape_iff {t : Text} (ht : t ≠ []) (h : Tag.NoOpeningOutside t) :
    (∀ b : Builder, b.pattern = Tag.livePattern → b.options.unescapeOnFirstPass = true →
      ∀ sources strict, b.parse sources strict t = .ok (Tag.unescape t)) ↔
    ∀ g ∈ Tag.all Tag.escapedPattern t, Tag.all Tag.livePattern g.raw = [] := by
  rw [← List.flatMap_eq_nil_iff, ← Tag.all_live_of_enclosed h]
  constructor
  · intro hall
    -- Where no pass is allowed, a text with a live tag comes to nothing.
    refine Classical.byContradiction fun hlive => ?_
    have hparse := hall { options := { maxPasses := 0 } } rfl rfl {} true
    rw [parse_of_reaches ht (Nat.zero_add _).symm .refl, passes_limit hlive] at hparse
    cases hparse
  · intro hnone b hb hunescape sources strict
    rw [parse_of_no_tags ht (by rw [hb, hnone]), finish, hunescape]
    rfl

/-- A live tag opens in the clause, and has no key. -/
theorem parse_opening_in_escaped :
    Tag.NoOpeningOutside ['{', '$', '$', '{', '{', 'k', '[', '$', '{', '}', ']', '}', '}', '$'] ∧
    ∀ b : Builder, b.pattern = Tag.livePattern → b.options.unescapeOnFirstPass = true → ∀ sources strict,
      b.parse sources strict ['{', '$', '$', '{', '{', 'k', '[', '$', '{', '}', ']', '}', '}', '$'] =
        .ok ['{', '$', '{', 'k', '}', '$'] := by
  let t : Text := ['{', '$', '$', '{', '{', 'k', '[', '$', '{', '}', ']', '}', '}', '$']
  let g : Tag := ⟨['$', '$', '{', '{', 'k', '[', '$', '{', '}', ']', '}', '}'], ['k'], some ['[', '$', '{', '}', ']']⟩
  have hescaped : Tag.segments Tag.escapedPattern t = [.plain '{', .tag g, .plain '$'] := by
    rw [Tag.escapedPattern_delimited.segments_eq_cut]
    cbv
  have houtside : Tag.NoOpeningOutside t := by
    rw [Tag.NoOpeningOutside, hescaped]
    decide
  have hrestored : Tag.unescape t = ['{', '$', '{', 'k', '}', '$'] := by
    rw [Tag.unescape, hescaped]
    rfl
  have hlive : Tag.segments Tag.livePattern g.raw = g.raw.map .plain := by
    rw [Tag.livePattern_delimited.segments_eq_cut]
    decide +kernel
  have hinside : ∀ g ∈ Tag.all Tag.escapedPattern t, Tag.all Tag.livePattern g.raw = [] := by
    have hall : Tag.all Tag.escapedPattern t = [g] := by
      rw [Tag.all, hescaped]
      rfl
    simp only [hall, List.mem_singleton, forall_eq]
    rw [Tag.all, hlive]
    rfl
  refine ⟨houtside, ?_⟩
  rw [← hrestored]
  exact (parse_eq_unescape_iff (by decide) houtside).2 hinside

/-- A live tag with a key stands in the clause, and without a value for it the escaped tag is not restored. -/
theorem parse_live_in_escaped :
    let t : Text := ['$', '$', '{', '{', 'k', '[', '$', '{', 'x', '}', ']', '}', '}']
    t ≠ [] ∧ Tag.NoOpeningOutside t ∧ Tag.unescape t = ['$', '{', 'k', '}'] ∧
      ({} : Builder).parse {} true t = .error (.unresolved [['$', '{', 'x', '}']]) := by
  intro t
  have hescaped : Tag.segments Tag.escapedPattern t = [.tag ⟨t, ['k'], some ['[', '$', '{', 'x', '}', ']']⟩] := by
    rw [Tag.escapedPattern_delimited.segments_eq_cut]
    cbv
  have hlive : Tag.segments Tag.livePattern t =
      [.plain '$', .plain '$', .plain '{', .plain '{', .plain 'k', .plain '[',
        .tag ⟨['$', '{', 'x', '}'], ['x'], none⟩, .plain ']', .plain '}', .plain '}'] := by
    rw [Tag.livePattern_delimited.segments_eq_cut]
    decide +kernel
  have hall : Tag.all Tag.livePattern t = [⟨['$', '{', 'x', '}'], ['x'], none⟩] := by
    rw [Tag.all, hlive]
    rfl
  have hpass : ({} : Builder).substitute {} t {} = .ok (t, {}) := by
    rw [substitute, hlive]
    rfl
  refine ⟨by decide, ?_, ?_, ?_⟩
  · rw [Tag.NoOpeningOutside, hescaped]
    decide
  · rw [Tag.unescape, hescaped]
    rfl
  · rw [parse_of_reaches (by decide) (Nat.zero_add _).symm .refl, passes_unchanged (by rw [hall]; decide) hpass, hall]
    rfl

end Placeholder.Builder
