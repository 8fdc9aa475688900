/-
Texts that can be put together without harm. If no dollar sign stands outside the tags of some texts, and no
tag in them has a clause, then the tags of the whole are the tags of its parts (`segments_flatMap_raw`).

Nothing else needs to be asked of the parts: a tag begins with a dollar sign, so none begins outside the
tags there are, and a key ends at its brace whatever comes behind. A clause would be another matter, for
its end is looked for as far as the line goes.
-/
import Placeholder.Proofs.Tag.Scan

namespace Placeholder.Tag

/-- A segment that stays what it is among others: no dollar sign, and no tag with a clause. -/
def Segment.Steady : Segment → Prop
  | .plain c => c ≠ '$'
  | .tag g => Between ['$', '{'] ['}'] g ∧ g.extended = none

/-- The raw text of a tag without a clause tells the tag. -/
theorem Segment.Steady.eq_of_raw_eq {g g' : Tag} (h : (Segment.tag g).Steady) (h' : (Segment.tag g').Steady)
    (hraw : g.raw = g'.raw) : g = g' := by
  obtain ⟨raw, var, extended⟩ := g
  obtain ⟨raw', var', extended'⟩ := g'
  obtain ⟨⟨-, htext⟩, hextended⟩ := h
  obtain ⟨⟨-, htext'⟩, hextended'⟩ := h'
  simp only at hraw htext hextended htext' hextended'
  subst hraw hextended hextended'
  rw [htext] at htext'
  simpa using htext'

theorem cut_cons_ne {opening closing t : Text} {c d : Char} (h : c ≠ d) :
    cut (d :: opening) closing (c :: t) = .plain c :: cut (d :: opening) closing t := by
  rw [cut, recognise?, Text.afterHead?_cons_ne h]
  rfl

/-- A key between the opening and the closing text is a tag, whatever stands behind it. -/
theorem recognise?_key {k : Text} (h : IsKey k) (opening closing rest : Text) :
    recognise? opening ('}' :: closing) (opening ++ k ++ '}' :: closing ++ rest) =
      some ⟨opening ++ k ++ '}' :: closing, k, none⟩ := by
  have hsplit : opening ++ k ++ '}' :: closing ++ rest = opening ++ (k ++ '}' :: (closing ++ rest)) := by simp
  have hkey : keyAhead (k ++ '}' :: (closing ++ rest)) = k := h.keyAhead_append fun c hc => by
    rw [List.head?_cons, Option.mem_some] at hc
    subst hc
    decide
  have hclause : clauseAhead? ('}' :: closing) ('}' :: (closing ++ rest)) = none := by
    rw [clauseAhead?, if_neg (by decide), if_neg (by decide)]
  rw [hsplit, recognise?, Text.afterHead?_append]
  simp only [Option.bind_eq_bind, Option.bind_some, hkey, h.ne_nil, if_false, List.drop_left, hclause]
  rw [Text.afterHead?, if_pos rfl, Text.afterHead?_append, Option.isSome_some, if_pos rfl]

/-- A tag without a clause is recognised whatever stands behind it. -/
theorem recognise?_append {g : Tag} (h : Between ['$', '{'] ['}'] g) (hextended : g.extended = none) (rest : Text) :
    recognise? ['$', '{'] ['}'] (g.raw ++ rest) = some g := by
  obtain ⟨raw, var, extended⟩ := g
  obtain ⟨hkey, hraw⟩ := h
  simp only at hextended hraw hkey
  rw [hextended, Option.getD_none, List.append_nil] at hraw
  rw [hextended, hraw]
  exact recognise?_key hkey ['$', '{'] [] rest

/-- **The tags of a text that is put together** are those of its parts. -/
theorem segments_flatMap_raw {segs : List Segment} (h : ∀ s ∈ segs, s.Steady) :
    segments livePattern (segs.flatMap Segment.raw) = segs := by
  rw [livePattern_delimited.segments_eq_cut]
  induction segs with
  | nil => rw [List.flatMap_nil, cut]
  | cons s segs ih =>
    have hs := h s (List.mem_cons_self ..)
    have hrest := ih fun s' hs' => h s' (List.mem_cons_of_mem s hs')
    rw [List.flatMap_cons]
    cases s with
    | plain c =>
      rw [Segment.raw, List.singleton_append, cut_cons_ne hs, hrest]
    | tag g =>
      obtain ⟨hbetween, hextended⟩ := hs
      obtain ⟨d, raw, hd⟩ := List.exists_cons_of_ne_nil hbetween.raw_ne_nil
      have hg := recognise?_append hbetween hextended (segs.flatMap Segment.raw)
      have hlen : g.raw.length - 1 = raw.length := by rw [hd, List.length_cons, Nat.add_sub_cancel]
      rw [hd, List.cons_append] at hg
      rw [Segment.raw, hd, List.cons_append, cut, hg]
      simp only [hlen, List.drop_left, hrest]

theorem flatMap_raw_map_plain (t : Text) : (t.map Segment.plain).flatMap Segment.raw = t := by
  rw [List.flatMap_map]
  exact List.flatMap_singleton' t

theorem segments_of_no_dollar {t : Text} (h : '$' ∉ t) : segments livePattern t = t.map .plain := by
  have hsteady : ∀ s ∈ t.map Segment.plain, s.Steady := by
    intro s hs
    obtain ⟨c, hc, rfl⟩ := List.mem_map.1 hs
    rintro rfl
    exact h hc
  rw [← segments_flatMap_raw hsteady, flatMap_raw_map_plain]

theorem all_of_no_dollar {t : Text} (h : '$' ∉ t) : all livePattern t = [] := by
  rw [all, segments_of_no_dollar h, List.filterMap_map]
  exact List.filterMap_eq_nil_iff.2 fun c _ => rfl

/-- Without a dollar sign there is no escaped tag to restore. -/
theorem unescape_of_no_dollar {t : Text} (h : '$' ∉ t) : unescape t = t := by
  rw [unescape, escapedPattern_delimited.segments_eq_cut]
  induction t with
  | nil => rw [cut]; rfl
  | cons c t ih =>
    rw [List.mem_cons, not_or] at h
    rw [cut_cons_ne (Ne.symm h.1), List.flatMap_cons, ih h.2]
    rfl

theorem mem_all {p : Pattern} {t : Text} {g : Tag} : g ∈ all p t ↔ .tag g ∈ segments p t := by
  rw [all, List.mem_filterMap]
  constructor
  · rintro ⟨s, hs, hg⟩
    cases s with
    | plain c => cases hg
    | tag g' =>
      cases hg
      exact hs
  · exact fun h => ⟨.tag g, h, rfl⟩

end Placeholder.Tag
