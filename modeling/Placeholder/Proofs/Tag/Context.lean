/-
Tags and what stands around them. A tag is told by its raw text alone: whatever stands behind it, it is
read back (`ReadsBack`), so one raw text is one tag. And a text without closing braces behind, or one without
dollar signs in front, brings no tag and takes none away (`segments_surround`, `unescape_surround`).

The work is with the ends of keys and clauses, which are looked for to the right. A key stops at the first
character that is none of a key, a clause at the first bracket that the closing text follows, and both stand
in the raw text already.
-/
import Placeholder.Proofs.Tag.Splice

namespace Placeholder

namespace Text

/-- Whether a text starts with `head` can be told from a part that is long enough. -/
theorem isSome_afterHead?_append {head t : Text} (h : head.length ≤ t.length) (rest : Text) :
    (afterHead? head (t ++ rest)).isSome = (afterHead? head t).isSome := by
  induction head generalizing t with
  | nil => simp [afterHead?]
  | cons c head ih =>
    cases t with
    | nil => simp at h
    | cons d t =>
      simp only [List.length_cons, Nat.add_le_add_iff_right] at h
      rw [List.cons_append, afterHead?, afterHead?]
      split
      · exact ih h
      · rfl

end Text

namespace Tag

/-! ## Tags are read back -/

/-- A tag that is recognised from its raw text, whatever stands behind it. -/
def ReadsBack (opening closing : Text) (g : Tag) : Prop :=
  ∀ rest, recognise? opening closing (g.raw ++ rest) = some g

theorem keyAhead_append {u : Text} (h : ∃ c ∈ u, isKeyChar c = false) (rest : Text) :
    keyAhead (u ++ rest) = keyAhead u := by
  have hstop : (u.takeWhile isKeyChar).length ≠ u.length := by
    obtain ⟨c, hc, hkey⟩ := h
    intro hlen
    have hall : u.takeWhile isKeyChar = u := (List.takeWhile_prefix isKeyChar).eq_of_length hlen
    rw [← hall] at hc
    have := List.all_eq_true.1 List.all_takeWhile c hc
    rw [hkey] at this
    cases this
  cases u with
  | nil => simp at h
  | cons c u =>
    rw [List.cons_append, keyAhead, keyAhead, ← List.cons_append, List.takeWhile_append, if_neg hstop]

theorem ne_nil_of_bodyAhead? {closing t b : Text} (h : bodyAhead? closing t = some b) : b ≠ [] := by
  rintro rfl
  cases t with
  | nil => cases h
  | cons c t =>
    rw [bodyAhead?] at h
    split at h
    · cases h
    · split at h
      · cases h
      · obtain ⟨b, _, hb⟩ := Option.map_eq_some_iff.1 h
        cases hb

theorem ne_nil_of_clauseAhead? {closing t x : Text} (h : clauseAhead? closing t = some x) : x ≠ [] := by
  rintro rfl
  cases t with
  | nil => cases h
  | cons c t =>
    rw [clauseAhead?] at h
    split at h
    · obtain ⟨b, _, hb⟩ := Option.map_eq_some_iff.1 h
      cases hb
    · split at h
      · obtain ⟨_, _, h⟩ := Option.bind_eq_some_iff.1 h
        obtain ⟨b, _, hb⟩ := Option.map_eq_some_iff.1 h
        cases hb
      · cases h

theorem bodyAhead?_append {closing b rest : Text} (h : bodyAhead? closing (b ++ closing ++ rest) = some b)
    (rest' : Text) : bodyAhead? closing (b ++ closing ++ rest') = some b := by
  induction b with
  | nil => exact absurd rfl (ne_nil_of_bodyAhead? h)
  | cons c b ih =>
    -- What follows `c` up to the end of the closing text stands in front of both rests.
    have hsame : (Text.afterHead? closing (b ++ closing ++ rest')).isSome =
        (Text.afterHead? closing (b ++ closing ++ rest)).isSome := by
      have hlen : closing.length ≤ (b ++ closing).length := by
        rw [List.length_append]
        omega
      rw [Text.isSome_afterHead?_append hlen, Text.isSome_afterHead?_append hlen]
    rw [List.cons_append, List.cons_append, bodyAhead?] at h ⊢
    rw [hsame]
    split at h
    next hend =>
      rw [if_pos hend]
      exact h
    next hend =>
      rw [if_neg hend]
      split at h
      next => cases h
      next hline =>
        rw [if_neg hline]
        obtain ⟨b', hb', heq⟩ := Option.map_eq_some_iff.1 h
        rw [List.cons.injEq] at heq
        rw [heq.2] at hb'
        rw [ih hb', Option.map_some]

theorem clauseAhead?_append {closing x rest : Text} (h : clauseAhead? closing (x ++ closing ++ rest) = some x)
    (rest' : Text) : clauseAhead? closing (x ++ closing ++ rest') = some x := by
  cases x with
  | nil => exact absurd rfl (ne_nil_of_clauseAhead? h)
  | cons c x =>
    rw [List.cons_append, List.cons_append, clauseAhead?] at h ⊢
    split at h
    next hbracket =>
      rw [if_pos hbracket]
      obtain ⟨b, hb, heq⟩ := Option.map_eq_some_iff.1 h
      rw [List.cons.injEq] at heq
      rw [heq.2] at hb
      rw [bodyAhead?_append hb, Option.map_some]
    next hbracket =>
      rw [if_neg hbracket]
      split at h
      next hsign =>
        rw [if_pos hsign]
        obtain ⟨body, hbody, h⟩ := Option.bind_eq_some_iff.1 h
        obtain ⟨b, hb, heq⟩ := Option.map_eq_some_iff.1 h
        rw [List.cons.injEq] at heq
        obtain ⟨-, rfl⟩ := heq
        have hbody' := Text.afterHead?_eq_some.1 hbody
        simp only [List.cons_append, List.nil_append, List.cons.injEq, true_and] at hbody'
        rw [← hbody'] at hb
        simp only [List.cons_append, Text.afterHead?, if_true, Option.bind_some, bodyAhead?_append hb, Option.map_some]
      next => cases h

/-- **A tag is read back from its raw text**, whatever stands behind it. -/
theorem readsBack {opening closing t : Text} {g : Tag} (h : recognise? opening ('}' :: closing) t = some g) :
    ReadsBack opening ('}' :: closing) g := by
  intro rest'
  obtain ⟨⟨hkey, hraw⟩, rest, rfl⟩ := recognise?_eq_some h
  -- The key stops in the raw text, at the closing brace if not before.
  have hstop : ∃ c ∈ g.var ++ g.extended.getD [] ++ '}' :: closing, isKeyChar c = false :=
    ⟨'}', by simp, isKeyChar_brace⟩
  have hsame : keyAhead (g.var ++ g.extended.getD [] ++ '}' :: closing ++ rest') =
      keyAhead (g.var ++ g.extended.getD [] ++ '}' :: closing ++ rest) := by
    rw [keyAhead_append hstop, keyAhead_append hstop]
  have hsplit : ∀ r, g.raw ++ r = opening ++ (g.var ++ g.extended.getD [] ++ '}' :: closing ++ r) := by
    intro r
    rw [hraw]
    simp
  rw [hsplit, recognise?, Text.afterHead?_append] at h ⊢
  simp only [Option.bind_eq_bind, Option.bind_some, hsame] at h ⊢
  split at h
  next => cases h
  next hne =>
    rw [if_neg hne]
    have hvar : keyAhead (g.var ++ g.extended.getD [] ++ '}' :: closing ++ rest) = g.var := by
      split at h
      next => exact congrArg Tag.var (Option.some.inj h)
      next =>
        split at h
        · exact congrArg Tag.var (Option.some.inj h)
        · cases h
    have hdrop : ∀ r, (g.var ++ g.extended.getD [] ++ '}' :: closing ++ r).drop g.var.length =
        g.extended.getD [] ++ '}' :: closing ++ r := by
      intro r
      rw [List.append_assoc, List.append_assoc, List.drop_left, List.append_assoc]
    rw [hvar, hdrop] at h ⊢
    split at h
    next clause hclause =>
      have hextended : g.extended = some clause := (congrArg Tag.extended (Option.some.inj h)).symm
      rw [hextended, Option.getD_some] at hclause ⊢
      rw [clauseAhead?_append hclause]
      exact h
    next hclause =>
      split at h
      next hclosing =>
        have hextended : g.extended = none := (congrArg Tag.extended (Option.some.inj h)).symm
        have hno : clauseAhead? ('}' :: closing) ('}' :: (closing ++ rest')) = none := by
          rw [clauseAhead?, if_neg (by decide), if_neg (by decide)]
        rw [hextended, Option.getD_none, List.nil_append, List.cons_append, hno]
        simp only [Text.afterHead?, if_true, Text.afterHead?_append, Option.isSome_some]
        exact h
      next => cases h

/-- One raw text is one tag. -/
theorem ReadsBack.eq_of_raw_eq {opening closing : Text} {g g' : Tag} (h : ReadsBack opening closing g)
    (h' : ReadsBack opening closing g') (hraw : g.raw = g'.raw) : g = g' := by
  have hg := h []
  rw [hraw, h' []] at hg
  exact (Option.some.inj hg).symm

theorem ReadsBack.raw_ne_nil {opening closing : Text} {g : Tag} (h : ReadsBack opening ('}' :: closing) g) :
    g.raw ≠ [] := (recognise?_eq_some (h [])).1.raw_ne_nil

theorem cut_nil (opening closing : Text) : cut opening closing [] = [] := by
  rw [cut]

theorem cut_plain {opening closing t : Text} {c : Char} (h : recognise? opening closing (c :: t) = none) :
    cut opening closing (c :: t) = .plain c :: cut opening closing t := by
  rw [cut, h]

theorem ReadsBack.cut_append {opening closing : Text} {g : Tag} (h : ReadsBack opening ('}' :: closing) g)
    (rest : Text) :
    cut opening ('}' :: closing) (g.raw ++ rest) = .tag g :: cut opening ('}' :: closing) rest := by
  obtain ⟨c, raw, hraw⟩ := List.exists_cons_of_ne_nil h.raw_ne_nil
  have hg := h rest
  have hlen : g.raw.length - 1 = raw.length := by rw [hraw, List.length_cons, Nat.add_sub_cancel]
  rw [hraw, List.cons_append] at hg ⊢
  rw [cut, hg]
  simp only [hlen, List.drop_left]

/-- Walks through a text as it is cut: by a tag where one is recognised, and elsewhere by a character. -/
@[elab_as_elim]
theorem cut_induction (opening closing : Text) {motive : Text → Prop} (nil : motive [])
    (tag : ∀ g rest, ReadsBack opening ('}' :: closing) g → motive rest → motive (g.raw ++ rest))
    (plain : ∀ c t, recognise? opening ('}' :: closing) (c :: t) = none → motive t → motive (c :: t)) (t : Text) :
    motive t := by
  fun_induction cut opening ('}' :: closing) t with
  | case1 => exact nil
  | case2 c t g hg ih =>
    obtain ⟨-, rest, hrest⟩ := recognise?_eq_some hg
    obtain ⟨d, raw, hraw⟩ := List.exists_cons_of_ne_nil (readsBack hg).raw_ne_nil
    have hdrop : t.drop (g.raw.length - 1) = rest := by
      rw [hraw, List.cons_append, List.cons.injEq] at hrest
      rw [hraw, List.length_cons, Nat.add_sub_cancel, hrest.2, List.drop_left]
    rw [hdrop] at ih
    rw [hrest]
    exact tag g rest (readsBack hg) ih
  | case3 c t hg ih => exact plain c t hg ih

theorem readsBack_of_mem_cut {opening closing t : Text} {g : Tag}
    (h : .tag g ∈ cut opening ('}' :: closing) t) : ReadsBack opening ('}' :: closing) g := by
  induction t using cut_induction opening closing with
  | nil => simp [cut] at h
  | tag g' rest hg ih =>
    rw [hg.cut_append] at h
    rcases List.mem_cons.1 h with heq | h
    · cases heq
      exact hg
    · exact ih h
  | plain c t hc ih =>
    rw [cut_plain hc] at h
    rcases List.mem_cons.1 h with heq | h
    · cases heq
    · exact ih h

theorem readsBack_of_mem_all {t : Text} {g : Tag} (h : g ∈ all livePattern t) : ReadsBack ['$', '{'] ['}'] g := by
  rw [mem_all, livePattern_delimited.segments_eq_cut] at h
  exact readsBack_of_mem_cut h

/-! ## Surroundings -/

section Surroundings

variable {opening closing s : Text}

/-- A tag ends before a text that has no character of its closing text. -/
theorem recognise?_append_eq (hs : ∀ c ∈ '}' :: closing, c ∉ s) (t : Text) :
    recognise? opening ('}' :: closing) (t ++ s) = recognise? opening ('}' :: closing) t := by
  cases h : recognise? opening ('}' :: closing) t with
  | some g =>
    obtain ⟨-, rest, rfl⟩ := recognise?_eq_some h
    rw [List.append_assoc]
    exact readsBack h (rest ++ s)
  | none =>
    cases hlong : recognise? opening ('}' :: closing) (t ++ s) with
    | none => rfl
    | some g =>
      obtain ⟨⟨-, hraw⟩, rest, hrest⟩ := recognise?_eq_some hlong
      -- A tag that reaches into `s` would end there, with the last character of its closing text.
      rcases List.append_eq_append_iff.1 hrest with ⟨a, ha, hb⟩ | ⟨a, ha, -⟩
      · cases ha' : a.getLast? with
        | none =>
          rw [List.getLast?_eq_none_iff] at ha'
          rw [ha', List.append_nil] at ha
          have hback := readsBack hlong []
          rw [List.append_nil, ha, h] at hback
          cases hback
        | some c =>
          have hlast : ('}' :: closing).getLast? = some c := by
            have hend := congrArg List.getLast? ha
            rw [hraw, List.getLast?_append, List.getLast?_append (l := t), ha', Option.some_or] at hend
            rw [List.getLast?_cons, Option.some_or] at hend
            rw [List.getLast?_cons, hend]
          have hmem : c ∈ s := by
            rw [hb]
            exact List.mem_append_left rest (List.mem_of_getLast? ha')
          exact absurd hmem (hs c (List.mem_of_getLast? hlast))
      · rw [ha, readsBack hlong a] at h
        cases h

theorem cut_append (hs : ∀ c ∈ '}' :: closing, c ∉ s) (t : Text) :
    cut opening ('}' :: closing) (t ++ s) = cut opening ('}' :: closing) t ++ s.map .plain := by
  induction t using cut_induction opening closing with
  | nil =>
    have hnone : ∀ u, u <:+ s → recognise? opening ('}' :: closing) u = none := by
      intro u hu
      have hu' : ∀ c ∈ '}' :: closing, c ∉ u := fun c hc hmem => hs c hc (hu.subset hmem)
      rw [← List.nil_append u, recognise?_append_eq hu']
      cases opening <;> simp [recognise?, Text.afterHead?, keyAhead]
    rw [List.nil_append, cut_nil, List.nil_append]
    clear hs
    induction s with
    | nil => rw [cut]; rfl
    | cons c s ih =>
      rw [cut_plain (hnone _ (List.suffix_refl _)), ih fun u hu => hnone u (hu.trans (List.suffix_cons c s))]
      rfl
  | tag g rest hg ih =>
    rw [List.append_assoc, hg.cut_append, hg.cut_append, ih]
    rfl
  | plain c t hc ih =>
    have hlong := @recognise?_append_eq opening closing s hs (c :: t)
    rw [hc, List.cons_append] at hlong
    rw [List.cons_append, cut_plain hlong, cut_plain hc, ih]
    rfl

theorem cut_plain_append {p : Text} (hp : '$' ∉ p) (closing t : Text) :
    cut ('$' :: opening) closing (p ++ t) = p.map .plain ++ cut ('$' :: opening) closing t := by
  induction p with
  | nil => rfl
  | cons c p ih =>
    rw [List.mem_cons, not_or] at hp
    rw [List.cons_append, cut_cons_ne (Ne.symm hp.1), ih hp.2]
    rfl

theorem cut_surround {p : Text} (hp : '$' ∉ p) (hs : ∀ c ∈ '}' :: closing, c ∉ s) (t : Text) :
    cut ('$' :: opening) ('}' :: closing) (p ++ t ++ s) =
      p.map .plain ++ cut ('$' :: opening) ('}' :: closing) t ++ s.map .plain := by
  rw [cut_append hs, cut_plain_append hp]

end Surroundings

variable {p s : Text}

/-- **Surroundings bring no tags**: those of the whole are those of the middle. -/
theorem segments_surround (hp : '$' ∉ p) (hs : '}' ∉ s) (t : Text) :
    segments livePattern (p ++ t ++ s) = p.map .plain ++ segments livePattern t ++ s.map .plain := by
  rw [livePattern_delimited.segments_eq_cut, livePattern_delimited.segments_eq_cut]
  refine cut_surround hp (fun c hc => ?_) t
  rw [List.mem_singleton] at hc
  rwa [hc]

theorem all_surround (hp : '$' ∉ p) (hs : '}' ∉ s) (t : Text) :
    all livePattern (p ++ t ++ s) = all livePattern t := by
  have hplain : ∀ u : Text, (u.map Segment.plain).filterMap Segment.tag? = [] := by
    intro u
    rw [List.filterMap_map, List.filterMap_eq_nil_iff]
    exact fun _ _ => rfl
  rw [all, all, segments_surround hp hs, List.filterMap_append, List.filterMap_append, hplain, hplain,
    List.nil_append, List.append_nil]

/-- What a segment becomes where escaped tags are restored. -/
def Segment.restored : Segment → Text
  | plain c => [c]
  | tag g => g.restored

theorem unescape_eq (t : Text) :
    unescape t = (cut ['$', '$', '{', '{'] ['}', '}'] t).flatMap Segment.restored := by
  rw [unescape, escapedPattern_delimited.segments_eq_cut]
  rfl

theorem flatMap_restored_map_plain (t : Text) : (t.map Segment.plain).flatMap Segment.restored = t := by
  rw [List.flatMap_map]
  exact List.flatMap_singleton' t

theorem unescape_surround (hp : '$' ∉ p) (hs : '}' ∉ s) (t : Text) :
    unescape (p ++ t ++ s) = p ++ unescape t ++ s := by
  have hclosing : ∀ c ∈ ['}', '}'], c ∉ s := by
    intro c hc
    simp only [List.mem_cons, List.not_mem_nil, or_false, or_self] at hc
    rwa [hc]
  rw [unescape_eq, unescape_eq, cut_surround hp hclosing, List.flatMap_append, List.flatMap_append,
    flatMap_restored_map_plain, flatMap_restored_map_plain]

end Tag

end Placeholder
