/-
Escaping the live tags of a text. If the text has no escaped tag and its live tags have no clause, then
escaping the live ones leaves no live tag (`all_escape`), and restoring brings the text back
(`unescape_escape`).

The escaped tags stand among arbitrary text, full of dollar signs, braces and brackets perhaps. What is to be
shown is that this text does not begin to read differently. `Escapes` keeps a text and its escaped form side by
side, from right to left; what looks ahead in the one comes as far as it comes in the other
(`Beside.completes`).
-/
import Placeholder.Proofs.Tag.Beside

namespace Placeholder.Tag

theorem recogniseLive?_eq_none_of_brace (t : Text) : recognise? ['$', '{'] ['}'] ('$' :: '{' :: '{' :: t) = none := by
  rw [recognise?_eq_none_iff]
  intro ahead heq hc
  simp only [List.cons_append, List.nil_append, List.cons.injEq, true_and] at heq
  subst heq
  refine hc.1 ?_
  rw [keyAhead, if_neg (by decide)]

/-- No live tag begins in an escaped tag without a clause. -/
theorem cut_live_escapedKey {k : Text} (hk : IsKey k) (rest : Text) :
    cut ['$', '{'] ['}'] (['$', '$', '{', '{'] ++ k ++ '}' :: '}' :: rest) =
      (['$', '$', '{', '{'] ++ k ++ ['}', '}']).map .plain ++ cut ['$', '{'] ['}'] rest := by
  have hdollar : '$' ∉ '{' :: '{' :: (k ++ ['}', '}']) := by
    have hkey : '$' ∉ k := fun hmem => absurd (hk.chars _ hmem) (by decide)
    simpa using hkey
  have hsplit : ['$', '$', '{', '{'] ++ k ++ '}' :: '}' :: rest =
      '$' :: '$' :: (('{' :: '{' :: (k ++ ['}', '}'])) ++ rest) := by
    simp
  have hfirst : recognise? ['$', '{'] ['}'] ('$' :: '$' :: (('{' :: '{' :: (k ++ ['}', '}'])) ++ rest)) = none := by
    rw [recognise?_eq_none_iff]
    intro ahead heq
    simp at heq
  have hsecond : recognise? ['$', '{'] ['}'] ('$' :: (('{' :: '{' :: (k ++ ['}', '}'])) ++ rest)) = none :=
    recogniseLive?_eq_none_of_brace _
  rw [hsplit, cut_plain hfirst, cut_plain hsecond, cut_plain_append hdollar]
  simp

/-! ## A text and its escaped form -/

/-- The second text is the first with its live tags, all without a clause, escaped. No other tag begins
anywhere in the first. -/
inductive Escapes : Text → Text → Prop
  | nil : Escapes [] []
  | plain {c t t'} : recognise? ['$', '{'] ['}'] (c :: t) = none → recognise? ['$', '$', '{', '{'] ['}', '}'] (c :: t) = none →
      Escapes t t' → Escapes (c :: t) (c :: t')
  | tag {k t t'} : IsKey k → Escapes t t' →
      Escapes (['$', '{'] ++ k ++ '}' :: t) (['$', '$', '{', '{'] ++ k ++ '}' :: '}' :: t')

namespace Escapes

variable {t t' : Text}

/-- What escaping puts in has no bracket and no end of a line. -/
theorem beside (h : Escapes t t') : Beside t t' := by
  induction h with
  | nil => exact .nil
  | plain _ _ _ ih => exact .plain ih
  | @tag k t t' hk _ ih =>
    have hbracket : ']' ∉ k := fun hmem => absurd (hk.chars _ hmem) (by decide)
    have hline : '\n' ∉ k := fun hmem => absurd (hk.chars _ hmem) (by decide)
    have hstretch := @Beside.stretch ('{' :: k ++ ['}']) ('$' :: '{' :: '{' :: k ++ ['}', '}']) t t'
      (by simpa using hline) (by simpa using hbracket) (by simpa using hline) ih
    simpa using hstretch

/-! ### No tag begins at a character that was kept -/

theorem recogniseLive?_plain {c : Char} (h : Escapes t t') (hlive : recognise? ['$', '{'] ['}'] (c :: t) = none) :
    recognise? ['$', '{'] ['}'] (c :: t') = none := by
  rw [recognise?_eq_none_iff] at hlive ⊢
  intro ahead' heq hc
  simp only [List.cons_append, List.nil_append, List.cons.injEq] at heq
  obtain ⟨rfl, rfl⟩ := heq
  obtain ⟨ahead, rfl, hahead⟩ := h.beside.of_append (u := ['{']) (by decide)
  exact hlive ahead rfl (hahead.completes (by decide) hc)

theorem recogniseEscaped?_plain {c : Char} (h : Escapes t t') (hescaped : recognise? ['$', '$', '{', '{'] ['}', '}'] (c :: t) = none) :
    recognise? ['$', '$', '{', '{'] ['}', '}'] (c :: t') = none := by
  rw [recognise?_eq_none_iff] at hescaped ⊢
  intro ahead' heq hc
  simp only [List.cons_append, List.nil_append, List.cons.injEq] at heq
  obtain ⟨rfl, rfl⟩ := heq
  -- The second dollar sign was kept as well, for the first one of an escaped tag is not followed by a brace.
  generalize hx : '$' :: '{' :: '{' :: ahead' = x at h
  cases h with
  | nil => cases hx
  | plain _ _ h =>
    rw [List.cons.injEq] at hx
    obtain ⟨rfl, rfl⟩ := hx
    obtain ⟨ahead, rfl, hahead⟩ := h.beside.of_append (u := ['{', '{']) (by decide)
    exact hescaped ahead rfl (hahead.completes (by decide) hc)
  | tag => simp at hx

/-! ### The tags of the escaped form -/

theorem cut_live (h : Escapes t t') : cut ['$', '{'] ['}'] t' = t'.map .plain := by
  induction h with
  | nil => rw [cut]; rfl
  | @plain c t t' hlive _ h ih =>
    rw [cut_plain (h.recogniseLive?_plain hlive), ih]
    rfl
  | @tag k t t' hk _ ih =>
    rw [cut_live_escapedKey hk, ih]
    simp

theorem flatMap_restored (h : Escapes t t') :
    (cut ['$', '$', '{', '{'] ['}', '}'] t').flatMap Segment.restored = t := by
  induction h with
  | nil => rw [cut]; rfl
  | @plain c t t' _ hescaped h ih =>
    rw [cut_plain (h.recogniseEscaped?_plain hescaped), List.flatMap_cons, ih]
    rfl
  | @tag k t t' hk _ ih =>
    have hsplit : ['$', '$', '{', '{'] ++ k ++ '}' :: '}' :: t' = (['$', '$', '{', '{'] ++ k ++ ['}', '}']) ++ t' := by
      simp
    have hback : ReadsBack ['$', '$', '{', '{'] ['}', '}'] ⟨['$', '$', '{', '{'] ++ k ++ ['}', '}'], k, none⟩ :=
      recognise?_key hk ['$', '$', '{', '{'] ['}']
    rw [hsplit, hback.cut_append t', List.flatMap_cons, ih]
    simp [Segment.restored, restored]

end Escapes

/-! ## Escaping all live tags -/

/-- What a segment becomes where live tags are escaped. -/
def Segment.escaped : Segment → Text
  | plain c => [c]
  | tag g => ['$', '$', '{', '{'] ++ g.var ++ ['}', '}']

/-- The text with every live tag escaped. -/
def escape (t : Text) : Text := (segments livePattern t).flatMap Segment.escaped

/-- Where a text has no escaped tag, none begins in it anywhere. -/
theorem recogniseEscaped?_suffix {t u : Text} (h : all escapedPattern t = []) (hu : u <:+ t) :
    recognise? ['$', '$', '{', '{'] ['}', '}'] u = none := by
  have hall : ∀ seg ∈ cut ['$', '$', '{', '{'] ['}', '}'] t, seg.tag? = none := by
    rw [all, escapedPattern_delimited.segments_eq_cut] at h
    exact List.filterMap_eq_nil_iff.1 h
  clear h
  induction t with
  | nil =>
    rw [List.suffix_nil.1 hu]
    rfl
  | cons c t ih =>
    cases hc : recognise? ['$', '$', '{', '{'] ['}', '}'] (c :: t) with
    | some g =>
      rw [cut, hc] at hall
      have := hall (.tag g) (List.mem_cons_self ..)
      cases this
    | none =>
      rw [cut_plain hc] at hall
      rcases List.suffix_cons_iff.1 hu with rfl | hu
      · exact hc
      · exact ih hu fun seg hseg => hall seg (List.mem_cons_of_mem _ hseg)

theorem escapes_escape {t : Text} (hescaped : all escapedPattern t = [])
    (hclauses : ∀ g ∈ all livePattern t, g.extended = none) : Escapes t (escape t) := by
  have hnone : ∀ u, u <:+ t → recognise? ['$', '$', '{', '{'] ['}', '}'] u = none := fun u hu =>
    recogniseEscaped?_suffix hescaped hu
  simp only [mem_all] at hclauses
  rw [escape]
  rw [livePattern_delimited.segments_eq_cut] at hclauses ⊢
  clear hescaped
  induction t using cut_induction ['$', '{'] [] with
  | nil =>
    rw [cut]
    exact .nil
  | tag g rest hg ih =>
    rw [hg.cut_append] at hclauses ⊢
    obtain ⟨hkey, hraw⟩ := (recognise?_eq_some (hg [])).1
    rw [hclauses g (List.mem_cons_self ..), Option.getD_none, List.append_nil] at hraw
    have hrest := ih (fun u hu => hnone u (hu.trans (List.suffix_append g.raw rest)))
      fun g' hg' => hclauses g' (List.mem_cons_of_mem _ hg')
    rw [hraw, List.flatMap_cons, Segment.escaped]
    simpa using Escapes.tag hkey hrest
  | plain c t hc ih =>
    rw [cut_plain hc] at hclauses ⊢
    refine .plain hc (hnone _ (List.suffix_refl _)) ?_
    exact ih (fun u hu => hnone u (hu.trans (List.suffix_cons c t)))
      fun g' hg' => hclauses g' (List.mem_cons_of_mem _ hg')

theorem all_escape {t : Text} (hescaped : all escapedPattern t = [])
    (hclauses : ∀ g ∈ all livePattern t, g.extended = none) : all livePattern (escape t) = [] := by
  rw [all, livePattern_delimited.segments_eq_cut, (escapes_escape hescaped hclauses).cut_live, List.filterMap_map,
    List.filterMap_eq_nil_iff]
  exact fun _ _ => rfl

/-- **Restoring undoes escaping.** -/
theorem unescape_escape {t : Text} (hescaped : all escapedPattern t = [])
    (hclauses : ∀ g ∈ all livePattern t, g.extended = none) : unescape (escape t) = t := by
  rw [unescape_eq]
  exact (escapes_escape hescaped hclauses).flatMap_restored

end Placeholder.Tag
