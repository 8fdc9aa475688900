/-
Live tags inside of escaped tags. Live and escaped tags are looked for apart, and the clause of an escaped tag is
any text of one line; the walk that looks for live tags goes through it as through any other text. What it finds
there does not come out of the clause, for a live tag that begins before the end of a clause ends with it
(`length_raw_le`). So an escaped tag can be taken out of its surroundings: if no live tag begins outside of
the escaped tags of a text, then its live tags are those of the escaped tags, each looked at alone
(`all_live_of_enclosed`).
-/
import Placeholder.Proofs.Tag.Escaping

namespace Placeholder.Tag

/-! ## Tags that begin before a bracket and a closing text -/

/-- The key of a recognised tag is the one ahead, and its clause, if there is one, is the one behind the key. -/
theorem recognise?_parts {opening closing t : Text} {g : Tag} (h : recognise? opening closing t = some g) :
    ∃ ahead, t = opening ++ ahead ∧ g.var = keyAhead ahead ∧
      g.extended = clauseAhead? closing (ahead.drop g.var.length) := by
  simp only [recognise?, Option.bind_eq_bind, Option.bind_eq_some_iff] at h
  obtain ⟨ahead, hahead, h⟩ := h
  refine ⟨ahead, Text.afterHead?_eq_some.1 hahead, ?_⟩
  split at h
  next => cases h
  next =>
    split at h
    next clause hclause =>
      rw [← Option.some.inj h]
      exact ⟨rfl, hclause.symm⟩
    next hclause =>
      split at h
      next =>
        rw [← Option.some.inj h]
        exact ⟨rfl, hclause.symm⟩
      next => cases h

section Bounds

variable {closing w s : Text}

theorem length_bodyAhead?_le {b : Text} (h : bodyAhead? closing (w ++ ']' :: (closing ++ s)) = some b) :
    b.length ≤ w.length + 1 := by
  induction w generalizing b with
  | nil =>
    rw [List.nil_append, bodyAhead?, Text.afterHead?_append, if_pos ⟨rfl, rfl⟩, Option.some.injEq] at h
    rw [← h, List.length_singleton]
    exact Nat.le_add_left 1 _
  | cons c w ih =>
    rw [List.cons_append, bodyAhead?] at h
    split at h
    next =>
      rw [Option.some.injEq] at h
      rw [← h, List.length_singleton]
      exact Nat.le_add_left 1 _
    next =>
      split at h
      next => cases h
      next =>
        obtain ⟨b', hb', rfl⟩ := Option.map_eq_some_iff.1 h
        exact Nat.succ_le_succ (ih hb')

theorem length_clauseAhead?_le {x : Text} (h : clauseAhead? closing (w ++ ']' :: (closing ++ s)) = some x) :
    x.length ≤ w.length + 1 := by
  cases w with
  | nil =>
    rw [List.nil_append, clauseAhead?, if_neg (by decide), if_neg (by decide)] at h
    cases h
  | cons c w =>
    rw [List.cons_append, clauseAhead?] at h
    split at h
    next =>
      obtain ⟨b, hb, rfl⟩ := Option.map_eq_some_iff.1 h
      exact Nat.succ_le_succ (length_bodyAhead?_le hb)
    next =>
      split at h
      next =>
        obtain ⟨body, hbody, h⟩ := Option.bind_eq_some_iff.1 h
        obtain ⟨b, hb, rfl⟩ := Option.map_eq_some_iff.1 h
        have hopen := Text.afterHead?_eq_some.1 hbody
        cases w with
        | nil => simp at hopen
        | cons d w =>
          rw [List.cons_append, List.singleton_append, List.cons.injEq] at hopen
          rw [← hopen.2] at hb
          exact Nat.succ_le_succ (Nat.succ_le_succ (length_bodyAhead?_le hb))
      next => cases h

/-- A key ends before a bracket. -/
theorem keyAhead_bracket (w s : Text) : ∃ v, w = keyAhead (w ++ ']' :: s) ++ v := by
  obtain ⟨r, hr⟩ := keyAhead_prefix (w ++ ']' :: s)
  rcases List.append_eq_append_iff.1 hr with ⟨a, ha, hb⟩ | ⟨v, hv, -⟩
  · cases a with
    | nil => exact ⟨[], by rw [ha, List.append_nil, List.append_nil]⟩
    | cons c a =>
      rw [List.cons_append, List.cons.injEq] at hb
      have hne : keyAhead (w ++ ']' :: s) ≠ [] := by simp [ha]
      have hbracket := (isKey_keyAhead hne).chars ']' (by simp [ha, ← hb.1])
      exact absurd hbracket (by decide)
  · exact ⟨v, hv⟩

/-- **A live tag that begins before a bracket and a brace** ends with them, or before. -/
theorem length_raw_le {g : Tag} (h : recognise? ['$', '{'] ['}'] (w ++ ']' :: '}' :: s) = some g) :
    g.raw.length ≤ w.length + 2 := by
  obtain ⟨ahead, hopen, hvar, hclause⟩ := recognise?_parts h
  obtain ⟨w, rfl, rfl⟩ : ∃ w', w = '$' :: '{' :: w' ∧ ahead = w' ++ ']' :: '}' :: s := by
    match w with
    | [] => simp at hopen
    | [c] => simp at hopen
    | c :: d :: w =>
      simp only [List.cons_append, List.nil_append, List.cons.injEq] at hopen
      obtain ⟨rfl, rfl, rfl⟩ := hopen
      exact ⟨w, rfl, rfl⟩
  obtain ⟨v, hv⟩ := keyAhead_bracket w ('}' :: s)
  rw [← hvar] at hv
  subst hv
  rw [List.append_assoc, List.drop_left] at hclause
  have hend : (g.extended.getD []).length ≤ v.length + 1 := by
    cases hextended : g.extended with
    | none => exact Nat.zero_le _
    | some x =>
      rw [hextended] at hclause
      have hlen : clauseAhead? ['}'] (v ++ ']' :: (['}'] ++ s)) = some x := hclause.symm
      exact length_clauseAhead?_le hlen
  rw [(recognise?_eq_some h).1.raw]
  simp only [List.length_cons, List.length_append, List.length_nil]
  omega

end Bounds

theorem recognise?_eq_none_of_append {opening closing t s : Text}
    (h : recognise? opening ('}' :: closing) (t ++ s) = none) : recognise? opening ('}' :: closing) t = none := by
  cases hg : recognise? opening ('}' :: closing) t with
  | none => rfl
  | some g =>
    obtain ⟨-, rest, rfl⟩ := recognise?_eq_some hg
    rw [List.append_assoc, readsBack hg] at h
    cases h

/-- Such a tag is all that stands before it with the bracket and the brace, or it ends before them. -/
theorem raw_before_bracket {w s : Text} {g : Tag} (h : recognise? ['$', '{'] ['}'] (w ++ ']' :: '}' :: s) = some g) :
    g.raw = w ++ [']', '}'] ∨ ∃ w', w = g.raw ++ w' := by
  have hlen := length_raw_le h
  obtain ⟨hbetween, rest, hrest⟩ := recognise?_eq_some h
  have hsplit : w ++ [']', '}'] ++ s = g.raw ++ rest := by simpa using hrest
  have hprefix : ∃ a, w ++ [']', '}'] = g.raw ++ a := by
    rcases List.append_eq_append_iff.1 hsplit with ⟨a, ha, -⟩ | ⟨a, ha, -⟩
    · have hnil : a = [] := by
        have := congrArg List.length ha
        simp only [List.length_append, List.length_cons, List.length_nil] at this
        exact List.length_eq_zero_iff.1 (by omega)
      exact ⟨[], by rw [ha, hnil, List.append_nil, List.append_nil]⟩
    · exact ⟨a, ha⟩
  obtain ⟨a, ha⟩ := hprefix
  rcases List.append_eq_append_iff.1 ha with ⟨x, hx, hend⟩ | ⟨w', hw, -⟩
  · match x, hend with
    | [], _ => exact .inr ⟨[], by rw [hx, List.append_nil, List.append_nil]⟩
    | [c], hend =>
      -- The tag would end in the bracket, and it ends in a brace.
      rw [List.singleton_append, List.cons.injEq] at hend
      have hlast := congrArg List.getLast? (hbetween.raw.symm.trans hx)
      rw [← hend.1, List.getLast?_append, List.getLast?_append] at hlast
      exact absurd hlast (by simp)
    | c :: d :: x, hend =>
      simp only [List.cons_append, List.cons.injEq, List.nil_eq, List.append_eq_nil_iff] at hend
      obtain ⟨rfl, rfl, rfl, -⟩ := hend
      exact .inl hx
  · exact .inr ⟨w', hw⟩

/-- The walk that looks for live tags does not pass over a bracket and a brace. -/
theorem cut_live_append (w s : Text) :
    cut ['$', '{'] ['}'] (w ++ ']' :: '}' :: s) =
      cut ['$', '{'] ['}'] (w ++ [']', '}']) ++ cut ['$', '{'] ['}'] s := by
  have hassoc : ∀ u : Text, u ++ ']' :: '}' :: s = u ++ [']', '}'] ++ s := by simp
  induction hn : w.length using Nat.strongRecOn generalizing w with
  | ind n ih =>
  subst hn
  cases h : recognise? ['$', '{'] ['}'] (w ++ ']' :: '}' :: s) with
  | some g =>
    have hback := readsBack h
    rcases raw_before_bracket h with hraw | ⟨w', rfl⟩
    · have hwhole := hback.cut_append []
      rw [List.append_nil, cut_nil] at hwhole
      rw [hassoc, ← hraw, hback.cut_append, hwhole]
      rfl
    · have hlt : w'.length < (g.raw ++ w').length := by
        have := List.length_pos_iff.2 hback.raw_ne_nil
        rw [List.length_append]
        omega
      rw [List.append_assoc, List.append_assoc, hback.cut_append, hback.cut_append, ih _ hlt w' rfl, List.cons_append]
  | none =>
    cases w with
    | nil =>
      rw [List.nil_append, List.nil_append, cut_cons_ne (by decide), cut_cons_ne (by decide), cut_cons_ne (by decide),
        cut_cons_ne (by decide), cut_nil]
      rfl
    | cons c w =>
      have hshort : recognise? ['$', '{'] ['}'] (c :: w ++ [']', '}']) = none :=
        recognise?_eq_none_of_append (s := s) (by simpa using h)
      rw [List.cons_append] at h hshort
      rw [List.cons_append, cut_plain h, List.cons_append, cut_plain hshort, ih _ (Nat.lt_succ_self _) w rfl]
      rfl

/-! ## Escaped tags among other texts -/

theorem bodyAhead?_concat {closing : Text} : ∀ {t b : Text}, bodyAhead? closing t = some b → ∃ b', b = b' ++ [']']
  | [], b, h => by cases h
  | c :: t, b, h => by
    rw [bodyAhead?] at h
    split at h
    next hc => exact ⟨[], by rw [← Option.some.inj h, hc.1]; rfl⟩
    next =>
      split at h
      next => cases h
      next =>
        obtain ⟨b, hb, rfl⟩ := Option.map_eq_some_iff.1 h
        obtain ⟨b', rfl⟩ := bodyAhead?_concat hb
        exact ⟨c :: b', rfl⟩

/-- A clause ends in a bracket. -/
theorem clauseAhead?_concat {closing t x : Text} (h : clauseAhead? closing t = some x) : ∃ x', x = x' ++ [']'] := by
  cases t with
  | nil => cases h
  | cons c t =>
    rw [clauseAhead?] at h
    split at h
    next =>
      obtain ⟨b, hb, rfl⟩ := Option.map_eq_some_iff.1 h
      obtain ⟨b', rfl⟩ := bodyAhead?_concat hb
      exact ⟨c :: b', rfl⟩
    next =>
      split at h
      next =>
        obtain ⟨_, _, h⟩ := Option.bind_eq_some_iff.1 h
        obtain ⟨b, hb, rfl⟩ := Option.map_eq_some_iff.1 h
        obtain ⟨b', rfl⟩ := bodyAhead?_concat hb
        exact ⟨c :: '[' :: b', rfl⟩
      next => cases h

/-- An escaped tag is walked through to its end. -/
theorem cut_live_escaped {g : Tag} (h : ReadsBack ['$', '$', '{', '{'] ['}', '}'] g) (rest : Text) :
    cut ['$', '{'] ['}'] (g.raw ++ rest) = cut ['$', '{'] ['}'] g.raw ++ cut ['$', '{'] ['}'] rest := by
  obtain ⟨hkey, hraw⟩ := (recognise?_eq_some (h [])).1
  cases hextended : g.extended with
  | none =>
    rw [hextended, Option.getD_none, List.append_nil] at hraw
    have hnone := cut_live_escapedKey hkey []
    have hrest := cut_live_escapedKey hkey rest
    rw [cut_nil, List.append_nil] at hnone
    rw [hraw, hnone, ← hrest]
    simp
  | some x =>
    obtain ⟨ahead, -, -, hclause⟩ := recognise?_parts (h [])
    rw [hextended] at hclause
    obtain ⟨x, rfl⟩ := clauseAhead?_concat hclause.symm
    have hsplit : ∀ r, g.raw ++ r = (['$', '$', '{', '{'] ++ g.var ++ x) ++ ']' :: '}' :: '}' :: r := by
      intro r
      rw [hraw, hextended]
      simp
    have hbrace : ∀ r, cut ['$', '{'] ['}'] ('}' :: r) = .plain '}' :: cut ['$', '{'] ['}'] r := fun r =>
      cut_cons_ne (by decide)
    have hnil := hsplit []
    rw [List.append_nil] at hnil
    rw [hsplit, hnil, cut_live_append, cut_live_append _ ['}'], hbrace, hbrace, cut_nil]
    simp

/-- Outside of its escaped tags no live tag opens in the text. -/
def NoOpeningOutside (t : Text) : Prop := ¬ [.plain '$', .plain '{'] <:+: segments escapedPattern t

/-- What the walk that looks for live tags makes of a segment of the other walk. -/
def Segment.live : Segment → List Segment
  | plain c => [plain c]
  | tag g => cut ['$', '{'] ['}'] g.raw

theorem cut_live_of_enclosed {t : Text} (h : NoOpeningOutside t) :
    cut ['$', '{'] ['}'] t = (cut ['$', '$', '{', '{'] ['}', '}'] t).flatMap Segment.live := by
  rw [NoOpeningOutside, escapedPattern_delimited.segments_eq_cut] at h
  induction t using cut_induction ['$', '$', '{', '{'] ['}'] with
  | nil =>
    rw [cut_nil, cut_nil]
    rfl
  | tag g rest hg ih =>
    rw [hg.cut_append] at h ⊢
    rw [cut_live_escaped hg, List.flatMap_cons, ih fun hinside => h (hinside.trans (List.suffix_cons _ _).isInfix)]
    rfl
  | plain c t hc ih =>
    rw [cut_plain hc] at h ⊢
    have hlive : recognise? ['$', '{'] ['}'] (c :: t) = none := by
      cases hg : recognise? ['$', '{'] ['}'] (c :: t) with
      | none => rfl
      | some g =>
        obtain ⟨⟨-, hraw⟩, rest, hrest⟩ := recognise?_eq_some hg
        rw [hraw] at hrest
        simp only [List.cons_append, List.nil_append, List.cons.injEq] at hrest
        obtain ⟨rfl, rfl⟩ := hrest
        rw [cut_cons_ne (by decide)] at h
        exact absurd (List.prefix_append [Segment.plain '$', .plain '{'] _).isInfix h
    rw [cut_plain hlive, List.flatMap_cons, ih fun hinside => h (hinside.trans (List.suffix_cons _ _).isInfix)]
    rfl

/-- **The live tags of a text** are those inside of its escaped tags, if none opens outside of them. -/
theorem all_live_of_enclosed {t : Text} (h : NoOpeningOutside t) :
    all livePattern t = (all escapedPattern t).flatMap fun g => all livePattern g.raw := by
  simp only [all, livePattern_delimited.segments_eq_cut, cut_live_of_enclosed h,
    escapedPattern_delimited.segments_eq_cut]
  induction cut ['$', '$', '{', '{'] ['}', '}'] t with
  | nil => rfl
  | cons seg segs ih =>
    rw [List.flatMap_cons, List.filterMap_append, ih]
    cases seg <;> rfl

end Placeholder.Tag
