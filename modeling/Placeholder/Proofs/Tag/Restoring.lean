/-
Restoring the escaped tags of a text. Each is replaced where it stands by the tag that it stands for, all else is
kept, and no escaped tag is left (`unescape_leaves_none`), so restoring once is enough.

A restored tag is shorter than the escaped one and has lost its clause, and an escaped tag whose clause had no end
may stand before it. But a clause that could end behind the restored tag could have ended behind the escaped one, or
in it; for the escaped tag is all in one line, and the restored one has no bracket. So the text and its restored form
are looked at side by side (`Unescapes`), and what is no tag in the one is none in the other.
-/
import Placeholder.Proofs.Tag.Enclosed

namespace Placeholder.Tag

/-! ## Tags stand in one line -/

theorem newline_not_mem_bodyAhead? {closing : Text} : ∀ {t b : Text}, bodyAhead? closing t = some b → '\n' ∉ b
  | [], b, h => by cases h
  | c :: t, b, h => by
    rw [bodyAhead?] at h
    split at h
    next hend =>
      rw [← Option.some.inj h, hend.1]
      decide
    next =>
      split at h
      next => cases h
      next hline =>
        obtain ⟨b, hb, rfl⟩ := Option.map_eq_some_iff.1 h
        rw [List.mem_cons, not_or]
        exact ⟨Ne.symm hline, newline_not_mem_bodyAhead? hb⟩

theorem newline_not_mem_clauseAhead? {closing t x : Text} (h : clauseAhead? closing t = some x) : '\n' ∉ x := by
  cases t with
  | nil => cases h
  | cons c t =>
    rw [clauseAhead?] at h
    split at h
    next hc =>
      obtain ⟨b, hb, rfl⟩ := Option.map_eq_some_iff.1 h
      rw [List.mem_cons, not_or, hc]
      exact ⟨by decide, newline_not_mem_bodyAhead? hb⟩
    next =>
      split at h
      next hc =>
        obtain ⟨_, _, h⟩ := Option.bind_eq_some_iff.1 h
        obtain ⟨b, hb, rfl⟩ := Option.map_eq_some_iff.1 h
        have hsign : '\n' ∉ [c, '['] := by rcases hc with rfl | rfl <;> decide
        have hbody := newline_not_mem_bodyAhead? hb
        simp only [List.mem_cons, List.not_mem_nil, or_false, not_or] at hsign ⊢
        exact ⟨hsign.1, hsign.2, hbody⟩
      next => cases h

theorem ReadsBack.newline_not_mem {opening closing : Text} {g : Tag} (h : ReadsBack opening ('}' :: closing) g)
    (hopening : '\n' ∉ opening) (hclosing : '\n' ∉ closing) : '\n' ∉ g.raw := by
  obtain ⟨hkey, hraw⟩ := (recognise?_eq_some (h [])).1
  obtain ⟨_, -, -, hclause⟩ := recognise?_parts (h [])
  have hvar : '\n' ∉ g.var := fun hmem => absurd (hkey.chars _ hmem) (by decide)
  have hextended : '\n' ∉ g.extended.getD [] := by
    cases hx : g.extended with
    | none => exact List.not_mem_nil
    | some x =>
      rw [hx] at hclause
      exact newline_not_mem_clauseAhead? hclause.symm
  rw [hraw]
  simp [hopening, hvar, hextended, hclosing]

/-! ## A text and its restored form -/

/-- The second text is the first with its escaped tags restored. No other escaped tag begins in the first. -/
inductive Unescapes : Text → Text → Prop
  | nil : Unescapes [] []
  | plain {c t t'} : recognise? ['$', '$', '{', '{'] ['}', '}'] (c :: t) = none → Unescapes t t' →
      Unescapes (c :: t) (c :: t')
  | tag {g t t'} : ReadsBack ['$', '$', '{', '{'] ['}', '}'] g → Unescapes t t' →
      Unescapes (g.raw ++ t) (g.restored ++ t')

theorem unescapes (t : Text) : Unescapes t (unescape t) := by
  rw [unescape_eq]
  induction t using cut_induction ['$', '$', '{', '{'] ['}'] with
  | nil =>
    rw [cut_nil]
    exact .nil
  | tag g rest hg ih =>
    rw [hg.cut_append, List.flatMap_cons]
    exact .tag hg ih
  | plain c t hc ih =>
    rw [cut_plain hc, List.flatMap_cons]
    exact .plain hc ih

/-- A restored tag is one dollar sign and then no other, no bracket and no end of a line. -/
theorem ReadsBack.restored_eq {opening closing : Text} {g : Tag} (h : ReadsBack opening ('}' :: closing) g) :
    ∃ k, g.restored = '$' :: '{' :: k ++ ['}'] ∧ IsKey k ∧ '$' ∉ k ∧ ']' ∉ k ∧ '\n' ∉ k := by
  have hkey := (recognise?_eq_some (h [])).1.isKey
  exact ⟨g.var, rfl, hkey, fun hmem => absurd (hkey.chars _ hmem) (by decide),
    fun hmem => absurd (hkey.chars _ hmem) (by decide), fun hmem => absurd (hkey.chars _ hmem) (by decide)⟩

namespace Unescapes

variable {t t' : Text}

theorem beside (h : Unescapes t t') : Beside t t' := by
  induction h with
  | nil => exact .nil
  | plain _ _ ih => exact .plain ih
  | @tag g t t' hg _ ih =>
    obtain ⟨k, hrestored, -, -, hbracket, hline⟩ := hg.restored_eq
    obtain ⟨u, hraw⟩ : ∃ u, g.raw = '$' :: u := ⟨_, (recognise?_eq_some (hg [])).1.raw⟩
    have hone := hg.newline_not_mem (by decide) (by decide)
    rw [hraw, List.mem_cons, not_or] at hone
    rw [hraw, hrestored]
    exact .stretch hone.2 (by simpa using hbracket) (by simpa using hline) ih

/-- Where no escaped tag begins in the text, none begins in the restored form. -/
theorem recognise?_plain {c : Char} (h : Unescapes t t')
    (hnone : recognise? ['$', '$', '{', '{'] ['}', '}'] (c :: t) = none) :
    recognise? ['$', '$', '{', '{'] ['}', '}'] (c :: t') = none := by
  rw [recognise?_eq_none_iff] at hnone ⊢
  intro ahead' heq hc
  simp only [List.cons_append, List.nil_append, List.cons.injEq] at heq
  obtain ⟨rfl, rfl⟩ := heq
  -- The second dollar sign is none of a restored tag, for there a key follows the brace and not another brace.
  generalize hx : '$' :: '{' :: '{' :: ahead' = x at h
  cases h with
  | nil => cases hx
  | plain _ h =>
    rw [List.cons.injEq] at hx
    obtain ⟨rfl, rfl⟩ := hx
    obtain ⟨ahead, rfl, hahead⟩ := h.beside.of_append (u := ['{', '{']) (by decide)
    exact hnone ahead rfl (hahead.completes (by decide) hc)
  | tag hg _ =>
    obtain ⟨k, hrestored, hkey, -⟩ := hg.restored_eq
    obtain ⟨d, hd, hword⟩ := hkey.first
    obtain ⟨k', rfl⟩ : ∃ k', k = d :: k' := by
      cases k with
      | nil => cases hd
      | cons e k' => exact ⟨k', by rw [List.head?_cons, Option.some.injEq] at hd; rw [hd]⟩
    rw [hrestored] at hx
    simp only [List.cons_append, List.cons.injEq, true_and] at hx
    rw [← hx.1] at hword
    exact absurd hword (by decide)

theorem cut_eq (h : Unescapes t t') : cut ['$', '$', '{', '{'] ['}', '}'] t' = t'.map .plain := by
  induction h with
  | nil => rw [cut_nil, List.map_nil]
  | plain hnone h ih =>
    rw [cut_plain (h.recognise?_plain hnone), ih]
    rfl
  | @tag g t t' hg _ ih =>
    obtain ⟨k, hrestored, -, hdollar, -⟩ := hg.restored_eq
    have hfirst : recognise? ['$', '$', '{', '{'] ['}', '}'] ('$' :: ('{' :: k ++ ['}'] ++ t')) = none := by
      rw [recognise?_eq_none_iff]
      intro ahead heq
      simp at heq
    have hrest : '$' ∉ '{' :: k ++ ['}'] := by simpa using hdollar
    rw [hrestored, List.cons_append, List.cons_append, cut_plain hfirst, cut_plain_append hrest, ih]
    simp

end Unescapes

/-! ## Replacing located tags -/

/-- The second text is the first with each of the located tags replaced where it stands; the first begins behind
`position` bytes. -/
inductive Replaced (f : Tag → Text) : (position : Nat) → List Located → Text → Text → Prop
  | rest {position t} : Replaced f position [] t t
  | tag {position kept l ls t t'} : l.start = position + Text.byteSize kept →
      l.stop = l.start + Text.byteSize l.tag.raw → Replaced f l.stop ls t t' →
      Replaced f position (l :: ls) (kept ++ l.tag.raw ++ t) (kept ++ f l.tag ++ t')

theorem Replaced.cons {f : Tag → Text} {position : Nat} {ls : List Located} {t t' : Text} (c : Char)
    (h : Replaced f (position + c.utf8Size) ls t t') : Replaced f position ls (c :: t) (c :: t') := by
  cases h with
  | rest => exact .rest
  | @tag _ kept l ls t t' hstart hstop h =>
    have hstart' : l.start = position + Text.byteSize (c :: kept) := by
      rw [hstart, Text.byteSize, Nat.add_assoc]
    exact .tag hstart' hstop h

theorem replaced_locateFrom (position : Nat) (segs : List Segment) :
    Replaced restored position (locateFrom position segs) (segs.flatMap Segment.raw)
      (segs.flatMap Segment.restored) := by
  induction segs generalizing position with
  | nil => exact .rest
  | cons seg segs ih =>
    cases seg with
    | plain c => exact .cons c (ih _)
    | tag g =>
      exact @Replaced.tag restored position [] ⟨g, position, position + Text.byteSize g.raw⟩ _ _ _ rfl rfl (ih _)

/-! ## Restoring -/

theorem segments_unescape (t : Text) : segments escapedPattern (unescape t) = (unescape t).map .plain := by
  rw [escapedPattern_delimited.segments_eq_cut]
  exact (unescapes t).cut_eq

/-- **Restoring leaves no escaped tag.** Each escaped tag of a text is replaced where it stands by its key between
`${` and a brace, the key as it is written there, and all else is kept; in what comes of it there is no escaped tag,
and so restoring once more changes nothing. -/
theorem unescape_leaves_none (t : Text) :
    Replaced (fun g => ['$', '{'] ++ g.var ++ ['}']) 0 (locate escapedPattern t) t (unescape t) ∧
    (∀ l ∈ locate escapedPattern t,
      l.tag.raw = ['$', '$', '{', '{'] ++ l.tag.var ++ l.tag.extended.getD [] ++ ['}', '}']) ∧
    locate escapedPattern (unescape t) = [] ∧
    unescape (unescape t) = unescape t := by
  refine ⟨?_, fun l hl => ?_, ?_, ?_⟩
  · have hreplaced := replaced_locateFrom 0 (segments escapedPattern t)
    rwa [flatMap_raw_segments] at hreplaced
  · obtain ⟨before, after, hsegs, -⟩ := mem_locateFrom hl
    have hmem : .tag l.tag ∈ cut ['$', '$', '{', '{'] ['}', '}'] t := by
      rw [← escapedPattern_delimited.segments_eq_cut, hsegs]
      simp
    exact (between_of_mem_cut hmem).raw
  · rw [locate, segments_unescape]
    generalize unescape t = u
    generalize 0 = position
    induction u generalizing position with
    | nil => rfl
    | cons c u ih => exact ih _
  · rw [unescape_eq (unescape t), (unescapes t).cut_eq, flatMap_restored_map_plain]

end Placeholder.Tag
