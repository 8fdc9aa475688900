/-
Two texts side by side. They have the same characters, and here and there a stretch in the one for a stretch in the
other. Each stretch begins with a dollar sign, and in the second text none has a bracket that could end a clause. Then
looking ahead in the second text comes no further than in the first (`Beside.completes`): a key stops before a stretch
in both, and in the search for the end of a clause a stretch is passed over.
-/
import Placeholder.Proofs.Tag.Context

namespace Placeholder.Tag

/-! ## What can be recognised -/

/-- What stands behind the opening of a tag goes on with a key, and then with a clause and the closing text or
with the closing text alone. -/
def Completes (closing ahead : Text) : Prop :=
  keyAhead ahead ≠ [] ∧
    ((clauseAhead? closing (ahead.drop (keyAhead ahead).length)).isSome = true ∨
      (Text.afterHead? closing (ahead.drop (keyAhead ahead).length)).isSome = true)

theorem recognise?_isSome_iff {opening closing t : Text} :
    (recognise? opening closing t).isSome = true ↔ ∃ ahead, t = opening ++ ahead ∧ Completes closing ahead := by
  rw [recognise?]
  constructor
  · intro h
    cases hahead : Text.afterHead? opening t with
    | none => simp [hahead] at h
    | some ahead =>
      refine ⟨ahead, Text.afterHead?_eq_some.1 hahead, ?_⟩
      simp only [hahead, Option.bind_eq_bind, Option.bind_some] at h
      split at h
      next => cases h
      next hkey =>
        refine ⟨hkey, ?_⟩
        split at h
        next clause hclause => exact .inl (by rw [hclause]; rfl)
        next =>
          split at h
          next hclosing => exact .inr hclosing
          next => cases h
  · rintro ⟨ahead, rfl, hkey, hend⟩
    simp only [Text.afterHead?_append, Option.bind_eq_bind, Option.bind_some, if_neg hkey]
    split
    · rfl
    next hclause =>
      rw [hclause] at hend
      rw [if_pos (hend.resolve_left Bool.false_ne_true)]
      rfl

theorem recognise?_eq_none_iff {opening closing t : Text} :
    recognise? opening closing t = none ↔ ∀ ahead, t = opening ++ ahead → ¬ Completes closing ahead := by
  rw [← Option.not_isSome_iff_eq_none, recognise?_isSome_iff, not_exists]
  simp only [not_and]

/-! ## Side by side -/

/-- The second text is the first with some stretches replaced. -/
inductive Beside : Text → Text → Prop
  | nil : Beside [] []
  | plain {c t t'} : Beside t t' → Beside (c :: t) (c :: t')
  | stretch {u u' t t'} : '\n' ∉ u → ']' ∉ u' → '\n' ∉ u' → Beside t t' → Beside ('$' :: u ++ t) ('$' :: u' ++ t')

namespace Beside

variable {closing t t' u' : Text}

/-- Up to a dollar sign the two texts are one. -/
theorem of_append {u : Text} (hu : '$' ∉ u) (h : Beside t (u ++ u')) : ∃ v, t = u ++ v ∧ Beside v u' := by
  induction u generalizing t with
  | nil => exact ⟨t, rfl, h⟩
  | cons c u ih =>
    rw [List.mem_cons, not_or] at hu
    rw [List.cons_append] at h
    generalize hx : c :: (u ++ u') = x at h
    cases h with
    | nil => cases hx
    | plain h =>
      rw [List.cons.injEq] at hx
      obtain ⟨rfl, rfl⟩ := hx
      obtain ⟨v, rfl, hv⟩ := ih hu.2 h
      exact ⟨v, rfl, hv⟩
    | stretch _ _ _ _ =>
      rw [List.cons_append, List.cons.injEq] at hx
      exact absurd hx.1.symm hu.1

theorem takeWhile_isKeyChar (h : Beside t t') : t'.takeWhile isKeyChar = t.takeWhile isKeyChar := by
  have hdollar : isKeyChar '$' = false := by decide
  induction h with
  | nil => rfl
  | @plain c t t' _ ih => rw [List.takeWhile_cons, List.takeWhile_cons, ih]
  | stretch => simp [hdollar]

theorem head? (h : Beside t t') : t'.head? = t.head? := by
  cases h <;> rfl

theorem keyAhead_eq (h : Beside t t') : keyAhead t' = keyAhead t := by
  have hrun := h.takeWhile_isKeyChar
  have hhead := h.head?
  cases t with
  | nil =>
    rw [List.head?_nil, List.head?_eq_none_iff] at hhead
    rw [hhead]
  | cons c t =>
    cases t' with
    | nil => simp at hhead
    | cons d t' =>
      rw [List.head?_cons, List.head?_cons, Option.some.injEq] at hhead
      subst hhead
      rw [keyAhead, keyAhead, hrun]

/-- Behind the key ahead the two texts go on side by side. -/
theorem drop_keyAhead (h : Beside t t') :
    Beside (t.drop (keyAhead t).length) (t'.drop (keyAhead t').length) := by
  by_cases hnil : keyAhead t' = []
  · rw [← h.keyAhead_eq, hnil]
    exact h
  · have hkey := isKey_keyAhead hnil
    have hdollar : '$' ∉ keyAhead t' := by
      intro hmem
      have := hkey.chars _ hmem
      revert this
      decide
    have hsplit := h
    rw [← append_drop_keyAhead t'] at hsplit
    obtain ⟨v, hv, hrest⟩ := hsplit.of_append hdollar
    rw [← h.keyAhead_eq, hv, List.drop_left]
    exact hrest

theorem isSome_afterHead? (hclosing : '$' ∉ closing) (h : Beside t t')
    (hsome : (Text.afterHead? closing t').isSome = true) : (Text.afterHead? closing t).isSome = true := by
  obtain ⟨rest, hrest⟩ := Option.isSome_iff_exists.1 hsome
  rw [Text.afterHead?_eq_some.1 hrest] at h
  obtain ⟨v, rfl, -⟩ := h.of_append hclosing
  rw [Text.afterHead?_append]
  rfl

/-- A clause that ends behind a stretch of one line ends behind it or in it if it begins before it. -/
theorem isSome_bodyAhead?_append {u rest : Text} (hu : '\n' ∉ u) (h : (bodyAhead? closing rest).isSome = true) :
    (bodyAhead? closing (u ++ rest)).isSome = true := by
  induction u with
  | nil => exact h
  | cons c u ih =>
    rw [List.mem_cons, not_or] at hu
    rw [List.cons_append, bodyAhead?, if_neg (Ne.symm hu.1)]
    split
    · rfl
    · rw [Option.isSome_map]
      exact ih hu.2

theorem isSome_bodyAhead? (hclosing : '$' ∉ closing) (h : Beside t t')
    (hsome : (bodyAhead? closing t').isSome = true) : (bodyAhead? closing t).isSome = true := by
  induction h with
  | nil => exact hsome
  | @plain c t t' h ih =>
    rw [bodyAhead?] at hsome ⊢
    split at hsome
    next hend => rw [if_pos ⟨hend.1, h.isSome_afterHead? hclosing hend.2⟩]; rfl
    next =>
      split at hsome
      next => cases hsome
      next hline =>
        rw [Option.isSome_map] at hsome
        rw [if_neg hline]
        split
        · rfl
        · rw [Option.isSome_map]
          exact ih hsome
  | @stretch u u' t t' hu hbracket hline _ ih =>
    have hbracket' : ']' ∉ '$' :: u' := by simpa using hbracket
    have hline' : '\n' ∉ '$' :: u' := by simpa using hline
    rw [bodyAhead?_append_of_not_mem hbracket' hline', Option.isSome_map] at hsome
    exact isSome_bodyAhead?_append (by simpa using hu) (ih hsome)

theorem isSome_clauseAhead? (hclosing : '$' ∉ closing) (h : Beside t t')
    (hsome : (clauseAhead? closing t').isSome = true) : (clauseAhead? closing t).isSome = true := by
  cases t' with
  | nil => cases hsome
  | cons c t' =>
    rw [clauseAhead?] at hsome
    split at hsome
    next hbracket =>
      subst hbracket
      obtain ⟨v, rfl, hv⟩ := of_append (u := ['[']) (by decide) h
      rw [Option.isSome_map] at hsome
      rw [List.singleton_append, clauseAhead?, if_pos rfl, Option.isSome_map]
      exact hv.isSome_bodyAhead? hclosing hsome
    next hbracket =>
      split at hsome
      next hsign =>
        cases hbody : Text.afterHead? ['['] t' with
        | none =>
          rw [hbody] at hsome
          cases hsome
        | some body =>
          rw [hbody, Option.bind_some, Option.isSome_map] at hsome
          rw [Text.afterHead?_eq_some.1 hbody] at h
          have hdollar : '$' ∉ [c, '['] := by
            rcases hsign with rfl | rfl <;> decide
          obtain ⟨v, rfl, hv⟩ := of_append (u := [c, '[']) hdollar h
          rw [List.cons_append, clauseAhead?, if_neg hbracket, if_pos hsign, Text.afterHead?_append, Option.bind_some,
            Option.isSome_map]
          exact hv.isSome_bodyAhead? hclosing hsome
      next => cases hsome

/-- **What completes a tag in the second text** completes it in the first. -/
theorem completes (hclosing : '$' ∉ closing) (h : Beside t t') (hc : Completes closing t') : Completes closing t := by
  obtain ⟨hkey, hend⟩ := hc
  refine ⟨h.keyAhead_eq ▸ hkey, ?_⟩
  exact hend.imp (h.drop_keyAhead.isSome_clauseAhead? hclosing) (h.drop_keyAhead.isSome_afterHead? hclosing)

end Beside

end Placeholder.Tag
