/-
The tokens that a strict run complains of. It names all live tags of a text that a pass has left unchanged. It is the
text that is unchanged, and not always each of its tags: one tag may become shorter and another one longer, so that
the pass writes the same text again from other parts (`unresolved_cancelling`).

Nothing else can happen. If no tag becomes shorter, or none longer, then the parts of the two texts are the same one by
one, and every tag that is named comes to nothing or to itself (`unresolved_survivors`).
-/
import Placeholder.Proofs.Expansion.Faults
import Placeholder.Proofs.Expansion.Sharing
import Placeholder.Proofs.Expansion.Strictness

namespace Placeholder.Builder

variable {b : Builder} {s : Sources} {t : Text}

/-! ## Texts from parts -/

section

variable {α β : Type} {l : List α} {f g : α → List β}

theorem length_flatMap_le (h : ∀ x ∈ l, (g x).length ≤ (f x).length) : (l.flatMap g).length ≤ (l.flatMap f).length := by
  induction l with
  | nil => exact Nat.le_refl _
  | cons x l ih =>
    obtain ⟨hx, hl⟩ := List.forall_mem_cons.1 h
    rw [List.flatMap_cons, List.flatMap_cons, List.length_append, List.length_append]
    exact Nat.add_le_add hx (ih hl)

/-- If no part of the one text is shorter than that of the other, the two texts have the same parts. -/
theorem eq_of_flatMap_eq (h : l.flatMap f = l.flatMap g) (hle : ∀ x ∈ l, (g x).length ≤ (f x).length) :
    ∀ x ∈ l, f x = g x := by
  induction l with
  | nil => exact fun x hx => by cases hx
  | cons x l ih =>
    obtain ⟨hx, hl⟩ := List.forall_mem_cons.1 hle
    rw [List.flatMap_cons, List.flatMap_cons] at h
    have hlength : (f x).length = (g x).length := by
      have htotal := congrArg List.length h
      have hrest := length_flatMap_le hl
      simp only [List.length_append] at htotal
      omega
    obtain ⟨hhead, htail⟩ := List.append_inj h hlength
    exact List.forall_mem_cons.2 ⟨hhead, ih htail hl⟩

end

/-! ## The complaint -/

/-- Only a text that a pass has left unchanged is complained of, by all its live tags. -/
theorem stuck_of_unresolved {tokens : List Text} (h : b.parse s true t = .error (.unresolved tokens)) :
    ∃ r, b.Stuck s t r ∧ tokens = (Tag.all b.pattern r).map Tag.raw := by
  have ht : t ≠ [] := by
    rintro rfl
    rw [parse_nil] at h
    cases h
  obtain ⟨n, m, u, j, hmax, hreach, hend⟩ := exists_ending b s b.options.maxPasses t {}
  rw [parse_of_reaches ht hmax hreach] at h
  cases hend with
  | settled hlive =>
    rw [passes_settled hlive] at h
    cases h
  | limit hlive =>
    rw [passes_limit hlive] at h
    cases h
  | fault hlive hf =>
    rw [passes_fault hlive hf] at h
    cases h
    cases substitute_faults b s u j _ hf with
    | value hvalue => cases hvalue
  | unchanged hlive hsame =>
    rw [passes_unchanged hlive hsame] at h
    cases h
    exact ⟨u, ⟨n, j, _, by omega, hreach, hlive, hsame⟩, rfl⟩

/-- What relates every text to itself, and a tag to what it comes to, relates a segment to what is put in its place. -/
theorem rel_put {R : Text → Text → Prop} {texts : Text → Option Text} {seg : Tag.Segment} (hrefl : ∀ t, R t t)
    (htag : ∀ g u, seg = .tag g → texts g.raw = some u → R g.raw u) : R seg.raw (put (fun g => texts g.raw) seg) := by
  cases seg with
  | plain c => exact hrefl _
  | tag g =>
    rw [put]
    cases hu : texts g.raw with
    | none => exact hrefl _
    | some u => exact htag g u rfl hu

/-- Where a pass gives the text again, every tag comes to nothing or to itself, or else one tag comes to a shorter text
and one to a longer. -/
theorem survives_or_cancels {segs : List Tag.Segment} {texts : Text → Option Text}
    (h : segs.flatMap (put fun g => texts g.raw) = segs.flatMap Tag.Segment.raw) :
    (∀ g, .tag g ∈ segs → texts g.raw = none ∨ texts g.raw = some g.raw) ∨
      (∃ g u, .tag g ∈ segs ∧ texts g.raw = some u ∧ u.length < g.raw.length) ∧
        ∃ g u, .tag g ∈ segs ∧ texts g.raw = some u ∧ g.raw.length < u.length := by
  have hsurvives : (∀ seg ∈ segs, put (fun g => texts g.raw) seg = seg.raw) →
      ∀ g, .tag g ∈ segs → texts g.raw = none ∨ texts g.raw = some g.raw := by
    intro hall g hg
    have hput : (texts g.raw).getD g.raw = g.raw := hall _ hg
    cases hu : texts g.raw with
    | none => exact .inl rfl
    | some u =>
      rw [hu] at hput
      exact .inr (congrArg some hput)
  by_cases hshort : ∃ g u, .tag g ∈ segs ∧ texts g.raw = some u ∧ u.length < g.raw.length
  · by_cases hlong : ∃ g u, .tag g ∈ segs ∧ texts g.raw = some u ∧ g.raw.length < u.length
    · exact .inr ⟨hshort, hlong⟩
    · have hle : ∀ seg ∈ segs, (put (fun g => texts g.raw) seg).length ≤ seg.raw.length := fun seg hseg =>
        rel_put (R := fun t u => u.length ≤ t.length) (fun _ => Nat.le_refl _) fun g u hg hu =>
          Nat.le_of_not_lt fun hlt => hlong ⟨g, u, hg ▸ hseg, hu, hlt⟩
      exact .inl (hsurvives fun seg hseg => (eq_of_flatMap_eq h.symm hle seg hseg).symm)
  · have hle : ∀ seg ∈ segs, seg.raw.length ≤ (put (fun g => texts g.raw) seg).length := fun seg hseg =>
      rel_put (R := fun t u => t.length ≤ u.length) (fun _ => Nat.le_refl _) fun g u hg hu =>
        Nat.le_of_not_lt fun hlt => hshort ⟨g, u, hg ▸ hseg, hu, hlt⟩
    exact .inl (hsurvives (eq_of_flatMap_eq h hle))

/-- **What a strict run complains of.** It names the live tags of a text that a pass has left unchanged, in their
order. The pass has resolved each token for the first tag that has its text, and a pure cipher lets the tag come to the
same whenever it is resolved. Either each of the tokens has come to nothing or to itself; or one has come to a shorter
text and one to a longer, and the pass has written the text again from other parts. -/
theorem unresolved_survivors (hpure : s.cipher.IsPure) {tokens : List Text}
    (h : b.parse s true t = .error (.unresolved tokens)) :
    ∃ r, ∃ texts : Text → Option Text, b.Stuck s t r ∧ tokens = (Tag.all b.pattern r).map Tag.raw ∧
      (Tag.segments b.pattern r).flatMap (put fun g => texts g.raw) = r ∧
      (∀ token ∈ tokens, ∃ g, firstWith token (Tag.all b.pattern r) = some g ∧ ComesTo b s g (texts token)) ∧
      ((∀ token ∈ tokens, texts token = none ∨ texts token = some token) ∨
        (∃ token ∈ tokens, ∃ u, texts token = some u ∧ u.length < token.length) ∧
          ∃ token ∈ tokens, ∃ u, texts token = some u ∧ token.length < u.length) := by
  obtain ⟨r, hstuck, rfl⟩ := stuck_of_unresolved h
  obtain ⟨n, j, k, -, -, -, hpass⟩ := id hstuck
  obtain ⟨texts, hr, hfirst⟩ := substitute_first hpass
  have hsame : (Tag.segments b.pattern r).flatMap (put fun g => texts g.raw) =
      (Tag.segments b.pattern r).flatMap Tag.Segment.raw := by rw [← hr, Tag.flatMap_raw_segments]
  have htoken : ∀ {g : Tag}, .tag g ∈ Tag.segments b.pattern r → g.raw ∈ (Tag.all b.pattern r).map Tag.raw :=
    fun hg => List.mem_map_of_mem (Tag.mem_all.2 hg)
  refine ⟨r, texts, hstuck, rfl, hr.symm, List.forall_mem_map.2 fun g hg => ?_, ?_⟩
  · obtain ⟨g', hg'⟩ := exists_firstWith hg
    obtain ⟨i, l, hresolves⟩ := hfirst _ _ hg'
    exact ⟨g', hg', comesTo_of_pure hpure hresolves⟩
  · refine (survives_or_cancels hsame).imp (fun hall => List.forall_mem_map.2 fun g hg => hall g (Tag.mem_all.1 hg)) ?_
    rintro ⟨⟨g, u, hg, hu, hlt⟩, g', u', hg', hu', hlt'⟩
    exact ⟨⟨g.raw, htoken hg, u, hu, hlt⟩, g'.raw, htoken hg', u', hu', hlt'⟩

/-- One tag has no value, and the other one has its own text for it. -/
theorem unresolved_survivors_itself :
    let s : Sources := { values := .ofList [(['a'], .string ['$', '{', 'a', '}'])] }
    let t : Text := ['$', '{', 'a', '}', '$', '{', 'b', '}']
    let tokens : List Text := [['$', '{', 'a', '}'], ['$', '{', 'b', '}']]
    ({} : Builder).parse s true t = .error (.unresolved tokens) ∧
    ∃ r, ∃ texts : Text → Option Text, ({} : Builder).Stuck s t r ∧
      ∀ token ∈ tokens, ∃ g, firstWith token (Tag.all Tag.livePattern r) = some g ∧ ComesTo {} s g (texts token) := by
  intro s t tokens
  have hsegs : Tag.segments Tag.livePattern t =
      [.tag ⟨['$', '{', 'a', '}'], ['a'], none⟩, .tag ⟨['$', '{', 'b', '}'], ['b'], none⟩] := by
    rw [Tag.livePattern_delimited.segments_eq_cut]
    cbv
  have hall : Tag.all Tag.livePattern t = [⟨['$', '{', 'a', '}'], ['a'], none⟩, ⟨['$', '{', 'b', '}'], ['b'], none⟩] := by
    rw [Tag.all, hsegs]
    rfl
  have hpass : ({} : Builder).substitute s t {} = .ok (t, {}) := by
    rw [substitute, hsegs]
    rfl
  have hstuck : ({} : Builder).Stuck s t t := ⟨0, {}, {}, by decide, .refl, by rw [hall]; decide, hpass⟩
  have hparse : ({} : Builder).parse s true t = .error (.unresolved tokens) := by
    rw [parse_of_stuck (by decide) hstuck, hall]
    rfl
  obtain ⟨r, texts, hr, -, -, hcomes, -⟩ :=
    unresolved_survivors (Secret.Cipher.isPure_ofFun Secret.Call.value) hparse
  exact ⟨hparse, r, texts, hr, hcomes⟩

/-- The first tag vanishes, and the second one writes both again; a third one has no value, and all three are
complained of. -/
theorem unresolved_cancelling :
    let s : Sources := { values := .ofList [(['a'], .string []), (['b'], .string ['$', '{', 'a', '}', '$', '{', 'b', '}'])] }
    let t : Text := ['$', '{', 'a', '}', '$', '{', 'b', '}', '$', '{', 'c', '}']
    s.cipher.IsPure ∧
    ({} : Builder).parse s true t =
      .error (.unresolved [['$', '{', 'a', '}'], ['$', '{', 'b', '}'], ['$', '{', 'c', '}']]) ∧
    (∀ j, resolveTag {} s ⟨['$', '{', 'a', '}'], ['a'], none⟩ j = .ok (some [], j)) ∧
    ∀ j, resolveTag {} s ⟨['$', '{', 'b', '}'], ['b'], none⟩ j = .ok (some ['$', '{', 'a', '}', '$', '{', 'b', '}'], j) := by
  intro s t
  have hsegs : Tag.segments Tag.livePattern t =
      [.tag ⟨['$', '{', 'a', '}'], ['a'], none⟩, .tag ⟨['$', '{', 'b', '}'], ['b'], none⟩,
        .tag ⟨['$', '{', 'c', '}'], ['c'], none⟩] := by
    rw [Tag.livePattern_delimited.segments_eq_cut]
    cbv
  have hall : Tag.all Tag.livePattern t = [⟨['$', '{', 'a', '}'], ['a'], none⟩, ⟨['$', '{', 'b', '}'], ['b'], none⟩,
      ⟨['$', '{', 'c', '}'], ['c'], none⟩] := by
    rw [Tag.all, hsegs]
    rfl
  have hpass : ({} : Builder).substitute s t {} = .ok (t, {}) := by
    rw [substitute, hsegs]
    rfl
  have hstuck : ({} : Builder).Stuck s t t := ⟨0, {}, {}, by decide, .refl, by rw [hall]; decide, hpass⟩
  refine ⟨Secret.Cipher.isPure_ofFun Secret.Call.value, ?_, fun _ => rfl, fun _ => rfl⟩
  rw [parse_of_stuck (by decide) hstuck, hall]
  rfl

end Placeholder.Builder
