/-
Values with tags in their texts. `Expansion` puts the expanded text of its value in the place of each tag, by
recursion; the passes instead go over the whole text again and again. For texts with plain tags only, both
come to the same, as long as there are passes enough for the longest chain of tags (`parse_eq_expansion`).

A pass takes one tag off each chain (`Chain.of_pass`), so no pass leaves a text unchanged that has tags: it
would have chains of every length (`nextText_ne`). That the tags of the next text are those of the texts put
in is the matter of `Proofs.Tag.Splice`.
-/
import Placeholder.Proofs.Expansion.Passes
import Placeholder.Proofs.Secret
import Placeholder.Proofs.Tag.Splice
import Placeholder.Proofs.Unicode.Lowering

namespace Placeholder

open Tag (Segment segments livePattern all_of_no_dollar)

/-- The text that a value without a format has in an expansion. -/
def Value.shown (lower : Bool) (v : Value) : Text := Secret.lowerBool lower v.plainText

variable {values : ValueMap} {lower : Bool}

/-! ## The recursive expansion -/

/-- The text of segments, with the expanded text of its value in the place of each tag. -/
inductive Expansion (values : ValueMap) (lower : Bool) : List Segment → Text → Prop
  | nil : Expansion values lower [] []
  | plain {c segs r} : Expansion values lower segs r → Expansion values lower (.plain c :: segs) (c :: r)
  | tag {g v segs a r} : values.get? g.key = some v →
      Expansion values lower (segments livePattern (v.shown lower)) a → Expansion values lower segs r →
      Expansion values lower (.tag g :: segs) (a ++ r)

namespace Expansion

/-- There is one expansion at most. -/
theorem unique {segs : List Segment} {r r' : Text} (h : Expansion values lower segs r)
    (h' : Expansion values lower segs r') : r' = r := by
  induction h generalizing r' with
  | nil =>
    cases h'
    rfl
  | plain _ ih =>
    cases h' with
    | plain h' => rw [ih h']
  | tag hv _ _ iha ihr =>
    cases h' with
    | tag hv' ha hr =>
      rw [hv, Option.some.injEq] at hv'
      subst hv'
      rw [iha ha, ihr hr]

theorem of_append {segs segs' : List Segment} {r : Text} (h : Expansion values lower (segs ++ segs') r) :
    ∃ a a', r = a ++ a' ∧ Expansion values lower segs a ∧ Expansion values lower segs' a' := by
  induction segs generalizing r with
  | nil => exact ⟨[], r, rfl, .nil, h⟩
  | cons s segs ih =>
    cases h with
    | plain h =>
      obtain ⟨a, a', rfl, ha, ha'⟩ := ih h
      exact ⟨_, a', rfl, .plain ha, ha'⟩
    | tag hv hvalue h =>
      obtain ⟨a, a', rfl, ha, ha'⟩ := ih h
      exact ⟨_, a', (List.append_assoc ..).symm, .tag hv hvalue ha, ha'⟩

/-- Segments without tags are expanded already. -/
theorem of_plain (t : Text) : Expansion values lower (t.map .plain) t := by
  induction t with
  | nil => exact .nil
  | cons c t ih => exact .plain ih

end Expansion

/-! ## Plain texts and their chains -/

/-- Tags of which each one after the first stands in the text of the value of the one before. -/
inductive Chain (values : ValueMap) : Text → List Tag → Prop
  | nil {t} : Chain values t []
  | cons {t g v gs} : g ∈ Tag.all livePattern t → values.get? g.key = some v → Chain values v.plainText gs →
      Chain values t (g :: gs)

/-- The texts of values that the tags of a text lead to, and the text itself. -/
inductive Leads (values : ValueMap) : Text → Text → Prop
  | start {t} : Leads values t t
  | cons {t g v u} : g ∈ Tag.all livePattern t → values.get? g.key = some v → Leads values v.plainText u →
      Leads values t u

/-- A tag that only a value can answer, and that asks for no format and no cipher. -/
structure Tag.IsBare (g : Tag) : Prop where
  noClause : g.extended = none
  notReserved : Builder.isReserved g.key = false
  notSecrets : g.key ≠ Secret.secretsKey
  noSecret : Secret.afterMarker? Secret.secretMarker g.key = none
  noShasec : Secret.afterMarker? Secret.shasecMarker g.key = none

/-- A text with bare tags of known keys only, and without a dollar sign outside of them. -/
structure IsPlain (values : ValueMap) (t : Text) : Prop where
  noDollar : ∀ c, .plain c ∈ segments livePattern t → c ≠ '$'
  bare : ∀ g ∈ Tag.all livePattern t, g.IsBare
  known : ∀ g ∈ Tag.all livePattern t, ∃ v, values.get? g.key = some v

namespace IsPlain

variable {t : Text}

theorem steady (h : IsPlain values t) : ∀ s ∈ segments livePattern t, s.Steady := by
  intro s hs
  cases s with
  | plain c => exact h.noDollar c hs
  | tag g =>
    refine ⟨?_, (h.bare g (Tag.mem_all.2 hs)).noClause⟩
    rw [Tag.livePattern_delimited.segments_eq_cut] at hs
    exact Tag.between_of_mem_cut hs

theorem of_no_dollar (h : '$' ∉ t) : IsPlain values t where
  noDollar c hc := by
    rw [Tag.segments_of_no_dollar h, List.mem_map] at hc
    obtain ⟨d, hd, heq⟩ := hc
    cases heq
    rintro rfl
    exact h hd
  bare g hg := by simp [all_of_no_dollar h] at hg
  known g hg := by simp [all_of_no_dollar h] at hg

/-- A plain text without tags has no dollar sign. -/
theorem no_dollar (h : IsPlain values t) (hall : Tag.all livePattern t = []) : '$' ∉ t := by
  intro hdollar
  rw [← Tag.flatMap_raw_segments livePattern t, List.mem_flatMap] at hdollar
  obtain ⟨s, hs, hraw⟩ := hdollar
  cases s with
  | plain c =>
    rw [Segment.raw, List.mem_singleton] at hraw
    exact h.noDollar c hs hraw.symm
  | tag g =>
    have hg := Tag.mem_all.2 hs
    rw [hall] at hg
    cases hg

theorem shown {v : Value} (h : IsPlain values v.plainText) : IsPlain values (v.shown lower) := by
  rcases Secret.lowerBool_cases lower v.plainText with hsame | ⟨_, hdollar⟩
  · rwa [Value.shown, hsame]
  · exact .of_no_dollar hdollar

end IsPlain

/-- A text without a dollar sign leads nowhere. -/
theorem Leads.eq_of_no_dollar {t u : Text} (h : Leads values t u) (ht : '$' ∉ t) : u = t := by
  cases h with
  | start => rfl
  | cons hg =>
    rw [all_of_no_dollar ht] at hg
    cases hg

theorem Chain.eq_nil_of_no_dollar {t : Text} {gs : List Tag} (h : Chain values t gs) (ht : '$' ∉ t) : gs = [] := by
  cases h with
  | nil => rfl
  | cons hg =>
    rw [all_of_no_dollar ht] at hg
    cases hg

section OneTag

variable {t : Text} {g : Tag} {v : Value}
variable (hall : Tag.all livePattern t = [g]) (hv : values.get? g.key = some v)

include hall hv

/-- A text with one tag leads where the value of this tag does. -/
theorem Leads.of_one_tag {u : Text} (h : Leads values t u) : u = t ∨ Leads values v.plainText u := by
  cases h with
  | start => exact .inl rfl
  | cons hg hv' h =>
    rw [hall, List.mem_singleton] at hg
    subst hg
    rw [hv, Option.some.injEq] at hv'
    subst hv'
    exact .inr h

theorem Chain.length_le_of_one_tag {n : Nat} (hdepth : ∀ gs, Chain values v.plainText gs → gs.length ≤ n)
    {gs : List Tag} (h : Chain values t gs) : gs.length ≤ n + 1 := by
  cases h with
  | nil => exact Nat.zero_le _
  | cons hg hv' h =>
    rw [hall, List.mem_singleton] at hg
    subst hg
    rw [hv, Option.some.injEq] at hv'
    subst hv'
    exact Nat.succ_le_succ (hdepth _ h)

theorem IsPlain.of_one_tag (hplain : ∀ c, .plain c ∈ segments livePattern t → c ≠ '$') (hbare : g.IsBare) :
    IsPlain values t := by
  refine ⟨hplain, ?_, ?_⟩ <;> simp only [hall, List.mem_singleton, forall_eq]
  · exact hbare
  · exact ⟨v, hv⟩

end OneTag

/-- Lowering takes no tag away. -/
theorem all_shown (v : Value) : Tag.all livePattern (v.shown lower) = Tag.all livePattern v.plainText := by
  rcases Secret.lowerBool_cases lower v.plainText with hsame | ⟨hdollar, hdollar'⟩
  · rw [Value.shown, hsame]
  · rw [Value.shown, all_of_no_dollar hdollar, all_of_no_dollar hdollar']

/-! ## One pass -/

/-- What a pass makes of a segment. -/
def nextSegments (values : ValueMap) (lower : Bool) : Segment → List Segment
  | .plain c => [.plain c]
  | .tag g => match values.get? g.key with
    | some v => segments livePattern (v.shown lower)
    | none => [.tag g]

theorem nextSegments_tag {g : Tag} {v : Value} (h : values.get? g.key = some v) :
    nextSegments values lower (.tag g) = segments livePattern (v.shown lower) := by
  rw [nextSegments, h]

/-- What is expanded after a pass is an expansion of what was there before it. -/
theorem Expansion.of_nextSegments {segs : List Segment} {r : Text}
    (hknown : ∀ g, .tag g ∈ segs → ∃ v, values.get? g.key = some v)
    (h : Expansion values lower (segs.flatMap (nextSegments values lower)) r) : Expansion values lower segs r := by
  induction segs generalizing r with
  | nil => exact h
  | cons s segs ih =>
    rw [List.flatMap_cons] at h
    obtain ⟨a, a', rfl, ha, ha'⟩ := of_append h
    have hrest := ih (fun g hg => hknown g (List.mem_cons_of_mem s hg)) ha'
    cases s with
    | plain c =>
      cases ha with
      | plain ha =>
        cases ha
        exact .plain hrest
    | tag g =>
      obtain ⟨v, hv⟩ := hknown g (List.mem_cons_self ..)
      rw [nextSegments_tag hv] at ha
      exact .tag hv ha hrest

/-- The text after a pass. -/
def nextText (values : ValueMap) (lower : Bool) (t : Text) : Text :=
  ((segments livePattern t).flatMap (nextSegments values lower)).flatMap Segment.raw

section Pass

variable {t : Text} (ht : IsPlain values t)
variable (hvalues : ∀ g ∈ Tag.all livePattern t, ∀ v, values.get? g.key = some v → IsPlain values v.plainText)

include ht hvalues

/-- A segment after a pass was there before, and is no tag, or it comes from a value. -/
theorem mem_nextSegments {s : Segment} (hs : s ∈ (segments livePattern t).flatMap (nextSegments values lower)) :
    (∃ c, s = .plain c ∧ .plain c ∈ segments livePattern t) ∨
    ∃ g ∈ Tag.all livePattern t, ∃ v, values.get? g.key = some v ∧ IsPlain values (v.shown lower) ∧
      s ∈ segments livePattern (v.shown lower) := by
  obtain ⟨s', hs', hs⟩ := List.mem_flatMap.1 hs
  cases s' with
  | plain c =>
    rw [nextSegments, List.mem_singleton] at hs
    exact .inl ⟨c, hs, hs'⟩
  | tag g =>
    have hg := Tag.mem_all.2 hs'
    obtain ⟨v, hv⟩ := ht.known g hg
    rw [nextSegments_tag hv] at hs
    exact .inr ⟨g, hg, v, hv, (hvalues g hg v hv).shown, hs⟩

/-- The segments after a pass are those of the texts that were put in. -/
theorem segments_nextText : segments livePattern (nextText values lower t) =
    (segments livePattern t).flatMap (nextSegments values lower) := by
  refine Tag.segments_flatMap_raw fun s hs => ?_
  rcases mem_nextSegments ht hvalues hs with ⟨c, rfl, hc⟩ | ⟨g, _, v, _, hplain, hs⟩
  · exact ht.noDollar c hc
  · exact hplain.steady s hs

/-- A tag after a pass stands in the text of the value of a tag before it. -/
theorem mem_all_nextText {g : Tag} (h : g ∈ Tag.all livePattern (nextText values lower t)) :
    ∃ g' ∈ Tag.all livePattern t, ∃ v, values.get? g'.key = some v ∧ IsPlain values v.plainText ∧
      g ∈ Tag.all livePattern v.plainText := by
  rw [Tag.mem_all, segments_nextText ht hvalues] at h
  rcases mem_nextSegments ht hvalues h with ⟨c, heq, _⟩ | ⟨g', hg', v, hv, _, hs⟩
  · cases heq
  · rw [← Tag.mem_all, all_shown] at hs
    exact ⟨g', hg', v, hv, hvalues g' hg' v hv, hs⟩

theorem IsPlain.nextText : IsPlain values (nextText values lower t) where
  noDollar c hc := by
    rw [segments_nextText ht hvalues] at hc
    rcases mem_nextSegments ht hvalues hc with ⟨d, heq, hd⟩ | ⟨g, _, v, _, hplain, hs⟩
    · cases heq
      exact ht.noDollar c hd
    · exact hplain.noDollar c hs
  bare g hg := by
    obtain ⟨_, _, v, _, hplain, hmem⟩ := mem_all_nextText ht hvalues hg
    exact hplain.bare g hmem
  known g hg := by
    obtain ⟨_, _, v, _, hplain, hmem⟩ := mem_all_nextText ht hvalues hg
    exact hplain.known g hmem

/-- A pass leads to no text of a value that was not led to before. -/
theorem Leads.of_pass {u : Text} (h : Leads values (nextText values lower t) u) :
    u = nextText values lower t ∨ Leads values t u := by
  cases h with
  | start => exact .inl rfl
  | cons hg hv h =>
    obtain ⟨g', hg', v', hv', _, hmem⟩ := mem_all_nextText ht hvalues hg
    exact .inr (.cons hg' hv' (.cons hmem hv h))

/-- A pass takes the first tag off each chain. -/
theorem Chain.of_pass {g : Tag} {gs : List Tag} (h : Chain values (nextText values lower t) (g :: gs)) :
    ∃ g', Chain values t (g' :: g :: gs) := by
  cases h with
  | cons hg hv hrest =>
    obtain ⟨g', hg', v', hv', _, hmem⟩ := mem_all_nextText ht hvalues hg
    exact ⟨g', .cons hg' hv' (.cons hmem hv hrest)⟩

/-- A text with tags that a pass leaves unchanged has chains of every length. -/
theorem nextText_ne {n : Nat} (hall : Tag.all livePattern t ≠ []) (hdepth : ∀ gs, Chain values t gs → gs.length ≤ n) :
    nextText values lower t ≠ t := by
  intro hsame
  -- The pass takes a tag off each chain of a text that is still the same, so each chain can be made longer.
  have hlong : ∀ m, ∃ g gs, Chain values t (g :: gs) ∧ gs.length = m := by
    intro m
    induction m with
    | zero =>
      obtain ⟨g, gs, heq⟩ := List.exists_cons_of_ne_nil hall
      have hg : g ∈ Tag.all livePattern t := by rw [heq]; exact List.mem_cons_self ..
      obtain ⟨v, hv⟩ := ht.known g hg
      exact ⟨g, [], .cons hg hv .nil, rfl⟩
    | succ m ih =>
      obtain ⟨g, gs, hchain, hlen⟩ := ih
      rw [← hsame] at hchain
      obtain ⟨g', hchain'⟩ := hchain.of_pass ht hvalues
      exact ⟨g', g :: gs, hchain', by rw [List.length_cons, hlen]⟩
  obtain ⟨g, gs, hchain, hlen⟩ := hlong n
  have := hdepth _ hchain
  rw [List.length_cons] at this
  omega

end Pass

namespace Builder

variable {b : Builder} {sources : Sources}

theorem stripMarker_of_bare {g : Tag} (h : g.IsBare) : Secret.stripMarker g.key = (g.key, false) := by
  rw [Secret.stripMarker, h.noSecret, h.noShasec]

theorem not_secrets_of_bare {g : Tag} (h : g.IsBare) : Text.sameUpToAsciiCase g.key Secret.secretsKey = false := by
  have hlow : Unicode.toLower g.key = g.key := Unicode.toLower_eq_self Unicode.lowered_toLower
  rw [Secret.sameUpToAsciiCase_secretsKey hlow]
  exact decide_eq_false h.notSecrets

/-- A bare tag becomes the text of its value, and the cipher is not asked. -/
theorem resolveTag_bare {g : Tag} {v : Value} (h : g.IsBare) (hv : sources.values.get? g.key = some v) (j : Journal) :
    resolveTag b sources g j = .ok (some (v.shown b.options.boolToLower), j) := by
  have hkey : resolveKey sources g g.key = pure (some v.plainText) := by
    rw [resolveKey, Clause.ofTag, h.noClause, h.notReserved, if_neg Bool.false_ne_true, hv]
    rfl
  have hwrap : wrapSecret b.options sources.cipher g.key g.raw v.plainText false j =
      .ok (v.shown b.options.boolToLower, j) := by
    rw [wrapSecret_eq, Secret.wrap, not_secrets_of_bare h]
    rfl
  rw [resolveTag_eq, stripMarker_of_bare h, hkey, pure_bind]
  exact Run.bind_ok hwrap

/-- Bare tags become the texts of their values, those met before no less than the others. -/
theorem replaceSegments_plain {t : Text} (ht : IsPlain sources.values t) {segs : List Segment}
    (hsegs : ∀ s ∈ segs, s ∈ segments livePattern t) {resolved : Resolved}
    (hresolved : ∀ g, .tag g ∈ segs → ∀ text, resolved.lookup g.raw = some text →
      text.getD g.raw = (nextSegments sources.values b.options.boolToLower (.tag g)).flatMap Segment.raw)
    (j : Journal) :
    replaceSegments b sources resolved segs j =
      .ok ((segs.flatMap (nextSegments sources.values b.options.boolToLower)).flatMap Segment.raw, j) := by
  induction segs generalizing resolved with
  | nil => rfl
  | cons s segs ih =>
    have hrest := fun s' hs' => hsegs s' (List.mem_cons_of_mem s hs')
    cases s with
    | plain c =>
      rw [replaceSegments, Run.bind_ok (ih hrest fun g hg => hresolved g (List.mem_cons_of_mem _ hg))]
      rfl
    | tag g =>
      have hmem := hsegs _ (List.mem_cons_self ..)
      obtain ⟨v, hv⟩ := ht.known g (Tag.mem_all.2 hmem)
      have hnext : (nextSegments sources.values b.options.boolToLower (.tag g)).flatMap Segment.raw =
          v.shown b.options.boolToLower := by
        rw [nextSegments_tag hv, Tag.flatMap_raw_segments]
      rw [replaceSegments, List.flatMap_cons, List.flatMap_append]
      cases htext : resolved.lookup g.raw with
      | some text =>
        dsimp only
        rw [Run.bind_ok (ih hrest fun g' hg' => hresolved g' (List.mem_cons_of_mem _ hg')),
          hresolved g (List.mem_cons_self ..) text htext]
        rfl
      | none =>
        dsimp only
        rw [Run.bind_ok (resolveTag_bare (ht.bare g (Tag.mem_all.2 hmem)) hv j), Run.bind_ok (ih hrest ?_), hnext]
        · rfl
        -- A later tag with the same raw text is the same tag, so it may become what this one became.
        · intro g' hg' text htext
          rw [List.lookup_cons] at htext
          split at htext
          next hraw =>
            have heq := (ht.steady _ (hrest _ hg')).eq_of_raw_eq (ht.steady _ hmem) (eq_of_beq hraw)
            rw [Option.some.injEq] at htext
            rw [← htext, heq, hnext]
            rfl
          next => exact hresolved g' (List.mem_cons_of_mem _ hg') text htext

theorem substitute_plain (hb : b.pattern = livePattern) {t : Text} (ht : IsPlain sources.values t) (j : Journal) :
    b.substitute sources t j = .ok (nextText sources.values b.options.boolToLower t, j) := by
  rw [substitute, hb]
  exact replaceSegments_plain ht (fun _ h => h) (fun g _ text h => by simp at h) j

theorem passes_without_tags (hb : b.pattern = livePattern) {t : Text} (ht : IsPlain values t)
    (hall : Tag.all livePattern t = []) :
    Expansion values lower (segments livePattern t) t ∧
      ∀ sources strict first left j, b.passes sources strict left first t j = .ok (t, j) := by
  have hdollar := ht.no_dollar hall
  refine ⟨?_, fun sources strict first left j => ?_⟩
  · rw [Tag.segments_of_no_dollar hdollar]
    exact .of_plain t
  · rw [passes_settled (by rw [hb, hall]), finish_of_no_dollar hdollar]

/-- As many passes as the longest chain has tags expand a plain text. -/
theorem passes_plain (hb : b.pattern = livePattern) {n : Nat} {t : Text}
    (hplain : ∀ u, Leads values t u → IsPlain values u) (hdepth : ∀ gs, Chain values t gs → gs.length ≤ n) :
    ∃ r, Expansion values b.options.boolToLower (segments livePattern t) r ∧
      ∀ sources : Sources, sources.values = values → ∀ strict first left j, n ≤ left →
        b.passes sources strict left first t j = .ok (r, j) := by
  induction n generalizing t with
  | zero =>
    have ht := hplain t .start
    have hall : Tag.all livePattern t = [] := by
      refine List.eq_nil_iff_forall_not_mem.2 fun g hg => ?_
      obtain ⟨v, hv⟩ := ht.known g hg
      exact absurd (hdepth [g] (.cons hg hv .nil)) (Nat.not_succ_le_zero _)
    obtain ⟨hexp, hrun⟩ := passes_without_tags hb ht hall
    exact ⟨t, hexp, fun sources _ strict first left j _ => hrun sources strict first left j⟩
  | succ n ih =>
    have ht := hplain t .start
    have hvalues : ∀ g ∈ Tag.all livePattern t, ∀ v, values.get? g.key = some v → IsPlain values v.plainText :=
      fun g hg v hv => hplain _ (.cons hg hv .start)
    by_cases hall : Tag.all livePattern t = []
    · obtain ⟨hexp, hrun⟩ := passes_without_tags hb ht hall
      exact ⟨t, hexp, fun sources _ strict first left j _ => hrun sources strict first left j⟩
    · have hplain' : ∀ u, Leads values (nextText values b.options.boolToLower t) u → IsPlain values u := by
        intro u hu
        rcases hu.of_pass ht hvalues with rfl | hu
        · exact ht.nextText hvalues
        · exact hplain u hu
      have hdepth' : ∀ gs, Chain values (nextText values b.options.boolToLower t) gs → gs.length ≤ n := by
        intro gs hgs
        cases gs with
        | nil => exact Nat.zero_le n
        | cons g gs =>
          obtain ⟨g', hchain⟩ := hgs.of_pass ht hvalues
          exact Nat.le_of_succ_le_succ (hdepth _ hchain)
      obtain ⟨r, hexp, hrun⟩ := ih hplain' hdepth'
      rw [segments_nextText ht hvalues] at hexp
      refine ⟨r, hexp.of_nextSegments fun g hg => ht.known g (Tag.mem_all.2 hg), ?_⟩
      rintro sources rfl strict first left j hle
      obtain ⟨left, rfl⟩ : ∃ m, left = m + 1 := ⟨left - 1, by omega⟩
      have hadv : b.Advances sources t j (nextText sources.values b.options.boolToLower t) j :=
        ⟨by rwa [hb], substitute_plain hb ht j, nextText_ne ht hvalues hall hdepth⟩
      rw [hadv.passes_eq]
      exact hrun sources rfl strict false left j (Nat.le_of_succ_le_succ hle)

/-- **The passes compute the recursive expansion.** Let the template be plain, and the texts of all values that
its tags lead to; and let no chain of tags that begins in the template be longer than the passes that are
allowed. Then there is one expansion of the template, and every run gives it, whatever the configuration and
the cipher are. -/
theorem parse_eq_expansion (b : Builder) (values : ValueMap) (t : Text) (hb : b.pattern = Tag.livePattern)
    (hne : t ≠ []) (hplain : ∀ u, Leads values t u → IsPlain values u)
    (hdepth : ∀ gs, Chain values t gs → gs.length ≤ b.options.maxPasses) :
    ∃ r, Expansion values b.options.boolToLower (Tag.segments Tag.livePattern t) r ∧
      (∀ r', Expansion values b.options.boolToLower (Tag.segments Tag.livePattern t) r' → r' = r) ∧
      ∀ config cipher supply strict, b.parse ⟨values, config, cipher, supply⟩ strict t = .ok r := by
  obtain ⟨r, hexp, hrun⟩ := passes_plain hb hplain hdepth
  refine ⟨r, hexp, fun r' h => hexp.unique h, fun config cipher supply strict => ?_⟩
  rw [parse_of_reaches hne (Nat.zero_add _).symm .refl, hrun _ rfl strict _ _ _ (Nat.le_refl _)]
  rfl

/-- Values of which one has the other in its text. -/
def nestedValues : ValueMap :=
  .ofList [(['a'], .string ['$', '{', 'b', '}', '!']), (['b'], .boolean true)]

/-- Two passes are enough for a chain of two tags. -/
theorem parse_nestedValues :
    Expansion nestedValues true (segments livePattern ['$', '{', 'a', '}']) ['t', 'r', 'u', 'e', '!'] ∧
    ∀ config cipher supply strict,
      ({ options := { maxPasses := 2 } } : Builder).parse ⟨nestedValues, config, cipher, supply⟩ strict
        ['$', '{', 'a', '}'] = .ok ['t', 'r', 'u', 'e', '!'] := by
  let a : Tag := ⟨['$', '{', 'a', '}'], ['a'], none⟩
  let b : Tag := ⟨['$', '{', 'b', '}'], ['b'], none⟩
  obtain ⟨ha, hb⟩ : segments livePattern ['$', '{', 'a', '}'] = [.tag a] ∧
      segments livePattern ['$', '{', 'b', '}', '!'] = [.tag b, .plain '!'] := by
    constructor <;> rw [Tag.livePattern_delimited.segments_eq_cut] <;> cbv
  have halla : Tag.all livePattern ['$', '{', 'a', '}'] = [a] := by rw [Tag.all, ha]; rfl
  have hallb : Tag.all livePattern ['$', '{', 'b', '}', '!'] = [b] := by rw [Tag.all, hb]; rfl
  have hva : nestedValues.get? a.key = some (.string ['$', '{', 'b', '}', '!']) := rfl
  have hvb : nestedValues.get? b.key = some (.boolean true) := rfl
  have htrue : '$' ∉ (Value.boolean true).plainText := by decide
  have hplain : ∀ u, Leads nestedValues ['$', '{', 'a', '}'] u → IsPlain nestedValues u := by
    intro u hu
    rcases hu.of_one_tag halla hva with rfl | hu
    · exact .of_one_tag halla hva (by simp [ha]) ⟨rfl, by decide, by decide, by decide, by decide⟩
    · rcases hu.of_one_tag hallb hvb with rfl | hu
      · exact .of_one_tag hallb hvb (by simp [hb]) ⟨rfl, by decide, by decide, by decide, by decide⟩
      · rw [hu.eq_of_no_dollar htrue]
        exact .of_no_dollar htrue
  have hdepth : ∀ gs, Chain nestedValues ['$', '{', 'a', '}'] gs → gs.length ≤ 2 := fun gs hgs =>
    hgs.length_le_of_one_tag halla hva fun gs hgs => hgs.length_le_of_one_tag hallb hvb fun gs hgs => by
      rw [hgs.eq_nil_of_no_dollar htrue]
      exact Nat.le_refl 0
  have hexp : Expansion nestedValues true (segments livePattern ['$', '{', 'a', '}']) ['t', 'r', 'u', 'e', '!'] := by
    have hshown : (Value.boolean true).shown true = ['t', 'r', 'u', 'e'] := by decide +kernel
    have hinner : Expansion nestedValues true (segments livePattern ['$', '{', 'b', '}', '!'])
        ['t', 'r', 'u', 'e', '!'] := by
      rw [hb]
      refine .tag (a := ['t', 'r', 'u', 'e']) hvb ?_ (.plain .nil)
      rw [hshown, Tag.segments_of_no_dollar (by decide)]
      exact .of_plain _
    rw [ha]
    exact .tag (r := []) hva hinner .nil
  obtain ⟨r, _, hunique, hrun⟩ := parse_eq_expansion { options := { maxPasses := 2 } } nestedValues
    ['$', '{', 'a', '}'] rfl (by decide) hplain hdepth
  refine ⟨hexp, ?_⟩
  rw [hunique _ hexp]
  exact hrun

end Builder

end Placeholder
