/-
Tags that share a result. A pass resolves each raw text once, where it first stands, and puts what comes of it in the
place of every tag with that text (`substitute_first`). For the default pattern a raw text is one tag. A caller's
pattern may look at what stands next to a tag, and make of one text now this tag and now that one; then the tags share
the result all the same, though their keys differ (`substitute_between_others`).

It takes no more than that: tags with one text are one tag if they stand between the same characters, and so are all of
them if the pattern does not look around. What they share is their own then (`shared_of_around_eq`).
-/
import Placeholder.Proofs.Expansion.Substitution
import Placeholder.Proofs.Tag.Places

namespace Placeholder.Builder

variable {b : Builder} {s : Sources} {g : Tag} {v : Option Text} {t u : Text} {j k : Journal}

/-- What becomes of a tag, whatever the cipher was asked before; a generator draws from some position on. -/
def ComesTo (b : Builder) (s : Sources) (g : Tag) (v : Option Text) : Prop :=
  ∃ first, ∀ j : Journal, (isReserved (Secret.stripMarker g.key).1 = true → j.drawn = first) →
    ∃ k, resolveTag b s g j = .ok (v, k)

theorem comesTo_of_pure (hpure : s.cipher.IsPure) (h : resolveTag b s g j = .ok (v, k)) : ComesTo b s g v :=
  ⟨j.drawn, fun _ hdrawn => resolveTag_again hpure h hdrawn⟩

/-! ## The first of its text -/

/-- The first of some tags that has the given text. -/
def firstWith (raw : Text) (tags : List Tag) : Option Tag := tags.find? (·.raw = raw)

theorem firstWith_cons (raw : Text) (g : Tag) (tags : List Tag) :
    firstWith raw (g :: tags) = if g.raw = raw then some g else firstWith raw tags := by
  rw [firstWith, List.find?_cons]
  by_cases h : g.raw = raw <;> simp [h, firstWith]

theorem exists_firstWith {tags : List Tag} (h : g ∈ tags) : ∃ g', firstWith g.raw tags = some g' :=
  Option.isSome_iff_exists.1 (List.find?_isSome.2 ⟨g, h, by simp⟩)

/-- What the pass puts in is what the table has for a raw text, or what becomes of the first tag with it. -/
theorem replaceSegments_first {segs : List Tag.Segment} {resolved : Resolved}
    (h : replaceSegments b s resolved segs j = .ok (u, k)) :
    ∃ texts : Text → Option Text, (∀ raw v, resolved.lookup raw = some v → texts raw = v) ∧
      u = segs.flatMap (put fun g => texts g.raw) ∧
      ∀ raw g, resolved.lookup raw = none → firstWith raw (segs.filterMap Tag.Segment.tag?) = some g →
        ∃ i l, resolveTag b s g i = .ok (texts raw, l) := by
  induction segs generalizing resolved j u k with
  | nil =>
    cases h
    exact ⟨fun raw => (resolved.lookup raw).join, fun raw v hv => by simp [hv], rfl, fun raw g _ hg => by cases hg⟩
  | cons seg segs ih =>
    cases seg with
    | plain c =>
      obtain ⟨rest, l, hrest, hu⟩ := Run.bind_eq_ok.1 h
      cases hu
      obtain ⟨texts, htable, rfl, hfirst⟩ := ih hrest
      exact ⟨texts, htable, rfl, hfirst⟩
    | tag g =>
      rw [replaceSegments] at h
      rw [filterMap_tag?_cons]
      cases hlookup : resolved.lookup g.raw with
      | some v =>
        rw [hlookup] at h
        obtain ⟨rest, l, hrest, hu⟩ := Run.bind_eq_ok.1 h
        cases hu
        obtain ⟨texts, htable, rfl, hfirst⟩ := ih hrest
        refine ⟨texts, htable, ?_, fun raw g' hraw hg' => ?_⟩
        · rw [List.flatMap_cons, put, htable g.raw v hlookup]
        · rw [firstWith_cons, if_neg] at hg'
          · exact hfirst raw g' hraw hg'
          · rintro rfl
            rw [hraw] at hlookup
            cases hlookup
      | none =>
        rw [hlookup] at h
        obtain ⟨v, l, hv, h⟩ := Run.bind_eq_ok.1 h
        obtain ⟨rest, l', hrest, hu⟩ := Run.bind_eq_ok.1 h
        cases hu
        obtain ⟨texts, htable, rfl, hfirst⟩ := ih hrest
        have hself : texts g.raw = v := htable g.raw v (by simp)
        refine ⟨texts, fun raw v' hv' => htable raw v' ?_, ?_, fun raw g' hraw hg' => ?_⟩
        · rw [Text.lookup_cons, if_neg]
          · exact hv'
          · rintro rfl
            rw [hlookup] at hv'
            cases hv'
        · rw [List.flatMap_cons, put, hself]
        · rw [firstWith_cons] at hg'
          split at hg'
          next heq =>
            cases hg'
            exact ⟨j, l, by rw [← heq, hself]; exact hv⟩
          next hne =>
            refine hfirst raw g' ?_ hg'
            rw [Text.lookup_cons, if_neg (Ne.symm hne)]
            exact hraw

/-- **A pass resolves each raw text once**, for the first tag that has it. -/
theorem substitute_first (h : b.substitute s t j = .ok (u, k)) :
    ∃ texts : Text → Option Text, u = (Tag.segments b.pattern t).flatMap (put fun g => texts g.raw) ∧
      ∀ raw g, firstWith raw (Tag.all b.pattern t) = some g → ∃ i l, resolveTag b s g i = .ok (texts raw, l) := by
  obtain ⟨texts, -, hu, hfirst⟩ := replaceSegments_first h
  exact ⟨texts, hu, fun raw g => hfirst raw g rfl⟩

/-! ## Tags with one text -/

theorem firstWith_of_find? {p : Pattern} {raw : Text} {l : Tag.Located}
    (h : (Tag.locate p t).find? (·.tag.raw = raw) = some l) : firstWith raw (Tag.all p t) = some l.tag := by
  rw [firstWith, ← Tag.map_tag_locate, List.find?_map]
  exact congrArg (Option.map _) h

/-- **Sharing is sound for tags that stand between the same characters**, and for all tags of a pattern that does not
look around: if they have one text, then they have one key and one clause. So what a pass puts in the place of a tag,
which is what came of the first tag with its text, is what its own key comes to, if it stands like that first tag. -/
theorem shared_of_around_eq (p : Pattern) (t : Text) :
    (∀ l ∈ Tag.locate p t, ∀ l' ∈ Tag.locate p t, l.tag.raw = l'.tag.raw →
      (p.body.looks = false ∨ l.around t = l'.around t) →
      l.tag.key = l'.tag.key ∧ l.tag.extended = l'.tag.extended) ∧
    ∀ (options : Options) (s : Sources) (j : Journal) (u : Text) (k : Journal),
      substitute ⟨p, options⟩ s t j = .ok (u, k) →
      ∃ texts : Text → Option Text, u = (Tag.segments p t).flatMap (put fun g => texts g.raw) ∧
        ∀ l' ∈ Tag.locate p t, ∃ l, (Tag.locate p t).find? (·.tag.raw = l'.tag.raw) = some l ∧
          (∃ i k, resolveTag ⟨p, options⟩ s l.tag i = .ok (texts l'.tag.raw, k)) ∧
          ((p.body.looks = false ∨ l.around t = l'.around t) →
            (∃ i k, resolveTag ⟨p, options⟩ s l'.tag i = .ok (texts l'.tag.raw, k)) ∧
            (s.cipher.IsPure → ComesTo ⟨p, options⟩ s l'.tag (texts l'.tag.raw))) := by
  refine ⟨fun l hl l' hl' hraw haround => ?_, fun options s j u k h => ?_⟩
  · rw [Tag.tag_eq_of_around_eq hl hl' hraw haround]
    exact ⟨rfl, rfl⟩
  · obtain ⟨texts, hu, hfirst⟩ := substitute_first h
    refine ⟨texts, hu, fun l' hl' => ?_⟩
    have hsome : ((Tag.locate p t).find? (·.tag.raw = l'.tag.raw)).isSome = true :=
      List.find?_isSome.2 ⟨l', hl', by simp⟩
    obtain ⟨l, hl⟩ := Option.isSome_iff_exists.1 hsome
    obtain ⟨i, k', hresolves⟩ := hfirst _ _ (firstWith_of_find? hl)
    refine ⟨l, hl, ⟨i, k', hresolves⟩, fun haround => ?_⟩
    have hraw : l.tag.raw = l'.tag.raw := by simpa using List.find?_some hl
    rw [← Tag.tag_eq_of_around_eq (List.mem_of_find?_eq_some hl) hl' hraw haround, hraw]
    exact ⟨⟨i, k', hresolves⟩, fun hpure => comesTo_of_pure hpure hresolves⟩

/-- An `x` leads to the key, but at the start of a line it is part of it. -/
def leadPattern : Pattern where
  source := "(?:^|x)(?P<var>x?k)".toList
  body := .seq (.either (.look .lineStart) (.one (.chars ['x', 'X'])))
    (.group 1 (.seq (.optional true (.one (.chars ['x', 'X']))) (.one (.literal true 'k'))))
  groups := [("var".toList, 1)]

theorem withPattern_leadPattern : withPattern leadPattern.source = .ok { pattern := leadPattern } := by
  decide +kernel

/-- Both tags stand between blanks. -/
theorem shared_of_around_eq_blanks :
    let s : Sources := { values := .ofList [("xk".toList, .string ['1']), (['k'], .string ['2'])] }
    let t : Text := " xk xk ".toList
    ∃ l ∈ Tag.locate leadPattern t, ∃ l' ∈ Tag.locate leadPattern t, l.start ≠ l'.start ∧ l.tag.raw = l'.tag.raw ∧
      l.around t = l'.around t ∧ l.tag.key = l'.tag.key ∧ ComesTo ⟨leadPattern, {}⟩ s l'.tag (some ['2']) := by
  intro s t
  let g : Tag := ⟨"xk".toList, ['k'], none⟩
  have hsegs : Tag.segments leadPattern t = [.plain ' ', .tag g, .plain ' ', .tag g, .plain ' '] := by decide +kernel
  have hlocate : Tag.locate leadPattern t = [⟨g, 1, 3⟩, ⟨g, 4, 6⟩] := by
    rw [Tag.locate, hsegs]
    rfl
  have hpass : substitute ⟨leadPattern, {}⟩ s t {} = .ok (" 2 2 ".toList, {}) := by
    rw [substitute, hsegs]
    rfl
  have hresolves : ∀ j, resolveTag ⟨leadPattern, {}⟩ s g j = .ok (some ['2'], j) := fun _ => rfl
  obtain ⟨hsame, hshare⟩ := shared_of_around_eq leadPattern t
  obtain ⟨texts, -, hown⟩ := hshare {} s {} _ _ hpass
  have hl : (⟨g, 1, 3⟩ : Tag.Located) ∈ Tag.locate leadPattern t := by simp [hlocate]
  have hl' : (⟨g, 4, 6⟩ : Tag.Located) ∈ Tag.locate leadPattern t := by simp [hlocate]
  have haround : (⟨g, 1, 3⟩ : Tag.Located).around t = (⟨g, 4, 6⟩ : Tag.Located).around t := rfl
  refine ⟨_, hl, _, hl', by decide, rfl, haround, (hsame _ hl _ hl' rfl (.inr haround)).1, ?_⟩
  obtain ⟨l, hfirst, ⟨i, k, hi⟩, hpure⟩ := hown _ hl'
  obtain rfl : (⟨g, 1, 3⟩ : Tag.Located) = l := by
    rw [hlocate] at hfirst
    exact Option.some.inj hfirst
  rw [hresolves, Except.ok.injEq, Prod.mk.injEq] at hi
  rw [hi.1]
  exact (hpure (.inr haround)).2 (Secret.Cipher.isPure_ofFun Secret.Call.value)

/-- Only the first of two tags stands at the start of the line, and its key is another one; the second tag becomes what
the first one does, and not what its own key comes to. -/
theorem shared_at_start_of_line :
    let s : Sources := { values := .ofList [("xk".toList, .string ['1']), (['k'], .string ['2'])] }
    let t : Text := "xk xk".toList
    withPattern leadPattern.source = .ok { pattern := leadPattern } ∧
    (∃ l ∈ Tag.locate leadPattern t, ∃ l' ∈ Tag.locate leadPattern t, l.tag.raw = l'.tag.raw ∧ l.tag.key ≠ l'.tag.key ∧
      ∀ j, resolveTag ⟨leadPattern, {}⟩ s l'.tag j = .ok (some ['2'], j)) ∧
    parse ⟨leadPattern, {}⟩ s false t = .ok "1 1".toList := by
  intro s t
  let g : Tag := ⟨"xk".toList, "xk".toList, none⟩
  let g' : Tag := ⟨"xk".toList, ['k'], none⟩
  have hsegs : Tag.segments leadPattern t = [.tag g, .plain ' ', .tag g'] := by decide +kernel
  have hlocate : Tag.locate leadPattern t = [⟨g, 0, 2⟩, ⟨g', 3, 5⟩] := by
    rw [Tag.locate, hsegs]
    rfl
  have hpass : substitute ⟨leadPattern, {}⟩ s t {} = .ok ("1 1".toList, {}) := by
    rw [substitute, hsegs]
    rfl
  have hlive : Tag.all leadPattern t ≠ [] := by
    rw [Tag.all, hsegs]
    decide
  have hsettled : Tag.all leadPattern "1 1".toList = [] := by decide +kernel
  have hreach : Reaches ⟨leadPattern, {}⟩ s 1 t {} "1 1".toList {} := .step ⟨hlive, hpass, by decide⟩ .refl
  refine ⟨withPattern_leadPattern, ⟨⟨g, 0, 2⟩, by simp [hlocate], ⟨g', 3, 5⟩, by simp [hlocate], rfl, ?_, ?_⟩, ?_⟩
  · decide +kernel
  · exact fun _ => rfl
  · rw [parse_of_reaches (by decide) (show _ = 1 + 63 from rfl) hreach, passes_settled hsettled,
      finish_of_no_dollar (by decide)]
    rfl

end Placeholder.Builder
