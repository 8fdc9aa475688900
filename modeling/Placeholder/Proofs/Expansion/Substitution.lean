/-
One pass replaces all tags at once. It keeps a table of the raw texts it has met, and since one raw text is one
tag, the table knows for each tag met before what it has become. So the pass resolves the distinct tags of the
text, each once and in the order in which they first appear (`InTurn`), and puts the results in place
(`substitute_simultaneous`).

With a pure cipher the table only saves work: a pass that resolves each tag anew where it stands (`replaceEach`)
gives the same text, as long as a generator that is met again takes the draws it took where it was met first. A
cipher that looks at the calls before can tell the two passes apart, and so the calls are followed too.
-/
import Placeholder.Proofs.Expansion.Alike
import Placeholder.Proofs.Tag.Context

namespace Placeholder.Builder

variable {b : Builder} {s : Sources} {g : Tag}

/-! ## Distinct tags -/

theorem map_eraseDups {α β : Type} [BEq α] [LawfulBEq α] [BEq β] [LawfulBEq β] (f : α → β) (l : List α)
    (h : ∀ x ∈ l, ∀ y ∈ l, f x = f y → x = y) : l.eraseDups.map f = (l.map f).eraseDups := by
  match l with
  | [] => rfl
  | x :: l =>
    have hfilter : (l.map f).filter (fun z => !z == f x) = (l.filter fun y => !y == x).map f := by
      rw [List.filter_map]
      congr 1
      refine List.filter_congr fun y hy => ?_
      have hiff : f y = f x ↔ y = x :=
        ⟨h y (List.mem_cons_of_mem x hy) x (List.mem_cons_self ..), congrArg f⟩
      rw [Bool.eq_iff_iff]
      simp only [Function.comp, Bool.not_eq_true', beq_eq_false_iff_ne, ne_eq, hiff]
    rw [List.eraseDups_cons, List.map_cons, List.map_cons, List.eraseDups_cons, hfilter, map_eraseDups f _ ?_]
    intro y hy z hz
    exact h y (List.mem_cons_of_mem x (List.mem_filter.1 hy).1) z
      (List.mem_cons_of_mem x (List.mem_filter.1 hz).1)
termination_by l.length
decreasing_by exact Nat.lt_succ_of_le (List.length_filter_le _ _)

/-- The tags of a list that were not done before, each once. -/
def unseen (done tags : List Tag) : List Tag := (tags.filter (· ∉ done)).eraseDups

theorem unseen_nil_left (tags : List Tag) : unseen [] tags = tags.eraseDups := by
  rw [unseen, List.filter_eq_self.2 fun _ _ => by simp]

theorem unseen_cons_of_mem {done : List Tag} (h : g ∈ done) (tags : List Tag) :
    unseen done (g :: tags) = unseen done tags := by
  simp [unseen, h]

theorem unseen_cons_of_not_mem {done : List Tag} (h : g ∉ done) (tags : List Tag) :
    unseen done (g :: tags) = g :: unseen (g :: done) tags := by
  have hfilter : (tags.filter (· ∉ done)).filter (fun g' => !g' == g) = tags.filter (· ∉ g :: done) := by
    rw [List.filter_filter]
    refine List.filter_congr fun g' _ => ?_
    rw [Bool.eq_iff_iff]
    simp
  rw [unseen, List.filter_cons_of_pos (by simpa using h), List.eraseDups_cons, hfilter, unseen]

theorem mem_unseen {done tags : List Tag} : g ∈ unseen done tags ↔ g ∈ tags ∧ g ∉ done := by
  simp [unseen]

theorem filterMap_tag?_cons (g : Tag) (segs : List Tag.Segment) :
    (.tag g :: segs).filterMap Tag.Segment.tag? = g :: segs.filterMap Tag.Segment.tag? := rfl

/-! ## Resolving in turn -/

/-- The tags of a list are resolved one after the other: `before g` is the journal from which `g` is resolved,
and `texts g` what comes of it. -/
inductive InTurn (b : Builder) (s : Sources) (before : Tag → Journal) (texts : Tag → Option Text) :
    List Tag → Journal → Journal → Prop
  | nil {j} : InTurn b s before texts [] j j
  | cons {g tags j k l} : before g = j → resolveTag b s g j = .ok (texts g, k) →
      InTurn b s before texts tags k l → InTurn b s before texts (g :: tags) j l

section

variable {before before' : Tag → Journal} {texts texts' : Tag → Option Text} {tags : List Tag} {j k : Journal}

theorem InTurn.congr (h : InTurn b s before texts tags j k) (hbefore : ∀ g ∈ tags, before' g = before g)
    (htexts : ∀ g ∈ tags, texts' g = texts g) : InTurn b s before' texts' tags j k := by
  induction h with
  | nil => exact .nil
  | @cons g tags j k l hj hg _ ih =>
    have hhead : g ∈ g :: tags := List.mem_cons_self ..
    refine .cons ?_ ?_ (ih (fun g' hg' => hbefore g' (List.mem_cons_of_mem g hg'))
      fun g' hg' => htexts g' (List.mem_cons_of_mem g hg'))
    · rw [hbefore g hhead, hj]
    · rw [htexts g hhead, hg]

theorem exists_inTurn (h : ∀ g ∈ tags, ∀ j, ∃ v k, resolveTag b s g j = .ok (v, k)) (done : List Tag) (j : Journal) :
    ∃ before texts k, InTurn b s before texts (unseen done tags) j k := by
  induction tags generalizing done j with
  | nil => exact ⟨fun _ => j, fun _ => none, j, .nil⟩
  | cons g tags ih =>
    have htail := ih fun g' hg' => h g' (List.mem_cons_of_mem g hg')
    by_cases hdone : g ∈ done
    · rw [unseen_cons_of_mem hdone]
      exact htail done j
    · obtain ⟨v, k, hg⟩ := h g (List.mem_cons_self ..) j
      obtain ⟨before, texts, l, hturn⟩ := htail (g :: done) k
      -- The tag itself is none of those that follow, so its entry can be set apart from theirs.
      have hne : ∀ g' ∈ unseen (g :: done) tags, g' ≠ g := by
        rintro g' hg' rfl
        exact (mem_unseen.1 hg').2 (List.mem_cons_self ..)
      refine ⟨fun g' => if g' = g then j else before g', fun g' => if g' = g then v else texts g', l, ?_⟩
      rw [unseen_cons_of_not_mem hdone]
      refine .cons (if_pos rfl) ?_ (hturn.congr (fun g' hg' => if_neg (hne g' hg')) fun g' hg' => if_neg (hne g' hg'))
      rw [if_pos rfl]
      exact hg

theorem InTurn.resolves (h : InTurn b s before texts tags j k) (hg : g ∈ tags) :
    ∃ l, resolveTag b s g (before g) = .ok (texts g, l) := by
  induction h with
  | nil => cases hg
  | @cons g' tags j k l hj hg' _ ih =>
    rcases List.mem_cons.1 hg with rfl | hg
    · exact ⟨k, hj ▸ hg'⟩
    · exact ih hg

/-- What the cipher is asked for tags that are resolved one after the other. -/
theorem InTurn.subjects (h : InTurn b s before texts tags j k) :
    k.calls.map Secret.Call.subject =
      (tags.flatMap fun g => List.replicate (if (texts g).isSome then Secret.asks g.key else 0)
        ((Secret.stripMarker g.key).1, g.raw)).reverse ++ j.calls.map Secret.Call.subject := by
  induction h with
  | nil => rfl
  | cons _ hg _ ih =>
    rw [ih, resolveTag_subjects hg, List.flatMap_cons, List.reverse_append, List.reverse_replicate,
      List.append_assoc]

end

/-! ## The pass -/

/-- What a segment becomes where `texts` tells what the tags become; a tag without a text stays as it is. -/
def put (texts : Tag → Option Text) : Tag.Segment → Text
  | .plain c => [c]
  | .tag g => (texts g).getD g.raw

section

variable {opening closing : Text} {segs : List Tag.Segment}

theorem lookup_done {done : List Tag} (hdone : ∀ g ∈ done, Tag.ReadsBack opening closing g)
    (hg : Tag.ReadsBack opening closing g) (texts : Tag → Option Text) :
    (done.map fun g => (g.raw, texts g)).lookup g.raw = if g ∈ done then some (texts g) else none := by
  induction done with
  | nil => rfl
  | cons g' done ih =>
    have htail := ih fun g hg => hdone g (List.mem_cons_of_mem g' hg)
    rw [List.map_cons, List.lookup_cons]
    by_cases hsame : g = g'
    · subst hsame
      simp
    · have hraw : (g.raw == g'.raw) = false :=
        beq_eq_false_iff_ne.2 fun h => hsame (hg.eq_of_raw_eq (hdone g' (List.mem_cons_self ..)) h)
      simp only [hraw, htail, List.mem_cons, hsame, false_or]

/-- The pass goes through the tags that are not done yet in turn, and its table holds the texts of those done. -/
theorem replaceSegments_inTurn {before : Tag → Journal} {texts : Tag → Option Text} {done : List Tag} {j k : Journal}
    (hdone : ∀ g ∈ done, Tag.ReadsBack opening closing g)
    (hsegs : ∀ g ∈ segs.filterMap Tag.Segment.tag?, Tag.ReadsBack opening closing g)
    (h : InTurn b s before texts (unseen done (segs.filterMap Tag.Segment.tag?)) j k) :
    replaceSegments b s (done.map fun g => (g.raw, texts g)) segs j = .ok (segs.flatMap (put texts), k) := by
  induction segs generalizing done j with
  | nil =>
    cases h
    rfl
  | cons seg segs ih =>
    cases seg with
    | plain c =>
      rw [replaceSegments, Run.bind_ok (ih hdone hsegs h)]
      rfl
    | tag g =>
      rw [filterMap_tag?_cons] at hsegs h
      have hg := hsegs g (List.mem_cons_self ..)
      have htail := fun g' hg' => hsegs g' (List.mem_cons_of_mem g hg')
      rw [replaceSegments, lookup_done hdone hg]
      by_cases hmem : g ∈ done
      · rw [unseen_cons_of_mem hmem] at h
        simp only [hmem, if_true]
        rw [Run.bind_ok (ih hdone htail h)]
        rfl
      · rw [unseen_cons_of_not_mem hmem] at h
        cases h with
        | cons _ hresolve hturn =>
          have hdone' : ∀ g' ∈ g :: done, Tag.ReadsBack opening closing g' := by
            intro g' hg'
            rcases List.mem_cons.1 hg' with rfl | hg'
            · exact hg
            · exact hdone g' hg'
          have hrest := ih hdone' htail hturn
          rw [List.map_cons] at hrest
          simp only [hmem, if_false]
          rw [Run.bind_ok hresolve, Run.bind_ok hrest]
          rfl

/-- The first tag that errs ends the pass: no tag before it does, and so none that the table holds. -/
theorem replaceSegments_errs {resolved : Resolved} {earlier later : List Tag} {f : Fault} {j : Journal}
    (htags : segs.filterMap Tag.Segment.tag? = earlier ++ g :: later)
    (hsegs : ∀ g ∈ segs.filterMap Tag.Segment.tag?, Tag.ReadsBack opening closing g)
    (hearlier : ∀ g' ∈ earlier, ∀ f', ¬ Errs b s g' f') (hg : Errs b s g f)
    (htable : ∀ raw, (resolved.lookup raw).isSome = true →
      ∃ g', Tag.ReadsBack opening closing g' ∧ g'.raw = raw ∧ ∀ f', ¬ Errs b s g' f') :
    replaceSegments b s resolved segs j = .error f := by
  induction segs generalizing resolved earlier j with
  | nil => simp at htags
  | cons seg segs ih =>
    cases seg with
    | plain c =>
      rw [replaceSegments, Run.bind_error (ih htags hsegs hearlier htable)]
    | tag g' =>
      rw [filterMap_tag?_cons] at hsegs htags
      have hback := hsegs g' (List.mem_cons_self ..)
      have htail := fun g hg => hsegs g (List.mem_cons_of_mem g' hg)
      rw [replaceSegments]
      cases earlier with
      | nil =>
        obtain ⟨rfl, -⟩ := List.cons.inj htags
        cases hlookup : resolved.lookup g'.raw with
        | some v =>
          obtain ⟨g₀, hback₀, hraw, hok⟩ := htable g'.raw (by rw [hlookup]; rfl)
          rw [hback₀.eq_of_raw_eq hback hraw] at hok
          exact absurd hg (hok f)
        | none => exact Run.bind_error (hg j)
      | cons e earlier =>
        obtain ⟨rfl, hrest⟩ := List.cons.inj htags
        have hok := hearlier g' (List.mem_cons_self ..)
        have hearlier := fun g hg => hearlier g (List.mem_cons_of_mem g' hg)
        cases resolved.lookup g'.raw with
        | some v => exact Run.bind_error (ih hrest htail hearlier htable)
        | none =>
          obtain ⟨v, k, hv⟩ := ((errs_or_resolves b s g').resolve_left (not_exists.2 hok)) j
          refine (Run.bind_ok hv).trans (Run.bind_error (ih hrest htail hearlier fun raw hraw => ?_))
          rw [List.lookup_cons] at hraw
          split at hraw
          next heq => exact ⟨g', hback, (eq_of_beq heq).symm, hok⟩
          next => exact htable raw hraw

end

/-! ## Without the table -/

/-- The text for a tag, with the draws from the position that `draws` tells for it. -/
def resolveDrawing (b : Builder) (s : Sources) (draws : Tag → Nat) (g : Tag) : Run (Option Text) :=
  fun j => resolveTag b s g { j with drawn := draws g }

/-- A pass that resolves each tag anew where it stands. -/
def replaceEach (b : Builder) (s : Sources) (draws : Tag → Nat) : List Tag.Segment → Run Text
  | [] => return []
  | .plain c :: rest => do return c :: (← replaceEach b s draws rest)
  | .tag g :: rest => do
    let value ← resolveDrawing b s draws g
    return value.getD g.raw ++ (← replaceEach b s draws rest)

/-- With a pure cipher a tag becomes the same again, and a tag that is no generator whatever it may draw. -/
theorem resolveTag_again (hpure : s.cipher.IsPure) {i j k : Journal} {v : Option Text}
    (h : resolveTag b s g i = .ok (v, k)) (hdrawn : isReserved (Secret.stripMarker g.key).1 = true → j.drawn = i.drawn) :
    ∃ l, resolveTag b s g j = .ok (v, l) := by
  have hfrom : ∀ {j' : Journal}, j'.drawn = i.drawn → ∃ l, resolveTag b s g j' = .ok (v, l) := by
    intro j' hj'
    have halike : Run.Alike (resolveTag b s g) (resolveTag b s g) := resolveTag_alike rfl hpure rfl
    rcases (halike i j' hj'.symm).cases with ⟨f, hi, -⟩ | ⟨v', k', l, hi, hj, -⟩
    · rw [h] at hi
      cases hi
    · rw [h] at hi
      cases hi
      exact ⟨l, hj⟩
  cases hreserved : isReserved (Secret.stripMarker g.key).1 with
  | true => exact hfrom (hdrawn hreserved)
  | false =>
    obtain ⟨o, ho⟩ := resolveKey_eq_lift (s := s) (g := g) hreserved
    obtain ⟨l, hl⟩ := @hfrom { j with drawn := i.drawn } rfl
    rw [resolveTag_eq, ho] at hl ⊢
    cases o with
    | error f => cases hl
    | ok value =>
      cases value with
      | none =>
        cases hl
        exact ⟨j, rfl⟩
      | some text =>
        cases hl
        exact ⟨_, rfl⟩

theorem replaceEach_eq (hpure : s.cipher.IsPure) {draws : Tag → Nat} {before : Tag → Journal}
    {texts : Tag → Option Text} {segs : List Tag.Segment}
    (hresolves : ∀ g ∈ segs.filterMap Tag.Segment.tag?, ∃ l, resolveTag b s g (before g) = .ok (texts g, l))
    (hdraws : ∀ g ∈ segs.filterMap Tag.Segment.tag?,
      isReserved (Secret.stripMarker g.key).1 = true → draws g = (before g).drawn) (j : Journal) :
    ∃ k, replaceEach b s draws segs j = .ok (segs.flatMap (put texts), k) := by
  induction segs generalizing j with
  | nil => exact ⟨j, rfl⟩
  | cons seg segs ih =>
    cases seg with
    | plain c =>
      obtain ⟨k, hk⟩ := ih hresolves hdraws j
      refine ⟨k, ?_⟩
      rw [replaceEach, Run.bind_ok hk]
      rfl
    | tag g =>
      rw [filterMap_tag?_cons] at hresolves hdraws
      obtain ⟨l, hl⟩ := hresolves g (List.mem_cons_self ..)
      obtain ⟨l', hl'⟩ := @resolveTag_again _ _ _ hpure _ { j with drawn := draws g } _ _ hl
        (hdraws g (List.mem_cons_self ..))
      obtain ⟨k, hk⟩ := ih (fun g' hg' => hresolves g' (List.mem_cons_of_mem g hg'))
        (fun g' hg' => hdraws g' (List.mem_cons_of_mem g hg')) l'
      have hstep : resolveDrawing b s draws g j = .ok (texts g, l') := hl'
      refine ⟨k, ?_⟩
      rw [replaceEach, Run.bind_ok hstep, Run.bind_ok hk]
      rfl

/-! ## One pass -/

section

variable {t : Text}

theorem map_raw_eraseDups (t : Text) : (Tag.all Tag.livePattern t).eraseDups.map Tag.raw =
    ((Tag.all Tag.livePattern t).map Tag.raw).eraseDups :=
  map_eraseDups Tag.raw _ fun _ hg _ hg' hraw =>
    (Tag.readsBack_of_mem_all hg).eq_of_raw_eq (Tag.readsBack_of_mem_all hg') hraw

theorem substitute_inTurn (hb : b.pattern = Tag.livePattern) {before : Tag → Journal} {texts : Tag → Option Text}
    {j k : Journal} (h : InTurn b s before texts (Tag.all Tag.livePattern t).eraseDups j k) :
    b.substitute s t j = .ok ((Tag.segments Tag.livePattern t).flatMap (put texts), k) := by
  have hnone : ∀ g ∈ ([] : List Tag), Tag.ReadsBack ['$', '{'] ['}'] g := fun g hg => by cases hg
  rw [← unseen_nil_left] at h
  rw [substitute, hb]
  exact replaceSegments_inTurn hnone (fun g hg => Tag.readsBack_of_mem_all hg) h

theorem substitute_errs (hb : b.pattern = Tag.livePattern) {earlier later : List Tag} {f : Fault}
    (htags : Tag.all Tag.livePattern t = earlier ++ g :: later) (hearlier : ∀ g' ∈ earlier, ∀ f', ¬ Errs b s g' f')
    (hg : Errs b s g f) (j : Journal) : b.substitute s t j = .error f := by
  rw [substitute, hb]
  exact replaceSegments_errs htags (fun g hg => Tag.readsBack_of_mem_all hg) hearlier hg fun raw hraw => by cases hraw

/-- Where some tag of a list errs, there is a first one. -/
theorem exists_first_errs {tags : List Tag} (h : ∃ g ∈ tags, ∃ f, Errs b s g f) :
    ∃ earlier g later f, tags = earlier ++ g :: later ∧ (∀ g' ∈ earlier, ∀ f', ¬ Errs b s g' f') ∧ Errs b s g f := by
  induction tags with
  | nil =>
    obtain ⟨g, hg, -⟩ := h
    cases hg
  | cons g tags ih =>
    by_cases hfirst : ∃ f, Errs b s g f
    · obtain ⟨f, hf⟩ := hfirst
      exact ⟨[], g, tags, f, rfl, (fun g' hg' => by cases hg'), hf⟩
    · obtain ⟨g', hg', hf'⟩ := h
      have hmem : g' ∈ tags := (List.mem_cons.1 hg').resolve_left fun heq => hfirst (heq ▸ hf')
      obtain ⟨earlier, g₁, later, f, rfl, hearlier, hf⟩ := ih ⟨g', hmem, hf'⟩
      refine ⟨g :: earlier, g₁, later, f, rfl, fun g₂ hg₂ f₂ hf₂ => ?_, hf⟩
      rcases List.mem_cons.1 hg₂ with rfl | hg₂
      · exact hfirst ⟨f₂, hf₂⟩
      · exact hearlier g₂ hg₂ f₂ hf₂

/-- **One pass replaces all tags at once.** The text is cut into characters and tags, and tags are distinct as their
raw texts are. If no tag errs, the distinct tags are resolved one after the other, each once; the characters stay,
and in the place of each tag stands what it has become, or the tag itself if it has become nothing. The cipher is
asked for a tag that is resolved as often as its key says (`Secret.asks`), and not again where the tag is repeated.
If the cipher is pure, resolving each tag anew where it stands gives the same text, whatever was asked before, as
long as a generator takes the draws it took first. And if some tag errs, the pass fails like the first that does. -/
theorem substitute_simultaneous (hb : b.pattern = Tag.livePattern) (s : Sources) (t : Text) (j : Journal) :
    (Tag.segments Tag.livePattern t).flatMap Tag.Segment.raw = t ∧
    (Tag.all Tag.livePattern t).eraseDups.map Tag.raw = ((Tag.all Tag.livePattern t).map Tag.raw).eraseDups ∧
    ((∀ g ∈ Tag.all Tag.livePattern t, ∀ f, ¬ Errs b s g f) →
      ∃ (before : Tag → Journal) (texts : Tag → Option Text) (k : Journal),
        InTurn b s before texts (Tag.all Tag.livePattern t).eraseDups j k ∧
        b.substitute s t j = .ok ((Tag.segments Tag.livePattern t).flatMap (put texts), k) ∧
        k.calls.map Secret.Call.subject =
          ((Tag.all Tag.livePattern t).eraseDups.flatMap fun g =>
            List.replicate (if (texts g).isSome then Secret.asks g.key else 0)
              ((Secret.stripMarker g.key).1, g.raw)).reverse ++ j.calls.map Secret.Call.subject ∧
        (s.cipher.IsPure → ∀ draws : Tag → Nat,
          (∀ g ∈ Tag.all Tag.livePattern t, isReserved (Secret.stripMarker g.key).1 = true →
            draws g = (before g).drawn) →
          ∀ i, ∃ l, replaceEach b s draws (Tag.segments Tag.livePattern t) i =
            .ok ((Tag.segments Tag.livePattern t).flatMap (put texts), l))) ∧
    ((∃ g ∈ Tag.all Tag.livePattern t, ∃ f, Errs b s g f) →
      ∃ earlier g later f, Tag.all Tag.livePattern t = earlier ++ g :: later ∧
        (∀ g' ∈ earlier, ∀ f', ¬ Errs b s g' f') ∧ Errs b s g f ∧ b.substitute s t j = .error f) := by
  refine ⟨Tag.flatMap_raw_segments _ t, map_raw_eraseDups t, fun hnone => ?_, fun hsome => ?_⟩
  · have hresolves : ∀ g ∈ Tag.all Tag.livePattern t, ∀ j, ∃ v k, resolveTag b s g j = .ok (v, k) :=
      fun g hg => (errs_or_resolves b s g).resolve_left (not_exists.2 (hnone g hg))
    obtain ⟨before, texts, k, hturn⟩ := exists_inTurn hresolves [] j
    rw [unseen_nil_left] at hturn
    refine ⟨before, texts, k, hturn, substitute_inTurn hb hturn, hturn.subjects, fun hpure draws hdraws i => ?_⟩
    exact replaceEach_eq hpure (fun g hg => hturn.resolves (List.mem_eraseDups.2 hg)) hdraws i
  · obtain ⟨earlier, g, later, f, htags, hearlier, hf⟩ := exists_first_errs hsome
    exact ⟨earlier, g, later, f, htags, hearlier, hf, substitute_errs hb htags hearlier hf j⟩

/-- A cipher that counts is asked twice for a tag with both markers, and not again where the tag is repeated. -/
theorem substitute_counted :
    ∃ k, ({} : Builder).substitute ⟨.ofList [("secrets".toList, .string ['x'])], .none,
        fun earlier call => call.value ++ List.replicate (earlier.length + 1) '!', fun _ => 0⟩
        "$\x7bsecret:secrets\x7d and $\x7bsecret:secrets\x7d".toList {} =
      .ok ("shasec:secret:x!!! and shasec:secret:x!!!".toList, k) ∧ k.calls.length = 2 := by
  let sources : Sources := ⟨.ofList [("secrets".toList, .string ['x'])], .none,
    fun earlier call => call.value ++ List.replicate (earlier.length + 1) '!', fun _ => 0⟩
  let g : Tag := ⟨"$\x7bsecret:secrets\x7d".toList, "secret:secrets".toList, none⟩
  have hsegs : Tag.segments Tag.livePattern "$\x7bsecret:secrets\x7d and $\x7bsecret:secrets\x7d".toList =
      .tag g :: (" and ".toList.map .plain ++ [.tag g]) := by
    rw [Tag.livePattern_delimited.segments_eq_cut]
    cbv
  have hall : Tag.all Tag.livePattern "$\x7bsecret:secrets\x7d and $\x7bsecret:secrets\x7d".toList = [g, g] := by
    rw [Tag.all, hsegs]
    rfl
  obtain ⟨-, -, hok, -⟩ := substitute_simultaneous (show ({} : Builder).pattern = Tag.livePattern from rfl) sources
    "$\x7bsecret:secrets\x7d and $\x7bsecret:secrets\x7d".toList {}
  have hnone : ∀ f, ¬ Errs {} sources g f := by
    intro f hf
    cases hf {}
  obtain ⟨before, texts, k, hturn, hpass, hcalls, -⟩ := hok (by
    rw [hall]
    intro g' hg'
    obtain rfl : g' = g := by simpa using hg'
    exact hnone)
  have hdistinct : [g, g].eraseDups = [g] := by decide
  rw [hall, hdistinct] at hturn
  rw [hsegs] at hpass
  have hresolve : ∃ k, resolveTag {} sources g {} = .ok (some "shasec:secret:x!!!".toList, k) ∧ k.calls.length = 2 :=
    ⟨_, rfl, rfl⟩
  obtain ⟨k', hk', hlength⟩ := hresolve
  cases hturn with
  | cons _ hg hend =>
    cases hend
    rw [hk', Except.ok.injEq, Prod.mk.injEq] at hg
    obtain ⟨htext, rfl⟩ := hg
    refine ⟨k', ?_, hlength⟩
    rw [hpass]
    simp only [List.flatMap_cons, List.flatMap_append, List.flatMap_nil, put, ← htext]
    rfl

end

end Placeholder.Builder
