/-
A pass by places. The pass is defined over segments; it may as well go by the places of the tags, keep what stands
between one tag and the next, and remember the byte where the last tag ended (`spliceFrom`). Told like this it would
come to nothing where a slice is out of range or cuts a character. It never does, and gives the same text
(`splice_eq`), whatever the pattern: one that finds nothing at all in a place may still be found there, and two tags
may touch, but no tag begins before the end of another.

So the tags of a text can be taken for what they say they are, for every pattern that is accepted
(`spans_of_withPattern`).
-/
import Placeholder.Proofs.Expansion.Passes
import Placeholder.Proofs.Pattern.Reading
import Placeholder.Proofs.Tag.Places

namespace Placeholder.Builder

variable {b : Builder} {s : Sources} {t : Text}

/-! ## Splicing -/

/-- The text from the byte `last` on, with the tags replaced that are located there; there is none if a slice of the
text is not in range. -/
def spliceFrom (b : Builder) (s : Sources) (t : Text) : Resolved → (last : Nat) → List Tag.Located → Run (Option Text)
  | _, last, [] => return t.slice? last (Text.byteSize t)
  | resolved, last, l :: rest =>
    match t.slice? last l.start with
    | none => return none
    | some kept => do
      let (value, resolved) ← match resolved.lookup l.tag.raw with
        | some value => pure (value, resolved)
        | none => do
          let value ← resolveTag b s l.tag
          pure (value, (l.tag.raw, value) :: resolved)
      return (← spliceFrom b s t resolved l.stop rest).map fun u => kept ++ value.getD l.tag.raw ++ u

/-- One pass over a text, by the places of its tags. -/
def splice (b : Builder) (s : Sources) (t : Text) : Run (Option Text) :=
  spliceFrom b s t [] 0 (Tag.locate b.pattern t)

/-- The loop stands behind the text `a`, and has passed over `kept` since. -/
theorem spliceFrom_locateFrom {a kept : Text} {segs : List Tag.Segment}
    (ht : t = a ++ kept ++ segs.flatMap Tag.Segment.raw) (resolved : Resolved) :
    spliceFrom b s t resolved (Text.byteSize a) (Tag.locateFrom (Text.byteSize (a ++ kept)) segs) =
      (fun u => some (kept ++ u)) <$> replaceSegments b s resolved segs := by
  induction segs generalizing a kept resolved with
  | nil =>
    rw [List.flatMap_nil, List.append_nil] at ht
    have hslice := Text.slice?_append a kept []
    rw [List.append_nil, ← ht] at hslice
    rw [Tag.locateFrom, spliceFrom, hslice, replaceSegments, map_pure, List.append_nil]
  | cons seg segs ih =>
    cases seg with
    | plain c =>
      have hkept : t = a ++ (kept ++ [c]) ++ segs.flatMap Tag.Segment.raw := by
        rw [ht, List.flatMap_cons, Tag.Segment.raw]
        simp
      have hplace : Text.byteSize (a ++ kept) + c.utf8Size = Text.byteSize (a ++ (kept ++ [c])) := by
        simp [Text.byteSize, Nat.add_assoc]
      rw [Tag.locateFrom, hplace, ih hkept, replaceSegments]
      simp
    | tag g =>
      have hbehind : t = a ++ kept ++ g.raw ++ [] ++ segs.flatMap Tag.Segment.raw := by
        rw [ht, List.flatMap_cons, Tag.Segment.raw]
        simp
      have hslice : t.slice? (Text.byteSize a) (Text.byteSize (a ++ kept)) = some kept := by
        rw [ht]
        exact Text.slice?_append a kept _
      have hrest := ih hbehind
      rw [List.append_nil, Text.byteSize_append _ g.raw] at hrest
      rw [Tag.locateFrom, spliceFrom, hslice, replaceSegments]
      cases resolved.lookup g.raw with
      | some value => simp [hrest, -Text.byteSize_append]
      | none => simp [hrest, -Text.byteSize_append]

/-- **A pass never slices out of range**: going by places, it comes to the same text. -/
theorem splice_eq (b : Builder) (s : Sources) (t : Text) : b.splice s t = some <$> b.substitute s t := by
  have ht : t = [] ++ [] ++ (Tag.segments b.pattern t).flatMap Tag.Segment.raw := (Tag.flatMap_raw_segments _ t).symm
  exact spliceFrom_locateFrom ht []

/-! ## Tags that nothing is known of -/

/-- No source knows the tag, and it has no clause and no key of a generator. -/
structure Unknown (s : Sources) (g : Tag) : Prop where
  clause : g.extended = none
  reserved : isReserved (Secret.stripMarker g.key).1 = false
  value : s.values.get? (Secret.stripMarker g.key).1 = none
  config : s.config (Secret.stripMarker g.key).1 = none

theorem resolveTag_of_unknown {g : Tag} (h : Unknown s g) (j : Journal) : resolveTag b s g j = .ok (none, j) := by
  have hkey : resolveKey s g (Secret.stripMarker g.key).1 = pure none := by
    rw [resolveKey, h.reserved, h.value, h.config, resolveDefault, h.clause]
    rfl
  rw [resolveTag_eq, hkey]
  rfl

/-- A pass over tags that become nothing leaves all segments as they are. -/
theorem replaceSegments_unresolved {segs : List Tag.Segment} {j : Journal}
    (h : ∀ g, .tag g ∈ segs → resolveTag b s g j = .ok (none, j)) {resolved : Resolved}
    (htable : ∀ raw v, resolved.lookup raw = some v → v = none) :
    replaceSegments b s resolved segs j = .ok (segs.flatMap Tag.Segment.raw, j) := by
  induction segs generalizing resolved with
  | nil => rfl
  | cons seg segs ih =>
    have hrest : ∀ {resolved : Resolved}, (∀ raw v, resolved.lookup raw = some v → v = none) →
        replaceSegments b s resolved segs j = .ok (segs.flatMap Tag.Segment.raw, j) :=
      ih fun g hg => h g (List.mem_cons_of_mem seg hg)
    cases seg with
    | plain c =>
      rw [replaceSegments, Run.bind_ok (hrest htable)]
      rfl
    | tag g =>
      rw [replaceSegments]
      cases hlookup : resolved.lookup g.raw with
      | some v =>
        obtain rfl := htable g.raw v hlookup
        exact Run.bind_ok (hrest htable)
      | none =>
        have htable' : ∀ raw v, ((g.raw, none) :: resolved : Resolved).lookup raw = some v → v = none := by
          intro raw v hv
          rw [List.lookup_cons] at hv
          split at hv
          · exact (Option.some.inj hv).symm
          · exact htable raw v hv
        exact (Run.bind_ok (h g (List.mem_cons_self ..))).trans (Run.bind_ok (hrest htable'))

theorem parse_of_unknown (ht : t ≠ []) (hmax : 1 ≤ b.options.maxPasses) (hlive : Tag.all b.pattern t ≠ [])
    (h : ∀ g ∈ Tag.all b.pattern t, Unknown s g) : b.parse s false t = .ok t := by
  obtain ⟨m, hm⟩ := Nat.exists_eq_add_of_le' hmax
  have hpass : b.substitute s t {} = .ok (t, {}) := by
    rw [substitute, replaceSegments_unresolved (fun g hg => resolveTag_of_unknown (h g (Tag.mem_all.2 hg)) _)
      (fun _ _ hv => by cases hv), Tag.flatMap_raw_segments]
  rw [parse_of_reaches ht (Nat.zero_add _).symm .refl, hm, passes_unchanged hlive hpass]
  rfl

/-! ## Accepted patterns -/

theorem grouped_of_withPattern {source : Text} {engine : Pattern.Engine} {p : Pattern}
    (h : withPattern source engine = .ok { pattern := p }) : p.body.Grouped := by
  rw [withPattern] at h
  split at h
  · cases h
  · split at h
    · cases h
    next q hq =>
      split at h
      · cases h
        exact Pattern.read_grouped hq
      · cases h

/-- **The tags of an accepted pattern**, whatever engine accepts it. Each was found where it says it is: its text is
the slice of the whole from its first byte to its last, and its key and its clause, if it has one, are the slices that
their groups cover within. Each begins behind the beginning of the one before it, and not before the end of it. So a
pass that goes by these places never slices out of range. And where no source knows any of the tags, and none has a
clause or is a generator, a lenient expansion that is allowed a pass gives the text back. -/
theorem spans_of_withPattern {source : Text} {engine : Pattern.Engine} {p : Pattern}
    (h : withPattern source engine = .ok { pattern := p }) (t : Text) :
    (∀ l ∈ Tag.locate p t, ∃ m, l.Sound p t m) ∧
    (Tag.locate p t).Pairwise (fun l m => l.start < m.start ∧ l.stop ≤ m.start) ∧
    ∀ (options : Options) (s : Sources),
      splice ⟨p, options⟩ s t = some <$> substitute ⟨p, options⟩ s t ∧
      (t ≠ [] → Tag.locate p t ≠ [] → 1 ≤ options.maxPasses → (∀ l ∈ Tag.locate p t, Unknown s l.tag) →
        parse ⟨p, options⟩ s false t = .ok t) := by
  refine ⟨fun l hl => Tag.sound_of_mem_locate (grouped_of_withPattern h) hl, Tag.pairwise_locate p t,
    fun options s => ⟨splice_eq _ s t, fun ht hlive hmax hunknown => ?_⟩⟩
  have hall := Tag.map_tag_locate p t
  refine parse_of_unknown ht hmax ?_ fun g hg => ?_
  · rw [← hall]
    exact fun hnil => hlive (List.map_eq_nil_iff.1 hnil)
  · rw [← hall] at hg
    obtain ⟨l, hl, rfl⟩ := List.mem_map.1 hg
    exact hunknown l hl

/-- Two of the three tags are empty, and the one between them is a character of two bytes. -/
theorem spans_of_withPattern_empty :
    let source := "(?P<var>é*)".toList
    let p : Pattern := ⟨source, .group 1 (.star true (.one (.literal true 'é'))), [("var".toList, 1)]⟩
    withPattern source = .ok { pattern := p } ∧
    Tag.locate p "aéb".toList = [⟨⟨[], [], none⟩, 0, 0⟩, ⟨⟨['é'], ['é'], none⟩, 1, 3⟩, ⟨⟨[], [], none⟩, 4, 4⟩] ∧
    (∃ m, (⟨⟨['é'], ['é'], none⟩, 1, 3⟩ : Tag.Located).Sound p "aéb".toList m) ∧
    splice ⟨p, {}⟩ {} "aéb".toList = some <$> substitute ⟨p, {}⟩ {} "aéb".toList ∧
    parse ⟨p, {}⟩ {} false "aéb".toList = .ok "aéb".toList := by
  intro source p
  have haccepted : withPattern source = .ok { pattern := p } := by decide +kernel
  have hlocate : Tag.locate p "aéb".toList =
      [⟨⟨[], [], none⟩, 0, 0⟩, ⟨⟨['é'], ['é'], none⟩, 1, 3⟩, ⟨⟨[], [], none⟩, 4, 4⟩] := by decide +kernel
  obtain ⟨hsound, -, hsplice⟩ := spans_of_withPattern haccepted "aéb".toList
  rw [hlocate] at hsound hsplice
  obtain ⟨heq, hparse⟩ := hsplice {} {}
  have hempty : Unknown {} ⟨[], [], none⟩ := ⟨rfl, rfl, rfl, rfl⟩
  have hknown : Unknown {} ⟨['é'], ['é'], none⟩ := ⟨rfl, by decide +kernel, by decide +kernel, rfl⟩
  refine ⟨haccepted, hlocate, hsound _ (by decide), heq, hparse (by decide) (by decide) (by decide) ?_⟩
  simp [hempty, hknown]

end Placeholder.Builder
