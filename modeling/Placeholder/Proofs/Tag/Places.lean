/-
The places of tags, for every pattern. A place is given in bytes, and a text can be sliced only where characters
begin (`Text.slice?`). Tags stand one behind the other (`pairwise_locate`): two may touch, but none begins where
another one does, not even an empty one.

A tag is what was found where it stands: behind the character in front of it, and at the head of its own text and all
that follows (`found_of_segments`). So its place is a slice of the text, and if the pattern marks the ends of groups
only, then its key and its clause are slices within (`sound_of_mem_locate`). And two tags of one text that stand
between the same characters are the same tag (`tag_eq_of_around_eq`).
-/
import Placeholder.Proofs.Pattern.Groups
import Placeholder.Proofs.Pattern.Neighbours
import Placeholder.Proofs.Tag.Splice

namespace Placeholder

/-! ## Slices -/

namespace Text

/-- The first `n` bytes of a text and what stands behind them, if a character ends there. -/
def cutAt? : (n : Nat) → Text → Option (Text × Text)
  | 0, t => some ([], t)
  | _ + 1, [] => none
  | n + 1, c :: t =>
    if c.utf8Size ≤ n + 1 then (cutAt? (n + 1 - c.utf8Size) t).map fun (a, b) => (c :: a, b) else none

/-- The text between two bytes; there is none if they are not in order, or not in the text, or within a character. -/
def slice? (start stop : Nat) (t : Text) : Option Text := do
  let (head, _) ← cutAt? stop t
  let (_, u) ← cutAt? start head
  return u

theorem cutAt?_eq_some {n : Nat} {t a b : Text} : cutAt? n t = some (a, b) ↔ t = a ++ b ∧ n = byteSize a := by
  fun_induction cutAt? n t generalizing a b with
  | case1 t =>
    cases a with
    | nil => simp [byteSize]
    | cons c a =>
      have := c.utf8Size_pos
      simp [byteSize]
      omega
  | case2 n =>
    cases a with
    | nil => simp [byteSize]
    | cons c a => simp
  | case3 n c t hle ih =>
    cases a with
    | nil => simp [byteSize]
    | cons d a =>
      simp only [Option.map_eq_some_iff, Prod.exists, ih, Prod.mk.injEq, List.cons.injEq, List.cons_append, byteSize]
      constructor
      · rintro ⟨a', b', ⟨rfl, hn⟩, ⟨rfl, rfl⟩, rfl⟩
        exact ⟨⟨rfl, rfl⟩, by omega⟩
      · rintro ⟨⟨rfl, rfl⟩, hn⟩
        exact ⟨a, b, ⟨rfl, by omega⟩, ⟨rfl, rfl⟩, rfl⟩
  | case4 n c t hle =>
    cases a with
    | nil => simp [byteSize]
    | cons d a =>
      simp only [List.cons_append, List.cons.injEq, byteSize, reduceCtorEq, false_iff]
      rintro ⟨⟨rfl, -⟩, hn⟩
      omega

/-- **A slice** is a part of the text, with the bytes in front of it and those up to its end. -/
theorem slice?_eq_some {start stop : Nat} {t u : Text} : slice? start stop t = some u ↔
    ∃ a c, t = a ++ u ++ c ∧ start = byteSize a ∧ stop = byteSize (a ++ u) := by
  simp only [slice?, Option.bind_eq_bind, Option.bind_eq_some_iff, Prod.exists, cutAt?_eq_some]
  constructor
  · rintro ⟨head, c, ⟨rfl, rfl⟩, a, u', ⟨rfl, rfl⟩, hu⟩
    cases hu
    exact ⟨a, c, rfl, rfl, rfl⟩
  · rintro ⟨a, c, rfl, rfl, rfl⟩
    exact ⟨a ++ u, c, ⟨rfl, rfl⟩, a, u, ⟨rfl, rfl⟩, rfl⟩

theorem slice?_append (a u c : Text) : slice? (byteSize a) (byteSize (a ++ u)) (a ++ u ++ c) = some u :=
  slice?_eq_some.2 ⟨a, c, rfl, rfl, rfl⟩

theorem slice?_le {start stop : Nat} {t u : Text} (h : slice? start stop t = some u) :
    start ≤ stop ∧ stop ≤ byteSize t := by
  obtain ⟨a, c, rfl, rfl, rfl⟩ := slice?_eq_some.1 h
  simp only [byteSize_append]
  omega

theorem stop_of_slice? {start stop : Nat} {t u : Text} (h : slice? start stop t = some u) :
    stop = start + byteSize u := by
  obtain ⟨a, c, rfl, rfl, rfl⟩ := slice?_eq_some.1 h
  exact byteSize_append a u

/-- A slice of a slice is a slice. -/
theorem slice?_slice? {start stop i j : Nat} {t u v : Text} (hu : slice? start stop t = some u)
    (hv : slice? i j u = some v) : slice? (start + i) (start + j) t = some v := by
  obtain ⟨a, c, rfl, rfl, -⟩ := slice?_eq_some.1 hu
  obtain ⟨a', c', rfl, rfl, rfl⟩ := slice?_eq_some.1 hv
  exact slice?_eq_some.2 ⟨a ++ a', c' ++ c, by simp, by simp, by simp⟩

theorem byteSize_pos {t : Text} (h : t ≠ []) : 0 < byteSize t := by
  obtain ⟨c, t, rfl⟩ := List.exists_cons_of_ne_nil h
  have := c.utf8Size_pos
  rw [byteSize]
  omega

end Text

/-! ## Groups of a match -/

namespace Pattern

theorem lastOr_append (left : Option Char) (t u : Text) : lastOr left (t ++ u) = lastOr (lastOr left t) u := by
  simp only [lastOr, List.getLast?_append, Option.or_assoc]

end Pattern

/-- The bytes before the two ends that a match has noted for a group. -/
def Match.span? (m : Match) (n : Nat) : Option (Nat × Nat) := do
  let start ← m.marks.lookup (2 * n)
  let stop ← m.marks.lookup (2 * n + 1)
  return (Text.byteSize (m.raw.take start), Text.byteSize (m.raw.take stop))

/-- **What a group covers** is the slice of the match between the ends that are noted for it. -/
theorem Pattern.slice?_of_group? {p : Pattern} (h : p.body.Grouped) {left : Option Char} {t : Text} {m : Match}
    (hm : p.matchAt left t = some m) {n : Nat} {u : Text} (hu : m.group? n = some u) :
    ∃ i j, m.span? n = some (i, j) ∧ m.raw.slice? i j = some u := by
  simp only [matchAt, Option.map_eq_some_iff] at hm
  obtain ⟨⟨size, marks⟩, hm, rfl⟩ := hm
  rcases h.spans hm n with ⟨i, j, hi, hj, hij, hjs⟩ | ⟨hi, -⟩
  · simp only [Match.group?, hi, hj, Option.bind_eq_bind, Option.bind_some] at hu
    cases hu
    refine ⟨_, _, by simp only [Match.span?, hi, hj, Option.bind_eq_bind, Option.bind_some]; rfl, ?_⟩
    -- The first end cuts what stands in front of the second.
    have hhead : ((t.take size).take j).take i = (t.take size).take i := by rw [List.take_take, Nat.min_eq_left hij]
    have hcut : (t.take size).take i ++ ((t.take size).take j).drop i = (t.take size).take j := by
      rw [← hhead, List.take_append_drop]
    refine Text.slice?_eq_some.2 ⟨(t.take size).take i, (t.take size).drop j, ?_, rfl, by rw [hcut]⟩
    rw [hcut, List.take_append_drop]
  · simp [Match.group?, hi] at hu

namespace Tag

variable {p : Pattern} {t : Text} {g : Tag} {l : Located} {segs : List Segment}

/-! ## Places of segments -/

theorem locateFrom_append_plain (position : Nat) (u : Text) (segs : List Segment) :
    locateFrom position (u.map .plain ++ segs) = locateFrom (position + Text.byteSize u) segs := by
  induction u generalizing position with
  | nil => rfl
  | cons c u ih => rw [List.map_cons, List.cons_append, locateFrom, ih, Text.byteSize, Nat.add_assoc]

theorem map_tag_locateFrom (position : Nat) (segs : List Segment) :
    (locateFrom position segs).map Located.tag = segs.filterMap Segment.tag? := by
  fun_induction locateFrom position segs with
  | case1 => rfl
  | case2 position c rest ih => exact ih
  | case3 position g rest stop ih => rw [List.map_cons, ih]; rfl

/-- Locating loses no tag. -/
theorem map_tag_locate (p : Pattern) (t : Text) : (locate p t).map Located.tag = all p t := map_tag_locateFrom 0 _

theorem le_start_of_mem_locateFrom {position : Nat} (h : l ∈ locateFrom position segs) : position ≤ l.start := by
  obtain ⟨before, after, -, hstart, -⟩ := mem_locateFrom h
  omega

/-! ## Order -/

/-- Behind an empty match, the next tag begins behind the next character. -/
theorem lt_start_behind_empty {left : Option Char} {m : Match} (hm : p.matchAt left t = some m) (hempty : m.raw = [])
    {position : Nat} (h : l ∈ locateFrom position ((p.piecesFrom left true t).flatMap (Segment.ofPiece p))) :
    position < l.start := by
  rw [Pattern.piecesFrom] at h
  split at h
  next m' hm' =>
    rw [hm, Option.some.injEq] at hm'
    subst hm'
    rw [if_pos ⟨by rw [hempty, List.length_nil], rfl⟩] at h
    cases t with
    | nil => cases h
    | cons c rest =>
      have hle : position + c.utf8Size ≤ l.start := le_start_of_mem_locateFrom h
      have := c.utf8Size_pos
      omega
  next hnone =>
    rw [hm] at hnone
    cases hnone

theorem pairwise_locateFrom (left : Option Char) (behindMatch : Bool) (t : Text) (position : Nat) :
    (locateFrom position ((p.piecesFrom left behindMatch t).flatMap (Segment.ofPiece p))).Pairwise
      fun l m => l.start < m.start ∧ l.stop ≤ m.start := by
  fun_induction Pattern.piecesFrom p left behindMatch t generalizing position with
  | case1 => exact .nil
  | case2 left behindMatch m hbehind c rest hm ih => exact ih _
  | case4 => exact .nil
  | case5 left behindMatch c rest hm ih => exact ih _
  | case3 left behindMatch t m hm hbehind ih =>
    rw [List.flatMap_cons, Segment.ofPiece]
    split
    next g hg =>
      refine List.pairwise_cons.2 ⟨fun l hl => ?_, ih _⟩
      have hle := le_start_of_mem_locateFrom hl
      refine ⟨?_, hle⟩
      by_cases hempty : m.raw = []
      · rw [hempty] at hl
        have hlt := lt_start_behind_empty hm hempty hl
        exact Nat.lt_of_le_of_lt (Nat.le_add_right _ _) hlt
      · rw [← raw_of_ofMatch? hg] at hempty
        exact Nat.lt_of_lt_of_le (Nat.lt_add_of_pos_right (Text.byteSize_pos hempty)) hle
    next =>
      rw [locateFrom_append_plain]
      exact ih _

/-- **Tags stand one behind the other**: each begins behind the beginning of the one before it, and not before the
end of it. -/
theorem pairwise_locate (p : Pattern) (t : Text) :
    (locate p t).Pairwise fun l m => l.start < m.start ∧ l.stop ≤ m.start := pairwise_locateFrom none false t 0

/-! ## Matches -/

theorem flatMap_raw_piecesFrom (p : Pattern) (left : Option Char) (behindMatch : Bool) (t : Text) :
    ((p.piecesFrom left behindMatch t).flatMap (Segment.ofPiece p)).flatMap Segment.raw = t := by
  rw [List.flatMap_assoc]
  simp only [flatMap_raw_ofPiece]
  exact Pattern.flatMap_raw_piecesFrom p left behindMatch t

theorem exists_of_map_plain_append {u : Text} {before after : List Segment}
    (h : u.map .plain ++ segs = before ++ .tag g :: after) :
    ∃ before', before = u.map .plain ++ before' ∧ segs = before' ++ .tag g :: after := by
  induction u generalizing before with
  | nil => exact ⟨before, rfl, h⟩
  | cons c u ih =>
    rw [List.map_cons, List.cons_append] at h
    cases before with
    | nil => cases h
    | cons s before =>
      obtain ⟨rfl, hrest⟩ := List.cons.inj h
      obtain ⟨before', rfl, hsegs⟩ := ih hrest
      exact ⟨before', rfl, hsegs⟩

theorem found_of_piecesFrom {left : Option Char} {behindMatch : Bool} {before after : List Segment}
    (h : (p.piecesFrom left behindMatch t).flatMap (Segment.ofPiece p) = before ++ .tag g :: after) :
    ∃ m, p.matchAt (Pattern.lastOr left (before.flatMap Segment.raw)) (g.raw ++ after.flatMap Segment.raw) = some m ∧
      ofMatch? p m = some g := by
  fun_induction Pattern.piecesFrom p left behindMatch t generalizing before with
  | case1 => simp at h
  | case4 => simp at h
  | case2 left behindMatch m hbehind c rest hm ih | case5 left behindMatch c rest hm ih =>
    obtain ⟨before', rfl, hrest⟩ := exists_of_map_plain_append (u := [c]) h
    rw [List.flatMap_append, flatMap_raw_map_plain, Pattern.lastOr_append]
    exact ih hrest
  | case3 left behindMatch t m hm hbehind ih =>
    rw [List.flatMap_cons, Segment.ofPiece] at h
    split at h
    next g' hg' =>
      have hraw := raw_of_ofMatch? hg'
      rw [List.singleton_append] at h
      cases before with
      | nil =>
        obtain ⟨hg, hafter⟩ := List.cons.inj h
        cases hg
        refine ⟨m, ?_, hg'⟩
        rw [← hafter, flatMap_raw_piecesFrom, hraw, Pattern.matchAt_append_drop hm]
        exact hm
      | cons s before =>
        obtain ⟨rfl, hrest⟩ := List.cons.inj h
        rw [List.flatMap_cons, Segment.raw, hraw, Pattern.lastOr_append]
        exact ih hrest
    next =>
      obtain ⟨before', rfl, hrest⟩ := exists_of_map_plain_append h
      rw [List.flatMap_append, flatMap_raw_map_plain, Pattern.lastOr_append]
      exact ih hrest

/-- **A tag is found where it stands**: behind the last character in front of it, and in its own text and all that
follows. -/
theorem found_of_segments {before after : List Segment} (h : segments p t = before ++ .tag g :: after) :
    ∃ m, p.matchAt (before.flatMap Segment.raw).getLast? (g.raw ++ after.flatMap Segment.raw) = some m ∧
      ofMatch? p m = some g := by
  obtain ⟨m, hm, hg⟩ := found_of_piecesFrom h
  rw [Pattern.lastOr, Option.or_none] at hm
  exact ⟨m, hm, hg⟩

/-- The text around a located tag: what stands in front of it, the match it was made from, and the rest. -/
theorem cut_of_mem_locate (h : l ∈ locate p t) : ∃ a c m, t = a ++ m.raw ++ c ∧ l.start = Text.byteSize a ∧
    l.stop = Text.byteSize (a ++ m.raw) ∧ p.matchAt a.getLast? (m.raw ++ c) = some m ∧ ofMatch? p m = some l.tag := by
  obtain ⟨before, after, hsegs, hstart, hstop⟩ := mem_locateFrom h
  obtain ⟨m, hm, hg⟩ := found_of_segments hsegs
  have hjoin := flatMap_raw_segments p t
  rw [hsegs, List.flatMap_append, List.flatMap_cons, Segment.raw, ← List.append_assoc] at hjoin
  rw [Nat.zero_add] at hstart
  rw [raw_of_ofMatch? hg] at hm hjoin hstop
  exact ⟨_, _, m, hjoin.symm, hstart, by rw [hstop, hstart, Text.byteSize_append], hm, hg⟩

/-! ## Soundness -/

/-- What group `name` of the match `m` covers is `u`, which is a slice of the text within the tag. -/
def Located.Spans (l : Located) (p : Pattern) (t : Text) (m : Match) (name u : Text) : Prop :=
  ∃ n i j, p.groups.lookup name = some n ∧ m.span? n = some (i, j) ∧ i ≤ j ∧ l.start + j ≤ l.stop ∧
    t.slice? (l.start + i) (l.start + j) = some u

/-- A tag at its place, with the match it was made from. -/
structure Located.Sound (p : Pattern) (t : Text) (l : Located) (m : Match) : Prop where
  /-- The match was found there, and the tag is the whole of it. -/
  found : ∃ a c, t = a ++ m.raw ++ c ∧ l.start = Text.byteSize a ∧ p.matchAt a.getLast? (m.raw ++ c) = some m ∧
    l.tag.raw = m.raw
  raw : t.slice? l.start l.stop = some l.tag.raw
  var : l.Spans p t m "var".toList l.tag.var
  extended : ∀ x, l.tag.extended = some x → l.Spans p t m "extended".toList x

theorem named?_of_ofMatch? {m : Match} (h : ofMatch? p m = some g) :
    p.named? m "var".toList = some g.var ∧ p.named? m "extended".toList = g.extended := by
  simp only [ofMatch?, Option.bind_eq_bind, Option.bind_eq_some_iff] at h
  obtain ⟨var, hvar, h⟩ := h
  cases h
  exact ⟨hvar, rfl⟩

theorem spans_of_named? (h : p.body.Grouped) {left : Option Char} {u v : Text} {m : Match}
    (hm : p.matchAt left u = some m) (hraw : t.slice? l.start l.stop = some m.raw) {name : Text}
    (hv : p.named? m name = some v) : l.Spans p t m name v := by
  obtain ⟨n, hn, hgroup⟩ := Option.bind_eq_some_iff.1 hv
  obtain ⟨i, j, hspan, hslice⟩ := Pattern.slice?_of_group? h hm hgroup
  obtain ⟨hij, hj⟩ := Text.slice?_le hslice
  have hstop := Text.stop_of_slice? hraw
  exact ⟨n, i, j, hn, hspan, hij, by omega, Text.slice?_slice? hraw hslice⟩

/-- **Every tag is sound**: it is found at its place, and all of it are slices of the text. -/
theorem sound_of_mem_locate (h : p.body.Grouped) (hl : l ∈ locate p t) : ∃ m, l.Sound p t m := by
  obtain ⟨a, c, m, rfl, hstart, hstop, hm, hg⟩ := cut_of_mem_locate hl
  have hraw : (a ++ m.raw ++ c).slice? l.start l.stop = some m.raw := Text.slice?_eq_some.2 ⟨a, c, rfl, hstart, hstop⟩
  have hsame := raw_of_ofMatch? hg
  obtain ⟨hvar, hextended⟩ := named?_of_ofMatch? hg
  have hspans : ∀ {name v}, p.named? m name = some v → l.Spans p (a ++ m.raw ++ c) m name v := spans_of_named? h hm hraw
  refine ⟨m, ⟨a, c, rfl, hstart, hm, hsame⟩, ?_, hspans hvar, fun x hx => hspans (hextended.trans hx)⟩
  rw [hsame]
  exact hraw

/-! ## Neighbours -/

/-- The characters next to a tag in its text. -/
def Located.around (l : Located) (t : Text) : Pattern.Gap where
  left := (Text.cutAt? l.start t).bind fun (a, _) => a.getLast?
  right := (Text.cutAt? l.stop t).bind fun (_, c) => c.head?

theorem found_of_mem_locate (h : l ∈ locate p t) : ∃ m c, p.matchAt (l.around t).left (m.raw ++ c) = some m ∧
    c.head? = (l.around t).right ∧ ofMatch? p m = some l.tag := by
  obtain ⟨a, c, m, ht, hstart, hstop, hm, hg⟩ := cut_of_mem_locate h
  have hleft : Text.cutAt? l.start t = some (a, m.raw ++ c) :=
    Text.cutAt?_eq_some.2 ⟨by rw [ht, List.append_assoc], hstart⟩
  have hright : Text.cutAt? l.stop t = some (a ++ m.raw, c) := Text.cutAt?_eq_some.2 ⟨ht, hstop⟩
  refine ⟨m, c, ?_, ?_, hg⟩
  · rw [Located.around, hleft]
    exact hm
  · rw [Located.around, hright]
    rfl

/-- **Two tags of one text** are the same if they stand between the same characters, or if the pattern does not look
there. -/
theorem tag_eq_of_around_eq {l' : Located} (h : l ∈ locate p t) (h' : l' ∈ locate p t) (hraw : l.tag.raw = l'.tag.raw)
    (haround : p.body.looks = false ∨ l.around t = l'.around t) : l.tag = l'.tag := by
  obtain ⟨m, c, hm, hc, hg⟩ := found_of_mem_locate h
  obtain ⟨m', c', hm', hc', hg'⟩ := found_of_mem_locate h'
  rw [raw_of_ofMatch? hg, raw_of_ofMatch? hg'] at hraw
  have hsame : m = m' := by
    refine Pattern.matchAt_eq_of_raw_eq hm hm' hraw (haround.imp_right fun heq => ?_)
    rw [List.drop_left, List.drop_left, hc, hc', heq]
    exact ⟨rfl, rfl⟩
  rw [hsame, hg', Option.some.injEq] at hg
  exact hg.symm

end Tag

end Placeholder
