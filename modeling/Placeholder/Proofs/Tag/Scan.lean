/-
The tags of a text, found by walking through it from left to right: `scan` is the walk, and
`locate_livePattern` says that it finds the live tags, each in its place.

For every pattern, joining the segments of a text gives the text back (`flatMap_raw_segments`).
-/
import Placeholder.Proofs.Tag.Recognition

namespace Placeholder

namespace Pattern

/-- A match is the head of the text that it was found at. -/
theorem matchAt_append_drop {p : Pattern} {left : Option Char} {t : Text} {m : Match}
    (h : p.matchAt left t = some m) : m.raw ++ t.drop m.raw.length = t := by
  obtain ⟨n, hn⟩ := raw_eq_take h
  rw [hn, List.length_take]
  rcases Nat.le_total n t.length with hle | hle
  · rw [Nat.min_eq_left hle, List.take_append_drop]
  · rw [Nat.min_eq_right hle, List.take_of_length_le hle, List.drop_length, List.append_nil]

/-- Joining the pieces of a text gives the text back. -/
theorem flatMap_raw_piecesFrom (p : Pattern) (left : Option Char) (behindMatch : Bool) (t : Text) :
    (p.piecesFrom left behindMatch t).flatMap Piece.raw = t := by
  fun_induction piecesFrom p left behindMatch t with
  | case1 => rfl
  | case2 left behindMatch m _ c rest _ ih => rw [List.flatMap_cons, ih]; rfl
  | case3 left behindMatch t m h _ ih =>
    rw [List.flatMap_cons, ih]
    exact matchAt_append_drop h
  | case4 => rfl
  | case5 left behindMatch c rest _ ih => rw [List.flatMap_cons, ih]; rfl

end Pattern

namespace Tag

theorem raw_of_ofMatch? {p : Pattern} {m : Match} {g : Tag} (h : ofMatch? p m = some g) : g.raw = m.raw := by
  simp only [ofMatch?, Option.bind_eq_bind, Option.bind_eq_some_iff] at h
  obtain ⟨var, _, h⟩ := h
  cases h
  rfl

theorem flatMap_raw_ofPiece (p : Pattern) (piece : Pattern.Piece) :
    (Segment.ofPiece p piece).flatMap Segment.raw = piece.raw := by
  cases piece with
  | plain c => rfl
  | found m =>
    rw [Segment.ofPiece]
    split
    next g hg =>
      rw [List.flatMap_singleton]
      exact raw_of_ofMatch? hg
    next =>
      rw [List.flatMap_map]
      exact List.flatMap_singleton' m.raw

/-- **Joining the segments of a text** gives the text back. -/
theorem flatMap_raw_segments (p : Pattern) (t : Text) : (segments p t).flatMap Segment.raw = t := by
  rw [segments, List.flatMap_assoc]
  simp only [flatMap_raw_ofPiece]
  exact Pattern.flatMap_raw_piecesFrom p none false t

/-! ## The segments between tags of a grammar -/

theorem Between.raw_ne_nil {opening closing : Text} {g : Tag} (h : Between opening ('}' :: closing) g) :
    g.raw ≠ [] := by
  rw [h.raw]
  simp

namespace Delimited

variable {p : Pattern} {opening closing : Text}

theorem recognise_of_match (h : Delimited p opening closing) {left : Option Char} {t : Text} {m : Match}
    (hm : p.matchAt left t = some m) :
    ∃ g, recognise? opening ('}' :: closing) t = some g ∧ m.raw = g.raw ∧ ofMatch? p m = some g := by
  have hmatch := h.match_recognise left t
  cases hg : recognise? opening ('}' :: closing) t with
  | none =>
    rw [hg, hm] at hmatch
    cases hmatch
  | some g =>
    rw [hg] at hmatch
    obtain ⟨m', hm', hraw, hof⟩ := hmatch
    rw [hm, Option.some.injEq] at hm'
    subst hm'
    exact ⟨g, rfl, hraw, hof⟩

theorem recognise_eq_none (h : Delimited p opening closing) {left : Option Char} {t : Text}
    (hm : p.matchAt left t = none) : recognise? opening ('}' :: closing) t = none := by
  have hmatch := h.match_recognise left t
  cases hg : recognise? opening ('}' :: closing) t with
  | none => rfl
  | some g =>
    rw [hg] at hmatch
    obtain ⟨m, hm', _⟩ := hmatch
    rw [hm] at hm'
    cases hm'

theorem flatMap_piecesFrom (h : Delimited p opening closing) (left : Option Char) (behindMatch : Bool) (t : Text) :
    (p.piecesFrom left behindMatch t).flatMap (Segment.ofPiece p) = cut opening ('}' :: closing) t := by
  fun_induction Pattern.piecesFrom p left behindMatch t with
  | case1 => rw [cut]; rfl
  | case2 left behindMatch m hempty c rest hm ih =>
    obtain ⟨g, hg, hraw, _⟩ := h.recognise_of_match hm
    rw [hraw] at hempty
    exact absurd (List.length_eq_zero_iff.1 hempty.1) (recognise?_eq_some hg).1.raw_ne_nil
  | case3 left behindMatch t m hm hempty ih =>
    obtain ⟨g, hg, hraw, hof⟩ := h.recognise_of_match hm
    obtain ⟨hbetween, rest, hrest⟩ := recognise?_eq_some hg
    rw [List.flatMap_cons, ih, hraw]
    cases t with
    | nil => exact absurd (List.append_eq_nil_iff.1 hrest.symm).1 hbetween.raw_ne_nil
    | cons c t =>
      rw [cut, hg, Segment.ofPiece, hof]
      obtain ⟨d, raw, hd⟩ := List.exists_cons_of_ne_nil hbetween.raw_ne_nil
      simp [hd]
  | case4 => rw [cut]; rfl
  | case5 left behindMatch c rest hm ih =>
    rw [List.flatMap_cons, ih, cut, h.recognise_eq_none hm]
    rfl

/-- The segments of a text are those that the grammar cuts. -/
theorem segments_eq_cut (h : Delimited p opening closing) (t : Text) :
    segments p t = cut opening ('}' :: closing) t := h.flatMap_piecesFrom none false t

end Delimited

/-! ## Places -/

/-- The walk over a text that stands behind `position` bytes: at a tag it notes the tag and goes on behind it,
and elsewhere it goes on by one character. -/
def scan (opening closing : Text) : (position : Nat) → Text → List Located
  | _, [] => []
  | position, c :: t => match recognise? opening closing (c :: t) with
    | some g =>
      let stop := position + Text.byteSize g.raw
      ⟨g, position, stop⟩ :: scan opening closing stop (t.drop (g.raw.length - 1))
    | none => scan opening closing (position + c.utf8Size) t
termination_by _ t => t.length

theorem locateFrom_cut (opening closing : Text) (position : Nat) (t : Text) :
    locateFrom position (cut opening closing t) = scan opening closing position t := by
  fun_induction scan opening closing position t with
  | case1 => rw [cut, locateFrom]
  | case2 position c t g hg stop ih => rw [cut, hg]; simp only [locateFrom, ih, stop]
  | case3 position c t hg ih => rw [cut, hg]; simp only [locateFrom, ih]

/-- Located tags stand among the segments where their places say. -/
theorem mem_locateFrom {l : Located} : ∀ {position : Nat} {segs : List Segment}, l ∈ locateFrom position segs →
    ∃ before after, segs = before ++ .tag l.tag :: after ∧
      l.start = position + Text.byteSize (before.flatMap Segment.raw) ∧
      l.stop = l.start + Text.byteSize l.tag.raw
  | position, [], h => by simp [locateFrom] at h
  | position, .plain c :: rest, h => by
    rw [locateFrom] at h
    obtain ⟨before, after, rfl, hstart, hstop⟩ := mem_locateFrom h
    refine ⟨.plain c :: before, after, rfl, ?_, hstop⟩
    rw [hstart, List.flatMap_cons, Segment.raw, Text.byteSize_append, Nat.add_assoc]
    rfl
  | position, .tag t :: rest, h => by
    rw [locateFrom] at h
    rcases List.mem_cons.1 h with rfl | h
    · exact ⟨[], rest, rfl, rfl, rfl⟩
    · obtain ⟨before, after, rfl, hstart, hstop⟩ := mem_locateFrom h
      refine ⟨.tag t :: before, after, rfl, ?_, hstop⟩
      rw [hstart, List.flatMap_cons, Segment.raw, Text.byteSize_append, Nat.add_assoc]

theorem between_of_mem_cut {opening closing : Text} {g : Tag} {t : Text} (h : .tag g ∈ cut opening closing t) :
    Between opening closing g := by
  fun_induction cut opening closing t with
  | case1 => simp at h
  | case2 c t g' hg ih =>
    rcases List.mem_cons.1 h with heq | h
    · cases heq
      exact (recognise?_eq_some hg).1
    · exact ih h
  | case3 c t hg ih =>
    rcases List.mem_cons.1 h with heq | h
    · cases heq
    · exact ih h

/-- **The live tags of a text** are those that the walk through it finds. Each tag stands in the text from
its first byte to its last, with its key and its clause as parts of it. -/
theorem locate_livePattern (t : Text) :
    locate livePattern t = scan ['$', '{'] ['}'] 0 t ∧
    ∀ l ∈ locate livePattern t,
      (∃ before after, t = before ++ l.tag.raw ++ after ∧ l.start = Text.byteSize before ∧
        l.stop = Text.byteSize (before ++ l.tag.raw)) ∧
      l.tag.raw = ['$', '{'] ++ l.tag.var ++ l.tag.extended.getD [] ++ ['}'] ∧
      l.tag.key = Unicode.toLower l.tag.var := by
  refine ⟨?_, fun l hl => ?_⟩
  · rw [locate, livePattern_delimited.segments_eq_cut, locateFrom_cut]
  · obtain ⟨before, after, hsegs, hstart, hstop⟩ := mem_locateFrom hl
    rw [Nat.zero_add] at hstart
    have hmem : .tag l.tag ∈ cut ['$', '{'] ['}'] t := by
      rw [← livePattern_delimited.segments_eq_cut, hsegs]
      simp
    refine ⟨⟨before.flatMap Segment.raw, after.flatMap Segment.raw, ?_, hstart, ?_⟩,
      (between_of_mem_cut hmem).raw, rfl⟩
    · have hjoin := flatMap_raw_segments livePattern t
      rw [hsegs, List.flatMap_append, List.flatMap_cons, Segment.raw] at hjoin
      rw [← hjoin, List.append_assoc]
    · rw [hstop, hstart, Text.byteSize_append]

end Tag

end Placeholder
