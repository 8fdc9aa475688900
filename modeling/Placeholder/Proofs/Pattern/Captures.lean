/-
Groups and where they stand. A pattern that is made of parts which span texts, some of them in groups, is followed
from left to right: each part takes a head of what is ahead, and a group notes the two ends of it
(`Spans.mem_group_chain`). What a group of a match covers can then be read off the text (`Match.group?_eq`).

A pattern is looked for from the start of a text on, so `first?` finds something exactly if the pattern has a way
somewhere (`first?_isSome_iff`), and what it finds at the start comes before all else (`first?_at_start`).
-/
import Placeholder.Proofs.Tag.Recognition
import Placeholder.Proofs.Unicode.Lowering

namespace Placeholder

namespace Pattern

open Placeholder.Pattern.Expr Ways

variable {g : Ways} {P : Text → Prop}

/-! ## Parts that span -/

/-- Where case does not count, a character stands for its case variants. -/
theorem CharSet.literal_eq (c : Char) : CharSet.literal true c = .chars (Unicode.caseVariants c) := by
  have hself := Unicode.mem_caseVariants_self c
  rw [CharSet.literal, if_pos rfl]
  split
  next d hd =>
    rw [hd, List.mem_singleton] at hself
    rw [hd, hself]
  next => rfl

theorem CharSet.literal_self (c : Char) : (CharSet.literal true c).has c = true := by
  rw [CharSet.literal_eq]
  exact List.contains_iff_mem.2 (Unicode.mem_caseVariants_self c)

/-- `Spelled word u` says that `u` is `word`, in letters of any case. -/
inductive Spelled : Text → Text → Prop
  | nil : Spelled [] []
  | cons {c d word u} : (CharSet.literal true c).has d = true → Spelled word u → Spelled (c :: word) (d :: u)

theorem Spelled.length_eq {word u : Text} (h : Spelled word u) : u.length = word.length := by
  induction h with
  | nil => rfl
  | cons _ _ ih => rw [List.length_cons, List.length_cons, ih]

theorem spelled_append_iff {a b u : Text} : Spelled (a ++ b) u ↔ ∃ v w, u = v ++ w ∧ Spelled a v ∧ Spelled b w := by
  constructor
  · intro h
    induction a generalizing u with
    | nil => exact ⟨[], u, rfl, .nil, h⟩
    | cons c a ih =>
      cases h with
      | cons hd h =>
        obtain ⟨v, w, rfl, hv, hw⟩ := ih h
        exact ⟨_ :: v, w, rfl, .cons hd hv, hw⟩
  · rintro ⟨v, w, rfl, hv, hw⟩
    induction hv with
    | nil => exact hw
    | cons hd _ ih => exact .cons hd ih

theorem spelled_self {word : Text} (h : ∀ c ∈ word, (CharSet.literal true c).has c = true) : Spelled word word := by
  induction word with
  | nil => exact .nil
  | cons c word ih => exact .cons (h c (List.mem_cons_self ..)) (ih fun d hd => h d (List.mem_cons_of_mem c hd))

/-- Characters without case are spelled in one way. -/
theorem spelled_iff_eq {word u : Text} (h : ∀ c ∈ word, CharSet.literal true c = .chars [c]) :
    Spelled word u ↔ u = word := by
  constructor
  · intro hu
    induction hu with
    | nil => rfl
    | @cons c d word u hd _ ih =>
      rw [h c (List.mem_cons_self ..)] at hd
      have hdc : d = c := by simpa [CharSet.has] using hd
      rw [hdc, ih fun e he => h e (List.mem_cons_of_mem c he)]
  · rintro rfl
    induction u with
    | nil => exact .nil
    | cons c u ih =>
      refine .cons ?_ (ih fun e he => h e (List.mem_cons_of_mem c he))
      rw [h c (List.mem_cons_self ..)]
      simp [CharSet.has]

namespace Spans

theorem char (c : Char) : Spans (Tag.char c).ways (· = [c]) :=
  (one (.chars [c])).congr fun u => by simp [CharSet.has]

theorem rounds_one (greedy : Bool) (set : CharSet) :
    Spans (Expr.rounds greedy (.one set)).ways fun u => u ≠ [] ∧ ∀ c ∈ u, set.has c = true :=
  ((one set).rounds rfl).congr fun _ => Tag.plus_singletons

theorem star_one (greedy : Bool) (set : CharSet) :
    Spans (star greedy (.one set)).ways fun u => ∀ c ∈ u, set.has c = true :=
  (rounds_one greedy set).optional.congr fun u => by
    constructor
    · rintro (rfl | h)
      · exact fun _ hc => by cases hc
      · exact h.2
    · intro h
      by_cases hu : u = []
      · exact .inl hu
      · exact .inr ⟨hu, h⟩

theorem text (word : Text) : Spans (Expr.text true word).ways (Spelled word) := by
  induction word with
  | nil =>
    refine ⟨fun {pos t w} => ?_⟩
    have hstay : (Expr.text true []).ways pos t = [Way.stay] := rfl
    rw [hstay, List.mem_singleton]
    constructor
    · exact fun h => ⟨[], t, rfl, .nil, h⟩
    · rintro ⟨u, v, -, hu, rfl⟩
      cases hu
      rfl
  | cons c word ih =>
    have hways : (Expr.text true (c :: word)).ways =
        Ways.chain (Expr.one (CharSet.literal true c)).ways (Expr.text true word).ways := ways_sequence_cons _ _
    rw [hways]
    refine ((one (CharSet.literal true c)).chain ih).congr fun u => ?_
    constructor
    · rintro ⟨_, v, ⟨d, hd, rfl⟩, hv, rfl⟩
      exact .cons hd hv
    · rintro (_ | ⟨hd, hv⟩)
      exact ⟨[_], _, ⟨_, hd, rfl⟩, hv, rfl⟩

/-- Behind a part that spans texts, the ways are those of the rest. -/
theorem mem_chain {f : Ways} (hf : Spans f P) {pos : Nat} {t : Text} {w : Way} : w ∈ Ways.chain f g pos t ↔
    ∃ u v, t = u ++ v ∧ P u ∧ ∃ w' ∈ g (pos + u.length) v, w = ⟨u.length + w'.taken, w'.marks⟩ := by
  rw [Ways.mem_chain]
  constructor
  · rintro ⟨x, hx, w', hw', rfl⟩
    obtain ⟨u, v, rfl, hu, rfl⟩ := hf.mem_iff.1 hx
    rw [List.drop_left] at hw'
    exact ⟨u, v, rfl, hu, w', hw', by simp [Way.andThen]⟩
  · rintro ⟨u, v, rfl, hu, w', hw', rfl⟩
    refine ⟨⟨u.length, []⟩, hf.mem_iff.2 ⟨u, v, rfl, hu, rfl⟩, w', ?_, by simp [Way.andThen]⟩
    rw [List.drop_left]
    exact hw'

/-- A group in front notes where the text that it spans begins and ends. -/
theorem mem_group_chain {a : Expr} (ha : Spans a.ways P) {n pos : Nat} {t : Text} {w : Way} :
    w ∈ Ways.chain (group n a).ways g pos t ↔
      ∃ u v, t = u ++ v ∧ P u ∧ ∃ w' ∈ g (pos + u.length) v,
        w = ⟨u.length + w'.taken, w'.marks ++ [(2 * n + 1, pos + u.length), (2 * n, pos)]⟩ := by
  simp only [group_chain, List.mem_map, ha.mem_chain, mark_chain]
  constructor
  · rintro ⟨_, ⟨u, v, rfl, hu, _, ⟨w', hw', rfl⟩, rfl⟩, rfl⟩
    exact ⟨u, v, rfl, hu, w', hw', by simp [Way.andThen]⟩
  · rintro ⟨u, v, rfl, hu, w', hw', rfl⟩
    exact ⟨_, ⟨u, v, rfl, hu, _, ⟨w', hw', rfl⟩, rfl⟩, by simp [Way.andThen]⟩

end Spans

theorem mem_optional_chain {a : Expr} {pos : Nat} {t : Text} {w : Way} :
    w ∈ chain (optional true a).ways g pos t ↔ w ∈ chain a.ways g pos t ∨ w ∈ g pos t := by
  rw [optional_chain, List.mem_append]

/-! ## Matches anywhere in a text -/

section

variable {p : Pattern}

theorem matchAt_eq_head_ways (h : p.body.simple = true) (left : Option Char) (t : Text) :
    p.matchAt left t = (p.body.ways 0 t).head?.map fun w => ⟨t.take w.taken, w.marks⟩ := by
  rw [matchAt, Expr.matchAt_eq_head_ways h, Option.map_map]
  rfl

theorem matchAt_eq_some (h : p.body.simple = true) {left : Option Char} {t : Text} {m : Match}
    (hm : p.matchAt left t = some m) : ∃ w ∈ p.body.ways 0 t, m = ⟨t.take w.taken, w.marks⟩ := by
  rw [matchAt_eq_head_ways h] at hm
  obtain ⟨w, hw, rfl⟩ := Option.map_eq_some_iff.1 hm
  exact ⟨w, List.mem_of_mem_head? hw, rfl⟩

/-- What is found stands in the text, and nothing that could be found stands before it. -/
theorem first?_eq_some (h : p.body.simple = true) {left : Option Char} {t : Text} {m : Match}
    (hm : p.first? left t = some m) :
    ∃ head rest, t = head ++ rest ∧ (∃ w ∈ p.body.ways 0 rest, m = ⟨rest.take w.taken, w.marks⟩) ∧
      ∀ head' rest', t = head' ++ rest' → p.body.ways 0 rest' ≠ [] → head.length ≤ head'.length := by
  induction t generalizing left with
  | nil => exact ⟨[], [], rfl, matchAt_eq_some h hm, fun _ _ _ _ => Nat.zero_le _⟩
  | cons c t ih =>
    rw [first?, Option.or_eq_some_iff] at hm
    rcases hm with hm | ⟨hnone, hm⟩
    · exact ⟨[], c :: t, rfl, matchAt_eq_some h hm, fun _ _ _ _ => Nat.zero_le _⟩
    · obtain ⟨head, rest, rfl, hw, hfirst⟩ := ih hm
      refine ⟨c :: head, rest, rfl, hw, fun head' rest' ht hways => ?_⟩
      cases head' with
      | nil =>
        rw [List.nil_append] at ht
        rw [matchAt_eq_head_ways h, ht, Option.map_eq_none_iff, List.head?_eq_none_iff] at hnone
        exact absurd hnone hways
      | cons c' head' => exact Nat.succ_le_succ (hfirst head' rest' (List.cons.inj ht).2 hways)

/-- What has a way at the start is found there. -/
theorem first?_at_start (h : p.body.simple = true) (left : Option Char) {t : Text} (hw : p.body.ways 0 t ≠ []) :
    ∃ w ∈ p.body.ways 0 t, p.first? left t = some ⟨t.take w.taken, w.marks⟩ := by
  obtain ⟨w, ws, hws⟩ := List.exists_cons_of_ne_nil hw
  have hmatch : p.matchAt left t = some ⟨t.take w.taken, w.marks⟩ := by
    rw [matchAt_eq_head_ways h, hws]
    rfl
  refine ⟨w, by simp [hws], ?_⟩
  cases t with
  | nil => exact hmatch
  | cons c t => rw [first?, hmatch, Option.some_or]

theorem first?_isSome_iff (h : p.body.simple = true) (left : Option Char) (t : Text) :
    (p.first? left t).isSome = true ↔ ∃ head rest, t = head ++ rest ∧ p.body.ways 0 rest ≠ [] := by
  constructor
  · intro hsome
    obtain ⟨m, hm⟩ := Option.isSome_iff_exists.1 hsome
    obtain ⟨head, rest, ht, ⟨w, hw, -⟩, -⟩ := first?_eq_some h hm
    exact ⟨head, rest, ht, List.ne_nil_of_mem hw⟩
  · rintro ⟨head, rest, rfl, hw⟩
    induction head generalizing left with
    | nil =>
      obtain ⟨w, -, hm⟩ := first?_at_start h left hw
      rw [List.nil_append, hm]
      rfl
    | cons c head ih => rw [List.cons_append, first?, Option.isSome_or, ih, Bool.or_true]

end

end Pattern

/-- A group covers what stands between its two ends. -/
theorem Match.group?_eq {n taken : Nat} {marks : Pattern.Marks} {a u c : Text} (htaken : a.length + u.length ≤ taken)
    (hstart : marks.lookup (2 * n) = some a.length) (hstop : marks.lookup (2 * n + 1) = some (a.length + u.length)) :
    group? ⟨(a ++ u ++ c).take taken, marks⟩ n = some u := by
  have hhead : ((a ++ u ++ c).take taken).take (a.length + u.length) = a ++ u := by
    rw [List.take_take, Nat.min_eq_left htaken, ← List.length_append, List.take_left]
  simp only [group?, hstart, hstop, Option.bind_eq_bind, Option.bind_some, hhead, List.drop_left]
  rfl

theorem Match.group?_eq_none {n : Nat} {marks : Pattern.Marks} {raw : Text} (h : marks.lookup (2 * n) = none) :
    group? ⟨raw, marks⟩ n = none := by
  simp only [group?, h]
  rfl

end Placeholder
