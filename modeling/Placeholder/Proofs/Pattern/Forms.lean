/-
The ways of the forms that patterns are built from: sequences, given characters, groups, lazy runs of
a line, and expressions that set no marks, whose ways are known from the texts that they span.
-/
import Placeholder.Proofs.Pattern.Ways
import Placeholder.Proofs.Text
import Placeholder.Tag

namespace Placeholder.Pattern

open Placeholder.Pattern.Expr Ways

/-! ## The first way of a chain -/

/-- A chain starts with the first way of its first part behind which the second part has one. -/
theorem head?_chain (f g : Ways) (pos : Nat) (t : Text) : (chain f g pos t).head? =
    (f pos t).findSome? fun w => (g (pos + w.taken) (t.drop w.taken)).head?.map w.andThen := by
  rw [chain, List.head?_flatMap]
  congr 1
  funext w
  rw [List.head?_map]

/-- Where one way alone can be gone on from, the search ends with it. -/
theorem findSome?_eq_of_unique {α β : Type} {l : List α} {f : α → Option β} {a : α} (ha : a ∈ l)
    (h : ∀ b ∈ l, b ≠ a → f b = none) : l.findSome? f = f a := by
  cases hf : f a with
  | none =>
    rw [List.findSome?_eq_none_iff]
    intro b hb
    by_cases hba : b = a
    · rw [hba, hf]
    · exact h b hb hba
  | some y =>
    induction l with
    | nil => simp at ha
    | cons b l ih =>
      rw [List.findSome?_cons]
      cases hfb : f b with
      | none =>
        have hne : a ≠ b := by
          rintro rfl
          rw [hf] at hfb
          cases hfb
        exact ih ((List.mem_cons.1 ha).resolve_left hne) fun b' hb' => h b' (List.mem_cons_of_mem _ hb')
      | some z =>
        by_cases hba : b = a
        · rw [← hfb, hba, hf]
        · rw [h b List.mem_cons_self hba] at hfb
          cases hfb

/-! ## Sequences and given characters -/

theorem ways_sequence_cons (a : Expr) (es : List Expr) :
    (sequence (a :: es)).ways = chain a.ways (sequence es).ways := by
  cases es with
  | nil => rw [Expr.sequence, Expr.sequence, ways, chain_stay]
  | cons b es => rfl

theorem ways_sequence_append (as bs : List Expr) :
    (sequence (as ++ bs)).ways = chain (sequence as).ways (sequence bs).ways := by
  induction as with
  | nil => rw [List.nil_append, Expr.sequence, ways, stay_chain]
  | cons a as ih => rw [List.cons_append, ways_sequence_cons, ih, ways_sequence_cons, chain_assoc]

/-- A character of a set in front of a chain is passed over, if it stands there. -/
theorem one_chain (set : CharSet) (g : Ways) (pos : Nat) (c : Char) (t : Text) :
    chain (one set).ways g pos (c :: t) = if set.has c then (g (pos + 1) t).map (Way.andThen ⟨1, []⟩) else [] := by
  by_cases h : set.has c = true <;> simp [chain, ways, h]

theorem char_chain (c : Char) (g : Ways) (pos : Nat) (d : Char) (t : Text) :
    chain (Tag.char c).ways g pos (d :: t) = if d = c then (g (pos + 1) t).map (Way.andThen ⟨1, []⟩) else [] := by
  rw [Tag.char, one_chain]
  simp [CharSet.has]

theorem mark_chain (slot : Nat) (g : Ways) (pos : Nat) (t : Text) :
    chain (mark slot).ways g pos t = (g pos t).map (Way.andThen ⟨0, [(slot, pos)]⟩) := by
  simp [chain, ways]

/-- Given characters in front of a chain are passed over, if they stand there. -/
theorem chars_chain (cs : Text) (g : Ways) (pos : Nat) (t : Text) :
    chain (sequence (cs.map Tag.char)).ways g pos t = match Text.afterHead? cs t with
      | some rest => (g (pos + cs.length) rest).map (Way.andThen ⟨cs.length, []⟩)
      | none => [] := by
  induction cs generalizing pos t with
  | nil =>
    have h : (Way.andThen ⟨0, []⟩ : Way → Way) = id := funext Way.stay_andThen
    simp [Expr.sequence, ways, Text.afterHead?, h]
  | cons c cs ih =>
    rw [List.map_cons, ways_sequence_cons, chain_assoc]
    cases t with
    | nil => rfl
    | cons d t =>
      rw [char_chain]
      by_cases h : d = c
      · rw [if_pos h, h, Text.afterHead?, if_pos rfl, ih]
        cases Text.afterHead? cs t with
        | none => rfl
        | some rest =>
          simp only [List.map_map, List.length_cons, Nat.add_assoc, Nat.add_comm 1]
          congr 1
          funext w
          simp [Way.andThen, Nat.add_comm, Nat.add_assoc]
      · rw [if_neg h, Text.afterHead?_cons_ne h]

/-- Given characters alone have one way at most. -/
theorem head?_ways_chars (cs : Text) (pos : Nat) (t : Text) : ((sequence (cs.map Tag.char)).ways pos t).head? =
    (Text.afterHead? cs t).map fun _ => ⟨cs.length, []⟩ := by
  have h := chars_chain cs Ways.stay pos t
  rw [chain_stay] at h
  rw [h]
  cases Text.afterHead? cs t <;> rfl

/-- A group notes the two ends of what it spans. -/
theorem group_chain (n : Nat) (a : Expr) (g : Ways) (pos : Nat) (t : Text) : chain (group n a).ways g pos t =
    (chain a.ways (chain (mark (2 * n + 1)).ways g) pos t).map (Way.andThen ⟨0, [(2 * n, pos)]⟩) := by
  have hways : (group n a).ways = chain (mark (2 * n)).ways (chain a.ways (mark (2 * n + 1)).ways) := rfl
  rw [hways, chain_assoc, chain_assoc, mark_chain]

/-- An option in front of a chain is tried first. -/
theorem optional_chain (a : Expr) (g : Ways) (pos : Nat) (t : Text) :
    chain (optional true a).ways g pos t = chain a.ways g pos t ++ g pos t := by
  rw [ways_optional, orStay_chain]
  rfl

/-- A lazy run stops at once, or goes on behind a character that is no line feed. -/
theorem shortRun_chain (g : Ways) (pos : Nat) (t : Text) : chain Tag.shortRun.ways g pos t =
    g pos t ++ chain (one .inLine).ways (chain Tag.shortRun.ways g) pos t := by
  have h : chain Tag.shortRun.ways g = _ := star_chain rfl g
  exact congrFun (congrFun h pos) t

theorem shortRun_chain_cons (g : Ways) (pos : Nat) (c : Char) (t : Text) :
    chain Tag.shortRun.ways g pos (c :: t) = g pos (c :: t) ++
      if c = '\n' then [] else (chain Tag.shortRun.ways g (pos + 1) t).map (Way.andThen ⟨1, []⟩) := by
  rw [shortRun_chain, one_chain]
  by_cases h : c = '\n' <;> simp [CharSet.inLine, CharSet.has, h]

/-! ## Spans -/

/-- The ways of `f` set no marks, and span the heads of the text that have a property. -/
structure Spans (f : Ways) (P : Text → Prop) : Prop where
  mem_iff : ∀ {pos t w}, w ∈ f pos t ↔ ∃ u v, t = u ++ v ∧ P u ∧ w = ⟨u.length, []⟩

/-- A text made of one or more parts that have a property. -/
inductive Plus (P : Text → Prop) : Text → Prop
  | one {u} : P u → Plus P u
  | more {u v} : P u → Plus P v → Plus P (u ++ v)

namespace Spans

theorem one (set : CharSet) : Spans (Expr.one set).ways fun u => ∃ c, set.has c = true ∧ u = [c] := by
  refine ⟨fun {pos t w} => ?_⟩
  constructor
  · intro h
    cases t with
    | nil => simp [ways] at h
    | cons c t =>
      by_cases hc : set.has c = true
      · simp only [ways, hc, if_true, List.mem_singleton] at h
        exact ⟨[c], t, rfl, ⟨c, hc, rfl⟩, h⟩
      · simp [ways, hc] at h
  · rintro ⟨u, v, rfl, ⟨c, hc, rfl⟩, rfl⟩
    simp [ways, hc]

theorem chain {f g : Ways} {P Q : Text → Prop} (hf : Spans f P) (hg : Spans g Q) :
    Spans (Ways.chain f g) fun u => ∃ a b, P a ∧ Q b ∧ u = a ++ b := by
  refine ⟨fun {pos t w} => ?_⟩
  rw [mem_chain]
  constructor
  · rintro ⟨x, hx, y, hy, rfl⟩
    obtain ⟨a, r, rfl, ha, rfl⟩ := hf.mem_iff.1 hx
    simp only [List.drop_left] at hy
    obtain ⟨b, v, rfl, hb, rfl⟩ := hg.mem_iff.1 hy
    exact ⟨a ++ b, v, by rw [List.append_assoc], ⟨a, b, ha, hb, rfl⟩, by simp [Way.andThen]⟩
  · rintro ⟨u, v, rfl, ⟨a, b, ha, hb, rfl⟩, rfl⟩
    refine ⟨⟨a.length, []⟩, hf.mem_iff.2 ⟨a, b ++ v, by rw [List.append_assoc], ha, rfl⟩, ⟨b.length, []⟩, ?_, ?_⟩
    · simp only [List.append_assoc, List.drop_left]
      exact hg.mem_iff.2 ⟨b, v, rfl, hb, rfl⟩
    · simp [Way.andThen]

theorem optional {greedy : Bool} {a : Expr} {P : Text → Prop} (h : Spans a.ways P) :
    Spans (Expr.optional greedy a).ways fun u => u = [] ∨ P u := by
  refine ⟨fun {pos t w} => ?_⟩
  rw [ways_optional, mem_orStay, h.mem_iff]
  constructor
  · rintro (rfl | ⟨u, v, ht, hu, hw⟩)
    · exact ⟨[], t, rfl, .inl rfl, rfl⟩
    · exact ⟨u, v, ht, .inr hu, hw⟩
  · rintro ⟨u, v, ht, rfl | hu, hw⟩
    · exact .inl hw
    · exact .inr ⟨u, v, ht, hu, hw⟩

/-- Rounds span one or more of what a round spans. -/
theorem rounds {greedy : Bool} {a : Expr} {P : Text → Prop} (h : Spans a.ways P) (hc : a.consumes = true) :
    Spans (Expr.rounds greedy a).ways (Plus P) := by
  have hmem : ∀ {pos t w}, w ∈ (Expr.rounds greedy a).ways pos t ↔ ∃ u ∈ a.ways pos t,
      ∃ v, (v = Way.stay ∨ v ∈ (Expr.rounds greedy a).ways (pos + u.taken) (t.drop u.taken)) ∧ u.andThen v = w := by
    intro pos t w
    have hround : (Expr.rounds greedy a).ways pos t = Ways.chain a.ways (star greedy a).ways pos t := by
      rw [ways_rounds hc]
    rw [hround, Expr.star, ways_optional, mem_chain]
    simp only [mem_orStay]
  refine ⟨fun {pos t w} => ?_⟩
  constructor
  · -- A round takes a character, so the induction is on what is ahead.
    generalize hn : t.length = n
    induction n using Nat.strongRecOn generalizing pos t w with
    | _ n ih =>
      intro hw
      obtain ⟨x, hx, y, hy, rfl⟩ := hmem.1 hw
      have hpos := ways_consuming hc hx
      obtain ⟨u, r, rfl, hu, rfl⟩ := h.mem_iff.1 hx
      simp only [List.drop_left] at hy
      rcases hy with rfl | hy
      · exact ⟨u, r, rfl, .one hu, Way.andThen_stay _⟩
      · have hlt : r.length < n := by
          rw [List.length_append] at hn
          simp only at hpos
          omega
        obtain ⟨b, v, rfl, hb, rfl⟩ := ih r.length hlt rfl hy
        exact ⟨u ++ b, v, by rw [List.append_assoc], .more hu hb, by simp [Way.andThen]⟩
  · rintro ⟨u, v, rfl, hu, rfl⟩
    induction hu generalizing pos with
    | @one u hu =>
      exact hmem.2 ⟨_, h.mem_iff.2 ⟨u, v, rfl, hu, rfl⟩, _, .inl rfl, Way.andThen_stay _⟩
    | @more u b hu _ ih =>
      refine hmem.2 ⟨⟨u.length, []⟩, h.mem_iff.2 ⟨u, b ++ v, by rw [List.append_assoc], hu, rfl⟩,
        ⟨b.length, []⟩, .inr ?_, ?_⟩
      · simp only [List.append_assoc, List.drop_left]
        exact ih
      · simp [Way.andThen]

theorem congr {f : Ways} {P Q : Text → Prop} (h : Spans f P) (hPQ : ∀ u, P u ↔ Q u) : Spans f Q :=
  (funext fun u => propext (hPQ u) : P = Q) ▸ h

end Spans

end Placeholder.Pattern
