/-
Where groups stand. In an expression that marks nothing but the two ends of groups (`Expr.Grouped`), the ends that a
match has noted for a group are in order and within the match, or there are none (`Expr.Grouped.spans`).

A thread that has begun a group has the end of it among what is left to do. `Pending` tells which groups are begun,
and `Noted` what is known of the marks then: a group that is not begun has both ends or none.
-/
import Placeholder.Proofs.Pattern.Threads

namespace Placeholder.Pattern

variable {g : Gap} {pos : Nat} {marks : Marks}

/-- The expression marks the ends of groups and nothing else. -/
inductive Expr.Grouped : Expr → Prop
  | empty : Grouped .empty
  | one (set) : Grouped (.one set)
  | look (place) : Grouped (.look place)
  | seq {a b} : Grouped a → Grouped b → Grouped (.seq a b)
  | either {a b} : Grouped a → Grouped b → Grouped (.either a b)
  | rounds {greedy a} : Grouped a → Grouped (.rounds greedy a)
  | group {n a} : Grouped a → Grouped (.group n a)

def Step.Grouped : Step → Prop
  | run e => e.Grouped
  | roundDone _ a _ => a.Grouped

/-- What is left to do behind the beginnings of the groups `ns`, the innermost first. -/
inductive Pending : (ns : List Nat) → List Step → Prop
  | nil : Pending [] []
  | step {ns s k} : s.Grouped → Pending ns k → Pending ns (s :: k)
  | start {ns n a k} : a.Grouped → Pending ns k →
      Pending ns (.run (.mark (2 * n)) :: .run (.seq a (.mark (2 * n + 1))) :: k)
  | body {ns n a k} : a.Grouped → Pending ns k → Pending (n :: ns) (.run (.seq a (.mark (2 * n + 1))) :: k)
  | stop {ns n k} : Pending ns k → Pending (n :: ns) (.run (.mark (2 * n + 1)) :: k)

theorem Pending.wake {ns : List Nat} {todo : List Step} (h : Pending ns todo) : Pending ns (todo.map Step.wake) := by
  induction h with
  | nil => exact .nil
  | @step ns s k hs _ ih =>
    refine .step ?_ ih
    cases s <;> exact hs
  | start ha _ ih => exact .start ha ih
  | body ha _ ih => exact .body ha ih
  | stop _ ih => exact .stop ih

/-- Both ends of a group are noted, in order and at most at `pos`. -/
def Marks.Spans (marks : Marks) (pos n : Nat) : Prop :=
  ∃ i j, marks.lookup (2 * n) = some i ∧ marks.lookup (2 * n + 1) = some j ∧ i ≤ j ∧ j ≤ pos

/-- What is noted at `pos` behind the beginnings of the groups `ns`. -/
structure Noted (ns : List Nat) (pos : Nat) (marks : Marks) : Prop where
  begun : ∀ n ∈ ns, ∃ i, marks.lookup (2 * n) = some i ∧ i ≤ pos
  ended : ∀ n ∉ ns, marks.Spans pos n ∨ (marks.lookup (2 * n) = none ∧ marks.lookup (2 * n + 1) = none)

theorem Noted.mono {ns : List Nat} {pos' : Nat} (h : Noted ns pos marks) (hle : pos ≤ pos') : Noted ns pos' marks := by
  refine ⟨fun n hn => ?_, fun n hn => (h.ended n hn).imp_left ?_⟩
  · obtain ⟨i, hi, hpos⟩ := h.begun n hn
    exact ⟨i, hi, Nat.le_trans hpos hle⟩
  · rintro ⟨i, j, hi, hj, hij, hpos⟩
    exact ⟨i, j, hi, hj, hij, Nat.le_trans hpos hle⟩

theorem Noted.start {ns : List Nat} (h : Noted ns pos marks) (n : Nat) :
    Noted (n :: ns) pos ((2 * n, pos) :: marks) := by
  refine ⟨fun m hm => ?_, fun m hm => ?_⟩
  · by_cases hmn : m = n
    · exact ⟨pos, by simp [hmn], Nat.le_refl pos⟩
    · obtain ⟨i, hi, hpos⟩ := h.begun m ((List.mem_cons.1 hm).resolve_left hmn)
      have hne : (2 * m == 2 * n) = false := by simp; omega
      exact ⟨i, by rw [List.lookup_cons, hne]; exact hi, hpos⟩
  · rw [List.mem_cons, not_or] at hm
    have hne : (2 * m == 2 * n) = false := by simp; omega
    have hne' : (2 * m + 1 == 2 * n) = false := by simp; omega
    simp only [Marks.Spans, List.lookup_cons, hne, hne']
    exact h.ended m hm.2

theorem Noted.stop {ns : List Nat} {n : Nat} (h : Noted (n :: ns) pos marks) :
    Noted ns pos ((2 * n + 1, pos) :: marks) := by
  have hstart : ∀ m, ((2 * n + 1, pos) :: marks).lookup (2 * m) = marks.lookup (2 * m) := by
    intro m
    have hne : (2 * m == 2 * n + 1) = false := by simp; omega
    rw [List.lookup_cons, hne]
  refine ⟨fun m hm => ?_, fun m hm => ?_⟩
  · rw [hstart]
    exact h.begun m (List.mem_cons_of_mem n hm)
  · by_cases hmn : m = n
    · obtain ⟨i, hi, hpos⟩ := h.begun n (List.mem_cons_self ..)
      exact .inl ⟨i, pos, by rw [hmn, hstart, hi], by simp [hmn], hpos, Nat.le_refl pos⟩
    · have hne : (2 * m + 1 == 2 * n + 1) = false := by simp; omega
      have hend : ((2 * n + 1, pos) :: marks).lookup (2 * m + 1) = marks.lookup (2 * m + 1) := by
        rw [List.lookup_cons, hne]
      rw [Marks.Spans, hstart, hend]
      exact h.ended m fun hmem => (List.mem_cons.1 hmem).elim hmn hm

/-- The groups that a thread has begun are those that it has yet to end. -/
def Balanced (pos : Nat) (th : Thread) : Prop := ∃ ns, Pending ns th.todo ∧ Noted ns pos th.marks

theorem Balanced.moves {todo : List Step} (h : Balanced pos ⟨todo, marks⟩) :
    ∀ th ∈ moves g pos todo marks, Balanced pos th := by
  obtain ⟨ns, hpending, hnoted⟩ := h
  cases hpending with
  | nil => exact fun th hth => by cases hth
  | start ha hk =>
    simp only [Pattern.moves, branches, List.forall_mem_singleton]
    exact ⟨_, .body ha hk, hnoted.start _⟩
  | body ha hk =>
    simp only [Pattern.moves, branches, List.forall_mem_singleton]
    exact ⟨_, .step ha (.stop hk), hnoted⟩
  | stop hk =>
    simp only [Pattern.moves, branches, List.forall_mem_singleton]
    exact ⟨_, hk, hnoted.stop⟩
  | @step _ s k hs hk =>
    cases s with
    | roundDone greedy a moved =>
      have hagain : Pending ns (.run a :: .roundDone greedy a false :: k) := .step hs (.step hs hk)
      cases moved with
      | false =>
        simp only [Pattern.moves, List.forall_mem_singleton]
        exact ⟨ns, hk, hnoted⟩
      | true =>
        cases greedy with
        | true =>
          simp only [Pattern.moves, branches, if_true, List.forall_mem_cons]
          exact ⟨⟨ns, hagain, hnoted⟩, ⟨ns, hk, hnoted⟩, List.forall_mem_nil _⟩
        | false =>
          simp only [Pattern.moves, branches, Bool.false_eq_true, if_false, List.forall_mem_cons]
          exact ⟨⟨ns, hk, hnoted⟩, ⟨ns, hagain, hnoted⟩, List.forall_mem_nil _⟩
    | run e =>
      cases (show e.Grouped from hs) with
      | one set => exact fun th hth => by cases hth
      | empty =>
        simp only [Pattern.moves, branches, List.forall_mem_singleton]
        exact ⟨ns, hk, hnoted⟩
      | look place =>
        simp only [Pattern.moves]
        split
        · rw [List.forall_mem_singleton]
          exact ⟨ns, hk, hnoted⟩
        · exact fun th hth => by cases hth
      | seq ha hb =>
        simp only [Pattern.moves, branches, List.forall_mem_singleton]
        exact ⟨ns, .step ha (.step hb hk), hnoted⟩
      | either ha hb =>
        simp only [Pattern.moves, branches, List.forall_mem_cons]
        exact ⟨⟨ns, .step ha hk, hnoted⟩, ⟨ns, .step hb hk, hnoted⟩, List.forall_mem_nil _⟩
      | rounds ha =>
        simp only [Pattern.moves, branches, List.forall_mem_singleton]
        exact ⟨ns, .step ha (.step ha hk), hnoted⟩
      | group ha =>
        simp only [Expr.group, Pattern.moves, branches, List.forall_mem_singleton]
        exact ⟨ns, .start ha hk, hnoted⟩

/-- A character is taken only where no group begins or ends. -/
theorem Balanced.take {set : CharSet} {k : List Step} (h : Balanced pos ⟨.run (.one set) :: k, marks⟩) :
    Balanced (pos + 1) ⟨k.map Step.wake, marks⟩ := by
  obtain ⟨ns, hpending, hnoted⟩ := h
  cases hpending with
  | step _ hk => exact ⟨ns, hk.wake, hnoted.mono (Nat.le_succ pos)⟩

/-- **The ends of groups** are noted in order and within the match, or not at all. -/
theorem Expr.Grouped.spans {e : Expr} (h : e.Grouped) {left : Option Char} {t : Text} {n : Nat}
    (hm : e.matchAt left t = some (n, marks)) (k : Nat) :
    marks.Spans n k ∨ (marks.lookup (2 * k) = none ∧ marks.lookup (2 * k + 1) = none) := by
  obtain ⟨hn, hdone⟩ := e.matchAt_eq_some hm
  have hstart : Balanced 0 ⟨[.run e], []⟩ :=
    ⟨[], .step h .nil, ⟨(fun n hn => by cases hn), fun n _ => .inr ⟨rfl, rfl⟩⟩⟩
  obtain ⟨ns, hpending, hnoted⟩ := e.threads_all (I := Balanced) Balanced.take (fun h hth => h.moves _ hth) hstart _
    (finished_eq_some hdone)
  rw [List.length_take, Nat.min_eq_left hn] at hnoted
  cases hpending with
  | nil => exact hnoted.ended k (List.not_mem_nil)

end Placeholder.Pattern
