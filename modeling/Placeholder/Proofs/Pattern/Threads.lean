/-
The threads of a search, for every expression. A thread moves without a character until it waits for one (`moves`),
and following it is following all that it becomes (`close_eq`). So what every move keeps, and every character taken,
holds of all threads of a search (`close_all`, `advance_all`, `behind_all`).

A search forgets the text that it has gone through; what it has left are its threads. `Expr.threads` are those that
stand behind a text, and a match is what the first of them has noted that has nothing left to do
(`Expr.matchAt_eq_some`). So what is known of the threads is known of every match.
-/
import Placeholder.Pattern.Search

namespace Placeholder.Pattern

variable {g : Gap} {pos : Nat} {todo : List Step} {marks : Marks} {front : Front} {P Q : Thread → Prop}

/-! ## Moves -/

/-- Whether a thread has nothing left to do, or takes a character next. -/
def waits : List Step → Bool
  | [] | .run (.one _) :: _ => true
  | _ => false

theorem waits_iff : waits todo = true ↔ todo = [] ∨ ∃ set k, todo = .run (.one set) :: k := by
  fun_cases waits todo <;> simp_all

/-- The threads that a thread becomes in one step without a character, the preferred one first. -/
def branches (pos : Nat) : List Step → Marks → List Thread
  | .run .empty :: k, marks => [⟨k, marks⟩]
  | .run (.mark slot) :: k, marks => [⟨k, (slot, pos) :: marks⟩]
  | .run (.seq a b) :: k, marks => [⟨.run a :: .run b :: k, marks⟩]
  | .run (.either a b) :: k, marks => [⟨.run a :: k, marks⟩, ⟨.run b :: k, marks⟩]
  | .run (.rounds greedy a) :: k, marks => [⟨.run a :: .roundDone greedy a false :: k, marks⟩]
  | .roundDone greedy a true :: k, marks =>
    if greedy then [⟨.run a :: .roundDone greedy a false :: k, marks⟩, ⟨k, marks⟩]
    else [⟨k, marks⟩, ⟨.run a :: .roundDone greedy a false :: k, marks⟩]
  | _, _ => []

/-- The same for every thread: one that looks around may end, and a round that took nothing is the last. -/
def moves (g : Gap) (pos : Nat) : List Step → Marks → List Thread
  | .run (.look place) :: k, marks => if g.holds place then [⟨k, marks⟩] else []
  | .roundDone _ _ false :: k, marks => [⟨k, marks⟩]
  | todo, marks => branches pos todo marks

/-- Following a thread is following all that it becomes, one after the other. -/
theorem close_eq : close g pos todo marks front =
    if todo.map Step.bare ∈ front.seen then front
    else (moves g pos todo marks).foldl (fun front th => close g pos th.todo th.marks front)
      ⟨todo.map Step.bare :: front.seen, if waits todo then ⟨todo, marks⟩ :: front.waiting else front.waiting⟩ := by
  rw [close]
  simp only [List.contains_iff_mem]
  split
  · rfl
  · cases todo with
    | nil => rfl
    | cons s k =>
      cases s with
      | run e =>
        cases e with
        | look place => cases h : g.holds place <;> simp only [moves, h] <;> rfl
        | _ => rfl
      | roundDone greedy a moved =>
        cases moved with
        | false => rfl
        | true => cases greedy <;> rfl

theorem weight_moves : ∀ th ∈ moves g pos todo marks, weight th.todo < weight todo := by
  match todo with
  | [] | .run (.one _) :: _ => exact fun th hth => by cases hth
  | .run .empty :: k | .run (.mark _) :: k | .roundDone _ _ false :: k =>
    simp [moves, branches, weight_cons, Step.weight, Expr.weight]
  | .run (.look place) :: k => cases h : g.holds place <;> simp [moves, h, weight_cons, Step.weight, Expr.weight]
  | .run (.seq a b) :: k | .run (.rounds _ a) :: k =>
    simp only [moves, branches, List.forall_mem_singleton, weight_cons, Step.weight, Expr.weight, Bool.false_eq_true, if_false]
    omega
  | .run (.either a b) :: k =>
    simp only [moves, branches, List.forall_mem_cons, weight_cons, Step.weight, Expr.weight]
    exact ⟨by omega, by omega, List.forall_mem_nil _⟩
  | .roundDone true a true :: k | .roundDone false a true :: k =>
    simp only [moves, branches, Bool.false_eq_true, if_true, if_false, List.forall_mem_cons, weight_cons, Step.weight]
    exact ⟨by omega, by omega, List.forall_mem_nil _⟩

/-- What every move keeps holds of all threads that wait. -/
theorem close_all (hmoves : ∀ {todo marks th}, P ⟨todo, marks⟩ → th ∈ moves g pos todo marks → P th)
    (h : P ⟨todo, marks⟩) (hfront : ∀ th ∈ front.waiting, P th) :
    ∀ th ∈ (close g pos todo marks front).waiting, P th := by
  -- The induction is on the weight of what is left to do, which every move lowers.
  obtain ⟨n, hn⟩ : ∃ n, weight todo < n := ⟨_, Nat.lt_succ_self _⟩
  induction n generalizing todo marks front with
  | zero => exact absurd hn (Nat.not_lt_zero _)
  | succ n ih =>
    rw [close_eq]
    split
    · exact hfront
    · have hfold : ∀ ths : List Thread, (∀ th ∈ ths, P th ∧ weight th.todo < n) → ∀ front : Front,
          (∀ th ∈ front.waiting, P th) →
          ∀ th ∈ (ths.foldl (fun front th => close g pos th.todo th.marks front) front).waiting, P th := by
        intro ths hths
        induction ths with
        | nil => exact fun front hfront => hfront
        | cons th ths ihths =>
          intro front hfront
          obtain ⟨hth, hweight⟩ := hths th (List.mem_cons_self ..)
          exact ihths (fun th' hth' => hths th' (List.mem_cons_of_mem th hth')) _ (ih hth hfront hweight)
      refine hfold _ (fun th hth => ⟨hmoves h hth, ?_⟩) _ ?_
      · have := weight_moves th hth
        omega
      · intro th hth
        simp only at hth
        split at hth
        · rcases List.mem_cons.1 hth with rfl | hth
          · exact h
          · exact hfront th hth
        · exact hfront th hth

/-! ## Characters -/

/-- What every character taken, and every move behind it, keeps holds of all threads that wait behind it. -/
theorem advance_all {c : Char} {threads : List Thread}
    (htake : ∀ {set k marks}, P ⟨.run (.one set) :: k, marks⟩ → Q ⟨k.map Step.wake, marks⟩)
    (hmoves : ∀ {todo marks th}, Q ⟨todo, marks⟩ → th ∈ moves g pos todo marks → Q th)
    (h : ∀ th ∈ threads, P th) (hfront : ∀ th ∈ front.waiting, Q th) :
    ∀ th ∈ (advance g pos c threads front).1.waiting, Q th := by
  fun_induction advance g pos c threads front with
  | case1 => exact hfront
  | case2 => exact hfront
  | case3 front set k marks rest ih =>
    refine ih (fun th hth => h th (List.mem_cons_of_mem _ hth)) ?_
    split
    · exact close_all hmoves (htake (h _ (List.mem_cons_self ..))) hfront
    · exact hfront
  | case4 front th rest _ _ ih => exact ih (fun th hth => h th (List.mem_cons_of_mem _ hth)) hfront

/-- Whether a match ends at a position does not hang on the character behind it. -/
theorem advance_done (g : Gap) (pos : Nat) (c : Char) (threads : List Thread) (front : Front) :
    (advance g pos c threads front).2 = finished threads := by
  fun_induction advance g pos c threads front with
  | case1 => rfl
  | case2 => rfl
  | case3 front set k marks rest ih => exact ih
  | case4 th rest front h _ ih =>
    rw [ih]
    obtain ⟨todo, marks⟩ := th
    cases todo with
    | nil => exact absurd rfl (h marks)
    | cons s k => rfl

theorem finished_eq_some {threads : List Thread} (h : finished threads = some marks) : ⟨[], marks⟩ ∈ threads := by
  fun_induction finished threads with
  | case1 => cases h
  | case2 => cases h; exact List.mem_cons_self ..
  | case3 th rest _ ih => exact List.mem_cons_of_mem _ (ih h)

/-- The threads that some threads become behind a text, in front of the character `right`. -/
def behind (right : Option Char) : (pos : Nat) → List Thread → Text → List Thread
  | _, threads, [] => threads
  | pos, threads, c :: t =>
    behind right (pos + 1) (advance ⟨some c, t.head?.or right⟩ (pos + 1) c threads .start).1.waiting.reverse t

/-- What holds at each position, by every move and every character taken, holds of the threads behind a text. -/
theorem behind_all {I : Nat → Thread → Prop} {right : Option Char} {t : Text} {threads : List Thread}
    (htake : ∀ {pos set k marks}, I pos ⟨.run (.one set) :: k, marks⟩ → I (pos + 1) ⟨k.map Step.wake, marks⟩)
    (hmoves : ∀ {g pos todo marks th}, I pos ⟨todo, marks⟩ → th ∈ moves g pos todo marks → I pos th)
    (h : ∀ th ∈ threads, I pos th) : ∀ th ∈ behind right pos threads t, I (pos + t.length) th := by
  induction t generalizing pos threads with
  | nil => exact h
  | cons c t ih =>
    rw [behind, List.length_cons, Nat.add_comm t.length, ← Nat.add_assoc]
    refine ih fun th hth => ?_
    have hstart : ∀ th ∈ Front.start.waiting, I (pos + 1) th := fun th hth => by cases hth
    exact advance_all htake hmoves h hstart th (List.mem_reverse.1 hth)

/-- A match ends where a thread has nothing left to do. -/
theorem follow_eq_some {t : Text} {threads : List Thread} {best : Option (Nat × Marks)} {n : Nat}
    (h : follow pos threads best t = some (n, marks)) : best = some (n, marks) ∨
      ∃ k ≤ t.length, n = pos + k ∧ finished (behind (t.drop k).head? pos threads (t.take k)) = some marks := by
  induction t generalizing pos threads best with
  | nil =>
    rw [follow] at h
    split at h
    next hdone =>
      cases h
      exact .inr ⟨0, Nat.le_refl _, rfl, hdone⟩
    next => exact .inl h
  | cons c t ih =>
    rw [follow] at h
    split at h
    · exact .inl h
    · rcases ih h with hbest | ⟨k, hk, rfl, hdone⟩
      · rw [advance_done] at hbest
        split at hbest
        next hdone =>
          cases hbest
          exact .inr ⟨0, Nat.zero_le _, rfl, hdone⟩
        next => exact .inl hbest
      · refine .inr ⟨k + 1, Nat.succ_le_succ hk, by omega, ?_⟩
        have hhead : (t.take k).head?.or (t.drop k).head? = t.head? := by
          rw [← List.head?_append, List.take_append_drop]
        rw [List.drop_succ_cons, List.take_succ_cons, behind, hhead]
        exact hdone

namespace Expr

/-- The threads of an expression behind a text that stands between two characters. -/
def threads (e : Expr) (left : Option Char) (t : Text) (right : Option Char) : List Thread :=
  behind right 0 (close ⟨left, t.head?.or right⟩ 0 [.run e] [] .start).waiting.reverse t

/-- **A match** is what the first thread behind its text has noted that has nothing left to do. -/
theorem matchAt_eq_some {e : Expr} {left : Option Char} {t : Text} {n : Nat} (h : e.matchAt left t = some (n, marks)) :
    n ≤ t.length ∧ finished (e.threads left (t.take n) (t.drop n).head?) = some marks := by
  rcases follow_eq_some h with hnone | ⟨k, hk, rfl, hdone⟩
  · cases hnone
  · rw [Nat.zero_add]
    refine ⟨hk, ?_⟩
    have hhead : (t.take k).head?.or (t.drop k).head? = t.head? := by
      rw [← List.head?_append, List.take_append_drop]
    rw [threads, hhead]
    exact hdone

/-- What holds of the expression at the start, and is kept by every move and every character taken, holds of all its
threads. -/
theorem threads_all {I : Nat → Thread → Prop} {e : Expr} {left right : Option Char} {t : Text}
    (htake : ∀ {pos set k marks}, I pos ⟨.run (.one set) :: k, marks⟩ → I (pos + 1) ⟨k.map Step.wake, marks⟩)
    (hmoves : ∀ {g pos todo marks th}, I pos ⟨todo, marks⟩ → th ∈ moves g pos todo marks → I pos th)
    (h : I 0 ⟨[.run e], []⟩) : ∀ th ∈ e.threads left t right, I t.length th := by
  have hstart : ∀ th ∈ (close ⟨left, t.head?.or right⟩ 0 [.run e] [] .start).waiting.reverse, I 0 th := by
    intro th hth
    exact close_all hmoves h (fun th hth => by cases hth) th (List.mem_reverse.1 hth)
  intro th hth
  rw [← Nat.zero_add t.length]
  exact behind_all (I := I) htake hmoves hstart th hth

end Expr

end Placeholder.Pattern
