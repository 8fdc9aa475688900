/-
What a match hangs on. Anchors and word boundaries look at the character in front of a position and at the one behind
it, and nothing else of an expression sees more than the character it takes. So a match knows of the text around it
only the two characters next to it (`matchAt_eq_of_raw_eq`), and not even these if the expression never looks.
-/
import Mathlib.Data.List.Basic
import Placeholder.Proofs.Pattern.Threads

namespace Placeholder.Pattern

variable {g : Gap} {pos : Nat} {todo : List Step} {marks : Marks} {front : Front}

/-- Whether an anchor or a word boundary is part of the expression. -/
def Expr.looks : Expr → Bool
  | empty | one _ | mark _ => false
  | look _ => true
  | seq a b | either a b => a.looks || b.looks
  | rounds _ a => a.looks

def Step.looks : Step → Bool
  | run e => e.looks
  | roundDone _ a _ => a.looks

@[simp] theorem Step.looks_wake (s : Step) : s.wake.looks = s.looks := by cases s <;> rfl

/-- Nothing that is left to do looks around. -/
def Blind (todo : List Step) : Prop := ∀ s ∈ todo, s.looks = false

theorem blind_cons {s : Step} {k : List Step} : Blind (s :: k) ↔ s.looks = false ∧ Blind k := List.forall_mem_cons

theorem Blind.wake (h : Blind todo) : Blind (todo.map Step.wake) := by
  intro s hs
  obtain ⟨s', hs', rfl⟩ := List.mem_map.1 hs
  rw [Step.looks_wake]
  exact h s' hs'

theorem Blind.moves (h : Blind todo) : ∀ th ∈ moves g pos todo marks, Blind th.todo := by
  match todo, h with
  | [], _ | .run (.one _) :: _, _ => exact fun th hth => by cases hth
  | .run (.look _) :: k, h => cases (blind_cons.1 h).1
  | .run .empty :: k, h | .run (.mark _) :: k, h | .roundDone _ _ false :: k, h =>
    simpa [Pattern.moves, branches] using (blind_cons.1 h).2
  | .run (.seq a b) :: k, h | .run (.rounds _ a) :: k, h =>
    simpa [Pattern.moves, branches, blind_cons, Step.looks, Expr.looks, and_assoc] using h
  | .run (.either a b) :: k, h =>
    simp only [blind_cons, Step.looks, Expr.looks, Bool.or_eq_false_iff] at h
    simp [Pattern.moves, branches, blind_cons, Step.looks, h]
  | .roundDone greedy a true :: k, h =>
    simp only [blind_cons, Step.looks] at h
    cases greedy <;> simp [Pattern.moves, branches, blind_cons, Step.looks, h]

theorem moves_blind (g g' : Gap) (h : Blind todo) : moves g pos todo marks = moves g' pos todo marks := by
  match todo, h with
  | .run (.look place) :: k, h => cases (blind_cons.1 h).1
  | [], _ | .run .empty :: _, _ | .run (.one _) :: _, _ | .run (.mark _) :: _, _ | .run (.seq _ _) :: _, _
  | .run (.either _ _) :: _, _ | .run (.rounds _ _) :: _, _ | .roundDone _ _ false :: _, _
  | .roundDone _ _ true :: _, _ => rfl

/-- A thread that does not look around is followed alike in all gaps. -/
theorem close_blind (g g' : Gap) (h : Blind todo) : close g pos todo marks front = close g' pos todo marks front := by
  obtain ⟨n, hn⟩ : ∃ n, weight todo < n := ⟨_, Nat.lt_succ_self _⟩
  induction n generalizing todo marks front with
  | zero => exact absurd hn (Nat.not_lt_zero _)
  | succ n ih =>
    rw [close_eq, close_eq, moves_blind g g' h]
    split
    · rfl
    · refine List.foldl_ext _ _ _ fun front th hth => ih (h.moves th hth) ?_
      have := weight_moves th hth
      omega

theorem advance_blind (g g' : Gap) {c : Char} {threads : List Thread} (h : ∀ th ∈ threads, Blind th.todo) :
    advance g pos c threads front = advance g' pos c threads front := by
  fun_induction advance g pos c threads front with
  | case1 => rfl
  | case2 => rfl
  | case3 front set k marks rest ih =>
    have hk := (blind_cons.1 (h _ (List.mem_cons_self ..))).2
    rw [ih fun th hth => h th (List.mem_cons_of_mem _ hth)]
    simp only [advance, close_blind g g' hk.wake]
  | case4 th rest front hdone hone ih =>
    rw [ih fun th hth => h th (List.mem_cons_of_mem _ hth), advance.eq_4 _ _ _ _ _ _ hdone hone]

theorem behind_blind {right right' : Option Char} {t : Text} {threads : List Thread}
    (h : ∀ th ∈ threads, Blind th.todo) : behind right pos threads t = behind right' pos threads t := by
  induction t generalizing pos threads with
  | nil => rfl
  | cons c t ih =>
    rw [behind, behind, advance_blind _ ⟨some c, t.head?.or right'⟩ h]
    refine ih fun th hth => ?_
    have hstart : ∀ th ∈ Front.start.waiting, Blind th.todo := fun th hth => by cases hth
    exact advance_all (P := fun th => Blind th.todo) (fun hone => (blind_cons.1 hone).2.wake)
      (fun hblind hmem => hblind.moves _ hmem) h hstart th (List.mem_reverse.1 hth)

/-- The threads of an expression that never looks are the same, whatever stands around the text. -/
theorem Expr.threads_blind {e : Expr} (h : e.looks = false) (left left' right right' : Option Char) (t : Text) :
    e.threads left t right = e.threads left' t right' := by
  have hblind : Blind [.run e] := blind_cons.2 ⟨h, fun s hs => by cases hs⟩
  have hstart : ∀ th ∈ Front.start.waiting, Blind th.todo := fun th hth => by cases hth
  rw [threads, threads, close_blind _ ⟨left', t.head?.or right'⟩ hblind]
  refine behind_blind fun th hth => ?_
  exact close_all (P := fun th => Blind th.todo) (fun hblind hmem => hblind.moves _ hmem) hblind hstart th
    (List.mem_reverse.1 hth)

/-- **A match hangs on its text**, and on the characters next to it only if the expression looks there. -/
theorem matchAt_eq_of_raw_eq {p : Pattern} {left left' : Option Char} {t t' : Text} {m m' : Match}
    (h : p.matchAt left t = some m) (h' : p.matchAt left' t' = some m') (hraw : m.raw = m'.raw)
    (hsides : p.body.looks = false ∨
      left = left' ∧ (t.drop m.raw.length).head? = (t'.drop m'.raw.length).head?) : m = m' := by
  simp only [matchAt, Option.map_eq_some_iff] at h h'
  obtain ⟨⟨n, marks⟩, h, rfl⟩ := h
  obtain ⟨⟨n', marks'⟩, h', rfl⟩ := h'
  obtain ⟨hn, hmarks⟩ := Expr.matchAt_eq_some h
  obtain ⟨hn', hmarks'⟩ := Expr.matchAt_eq_some h'
  simp only [List.length_take, Nat.min_eq_left hn, Nat.min_eq_left hn'] at hraw hsides
  have hthreads : p.body.threads left (t.take n) (t.drop n).head? =
      p.body.threads left' (t'.take n') (t'.drop n').head? := by
    rcases hsides with hblind | ⟨hleft, hright⟩
    · rw [hraw]
      exact Expr.threads_blind hblind _ _ _ _ _
    · rw [hraw, hleft, hright]
  rw [hthreads, hmarks', Option.some.injEq] at hmarks
  rw [hraw, hmarks]

end Placeholder.Pattern
