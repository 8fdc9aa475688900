/-
A search finds the first way of an expression (`matchAt_eq_head_ways`), for expressions that take a
character in every round and look at nothing around them.

The one step that could lose a match is the dropping of a thread whose remainder a preferred thread
has come by. `Covered` is the invariant that makes it safe: if such a remainder has any way at all,
then a thread in front of it has found one. While a remainder is being followed its key is already
noted, though not covered yet; these open keys are never met, since the cost of what is left to do
falls with every step that takes no character (`todoCost`).
-/
import Placeholder.Proofs.Pattern.Threads
import Placeholder.Proofs.Pattern.Ways

namespace Placeholder.Pattern

/-! ## What is left to do, as an expression -/

namespace Step

/-- A round that has ended is followed by more rounds or none, whether it moved or not. -/
def expr : Step → Expr
  | run e => e
  | roundDone greedy a _ => .star greedy a

@[simp] theorem expr_bare (s : Step) : s.bare.expr = s.expr := by cases s <;> rfl
@[simp] theorem expr_wake (s : Step) : s.wake.expr = s.expr := by cases s <;> rfl

end Step

/-- The ways through all steps. -/
def todoWays : List Step → Ways
  | [] => Ways.stay
  | s :: k => Ways.chain s.expr.ways (todoWays k)

@[simp] theorem todoWays_bare (todo : List Step) : todoWays (todo.map Step.bare) = todoWays todo := by
  induction todo with
  | nil => rfl
  | cons s k ih => simp only [List.map_cons, todoWays, Step.expr_bare, ih]

@[simp] theorem todoWays_wake (todo : List Step) : todoWays (todo.map Step.wake) = todoWays todo := by
  induction todo with
  | nil => rfl
  | cons s k ih => simp only [List.map_cons, todoWays, Step.expr_wake, ih]

/-- A round that has not moved is never met: something in front of it takes a character first.
`moved` tells whether a character has been taken in front of the steps. -/
def Settled (moved : Bool) : List Step → Prop
  | [] => True
  | .run e :: k => e.simple = true ∧ Settled (moved || e.consumes) k
  | .roundDone _ a m :: k => a.simple = true ∧ a.consumes = true ∧ (moved || m) = true ∧ Settled moved k

theorem Settled.mono {moved : Bool} : ∀ {todo}, Settled moved todo → Settled true todo
  | [], h => h
  | .run _ :: k, h => by
    simp only [Settled, Bool.true_or] at h ⊢
    exact ⟨h.1, Settled.mono h.2⟩
  | .roundDone _ _ _ :: k, h => by
    simp only [Settled, Bool.true_or] at h ⊢
    exact ⟨h.1, h.2.1, trivial, Settled.mono h.2.2.2⟩

theorem Settled.wake {moved b : Bool} : ∀ {todo}, Settled moved todo → Settled b (todo.map Step.wake)
  | [], h => h
  | .run _ :: k, h => by
    simp only [Settled, List.map_cons, Step.wake] at h ⊢
    exact ⟨h.1, Settled.wake h.2⟩
  | .roundDone _ _ _ :: k, h => by
    simp only [Settled, List.map_cons, Step.wake, Bool.or_true] at h ⊢
    exact ⟨h.1, h.2.1, trivial, Settled.wake h.2.2.2⟩

/-! ## The cost of what is left to do -/

/-- The steps of an expression that take no character, where `rest` more may follow it. -/
def Expr.cost : Expr → (rest : Nat) → Nat
  | .empty, rest | .look _, rest | .mark _, rest => rest + 1
  | .one _, _ => 1
  | .seq a b, rest => a.cost (b.cost rest) + 1
  | .either a b, rest => max (a.cost rest) (b.cost rest) + 1
  | .rounds _ a, _ => a.cost 0 + 1

def Step.cost : Step → (rest : Nat) → Nat
  | .run e, rest => e.cost rest
  | .roundDone _ a _, rest => a.cost 0 + rest + 1

def todoCost : List Step → Nat
  | [] => 0
  | s :: k => s.cost (todoCost k)

@[simp] theorem todoCost_bare (todo : List Step) : todoCost (todo.map Step.bare) = todoCost todo := by
  induction todo with
  | nil => rfl
  | cons s k ih => cases s <;> simp only [List.map_cons, todoCost, Step.bare, Step.cost, ih]

/-- What follows an expression that takes a character does not count. -/
theorem Expr.cost_of_consumes {e : Expr} (h : e.consumes = true) : ∀ m n, e.cost m = e.cost n := by
  induction e with
  | empty | look | mark => simp [consumes] at h
  | one | rounds => intro m n; rfl
  | seq a b iha ihb =>
    intro m n
    simp only [cost, Nat.add_right_cancel_iff]
    rcases Bool.or_eq_true _ _ ▸ h with h | h
    · exact iha h _ _
    · rw [ihb h m n]
  | either a b iha ihb =>
    intro m n
    simp only [consumes, Bool.and_eq_true] at h
    simp only [cost, iha h.1 m n, ihb h.2 m n]

/-! ## What threads find -/

namespace Thread

/-- What a thread finds at a position: its first way. -/
def first (pos : Nat) (t : Text) (th : Thread) : Option (Nat × Marks) :=
  (todoWays th.todo pos t).head?.map fun w => (pos + w.taken, w.marks ++ th.marks)

/-- A thread between two characters: it has nothing left to do, or a character to take next. -/
def Ready (th : Thread) : Prop :=
  Settled false th.todo ∧ (th.todo = [] ∨ ∃ set k, th.todo = .run (.one set) :: k)

end Thread

/-- What the first successful thread finds. -/
def firstOf (pos : Nat) (t : Text) (threads : List Thread) : Option (Nat × Marks) :=
  threads.findSome? (Thread.first pos t)

namespace Front

def found (pos : Nat) (t : Text) (front : Front) : Option (Nat × Marks) :=
  firstOf pos t front.waiting.reverse

/-- Every remainder come by, but for the open ones, has no way, or one has been found in front of it. -/
def Covered (pos : Nat) (t : Text) (unfinished : List (List Step)) (front : Front) : Prop :=
  ∀ key ∈ front.seen, key ∉ unfinished → todoWays key pos t ≠ [] → (front.found pos t).isSome = true

/-- What `close` makes of a front: the thread's find comes behind those made already. -/
structure Closed (pos : Nat) (t : Text) (unfinished : List (List Step)) (todo : List Step) (marks : Marks)
    (front next : Front) : Prop where
  found : next.found pos t = (front.found pos t).or (Thread.first pos t ⟨todo, marks⟩)
  covered : next.Covered pos t unfinished
  ready : ∀ th ∈ next.waiting, th.Ready

end Front

theorem firstOf_append (pos : Nat) (t : Text) (a b : List Thread) :
    firstOf pos t (a ++ b) = (firstOf pos t a).or (firstOf pos t b) := by
  rw [firstOf, List.findSome?_append, firstOf, firstOf]

theorem firstOf_cons (pos : Nat) (t : Text) (th : Thread) (ths : List Thread) :
    firstOf pos t (th :: ths) = (th.first pos t).or (firstOf pos t ths) := by
  cases h : th.first pos t <;> simp [firstOf, h]

theorem firstOf_singleton (pos : Nat) (t : Text) (th : Thread) : firstOf pos t [th] = th.first pos t := by
  rw [firstOf_cons]
  exact Option.or_none

theorem found_cons (pos : Nat) (t : Text) (seen : List (List Step)) (th : Thread) (ths : List Thread) :
    Front.found pos t ⟨seen, th :: ths⟩ = (Front.found pos t ⟨seen, ths⟩).or (th.first pos t) := by
  simp only [Front.found, List.reverse_cons, firstOf_append, firstOf_singleton]

theorem first_isSome_iff {pos t th} : (Thread.first pos t th).isSome = true ↔ todoWays th.todo pos t ≠ [] := by
  simp [Thread.first]

/-- Threads with the same ways and marks find the same. -/
theorem first_congr {pos : Nat} {t : Text} {todo todo' : List Step} {marks : Marks}
    (h : todoWays todo pos t = todoWays todo' pos t) :
    Thread.first pos t ⟨todo, marks⟩ = Thread.first pos t ⟨todo', marks⟩ := by
  simp only [Thread.first, h]

/-! ## Following a thread -/

/-- A thread whose rounds all move becomes the same everywhere. -/
theorem moves_of_settled {g : Gap} {pos : Nat} {todo : List Step} {marks : Marks} (hs : Settled false todo) :
    moves g pos todo marks = branches pos todo marks := by
  match todo with
  | .run (.look place) :: k => simp [Settled, Expr.simple] at hs
  | .roundDone _ _ false :: k => simp [Settled] at hs
  | [] | .run .empty :: _ | .run (.one _) :: _ | .run (.mark _) :: _ | .run (.seq _ _) :: _ | .run (.either _ _) :: _
  | .run (.rounds _ _) :: _ | .roundDone _ _ true :: _ => rfl

/-- A step that takes no character, for a thread that is not ready yet. -/
theorem close_eq_foldl {g : Gap} {pos : Nat} {todo : List Step} {marks : Marks} {front : Front}
    (hs : Settled false todo) (hkey : todo.map Step.bare ∉ front.seen) (hready : ¬ Thread.Ready ⟨todo, marks⟩) :
    close g pos todo marks front = (branches pos todo marks).foldl
      (fun f th => close g pos th.todo th.marks f) ⟨todo.map Step.bare :: front.seen, front.waiting⟩ := by
  have hwaits : ¬ waits todo = true := fun h => hready ⟨hs, waits_iff.1 h⟩
  rw [close_eq, if_neg hkey, moves_of_settled hs, if_neg hwaits]

theorem settled_of_mem_branches {pos todo marks th} (hs : Settled false todo)
    (h : th ∈ branches pos todo marks) : Settled false th.todo := by
  match todo with
  | [] | .run (.one _) :: k | .run (.look _) :: k => simp [branches] at h
  | .run .empty :: k | .run (.mark slot) :: k =>
    simp only [branches, List.mem_singleton] at h
    subst h
    exact hs.2
  | .run (.seq a b) :: k =>
    simp only [branches, List.mem_singleton] at h
    subst h
    simp only [Settled, Expr.simple, Expr.consumes, Bool.and_eq_true, Bool.false_or] at hs ⊢
    exact ⟨hs.1.1, hs.1.2, hs.2⟩
  | .run (.either a b) :: k =>
    simp only [branches, List.mem_cons, List.not_mem_nil, or_false] at h
    simp only [Settled, Expr.simple, Expr.consumes, Bool.and_eq_true, Bool.false_or] at hs
    have weaken : ∀ x : Bool, ((a.consumes && b.consumes) = true → x = true) → Settled x k := by
      intro x hx
      cases x with
      | true => exact hs.2.mono
      | false =>
        have hab : (a.consumes && b.consumes) = false := by simpa using hx
        exact hab ▸ hs.2
    rcases h with rfl | rfl
    · exact ⟨hs.1.1, weaken _ fun h => (Bool.and_eq_true _ _ ▸ h).1⟩
    · exact ⟨hs.1.2, weaken _ fun h => (Bool.and_eq_true _ _ ▸ h).2⟩
  | .run (.rounds greedy a) :: k =>
    simp only [branches, List.mem_singleton] at h
    subst h
    simp only [Settled, Expr.simple, Expr.consumes, Bool.and_eq_true, Bool.false_or, Bool.or_false] at hs ⊢
    exact ⟨hs.1.1, hs.1.1, hs.1.2, hs.1.2, hs.2⟩
  | .roundDone greedy a true :: k =>
    simp only [Settled, Bool.or_true, true_and] at hs
    have hagain : Settled false (.run a :: .roundDone greedy a false :: k) := by
      simp only [Settled, Bool.false_or, Bool.or_false]
      exact ⟨hs.1, hs.1, hs.2.1, hs.2.1, hs.2.1 ▸ hs.2.2.mono⟩
    cases greedy <;> simp only [branches, if_true, Bool.false_eq_true, if_false, List.mem_cons, List.not_mem_nil,
      or_false] at h <;> rcases h with rfl | rfl
    · exact hs.2.2
    · exact hagain
    · exact hagain
    · exact hs.2.2
  | .roundDone greedy a false :: k => simp [Settled] at hs

theorem cost_of_mem_branches {pos todo marks th} (hs : Settled false todo)
    (h : th ∈ branches pos todo marks) : todoCost th.todo < todoCost todo := by
  match todo with
  | [] | .run (.one _) :: k | .run (.look _) :: k => simp [branches] at h
  | .run .empty :: k | .run (.mark slot) :: k | .run (.seq a b) :: k =>
    simp only [branches, List.mem_singleton] at h
    subst h
    exact Nat.lt_succ_self _
  | .run (.either a b) :: k =>
    simp only [branches, List.mem_cons, List.not_mem_nil, or_false] at h
    rcases h with rfl | rfl
    · exact Nat.lt_succ_of_le (Nat.le_max_left _ _)
    · exact Nat.lt_succ_of_le (Nat.le_max_right _ _)
  | .run (.rounds greedy a) :: k =>
    simp only [branches, List.mem_singleton] at h
    subst h
    simp only [Settled, Expr.simple, Bool.and_eq_true] at hs
    simp only [todoCost, Step.cost, Expr.cost]
    rw [Expr.cost_of_consumes hs.1.2 _ 0]
    exact Nat.lt_succ_self _
  | .roundDone greedy a true :: k =>
    simp only [Settled] at hs
    have hagain : todoCost (.run a :: .roundDone greedy a false :: k) < todoCost (.roundDone greedy a true :: k) := by
      simp only [todoCost, Step.cost]
      rw [Expr.cost_of_consumes hs.2.1 _ 0]
      omega
    have hstop : todoCost k < todoCost (.roundDone greedy a true :: k) := by
      simp only [todoCost, Step.cost]
      omega
    cases greedy <;> simp only [branches, if_true, Bool.false_eq_true, if_false, List.mem_cons, List.not_mem_nil,
      or_false] at h <;> rcases h with rfl | rfl <;> assumption
  | .roundDone greedy a false :: k => simp [Settled] at hs

/-- The ways of a repetition in front of steps are those of a round in front of more rounds. -/
theorem rounds_todoWays {greedy : Bool} {a : Expr} (h : a.consumes = true) (k : List Step) :
    Ways.chain (Expr.rounds greedy a).ways (todoWays k) = todoWays (.run a :: .roundDone greedy a false :: k) := by
  rw [Expr.ways_rounds h, Ways.chain_assoc]
  rfl

theorem first_append {pos : Nat} {t : Text} {todo todo₁ todo₂ : List Step} {marks : Marks}
    (h : todoWays todo pos t = todoWays todo₁ pos t ++ todoWays todo₂ pos t) :
    Thread.first pos t ⟨todo, marks⟩ = firstOf pos t [⟨todo₁, marks⟩, ⟨todo₂, marks⟩] := by
  rw [firstOf_cons, firstOf_singleton]
  simp only [Thread.first, h, List.head?_append]
  cases (todoWays todo₁ pos t).head? <;> rfl

/-- The branches of a thread find what the thread finds. -/
theorem first_eq_branches {pos : Nat} {t : Text} {todo : List Step} {marks : Marks}
    (hs : Settled false todo) (hready : ¬ Thread.Ready ⟨todo, marks⟩) :
    Thread.first pos t ⟨todo, marks⟩ = firstOf pos t (branches pos todo marks) := by
  match todo with
  | [] => exact absurd ⟨hs, .inl rfl⟩ hready
  | .run (.one set) :: k => exact absurd ⟨hs, .inr ⟨set, k, rfl⟩⟩ hready
  | .run (.look place) :: k => simp [Settled, Expr.simple] at hs
  | .run .empty :: k =>
    rw [branches, firstOf_singleton]
    exact first_congr (by rw [todoWays, Step.expr, Expr.ways, Ways.stay_chain])
  | .run (.mark slot) :: k =>
    rw [branches, firstOf_singleton]
    simp only [Thread.first, todoWays, Step.expr, Expr.ways, Ways.chain, List.flatMap_cons, List.flatMap_nil,
      List.append_nil, Nat.add_zero, List.drop_zero, List.head?_map, Option.map_map]
    congr 1
    funext w
    simp
  | .run (.seq a b) :: k =>
    rw [branches, firstOf_singleton]
    exact first_congr (by simp only [todoWays, Step.expr, Expr.ways, Ways.chain_assoc])
  | .run (.either a b) :: k =>
    rw [branches]
    exact first_append (by simp only [todoWays, Step.expr, Expr.ways, Ways.append_chain])
  | .run (.rounds greedy a) :: k =>
    simp only [Settled, Expr.simple, Bool.and_eq_true] at hs
    rw [branches, firstOf_singleton]
    exact first_congr (by rw [← rounds_todoWays hs.1.2]; rfl)
  | .roundDone greedy a true :: k =>
    simp only [Settled] at hs
    have hways : todoWays (.roundDone greedy a true :: k) = fun pos t =>
        if greedy then todoWays (.run a :: .roundDone greedy a false :: k) pos t ++ todoWays k pos t
        else todoWays k pos t ++ todoWays (.run a :: .roundDone greedy a false :: k) pos t := by
      rw [todoWays, Step.expr, Expr.star, Expr.ways_optional, Ways.orStay_chain, rounds_todoWays hs.2.1]
    rw [branches]
    cases greedy
    · exact first_append (by rw [hways]; rfl)
    · exact first_append (by rw [hways]; rfl)
  | .roundDone greedy a false :: k => simp [Settled] at hs

/-- Following threads one after another keeps what following each of them keeps. -/
theorem closed_foldl {g : Gap} {pos : Nat} {t : Text} {unfinished : List (List Step)} {ths : List Thread}
    (h : ∀ th ∈ ths, ∀ front : Front, front.Covered pos t unfinished → (∀ th ∈ front.waiting, th.Ready) →
      front.Closed pos t unfinished th.todo th.marks (close g pos th.todo th.marks front)) :
    ∀ front : Front, front.Covered pos t unfinished → (∀ th ∈ front.waiting, th.Ready) →
      let next := ths.foldl (fun f th => close g pos th.todo th.marks f) front
      next.found pos t = (front.found pos t).or (firstOf pos t ths) ∧ next.Covered pos t unfinished ∧
        ∀ th ∈ next.waiting, th.Ready := by
  induction ths with
  | nil =>
    intro front hc hr
    simp only [List.foldl_nil, firstOf, List.findSome?_nil, Option.or_none]
    exact ⟨trivial, hc, hr⟩
  | cons th ths ih =>
    intro front hc hr
    have hth := h th List.mem_cons_self front hc hr
    obtain ⟨hfound, hcov, hready⟩ := ih (fun th' hm => h th' (List.mem_cons_of_mem _ hm)) _ hth.covered hth.ready
    simp only [List.foldl_cons]
    refine ⟨?_, hcov, hready⟩
    rw [hfound, hth.found, firstOf_cons, Option.or_assoc]

/-- Noting a remainder as open keeps the others covered. -/
theorem Front.Covered.note {pos t unfinished} {front : Front} {key : List Step} (h : front.Covered pos t unfinished) :
    Front.Covered pos t (key :: unfinished) ⟨key :: front.seen, front.waiting⟩ := by
  intro k hk hopen hways
  simp only [List.mem_cons, not_or] at hk hopen
  rcases hk with rfl | hk
  · exact absurd rfl hopen.1
  · exact h k hk hopen.2 hways

/-- A remainder is covered once its find stands in the front. -/
theorem Front.Covered.finish {pos t unfinished} {front next : Front} {todo : List Step} {marks : Marks}
    (h : next.Covered pos t (todo.map Step.bare :: unfinished))
    (hfound : next.found pos t = (front.found pos t).or (Thread.first pos t ⟨todo, marks⟩)) :
    next.Covered pos t unfinished := by
  intro key hk hopen hways
  by_cases heq : key = todo.map Step.bare
  · have hsome : (Thread.first pos t ⟨todo, marks⟩).isSome = true := by
      rw [first_isSome_iff]
      rwa [heq, todoWays_bare] at hways
    rw [hfound, Option.isSome_or, hsome, Bool.or_true]
  · exact h key hk (by simp [heq, hopen]) hways

/-- **Following a thread** puts its find behind those made before. The induction is on the cost of
what is left to do, and the open keys cost more than that. -/
theorem close_closed {g : Gap} {pos : Nat} {t : Text} : ∀ (n : Nat) {todo : List Step} {marks : Marks}
    {front : Front} {unfinished : List (List Step)}, todoCost todo < n → Settled false todo →
    (∀ key ∈ unfinished, todoCost todo < todoCost key) → front.Covered pos t unfinished →
    (∀ th ∈ front.waiting, th.Ready) → front.Closed pos t unfinished todo marks (close g pos todo marks front) := by
  intro n
  induction n with
  | zero => intro todo marks front unfinished hn; omega
  | succ n ih =>
    intro todo marks front unfinished hn hs hopen hc hr
    by_cases hkey : todo.map Step.bare ∈ front.seen
    · have hclose : close g pos todo marks front = front := by
        rw [close]
        simp [hkey]
      have hnot : todo.map Step.bare ∉ unfinished := by
        intro hm
        have := hopen _ hm
        rw [todoCost_bare] at this
        exact Nat.lt_irrefl _ this
      rw [hclose]
      refine ⟨?_, hc, hr⟩
      have hcov := hc _ hkey hnot
      rw [todoWays_bare] at hcov
      cases hf : Thread.first pos t ⟨todo, marks⟩ with
      | none => rw [Option.or_none]
      | some x =>
        have hsome := hcov (first_isSome_iff.1 (by rw [hf]; rfl))
        obtain ⟨y, hy⟩ := Option.isSome_iff_exists.1 hsome
        rw [hy]
        rfl
    · by_cases hready : Thread.Ready ⟨todo, marks⟩
      · have hclose : close g pos todo marks front =
            ⟨todo.map Step.bare :: front.seen, ⟨todo, marks⟩ :: front.waiting⟩ := by
          rcases hready.2 with h | ⟨set, k, h⟩ <;> subst h <;> rw [close] <;> simp_all
        rw [hclose]
        have hfound := found_cons pos t (todo.map Step.bare :: front.seen) ⟨todo, marks⟩ front.waiting
        refine ⟨hfound, ?_, ?_⟩
        · refine Front.Covered.finish ?_ hfound
          intro key hk hnot hways
          rw [hfound, Option.isSome_or, Bool.or_eq_true]
          exact .inl (hc.note key hk hnot hways)
        · intro th hth
          rcases List.mem_cons.1 hth with rfl | hth
          · exact hready
          · exact hr th hth
      · rw [close_eq_foldl hs hkey hready]
        have hbranch : ∀ th ∈ branches pos todo marks, ∀ front' : Front,
            front'.Covered pos t (todo.map Step.bare :: unfinished) → (∀ th ∈ front'.waiting, th.Ready) →
            front'.Closed pos t (todo.map Step.bare :: unfinished) th.todo th.marks
              (close g pos th.todo th.marks front') := by
          intro th hth front' hc' hr'
          have hcost := cost_of_mem_branches hs hth
          refine ih (Nat.lt_of_lt_of_le hcost (Nat.le_of_lt_succ hn)) (settled_of_mem_branches hs hth) ?_ hc' hr'
          intro key hk
          rcases List.mem_cons.1 hk with rfl | hk
          · rwa [todoCost_bare]
          · exact Nat.lt_trans hcost (hopen key hk)
        obtain ⟨hfound, hcov, hready'⟩ := closed_foldl hbranch _ hc.note hr
        rw [← first_eq_branches hs hready] at hfound
        exact ⟨hfound, hcov.finish hfound, hready'⟩

/-! ## Taking characters -/

/-- What a ready thread finds ahead of a character is what it finds behind it, if it can take it. -/
theorem first_one (pos : Nat) (c : Char) (t : Text) (set : CharSet) (k : List Step) (marks : Marks) :
    Thread.first pos (c :: t) ⟨.run (.one set) :: k, marks⟩ =
      if set.has c then Thread.first (pos + 1) t ⟨k.map Step.wake, marks⟩ else none := by
  by_cases h : set.has c = true
  · simp only [Thread.first, todoWays, todoWays_wake, Step.expr, Expr.ways, Ways.chain, h, if_true,
      List.flatMap_cons, List.flatMap_nil, List.append_nil, List.drop_succ_cons, List.drop_zero, List.head?_map,
      Option.map_map]
    congr 1
    funext w
    simp [Nat.add_assoc]
  · simp [Thread.first, todoWays, Step.expr, Expr.ways, Ways.chain, h]

theorem first_done (pos : Nat) (t : Text) (marks : Marks) : Thread.first pos t ⟨[], marks⟩ = some (pos, marks) := rfl

/-- **Taking a character** keeps what the threads find: a finished thread is found at once, and hides
the threads behind it. -/
theorem advance_found {g : Gap} {pos : Nat} {c : Char} {t : Text} {threads : List Thread}
    (hr : ∀ th ∈ threads, th.Ready) : ∀ {front : Front}, front.Covered (pos + 1) t [] →
    (∀ th ∈ front.waiting, th.Ready) → ∀ {next done}, advance g (pos + 1) c threads front = (next, done) →
      (next.found (pos + 1) t).or (done.map fun marks => (pos, marks)) =
        (front.found (pos + 1) t).or (firstOf pos (c :: t) threads) ∧ ∀ th ∈ next.waiting, th.Ready := by
  induction threads with
  | nil =>
    intro front hc hw next done h
    simp only [advance, Prod.mk.injEq] at h
    obtain ⟨rfl, rfl⟩ := h
    exact ⟨rfl, hw⟩
  | cons th rest ih =>
    have hrest : ∀ th ∈ rest, th.Ready := fun th hm => hr th (List.mem_cons_of_mem _ hm)
    intro front hc hw next done h
    obtain ⟨todo, marks⟩ := th
    obtain ⟨hs, htodo⟩ := hr ⟨todo, marks⟩ List.mem_cons_self
    have hcons := firstOf_cons pos (c :: t) ⟨todo, marks⟩ rest
    rcases htodo with rfl | ⟨set, k, rfl⟩
    · simp only [advance, Prod.mk.injEq] at h
      obtain ⟨rfl, rfl⟩ := h
      rw [hcons, first_done]
      exact ⟨rfl, hw⟩
    · rw [hcons, first_one]
      simp only [advance] at h
      by_cases hc' : set.has c = true
      · rw [if_pos hc'] at h ⊢
        have hclosed : front.Closed (pos + 1) t [] (k.map Step.wake) marks
            (close g (pos + 1) (k.map Step.wake) marks front) :=
          close_closed _ (Nat.lt_succ_self _) hs.2.wake (by simp) hc hw
        obtain ⟨hfound, hready⟩ := ih hrest hclosed.covered hclosed.ready h
        rw [hfound, hclosed.found, Option.or_assoc]
        exact ⟨rfl, hready⟩
      · rw [if_neg hc'] at h ⊢
        obtain ⟨hfound, hready⟩ := ih hrest hc hw h
        exact ⟨by rw [hfound, Option.none_or], hready⟩

theorem finished_eq {pos : Nat} {threads : List Thread} (hr : ∀ th ∈ threads, th.Ready) :
    (finished threads).map (fun marks => (pos, marks)) = firstOf pos [] threads := by
  induction threads with
  | nil => rfl
  | cons th rest ih =>
    have hrest := ih fun th hm => hr th (List.mem_cons_of_mem _ hm)
    obtain ⟨todo, marks⟩ := th
    rcases (hr ⟨todo, marks⟩ List.mem_cons_self).2 with rfl | ⟨set, k, rfl⟩
    · rfl
    · exact hrest

theorem covered_start (pos : Nat) (t : Text) : Front.start.Covered pos t [] := by
  intro key hk
  simp [Front.start] at hk

/-- What the threads find replaces the match found so far. -/
theorem follow_eq {t : Text} : ∀ {pos : Nat} {threads : List Thread} {best : Option (Nat × Marks)},
    (∀ th ∈ threads, th.Ready) → follow pos threads best t = (firstOf pos t threads).or best := by
  induction t with
  | nil =>
    intro pos threads best hr
    rw [← finished_eq hr, follow]
    cases finished threads <;> rfl
  | cons c t ih =>
    intro pos threads best hr
    rw [follow]
    by_cases hempty : threads.isEmpty = true
    · rw [if_pos hempty, List.isEmpty_iff.1 hempty]
      rfl
    · rw [if_neg hempty]
      cases hadv : advance ⟨some c, t.head?⟩ (pos + 1) c threads .start with
      | mk next done =>
        obtain ⟨hfound, hready⟩ := advance_found hr (covered_start (pos + 1) t) (by simp [Front.start]) hadv
        have hstart : Front.start.found (pos + 1) t = none := rfl
        rw [hstart, Option.none_or] at hfound
        simp only
        rw [ih fun th hm => hready th (List.mem_reverse.1 hm), ← hfound, Option.or_assoc]
        cases done <;> rfl

/-- **A search finds the first way**, at the start of a text and behind any character. -/
theorem Expr.matchAt_eq_head_ways {e : Expr} (h : e.simple = true) (left : Option Char) (t : Text) :
    e.matchAt left t = (e.ways 0 t).head?.map fun w => (w.taken, w.marks) := by
  have hs : Settled false [.run e] := ⟨h, trivial⟩
  have hclosed : Front.start.Closed 0 t [] [.run e] [] (close ⟨left, t.head?⟩ 0 [.run e] [] .start) :=
    close_closed _ (Nat.lt_succ_self _) hs (by simp) (covered_start 0 t) (by simp [Front.start])
  rw [Expr.matchAt, follow_eq fun th hm => hclosed.ready th (List.mem_reverse.1 hm), Option.or_none]
  refine hclosed.found.trans ?_
  have hstart : Front.start.found 0 t = none := rfl
  rw [hstart, Option.none_or, Thread.first, todoWays, todoWays, Ways.chain_stay]
  simp [Step.expr]

end Placeholder.Pattern
