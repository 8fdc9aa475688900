/-
What a pattern finds.

A match attempt carries its alternatives as an ordered list of threads, the preferred one first.
A thread is what is left to do, and the marks set so far. Between two characters every thread is
followed through all steps that take no character (`close`); a thread with a remainder that a
preferred thread has already come by is dropped, since it can only find the same again. A thread
with nothing left to do is a match, and all threads behind it are dropped.

`Pattern.pieces` cuts a text into the characters that no match covers and the matches.
-/
import Placeholder.Number.Instances
import Placeholder.Pattern.Basic

namespace Placeholder.Pattern

/-- What is still to be done. -/
inductive Step
  | run (e : Expr)
  /-- A round of `a` has ended; `moved` tells whether it took a character. -/
  | roundDone (greedy : Bool) (a : Expr) (moved : Bool)
  deriving DecidableEq, Repr

/-- Positions by mark number, the latest first. -/
abbrev Marks := List (Nat × Nat)

structure Thread where
  todo : List Step
  marks : Marks
  deriving DecidableEq, Repr

/-- The characters on the two sides of a position, if there are any. -/
structure Gap where
  left : Option Char
  right : Option Char
  deriving DecidableEq, Repr

namespace Gap

def isWordAt (ascii : Bool) : Option Char → Bool
  | none => false
  | some c => if ascii then Unicode.isAsciiWord c else Unicode.isWord c

def holds (g : Gap) : Place → Bool
  | .textStart => g.left.isNone
  | .textEnd => g.right.isNone
  | .lineStart => g.left.isNone || g.left == some '\n'
  | .lineEnd => g.right.isNone || g.right == some '\n'
  | .anyLineStart =>
    g.left.isNone || g.left == some '\n' || (g.left == some '\r' && g.right != some '\n')
  | .anyLineEnd =>
    g.right.isNone || g.right == some '\r' || (g.right == some '\n' && g.left != some '\r')
  | .boundary ascii => isWordAt ascii g.left != isWordAt ascii g.right
  | .inside ascii => isWordAt ascii g.left == isWordAt ascii g.right
  | .wordStart ascii => !isWordAt ascii g.left && isWordAt ascii g.right
  | .wordEnd ascii => isWordAt ascii g.left && !isWordAt ascii g.right
  | .beforeWordOrBlank ascii => !isWordAt ascii g.left
  | .afterWordOrBlank ascii => !isWordAt ascii g.right

end Gap

/-- Bounds the steps that an expression can take before it needs a character. -/
def Expr.weight : Expr → Nat
  | .empty | .one _ | .look _ | .mark _ => 1
  | .seq a b => a.weight + b.weight + 1
  | .either a b => a.weight + b.weight + 1
  | .rounds _ a => a.weight + 2

def Step.weight : Step → Nat
  | .run e => e.weight
  | .roundDone _ a moved => if moved then a.weight + 2 else 1

def weight (todo : List Step) : Nat := (todo.map Step.weight).sum

/-- The step with its memory of having moved wiped out. -/
def Step.bare : Step → Step
  | .run e => .run e
  | .roundDone greedy a _ => .roundDone greedy a false

/-- The step after a character was taken. -/
def Step.wake : Step → Step
  | .run e => .run e
  | .roundDone greedy a _ => .roundDone greedy a true

/-- The threads waiting for a character, last one first, and all remainders come by so far. -/
structure Front where
  seen : List (List Step)
  waiting : List Thread
  deriving DecidableEq, Repr

def Front.start : Front := ⟨[], []⟩

theorem weight_cons (s : Step) (k : List Step) : weight (s :: k) = s.weight + weight k := by
  simp [weight]

/-- Follows a thread at position `pos`, in the gap `g`, until every branch of it waits for a
character, has nothing left to do, or is dropped. -/
def close (g : Gap) (pos : Nat) (todo : List Step) (marks : Marks) (front : Front) : Front :=
  let key := todo.map Step.bare
  if front.seen.contains key then front
  else
    let front := { front with seen := key :: front.seen }
    match todo with
    | [] => { front with waiting := ⟨[], marks⟩ :: front.waiting }
    | .run .empty :: k => close g pos k marks front
    | .run (.one set) :: k =>
      { front with waiting := ⟨.run (.one set) :: k, marks⟩ :: front.waiting }
    | .run (.look place) :: k => if g.holds place then close g pos k marks front else front
    | .run (.mark slot) :: k => close g pos k ((slot, pos) :: marks) front
    | .run (.seq a b) :: k => close g pos (.run a :: .run b :: k) marks front
    | .run (.either a b) :: k =>
      close g pos (.run b :: k) marks (close g pos (.run a :: k) marks front)
    | .run (.rounds greedy a) :: k =>
      close g pos (.run a :: .roundDone greedy a false :: k) marks front
    | .roundDone greedy a true :: k =>
      if greedy then
        close g pos k marks (close g pos (.run a :: .roundDone greedy a false :: k) marks front)
      else
        close g pos (.run a :: .roundDone greedy a false :: k) marks (close g pos k marks front)
    | .roundDone _ _ false :: k => close g pos k marks front
termination_by weight todo
decreasing_by
  all_goals
    simp only [weight_cons, Step.weight, Expr.weight, if_true, Bool.false_eq_true, if_false]
  all_goals omega

/-- Lets the threads take the character `c`, up to the first that has nothing left to do; its
marks are the second result. -/
def advance (g : Gap) (pos : Nat) (c : Char) : List Thread → Front → Front × Option Marks
  | [], front => (front, none)
  | ⟨[], marks⟩ :: _, front => (front, some marks)
  | ⟨.run (.one set) :: k, marks⟩ :: rest, front =>
    advance g pos c rest (if set.has c then close g pos (k.map Step.wake) marks front else front)
  | _ :: rest, front => advance g pos c rest front

/-- The marks of the first thread that has nothing left to do. -/
def finished : List Thread → Option Marks
  | [] => none
  | ⟨[], marks⟩ :: _ => some marks
  | _ :: rest => finished rest

/-- Runs the threads over the text; `pos` characters are behind them. The result is the length
and the marks of the preferred match; `best` is the match found so far. -/
def follow (pos : Nat) (threads : List Thread) (best : Option (Nat × Marks)) :
    Text → Option (Nat × Marks)
  | [] => match finished threads with
    | some marks => some (pos, marks)
    | none => best
  | c :: t =>
    if threads.isEmpty then best
    else
      let (front, done) := advance ⟨some c, t.head?⟩ (pos + 1) c threads .start
      follow (pos + 1) front.waiting.reverse (match done with
        | some marks => some (pos, marks)
        | none => best) t

/-- The length and the marks of the match of `e` at the start of `t`, which stands behind `left`. -/
def Expr.matchAt (e : Expr) (left : Option Char) (t : Text) : Option (Nat × Marks) :=
  follow 0 (close ⟨left, t.head?⟩ 0 [.run e] [] .start).waiting.reverse none t

end Pattern

/-- A stretch of text that a pattern has found. -/
structure Match where
  raw : Text
  marks : Pattern.Marks
  deriving DecidableEq, Repr

namespace Match

/-- What group number `n` covers, if it took part in the match. -/
def group? (m : Match) (n : Nat) : Option Text := do
  let start ← m.marks.lookup (2 * n)
  let stop ← m.marks.lookup (2 * n + 1)
  return (m.raw.take stop).drop start

end Match

namespace Pattern

/-- What a group of the given name covers. -/
def named? (p : Pattern) (m : Match) (name : Text) : Option Text :=
  (p.groups.lookup name).bind m.group?

/-- The match at the start of `t`, which stands behind `left`. -/
def matchAt (p : Pattern) (left : Option Char) (t : Text) : Option Match :=
  (p.body.matchAt left t).map fun (n, marks) => ⟨t.take n, marks⟩

/-- The first match anywhere in `t`, which stands behind `left`. -/
def first? (p : Pattern) (left : Option Char) : Text → Option Match
  | [] => p.matchAt left []
  | c :: t => (p.matchAt left (c :: t)).or (p.first? (some c) t)

/-- A character that no match covers, or a match. -/
inductive Piece
  | plain (c : Char)
  | found (m : Match)
  deriving DecidableEq, Repr

namespace Piece

def raw : Piece → Text
  | plain c => [c]
  | found m => m.raw

end Piece

/-- The last character of `raw`, or `left` if there is none. -/
def lastOr (left : Option Char) (raw : Text) : Option Char := raw.getLast?.or left

theorem raw_eq_take {p : Pattern} {left : Option Char} {t : Text} {m : Match}
    (h : p.matchAt left t = some m) : ∃ n, m.raw = t.take n := by
  simp only [matchAt, Option.map_eq_some_iff] at h
  obtain ⟨⟨n, marks⟩, _, rfl⟩ := h
  exact ⟨n, rfl⟩

theorem raw_length_le {p : Pattern} {left : Option Char} {t : Text} {m : Match}
    (h : p.matchAt left t = some m) : m.raw.length ≤ t.length := by
  obtain ⟨n, hn⟩ := raw_eq_take h
  rw [hn, List.length_take]
  exact Nat.min_le_right n t.length

/-- The text cut at its matches, from left to right. A match takes no character of another one,
and an empty match does not stand directly behind a match (`behindMatch`). -/
def piecesFrom (p : Pattern) (left : Option Char) (behindMatch : Bool) (t : Text) : List Piece :=
  match _h : p.matchAt left t with
  | some m =>
    if m.raw.length = 0 ∧ behindMatch then
      match t with
      | [] => []
      | c :: rest => .plain c :: piecesFrom p (some c) false rest
    else
      .found m :: piecesFrom p (lastOr left m.raw) true (t.drop m.raw.length)
  | none =>
    match t with
    | [] => []
    | c :: rest => .plain c :: piecesFrom p (some c) false rest
termination_by 2 * t.length + (if behindMatch then 0 else 1)
decreasing_by
  · simp only [List.length_cons, if_false]
    split <;> omega
  · rename_i hfound
    have hle := raw_length_le _h
    simp only [List.length_drop, if_true]
    split
    · next hbehind =>
      have hne : m.raw.length ≠ 0 := fun h0 => hfound ⟨h0, hbehind⟩
      omega
    · omega
  · simp only [List.length_cons, if_false]
    split <;> omega

def pieces (p : Pattern) (t : Text) : List Piece := p.piecesFrom none false t

end Pattern

end Placeholder
