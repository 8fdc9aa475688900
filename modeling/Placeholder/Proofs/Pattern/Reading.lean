/-
What is read is grouped. A written pattern has no way to mark a place but by a group, so what it says, written out,
marks the ends of groups and nothing else (`read_grouped`).
-/
import Placeholder.Pattern.Reader
import Placeholder.Proofs.Pattern.Groups

namespace Placeholder.Pattern

/-! ## Expressions -/

namespace Expr.Grouped

variable {a : Expr}

theorem optional (greedy : Bool) (h : a.Grouped) : (Expr.optional greedy a).Grouped := by
  cases greedy
  · exact .either .empty h
  · exact .either h .empty

theorem star (greedy : Bool) (h : a.Grouped) : (Expr.star greedy a).Grouped := (Grouped.rounds h).optional greedy

theorem sequence : {es : List Expr} → (∀ e ∈ es, e.Grouped) → (Expr.sequence es).Grouped
  | [], _ => .empty
  | [e], h => h e (List.mem_cons_self ..)
  | e :: _ :: _, h =>
    .seq (h e (List.mem_cons_self ..)) (sequence fun x hx => h x (List.mem_cons_of_mem e hx))

theorem choice : {es : List Expr} → (∀ e ∈ es, e.Grouped) → (Expr.choice es).Grouped
  | [], _ => .empty
  | [e], h => h e (List.mem_cons_self ..)
  | e :: _ :: _, h =>
    .either (h e (List.mem_cons_self ..)) (choice fun x hx => h x (List.mem_cons_of_mem e hx))

theorem times (n : Nat) (h : a.Grouped) : (Expr.times n a).Grouped :=
  sequence fun _ he => List.eq_of_mem_replicate he ▸ h

theorem upTo (greedy : Bool) (n : Nat) (h : a.Grouped) : (Expr.upTo greedy n a).Grouped := by
  induction n with
  | zero => exact .empty
  | succ n ih =>
    cases n with
    | zero => exact h.optional greedy
    | succ n => exact (Grouped.seq h ih).optional greedy

theorem repeatExpr (greedy : Bool) (low : Nat) (high : Option Nat) (h : a.Grouped) :
    (Pattern.repeatExpr greedy a low high).Grouped := by
  fun_cases Pattern.repeatExpr greedy a low high with
  | case1 => exact h.star greedy
  | case2 => exact .rounds h
  | case3 => exact .seq (h.times _) (.rounds h)
  | case4 => exact h.times _
  | case5 => exact h.upTo greedy _
  | case6 => exact .seq (h.times _) (h.upTo greedy _)

end Expr.Grouped

/-! ## Phrases -/

theorem Phrase.expr_grouped (a : Phrase) : a.expr.Grouped := by
  induction a with
  | empty => exact .empty
  | one set => exact .one set
  | look place => exact .look place
  | group n a ih => exact .group ih
  | seq a b iha ihb => exact .seq iha ihb
  | either a b iha ihb => exact .either iha ihb
  | repeated greedy low high a ih => exact ih.repeatExpr greedy low high

/-- What is read is a phrase written out, and its named groups are among those of the phrase. -/
theorem read_phrase {engine : Engine} {source : Text} {p : Pattern} (h : Pattern.read engine source = .ok p) :
    p.source = source ∧ ∃ a : Phrase, p.body = a.expr ∧ engine.fits a = true ∧ ∀ g ∈ p.groups, g.2 ∈ a.groups := by
  simp only [Pattern.read, StateT.run] at h
  cases hread : readBranches engine (2 * source.length + 2) [] [] ⟨source, {}, 0, []⟩ with
  | error fault =>
    rw [hread] at h
    cases h
  | ok result =>
    rw [hread] at h
    -- Only the end that passes all three checks gives a pattern.
    dsimp only [bind, Except.bind] at h
    split at h
    · cases h
    split at h
    · cases h
    split at h
    · cases h
    next hfits =>
    cases h
    refine ⟨rfl, result.1.phrase, rfl, by simpa using hfits, fun g hg => ?_⟩
    exact List.elem_iff.1 (List.mem_filter.1 hg).2

/-- **Every pattern that is read** marks the ends of groups and nothing else. -/
theorem read_grouped {engine : Engine} {source : Text} {p : Pattern} (h : Pattern.read engine source = .ok p) :
    p.body.Grouped := by
  obtain ⟨-, a, hbody, -⟩ := read_phrase h
  rw [hbody]
  exact a.expr_grouped

end Placeholder.Pattern
