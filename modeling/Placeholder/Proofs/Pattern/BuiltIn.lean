/-
The patterns of the library are what their sources read as. They are given as expressions beside their written forms;
reading a written form gives an expression that is put together in another way, with its sets in parts and its
sequences in one row. Put in one form, the two are the same (`Expr.normal`), and so they match alike (`read_source`).
-/
import Placeholder.Clause
import Placeholder.Proofs.Pattern.Captures
import Placeholder.Pattern.Reader

namespace Placeholder.Pattern

/-! ## One form for all -/

/-- A set with its listed characters in one list. -/
def CharSet.joined : CharSet → CharSet
  | union a b => match a.joined, b.joined with
    | chars as, chars bs => chars (as ++ bs)
    | a, b => union a b
  | s => s

theorem CharSet.has_joined (s : CharSet) (c : Char) : s.joined.has c = s.has c := by
  induction s with
  | union a b iha ihb =>
    rw [joined]
    split
    next as bs ha hb =>
      rw [ha, has] at iha
      rw [hb, has] at ihb
      rw [has, has, List.contains_append, iha, ihb]
    next => rw [has, has, iha, ihb]
  | _ => rfl

namespace Expr

open Ways

/-- `a` and then `b`, with the parts of `a` in one row before it. -/
def before : (a b : Expr) → Expr
  | seq a₁ a₂, b => before a₁ (before a₂ b)
  | a, b => seq a b

/-- The expression with its sequences in one row and its sets joined. -/
def normal : Expr → Expr
  | one set => one set.joined
  | seq a b => before a.normal b.normal
  | either a b => either a.normal b.normal
  | rounds greedy a => rounds greedy a.normal
  | e => e

theorem ways_before (a b : Expr) : (before a b).ways = chain a.ways b.ways := by
  induction a generalizing b with
  | seq a₁ a₂ ih₁ ih₂ => rw [before, ih₁, ih₂, ways, chain_assoc]
  | _ => rfl

theorem ways_normal (e : Expr) : e.normal.ways = e.ways := by
  induction e with
  | empty | look | mark => rfl
  | one set =>
    funext pos t
    cases t with
    | nil => rfl
    | cons c t => simp only [normal, ways, CharSet.has_joined]
  | seq a b iha ihb => rw [normal, ways_before, iha, ihb, ways]
  | either a b iha ihb =>
    funext pos t
    rw [normal, ways, ways, iha, ihb]
  | rounds greedy a ih =>
    funext pos t
    rw [normal, ways, ways, ih]

theorem matchAt_eq_of_normal_eq {d e : Expr} (hd : d.simple = true) (he : e.simple = true) (h : d.normal = e.normal)
    (left : Option Char) (t : Text) : d.matchAt left t = e.matchAt left t := by
  rw [matchAt_eq_head_ways hd, matchAt_eq_head_ways he, ← ways_normal d, ← ways_normal e, h]

end Expr

/-! ## Sources -/

/-- The source is read, with the same groups, and the expressions have one form. -/
def isReadFrom (p : Pattern) : Bool :=
  match Pattern.read .standard p.source with
  | .ok q => q.groups == p.groups && q.body.simple && p.body.simple && q.body.normal == p.body.normal
  | .error _ => false

/-- The patterns that the library brings along. -/
def builtIn : List Pattern :=
  [Tag.livePattern, Tag.escapedPattern, Clause.segmentPattern, Clause.numberPattern, Clause.stringPattern]

theorem isReadFrom_of_builtIn : ∀ p ∈ builtIn, isReadFrom p = true := by decide +kernel

/-- **A pattern of the library is what its source reads as.** The groups have the same names and numbers, and the same
is matched at every place of every text, with the same groups in it. -/
theorem read_source {p : Pattern} (hp : p ∈ builtIn) : ∃ q, Pattern.read .standard p.source = .ok q ∧
    q.groups = p.groups ∧ ∀ left t, q.matchAt left t = p.matchAt left t := by
  have h : isReadFrom p = true := isReadFrom_of_builtIn p hp
  rw [isReadFrom] at h
  split at h
  next q hq =>
    simp only [Bool.and_eq_true, beq_iff_eq] at h
    obtain ⟨⟨⟨hgroups, hread⟩, hgiven⟩, hnormal⟩ := h
    refine ⟨q, hq, hgroups, fun left t => ?_⟩
    rw [Pattern.matchAt, Pattern.matchAt, Expr.matchAt_eq_of_normal_eq hread hgiven hnormal]
  next => cases h

end Placeholder.Pattern
