/-
What a written pattern says, part by part: sets, places, groups, and what stands side by side, in choice or repeated.

A repetition is one part, whatever its counts are. `Phrase.expr` writes it out, and `Phrase.groups` tells which groups
are left in that: what is repeated at most zero times is gone, with its groups.
-/
import Placeholder.Pattern.Basic

namespace Placeholder.Pattern

inductive Phrase
  | empty
  | one (set : CharSet)
  | look (place : Place)
  | group (n : Nat) (a : Phrase)
  | seq (a b : Phrase)
  | either (a b : Phrase)
  /-- At least `low` times and at most `high` times. -/
  | repeated (greedy : Bool) (low : Nat) (high : Option Nat) (a : Phrase)
  deriving DecidableEq, Repr

/-- A repetition of `a`, at least `low` times and at most `high` times. -/
def repeatExpr (greedy : Bool) (a : Expr) (low : Nat) : Option Nat → Expr
  | none => match low with
    | 0 => .star greedy a
    | 1 => .rounds greedy a
    | n + 1 => .seq (.times n a) (.rounds greedy a)
  | some high =>
    if high = low then .times low a
    else if low = 0 then .upTo greedy high a
    else .seq (.times low a) (.upTo greedy (high - low) a)

namespace Phrase

def expr : Phrase → Expr
  | empty => .empty
  | one set => .one set
  | look place => .look place
  | group n a => .group n a.expr
  | seq a b => .seq a.expr b.expr
  | either a b => .either a.expr b.expr
  | repeated greedy low high a => repeatExpr greedy a.expr low high

/-- The numbers of the groups. -/
def groups : Phrase → List Nat
  | empty | one _ | look _ => []
  | group n a => n :: a.groups
  | seq a b | either a b => a.groups ++ b.groups
  | repeated _ _ high a => if high = some 0 then [] else a.groups

def sequence : List Phrase → Phrase
  | [] => empty
  | [a] => a
  | a :: rest => seq a (sequence rest)

def choice : List Phrase → Phrase
  | [] => empty
  | [a] => a
  | a :: rest => either a (choice rest)

end Phrase

end Placeholder.Pattern
