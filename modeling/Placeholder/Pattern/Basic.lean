/-
Patterns: the expressions that describe a stretch of text, with the places they may mark.

A pattern is read from left to right and prefers its first choice: of two alternatives the first,
of a greedy repetition the longer. `Pattern.Search` says what that finds.
-/
import Placeholder.Pattern.CharSet

namespace Placeholder.Pattern

/-- What holds between two characters. -/
inductive Place
  | textStart
  | textEnd
  | lineStart
  | lineEnd
  /-- As `lineStart`, where a carriage return or the pair of both ends a line too. -/
  | anyLineStart
  | anyLineEnd
  | boundary (ascii : Bool)
  | inside (ascii : Bool)
  | wordStart (ascii : Bool)
  | wordEnd (ascii : Bool)
  | beforeWordOrBlank (ascii : Bool)
  | afterWordOrBlank (ascii : Bool)
  deriving DecidableEq, Repr

inductive Expr
  /-- Nothing, and it always succeeds. -/
  | empty
  | one (set : CharSet)
  | look (place : Place)
  /-- Notes the position under the given number. -/
  | mark (slot : Nat)
  | seq (a b : Expr)
  /-- `a`, or else `b`. -/
  | either (a b : Expr)
  /-- One round of `a` or more; a greedy repetition prefers another round. -/
  | rounds (greedy : Bool) (a : Expr)
  deriving DecidableEq, Repr

namespace Expr

/-- `a` or nothing. -/
def optional (greedy : Bool) (a : Expr) : Expr :=
  if greedy then either a empty else either empty a

/-- Any number of rounds of `a`. -/
def star (greedy : Bool) (a : Expr) : Expr := optional greedy (rounds greedy a)

/-- Group number `n`: its two ends are the marks `2 n` and `2 n + 1`. -/
def group (n : Nat) (a : Expr) : Expr := seq (mark (2 * n)) (seq a (mark (2 * n + 1)))

def sequence : List Expr → Expr
  | [] => empty
  | [a] => a
  | a :: rest => seq a (sequence rest)

def choice : List Expr → Expr
  | [] => empty
  | [a] => a
  | a :: rest => either a (choice rest)

/-- The characters of a text one after another. -/
def text (ignoreCase : Bool) (t : Text) : Expr :=
  sequence (t.map fun c => one (CharSet.literal ignoreCase c))

/-- `n` copies of `a`. -/
def times (n : Nat) (a : Expr) : Expr := sequence (List.replicate n a)

/-- At most `n` copies of `a`, each one tried only behind the one before it. -/
def upTo (greedy : Bool) : Nat → Expr → Expr
  | 0, _ => empty
  | n + 1, a => optional greedy (match n with
      | 0 => a
      | _ => seq a (upTo greedy n a))

end Expr

end Placeholder.Pattern

namespace Placeholder

/-- A pattern with the names of its groups. `source` is its written form. -/
structure Pattern where
  source : Text
  body : Pattern.Expr
  groups : List (Text × Nat)
  deriving DecidableEq, Repr

end Placeholder
