/-
What a pattern takes from the engine that runs it: the sets of characters that have a name, and the room for its
automaton. Both depend on the engine and its Unicode data alone, and everything that reads a pattern takes them from
here.
-/
import Placeholder.Pattern.Phrase
import Placeholder.Pattern.Property

namespace Placeholder.Pattern

structure Engine where
  /-- The set that is named behind `\p`, by one letter or by what stands in the braces. -/
  property? : Text → Option CharSet
  /-- Whether the automaton of a pattern keeps within the limit for its size. -/
  fits : Phrase → Bool

namespace Engine

/-- The bytes that a set takes in an automaton, roughly. -/
def setSize : CharSet → Nat
  | .chars cs => 40 + 8 * cs.length
  | .range _ _ => 60
  | .listed ranges => 40 + 60 * ranges.length
  | .folded _ a => setSize a + 20
  | .word => 60000
  | .digit => 4000
  | .blank => 800
  | .union a b => setSize a + setSize b
  | .inter a b | .diff a b | .symm a b => max (setSize a) (setSize b)
  | .compl a => setSize a + 500

/-- The bytes that an automaton takes, roughly. -/
def size : Phrase → Nat
  | .empty => 24
  | .one set => setSize set
  | .look _ => 40
  | .group _ a => size a + 60
  | .seq a b => size a + size b
  | .either a b => size a + size b + 40
  | .repeated _ low high a => size a * max 1 (max low (high.getD 0)) + 40

/-- The engine that is used where no other is given. It knows the general categories, the scripts and some properties
by name, of Unicode 16, and lets an automaton take 10 MiB by a rough count. Ages, kinds of breaks, extended scripts
and most properties it does not know, and near the limit its count may be off. -/
def standard : Engine where
  property? := Property.named?
  fits a := size a ≤ 10 * 1024 * 1024

end Engine

end Placeholder.Pattern
