/-
Sets of characters given as increasing lists of closed ranges of code points, and what it means
for a character to lie in one.
-/
namespace Placeholder.Unicode

/-- Closed ranges of code points, in increasing order and without overlap. -/
abbrev Ranges := List (Nat × Nat)

/-- Whether the code point lies in a range; the search stops at the first range that begins past it. -/
def Ranges.holds : Ranges → Nat → Bool
  | [], _ => false
  | (lo, hi) :: rest, n => if n < lo then false else if n ≤ hi then true else Ranges.holds rest n

end Placeholder.Unicode
