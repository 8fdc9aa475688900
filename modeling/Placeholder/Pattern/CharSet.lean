/-
Sets of characters as patterns write them. `CharSet.has` is their meaning.
-/
import Placeholder.Unicode.Class
import Placeholder.Unicode.Case

namespace Placeholder.Pattern

inductive CharSet
  /-- The listed characters. -/
  | chars (cs : List Char)
  | range (lo hi : Char)
  | listed (ranges : Unicode.Ranges)
  /-- The characters of which some case variant is in the set; `ascii` leaves all but ASCII letters without one. -/
  | folded (ascii : Bool) (a : CharSet)
  | word
  | digit
  | blank
  | union (a b : CharSet)
  | inter (a b : CharSet)
  | diff (a b : CharSet)
  | symm (a b : CharSet)
  | compl (a : CharSet)
  deriving DecidableEq, Repr

namespace CharSet

def inRange (lo hi c : Char) : Bool := lo ≤ c && c ≤ hi

/-- The case variants of a character. -/
def variants (ascii : Bool) (c : Char) : List Char :=
  if ascii then [c.toLower, c.toUpper] else Unicode.caseVariants c

def has : CharSet → Char → Bool
  | chars cs, c => cs.contains c
  | range lo hi, c => inRange lo hi c
  | listed ranges, c => ranges.holds c.toNat
  | folded ascii a, c => a.has c || (variants ascii c).any a.has
  | word, c => Unicode.isWord c
  | digit, c => Unicode.isDigit c
  | blank, c => Text.isBlank c
  | union a b, c => a.has c || b.has c
  | inter a b, c => a.has c && b.has c
  | diff a b, c => a.has c && !b.has c
  | symm a b, c => a.has c != b.has c
  | compl a, c => !a.has c

/-- Every character but the line feed. -/
def inLine : CharSet := compl (chars ['\n'])

def all : CharSet := compl (chars [])

def unionOf : List CharSet → CharSet
  | [] => chars []
  | [a] => a
  | a :: rest => union a (unionOf rest)

/-- The character `c`, with its case variants if case does not count. -/
def literal (ignoreCase : Bool) (c : Char) : CharSet :=
  if ignoreCase then
    match Unicode.caseVariants c with
    | [_] => chars [c]
    | variants => chars variants
  else chars [c]

end CharSet

end Placeholder.Pattern
