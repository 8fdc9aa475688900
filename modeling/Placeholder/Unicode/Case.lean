/-
Lower case of a text, and the case variants of a character.

A capital sigma at the end of a word becomes the final small sigma; every other character has a
lower-case form of its own.
-/
import Placeholder.Text
import Placeholder.Unicode.CaseTable

namespace Placeholder.Unicode

def CaseRule.applies (r : CaseRule) (n : Nat) : Bool :=
  r.lo ≤ n && n ≤ r.hi && (n - r.lo) % r.stride == 0

/-- The image of a code point under the first rule that applies, or the code point itself. -/
def mapBy : List CaseRule → Nat → Nat
  | [], n => n
  | r :: rest, n =>
    if n < r.lo then n else if r.applies n then ((n : Int) + r.delta).toNat else mapBy rest n

/-- The one-character lower-case form. -/
def lowerChar (c : Char) : Char := Char.ofNat (mapBy lowerRules c.toNat)

/-- The character that stands for all case variants of `c`. -/
def fold (c : Char) : Char := Char.ofNat (mapBy foldRules c.toNat)

/-- All characters that fold to the same character as `c`. -/
def caseVariants (c : Char) : List Char :=
  let image := fold c
  image :: foldRules.filterMap fun r =>
    let n := ((image.toNat : Int) - r.delta).toNat
    if r.applies n then some (Char.ofNat n) else none

def isCased (c : Char) : Bool := casedRanges.holds c.toNat

def isCaseIgnorable (c : Char) : Bool := caseIgnorableRanges.holds c.toNat

/-- Whether the first character that is not passed over is cased. -/
def meetsCased (t : Text) : Bool :=
  match t.dropWhile isCaseIgnorable with
  | [] => false
  | c :: _ => isCased c

/-- Lower case of the text `t` that stands behind `behind`, which is given from its last character on. -/
def toLowerAfter : (behind : Text) → Text → Text
  | _, [] => []
  | behind, c :: t =>
    let image :=
      if c = 'Σ' then (if meetsCased behind && !meetsCased t then ['ς'] else ['σ'])
      else if c = 'İ' then ['i', Char.ofNat 0x307]
      else [lowerChar c]
    image ++ toLowerAfter (c :: behind) t

/-- Lower case of a text. -/
def toLower (t : Text) : Text := toLowerAfter [] t

end Placeholder.Unicode
