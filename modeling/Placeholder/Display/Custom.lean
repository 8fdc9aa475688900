/-
Numbers under custom specifiers, which show where each digit goes.

`0` and `#` are places of digits, the first point divides them, a comma between two integer places
groups thousands, a comma behind the last one divides by a thousand, and a percent or per-mille
sign multiplies by a hundred or a thousand. Semicolons part a specifier into sections for
positive, negative and zero amounts.
-/
import Placeholder.Display.Numeral

namespace Placeholder.Display

inductive Token
  | zero
  | hash
  | point
  | comma
  | percent
  | perMille
  | literal (t : Text)
  deriving DecidableEq, Repr

namespace Token

def isPlace : Token → Bool
  | zero | hash => true
  | _ => false

/-- What a token shows by itself. -/
def ownText : Token → Text
  | percent => ['%']
  | perMille => ['‰']
  | literal t => t
  | _ => []

end Token

/-- The next token of a specifier, or `none` for a semicolon, and the rest of the specifier. A
backslash at the end stands for nothing. -/
def nextToken (c : Char) (t : Text) : Option (List Token) × Text :=
  match c with
  | '0' => (some [.zero], t)
  | '#' => (some [.hash], t)
  | '.' => (some [.point], t)
  | ',' => (some [.comma], t)
  | '%' => (some [.percent], t)
  | '‰' => (some [.perMille], t)
  | ';' => (none, t)
  | '\\' => match t with
    | [] => (some [], [])
    | d :: t => (some [.literal [d]], t)
  | _ =>
    if c = '\'' || c = '"' then
      (some [.literal (t.takeWhile (· != c))], (t.dropWhile (· != c)).drop 1)
    else (some [.literal [c]], t)

theorem nextToken_length_le (c : Char) (t : Text) : (nextToken c t).2.length ≤ t.length := by
  have hquote : ((t.dropWhile (· != c)).drop 1).length ≤ t.length := by
    have := (List.dropWhile_suffix (l := t) (· != c)).length_le
    simp only [List.length_drop]
    omega
  unfold nextToken
  split <;> try exact Nat.le_refl _
  · split
    · exact Nat.le_refl _
    · simp
  · split
    · exact hquote
    · exact Nat.le_refl _

/-- Parts a specifier into sections; `current` holds the tokens of the current one from the last on. -/
def sectionsFrom (current : List Token) : Text → List (List Token)
  | [] => [current.reverse]
  | c :: t =>
    match _h : nextToken c t with
    | (none, rest) => current.reverse :: sectionsFrom [] rest
    | (some tokens, rest) => sectionsFrom (tokens ++ current) rest
termination_by t => t.length
decreasing_by
  all_goals
    have hle := nextToken_length_le c t
    rw [_h] at hle
    exact Nat.lt_succ_of_le hle

/-- The sections of a specifier; there is always one at least. -/
def sections (spec : Text) : List (List Token) := sectionsFrom [] spec

/-- The tokens before the first point, and those behind it if there is one. -/
def splitPoint (tokens : List Token) : List Token × Option (List Token) :=
  match tokens with
  | [] => ([], none)
  | .point :: rest => ([], some rest)
  | t :: rest =>
    let (before, after) := splitPoint rest
    (t :: before, after)

/-- The tokens from the first place on. -/
def fromFirstPlace (tokens : List Token) : List Token := tokens.dropWhile fun t => !t.isPlace

/-- The tokens behind the last place; all of them if there is no place. -/
def afterLastPlace (tokens : List Token) : List Token :=
  (tokens.reverse.takeWhile fun t => !t.isPlace).reverse

/-- Whether a comma stands between two places. -/
def groups (whole : List Token) : Bool :=
  let inner := fromFirstPlace whole
  (inner.take (inner.length - (afterLastPlace inner).length)).contains .comma

/-- The commas behind the last place. -/
def scalingCommas (whole : List Token) : Nat :=
  if whole.any Token.isPlace then (afterLastPlace whole).count .comma else 0

/-- The power of ten by which a section multiplies. -/
def power (tokens : List Token) : Int :=
  2 * (tokens.count .percent : Int) + 3 * (tokens.count .perMille : Int)
    - 3 * (scalingCommas (splitPoint tokens).1 : Int)

/-- The number of places from the first `0` on. -/
def zerosBefore (places : List Token) : Nat := (places.dropWhile (· != .zero)).length

/-- The number of places up to the last `0`. -/
def zerosBehind (places : List Token) : Nat := (places.reverse.dropWhile (· != .zero)).length

/-- Removes zeros from the end of a fraction down to `least` digits. -/
def trimFraction (least : Nat) (digits : Text) : Text :=
  digits.take least ++ Text.dropTrailing '0' (digits.drop least)

/-- The integer digits as they are placed: zero is left out, and leading zeros fill up to `least`
digits. -/
def wholeDigits (least : Nat) (digits : Text) : Text :=
  Text.padLeft least '0' (if digits = ['0'] then [] else digits)

/-- What each of `n` places shows: the digits stand at the right, and what is too many goes to the
first place. -/
def shares (n : Nat) (digits : Text) : List Text :=
  if digits.length ≤ n then
    List.replicate (n - digits.length) [] ++ digits.map fun c => [c]
  else
    let surplus := digits.length - n
    digits.take (surplus + 1) :: (digits.drop (surplus + 1)).map fun c => [c]

/-- Writes tokens with one share for each place. -/
def place : List Token → List Text → Text
  | [], _ => []
  | t :: tokens, shown =>
    if t.isPlace then
      match shown with
      | [] => place tokens []
      | s :: shown => s ++ place tokens shown
    else t.ownText ++ place tokens shown

/-- Writes the integer part. -/
def renderWhole (tokens : List Token) (digits : Text) : Text :=
  let places := tokens.countP Token.isPlace
  if places = 0 then place tokens [] ++ digits
  else if groups tokens then place tokens [groupThousands digits]
  else place tokens (shares places digits)

/-- Writes a magnitude under one section. -/
def renderSection (amount : Amount) (tokens : List Token) : Text :=
  let (whole, fraction) := splitPoint tokens
  let fractionTokens := fraction.getD []
  let fractionPlaces := fractionTokens.filter Token.isPlace
  let (digits, places) := (amount.scale (power tokens)).fixed fractionPlaces.length
  let places := trimFraction (zerosBehind fractionPlaces) places
  let digits := wholeDigits (zerosBefore (whole.filter Token.isPlace)) digits
  renderWhole whole digits ++
    (if fraction.isSome && !places.isEmpty then ['.'] else []) ++
    place fractionTokens (places.map fun c => [c])

/-- The section for an amount, and whether a minus sign is still to be put before its text. -/
def chooseSection (amount : Amount) : List (List Token) → List Token × Bool
  | [] => ([], true)
  | [first] => (first, true)
  | first :: minus :: rest =>
    let forSign := if amount.isNegative && !minus.isEmpty then (minus, false) else (first, true)
    match rest with
    | [] => forSign
    | zero :: _ => if amount.isZero && !zero.isEmpty then (zero, false) else forSign

/-- A number under a custom specifier. -/
def custom (amount : Amount) (spec : Text) : Text :=
  let (tokens, automatic) := chooseSection amount (sections spec)
  let body := renderSection amount.abs tokens
  if automatic then signedIfNonzero amount.isNegative body else body

end Placeholder.Display
