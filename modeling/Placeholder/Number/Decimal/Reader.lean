/-
Reading decimal numbers from text: an optional sign, digits with an optional point, underscores
between digits, and an optional exponent. What does not fit any more behind the point is rounded
away by its first digit, a half up.
-/
import Placeholder.Number.Decimal

namespace Placeholder.Decimal

/-- Why a text is no decimal number. -/
inductive ReadFault
  | empty
  | noDigits
  | twoPoints
  | leadingUnderscore
  | unknownCharacter
  | tooManyDigits
  | roundedTooLarge
  | scaleTooLarge (scale : Nat)
  | valueTooLarge
  deriving DecidableEq, Repr

namespace ReadFault

def message : ReadFault → Text
  | empty => "Invalid decimal: empty".toList
  | noDigits => "Invalid decimal: no digits found".toList
  | twoPoints => "Invalid decimal: two decimal points".toList
  | leadingUnderscore => "Invalid decimal: must start lead with a number".toList
  | unknownCharacter => "Invalid decimal: unknown character".toList
  | tooManyDigits => "Invalid decimal: overflow from too many digits".toList
  | roundedTooLarge => "Invalid decimal: overflow from mantissa after rounding".toList
  | scaleTooLarge scale =>
    "Scale exceeds the maximum precision allowed: ".toList ++ Text.ofNat scale ++ " > 28".toList
  | valueTooLarge => "Number exceeds maximum value that can be represented.".toList

end ReadFault

/-- The fault of a character that cannot stand where it stands. -/
def misplaced (c : Char) : ReadFault :=
  if c = '.' then .twoPoints else if c = '_' then .leadingUnderscore else .unknownCharacter

/-- The digits read so far. -/
structure Digits where
  coefficient : Nat
  scale : Nat
  deriving DecidableEq, Repr

/-- Rounds the digits by the character that follows them. -/
def Digits.roundBy (d : Digits) (next : Char) : Except ReadFault Digits :=
  if Text.isAsciiDigit next || next = '_' || next = '.' then
    if Text.isAsciiDigit next && 5 ≤ Text.digitValue next then
      let up := d.coefficient + 1
      if up < 2 ^ 96 then .ok ⟨up, d.scale⟩
      else if d.scale = 0 then .error .roundedTooLarge
      else .ok ⟨(up + 4) / 10, d.scale - 1⟩
    else .ok d
  else .error (misplaced next)

/-- The digits times a power of ten. -/
def Digits.shift (d : Digits) (exponent : Int) : Except ReadFault Digits :=
  let scale := (d.scale : Int) - exponent
  if scale > 28 then .error (.scaleTooLarge scale.toNat)
  else if 0 ≤ scale then .ok ⟨d.coefficient, scale.toNat⟩
  else if d.coefficient = 0 then .ok ⟨0, 0⟩
  else if scale < -28 then .error .valueTooLarge
  else
    let n := d.coefficient * 10 ^ (-scale).toNat
    if n < 2 ^ 96 then .ok ⟨n, 0⟩ else .error .valueTooLarge

/-- The exponent behind its letter. -/
def readExponent (t : Text) : Except ReadFault Int :=
  let (negative, digits) := match t with
    | '-' :: digits => (true, digits)
    | '+' :: digits => (false, digits)
    | digits => (false, digits)
  if digits.isEmpty || !digits.all Text.isAsciiDigit then .error .unknownCharacter
  else
    let n : Int := Text.natOfDigits digits
    .ok (if negative then -n else n)

/-- Reads the rest of a number. `pointed` tells whether the point is behind, and `started` whether
a digit is. -/
def readDigits : (pointed started : Bool) → Digits → Text → Except ReadFault Digits
  | _, started, d, [] => if started then .ok d else .error .noDigits
  | pointed, started, d, c :: t =>
    if pointed && 28 ≤ d.scale then d.roundBy c
    else if Text.isAsciiDigit c then
      let n := 10 * d.coefficient + Text.digitValue c
      if n < 2 ^ 96 then readDigits pointed true ⟨n, if pointed then d.scale + 1 else 0⟩ t
      else if pointed then d.roundBy c
      else .error .tooManyDigits
    else if c = '.' && !pointed then readDigits true started d t
    else if c = '_' && started then readDigits pointed started d t
    else if (c = 'e' || c = 'E') && started then do d.shift (← readExponent t)
    else .error (misplaced c)

/-- Reads a number that makes up the whole text. -/
def read (t : Text) : Except ReadFault Decimal := do
  let (negative, body) ← match t with
    | [] => .error .empty
    | '-' :: body => .ok (true, body)
    | '+' :: body => .ok (false, body)
    | body => .ok (false, body)
  let d ← readDigits false false ⟨0, 0⟩ body
  match make? negative d.coefficient d.scale with
  | some d => .ok d
  | none => .error .valueTooLarge

end Placeholder.Decimal
