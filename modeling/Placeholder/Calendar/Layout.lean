/-
Reading dates and times of day by layouts.

A layout is a list of fields and separators. A numeric field passes over blanks before it, and
takes as many digits as it is wide; a year with a sign takes all digits. A blank in a layout stands
for any number of blanks.
-/
import Placeholder.Calendar.Basic

namespace Placeholder.Calendar

inductive Field
  | year
  | month
  | day
  | hour
  | minute
  | second
  /-- An optional point with digits behind it. -/
  | fraction
  /-- Any number of blanks. -/
  | gap
  | mark (c : Char)
  deriving DecidableEq, Repr

abbrev Layout := List Field

/-- What was read so far. -/
structure Fields where
  year : Option Int := none
  month : Nat := 1
  day : Nat := 1
  hour : Nat := 0
  minute : Nat := 0
  second : Nat := 0
  nano : Nat := 0
  deriving DecidableEq, Repr

/-- Takes at least one digit and at most `width` of them. -/
def takeNumber (width : Nat) (t : Text) : Option (Nat × Text) :=
  let digits := (t.take width).takeWhile Text.isAsciiDigit
  if digits.isEmpty then none else some (Text.natOfDigits digits, t.drop digits.length)

/-- Takes all digits; there has to be one. -/
def takeWholeNumber (t : Text) : Option (Nat × Text) := takeNumber t.length t

def takeYear (t : Text) : Option (Int × Text) :=
  match t with
  | '-' :: t => (takeWholeNumber t).map fun (n, t) => (-(n : Int), t)
  | '+' :: t => (takeWholeNumber t).map fun (n, t) => ((n : Int), t)
  | t => (takeNumber 4 t).map fun (n, t) => ((n : Int), t)

/-- Takes the digits of a fraction of a second; past the ninth they do not count. -/
def takeFraction (t : Text) : Option (Nat × Text) :=
  let (digits, rest) := Text.takeDigits t
  if digits.isEmpty then none
  else
    let kept := digits.take 9
    some (Text.natOfDigits kept * 10 ^ (9 - kept.length), rest)

/-- A two-digit number between `low` and `high`. -/
def takeBounded (low high : Nat) (t : Text) : Option (Nat × Text) := do
  let (n, rest) ← takeNumber 2 (Text.trimStart t)
  if low ≤ n && n ≤ high then some (n, rest) else none

def Field.take (f : Field) (seen : Fields) (t : Text) : Option (Fields × Text) :=
  match f with
  | .year => (takeYear (Text.trimStart t)).map fun (n, t) => ({ seen with year := some n }, t)
  | .month => (takeBounded 1 12 t).map fun (n, t) => ({ seen with month := n }, t)
  | .day => (takeBounded 1 31 t).map fun (n, t) => ({ seen with day := n }, t)
  | .hour => (takeBounded 0 23 t).map fun (n, t) => ({ seen with hour := n }, t)
  | .minute => (takeBounded 0 59 t).map fun (n, t) => ({ seen with minute := n }, t)
  | .second => (takeBounded 0 60 t).map fun (n, t) => ({ seen with second := n }, t)
  | .fraction => match t with
    | '.' :: t => (takeFraction t).map fun (n, t) => ({ seen with nano := n }, t)
    | t => some (seen, t)
  | .gap => some (seen, Text.trimStart t)
  | .mark c => match t with
    | d :: t => if c = d then some (seen, t) else none
    | [] => none

/-- Reads a text that a layout describes from its first to its last character. -/
def Layout.read : Layout → Fields → Text → Option Fields
  | [], seen, t => if t.isEmpty then some seen else none
  | f :: layout, seen, t => do
    let (seen, t) ← f.take seen t
    Layout.read layout seen t

def Fields.date? (f : Fields) : Option Date := do Date.make? (← f.year) f.month f.day

/-- The time of day; the sixtieth second is a leap second. -/
def Fields.time? (f : Fields) : Option TimeOfDay :=
  if f.second = 60 then TimeOfDay.make? f.hour f.minute 59 (1000000000 + f.nano)
  else TimeOfDay.make? f.hour f.minute f.second f.nano

def Fields.moment? (f : Fields) : Option Moment := do return ⟨← f.date?, ← f.time?⟩

namespace Layout

def yearFirst (c : Char) : Layout := [.year, .mark c, .month, .mark c, .day]

def monthFirst : Layout := [.month, .mark '/', .day, .mark '/', .year]

def clock : Layout := [.hour, .mark ':', .minute, .mark ':', .second, .fraction]

def shortClock : Layout := [.hour, .mark ':', .minute]

/-- The layouts of a date, in the order in which they are tried. -/
def dates : List Layout := [yearFirst '/', yearFirst '-', monthFirst]

/-- The layouts of a time of day. -/
def times : List Layout := [clock, shortClock]

/-- The layouts of a moment. -/
def moments : List Layout :=
  [yearFirst '/' ++ .gap :: clock, yearFirst '/' ++ .gap :: shortClock,
   yearFirst '-' ++ .gap :: clock, yearFirst '-' ++ .gap :: shortClock,
   yearFirst '-' ++ .mark 'T' :: clock, yearFirst '-' ++ .mark 'T' :: shortClock,
   monthFirst ++ .gap :: clock, monthFirst ++ .gap :: shortClock]

end Layout

end Placeholder.Calendar
