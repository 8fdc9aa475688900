/-
Reading dates, times of day and moments, in internet time stamps or in one of several layouts.
-/
import Placeholder.Calendar.Layout

namespace Placeholder.Calendar

/-- Takes exactly `n` digits. -/
def takeExactly (n : Nat) (t : Text) : Option (Nat × Text) :=
  let digits := t.take n
  if digits.length = n && digits.all Text.isAsciiDigit then
    some (Text.natOfDigits digits, t.drop n)
  else none

/-- Takes a two-digit number between `low` and `high`. -/
def takeTwo (low high : Nat) (t : Text) : Option (Nat × Text) := do
  let (n, rest) ← takeExactly 2 t
  if low ≤ n && n ≤ high then some (n, rest) else none

def takeMark (c : Char) : Text → Option Text
  | d :: t => if c = d then some t else none
  | [] => none

/-- Takes a distance from universal time, in seconds to the east. -/
def takeOffset : Text → Option (Int × Text)
  | [] => none
  | c :: t =>
    if c = 'Z' || c = 'z' then some (0, t)
    else
      if c = '+' || c = '-' || c = '−' then do
        let (hours, t) ← takeExactly 2 t
        let (minutes, t) ← takeTwo 0 59 (← takeMark ':' t)
        let seconds : Int := (hours * 60 + minutes) * 60
        if hours ≤ 23 then some (if c = '+' then seconds else -seconds, t) else none
      else none

/-- Reads an internet time stamp and gives its moment in universal time. -/
def readStamp? (t : Text) : Option Moment := do
  let (year, t) ← takeExactly 4 t
  let (month, t) ← takeTwo 1 12 (← takeMark '-' t)
  let (day, t) ← takeTwo 1 31 (← takeMark '-' t)
  let t ← match t with
    | c :: t => if c = 'T' || c = 't' || c = ' ' then some t else none
    | [] => none
  let (hour, t) ← takeTwo 0 23 t
  let (minute, t) ← takeTwo 0 59 (← takeMark ':' t)
  let (second, t) ← takeTwo 0 60 (← takeMark ':' t)
  let (nano, t) ← match t with
    | '.' :: t => takeFraction t
    | t => some (0, t)
  let (offset, t) ← takeOffset t
  if t.isEmpty then
    let fields : Fields := ⟨some year, month, day, hour, minute, second, nano⟩
    (← fields.moment?).shift? (-offset)
  else none

/-- The first of the layouts that describes the text. -/
def readBy (layouts : List Layout) (value? : Fields → Option α) (t : Text) : Option α :=
  layouts.findSome? fun layout => (layout.read {} t).bind value?

def readDateOnly? (t : Text) : Option Date := readBy Layout.dates Fields.date? t

/-- Reads a moment; a date alone is its midnight. -/
def readMoment? (t : Text) : Option Moment :=
  (readStamp? t).or
    ((readBy Layout.moments Fields.moment? t).or
      ((readDateOnly? t).map fun d => ⟨d, .midnight⟩))

/-- Reads a date, also from the text of a moment. -/
def readDate? (t : Text) : Option Date :=
  (readDateOnly? t).or ((readMoment? t).map (·.date))

/-- Reads a time of day, also from the text of a moment. -/
def readTime? (t : Text) : Option TimeOfDay :=
  (readBy Layout.times Fields.time? t).or ((readMoment? t).map (·.time))

end Placeholder.Calendar
