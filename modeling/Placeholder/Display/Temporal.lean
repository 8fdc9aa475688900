/-
Dates, times of day and moments under a specifier: a standard letter, or a pattern in which runs of
letters stand for the parts of the value. A run that needs a part which the value lacks makes the
specifier unsupported.
-/
import Placeholder.Calendar.Basic

namespace Placeholder.Display

/-- The parts of the value to be shown. -/
structure Temporal where
  date : Option Date
  time : Option TimeOfDay
  deriving DecidableEq

/-- The pattern of a standard letter. -/
def standardPattern? (letter : Char) (v : Temporal) : Option Text :=
  match letter with
  | 'd' => some "MM/dd/yyyy".toList
  | 'D' => some "dddd, dd MMMM yyyy".toList
  | 'f' => some "dddd, dd MMMM yyyy HH:mm".toList
  | 'F' | 'U' => some "dddd, dd MMMM yyyy HH:mm:ss".toList
  | 'g' => some "MM/dd/yyyy HH:mm".toList
  | 'G' => some "MM/dd/yyyy HH:mm:ss".toList
  | 'M' | 'm' => some "MMMM dd".toList
  | 'Y' | 'y' => some "yyyy MMMM".toList
  | 't' => some "HH:mm".toList
  | 'T' => some "HH:mm:ss".toList
  | 's' => some "yyyy'-'MM'-'dd'T'HH':'mm':'ss".toList
  | 'u' => some "yyyy'-'MM'-'dd HH':'mm':'ss'Z'".toList
  | 'O' | 'o' => match v.date, v.time with
    | some _, none => some "yyyy'-'MM'-'dd".toList
    | none, some _ => some "HH':'mm':'ss'.'fffffff".toList
    | _, _ => some "yyyy'-'MM'-'dd'T'HH':'mm':'ss'.'fffffff".toList
  | 'R' | 'r' => match v.date, v.time with
    | some _, none => some "ddd, dd MMM yyyy".toList
    | none, some _ => some "HH':'mm':'ss".toList
    | _, _ => some "ddd, dd MMM yyyy HH':'mm':'ss 'GMT'".toList
  | _ => none

/-- One character alone as it is, two or more with two digits. -/
def oneOrTwo (run n : Nat) : Text := if run = 1 then Text.ofNat n else Calendar.twoDigits n

/-- One letter gives the last two digits without a zero, two give both, and more give the year with that many places.
The width is not bounded here; where a formatter takes a width of 16 bits alone, a run of more than 65535 letters
breaks the program off instead. -/
def yearRun (run : Nat) (year : Int) : Text :=
  if run = 1 then Text.ofInt (year.tmod 100)
  else if run = 2 then Calendar.padded 2 (year.tmod 100)
  else Calendar.padded run year

def monthRun (run month : Nat) : Text :=
  if run ≤ 2 then oneOrTwo run month
  else if run = 3 then (Calendar.monthName month).take 3
  else Calendar.monthName month

def dayRun (run : Nat) (d : Date) : Text :=
  if run ≤ 2 then oneOrTwo run d.day
  else if run = 3 then (Calendar.dayName d.weekday).take 3
  else Calendar.dayName d.weekday

/-- The hour on a clock face. -/
def clockHour (hour : Nat) : Nat := if hour % 12 = 0 then 12 else hour % 12

/-- The first digits of the fraction of the second, seven at most. -/
def fractionDigits (run : Nat) (t : TimeOfDay) : Text :=
  (Text.padLeft 9 '0' (Text.ofNat t.fraction)).take (min run 7)

def halfDay (run : Nat) (t : TimeOfDay) : Text :=
  let letter := if 12 ≤ t.hour then 'P' else 'A'
  if run = 1 then [letter] else [letter, 'M']

/-- Removes a point at the end of what was written; `written` is given from its end on. -/
def dropPoint : Text → Text
  | '.' :: written => written
  | written => written

/-- Puts a text behind what was written. -/
def push (t : Text) (written : Text) : Text := t.reverse ++ written

/-- What a run of `run` letters `c` puts behind what was written; `none` if the value lacks the
part, and `some none` if the letter stands for itself. -/
def runText (v : Temporal) (c : Char) (run : Nat) (written : Text) : Option (Option Text) :=
  match c with
  | 'y' => v.date.map fun d => some (push (yearRun run d.year) written)
  | 'M' => v.date.map fun d => some (push (monthRun run d.month) written)
  | 'd' => v.date.map fun d => some (push (dayRun run d) written)
  | 'g' => v.date.map fun _ => some (push "A.D.".toList written)
  | 'H' => v.time.map fun t => some (push (oneOrTwo run t.hour) written)
  | 'h' => v.time.map fun t => some (push (oneOrTwo run (clockHour t.hour)) written)
  | 'm' => v.time.map fun t => some (push (oneOrTwo run t.minute) written)
  | 's' => v.time.map fun t => some (push (oneOrTwo run t.second) written)
  | 'f' => v.time.map fun t => some (push (fractionDigits run t) written)
  | 'F' => v.time.map fun t =>
    let digits := Text.dropTrailing '0' (fractionDigits run t)
    some (if digits.isEmpty then dropPoint written else push digits written)
  | 't' => v.time.map fun t => some (push (halfDay run t) written)
  | 'z' => some (some (push (if run = 1 then "+0".toList else if run = 2 then "+00".toList
      else "+00:00".toList) written))
  | 'K' => some (some written)
  | _ => some none

/-- Writes the value under a pattern behind what was written, which is given from its end on. -/
def renderPattern (v : Temporal) (written : Text) : Text → Option Text
  | [] => some written.reverse
  | c :: t =>
    if c = '\'' || c = '"' then
      renderPattern v (push (t.takeWhile (· != c)) written) ((t.dropWhile (· != c)).drop 1)
    else if c = '\\' then
      match t with
      | [] => some written.reverse
      | d :: t => renderPattern v (d :: written) t
    else if c = '%' then renderPattern v written t
    else
      let rest := t.dropWhile (· == c)
      match runText v c (1 + (t.length - rest.length)) written with
      | none => none
      | some none => renderPattern v (c :: written) t
      | some (some written) => renderPattern v written rest
termination_by t => t.length
decreasing_by
  · have := (List.dropWhile_suffix (l := t) (· != c)).length_le
    simp only [List.length_drop, List.length_cons]
    omega
  · simp only [List.length_cons]
    omega
  · simp
  · simp
  · have := (List.dropWhile_suffix (l := t) (· == c)).length_le
    simp only [List.length_cons]
    omega

/-- A date, time of day or moment under a specifier. -/
def temporal (v : Temporal) (spec : Text) : Option Text :=
  match spec with
  | [letter] => (standardPattern? letter v).bind (renderPattern v [])
  | _ => renderPattern v [] spec

end Placeholder.Display
