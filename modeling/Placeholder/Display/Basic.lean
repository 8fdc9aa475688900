/-
The text of a value, plain or under a format specifier.
-/
import Placeholder.Fault
import Placeholder.Display.Custom
import Placeholder.Display.Temporal

namespace Placeholder.Display

/-- A number under a specifier: names for what is not finite, else a standard specifier if it is
one, else a custom one. -/
def number (n : Numeral) (spec : Text) : Option Text :=
  let shown := match standardSpec? spec with
    | some (letter, precision) => standard n letter precision
    | none => some (custom n.amount spec)
  match n with
  | .double x => match nonFinite? x with
    | some name => some name
    | none => shown
  | _ => shown

end Placeholder.Display

namespace Placeholder

namespace Value

/-- The text of a value without a specifier. -/
def plainText : Value → Text
  | integer i => Text.ofInt i.1
  | double x => Display.doubleText x
  | decimal d => d.toText
  | moment m => m.toText
  | date d => d.toText
  | time t => t.toText
  | boolean true => "True".toList
  | boolean false => "False".toList
  | string s => s
  | custom c => c.text

/-- The text of a value under a specifier that is not empty. -/
def underSpec? (spec : Text) : Value → Option Text
  | integer i => Display.number (.integer i.1) spec
  | double x => Display.number (.double x) spec
  | decimal d => Display.number (.decimal d) spec
  | moment m => Display.temporal ⟨some m.date, some m.time⟩ spec
  | date d => Display.temporal ⟨some d, none⟩ spec
  | time t => Display.temporal ⟨none, some t⟩ spec
  | boolean _ => none
  | string _ => none
  | custom c => c.format spec

/-- The text of a value under a specifier; the empty one asks for the plain text. -/
def format (v : Value) (spec : Text) : Outcome Text :=
  if spec.isEmpty then .ok v.plainText
  else match v.underSpec? spec with
    | some t => .ok t
    | none => .error (.unsupportedFormat v.kind spec)

end Value

end Placeholder
