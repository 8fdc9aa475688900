/-
What stands in the clause of a tag: a format and a default, or the arguments of a generator.
-/
import Placeholder.Tag

namespace Placeholder

/-- The format and the default of a clause. -/
structure Clause where
  format : Option Text
  default : Option Text
  deriving DecidableEq, Repr

namespace Clause

section Patterns

open Pattern Expr Tag

/-- A text in which the case of letters does not count. -/
def word (t : String) : Expr := text true t.toList

/-- The segments `[format:…]` and `[default:…]`, each up to the next closing bracket. -/
def segmentPattern : Pattern where
  source :=
    "(?P<format>\\[format:(?P<formvalue>.*?)\\])|(?P<default>\\[default:(?P<defvalue>.*?)\\])".toList
  body := either
    (group 1 (sequence [word "[format:", group 2 shortRun, char ']']))
    (group 3 (sequence [word "[default:", group 4 shortRun, char ']']))
  groups := [("format".toList, 1), ("formvalue".toList, 2), ("default".toList, 3),
    ("defvalue".toList, 4)]

def digits : Expr := rounds true (one .digit)

def blanks : Expr := star true (one .blank)

/-- A tag of the generator of numbers. -/
def numberPattern : Pattern where
  source :=
    "\\$\\\x7brandomnumber:\\[(?P<min>\\d+)(?:\\s*,\\s*(?P<max>\\d+))?\\](?:\\[format:(?P<format>.*?)\\])?\\\x7d".toList
  body := sequence
    [word "$\x7brandomnumber:[", group 1 digits,
      optional true (sequence [blanks, char ',', blanks, group 2 digits]), char ']',
      optional true (sequence [word "[format:", group 3 shortRun, char ']']), char '\x7d']
  groups := [("min".toList, 1), ("max".toList, 2), ("format".toList, 3)]

/-- A tag of the generator of strings. -/
def stringPattern : Pattern where
  source := "\\$\\\x7brandomstring:\\[(?P<length>\\d+)\\]\\\x7d".toList
  body := sequence [word "$\x7brandomstring:[", group 1 digits, char ']', char '\x7d']
  groups := [("length".toList, 1)]

end Patterns

def isEmpty (c : Clause) : Bool := c.format.isNone && c.default.isNone

/-- The matches of a pattern in a text. -/
def matches_ (p : Pattern) (t : Text) : List Match :=
  (p.pieces t).filterMap fun piece => match piece with
    | .found m => some m
    | .plain _ => none

/-- Reads a clause. Of several formats or defaults the first counts. -/
def read (t : Text) : Clause :=
  let found := matches_ segmentPattern t
  ⟨found.findSome? fun m => segmentPattern.named? m "formvalue".toList,
    found.findSome? fun m => segmentPattern.named? m "defvalue".toList⟩

/-- The clause of a tag; a tag without brackets has an empty one. -/
def ofTag (t : Tag) : Clause :=
  match t.extended with
  | some extended => read extended
  | none => ⟨none, none⟩

/-- The arguments of the generator of numbers. -/
structure NumberArgs where
  min : Text
  max : Option Text
  format : Option Text
  deriving DecidableEq, Repr

/-- The arguments in the first tag of the generator of numbers. -/
def numberArgs? (t : Text) : Option NumberArgs := do
  let m ← numberPattern.first? none t
  return ⟨← numberPattern.named? m "min".toList, numberPattern.named? m "max".toList,
    numberPattern.named? m "format".toList⟩

/-- The length in the first tag of the generator of strings. -/
def stringLength? (t : Text) : Option Text := do
  let m ← stringPattern.first? none t
  stringPattern.named? m "length".toList

end Clause

end Placeholder
