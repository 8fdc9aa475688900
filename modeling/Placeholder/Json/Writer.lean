/-
Writing JSON values, on one line or with one member a line.
-/
import Placeholder.Json.Basic
import Placeholder.Number.Binary64.Digits

namespace Placeholder.Json

/-- Two hexadecimal digits. -/
def hexByte (n : Nat) : Text := Text.padLeft 2 '0' (Nat.toDigits 16 n)

/-- A character inside of a string. -/
def escapeChar (c : Char) : Text :=
  if c = '"' then ['\\', '"']
  else if c = '\\' then ['\\', '\\']
  else if c = '\n' then ['\\', 'n']
  else if c = '\r' then ['\\', 'r']
  else if c = '\t' then ['\\', 't']
  else if c.toNat = 8 then ['\\', 'b']
  else if c.toNat = 12 then ['\\', 'f']
  else if c.toNat < 0x20 then "\\u00".toList ++ hexByte c.toNat
  else [c]

def quoted (s : Text) : Text := '"' :: s.flatMap escapeChar ++ ['"']

/-- The shortest digits of a number, positional below `1e16` and from `0.00001` on, and otherwise
with an exponent. -/
def floatText : Binary64 → Text
  | .finite negative m e _ =>
    let d := Binary64.shortest m e
    let body :=
      if m = 0 then "0.0".toList
      else
        let leading := d.leading
        if 0 ≤ d.exponent && leading < 16 then d.positional ++ ".0".toList
        else if -6 < leading && leading < 16 then d.positional
        else
          Binary64.pointed (Text.ofNat d.digits) ++
            'e' :: (if 0 ≤ leading then '+' else '-') :: Text.ofNat leading.natAbs
    Binary64.signed negative body
  | _ => "null".toList

/-- The text of a number, a truth value or null. -/
def leafText : Json → Text
  | null => "null".toList
  | bool b => if b then "true".toList else "false".toList
  | integer i => Text.ofInt i
  | float x => floatText x
  | string s => quoted s
  | _ => []

mutual

/-- A value on one line without blanks. -/
def compact : Json → Text
  | array items => '[' :: compactItems items ++ [']']
  | object members => '\x7b' :: compactMembers members ++ ['\x7d']
  | leaf => leafText leaf

def compactItems : List Json → Text
  | [] => []
  | [item] => compact item
  | item :: items => compact item ++ ',' :: compactItems items

def compactMembers : List (Text × Json) → Text
  | [] => []
  | [(name, value)] => quoted name ++ ':' :: compact value
  | (name, value) :: members =>
    quoted name ++ ':' :: compact value ++ ',' :: compactMembers members

end

/-- A new line that begins `2 * depth` columns in. -/
def newLine (depth : Nat) : Text := '\n' :: List.replicate (2 * depth) ' '

mutual

/-- A value with each item and member on a line of its own. -/
def pretty (depth : Nat) : Json → Text
  | array [] => "[]".toList
  | array items => '[' :: prettyItems (depth + 1) items ++ newLine depth ++ [']']
  | object [] => ['\x7b', '\x7d']
  | object members => '\x7b' :: prettyMembers (depth + 1) members ++ newLine depth ++ ['\x7d']
  | leaf => leafText leaf

def prettyItems (depth : Nat) : List Json → Text
  | [] => []
  | [item] => newLine depth ++ pretty depth item
  | item :: items => newLine depth ++ pretty depth item ++ ',' :: prettyItems depth items

def prettyMembers (depth : Nat) : List (Text × Json) → Text
  | [] => []
  | [(name, value)] => newLine depth ++ quoted name ++ ": ".toList ++ pretty depth value
  | (name, value) :: members =>
    newLine depth ++ quoted name ++ ": ".toList ++ pretty depth value ++
      ',' :: prettyMembers depth members

end

end Placeholder.Json
