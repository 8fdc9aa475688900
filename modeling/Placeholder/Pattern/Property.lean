/-
The sets of characters that have a name: general categories and groups of them, scripts, and a few properties.

In a name neither case nor blanks, hyphens and underscores count, and `is` may stand before it. A name alone is looked
for among the properties, the categories and the scripts; behind `gc` or `sc` it is that of a category or a script.
-/
import Placeholder.Pattern.CharSet
import Placeholder.Unicode.CategoryTable
import Placeholder.Unicode.ScriptTable

namespace Placeholder.Pattern.Property

/-! ## Tables -/

/-- The number with the given hexadecimal digits. -/
def codePoint (t : Text) : Nat :=
  t.foldl (fun n c => 16 * n + (if c ≤ '9' then c.toNat - '0'.toNat else c.toNat - 'a'.toNat + 10)) 0

/-- A code point, or two that are the ends of a range. -/
def readRange (t : Text) : Nat × Nat :=
  match Text.splitAtFirst? '-' t with
  | some (lo, hi) => (codePoint lo, codePoint hi)
  | none => (codePoint t, codePoint t)

/-- The ranges that the lines of a table list. -/
def readRanges (lines : List String) : Unicode.Ranges :=
  lines.flatMap fun line => (Text.splitOn (· == ' ') line.toList).map readRange

/-- What stands in a table under one of its names. -/
def find? {α : Type} (table : List (List String × α)) (name : Text) : Option α :=
  (table.find? fun entry => entry.1.any (·.toList == name)).map Prod.snd

/-! ## Categories -/

/-- The categories that are groups of others. -/
def categoryGroups : List (List String × List String) :=
  [(["l", "letter"], ["lu", "ll", "lt", "lm", "lo"]),
   (["lc", "casedletter"], ["lu", "ll", "lt"]),
   (["m", "mark", "combiningmark"], ["mn", "mc", "me"]),
   (["n", "number"], ["nd", "nl", "no"]),
   (["p", "punctuation", "punct"], ["pc", "pd", "ps", "pe", "pi", "pf", "po"]),
   (["s", "symbol"], ["sm", "sc", "sk", "so"]),
   (["z", "separator"], ["zs", "zl", "zp"])]

/-- A category that is no group. -/
def single? (name : Text) : Option CharSet :=
  if ["nd", "decimalnumber", "digit"].any (·.toList == name) then some .digit
  else (find? Unicode.categoryTable name).map fun lines => .listed (readRanges lines)

/-- The characters that are in a category at all. -/
def assigned : CharSet := .union .digit (.unionOf (Unicode.categoryTable.map fun entry => .listed (readRanges entry.2)))

def category? (name : Text) : Option CharSet :=
  match String.ofList name with
  | "any" => some .all
  | "assigned" => some assigned
  | "ascii" => some (.range (Char.ofNat 0) (Char.ofNat 0x7f))
  | "cn" | "unassigned" => some (.compl assigned)
  | "c" | "other" => some (.union (.compl assigned) (.unionOf (["cc", "cf", "co"].filterMap fun s => single? s.toList)))
  | _ => match find? categoryGroups name with
    | some members => some (.unionOf (members.filterMap fun s => single? s.toList))
    | none => single? name

/-! ## Scripts and properties -/

def script? (name : Text) : Option CharSet :=
  (find? Unicode.scriptTable name).map fun lines => .listed (readRanges lines)

/-- The small letters that are in another category than theirs. -/
def otherLowercase : Unicode.Ranges :=
  readRanges
    ["aa ba 2b0-2b8 2c0-2c1 2e0-2e4 345 37a 10fc 1d2c-1d6a 1d78 1d9b-1dbf 2071 207f 2090-209c",
     "2170-217f 24d0-24e9 2c7c-2c7d a69c-a69d a770 a7f2-a7f4 a7f8-a7f9 ab5c-ab5f ab69 10780",
     "10783-10785 10787-107b0 107b2-107ba 1e030-1e06d"]

/-- The capitals that are in another category than theirs. -/
def otherUppercase : Unicode.Ranges := readRanges ["2160-216f 24b6-24cf 1f130-1f149 1f150-1f169 1f170-1f189"]

def truth? (name : Text) : Option CharSet :=
  match String.ofList name with
  | "alphabetic" | "alpha" => some (.listed Unicode.alphabeticRanges)
  | "whitespace" | "wspace" | "space" => some .blank
  | "lowercase" | "lower" => (single? ['l', 'l']).map (.union (.listed otherLowercase))
  | "uppercase" | "upper" => (single? ['l', 'u']).map (.union (.listed otherUppercase))
  | "cased" => some (.listed Unicode.casedRanges)
  | "caseignorable" | "ci" => some (.listed Unicode.caseIgnorableRanges)
  | _ => none

/-! ## Names -/

/-- The ASCII characters that count in a name. -/
def plain (name : Text) : Text :=
  Text.asciiLower (name.filter fun c => c.toNat < 128 && !([' ', '_', '-'].contains c))

/-- A name without what does not count in it. The name `isc` is a property of its own and not that of a category. -/
def normal (name : Text) : Text :=
  if Text.sameUpToAsciiCase (name.take 2) ['i', 's'] then
    let rest := plain (name.drop 2)
    if rest = ['c'] then ['i', 's', 'c'] else rest
  else plain name

/-- The name and the value of a property, if a sign for equality or its opposite stands between them. Both signs say
the same. -/
def splitValue? (name : Text) : Option (Text × Text) :=
  match Text.splitAtFirst? '!' name with
  | some (before, '=' :: value) => some (before, value)
  | _ => (Text.splitAtFirst? ':' name).or (Text.splitAtFirst? '=' name)

/-- The set that a name stands for. -/
def named? (name : Text) : Option CharSet :=
  match splitValue? name with
  | some (property, value) => match String.ofList (normal property) with
    | "gc" | "generalcategory" => category? (normal value)
    | "sc" | "script" => script? (normal value)
    | _ => none
  | none => ((truth? (normal name)).or (category? (normal name))).or (script? (normal name))

end Placeholder.Pattern.Property
