/-
Expanding the tags of a text.

One pass resolves every live tag of the text, each distinct tag once, and puts the results in
place. Passes follow until no live tag is left, or a pass changes nothing, or too many passes have
changed something. A key is looked for among the generators, in the values, in the configuration,
and at last in the default of the tag.
-/
import Placeholder.Clause
import Placeholder.Config
import Placeholder.Generator
import Placeholder.Literal
import Placeholder.Secret
import Placeholder.ValueMap

namespace Placeholder

structure Options where
  /-- Write truth values in small letters. -/
  boolToLower : Bool := true
  /-- The number of passes that may change the text. -/
  maxPasses : Nat := 64
  /-- Restore escaped tags also where there was no live tag to begin with. -/
  unescapeOnFirstPass : Bool := true
  deriving DecidableEq, Repr

/-- How tags are recognised and expanded. -/
structure Builder where
  pattern : Pattern := Tag.livePattern
  options : Options := {}
  deriving DecidableEq, Repr

/-- Where values come from. -/
structure Sources where
  values : ValueMap := .empty
  config : Config := .none
  cipher : Secret.Cipher := .plain
  supply : Generator.Supply := fun _ => 0

/-- What a run has used up: the calls of the cipher, the latest first, and the number of draws. -/
structure Journal where
  calls : List Secret.Call := []
  drawn : Nat := 0
  deriving DecidableEq, Repr

/-- A step of an expansion: it fails, or it gives a result and goes on in the journal. -/
abbrev Run := StateT Journal Outcome

namespace Builder

/-- A builder with a caller's pattern for live tags, which has to have a group for the key. -/
def withPattern (source : Text) (engine : Pattern.Engine := .standard) : Outcome Builder :=
  if (Text.trim source).isEmpty then .error .emptyPattern
  else match Pattern.read engine source with
    | .error f => .error (.pattern f)
    | .ok p =>
      if p.groups.any (·.1 == "var".toList) then .ok { pattern := p }
      else .error (.patternWithoutVar source)

/-- Keys that no source may define. -/
def reservedKeys : List Text :=
  [Generator.numberKey, Generator.stringKey, Secret.secretMarker, Secret.shasecMarker]

def isReserved (key : Text) : Bool := reservedKeys.contains key

/-- Uses up `n` draws and gives the position of the first. -/
def takeDraws (n : Nat) : Run Nat := fun j => .ok (j.drawn, { j with drawn := j.drawn + n })

/-- The tag without its marker. -/
def bareTag (tag : Tag) (key : Text) : Text :=
  "$\x7b".toList ++ key ++ tag.extended.getD [] ++ ['\x7d']

def generateString (supply : Generator.Supply) (tag : Tag) (key : Text) : Run Text :=
  match Clause.stringLength? (bareTag tag key) with
  | none => throw (.malformedClause tag.raw)
  | some length => do
    let length ← Generator.readLength length
    return Generator.string supply (← takeDraws length) length

def generateNumber (supply : Generator.Supply) (tag : Tag) (key format : Text) : Run Text :=
  match Clause.numberArgs? (bareTag tag key) with
  | none => throw (.malformedClause tag.raw)
  | some args => do
    let min ← Generator.readBound args.min
    let max ← match args.max with
      | some max => do pure (some (← Generator.readBound max))
      | none => pure none
    Generator.number supply (← takeDraws 1) min max (args.format.getD format)

/-- The text of a reserved key. -/
def resolveReserved (supply : Generator.Supply) (tag : Tag) (key format : Text) : Run Text :=
  if key = Generator.stringKey then generateString supply tag key
  else if key = Generator.numberKey then generateNumber supply tag key format
  else throw (.unknownReserved key)

/-- The text of the default of a tag; a tag without brackets has none. -/
def resolveDefault (tag : Tag) : Outcome (Option Text) :=
  match tag.extended with
  | none => .ok none
  | some extended =>
    let clause := Clause.read extended
    if clause.isEmpty then .error (.malformedClause extended)
    else do
      let v ← Literal.read (clause.default.getD [])
      return some (← v.format (clause.format.getD []))

/-- The text of a key for a tag, from the first source that knows it. -/
def resolveKey (sources : Sources) (tag : Tag) (key : Text) : Run (Option Text) :=
  let format := (Clause.ofTag tag).format.getD []
  if isReserved key then do return some (← resolveReserved sources.supply tag key format)
  else match sources.values.get? key with
    | some v => do return some (← v.format format)
    | none => match sources.config key with
      | some text => return some text
      | none => resolveDefault tag

/-- Puts a resolved text through lowering and the cipher. -/
def wrapSecret (options : Options) (cipher : Secret.Cipher) (key raw value : Text)
    (isSecret : Bool) : Run Text := fun j =>
  let (value, calls) := Secret.wrap options.boolToLower cipher key raw value isSecret j.calls
  .ok (value, { j with calls := calls })

/-- The text for a tag; `none` leaves the tag where it is. -/
def resolveTag (b : Builder) (sources : Sources) (tag : Tag) : Run (Option Text) := do
  let (key, isSecret) := Secret.stripMarker tag.key
  match ← resolveKey sources tag key with
  | some value =>
    return some (← wrapSecret b.options sources.cipher key tag.raw value isSecret)
  | none => return none

/-- What the tags met so far have become, by their raw texts. -/
abbrev Resolved := List (Text × Option Text)

/-- Replaces the tags among segments; a tag with a raw text met before becomes the same again. -/
def replaceSegments (b : Builder) (sources : Sources) :
    Resolved → List Tag.Segment → Run Text
  | _, [] => return []
  | resolved, .plain c :: rest => do
    return c :: (← replaceSegments b sources resolved rest)
  | resolved, .tag t :: rest =>
    match resolved.lookup t.raw with
    | some value => do
      return value.getD t.raw ++ (← replaceSegments b sources resolved rest)
    | none => do
      let value ← resolveTag b sources t
      return value.getD t.raw ++ (← replaceSegments b sources ((t.raw, value) :: resolved) rest)

/-- One pass over a text. -/
def substitute (b : Builder) (sources : Sources) (t : Text) : Run Text :=
  replaceSegments b sources [] (Tag.segments b.pattern t)

/-- The text in its end form, which no live tag is left in. -/
def finish (b : Builder) (isFirst : Bool) (t : Text) : Text :=
  if isFirst && !b.options.unescapeOnFirstPass then t else Tag.unescape t

/-- The passes over a text, of which `left` may still change it. -/
def passes (b : Builder) (sources : Sources) (strict : Bool) :
    (left : Nat) → (isFirst : Bool) → Text → Run Text
  | left, isFirst, t =>
    let tags := Tag.all b.pattern t
    if tags.isEmpty then return b.finish isFirst t
    else match left with
      | 0 => throw (.passLimit b.options.maxPasses)
      | left + 1 => do
        let next ← substitute b sources t
        if next = t then
          if strict then throw (.unresolved (tags.map (·.raw))) else return next
        else passes b sources strict left false next

/-- Expands a text, and goes on in the journal. Of the pattern nothing has to be checked here: one with a group for the
key is not empty. -/
def run (b : Builder) (sources : Sources) (strict : Bool) (t : Text) : Run Text :=
  if t.isEmpty then throw .emptyExpression
  else b.passes sources strict b.options.maxPasses true t

/-- Expands a text. -/
def parse (b : Builder) (sources : Sources) (strict : Bool) (t : Text) : Outcome Text :=
  ((b.run sources strict t).run {}).map Prod.fst

end Builder

/-- Expands a text with the default pattern and options, and with values alone. -/
def parse (t : Text) (values : ValueMap) (supply : Generator.Supply) : Outcome Text :=
  ({} : Builder).parse { values, supply } false t

end Placeholder
