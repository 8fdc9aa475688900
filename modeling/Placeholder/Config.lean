/-
Configurations: where a key is looked up that has no value. Tables of texts compare whole keys, and
sections of a JSON document also walk along a path; both fall back on equality up to the case of
ASCII letters.
-/
import Placeholder.Number.Integer
import Placeholder.Json.Writer

namespace Placeholder

/-- A configuration is what it answers to a key. -/
abbrev Config := Text → Option Text

namespace Config

/-- The first entry whose name is the key, or else the first whose name is the key up to the case of
ASCII letters. -/
def find? (entries : List (Text × α)) (key : Text) : Option α :=
  (entries.lookup key).or
    ((entries.find? fun p => Text.sameUpToAsciiCase p.1 key).map Prod.snd)

/-- A table in no particular order. -/
def ofTable (entries : List (Text × Text)) : Config := find? entries

/-- Puts an entry in its place by the order of names; an entry of the same name is replaced. -/
def insertSorted (name value : Text) : List (Text × Text) → List (Text × Text)
  | [] => [(name, value)]
  | (n, v) :: rest =>
    if n = name then (name, value) :: rest
    else if Text.before name n then (name, value) :: (n, v) :: rest
    else (n, v) :: insertSorted name value rest

/-- The entries in the order of their names. -/
def sorted (entries : List (Text × Text)) : List (Text × Text) :=
  entries.foldl (fun es (name, value) => insertSorted name value es) []

/-- A table that is searched in the order of its names. -/
def ofSortedTable (entries : List (Text × Text)) : Config := find? (sorted entries)

/-- A configuration that knows nothing. -/
def none : Config := fun _ => .none

end Config

/-- A part of a JSON document. -/
structure Section where
  root : Json

namespace Section

/-- The member of an object by its name, or the item of an array by its number. -/
def member? (name : Text) : Json → Option Json
  | .object members => Config.find? members name
  | .array items => match Integer.readSize name with
    | .ok i => items[i]?
    | .error _ => .none
  | _ => .none

def isSeparator (c : Char) : Bool := c == ':' || c == '.'

/-- The names along a path. -/
def segments (path : Text) : List Text := Text.splitOn isSeparator path

/-- Follows names from a value downwards. -/
def walk : List Text → Json → Option Json
  | [], json => some json
  | name :: names, json => (member? name json).bind (walk names)

/-- The value at a path; a member with the whole path as its name comes first. -/
def resolve (path : Text) (json : Json) : Option Json :=
  (member? path json).or (walk (segments path) json)

/-- The text of a string, a number or a truth value. -/
def scalarText? : Json → Option Text
  | .string s => some s
  | .integer i => some (Text.ofInt i)
  | .float x => some (Json.floatText x)
  | .bool b => some (if b then "true".toList else "false".toList)
  | _ => .none

def lookup (s : Section) : Config := fun key => (resolve key s.root).bind scalarText?

/-- The part at a path. A blank path leads nowhere else, and a missing one to an empty part. -/
def narrow (s : Section) (path : Text) : Section :=
  if (Text.trim path).isEmpty then s else ⟨(resolve path s.root).getD .null⟩

def isEmpty (s : Section) : Bool :=
  match s.root with
  | .null => true
  | .object members => members.isEmpty
  | .array items => items.isEmpty
  | _ => false

end Section

end Placeholder
