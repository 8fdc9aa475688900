/-
Lists of the tags of a template, as text or as JSON.
-/
import Placeholder.Command.Arguments

namespace Placeholder.Command

def line (t : Text) : Text := t ++ ['\n']

/-- A line with a label, if there is something to show. -/
def labelled (label : String) : Option Text → Text
  | some t => line (label.toList ++ t)
  | none => []

/-- All that is known of a tag, one thing a line. -/
def details (l : Tag.Located) : Text :=
  let clause := Clause.ofTag l.tag
  labelled "Tag: " (some l.tag.raw) ++ labelled "  Key: " (some l.tag.key) ++
    labelled "  Position: " (some (Text.ofNat l.start ++ "..".toList ++ Text.ofNat l.stop)) ++
    labelled "  Format: " clause.format ++ labelled "  Default: " clause.default ++ ['\n']

/-- A member for a text that may be missing. -/
def optionalMember (name : String) : Option Text → List (Text × Json)
  | some t => [(name.toList, .string t)]
  | none => []

/-- All that is known of a tag as an object. -/
def record (l : Tag.Located) : Json :=
  let clause := Clause.ofTag l.tag
  .object ([("tag".toList, .string l.tag.raw), ("key".toList, .string l.tag.key),
    ("start".toList, .integer l.start), ("end".toList, .integer l.stop)] ++
    optionalMember "format" clause.format ++ optionalMember "default" clause.default)

/-- A list of tags. -/
def listing (format : ListFormat) (tags : List Tag.Located) : Text :=
  match format with
  | .plain => tags.flatMap fun l => line l.tag.raw
  | .detailed => tags.flatMap details
  | .json => line ((Json.array (tags.map record)).pretty 0)

end Placeholder.Command
