/-
Tags in a text.

A live tag is `${key}`, where the key may be followed by a clause in brackets; a caller may give
another pattern for it. An escaped tag is `$${{key}}`; it stands for the text `${key}`.
`Tag.segments` cuts a text into characters and tags, and joining the segments gives the text back.
-/
import Placeholder.Pattern.Reader

namespace Placeholder

/-- A tag as it stands in a text. -/
structure Tag where
  /-- The whole text of the tag. -/
  raw : Text
  /-- The key as it is written. -/
  var : Text
  /-- The clause with its brackets and what leads to them. -/
  extended : Option Text
  deriving DecidableEq, Repr

namespace Tag

/-- The key in lower case. -/
def key (t : Tag) : Text := Unicode.toLower t.var

section Patterns

open Pattern Expr

/-- One given character. -/
def char (c : Char) : Expr := one (.chars [c])

/-- Some characters of the line, as few as possible. -/
def shortRun : Expr := star false (one .inLine)

/-- Word characters, with colons, bars and points inside. -/
def keyExpr : Expr :=
  seq (rounds true (one .word))
    (star true (seq (star true (one (.chars [':', '|', '.']))) (rounds true (one .word))))

/-- A clause: brackets behind an optional colon or equals sign. -/
def clauseExpr : Expr :=
  sequence [optional true (one (.chars ['=', ':'])), char '[', shortRun, char ']']

/-- A key and an optional clause. -/
def bodyExprs : List Expr := [group 1 keyExpr, optional true (group 2 clauseExpr)]

def groupNames : List (Text × Nat) := [("var".toList, 1), ("extended".toList, 2)]

/-- The pattern of live tags, if the caller gives none. -/
def livePattern : Pattern where
  source :=
    "\\$\\\x7b(?P<var>\\w+(?:[:|.]*\\w+)*)(?P<extended>[=:]?\\[.*?\\])?\\\x7d".toList
  body := sequence ([char '$', char '\x7b'] ++ bodyExprs ++ [char '\x7d'])
  groups := groupNames

/-- The pattern of escaped tags. -/
def escapedPattern : Pattern where
  source :=
    "\\$\\$\\\x7b\\\x7b(?P<var>\\w+(?:[:|.]*\\w+)*)(?P<extended>[=:]?\\[.*?\\])?\\\x7d\\\x7d".toList
  body := sequence
    ([char '$', char '$', char '\x7b', char '\x7b'] ++ bodyExprs ++ [char '\x7d', char '\x7d'])
  groups := groupNames

end Patterns

/-- The tag that a match stands for; there is none if the group of the key took no part in it. -/
def ofMatch? (p : Pattern) (m : Match) : Option Tag := do
  let var ← p.named? m "var".toList
  return ⟨m.raw, var, p.named? m "extended".toList⟩

/-- A character outside of all tags, or a tag. -/
inductive Segment
  | plain (c : Char)
  | tag (t : Tag)
  deriving DecidableEq, Repr

namespace Segment

def raw : Segment → Text
  | plain c => [c]
  | tag t => t.raw

def tag? : Segment → Option Tag
  | plain _ => none
  | tag t => some t

/-- The segments of a piece: a match that is no tag is plain text. -/
def ofPiece (p : Pattern) : Pattern.Piece → List Segment
  | .plain c => [plain c]
  | .found m => match ofMatch? p m with
    | some t => [tag t]
    | none => m.raw.map plain

end Segment

/-- The text cut into characters and tags. -/
def segments (p : Pattern) (t : Text) : List Segment := (p.pieces t).flatMap (Segment.ofPiece p)

/-- The tags of a text from left to right. -/
def all (p : Pattern) (t : Text) : List Tag := (segments p t).filterMap Segment.tag?

/-- A tag with the bytes before it and before its end. -/
structure Located where
  tag : Tag
  start : Nat
  stop : Nat
  deriving DecidableEq, Repr

/-- The tags of segments that begin at the byte `position`. -/
def locateFrom : (position : Nat) → List Segment → List Located
  | _, [] => []
  | position, .plain c :: rest => locateFrom (position + c.utf8Size) rest
  | position, .tag t :: rest =>
    let stop := position + Text.byteSize t.raw
    ⟨t, position, stop⟩ :: locateFrom stop rest

/-- The tags of a text with their places. -/
def locate (p : Pattern) (t : Text) : List Located := locateFrom 0 (segments p t)

/-- The text that an escaped tag stands for. -/
def restored (t : Tag) : Text := "$\x7b".toList ++ t.var ++ ['\x7d']

/-- The text with every escaped tag restored. -/
def unescape (t : Text) : Text :=
  (segments escapedPattern t).flatMap fun s => match s with
    | .plain c => [c]
    | .tag t => t.restored

end Tag

end Placeholder
