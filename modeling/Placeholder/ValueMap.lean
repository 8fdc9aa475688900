/-
Maps from keys to values. Keys that differ in letter case only are one key. An entry may be null:
its key is there, and it has no value.
-/
import Placeholder.Fault
import Placeholder.Json.Reader
import Placeholder.Json.Writer

namespace Placeholder

/-- Entries by keys in lower case; no key comes twice. -/
structure ValueMap where
  entries : List (Text × Option Value)
  distinct : (entries.map Prod.fst).Nodup

namespace ValueMap

/-- Replaces the entry of a key, or puts it behind all others. -/
def putEntry (key : Text) (entry : Option Value) :
    List (Text × Option Value) → List (Text × Option Value)
  | [] => [(key, entry)]
  | (k, e) :: rest => if k = key then (key, entry) :: rest else (k, e) :: putEntry key entry rest

theorem mem_keys_putEntry {key k : Text} {entry : Option Value} {es : List (Text × Option Value)} :
    k ∈ (putEntry key entry es).map Prod.fst ↔ k = key ∨ k ∈ es.map Prod.fst := by
  induction es with
  | nil => simp [putEntry]
  | cons p es ih =>
    obtain ⟨a, e⟩ := p
    by_cases h : a = key
    · subst h
      simp [putEntry]
    · simp only [putEntry, h, if_false, List.map_cons, List.mem_cons, ih]
      grind

theorem nodup_putEntry {key : Text} {entry : Option Value} {es : List (Text × Option Value)}
    (h : (es.map Prod.fst).Nodup) : ((putEntry key entry es).map Prod.fst).Nodup := by
  induction es with
  | nil => simp [putEntry]
  | cons p es ih =>
    obtain ⟨a, e⟩ := p
    by_cases ha : a = key
    · subst ha
      simpa [putEntry] using h
    · simp only [List.map_cons, List.nodup_cons] at h
      simp only [putEntry, ha, if_false, List.map_cons, List.nodup_cons]
      refine ⟨fun hm => ?_, ih h.2⟩
      rcases mem_keys_putEntry.1 hm with heq | hm
      · exact ha heq
      · exact h.1 hm

def empty : ValueMap := ⟨[], by simp⟩

/-- The map with the entry of a key that is in lower case already. -/
def put (m : ValueMap) (key : Text) (entry : Option Value) : ValueMap :=
  ⟨putEntry key entry m.entries, nodup_putEntry m.distinct⟩

/-- The entry of a key: absent, null or a value. -/
def entry? (m : ValueMap) (key : Text) : Option (Option Value) :=
  m.entries.lookup (Unicode.toLower key)

/-- The value of a key, if it has one. -/
def get? (m : ValueMap) (key : Text) : Option Value := (m.entry? key).join

def contains (m : ValueMap) (key : Text) : Bool := (m.entry? key).isSome

def insert (m : ValueMap) (key : Text) (v : Value) : ValueMap := m.put (Unicode.toLower key) (some v)

def insertNull (m : ValueMap) (key : Text) : ValueMap := m.put (Unicode.toLower key) none

def erase (m : ValueMap) (key : Text) : ValueMap :=
  ⟨m.entries.filter fun p => p.1 != Unicode.toLower key,
    m.distinct.sublist (List.filter_sublist.map _)⟩

/-- Puts an entry under a key, and gives back the one that stood there: absent, null or a value. -/
def exchange (m : ValueMap) (key : Text) (entry : Option Value) : Option (Option Value) × ValueMap :=
  (m.entry? key, m.put (Unicode.toLower key) entry)

/-- Takes the entry of a key away, and gives it back. -/
def take (m : ValueMap) (key : Text) : Option (Option Value) × ValueMap := (m.entry? key, m.erase key)

/-- The number of keys. -/
def size (m : ValueMap) : Nat := m.entries.length

def isEmpty (m : ValueMap) : Bool := m.entries.isEmpty

/-- Puts every entry of `other` over this map. -/
def merge (m other : ValueMap) : ValueMap :=
  other.entries.foldl (fun m (key, entry) => m.put key entry) m

/-- Inserts pairs one after another. -/
def extend (m : ValueMap) (pairs : List (Text × Value)) : ValueMap :=
  pairs.foldl (fun m (key, v) => m.insert key v) m

def ofList (pairs : List (Text × Value)) : ValueMap := empty.extend pairs

/-- Whether two maps have the same keys with equal entries. -/
def same (a b : ValueMap) : Bool :=
  a.size == b.size && a.entries.all fun (key, entry) =>
    match b.entries.lookup key with
    | some other => Value.sameEntry entry other
    | none => false

/-! ## From JSON -/

/-- The key of a member below `outer`. -/
def memberKey (outer name : Text) : Text := outer ++ '.' :: name

/-- The entry of a JSON value that is no object. -/
def leafEntry : Json → Option Value
  | .null => none
  | .bool b => some (.boolean b)
  | .integer i => match Value.ofInt? i with
    | some v => some v
    | none => some (.double (.ofNat i.toNat))
  | .float x => some (.double x)
  | .string s => some (.string s)
  | json => some (.string json.compact)

mutual

/-- Puts the leaves of a JSON value into the map, under dotted keys. -/
def insertJson (m : ValueMap) (key : Text) : Json → ValueMap
  | .object members => insertMembers m (some key) members
  | json => m.put (Unicode.toLower key) (leafEntry json)

/-- Puts the leaves of members into the map; `outer` is the key of their object. -/
def insertMembers (m : ValueMap) (outer : Option Text) : List (Text × Json) → ValueMap
  | [] => m
  | (name, json) :: rest =>
    let key := match outer with
      | some outer => memberKey outer name
      | none => name
    insertMembers (insertJson m key json) outer rest

end

/-- The leaves of a JSON object. -/
def ofJson : Json → Outcome ValueMap
  | .object members => .ok (insertMembers empty none members)
  | _ => .error .valuesNotObject

/-- Reads a JSON text and takes its leaves. -/
def readJson (t : Text) : Outcome ValueMap :=
  match Json.read t with
  | .ok json => ofJson json
  | .error f => .error (.json f)

end ValueMap

end Placeholder
