/-
Paths into a document. A key is split at every separator, and only if the whole key is no name of the outermost
object. So where no name holds a separator, a path is followed name by name, and a part of the document answers what
the document answers to the longer path (`narrow_compose`). What is reached by names and item numbers is found under
them, joined, unless a name on the way holds a separator or the whole key is a name of the outermost object
(`lookup_joined`).
-/
import Placeholder.Config
import Placeholder.Proofs.Json.Document
import Placeholder.Proofs.Number.ReadBack

namespace Placeholder

/-! ## One step -/

theorem Config.find?_eq_none_iff {α : Type} {entries : List (Text × α)} {key : Text} :
    find? entries key = .none ↔ ∀ p ∈ entries, Text.sameUpToAsciiCase p.1 key = false := by
  have hexact : (∀ p ∈ entries, Text.sameUpToAsciiCase p.1 key = false) → entries.lookup key = .none := by
    intro h
    refine List.lookup_eq_none_iff.2 fun p hp => bne_iff_ne.2 ?_
    rintro rfl
    simpa [Text.sameUpToAsciiCase] using h p hp
  simp only [find?, Option.or_eq_none_iff, Option.map_eq_none_iff, List.find?_eq_none, Bool.not_eq_true]
  exact ⟨fun h => h.2, fun h => ⟨hexact h, h⟩⟩

theorem Config.mem_of_find? {α : Type} {entries : List (Text × α)} {key : Text} {a : α}
    (h : find? entries key = some a) : ∃ name, (name, a) ∈ entries ∧ Text.sameUpToAsciiCase name key = true := by
  rw [find?, Option.or_eq_some_iff] at h
  rcases h with h | ⟨-, h⟩
  · obtain ⟨before, behind, rfl, -⟩ := List.lookup_eq_some_iff.1 h
    exact ⟨key, by simp, beq_self_eq_true _⟩
  · obtain ⟨p, hfind, rfl⟩ := Option.map_eq_some_iff.1 h
    have hsame := List.find?_some (p := fun p : Text × α => Text.sameUpToAsciiCase p.1 key) hfind
    exact ⟨p.1, List.mem_of_find?_eq_some hfind, hsame⟩

namespace Section

/-- No separator stands in the name. -/
def IsPlain (name : Text) : Prop := ∀ c ∈ name, isSeparator c = false

instance (name : Text) : Decidable (IsPlain name) :=
  decidable_of_iff (name.all (!isSeparator ·) = true) (by simp [IsPlain])

/-- Where one step leads: to a member of that name up to the case of ASCII letters, or to an item. -/
theorem member?_cases {name : Text} {json v : Json} (h : member? name json = some v) :
    (∃ members n, json = .object members ∧ (n, v) ∈ members ∧ Text.sameUpToAsciiCase n name = true) ∨
    (∃ items i, json = .array items ∧ Integer.readSize name = .ok i ∧ items[i]? = some v) := by
  cases json with
  | object members =>
    obtain ⟨n, hmem, hname⟩ := Config.mem_of_find? h
    exact .inl ⟨members, n, rfl, hmem, hname⟩
  | array items =>
    rw [member?] at h
    split at h
    next i hi => exact .inr ⟨items, i, rfl, hi, h⟩
    next => cases h
  | _ => cases h

theorem names_subset_of_member? {name : Text} {json v : Json} (h : member? name json = some v) :
    v.names ⊆ json.names := by
  rcases member?_cases h with ⟨members, n, rfl, hmem, -⟩ | ⟨items, i, rfl, -, hitem⟩
  · exact (Json.names_subset_of_member hmem).2
  · exact Json.names_subset_of_item (List.mem_of_getElem? hitem)

theorem isSeparator_toLower (c : Char) : isSeparator c.toLower = isSeparator c := by
  rcases Text.toLower_cases c with ⟨i, rfl⟩ | hsame
  · have hall : ∀ i : Fin 26, isSeparator (Char.ofNat (65 + i)).toLower = isSeparator (Char.ofNat (65 + i)) := by decide
    exact hall i
  · rw [hsame]

theorem isPlain_of_same {a b : Text} (h : Text.sameUpToAsciiCase a b = true) (ha : IsPlain a) : IsPlain b := by
  have hlower : ∀ t : Text, IsPlain t ↔ IsPlain (Text.asciiLower t) := by
    intro t
    simp [IsPlain, Text.asciiLower, isSeparator_toLower]
  rw [hlower, ← eq_of_beq h, ← hlower]
  exact ha

theorem isPlain_of_readSize {name : Text} {i : Nat} (h : Integer.readSize name = .ok i) : IsPlain name := by
  intro c hc
  rcases (Integer.readSize_ok h).1 c hc with hdigit | rfl
  · refine Bool.eq_false_iff.2 fun hsep => ?_
    simp only [isSeparator, Bool.or_eq_true, beq_iff_eq] at hsep
    rcases hsep with rfl | rfl <;> cases hdigit
  · rfl

/-- A name with a separator is no item, and no member if all names are plain. -/
theorem member?_eq_none {name : Text} {json : Json} (h : ¬ IsPlain name)
    (hmembers : ∀ members, json = .object members → ∀ p ∈ members, Text.sameUpToAsciiCase p.1 name = false) :
    member? name json = none := by
  cases hmember : member? name json with
  | none => rfl
  | some v =>
    rcases member?_cases hmember with ⟨members, n, rfl, hmem, hname⟩ | ⟨items, i, rfl, hi, -⟩
    · rw [hmembers members rfl _ hmem] at hname
      cases hname
    · exact absurd (isPlain_of_readSize hi) h

/-! ## Many steps -/

theorem walk_append (names more : List Text) (json : Json) :
    walk (names ++ more) json = (walk names json).bind (walk more) := by
  induction names generalizing json with
  | nil => rfl
  | cons name names ih =>
    rw [List.cons_append, walk, walk, Option.bind_assoc]
    exact congrArg _ (funext ih)

theorem walk_singleton (name : Text) (json : Json) : walk [name] json = member? name json := by
  rw [walk]
  exact Option.bind_fun_some _

theorem names_subset_of_walk {names : List Text} {json v : Json} (h : walk names json = some v) :
    v.names ⊆ json.names := by
  induction names generalizing json with
  | nil =>
    obtain rfl := Option.some.inj h
    exact List.Subset.refl _
  | cons name names ih =>
    obtain ⟨inner, hmember, hwalk⟩ := Option.bind_eq_some_iff.1 h
    exact List.Subset.trans (ih hwalk) (names_subset_of_member? hmember)

theorem segments_of_isPlain {name : Text} (h : IsPlain name) : segments name = [name] := Text.splitOn_of_none h

theorem segments_append {c : Char} (hc : isSeparator c = true) (p q : Text) :
    segments (p ++ c :: q) = segments p ++ segments q := Text.splitOn_append hc p q

/-- Where all names are plain, a path is followed name by name. -/
theorem resolve_eq_walk {json : Json} (h : ∀ name ∈ json.names, IsPlain name) (path : Text) :
    resolve path json = walk (segments path) json := by
  by_cases hplain : IsPlain path
  · rw [resolve, segments_of_isPlain hplain, walk_singleton, Option.or_self]
  · rw [resolve, member?_eq_none hplain ?_, Option.none_or]
    rintro members rfl ⟨n, v⟩ hmem
    refine Bool.eq_false_iff.2 fun hsame => hplain (isPlain_of_same hsame (h n ?_))
    exact (Json.names_subset_of_member hmem).1

/-- Nothing is found below null. -/
theorem resolve_null (path : Text) : resolve path .null = none := by
  obtain ⟨name, names, hsegments⟩ := List.exists_cons_of_ne_nil (Text.splitOn_ne_nil isSeparator path)
  rw [resolve, segments, hsegments]
  rfl

theorem trim_append_separator {c : Char} (hc : isSeparator c = true) (p q : Text) : Text.trim (p ++ c :: q) ≠ [] := by
  have hblank : Text.isBlank c = false := by
    simp only [isSeparator, Bool.or_eq_true, beq_iff_eq] at hc
    rcases hc with rfl | rfl <;> rfl
  exact List.ne_nil_of_mem ((Text.mem_trim (c := c) (by simp)).resolve_left (by simp [hblank]))

variable {s : Section} {p q : Text} {c : Char}

theorem resolve_append (hnames : ∀ name ∈ s.root.names, IsPlain name) (hc : isSeparator c = true) (p k : Text) :
    resolve (p ++ c :: k) s.root = (resolve p s.root).bind (resolve k) := by
  rw [resolve_eq_walk hnames, resolve_eq_walk hnames, segments_append hc, walk_append]
  refine Option.bind_congr fun v hv => ?_
  exact (resolve_eq_walk (fun name hname => hnames name (names_subset_of_walk hv hname)) k).symm

theorem narrow_of_ne (hp : Text.trim p ≠ []) : s.narrow p = ⟨(resolve p s.root).getD .null⟩ :=
  if_neg (by simpa using hp)

/-- **A part answers what the whole answers to the longer path.** -/
theorem narrow_compose (hnames : ∀ name ∈ s.root.names, IsPlain name) (hc : isSeparator c = true)
    (hp : Text.trim p ≠ []) :
    (∀ k, (s.narrow p).lookup k = s.lookup (p ++ c :: k)) ∧
    (∀ q, Text.trim q ≠ [] → (s.narrow p).narrow q = s.narrow (p ++ c :: q)) ∧
    (resolve p s.root = none → ∀ k, s.lookup (p ++ c :: k) = none ∧ s.narrow (p ++ c :: k) = ⟨.null⟩) := by
  have hresolve : ∀ k, resolve k (s.narrow p).root = resolve (p ++ c :: k) s.root := by
    intro k
    rw [narrow_of_ne hp, resolve_append hnames hc]
    cases resolve p s.root with
    | none => exact resolve_null k
    | some v => rfl
  refine ⟨fun k => ?_, fun q hq => ?_, fun hnone k => ⟨?_, ?_⟩⟩
  · rw [lookup, lookup, hresolve]
  · rw [narrow_of_ne hq, hresolve, narrow_of_ne (trim_append_separator hc p q)]
  · rw [lookup, resolve_append hnames hc, hnone]
    rfl
  · rw [narrow_of_ne (trim_append_separator hc p k), resolve_append hnames hc, hnone]
    rfl

/-- Through an item, and with letters of another case. -/
theorem narrow_compose_item :
    let s : Section := ⟨.object [(['A'], .array [.null, .object [(['B'], .string ['v'])]])]⟩
    (∀ name ∈ s.root.names, IsPlain name) ∧ isSeparator '.' = true ∧ Text.trim "a:1".toList ≠ [] ∧
      (s.narrow "a:1".toList).lookup ['b'] = s.lookup "a:1.b".toList ∧ s.lookup "a:1.b".toList = some ['v'] := by
  intro s
  have hnames : ∀ name ∈ s.root.names, IsPlain name := by decide
  have htrim : Text.trim "a:1".toList ≠ [] := by decide
  exact ⟨hnames, rfl, htrim, (narrow_compose hnames (c := '.') rfl htrim).1 ['b'], rfl⟩

/-! ## Leaves and their paths -/

/-- What stands at a path of names and item numbers. -/
inductive At : List Text → Json → Json → Prop
  | here {json : Json} : At [] json json
  | member {members : List (Text × Json)} {name : Text} {inner json : Json} {path : List Text}
    (hmem : (name, inner) ∈ members) (h : At path inner json) : At (name :: path) (.object members) json
  /-- An item whose number is a size. -/
  | item {items : List Json} {i : Nat} {inner json : Json} {path : List Text} (hitem : items[i]? = some inner)
    (hi : (i : Int) ≤ Integer.greatestSize) (h : At path inner json) : At (Text.ofNat i :: path) (.array items) json

/-- The text of a leaf: a string is its own, numbers and truth values are written as in a document. -/
inductive LeafText : Json → Text → Prop
  | string (s : Text) : LeafText (.string s) s
  | integer (i : Int) : LeafText (.integer i) (Json.compact (.integer i))
  | float (x : Binary64) : LeafText (.float x) (Json.compact (.float x))
  | bool (b : Bool) : LeafText (.bool b) (Json.compact (.bool b))

theorem LeafText.scalarText? {json : Json} {text : Text} (h : LeafText json text) : scalarText? json = some text := by
  cases h <;> rfl

/-- The key of a path. -/
def joined (path : List Text) : Text := Text.joinWith [':'] path

/-- One name, or several plain ones that together are no name of the outermost object. -/
def Addressable (root : Json) (path : List Text) : Prop :=
  path ≠ [] ∧ (2 ≤ path.length → (∀ name ∈ path, IsPlain name) ∧
    ∀ members, root = .object members → ∀ p ∈ members, Text.sameUpToAsciiCase p.1 (joined path) = false)

/-- Names lead where they say: a name comes before all that are the same up to their case. -/
theorem walk_of_at {path : List Text} {json leaf : Json} (h : At path json leaf) (hproper : json.Proper) :
    walk path json = some leaf := by
  induction h with
  | here => rfl
  | @member members name inner leaf path hmem _ ih =>
    cases hproper with
    | object horder hvalues =>
      have hmember : member? name (.object members) = some inner := by
        rw [member?, Config.find?, (Text.lookup_eq_some_iff_mem horder.nodup).2 hmem, Option.some_or]
      rw [walk, hmember]
      exact ih (hvalues _ hmem)
  | @item items i inner leaf path hitem hi _ ih =>
    cases hproper with
    | array hitems =>
      have hmember : member? (Text.ofNat i) (.array items) = some inner := by
        rw [member?, Integer.readSize_ofNat hi]
        exact hitem
      rw [walk, hmember]
      exact ih (hitems _ (List.mem_of_getElem? hitem))

/-- What many steps lead to stands at a path of as many names. -/
theorem exists_at_of_walk {names : List Text} {json v : Json} (h : walk names json = some v) :
    ∃ path, path.length = names.length ∧ At path json v := by
  induction names generalizing json with
  | nil =>
    obtain rfl := Option.some.inj h
    exact ⟨[], rfl, .here⟩
  | cons name names ih =>
    obtain ⟨inner, hmember, hwalk⟩ := Option.bind_eq_some_iff.1 h
    obtain ⟨path, hlength, hat⟩ := ih hwalk
    rcases member?_cases hmember with ⟨members, n, rfl, hmem, -⟩ | ⟨items, i, rfl, hi, hitem⟩
    · exact ⟨n :: path, by simp [hlength], .member hmem hat⟩
    · exact ⟨Text.ofNat i :: path, by simp [hlength], .item hitem (Integer.readSize_ok hi).2 hat⟩

theorem segments_joined {path : List Text} (h : path ≠ []) : segments (joined path) = path.flatMap segments :=
  Text.splitOn_joinWith rfl h

theorem flatMap_segments_of_isPlain {path : List Text} (h : ∀ name ∈ path, IsPlain name) :
    path.flatMap segments = path := by
  induction path with
  | nil => rfl
  | cons name path ih =>
    obtain ⟨hname, hpath⟩ := List.forall_mem_cons.1 h
    rw [List.flatMap_cons, segments_of_isPlain hname, ih hpath, List.singleton_append]

/-- A name that is not plain falls into more parts than one. -/
theorem length_le_flatMap_segments (path : List Text) : path.length ≤ (path.flatMap segments).length ∧
    ((path.flatMap segments).length = path.length → ∀ name ∈ path, IsPlain name) := by
  induction path with
  | nil => simp
  | cons name path ih =>
    obtain ⟨hle, hplain⟩ := ih
    have hname : (segments name).length = name.countP isSeparator + 1 := Text.length_splitOn _ _
    rw [List.flatMap_cons, List.length_append, List.length_cons, hname]
    refine ⟨by omega, fun heq => List.forall_mem_cons.2 ⟨fun c hc => ?_, hplain (by omega)⟩⟩
    have hnone : name.countP isSeparator = 0 := by omega
    exact Bool.eq_false_iff.2 (List.countP_eq_zero.1 hnone c hc)

theorem joined_singleton (name : Text) : joined [name] = name := rfl

theorem not_isPlain_joined {path : List Text} (h : 2 ≤ path.length) : ¬ IsPlain (joined path) := by
  intro hplain
  have hle := (length_le_flatMap_segments path).1
  rw [← segments_joined (by rintro rfl; simp at h), segments_of_isPlain hplain, List.length_singleton] at hle
  omega

theorem resolve_joined {root leaf : Json} {path : List Text} (hproper : root.Proper) (hat : At path root leaf)
    (h : Addressable root path) : resolve (joined path) root = some leaf := by
  obtain ⟨hne, hseveral⟩ := h
  have hwalk := walk_of_at hat hproper
  by_cases hlength : 2 ≤ path.length
  · obtain ⟨hplain, hwhole⟩ := hseveral hlength
    rw [resolve, member?_eq_none (not_isPlain_joined hlength) hwhole, Option.none_or, segments_joined hne,
      flatMap_segments_of_isPlain hplain, hwalk]
  · obtain ⟨name, rfl⟩ : ∃ name, path = [name] := List.length_eq_one_iff.1 (by
      have := List.length_pos_iff.2 hne
      omega)
    rw [walk_singleton] at hwalk
    rw [resolve, joined_singleton, hwalk, Option.some_or]

/-- What a key leads to stands at a path of one name, or of as many as the key has parts. -/
theorem exists_at_of_resolve {key : Text} {root v : Json} (h : resolve key root = some v) : ∃ path, At path root v ∧
    (path.length = 1 ∨ member? key root = none ∧ path.length = (segments key).length) := by
  rcases Option.or_eq_some_iff.1 h with hwhole | ⟨hnone, hparts⟩
  · rw [← walk_singleton] at hwhole
    obtain ⟨path, hlength, hat⟩ := exists_at_of_walk hwhole
    exact ⟨path, hat, .inl hlength⟩
  · obtain ⟨path, hlength, hat⟩ := exists_at_of_walk hparts
    exact ⟨path, hat, .inr ⟨hnone, hlength⟩⟩

/-- A path with as many names as its key has parts is addressable, if the whole key leads nowhere. -/
theorem addressable_of_length {root : Json} {path : List Text} (hnone : member? (joined path) root = none)
    (hlength : path.length = (segments (joined path)).length) : Addressable root path := by
  have hne : path ≠ [] := by
    rintro rfl
    cases hlength
  rw [segments_joined hne] at hlength
  refine ⟨hne, fun _ => ⟨(length_le_flatMap_segments path).2 hlength.symm, ?_⟩⟩
  rintro members rfl
  exact Config.find?_eq_none_iff.1 hnone

/-- **Leaves under their paths.** What stands at a path is found under the joined names if the path is addressable.
Otherwise what is found under them, if there is any, stands elsewhere. -/
theorem lookup_joined {root leaf : Json} {path : List Text} {text : Text} (hproper : root.Proper)
    (hat : At path root leaf) (htext : LeafText leaf text) :
    (Addressable root path → lookup ⟨root⟩ (joined path) = some text) ∧
    (¬ Addressable root path → ∀ v, resolve (joined path) root = some v → ∃ other, other ≠ path ∧ At other root v) := by
  refine ⟨fun h => ?_, fun h v hv => ?_⟩
  · rw [lookup, resolve_joined hproper hat h]
    exact htext.scalarText?
  · obtain ⟨other, hother, hlength⟩ := exists_at_of_resolve hv
    refine ⟨other, ?_, hother⟩
    rintro rfl
    rcases hlength with hone | ⟨hnone, hlength⟩
    · exact h ⟨List.ne_nil_of_length_pos (by omega), fun htwo => by omega⟩
    · exact h (addressable_of_length hnone hlength)

/-- Through an item, past a name that is the same up to its case. -/
theorem lookup_joined_item :
    let root : Json := .object [(['A'], .null), (['a'], .array [.null, .object [("é b".toList, .integer (-7))]])]
    let path : List Text := [['a'], Text.ofNat 1, "é b".toList]
    root.Proper ∧ At path root (.integer (-7)) ∧ LeafText (.integer (-7)) "-7".toList ∧ Addressable root path ∧
      joined path = "a:1:é b".toList ∧ lookup ⟨root⟩ (joined path) = some "-7".toList := by
  intro root path
  have hread : Json.read "\x7b\"a\": [null, \x7b\"é b\": -7\x7d], \"A\": null\x7d".toList = .ok root := by cbv
  have hproper : root.Proper := Json.proper_of_read hread
  have hat : At path root (.integer (-7)) :=
    .member (List.mem_cons_of_mem _ (List.mem_singleton_self _))
      (.item (i := 1) rfl (by decide) (.member (List.mem_singleton_self _) .here))
  have htext : LeafText (.integer (-7)) "-7".toList := .integer (-7)
  have haddressable : Addressable root path := by
    refine ⟨List.cons_ne_nil _ _, fun _ => ⟨by decide, fun members hmembers => ?_⟩⟩
    obtain rfl := Json.object.inj hmembers
    decide
  exact ⟨hproper, hat, htext, haddressable, rfl, (lookup_joined hproper hat htext).1 haddressable⟩

/-- A name that holds a separator is not found where it stands below another name. -/
theorem lookup_name_with_separator :
    let root : Json := .object [(['a'], .object [("b.c".toList, .string ['v'])])]
    let path : List Text := [['a'], "b.c".toList]
    Json.read "\x7b\"a\":\x7b\"b.c\":\"v\"\x7d\x7d".toList = .ok root ∧ At path root (.string ['v']) ∧
      LeafText (.string ['v']) ['v'] ∧ joined path = "a:b.c".toList ∧ lookup ⟨root⟩ (joined path) = none :=
  ⟨by cbv, .member (List.mem_singleton_self _) (.member (List.mem_singleton_self _) .here), .string _, rfl, rfl⟩

end Section

end Placeholder
