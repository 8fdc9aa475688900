/-
What a map holds that is taken from a JSON document: an entry for each key that the dotted path of a leaf is lowered
to, and no other. The leaves are put in one after another, deep first and in the order of names, so where several
paths have one key the last of them stays (`ofJson_leaves`).
-/
import Placeholder.Proofs.Json.Document
import Placeholder.Proofs.ValueMap.Entries

namespace Placeholder

namespace ValueMap

/-! ## Leaves and their paths -/

/-- A value that is no object, and the names that lead to it. -/
inductive Leaf : List Text → Json → Json → Prop
  | here {json : Json} (h : ∀ members, json ≠ .object members) : Leaf [] json json
  | member {members : List (Text × Json)} {name : Text} {inner json : Json} {path : List Text}
    (hmem : (name, inner) ∈ members) (h : Leaf path inner json) : Leaf (name :: path) (.object members) json

/-- The key of a path: its names with dots between them, in lower case. -/
def pathKey (path : List Text) : Text := Unicode.toLower (Text.joinWith ['.'] path)

/-- The order of a walk that goes deep first and takes members in the order of their names. -/
def Earlier : List Text → List Text → Prop := List.Lex fun a b => Text.before a b = true

/-- The entry of a leaf. -/
inductive EntryOf : Json → Option Value → Prop
  | null : EntryOf .null none
  | bool (b : Bool) : EntryOf (.bool b) (some (.boolean b))
  | integer {i : Int} (h : Integer.least ≤ i ∧ i ≤ Integer.greatest) : EntryOf (.integer i) (some (.integer ⟨i, h⟩))
  /-- A whole number that only fits without a sign is rounded. -/
  | large {i : Int} (h : Integer.greatest < i) : EntryOf (.integer i) (some (.double (.ofNat i.toNat)))
  | float (x : Binary64) : EntryOf (.float x) (some (.double x))
  | string (s : Text) : EntryOf (.string s) (some (.string s))
  | array (items : List Json) : EntryOf (.array items) (some (.string (Json.compact (.array items))))

mutual

/-- The leaves of a value with their paths, one after another. -/
def leaves : Json → List (List Text × Json)
  | .object members => memberLeaves members
  | json => [([], json)]

def memberLeaves : List (Text × Json) → List (List Text × Json)
  | [] => []
  | (name, inner) :: members => (leaves inner).map (fun p => (name :: p.1, p.2)) ++ memberLeaves members

end

theorem leaves_of_ne_object {json : Json} (h : ∀ members, json ≠ .object members) : leaves json = [([], json)] := by
  cases json with
  | object members => exact absurd rfl (h members)
  | _ => rw [leaves]; exact h

theorem mem_memberLeaves {members : List (Text × Json)} {path : List Text} {leaf : Json} :
    (path, leaf) ∈ memberLeaves members ↔
      ∃ name inner rest, path = name :: rest ∧ (name, inner) ∈ members ∧ (rest, leaf) ∈ leaves inner := by
  induction members with
  | nil => simp [memberLeaves]
  | cons p members ih =>
    obtain ⟨n, v⟩ := p
    rw [memberLeaves, List.mem_append, ih]
    constructor
    · rintro (h | ⟨name, inner, rest, rfl, hmem, h⟩)
      · obtain ⟨⟨rest, leaf'⟩, hleaf, heq⟩ := List.mem_map.1 h
        obtain ⟨rfl, rfl⟩ := Prod.mk.inj heq
        exact ⟨n, v, rest, rfl, List.mem_cons_self .., hleaf⟩
      · exact ⟨name, inner, rest, rfl, List.mem_cons_of_mem _ hmem, h⟩
    · rintro ⟨name, inner, rest, rfl, hmem, h⟩
      rcases List.mem_cons.1 hmem with heq | hmem
      · obtain ⟨rfl, rfl⟩ := Prod.mk.inj heq
        exact .inl (List.mem_map.2 ⟨_, h, rfl⟩)
      · exact .inr ⟨name, inner, rest, rfl, hmem, h⟩

theorem mem_leaves {path : List Text} {json leaf : Json} : (path, leaf) ∈ leaves json ↔ Leaf path json leaf := by
  induction path generalizing json with
  | nil =>
    constructor
    · intro h
      cases json with
      | object members =>
        rw [leaves, mem_memberLeaves] at h
        obtain ⟨_, _, _, hpath, -⟩ := h
        cases hpath
      | _ =>
        rw [leaves_of_ne_object (by simp), List.mem_singleton] at h
        obtain rfl := (Prod.mk.inj h).2
        exact .here (by simp)
    · intro h
      cases h with
      | here h =>
        rw [leaves_of_ne_object h]
        exact List.mem_singleton_self _
  | cons name path ih =>
    constructor
    · intro h
      cases json with
      | object members =>
        rw [leaves, mem_memberLeaves] at h
        obtain ⟨name, inner, rest, hpath, hmem, hleaf⟩ := h
        obtain ⟨rfl, rfl⟩ := List.cons.inj hpath
        exact .member hmem (ih.1 hleaf)
      | _ =>
        rw [leaves_of_ne_object (by simp), List.mem_singleton] at h
        cases h
    · intro h
      cases h with
      | member hmem h =>
        rw [leaves, mem_memberLeaves]
        exact ⟨name, _, path, rfl, hmem, ih.2 h⟩

theorem memberLeaves_inOrder {members : List (Text × Json)} (horder : Json.InOrder members)
    (h : ∀ p ∈ members, (leaves p.2).Pairwise fun p q => Earlier p.1 q.1) :
    (memberLeaves members).Pairwise fun p q => Earlier p.1 q.1 := by
  induction members with
  | nil => exact List.Pairwise.nil
  | cons first members ih =>
    obtain ⟨n, v⟩ := first
    obtain ⟨hfirst, hmembers⟩ := List.forall_mem_cons.1 h
    rw [memberLeaves, List.pairwise_append]
    refine ⟨List.pairwise_map.2 (hfirst.imp fun hpq => List.Lex.cons hpq), ih horder.of_cons hmembers, ?_⟩
    rintro p hp ⟨path, leaf⟩ hq
    obtain ⟨p', -, rfl⟩ := List.mem_map.1 hp
    obtain ⟨name, inner, rest, rfl, hmem, -⟩ := mem_memberLeaves.1 hq
    exact List.Lex.rel (List.rel_of_pairwise_cons horder hmem)

/-- The leaves stand in the order of the walk. -/
theorem leaves_inOrder {json : Json} (h : json.Proper) : (leaves json).Pairwise fun p q => Earlier p.1 q.1 := by
  induction h with
  | object horder _ ih =>
    rw [leaves]
    exact memberLeaves_inOrder horder ih
  | _ =>
    rw [leaves_of_ne_object (by simp)]
    exact List.pairwise_singleton _ _

theorem Leaf.proper {path : List Text} {json leaf : Json} (h : Leaf path json leaf) (hproper : json.Proper) :
    leaf.Proper ∧ ∀ members, leaf ≠ .object members := by
  induction h with
  | here h => exact ⟨hproper, h⟩
  | member hmem _ ih =>
    cases hproper with
    | object _ hvalues => exact ih (hvalues _ hmem)

theorem entryOf_iff {leaf : Json} (hproper : leaf.Proper) (hleaf : ∀ members, leaf ≠ .object members)
    {e : Option Value} : EntryOf leaf e ↔ leafEntry leaf = e := by
  constructor
  · intro h
    cases h with
    | integer h => simp [leafEntry, Value.ofInt?, h]
    | @large i h =>
      have hnot : ¬ (Integer.least ≤ i ∧ i ≤ Integer.greatest) := fun hin => absurd h (Int.not_lt.2 hin.2)
      simp [leafEntry, Value.ofInt?, hnot]
    | _ => rfl
  · rintro rfl
    cases hproper with
    | integer h =>
      rename_i i
      by_cases hin : Integer.least ≤ i ∧ i ≤ Integer.greatest
      · rw [leafEntry, Value.ofInt?, dif_pos hin]
        exact .integer hin
      · rw [leafEntry, Value.ofInt?, dif_neg hin]
        exact .large (by omega)
    | object => exact absurd rfl (hleaf _)
    | null => exact .null
    | bool b => exact .bool b
    | float x => exact .float x
    | string s => exact .string s
    | array => exact .array _

/-! ## What is put -/

/-- The keys of leaves below a path, with their entries. -/
def puts (path : List Text) (leaves : List (List Text × Json)) : List (Text × Option Value) :=
  leaves.map fun p => (pathKey (path ++ p.1), leafEntry p.2)

/-- The key of an object, if it has one. -/
def outerKey : List Text → Option Text
  | [] => none
  | path => some (Text.joinWith ['.'] path)

theorem outerKey_of_ne_nil {path : List Text} (h : path ≠ []) : outerKey path = some (Text.joinWith ['.'] path) := by
  cases path with
  | nil => exact absurd rfl h
  | cons name path => rfl

/-- A member is put under the key of its path. -/
theorem insertMembers_cons (m : ValueMap) (path : List Text) (name : Text) (json : Json)
    (members : List (Text × Json)) : insertMembers m (outerKey path) ((name, json) :: members) =
      insertMembers (insertJson m (Text.joinWith ['.'] (path ++ [name])) json) (outerKey path) members := by
  by_cases h : path = []
  · subst h
    rfl
  · rw [outerKey_of_ne_nil h, insertMembers.eq_def, Text.joinWith_concat h, List.append_assoc]
    rfl

theorem puts_memberLeaves (path : List Text) (name : Text) (json : Json) (members : List (Text × Json)) :
    puts path (memberLeaves ((name, json) :: members)) =
      puts (path ++ [name]) (leaves json) ++ puts path (memberLeaves members) := by
  rw [memberLeaves, puts, List.map_append, List.map_map]
  simp only [puts, Function.comp_def, List.append_assoc, List.singleton_append]

/-- All leaves are put, one after another. -/
theorem insert_eq_puts :
    (∀ json m path, path ≠ [] → insertJson m (Text.joinWith ['.'] path) json =
      (puts path (leaves json)).foldl (fun m p => m.put p.1 p.2) m) ∧
    (∀ members m path, insertMembers m (outerKey path) members =
      (puts path (memberLeaves members)).foldl (fun m p => m.put p.1 p.2) m) := by
  refine leaves.mutual_induct _ _ ?object ?leaf ?nil ?cons
  case object =>
    intro members ih m path h
    rw [insertJson, leaves, ← outerKey_of_ne_nil h, ih]
  case leaf =>
    intro json hjson m path h
    rw [leaves_of_ne_object hjson, puts, List.map_singleton, List.append_nil, insertJson]
    · rfl
    · exact hjson
  case nil =>
    intro m path
    rfl
  case cons =>
    intro name json members ihjson ihmembers m path
    have hpath : path ++ [name] ≠ [] := List.append_ne_nil_of_right_ne_nil _ (List.cons_ne_nil _ _)
    rw [insertMembers_cons, ihmembers, ihjson _ _ hpath, puts_memberLeaves, List.foldl_append]

theorem lookup_insertMembers (members : List (Text × Json)) (k : Text) :
    (insertMembers empty none members).entries.lookup k = (puts [] (memberLeaves members)).reverse.lookup k := by
  have hputs := insert_eq_puts.2 members empty []
  rw [outerKey] at hputs
  rw [hputs, lookup_foldl_put]
  exact Option.or_none

/-! ## The last leaf of a key -/

instance : Std.Asymm Earlier :=
  have : Std.Asymm fun a b : Text => Text.before a b = true :=
    ⟨fun _ _ h h' => Bool.false_ne_true ((Text.before_asymm h).symm.trans h')⟩
  inferInstanceAs (Std.Asymm (List.Lex _))

/-- Of the leaves with one key the last decides. -/
theorem lookup_reverse_puts {found : List (List Text × Json)} (h : found.Pairwise fun p q => Earlier p.1 q.1)
    {k : Text} {e : Option Value} : (puts [] found).reverse.lookup k = some e ↔ ∃ p ∈ found,
      pathKey p.1 = k ∧ leafEntry p.2 = e ∧ ∀ q ∈ found, pathKey q.1 = k → q.1 = p.1 ∨ Earlier q.1 p.1 := by
  induction found using List.reverseRecOn with
  | nil => simp [puts]
  | append_singleton found p ih =>
    obtain ⟨hfound, -, hlast⟩ := List.pairwise_append.1 h
    have hlast : ∀ q ∈ found, Earlier q.1 p.1 := fun q hq => hlast q hq p (List.mem_singleton_self p)
    have hputs : puts [] (found ++ [p]) = puts [] found ++ [(pathKey p.1, leafEntry p.2)] := by simp [puts]
    rw [hputs, List.reverse_append, List.reverse_singleton, List.singleton_append, Text.lookup_cons]
    split
    next hk =>
      -- The last leaf has the key, and all others come before it.
      constructor
      · intro he
        refine ⟨p, by simp, hk.symm, Option.some.inj he, fun q hq _ => ?_⟩
        rcases List.mem_append.1 hq with hq | hq
        · exact .inr (hlast q hq)
        · exact .inl (congrArg Prod.fst (List.mem_singleton.1 hq))
      · rintro ⟨q, hq, -, rfl, hmax⟩
        rcases List.mem_append.1 hq with hq | hq
        · have hearlier := hlast q hq
          rcases hmax p (by simp) hk.symm with heq | hlater
          · rw [heq] at hearlier
            exact absurd hearlier (Std.Asymm.asymm _ _ hearlier)
          · exact absurd hlater (Std.Asymm.asymm _ _ hearlier)
        · rw [List.mem_singleton.1 hq]
    next hk =>
      have hother : pathKey p.1 ≠ k := Ne.symm hk
      rw [ih hfound]
      simp only [List.mem_append, List.mem_singleton, or_imp, forall_and, forall_eq, or_and_right, exists_or,
        exists_eq_left, hother, false_and, or_false, false_imp_iff, and_true]

/-- No other leaf with the key of the path comes after it. -/
def IsLast (json : Json) (path : List Text) : Prop :=
  ∀ other leaf, Leaf other json leaf → pathKey other = pathKey path → other = path ∨ Earlier other path

/-- **The map of a document.** An object gives a map whose keys are those of the paths of its leaves, each of them
once. The entry of a key is that of the leaf whose path is the last one with this key. What is no object gives no
map. -/
theorem ofJson_leaves {json : Json} (hproper : json.Proper) :
    (∀ members, json = .object members → ∃ m, ofJson json = .ok m ∧ (m.entries.map Prod.fst).Nodup ∧
      (∀ k, k ∈ m.entries.map Prod.fst ↔ ∃ path leaf, Leaf path json leaf ∧ pathKey path = k) ∧
      ∀ k e, (k, e) ∈ m.entries ↔
        ∃ path leaf, Leaf path json leaf ∧ IsLast json path ∧ pathKey path = k ∧ EntryOf leaf e) ∧
    ((∀ members, json ≠ .object members) → ofJson json = .error .valuesNotObject ∧
      Fault.message .valuesNotObject = "Invalid input: tag values must be a JSON object".toList) := by
  refine ⟨?object, fun h => ⟨?other, rfl⟩⟩
  case other =>
    cases json with
    | object members => exact absurd rfl (h members)
    | _ => rfl
  case object =>
    rintro members rfl
    refine ⟨_, rfl, (insertMembers empty none members).distinct, fun k => ?_, fun k e => ?_⟩
    · simp only [Text.mem_keys_iff_isSome_lookup, lookup_insertMembers, ← mem_leaves]
      rw [← Text.mem_keys_iff_isSome_lookup, List.map_reverse, List.mem_reverse, puts, List.map_map, List.mem_map,
        leaves]
      exact Prod.exists
    · have hentry : ∀ {path leaf}, Leaf path (.object members) leaf → (leafEntry leaf = e ↔ EntryOf leaf e) :=
        fun h => (entryOf_iff (h.proper hproper).1 (h.proper hproper).2).symm
      rw [← Text.lookup_eq_some_iff_mem (insertMembers empty none members).distinct, lookup_insertMembers, ← leaves,
        lookup_reverse_puts (leaves_inOrder hproper)]
      simp only [Prod.exists, Prod.forall, mem_leaves]
      refine exists₂_congr fun path leaf => and_congr_right fun hleaf => ?_
      rw [hentry hleaf]
      constructor
      · rintro ⟨rfl, he, hlast⟩
        exact ⟨hlast, rfl, he⟩
      · rintro ⟨hlast, rfl, he⟩
        exact ⟨rfl, he, hlast⟩

/-- Two members differ in the case of their names, and the key of one is the path of the other: what stands behind
the capital goes first, and null stays. -/
theorem ofJson_leaves_collision :
    let json : Json := .object [(['A'], .object [(['b'], .integer 1), (['c'], .object [])]), ("a.B".toList, .null)]
    json.Proper ∧ ∃ m, ofJson json = .ok m ∧ (m.entries.map Prod.fst).Nodup ∧ ("a.b".toList, none) ∈ m.entries := by
  intro json
  have hread : Json.read "\x7b\"a.B\":null,\"A\":\x7b\"c\":\x7b\x7d,\"b\":1\x7d\x7d".toList = .ok json := by cbv
  have hproper : json.Proper := Json.proper_of_read hread
  obtain ⟨m, hm, hnodup, -, hentries⟩ := (ofJson_leaves hproper).1 _ rfl
  refine ⟨hproper, m, hm, hnodup, (hentries _ _).2 ⟨["a.B".toList], .null, ?_, ?_, ?_, .null⟩⟩
  · exact .member (List.mem_cons_of_mem _ (List.mem_singleton_self _)) (.here (by simp))
  · intro other leaf hleaf _
    have hall : leaves json = [([['A'], ['b']], .integer 1), (["a.B".toList], .null)] := rfl
    rw [← mem_leaves, hall] at hleaf
    simp only [List.mem_cons, Prod.mk.injEq, List.not_mem_nil, or_false] at hleaf
    rcases hleaf with ⟨rfl, -⟩ | ⟨rfl, -⟩
    · exact .inr (List.Lex.rel rfl)
    · exact .inl rfl
  · decide +kernel

end ValueMap

end Placeholder
