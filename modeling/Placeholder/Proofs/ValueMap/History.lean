/-
A map of values is what was written to it. Every map comes about from the empty one by insertions, removals, and
entries taken over from pairs or from another map; its log lists what each of them wrote, the last one first. The
map answers to every key with the last write to that key, in whatever case the key was spelled
(`map_refines_log`).

Taking over the entries of another map writes its keys as they are stored, without lowering them again. That this
makes no second key of one that is there already rests on the keys of every map being in lower case
(`History.keysLowered`).
-/
import Mathlib.Data.Set.Card
import Placeholder.Proofs.Unicode.Lowering
import Placeholder.Proofs.ValueMap.Entries

namespace Placeholder

namespace ValueMap

/-! ## Histories -/

/-- How a map came about. -/
inductive History
  | empty
  /-- An insertion, in place or in the style of a builder. -/
  | insert (before : History) (key : Text) (v : Value)
  | insertNull (before : History) (key : Text)
  | remove (before : History) (key : Text)
  /-- All entries of another map, which has a history of its own. -/
  | merge (before other : History)
  | extend (before : History) (pairs : List (Text × Value))
  /-- A new map from pairs. -/
  | collect (pairs : List (Text × Value))

/-- The map that has come about. -/
def History.map : History → ValueMap
  | empty => .empty
  | insert before key v => before.map.insert key v
  | insertNull before key => before.map.insertNull key
  | remove before key => before.map.erase key
  | merge before other => before.map.merge other.map
  | extend before pairs => before.map.extend pairs
  | collect pairs => .ofList pairs

/-! ## Logs -/

/-- What is written under a key. -/
inductive Write
  | put (entry : Option Value)
  | removal

/-- The entry that a write leaves. -/
def Write.entry? : Write → Option (Option Value)
  | put entry => some entry
  | removal => none

/-- Writes with their keys as they were spelled, the last write first. -/
abbrev Log := List (Text × Write)

namespace Log

/-- The last write to a key in any spelling. -/
def last? : Log → Text → Option Write
  | [], _ => none
  | (k, w) :: earlier, key => if Unicode.toLower key = Unicode.toLower k then some w else last? earlier key

/-- The entry that the last write to a key left. -/
def entry? (log : Log) (key : Text) : Option (Option Value) := (log.last? key).bind Write.entry?

/-- The entries that no later write has replaced or removed, as writes. -/
def standing : Log → Log
  | [] => []
  | (key, w) :: earlier =>
    let others := (standing earlier).filter fun p => Unicode.toLower p.1 ≠ Unicode.toLower key
    match w with
    | .put entry => (key, .put entry) :: others
    | .removal => others

/-- Pairs that are inserted one after another. -/
def ofPairs (pairs : List (Text × Value)) : Log := (pairs.map fun p => (p.1, .put (some p.2))).reverse

end Log

/-- What was written. Another map writes what stands in it, and no removals. -/
def History.log : History → Log
  | empty => []
  | insert before key v => (key, .put (some v)) :: before.log
  | insertNull before key => (key, .put none) :: before.log
  | remove before key => (key, .removal) :: before.log
  | merge before other => other.log.standing ++ before.log
  | extend before pairs => Log.ofPairs pairs ++ before.log
  | collect pairs => Log.ofPairs pairs

namespace Log

theorem last?_append (later earlier : Log) (key : Text) :
    last? (later ++ earlier) key = (later.last? key).or (earlier.last? key) := by
  induction later with
  | nil => rfl
  | cons p later ih =>
    rw [List.cons_append, last?, last?, ih]
    split <;> rfl

theorem last?_filter (log : Log) (gone key : Text) :
    last? (log.filter fun p => Unicode.toLower p.1 ≠ Unicode.toLower gone) key =
      if Unicode.toLower key = Unicode.toLower gone then none else log.last? key := by
  induction log with
  | nil => simp [last?]
  | cons p log ih =>
    rw [List.filter_cons, last?]
    by_cases hp : Unicode.toLower p.1 = Unicode.toLower gone
    · simp only [hp, ne_eq, not_true_eq_false, decide_false, Bool.false_eq_true, if_false, ih]
      split <;> rfl
    · simp only [hp, ne_eq, not_false_eq_true, decide_true, if_true, last?, ih]
      by_cases hkey : Unicode.toLower key = Unicode.toLower p.1
      · simp [hkey, hp]
      · simp [hkey]

/-- What stands under a key is what the last write put there. -/
theorem last?_standing (log : Log) (key : Text) : log.standing.last? key = (log.entry? key).map .put := by
  induction log with
  | nil => rfl
  | cons p earlier ih =>
    obtain ⟨k, w⟩ := p
    have hothers := last?_filter (standing earlier) k key
    rw [Log.entry?, last?]
    cases w with
    | put entry =>
      rw [standing, last?, hothers, ih]
      split <;> rfl
    | removal =>
      rw [standing, hothers, ih]
      split <;> rfl

theorem entry?_cons (k : Text) (w : Write) (log : Log) (key : Text) :
    entry? ((k, w) :: log) key =
      if Unicode.toLower key = Unicode.toLower k then w.entry? else log.entry? key := by
  rw [Log.entry?, last?]
  split <;> rfl

/-- Entries that are put hide what was written before, and leave it where there are none. -/
theorem entry?_append_of_put {later : Log} {shown : Option (Option Value)} {key : Text}
    (h : later.last? key = shown.map .put) (earlier : Log) :
    Log.entry? (later ++ earlier) key = shown.or (earlier.entry? key) := by
  rw [Log.entry?, last?_append, h]
  cases shown <;> rfl

theorem entry?_standing_append (other before : Log) (key : Text) :
    entry? (other.standing ++ before) key = (other.entry? key).or (before.entry? key) :=
  entry?_append_of_put (last?_standing other key) before

theorem ofPairs_cons (p : Text × Value) (pairs : List (Text × Value)) :
    ofPairs (p :: pairs) = ofPairs pairs ++ [(p.1, .put (some p.2))] := by
  simp [ofPairs]

end Log

/-! ## The map and the log -/

theorem entry?_extend (pairs : List (Text × Value)) {m : ValueMap} {log : Log}
    (h : ∀ key, m.entry? key = log.entry? key) (key : Text) :
    ValueMap.entry? (m.extend pairs) key = Log.entry? (Log.ofPairs pairs ++ log) key := by
  induction pairs generalizing m log with
  | nil => exact h key
  | cons p pairs ih =>
    rw [extend_cons, Log.ofPairs_cons, List.append_assoc]
    refine ih (fun k => ?_)
    rw [entry?_insert, List.singleton_append, Log.entry?_cons, h]
    rfl

/-- **The map holds under a key what was last written there.** -/
theorem History.entry?_map (h : History) (key : Text) : h.map.entry? key = h.log.entry? key := by
  induction h generalizing key with
  | empty => rfl
  | insert before k v ih => rw [map, log, entry?_insert, Log.entry?_cons, ih]; rfl
  | insertNull before k ih => rw [map, log, entry?_insertNull, Log.entry?_cons, ih]; rfl
  | remove before k ih => rw [map, log, entry?_erase, Log.entry?_cons, ih]; rfl
  | merge before other ih ihother => rw [map, log, entry?_merge, Log.entry?_standing_append, ih, ihother]
  | extend before pairs ih => exact entry?_extend pairs ih key
  | collect pairs =>
    have hempty : ∀ key, ValueMap.empty.entry? key = Log.entry? [] key := fun _ => rfl
    rw [map, log, ofList, entry?_extend pairs hempty, List.append_nil]

/-! ## Keys in lower case -/

/-- All keys of the map are in lower case. -/
def KeysLowered (m : ValueMap) : Prop := ∀ k ∈ m.entries.map Prod.fst, Unicode.toLower k = k

namespace KeysLowered

variable {m other : ValueMap}

theorem empty : KeysLowered .empty := fun _ hk => absurd hk (List.not_mem_nil)

theorem put (h : m.KeysLowered) {key : Text} (hkey : Unicode.toLower key = key) (entry : Option Value) :
    (m.put key entry).KeysLowered := by
  intro k hk
  rcases mem_keys_putEntry.1 hk with rfl | hk
  · exact hkey
  · exact h k hk

theorem insert (h : m.KeysLowered) (key : Text) (v : Value) : (m.insert key v).KeysLowered :=
  h.put (Unicode.toLower_toLower key) (some v)

theorem erase (h : m.KeysLowered) (key : Text) : (m.erase key).KeysLowered :=
  fun k hk => h k ((List.filter_sublist.map _).subset hk)

theorem extend (h : m.KeysLowered) (pairs : List (Text × Value)) : (m.extend pairs).KeysLowered := by
  induction pairs generalizing m with
  | nil => exact h
  | cons p pairs ih => exact ih (h.insert p.1 p.2)

/-- The keys of the other map are put as they are, in lower case. -/
theorem merge (h : m.KeysLowered) (hother : other.KeysLowered) : (m.merge other).KeysLowered := by
  have hfold : ∀ es : List (Text × Option Value), (∀ p ∈ es, Unicode.toLower p.1 = p.1) → ∀ m : ValueMap,
      m.KeysLowered → (es.foldl (fun m p => m.put p.1 p.2) m).KeysLowered := by
    intro es
    induction es with
    | nil => exact fun _ _ hm => hm
    | cons p es ih =>
      intro hes m hm
      obtain ⟨hp, hes⟩ := List.forall_mem_cons.1 hes
      exact ih hes _ (hm.put hp p.2)
  exact hfold other.entries (fun p hp => hother p.1 (List.mem_map_of_mem hp)) m h

end KeysLowered

theorem History.keysLowered (h : History) : h.map.KeysLowered := by
  induction h with
  | empty => exact .empty
  | insert before key v ih => exact ih.insert key v
  | insertNull before key ih => exact ih.put (Unicode.toLower_toLower key) none
  | remove before key ih => exact ih.erase key
  | merge before other ih ihother => exact ih.merge ihother
  | extend before pairs ih => exact ih.extend pairs
  | collect pairs => exact KeysLowered.empty.extend pairs

/-- Where keys are in lower case, the size counts the keys that are there in some spelling. -/
theorem KeysLowered.size_eq {m : ValueMap} (h : m.KeysLowered) :
    m.size = {k | ∃ key, Unicode.toLower key = k ∧ m.contains key = true}.ncard := by
  have hkeys : {k | ∃ key, Unicode.toLower key = k ∧ m.contains key = true} = (m.entries.map Prod.fst).toFinset := by
    ext k
    simp only [Set.mem_ofPred_eq, List.coe_toFinset, contains, entry?, ← Text.mem_keys_iff_isSome_lookup]
    constructor
    · rintro ⟨key, rfl, hkey⟩
      exact hkey
    · intro hk
      exact ⟨k, h k hk, (h k hk).symm ▸ hk⟩
  rw [hkeys, Set.ncard_coe_finset, List.toFinset_card_of_nodup m.distinct, List.length_map, size]

/-- **A map refines its log.** Under each key, in any spelling, it holds what the last write to the key left: the
key is there if that was no removal, and it has a value if that was one. An insertion and a removal give back the
entry that they end, every entry of a map that is taken over comes before those that were there, and the size is
the number of the keys that are there, in lower case. -/
theorem map_refines_log (h : History) :
    (∀ key, h.map.contains key = true ↔ ∃ entry, h.log.last? key = some (.put entry)) ∧
    (∀ key v, h.map.get? key = some v ↔ h.log.last? key = some (.put (some v))) ∧
    (∀ key v, h.map.exchange key (some v) = (h.log.entry? key, (h.insert key v).map)) ∧
    (∀ key, h.map.exchange key none = (h.log.entry? key, (h.insertNull key).map)) ∧
    (∀ key, h.map.take key = (h.log.entry? key, (h.remove key).map)) ∧
    (∀ other key, ValueMap.entry? (h.merge other).map key = (other.map.entry? key).or (h.map.entry? key)) ∧
    h.map.size = {k | ∃ key, Unicode.toLower key = k ∧ ∃ entry, h.log.last? key = some (.put entry)}.ncard := by
  have hcontains : ∀ key, h.map.contains key = true ↔ ∃ entry, h.log.last? key = some (.put entry) := by
    intro key
    rw [contains, h.entry?_map, Log.entry?]
    cases h.log.last? key with
    | none => simp
    | some w => cases w <;> simp [Write.entry?]
  refine ⟨hcontains, fun key v => ?value, fun key v => ?insert, fun key => ?insertNull, fun key => ?remove,
    fun other key => entry?_merge h.map other.map key, ?size⟩
  case value =>
    rw [get?, h.entry?_map, Log.entry?]
    cases h.log.last? key with
    | none => simp
    | some w => cases w <;> simp [Write.entry?]
  case insert | insertNull | remove =>
    rw [← h.entry?_map]
    rfl
  case size => simp only [h.keysLowered.size_eq, hcontains]

/-- A null entry that is taken over hides the value of the key in another case. -/
example :
    let h := (History.empty.insert ['K'] (.boolean true)).merge ((History.empty.insertNull ['k']).remove ['j'])
    h.map.contains ['k'] = true ∧ h.map.get? ['K'] = none ∧ h.map.size = 1 := ⟨rfl, rfl, rfl⟩

end ValueMap

end Placeholder
