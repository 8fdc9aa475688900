/-
The entry of a key after each operation on a map of values. A map is reached through keys in lower case, so an
operation on a key concerns all keys that are lowered to the same, and leaves the entries of all others alone.
-/
import Mathlib.Data.List.Nodup
import Placeholder.Proofs.Text
import Placeholder.ValueMap

namespace Placeholder

namespace ValueMap

/-! ## Entries that are put one after another -/

theorem lookup_putEntry (key : Text) (entry : Option Value) (es : List (Text × Option Value)) (k : Text) :
    (putEntry key entry es).lookup k = if k = key then some entry else es.lookup k := by
  induction es with
  | nil => rw [putEntry, Text.lookup_cons]
  | cons p es ih =>
    rw [putEntry]
    split
    next h =>
      rw [Text.lookup_cons, Text.lookup_cons, h]
      split <;> rfl
    next h =>
      rw [Text.lookup_cons, Text.lookup_cons, ih]
      split
      next hk => rw [if_neg fun hkey => h (hk.symm.trans hkey)]
      next => rfl

/-- Of the entries that are put, the last one of a key stays. -/
theorem lookup_foldl_put (puts : List (Text × Option Value)) (m : ValueMap) (k : Text) :
    (puts.foldl (fun m p => m.put p.1 p.2) m).entries.lookup k = (puts.reverse.lookup k).or (m.entries.lookup k) := by
  induction puts generalizing m with
  | nil => rfl
  | cons p puts ih =>
    rw [List.foldl_cons, ih, List.reverse_cons, List.lookup_append, Option.or_assoc, put, lookup_putEntry,
      Text.lookup_cons]
    split <;> rfl

/-! ## The entry of a key after an operation -/

theorem entry?_empty (key : Text) : empty.entry? key = none := rfl

theorem entry?_put (m : ValueMap) (k : Text) (entry : Option Value) (key : Text) :
    ValueMap.entry? (m.put k entry) key = if Unicode.toLower key = k then some entry else m.entry? key :=
  lookup_putEntry k entry m.entries (Unicode.toLower key)

theorem entry?_insert (m : ValueMap) (k : Text) (v : Value) (key : Text) :
    ValueMap.entry? (m.insert k v) key = if Unicode.toLower key = Unicode.toLower k then some (some v) else m.entry? key :=
  entry?_put m (Unicode.toLower k) (some v) key

theorem entry?_insertNull (m : ValueMap) (k key : Text) :
    ValueMap.entry? (m.insertNull k) key = if Unicode.toLower key = Unicode.toLower k then some none else m.entry? key :=
  entry?_put m (Unicode.toLower k) none key

theorem lookup_filter_ne (gone k : Text) (es : List (Text × Option Value)) :
    (es.filter fun p => p.1 != gone).lookup k = if k = gone then none else es.lookup k := by
  induction es with
  | nil => simp
  | cons p es ih =>
    rw [List.filter_cons, Text.lookup_cons]
    by_cases hp : p.1 = gone
    · simp only [hp, bne_self_eq_false, Bool.false_eq_true, if_false, ih]
      split <;> rfl
    · simp only [bne_iff_ne.2 hp, if_true, Text.lookup_cons, ih]
      by_cases hk : k = p.1
      · simp [hk, hp]
      · simp [hk]

theorem entry?_erase (m : ValueMap) (k key : Text) :
    ValueMap.entry? (m.erase k) key = if Unicode.toLower key = Unicode.toLower k then none else m.entry? key :=
  lookup_filter_ne (Unicode.toLower k) (Unicode.toLower key) m.entries

/-- Every entry of the other map comes before, also one that is null. -/
theorem entry?_merge (m other : ValueMap) (key : Text) :
    ValueMap.entry? (m.merge other) key = (other.entry? key).or (m.entry? key) := by
  have hreverse : ∀ k, other.entries.reverse.lookup k = other.entries.lookup k := by
    intro k
    have hnodup : (other.entries.reverse.map Prod.fst).Nodup := by
      rw [List.map_reverse, List.nodup_reverse]
      exact other.distinct
    refine Option.ext fun entry => ?_
    rw [Text.lookup_eq_some_iff_mem hnodup, Text.lookup_eq_some_iff_mem other.distinct, List.mem_reverse]
  rw [ValueMap.entry?, merge, lookup_foldl_put, hreverse]
  rfl

theorem extend_cons (m : ValueMap) (p : Text × Value) (pairs : List (Text × Value)) :
    m.extend (p :: pairs) = (m.insert p.1 p.2).extend pairs := rfl

end ValueMap

end Placeholder
