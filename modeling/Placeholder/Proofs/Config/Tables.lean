/-
Tables of texts. Where no two names are the same up to the case of ASCII letters, a key has one entry at most
(`find?_eq_some_iff`), so it does not matter in which order a table is searched. An object of texts answers like a
table: a key with separators would have to lead on from a text, and nothing is below a text (`lookup_texts`).
-/
import Placeholder.Proofs.Config.Paths

namespace Placeholder

namespace Config

section Entries

variable {α : Type} {entries table : List (Text × α)}

/-- No two names are the same up to the case of ASCII letters. -/
def Distinct (entries : List (Text × α)) : Prop :=
  entries.Pairwise fun p q => Text.sameUpToAsciiCase p.1 q.1 = false

instance (entries : List (Text × α)) : Decidable (Distinct entries) := by
  unfold Distinct
  infer_instance

theorem sameUpToAsciiCase_symm : Std.Symm fun p q : Text × α => Text.sameUpToAsciiCase p.1 q.1 = false := by
  constructor
  intro p q h
  rw [Text.sameUpToAsciiCase, Bool.beq_comm]
  exact h

/-- An entry is told by its name up to case. -/
theorem Distinct.eq_of_same (h : Distinct entries) {p q : Text × α} (hp : p ∈ entries) (hq : q ∈ entries)
    (hsame : Text.sameUpToAsciiCase p.1 q.1 = true) : p = q := by
  have hsymm : Std.Symm fun p q : Text × α => Text.sameUpToAsciiCase p.1 q.1 = false := sameUpToAsciiCase_symm
  by_contra hne
  rw [h.forall hp hq hne] at hsame
  cases hsame

theorem Distinct.perm (h : Distinct entries) (hperm : table.Perm entries) : Distinct table :=
  (hperm.pairwise_iff fun hpq => sameUpToAsciiCase_symm.symm _ _ hpq).2 h

theorem Distinct.map {β : Type} (h : Distinct entries) (f : α → β) :
    Distinct (entries.map fun p => (p.1, f p.2)) := List.pairwise_map.2 h

theorem Distinct.nodup (h : Distinct entries) : (entries.map Prod.fst).Nodup := by
  refine List.pairwise_map.2 (h.imp ?_)
  intro p q hpq heq
  simp [Text.sameUpToAsciiCase, heq] at hpq

/-- **What a key leads to** is the entry with that name up to case. -/
theorem find?_eq_some_iff (h : Distinct entries) {key : Text} {a : α} :
    find? entries key = some a ↔ ∃ name, (name, a) ∈ entries ∧ Text.sameUpToAsciiCase name key = true := by
  constructor
  · exact mem_of_find?
  · intro hentry
    obtain ⟨name, hmem, hname⟩ := hentry
    cases hfind : find? entries key with
    | none =>
      rw [find?_eq_none_iff.1 hfind _ hmem] at hname
      cases hname
    | some found =>
      obtain ⟨other, hother, hsame⟩ := mem_of_find? hfind
      have hnames : Text.sameUpToAsciiCase name other = true := by
        simp only [Text.sameUpToAsciiCase, beq_iff_eq] at hname hsame ⊢
        rw [hname, hsame]
      rw [← (Prod.mk.inj (h.eq_of_same hmem hother hnames)).2]

/-- The order of the entries does not matter. -/
theorem find?_perm (h : Distinct entries) (hperm : table.Perm entries) (key : Text) :
    find? table key = find? entries key := by
  ext a
  rw [find?_eq_some_iff (h.perm hperm), find?_eq_some_iff h]
  simp only [hperm.mem_iff]

theorem find?_map {β : Type} (f : α → β) (entries : List (Text × α)) (key : Text) :
    find? (entries.map fun p => (p.1, f p.2)) key = (find? entries key).map f := by
  have hlookup : (entries.map fun p => (p.1, f p.2)).lookup key = (entries.lookup key).map f := by
    induction entries with
    | nil => rfl
    | cons p entries ih =>
      rw [List.map_cons, Text.lookup_cons, Text.lookup_cons, ih]
      split <;> rfl
  unfold find?
  rw [hlookup, List.find?_map, Option.map_or, Option.map_map, Option.map_map]
  rfl

end Entries

/-! ## Tables in the order of their names -/

theorem insertSorted_perm {name value : Text} {entries : List (Text × Text)} (h : name ∉ entries.map Prod.fst) :
    (insertSorted name value entries).Perm ((name, value) :: entries) := by
  induction entries with
  | nil => exact List.Perm.refl _
  | cons p entries ih =>
    obtain ⟨n, v⟩ := p
    simp only [List.map_cons, List.mem_cons, not_or] at h
    unfold insertSorted
    rw [if_neg (Ne.symm h.1)]
    split
    · exact List.Perm.refl _
    · exact ((ih h.2).cons (n, v)).trans (List.Perm.swap ..)

/-- A table in the order of its names has the same entries. -/
theorem sorted_perm {entries : List (Text × Text)} (h : (entries.map Prod.fst).Nodup) :
    (sorted entries).Perm entries := by
  have hfold : ∀ es : List (Text × Text), ((entries ++ es).map Prod.fst).Nodup →
      (entries.foldl (fun es p => insertSorted p.1 p.2 es) es).Perm (entries ++ es) := by
    clear h
    induction entries with
    | nil => exact fun es _ => List.Perm.refl es
    | cons p entries ih =>
      intro es h
      have hinsert : (insertSorted p.1 p.2 es).Perm (p :: es) := by
        refine insertSorted_perm ?_
        simp only [List.cons_append, List.map_cons, List.map_append, List.nodup_cons, List.mem_append, not_or] at h
        exact h.1.2
      have hmiddle : (entries ++ insertSorted p.1 p.2 es).Perm (p :: (entries ++ es)) :=
        (hinsert.append_left entries).trans List.perm_middle
      exact (ih _ ((hmiddle.map Prod.fst).nodup_iff.2 h)).trans hmiddle
  have hall := hfold [] (by simpa using h)
  rw [List.append_nil] at hall
  exact hall

end Config

namespace Section

/-- An object of texts is a table: a key of several names would have to lead on from a text. -/
theorem lookup_texts {members : List (Text × Json)} (h : ∀ p ∈ members, ∃ v, p.2 = .string v) (key : Text) :
    lookup ⟨.object members⟩ key = (Config.find? members key).bind scalarText? := by
  by_cases hplain : IsPlain key
  · rw [lookup, resolve, segments_of_isPlain hplain, walk_singleton, Option.or_self]
    rfl
  · obtain ⟨first, second, rest, hsegments⟩ : ∃ first second rest, segments key = first :: second :: rest := by
      have hlength : (segments key).length = key.countP isSeparator + 1 := Text.length_splitOn _ _
      have hpos : 0 < key.countP isSeparator := by
        rw [List.countP_pos_iff]
        simpa [IsPlain] using hplain
      cases hsegments : segments key with
      | nil => simp [hsegments] at hlength
      | cons first others =>
        cases others with
        | nil =>
          rw [hsegments, List.length_singleton] at hlength
          omega
        | cons second rest => exact ⟨first, second, rest, rfl⟩
    have hwalk : walk (segments key) (.object members) = none := by
      rw [hsegments, walk]
      cases hfirst : member? first (.object members) with
      | none => rfl
      | some v =>
        obtain ⟨name, hmem, -⟩ := Config.mem_of_find? hfirst
        obtain ⟨text, rfl⟩ := h _ hmem
        rfl
    rw [lookup, resolve, hwalk, Option.or_none]
    rfl

end Section

namespace Config

/-- **Tables and flat objects agree.** If no two names are the same up to the case of ASCII letters, a key is answered
alike by the table in any order, by the table in the order of its names, and by the object that has these texts as its
members, in any order: with the text of the entry whose name is the key up to case, if there is one. This holds for all
keys, also for those with separators, which an object takes for a path. -/
theorem lookup_flat {entries : List (Text × Text)} (h : Distinct entries) (key : Text) :
    ∃ answer : Option Text,
      (∀ v, answer = some v ↔ ∃ name, (name, v) ∈ entries ∧ Text.sameUpToAsciiCase name key = true) ∧
      (∀ table, table.Perm entries → ofTable table key = answer) ∧
      ofSortedTable entries key = answer ∧
      ∀ members, members.Perm (entries.map fun p => (p.1, Json.string p.2)) →
        Section.lookup ⟨.object members⟩ key = answer := by
  refine ⟨find? entries key, fun v => find?_eq_some_iff h, fun table hperm => find?_perm h hperm key,
    find?_perm h (sorted_perm h.nodup) key, ?_⟩
  intro members hperm
  have htexts : ∀ p ∈ members, ∃ v, p.2 = .string v := by
    intro p hp
    obtain ⟨q, -, rfl⟩ := List.mem_map.1 (hperm.mem_iff.1 hp)
    exact ⟨q.2, rfl⟩
  rw [Section.lookup_texts htexts, find?_perm (h.map Json.string) hperm, find?_map]
  cases find? entries key <;> rfl

/-- Keys with separators, in letters of another case, and without any letter. -/
theorem lookup_flat_separators :
    let entries : List (Text × Text) := [("b:C".toList, ['1']), ([], ['2']), ("b".toList, ['3'])]
    Distinct entries ∧ ofTable entries.reverse "B:c".toList = some ['1'] ∧
      ofSortedTable entries "B:c".toList = some ['1'] ∧
      Section.lookup ⟨.object (entries.map fun p => (p.1, Json.string p.2))⟩ "B:c".toList = some ['1'] := by
  intro entries
  have hdistinct : Distinct entries := by decide
  obtain ⟨answer, hanswer, htable, hsorted, hobject⟩ := lookup_flat hdistinct "B:c".toList
  obtain rfl : answer = some ['1'] := (hanswer ['1']).2 ⟨"b:C".toList, List.mem_cons_self .., by decide⟩
  exact ⟨hdistinct, htable _ entries.reverse_perm, hsorted, hobject _ (List.Perm.refl _)⟩

end Config

end Placeholder
