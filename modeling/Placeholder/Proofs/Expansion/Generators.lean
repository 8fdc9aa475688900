/-
What becomes of a tag of a generator. Its arguments are looked for in the tag without its marker, from the opening
on: a clause that spells arguments is found first, so these are what the generator draws with.

Honestly told, they are looked for and not asked of the tag as a whole. A clause that is none of the generator's can
end in a tag of the generator, which then is found, and lends its arguments. Only a clause that neither spells
arguments nor ends in such a tag is malformed (`resolveTag_generator`).
-/
import Placeholder.Proofs.Expansion.Draws
import Placeholder.Proofs.Expansion.Faults
import Placeholder.Proofs.Tag.Arguments

namespace Placeholder.Builder

open Pattern Clause

variable {b : Builder} {s : Sources} {g : Tag} {α : Type}

/-- A tag whose text, before the cipher, is that of a step. -/
def Becomes (b : Builder) (s : Sources) (g : Tag) (m : Run Text) : Prop :=
  resolveTag b s g = do
    let value ← m
    return some (← wrapSecret b.options s.cipher (Secret.stripMarker g.key).1 g.raw value (Secret.stripMarker g.key).2)

/-- A tag with the key of a generator is malformed exactly if its clause neither spells arguments nor ends in a tag
with this key and such a clause. Else the text is drawn with what the clause spells, or with what the first of the
tags spells that it ends in. -/
structure DrawsWith (b : Builder) (s : Sources) (g : Tag) (key clause : Text) (Spells : α → Text → Prop)
    (draw : α → Run Text) : Prop where
  malformed_iff : Errs b s g (.malformedClause g.raw) ↔
    ∀ a, ¬ Spells a clause ∧ ∀ head, ¬ EndsIn key Spells a head clause
  whole : ∀ a, Spells a clause → Becomes b s g (draw a)
  atEnd : ∀ a head, (∀ a', ¬ Spells a' clause) → EndsIn key Spells a head clause →
    (∀ a' head', EndsIn key Spells a' head' clause → head.length ≤ head'.length) → Becomes b s g (draw a)

/-- A tag becomes what its key becomes. -/
theorem becomes_of_resolveKey {m : Run Text}
    (h : resolveKey s g (Secret.stripMarker g.key).1 = do return some (← m)) : Becomes b s g m := by
  rw [Becomes, resolveTag_eq, h]
  simp only [bind_assoc, pure_bind]

theorem errs_of_resolveKey {f : Fault} (h : resolveKey s g (Secret.stripMarker g.key).1 = throw f) :
    Errs b s g f := by
  intro j
  rw [resolveTag_eq, h]
  rfl

theorem Becomes.not_malformed {m : Run Text} (h : Becomes b s g m) (hm : m.FailsWith Fault.OfValue) (clause : Text) :
    ¬ Errs b s g (.malformedClause clause) := by
  intro herrs
  have hfails : (resolveTag b s g).FailsWith Fault.OfValue := by
    rw [h]
    exact .bind hm fun _ => .bind (fun _ _ h => by cases h) fun _ => .pure _
  exact (hfails {} _ (herrs {})).ne_malformedClause clause rfl

variable {p : Pattern} {key : Text} {Spells : α → Text → Prop} {pick : Match → Option α} {draw : α → Run Text}

/-- A key that looks for its arguments in the tag without its marker draws with what the clause gives. -/
theorem drawsWith_of_reads (find : Text → Option α) (hfind : ∀ t, find t = (p.first? none t).bind pick)
    (h : Reads p key Spells pick) (hself : Spelled (opening key) (opening key)) (hdollar : '$' ∉ key)
    (hbracket : ']' ∉ opening key) (hdraw : ∀ a, (draw a).FailsWith Fault.OfValue)
    (hback : Tag.ReadsBack ['$', '{'] ['}'] g) (hkey : (Secret.stripMarker g.key).1 = key)
    (hresolve : resolveKey s g key = match find (bareTag g key) with
      | none => throw (.malformedClause g.raw)
      | some a => do return some (← draw a)) :
    DrawsWith b s g key (g.extended.getD []) Spells draw := by
  have hend := endsOnce_of_readsBack hback hbracket
  have hinside : ∀ {a head}, EndsIn key Spells a head (opening key ++ g.extended.getD []) ↔
      (head = [] ∧ Spells a (g.extended.getD [])) ∨
        ∃ head', head = opening key ++ head' ∧ EndsIn key Spells a head' (g.extended.getD []) :=
    endsIn_opening_iff hdollar hself
  have hbare : find (bareTag g key) = (p.first? none (opening key ++ g.extended.getD [] ++ ['}'])).bind pick :=
    hfind _
  have hbecomes : ∀ {a}, find (bareTag g key) = some a → Becomes b s g (draw a) := fun ha =>
    becomes_of_resolveKey (by rw [hkey, hresolve, ha])
  have hfirst : ∀ {a head}, EndsIn key Spells a head (opening key ++ g.extended.getD []) →
      (∀ a' head', EndsIn key Spells a' head' (opening key ++ g.extended.getD []) → head.length ≤ head'.length) →
      Becomes b s g (draw a) := fun ha hmin => hbecomes (hbare.trans (h.find_eq_some hend ha hmin))
  refine ⟨⟨fun herrs => ?_, fun hnone => ?_⟩, fun a ha => ?_, fun a head hnone ha hmin => ?_⟩
  · have hnot : ∀ a head, ¬ EndsIn key Spells a head (opening key ++ g.extended.getD []) := by
      intro a head ha
      obtain ⟨a', ha'⟩ := Option.ne_none_iff_exists'.1 (h.find_ne_none ha)
      exact (hbecomes (hbare.trans ha')).not_malformed (hdraw a') _ herrs
    exact fun a => ⟨fun ha => hnot a [] (hinside.2 (.inl ⟨rfl, ha⟩)),
      fun head ha => hnot a _ (hinside.2 (.inr ⟨head, rfl, ha⟩))⟩
  · refine errs_of_resolveKey ?_
    rw [hkey, hresolve]
    split
    next => rfl
    next a hfound =>
      obtain ⟨head, hends, -⟩ := h.endsIn_of_find hend (hbare.symm.trans hfound)
      rcases hinside.1 hends with ⟨-, hwhole⟩ | ⟨head', -, hclause⟩
      · exact absurd hwhole (hnone a).1
      · exact absurd hclause ((hnone a).2 head')
  · exact hfirst (hinside.2 (.inl ⟨rfl, ha⟩)) fun _ _ _ => Nat.zero_le _
  · refine hfirst (hinside.2 (.inr ⟨head, rfl, ha⟩)) fun a' head' ha' => ?_
    rcases hinside.1 ha' with ⟨-, hwhole⟩ | ⟨head', rfl, hclause⟩
    · exact absurd hwhole (hnone a')
    · rw [List.length_append, List.length_append]
      exact Nat.add_le_add_left (hmin a' head' hclause) _

/-- **Tags of generators.** A live tag with the key of a generator, with a marker in front of it or without, reads
its arguments from the whole clause; but a clause that spells none is malformed only if it does not end in a tag with
the key of the generator that spells some. -/
theorem resolveTag_generator (b : Builder) (s : Sources) {t : Text} (hg : g ∈ Tag.all Tag.livePattern t) :
    ((Secret.stripMarker g.key).1 = Generator.stringKey →
      DrawsWith b s g Generator.stringKey (g.extended.getD []) StringClause (drawString s.supply)) ∧
    ((Secret.stripMarker g.key).1 = Generator.numberKey →
      DrawsWith b s g Generator.numberKey (g.extended.getD []) NumberClause
        (drawNumber s.supply ((Clause.ofTag g).format.getD []))) := by
  have hback := Tag.readsBack_of_mem_all hg
  refine ⟨fun hkey => ?_, fun hkey => ?_⟩
  · have hself : Spelled (opening Generator.stringKey) (opening Generator.stringKey) :=
      spelled_self (List.all_eq_true.1 (by decide +kernel))
    refine drawsWith_of_reads stringLength? (fun _ => rfl) reads_string hself (by decide) (by decide)
      (drawString_faults _) hback hkey ?_
    rw [resolveKey, if_pos (by decide), resolveReserved, if_pos rfl, generateString_eq]
    cases stringLength? (bareTag g Generator.stringKey) <;> rfl
  · have hself : Spelled (opening Generator.numberKey) (opening Generator.numberKey) :=
      spelled_self (List.all_eq_true.1 (by decide +kernel))
    refine drawsWith_of_reads numberArgs? (fun _ => rfl) reads_number hself (by decide) (by decide)
      (drawNumber_faults _ _) hback hkey ?_
    rw [resolveKey, if_pos (by decide), resolveReserved, if_neg (by decide), if_pos rfl, generateNumber_eq]
    cases numberArgs? (bareTag g Generator.numberKey) <;> rfl

/-- With a marker in front of the key and blanks around the comma, the whole clause is read. -/
theorem resolveTag_generator_secret :
    let g : Tag := ⟨"$\x7bsecret:randomnumber:[1 , 5][format:000]\x7d".toList, "secret:randomnumber".toList,
      some ":[1 , 5][format:000]".toList⟩
    g ∈ Tag.all Tag.livePattern g.raw ∧ (Secret.stripMarker g.key).1 = Generator.numberKey ∧
      Becomes {} {} g (drawNumber (fun _ => 0) ((Clause.ofTag g).format.getD [])
        ⟨['1'], some ['5'], some ['0', '0', '0']⟩) := by
  intro g
  have hall : Tag.segments Tag.livePattern g.raw = [.tag g] := by
    rw [Tag.livePattern_delimited.segments_eq_cut]
    cbv
  have hg : g ∈ Tag.all Tag.livePattern g.raw := by
    rw [Tag.all, hall]
    exact List.mem_singleton_self g
  have hkey : (Secret.stripMarker g.key).1 = Generator.numberKey := by decide +kernel
  have hblank : ∀ c ∈ [' '], Text.isBlank c = true := List.forall_mem_singleton.2 (by decide)
  have hnumeral : ∀ c : Char, Unicode.isDigit c = true → IsNumeral [c] := fun c hc =>
    ⟨List.cons_ne_nil c [], by simpa using hc⟩
  have hclause : NumberClause ⟨['1'], some ['5'], some ['0', '0', '0']⟩ (g.extended.getD []) :=
    .intro (hnumeral '1' (by decide +kernel)) (.some hblank hblank (hnumeral '5' (by decide +kernel)))
      (.some (spelled_self (List.all_eq_true.1 (by decide +kernel))) (by decide))
  exact ⟨hg, hkey, ((resolveTag_generator {} {} hg).2 hkey).whole _ hclause⟩

/-- A clause that is none of the generator's, and ends in a tag of the generator: the number is drawn between the
bounds of that tag. -/
theorem parse_generator_in_clause :
    let g : Tag := ⟨"$\x7brandomnumber:[$\x7brandomnumber:[7,8]\x7d".toList, "randomnumber".toList,
      some ":[$\x7brandomnumber:[7,8]".toList⟩
    g ∈ Tag.all Tag.livePattern g.raw ∧ (∀ args, ¬ NumberClause args (g.extended.getD [])) ∧
      ({} : Builder).parse {} true g.raw = .ok ['7'] := by
  intro g
  have hall : Tag.segments Tag.livePattern g.raw = [.tag g] := by
    rw [Tag.livePattern_delimited.segments_eq_cut]
    cbv
  refine ⟨?_, fun args h => ?_, ?_⟩
  · rw [Tag.all, hall]
    exact List.mem_singleton_self g
  · generalize hclause : g.extended.getD [] = clause at h
    obtain ⟨hmin, -, -⟩ := h
    obtain ⟨c, min, rfl⟩ := List.exists_cons_of_ne_nil hmin.1
    obtain rfl : '$' = c := (List.cons.inj (List.cons.inj (List.cons.inj hclause).2).2).1
    exact absurd (hmin.2 '$' (List.mem_cons_self ..)) (by decide +kernel)
  · have hargs : numberArgs? (bareTag g Generator.numberKey) = some ⟨['7'], some ['8'], none⟩ := by decide +kernel
    have hbecomes : Becomes {} {} g (drawNumber (fun _ => 0) [] ⟨['7'], some ['8'], none⟩) := by
      have hkey : (Secret.stripMarker g.key).1 = Generator.numberKey := by decide +kernel
      have hformat : (Clause.ofTag g).format.getD [] = [] := by decide +kernel
      refine becomes_of_resolveKey ?_
      rw [hkey, resolveKey, if_pos (by decide), resolveReserved, if_neg (by decide), if_pos rfl, hformat,
        generateNumber_eq, hargs]
    have hdrawn : resolveTag {} {} g {} = .ok (some ['7'], ⟨[], 1⟩) := by
      rw [hbecomes]
      rfl
    have hpass : ({} : Builder).substitute {} g.raw {} = .ok (['7'], ⟨[], 1⟩) := by
      rw [substitute, hall, replaceSegments]
      exact Run.bind_ok hdrawn
    have hlive : Tag.all ({} : Builder).pattern g.raw ≠ [] := by
      rw [Tag.all, hall]
      decide
    have hreach : Reaches {} {} 1 g.raw {} ['7'] ⟨[], 1⟩ := .step ⟨hlive, hpass, by decide⟩ .refl
    exact parse_of_reaches_no_dollar rfl (by decide) (by decide) hreach (by decide)

end Placeholder.Builder
