/-
One entry, in the values or in a configuration. Keys of values are lowered by the tables of Unicode, and names of
a configuration are compared up to the case of ASCII letters only; what a tag asks for is lowered by the tables.
So the same entry is found in both places if lowering its key by the tables changes no more than its ASCII
letters, and the runs over the two are then the same (`parse_entry_iff`). Otherwise they are the same only where
the entry is found in neither, since the key begins with a marker or is reserved.
-/
import Placeholder.Proofs.Config.Tables
import Placeholder.Proofs.Expansion.Masking
import Placeholder.Proofs.Expansion.Nesting
import Placeholder.Proofs.Expansion.Precedence

namespace Placeholder

/-! ## Lowering by the tables and by ASCII -/

namespace Unicode

theorem lowerChar_ascii {c : Char} (h : IsLow c.toLower) : lowerChar c = c.toLower ∧ c ≠ 'İ' ∧ c ≠ 'Σ' := by
  rcases Text.toLower_cases c with ⟨i, rfl⟩ | hsame
  · have hall : ∀ i : Fin 26, lowerChar (Char.ofNat (65 + i)) = (Char.ofNat (65 + i)).toLower ∧
        Char.ofNat (65 + i) ≠ 'İ' ∧ Char.ofNat (65 + i) ≠ 'Σ' := by decide
    exact hall i
  · rw [hsame] at h ⊢
    exact ⟨h.fixed, h.notDotted, h.notSigma⟩

/-- If what ASCII leaves of a text is in lower case, the tables leave the same. -/
theorem toLower_eq_asciiLower {t : Text} (h : ∀ c ∈ Text.asciiLower t, IsLow c) : toLower t = Text.asciiLower t := by
  have hafter : ∀ behind, toLowerAfter behind t = Text.asciiLower t := by
    induction t with
    | nil => exact fun _ => rfl
    | cons c t ih =>
      intro behind
      obtain ⟨hlower, hdotted, hsigma⟩ := lowerChar_ascii (h c.toLower (List.mem_cons_self ..))
      rw [toLowerAfter, if_neg hsigma, if_neg hdotted, hlower, ih fun d hd => h d (List.mem_cons_of_mem _ hd)]
      rfl
  exact hafter []

end Unicode

/-! ## Where the entry is found -/

theorem ValueMap.get?_single {k v key : Text} (hkey : Unicode.toLower key = key) :
    (single k v).get? key = if Unicode.toLower k = key then some (.string v) else none := by
  split
  next h =>
    have hentries : (single k v).entries = [(Unicode.toLower k, some (.string v))] := rfl
    rw [get?, entry?, hentries, hkey, h, List.lookup_cons, beq_self_eq_true]
    rfl
  next h => exact get?_single_ne fun heq => h (by rw [← heq, hkey])

theorem Config.find?_single {α : Type} {k key : Text} (v : α) (hkey : Text.asciiLower key = key) :
    find? [(k, v)] key = if Text.asciiLower k = key then some v else .none := by
  rw [find?, List.lookup_cons, List.find?_cons, Text.sameUpToAsciiCase, hkey]
  by_cases h : key = k
  · rw [← h, beq_self_eq_true, hkey, if_pos rfl]
    rfl
  · rw [beq_eq_false_iff_ne.2 h, List.lookup_nil, Option.none_or]
    by_cases hlower : Text.asciiLower k = key
    · rw [if_pos hlower, hlower, beq_self_eq_true]
      rfl
    · rw [if_neg hlower, beq_eq_false_iff_ne.2 hlower]
      rfl

/-- What a section with one text answers. -/
theorem Section.lookup_single {k key : Text} (v : Text) (hkey : Text.asciiLower key = key) :
    lookup ⟨.object [(k, .string v)]⟩ key = if Text.asciiLower k = key then some v else none := by
  rw [lookup_texts (by simp), Config.find?_single _ hkey]
  split <;> rfl

/-- The configurations whose only entry is the text `v` under the name `k`. -/
inductive Config.Only (k v : Text) : Config → Prop
  | table : Only k v (.ofTable [(k, v)])
  | sortedTable : Only k v (.ofSortedTable [(k, v)])
  | object : Only k v (Section.lookup ⟨.object [(k, .string v)]⟩)

theorem Config.Only.answer {k v key : Text} {config : Config} (h : Only k v config)
    (hkey : Text.asciiLower key = key) : config key = if Text.asciiLower k = key then some v else .none := by
  cases h with
  | table => exact find?_single v hkey
  | sortedTable => exact find?_single v hkey
  | object => exact Section.lookup_single v hkey

/-! ## A tag alone -/

theorem Tag.asciiLower_stripMarker (g : Tag) :
    Text.asciiLower (Secret.stripMarker g.key).1 = (Secret.stripMarker g.key).1 := by
  rw [← g.toLower_stripMarker, Unicode.asciiLower_toLower]

/-- The tag of a key, without a clause. -/
def Tag.ofKey (k : Text) : Tag := ⟨['$', '{'] ++ k ++ ['}'], k, none⟩

theorem Tag.segments_ofKey {k : Text} (hk : IsKey k) : segments livePattern (ofKey k).raw = [.tag (ofKey k)] := by
  have hsteady : ∀ s ∈ [Segment.tag (ofKey k)], s.Steady := by
    simp only [List.mem_singleton, forall_eq]
    exact ⟨⟨hk, by simp [ofKey]⟩, rfl⟩
  have hsegs := segments_flatMap_raw hsteady
  rwa [List.flatMap_singleton] at hsegs

namespace Secret

/-- A cipher that makes no dollar sign where there is none. -/
def Cipher.AddsNoDollar (cipher : Cipher) : Prop := ∀ earlier call, '$' ∉ call.value → '$' ∉ cipher earlier call

theorem wrap_no_dollar {cipher : Cipher} (h : cipher.AddsNoDollar) (lower isSecret : Bool) (key raw : Text)
    {v : Text} (hv : '$' ∉ v) (calls : List Call) : '$' ∉ (wrap lower cipher key raw v isSecret calls).1 := by
  have hlower : '$' ∉ lowerBool lower v := by
    rcases lowerBool_cases lower v with hsame | ⟨-, hlowered⟩
    · rwa [hsame]
    · exact hlowered
  have htransform : ∀ marker value calls, '$' ∉ marker → '$' ∉ value →
      '$' ∉ (transform cipher marker key raw value calls).1 := by
    intro marker value calls hmarker hvalue
    rw [transform, marked, List.mem_append, List.mem_cons]
    rintro (hdollar | hdollar | hdollar)
    · exact hmarker hdollar
    · cases hdollar
    · exact h calls ⟨key, raw, value⟩ hvalue hdollar
  rw [wrap]
  cases isSecret <;> simp only [Bool.false_eq_true, if_false, if_true] <;> split
  · exact htransform _ _ _ (by decide) hlower
  · exact hlower
  · exact htransform _ _ _ (by decide) (htransform _ _ _ (by decide) hlower)
  · exact htransform _ _ _ (by decide) hlower

end Secret

namespace Builder

variable {b : Builder} {s : Sources} {k : Text}

/-- What a run over one tag gives, if the tag becomes a text without dollar signs or nothing. -/
theorem parse_ofKey (hb : b.pattern = Tag.livePattern) (hk : Tag.IsKey k)
    (hplain : ∀ r j, resolveTag b s (.ofKey k) {} = .ok (some r, j) → '$' ∉ r) (strict : Bool) :
    b.parse s strict (Tag.ofKey k).raw =
      if b.options.maxPasses = 0 then .error (.passLimit 0)
      else match resolveTag b s (.ofKey k) {} with
        | .error f => .error f
        | .ok (some r, _) => .ok r
        | .ok (none, _) => if strict then .error (.unresolved [(Tag.ofKey k).raw]) else .ok (Tag.ofKey k).raw := by
  have hne : (Tag.ofKey k).raw ≠ [] := List.cons_ne_nil _ _
  have hall : Tag.all b.pattern (Tag.ofKey k).raw = [.ofKey k] := by
    rw [Tag.all, hb, Tag.segments_ofKey hk]
    rfl
  have hlive : Tag.all b.pattern (Tag.ofKey k).raw ≠ [] := by
    rw [hall]
    exact List.cons_ne_nil _ _
  have hpass : b.substitute s (Tag.ofKey k).raw = (do
      return (← resolveTag b s (.ofKey k)).getD (Tag.ofKey k).raw ++ []) := by
    rw [substitute, hb, Tag.segments_ofKey hk]
    rfl
  rw [parse_of_reaches hne (Nat.zero_add _).symm .refl]
  cases hmax : b.options.maxPasses with
  | zero =>
    rw [passes_limit hlive, hmax, if_pos rfl]
    rfl
  | succ m =>
    rw [if_neg (Nat.succ_ne_zero m)]
    cases hresolve : resolveTag b s (.ofKey k) {} with
    | error f =>
      rw [passes_fault hlive (by rw [hpass, Run.bind_error hresolve])]
      rfl
    | ok p =>
      obtain ⟨value, j⟩ := p
      have hsubst : b.substitute s (Tag.ofKey k).raw {} = .ok (value.getD (Tag.ofKey k).raw, j) := by
        rw [hpass, Run.bind_ok hresolve, List.append_nil]
        rfl
      cases value with
      | none =>
        rw [passes_unchanged hlive hsubst, hall]
        cases strict <;> rfl
      | some r =>
        have hr := hplain r j hresolve
        have hchanged : r ≠ (Tag.ofKey k).raw := by
          rintro rfl
          exact hr (List.mem_cons_self ..)
        have hadv : b.Advances s (Tag.ofKey k).raw {} r j := ⟨hlive, hsubst, hchanged⟩
        have hsettled : Tag.all b.pattern r = [] := by
          rw [hb, Tag.all_of_no_dollar hr]
        rw [hadv.passes_eq, passes_settled hsettled, finish_of_no_dollar hr]
        rfl

/-- A tag without a clause gets the text of its value, or else the text of the configuration. -/
theorem resolveKey_of_no_clause {g : Tag} (hclause : g.extended = none) {key : Text}
    (hreserved : isReserved key = false) :
    resolveKey s g key = pure (((s.values.get? key).map Value.plainText).or (s.config key)) := by
  rw [resolveKey, hreserved, if_neg Bool.false_ne_true, Clause.ofTag, hclause, resolveDefault, hclause]
  cases s.values.get? key with
  | some v => rfl
  | none => cases s.config key <;> rfl

theorem stringLength?_without_clause :
    Clause.stringLength? ("$\x7b".toList ++ Generator.stringKey ++ [] ++ ['\x7d']) = none := by
  decide +kernel

theorem numberArgs?_without_clause :
    Clause.numberArgs? ("$\x7b".toList ++ Generator.numberKey ++ [] ++ ['\x7d']) = none := by
  decide +kernel

/-- No reserved key has a text without a clause. -/
theorem resolveKey_reserved {g : Tag} (hclause : g.extended = none) {key : Text} (hreserved : isReserved key = true) :
    ∃ f, resolveKey s g key = throw f := by
  have hfails : ∃ f, resolveReserved s.supply g key ((Clause.ofTag g).format.getD []) = throw f := by
    rw [isReserved, List.contains_iff_mem] at hreserved
    simp only [reservedKeys, List.mem_cons, List.not_mem_nil, or_false] at hreserved
    rw [resolveReserved]
    rcases hreserved with rfl | rfl | rfl | rfl
    · rw [if_neg (by decide), if_pos rfl, generateNumber, bareTag, hclause, Option.getD_none,
        numberArgs?_without_clause]
      exact ⟨_, rfl⟩
    · rw [if_pos rfl, generateString, bareTag, hclause, Option.getD_none, stringLength?_without_clause]
      exact ⟨_, rfl⟩
    · rw [if_neg (by decide), if_neg (by decide)]
      exact ⟨_, rfl⟩
    · rw [if_neg (by decide), if_neg (by decide)]
      exact ⟨_, rfl⟩
  obtain ⟨f, hf⟩ := hfails
  rw [resolveKey, hreserved, if_pos rfl, hf]
  exact ⟨f, rfl⟩

/-- Where the texts of a source have no dollar signs, a tag without a clause becomes a text without them. -/
theorem resolveTag_no_dollar {g : Tag} (hclause : g.extended = none) (hcipher : s.cipher.AddsNoDollar)
    (hvalue : ∀ v, s.values.get? (Secret.stripMarker g.key).1 = some v → '$' ∉ v.plainText)
    (hconfig : ∀ v, s.config (Secret.stripMarker g.key).1 = some v → '$' ∉ v) {r : Text} {j l : Journal}
    (h : resolveTag b s g j = .ok (some r, l)) : '$' ∉ r := by
  rw [resolveTag_eq] at h
  cases hreserved : isReserved (Secret.stripMarker g.key).1 with
  | true =>
    obtain ⟨f, hf⟩ := resolveKey_reserved (s := s) hclause hreserved
    rw [hf] at h
    cases h
  | false =>
    rw [resolveKey_of_no_clause hclause hreserved, pure_bind] at h
    cases hanswer : ((s.values.get? (Secret.stripMarker g.key).1).map Value.plainText).or
        (s.config (Secret.stripMarker g.key).1) with
    | none =>
      rw [hanswer] at h
      cases h
    | some v =>
      have hv : '$' ∉ v := by
        rw [Option.or_eq_some_iff, Option.map_eq_some_iff] at hanswer
        rcases hanswer with ⟨value, hget, rfl⟩ | ⟨-, hknown⟩
        · exact hvalue value hget
        · exact hconfig v hknown
      rw [hanswer] at h
      dsimp only at h
      rw [Run.bind_ok (wrapSecret_eq _ _ _ _ _ _ _)] at h
      cases h
      exact Secret.wrap_no_dollar hcipher _ _ _ _ hv _

/-! ## The runs over the entry -/

section Entry

variable {v : Text} {config : Config} {cipher : Secret.Cipher} {supply : Generator.Supply}

theorem resolveKey_single {g : Tag} (hclause : g.extended = none)
    (hreserved : isReserved (Secret.stripMarker g.key).1 = false) :
    resolveKey ⟨.single k v, .none, cipher, supply⟩ g (Secret.stripMarker g.key).1 =
      pure (if Unicode.toLower k = (Secret.stripMarker g.key).1 then some v else none) := by
  rw [resolveKey_of_no_clause hclause hreserved, ValueMap.get?_single g.toLower_stripMarker]
  split <;> rfl

theorem resolveKey_only (h : Config.Only k v config) {g : Tag} (hclause : g.extended = none)
    (hreserved : isReserved (Secret.stripMarker g.key).1 = false) :
    resolveKey ⟨.empty, config, cipher, supply⟩ g (Secret.stripMarker g.key).1 =
      pure (if Text.asciiLower k = (Secret.stripMarker g.key).1 then some v else none) := by
  rw [resolveKey_of_no_clause hclause hreserved]
  dsimp only
  rw [h.answer g.asciiLower_stripMarker]
  rfl

/-- What ASCII makes of the key is found by the values too, since no lowering by the tables changes it. -/
theorem toLower_of_asciiLower {g : Tag} (h : Text.asciiLower k = (Secret.stripMarker g.key).1) :
    Unicode.toLower k = (Secret.stripMarker g.key).1 := by
  rw [Unicode.toLower_eq_asciiLower, h]
  rw [h, ← g.toLower_stripMarker]
  exact Unicode.lowered_toLower

theorem resolveTag_single_no_dollar (hv : '$' ∉ v) (hcipher : cipher.AddsNoDollar) (r : Text) (j : Journal)
    (h : resolveTag b ⟨.single k v, .none, cipher, supply⟩ (.ofKey k) {} = .ok (some r, j)) : '$' ∉ r := by
  refine resolveTag_no_dollar rfl hcipher (fun value hvalue => ?_) (fun value hnone => by cases hnone) h
  rw [ValueMap.get?_single (Tag.toLower_stripMarker _), Option.ite_none_right_eq_some] at hvalue
  rw [← Option.some.inj hvalue.2]
  exact hv

theorem resolveTag_only_no_dollar (hconfig : Config.Only k v config) (hv : '$' ∉ v) (hcipher : cipher.AddsNoDollar)
    (r : Text) (j : Journal) (h : resolveTag b ⟨.empty, config, cipher, supply⟩ (.ofKey k) {} = .ok (some r, j)) :
    '$' ∉ r := by
  refine resolveTag_no_dollar rfl hcipher (fun value hnone => by cases hnone) (fun value hvalue => ?_) h
  dsimp only at hvalue
  rw [hconfig.answer (Tag.asciiLower_stripMarker _), Option.ite_none_right_eq_some] at hvalue
  rw [← Option.some.inj hvalue.2]
  exact hv

/-- A key that the tables lower as ASCII does, or that neither source is asked for, is resolved alike. -/
theorem resolveTag_entry (h : Config.Only k v config)
    (hkey : Unicode.toLower k = Text.asciiLower k ∨ (Secret.stripMarker (Unicode.toLower k)).1 ≠ Unicode.toLower k ∨
      isReserved (Unicode.toLower k) = true) :
    resolveTag b ⟨.single k v, .none, cipher, supply⟩ (.ofKey k) =
      resolveTag b ⟨.empty, config, cipher, supply⟩ (.ofKey k) := by
  refine resolveTag_congr (by rfl) ?_
  cases hreserved : isReserved (Secret.stripMarker (Tag.ofKey k).key).1 with
  | true => rw [resolveKey, resolveKey, if_pos hreserved, if_pos hreserved]
  | false =>
    have hfound : Unicode.toLower k = (Secret.stripMarker (Tag.ofKey k).key).1 ↔
        Text.asciiLower k = (Secret.stripMarker (Tag.ofKey k).key).1 := by
      refine ⟨fun hvalues => ?_, toLower_of_asciiLower⟩
      rcases hkey with hlower | hmarked | htaken
      · rw [← hlower, hvalues]
      · exact absurd hvalues.symm hmarked
      · rw [← hvalues, htaken] at hreserved
        cases hreserved
    rw [resolveKey_single rfl hreserved, resolveKey_only h rfl hreserved]
    simp only [hfound]

/-- Any other key has a text in the values and none in the configuration. -/
theorem parse_entry_ne (hk : Tag.IsKey k) (hv : '$' ∉ v) (h : Config.Only k v config)
    (hlower : Unicode.toLower k ≠ Text.asciiLower k)
    (hbare : (Secret.stripMarker (Unicode.toLower k)).1 = Unicode.toLower k)
    (hreserved : isReserved (Unicode.toLower k) = false) (strict : Bool) :
    ({} : Builder).parse ⟨.single k v, .none, .plain, supply⟩ strict (Tag.ofKey k).raw ≠
      ({} : Builder).parse ⟨.empty, config, .plain, supply⟩ strict (Tag.ofKey k).raw := by
  have hkey : (Secret.stripMarker (Tag.ofKey k).key).1 = Unicode.toLower k := hbare
  have hplain : Secret.Cipher.plain.AddsNoDollar := fun _ _ hcall => hcall
  rw [← hkey] at hreserved
  have hvalues : ∃ r j, resolveTag {} ⟨.single k v, .none, .plain, supply⟩ (.ofKey k) {} = .ok (some r, j) := by
    rw [resolveTag_eq, resolveKey_single rfl hreserved, if_pos hkey.symm, pure_bind]
    exact ⟨_, _, Run.bind_ok (wrapSecret_eq _ _ _ _ _ _ _)⟩
  have hconfig : resolveTag {} ⟨.empty, config, .plain, supply⟩ (.ofKey k) {} = .ok (none, {}) := by
    rw [resolveTag_eq, resolveKey_only h rfl hreserved, if_neg (by rw [hkey]; exact hlower.symm), pure_bind]
    rfl
  obtain ⟨r, j, hr⟩ := hvalues
  have hdollar : '$' ∉ r := resolveTag_single_no_dollar hv hplain r j hr
  rw [parse_ofKey rfl hk (resolveTag_single_no_dollar hv hplain),
    parse_ofKey rfl hk (resolveTag_only_no_dollar h hv hplain), hr, hconfig]
  intro hrun
  cases strict with
  | true => cases hrun
  | false =>
    cases hrun
    exact hdollar (List.mem_cons_self ..)

/-- **One entry, in the values or in a configuration.** Let the text of the entry have no dollar sign, and the
cipher make none. Then the tag of the key of the entry expands to the same over the one and over the other, in
every run, if and only if lowering the key by the tables lowers its ASCII letters only, or neither is asked for
the key: it begins with a marker, or it is reserved. -/
theorem parse_entry_iff (hk : Tag.IsKey k) (hv : '$' ∉ v) (h : Config.Only k v config) (strict : Bool) :
    (∀ b : Builder, b.pattern = Tag.livePattern → ∀ cipher : Secret.Cipher, cipher.AddsNoDollar → ∀ supply,
      b.parse ⟨.single k v, .none, cipher, supply⟩ strict (Tag.ofKey k).raw =
        b.parse ⟨.empty, config, cipher, supply⟩ strict (Tag.ofKey k).raw) ↔
    Unicode.toLower k = Text.asciiLower k ∨ (Secret.stripMarker (Unicode.toLower k)).1 ≠ Unicode.toLower k ∨
      isReserved (Unicode.toLower k) = true := by
  constructor
  · intro hall
    refine Classical.byContradiction fun hnot => ?_
    simp only [not_or, Bool.not_eq_true, Classical.not_not] at hnot
    obtain ⟨hlower, hbare, hreserved⟩ := hnot
    exact parse_entry_ne hk hv h hlower hbare hreserved strict
      (hall {} rfl .plain (fun _ _ hcall => hcall) fun _ => 0)
  · intro hkey b hb cipher hcipher supply
    rw [parse_ofKey hb hk (resolveTag_single_no_dollar hv hcipher),
      parse_ofKey hb hk (resolveTag_only_no_dollar h hv hcipher), resolveTag_entry h hkey]

end Entry

/-- An ASCII capital beside another small letter, in an object. -/
theorem parse_entry_capitals :
    Unicode.toLower ['K', 'é'] = Text.asciiLower ['K', 'é'] ∧
    ({} : Builder).parse ⟨.single ['K', 'é'] ['v'], .none, .plain, fun _ => 0⟩ true ['$', '{', 'K', 'é', '}'] =
      ({} : Builder).parse ⟨.empty, Section.lookup ⟨.object [(['K', 'é'], .string ['v'])]⟩, .plain, fun _ => 0⟩ true
        ['$', '{', 'K', 'é', '}'] := by
  have hkey : Tag.IsKey ['K', 'é'] :=
    ⟨List.all_eq_true.1 (by decide +kernel), ⟨'K', rfl, by decide +kernel⟩, ⟨'é', rfl, by decide +kernel⟩⟩
  have hlower : Unicode.toLower ['K', 'é'] = Text.asciiLower ['K', 'é'] := by decide +kernel
  exact ⟨hlower, (parse_entry_iff hkey (by decide) .object true).2 (.inl hlower) {} rfl .plain
    (fun _ _ hcall => hcall) fun _ => 0⟩

/-- No configuration finds a capital letter outside of ASCII, not even under its own name. -/
theorem parse_entry_other_capital :
    Tag.IsKey ['É'] ∧
    ({} : Builder).parse ⟨.single ['É'] ['v'], .none, .plain, fun _ => 0⟩ true ['$', '{', 'É', '}'] = .ok ['v'] ∧
    ∀ config, Config.Only ['É'] ['v'] config →
      ({} : Builder).parse ⟨.empty, config, .plain, fun _ => 0⟩ true ['$', '{', 'É', '}'] =
        .error (.unresolved [['$', '{', 'É', '}']]) := by
  have hkey : Tag.IsKey ['É'] :=
    ⟨List.all_eq_true.1 (by decide +kernel), ⟨'É', rfl, by decide +kernel⟩, ⟨'É', rfl, by decide +kernel⟩⟩
  have hlower : (Tag.ofKey ['É']).key = ['é'] := by decide +kernel
  have hplain : Secret.Cipher.plain.AddsNoDollar := fun _ _ hcall => hcall
  have hreserved : isReserved (Secret.stripMarker (Tag.ofKey ['É']).key).1 = false := by
    rw [hlower]
    decide
  refine ⟨hkey, ?_, fun config hconfig => ?_⟩
  · have hresolve : resolveTag {} ⟨.single ['É'] ['v'], .none, .plain, fun _ => 0⟩ (.ofKey ['É']) {} =
        .ok (some ['v'], {}) := by
      rw [resolveTag_eq, resolveKey_single rfl hreserved, if_pos (by rw [hlower]; exact hlower), pure_bind, hlower]
      rfl
    refine (parse_ofKey rfl hkey (resolveTag_single_no_dollar (by decide) hplain) true).trans ?_
    rw [hresolve]
    rfl
  · have hresolve : resolveTag {} ⟨.empty, config, .plain, fun _ => 0⟩ (.ofKey ['É']) {} = .ok (none, {}) := by
      rw [resolveTag_eq, resolveKey_only hconfig rfl hreserved, if_neg (by rw [hlower]; decide), pure_bind]
      rfl
    refine (parse_ofKey rfl hkey (resolveTag_only_no_dollar hconfig (by decide) hplain) true).trans ?_
    rw [hresolve]
    rfl

end Builder

end Placeholder
