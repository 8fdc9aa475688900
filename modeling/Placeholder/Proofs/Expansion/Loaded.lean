/-
One document, loaded as values or as a configuration. The values take every leaf of the document under its dotted
path, and the configuration walks along the path; where names are of ASCII word characters and no two names of one
object differ in case only, the two lead to the same leaf (`lookup_leaf`, `walk_leaf`).

What the leaf is shown as is another matter. The values hold it as a value of its kind, and its text is made of
that: the texts of truth values differ in case until they are lowered, and a whole number that does not fit with a
sign is a floating-point number there, where the configuration has all its digits (`resolveTag_loaded`).
-/
import Placeholder.Proofs.Config.Paths
import Placeholder.Proofs.Expansion.SingleEntry
import Placeholder.Proofs.ValueMap.Leaves

namespace Placeholder

/-! ## Names -/

/-- All characters are ASCII word characters. -/
def IsWordName (name : Text) : Prop := ∀ c ∈ name, Unicode.isAsciiWord c = true

instance (name : Text) : Decidable (IsWordName name) :=
  decidable_of_iff (name.all Unicode.isAsciiWord = true) (by simp [IsWordName])

/-- No two names of an object are the same up to the case of ASCII letters, and so in every object within. -/
inductive DistinctNames : Json → Prop
  | leaf {json : Json} (h : ∀ members, json ≠ .object members) : DistinctNames json
  | object {members : List (Text × Json)}
    (hnames : members.Pairwise fun p q => Text.sameUpToAsciiCase p.1 q.1 = false)
    (h : ∀ p ∈ members, DistinctNames p.2) : DistinctNames (.object members)

namespace Unicode

theorem isLow_of_ascii {c : Char} (h : c.toNat < 128) : IsLow c.toLower := by
  have hall : ∀ i : Fin 128, lowerChar (Char.ofNat i).toLower = (Char.ofNat i).toLower ∧
      (Char.ofNat i).toLower ≠ 'İ' := by decide +kernel
  have hc := hall ⟨c.toNat, h⟩
  rw [Char.ofNat_toNat] at hc
  exact ⟨hc.1, hc.2⟩

theorem toNat_of_isAsciiWord {c : Char} (h : isAsciiWord c = true) : c.toNat < 128 := by
  simp only [isAsciiWord, Text.isAsciiLetter, Text.isAsciiDigit, Bool.or_eq_true, Bool.and_eq_true, decide_eq_true_eq,
    beq_iff_eq, Char.le_def, UInt32.le_iff_toNat_le, Char.toNat_val] at h
  rcases h with ((⟨-, h⟩ | ⟨-, h⟩) | ⟨-, h⟩) | rfl
  · exact Nat.lt_of_le_of_lt h (by decide)
  · exact Nat.lt_of_le_of_lt h (by decide)
  · exact Nat.lt_of_le_of_lt h (by decide)
  · decide

theorem not_isSeparator_of_isAsciiWord {c : Char} (h : isAsciiWord c = true) : Section.isSeparator c = false := by
  refine Bool.eq_false_iff.2 fun hsep => ?_
  simp only [Section.isSeparator, Bool.or_eq_true, beq_iff_eq] at hsep
  rcases hsep with rfl | rfl <;> cases h

end Unicode

theorem Text.asciiLower_joinWith (separator : Text) (parts : List Text) :
    asciiLower (joinWith separator parts) = joinWith (asciiLower separator) (parts.map asciiLower) := by
  fun_induction joinWith separator parts with
  | case1 => rfl
  | case2 t => rfl
  | case3 t parts hnil ih =>
    have hmore : parts.map asciiLower ≠ [] := by simpa using hnil
    rw [List.map_cons, joinWith.eq_3 _ _ _ hmore, ← ih]
    simp [asciiLower]

theorem Text.sameUpToAsciiCase_asciiLower (a b : Text) :
    sameUpToAsciiCase a (asciiLower b) = sameUpToAsciiCase a b := by
  have hchar : ∀ c : Char, c.toLower.toLower = c.toLower := by
    intro c
    rcases toLower_cases c with ⟨i, rfl⟩ | hsmall
    · revert i
      decide
    · rw [hsmall, hsmall]
  have hlower : asciiLower (asciiLower b) = asciiLower b := by
    simp [asciiLower, hchar]
  rw [sameUpToAsciiCase, sameUpToAsciiCase, hlower]

theorem IsWordName.isPlain {name : Text} (h : IsWordName name) : Section.IsPlain name :=
  fun c hc => Unicode.not_isSeparator_of_isAsciiWord (h c hc)

/-! ## Keys of paths -/

section Paths

variable {path other : List Text}

theorem mem_joinWith {c : Char} {separator : Text} {parts : List Text} (h : c ∈ Text.joinWith separator parts) :
    c ∈ separator ∨ ∃ t ∈ parts, c ∈ t := by
  fun_induction Text.joinWith separator parts with
  | case1 => cases h
  | case2 t => exact .inr ⟨t, List.mem_singleton_self t, h⟩
  | case3 t parts hnil ih =>
    rcases List.mem_append.1 h with h | h
    · rcases List.mem_append.1 h with h | h
      · exact .inr ⟨t, List.mem_cons_self .., h⟩
      · exact .inl h
    · rcases ih h with h | ⟨u, hu, h⟩
      · exact .inl h
      · exact .inr ⟨u, List.mem_cons_of_mem t hu, h⟩

/-- The key of a path is its names, each with small letters, and dots between them. -/
theorem pathKey_eq (h : ∀ name ∈ path, IsWordName name) :
    ValueMap.pathKey path = Text.joinWith ['.'] (path.map Text.asciiLower) := by
  have hlow : ∀ c ∈ Text.asciiLower (Text.joinWith ['.'] path), Unicode.IsLow c := by
    intro c hc
    obtain ⟨d, hd, rfl⟩ := List.mem_map.1 hc
    refine Unicode.isLow_of_ascii ?_
    rcases mem_joinWith hd with hdot | ⟨name, hname, hd⟩
    · rw [List.mem_singleton.1 hdot]
      decide
    · exact Unicode.toNat_of_isAsciiWord (h name hname d hd)
  rw [ValueMap.pathKey, Unicode.toLower_eq_asciiLower hlow, Text.asciiLower_joinWith]
  rfl

/-- The parts of the key are the names of the path, each with small letters. -/
theorem segments_pathKey (hne : path ≠ []) (h : ∀ name ∈ path, IsWordName name) :
    Section.segments (ValueMap.pathKey path) = path.map Text.asciiLower := by
  have hlower : ∀ name ∈ path.map Text.asciiLower, Section.IsPlain name := by
    intro name hname
    obtain ⟨original, hmem, rfl⟩ := List.mem_map.1 hname
    refine Section.isPlain_of_same ?_ (h original hmem).isPlain
    rw [Text.sameUpToAsciiCase_asciiLower, Text.sameUpToAsciiCase, beq_self_eq_true]
  rw [pathKey_eq h, Section.segments, Text.splitOn_joinWith rfl (by simpa using hne)]
  exact Section.flatMap_segments_of_isPlain hlower

end Paths

/-! ## The leaf of a path -/

section Leaves

open ValueMap (Leaf pathKey)

variable {members : List (Text × Json)} {json leaf : Json} {path : List Text}

/-- A walk along the path, in small letters, leads to the leaf. -/
theorem walk_leaf (hleaf : Leaf path json leaf) (h : DistinctNames json) :
    Section.walk (path.map Text.asciiLower) json = some leaf := by
  induction hleaf with
  | here => rfl
  | @member members name inner leaf path hmem _ ih =>
    cases h with
    | leaf hnot => exact absurd rfl (hnot members)
    | object hnames hinner =>
      have hkey : Text.sameUpToAsciiCase name (Text.asciiLower name) = true := by
        rw [Text.sameUpToAsciiCase_asciiLower, Text.sameUpToAsciiCase, beq_self_eq_true]
      rw [List.map_cons, Section.walk, Section.member?, (Config.find?_eq_some_iff hnames).2 ⟨name, hmem, hkey⟩]
      exact ih (hinner _ hmem)

/-- No two leaves have paths that differ in case only. -/
theorem path_unique {other : List Text} {leaf' : Json} (hleaf : Leaf path json leaf) (hother : Leaf other json leaf')
    (h : DistinctNames json) (hsame : other.map Text.asciiLower = path.map Text.asciiLower) : other = path := by
  induction hleaf generalizing other with
  | here =>
    rw [List.map_nil, List.map_eq_nil_iff] at hsame
    exact hsame
  | @member members name inner leaf path hmem _ ih =>
    cases hother with
    | here hnot => exact absurd rfl (hnot members)
    | @member _ name' inner' _ other hmem' hother =>
      cases h with
      | leaf hnot => exact absurd rfl (hnot members)
      | object hnames hinner =>
        obtain ⟨hname, hpath⟩ := List.cons.inj hsame
        obtain ⟨rfl, rfl⟩ := Prod.mk.inj (Config.Distinct.eq_of_same hnames hmem' hmem (beq_iff_eq.2 hname))
        rw [ih hother (hinner _ hmem) hpath]

theorem names_of_leaf (hleaf : Leaf path json leaf) : ∀ name ∈ path, name ∈ json.names := by
  induction hleaf with
  | here => simp
  | member hmem _ ih =>
    obtain ⟨hname, hinner⟩ := Json.names_subset_of_member hmem
    exact List.forall_mem_cons.2 ⟨hname, fun name h => hinner (ih name h)⟩

theorem ne_nil_of_leaf (hleaf : Leaf path (.object members) leaf) : path ≠ [] := by
  cases hleaf with
  | here h => exact absurd rfl (h members)
  | member => exact List.cons_ne_nil _ _

/-- The configuration walks to the leaf: the whole key is no name, unless the path is one name. -/
theorem resolve_leaf (hleaf : Leaf path (.object members) leaf)
    (hword : ∀ name ∈ (Json.object members).names, IsWordName name) (h : DistinctNames (.object members)) :
    Section.resolve (pathKey path) (.object members) = some leaf := by
  have hpath : ∀ name ∈ path, IsWordName name := fun name hname => hword name (names_of_leaf hleaf name hname)
  rw [Section.resolve_eq_walk fun name hname => (hword name hname).isPlain,
    segments_pathKey (ne_nil_of_leaf hleaf) hpath, walk_leaf hleaf h]

/-- The values hold the leaf: no other leaf has its key. -/
theorem lookup_leaf (hproper : (Json.object members).Proper) (hleaf : Leaf path (.object members) leaf)
    (hword : ∀ name ∈ (Json.object members).names, IsWordName name) (h : DistinctNames (.object members)) :
    (ValueMap.insertMembers .empty none members).entries.lookup (pathKey path) = some (ValueMap.leafEntry leaf) := by
  have hsegments : ∀ {other leaf'}, Leaf other (.object members) leaf' →
      Section.segments (pathKey other) = other.map Text.asciiLower := fun hother =>
    segments_pathKey (ne_nil_of_leaf hother) fun name hname => hword name (names_of_leaf hother name hname)
  rw [ValueMap.lookup_insertMembers, ← ValueMap.leaves,
    ValueMap.lookup_reverse_puts (ValueMap.leaves_inOrder hproper)]
  refine ⟨(path, leaf), ValueMap.mem_leaves.2 hleaf, rfl, rfl, fun q hq hkey => .inl ?_⟩
  have hother : Leaf q.1 (.object members) q.2 := ValueMap.mem_leaves.1 hq
  exact path_unique hleaf hother h (by rw [← hsegments hother, hkey, hsegments hleaf])

end Leaves

/-! ## What the leaf is shown as -/

/-- The leaves with a text that is the same on both ways, once truth values are lowered. -/
inductive ShownAlike : Json → Prop
  | string (s : Text) : ShownAlike (.string s)
  | bool (b : Bool) : ShownAlike (.bool b)
  /-- A whole number that fits with a sign. -/
  | integer {i : Int} (h : Integer.least ≤ i ∧ i ≤ Integer.greatest) : ShownAlike (.integer i)

/-- The text that the values have for a leaf, before truth values are lowered. -/
def valueText? (leaf : Json) : Option Text := (ValueMap.leafEntry leaf).map Value.plainText

theorem ShownAlike.texts {leaf : Json} (h : ShownAlike leaf) : ∃ v w, valueText? leaf = some v ∧
    Section.scalarText? leaf = some w ∧ Secret.lowerBool true v = Secret.lowerBool true w := by
  cases h with
  | string s => exact ⟨s, s, rfl, rfl, rfl⟩
  | bool b =>
    cases b with
    | true => exact ⟨"True".toList, "true".toList, rfl, rfl, by decide +kernel⟩
    | false => exact ⟨"False".toList, "false".toList, rfl, rfl, by decide +kernel⟩
  | @integer i h =>
    refine ⟨Text.ofInt i, Text.ofInt i, ?_, rfl, rfl⟩
    rw [valueText?, ValueMap.leafEntry, Value.ofInt?, dif_pos h]
    rfl

section LargeNumbers

open Text (IsDigits)

theorem not_isDigits {t : Text} (c : Char) (hc : Text.isAsciiDigit c = false) (hmem : c ∈ t) : ¬ IsDigits t := by
  intro h
  rw [h c hmem] at hc
  cases hc

/-- In positional notation without a point there is a digit for each power of ten up to the leading one. -/
theorem length_positional {d : Binary64.Decimals} (h : IsDigits d.positional) :
    (d.positional.length : Int) = if d.digits = 0 then 1 else d.leading + 1 := by
  rw [Binary64.Decimals.positional] at h ⊢
  dsimp only at h ⊢
  split at h
  next hexponent =>
    rw [if_pos hexponent]
    by_cases hzero : d.digits = 0
    · rw [if_pos hzero, if_pos hzero, hzero]
      rfl
    · rw [if_neg hzero, if_neg hzero, Binary64.Decimals.leading, List.length_append, List.length_replicate]
      omega
  next => exact absurd h (not_isDigits '.' rfl (by simp))

/-- Digits alone are shown of numbers below `10 ^ 15` only. -/
theorem length_doubleText {x : Binary64} (h : IsDigits (Display.doubleText x)) :
    (Display.doubleText x).length ≤ 15 := by
  cases x with
  | nan => exact absurd h (not_isDigits 'N' rfl (by decide))
  | infinite negative => cases negative <;> exact absurd h (not_isDigits 'I' rfl (by decide))
  | finite negative m e hcanonical =>
    let leading := if m = 0 then 0 else (Binary64.shortest m e).leading
    have hshown : Display.doubleText (.finite negative m e hcanonical) =
        if (-4 ≤ leading && leading < 15) = true then Binary64.signed negative (Binary64.shortest m e).positional
        else Binary64.signed negative (Binary64.pointed (Text.ofNat (Binary64.shortest m e).digits) ++
          Display.exponentText 'E' 2 leading) := rfl
    rw [hshown] at h ⊢
    by_cases hpositional : (-4 ≤ leading && leading < 15) = true
    · rw [if_pos hpositional] at h ⊢
      cases negative with
      | true => exact absurd h (not_isDigits '-' rfl (List.mem_cons_self ..))
      | false =>
        have hlength := length_positional (d := Binary64.shortest m e) h
        simp only [Bool.and_eq_true, decide_eq_true_eq] at hpositional
        rw [Binary64.signed, if_neg Bool.false_ne_true]
        by_cases hdigits : (Binary64.shortest m e).digits = 0
        · rw [if_pos hdigits] at hlength
          omega
        · have hm : m ≠ 0 := fun hm => hdigits (by rw [Binary64.shortest, if_pos hm])
          have hleading : leading = (Binary64.shortest m e).leading := if_neg hm
          rw [if_neg hdigits] at hlength
          omega
    · rw [if_neg hpositional] at h
      refine absurd h (not_isDigits 'E' rfl ?_)
      cases negative <;> simp [Binary64.signed, Display.exponentText]

theorem doubleText_ne_ofNat {n : Nat} (h : 10 ^ 15 ≤ n) (x : Binary64) : Display.doubleText x ≠ Text.ofNat n := by
  intro heq
  have hdigits : IsDigits (Display.doubleText x) := heq ▸ Text.isDigits_ofNat n
  have hlt := Text.natOfDigits_lt hdigits
  have hle := Nat.pow_le_pow_right (n := 10) (by decide) (length_doubleText hdigits)
  rw [heq, Text.natOfDigits_ofNat] at hlt
  rw [heq] at hle
  omega

end LargeNumbers

/-- A whole number that fits only without a sign is shown otherwise by the values. -/
theorem large_texts {i : Int} (h : Integer.greatest < i) : ∃ v, valueText? (.integer i) = some v ∧
    v = Display.doubleText (.ofNat i.toNat) ∧ v ≠ Text.ofInt i := by
  refine ⟨_, ?_, rfl, ?_⟩
  · rw [valueText?, ValueMap.leafEntry, Value.ofInt?, dif_neg fun hin => absurd h (Int.not_lt.2 hin.2)]
    rfl
  · have hgreatest : Integer.greatest = 9223372036854775807 := rfl
    rw [Text.ofInt, if_neg (by omega)]
    exact doubleText_ne_ofNat (by omega) _

namespace Secret

theorem wrap_congr {lower : Bool} {v w : Text} (h : lowerBool lower v = lowerBool lower w) (cipher : Cipher)
    (key raw : Text) (isSecret : Bool) (calls : List Call) :
    wrap lower cipher key raw v isSecret calls = wrap lower cipher key raw w isSecret calls := by
  rw [wrap, wrap, h]

end Secret

namespace Builder

/-- Texts that are lowered to the same are resolved to the same. -/
theorem resolveTag_lowered {b : Builder} {s₁ s₂ : Sources} {g : Tag} {v w : Text} (hcipher : s₁.cipher = s₂.cipher)
    (h₁ : resolveKey s₁ g (Secret.stripMarker g.key).1 = pure (some v))
    (h₂ : resolveKey s₂ g (Secret.stripMarker g.key).1 = pure (some w))
    (h : Secret.lowerBool b.options.boolToLower v = Secret.lowerBool b.options.boolToLower w) :
    resolveTag b s₁ g = resolveTag b s₂ g := by
  have hwrap : wrapSecret b.options s₁.cipher (Secret.stripMarker g.key).1 g.raw v (Secret.stripMarker g.key).2 =
      wrapSecret b.options s₂.cipher (Secret.stripMarker g.key).1 g.raw w (Secret.stripMarker g.key).2 := by
    funext j
    rw [wrapSecret_eq, wrapSecret_eq, hcipher, Secret.wrap_congr h]
  rw [resolveTag_eq, resolveTag_eq, h₁, h₂, pure_bind, pure_bind]
  dsimp only
  rw [hwrap]

section Documents

open ValueMap (Leaf pathKey)

variable {t : Text} {members : List (Text × Json)} {path : List Text} {leaf : Json}

/-- What the values give for a tag of a leaf. -/
theorem resolveKey_values (hproper : (Json.object members).Proper) (hleaf : Leaf path (.object members) leaf)
    (hword : ∀ name ∈ (Json.object members).names, IsWordName name) (hdistinct : DistinctNames (.object members))
    {v : Text} (hv : valueText? leaf = some v) {g : Tag} (hclause : g.extended = none)
    (hreserved : isReserved (pathKey path) = false) (cipher : Secret.Cipher) (supply : Generator.Supply) :
    resolveKey ⟨.insertMembers .empty none members, .none, cipher, supply⟩ g (pathKey path) = pure (some v) := by
  have hget : (ValueMap.insertMembers .empty none members).get? (pathKey path) = ValueMap.leafEntry leaf := by
    rw [ValueMap.get?, ValueMap.entry?, pathKey, Unicode.toLower_toLower, ← pathKey,
      lookup_leaf hproper hleaf hword hdistinct]
    rfl
  rw [resolveKey_of_no_clause hclause hreserved]
  dsimp only
  rw [hget, ← valueText?, hv]
  rfl

/-- What the configuration gives for a tag of a leaf. -/
theorem resolveKey_section (hleaf : Leaf path (.object members) leaf)
    (hword : ∀ name ∈ (Json.object members).names, IsWordName name) (hdistinct : DistinctNames (.object members))
    {w : Text} (hw : Section.scalarText? leaf = some w) {g : Tag} (hclause : g.extended = none)
    (hreserved : isReserved (pathKey path) = false) (cipher : Secret.Cipher) (supply : Generator.Supply) :
    resolveKey ⟨.empty, Section.lookup ⟨.object members⟩, cipher, supply⟩ g (pathKey path) = pure (some w) := by
  rw [resolveKey_of_no_clause hclause hreserved]
  dsimp only
  rw [Section.lookup, resolve_leaf hleaf hword hdistinct, Option.bind_some, hw]
  rfl

/-- **One document, loaded in both ways.** Let the names of an object be of ASCII word characters, and no two of
one object in it be the same up to case. A tag without a clause, with or without a marker, that names the path of a
leaf is resolved alike over the values and over the configuration if the leaf is a text, a truth value or a whole
number that fits with a sign: to one text, unless the path is a reserved key, and then with one fault. Of a whole
number that fits only without a sign the values have a floating-point number, which is never shown by the digits
that the configuration has. -/
theorem resolveTag_loaded (hread : Json.read t = .ok (.object members))
    (hword : ∀ name ∈ (Json.object members).names, IsWordName name) (hdistinct : DistinctNames (.object members))
    (hleaf : Leaf path (.object members) leaf) {b : Builder} (hlower : b.options.boolToLower = true)
    (cipher : Secret.Cipher) (supply : Generator.Supply) {g : Tag} (hclause : g.extended = none)
    (hkey : (Secret.stripMarker g.key).1 = pathKey path) :
    ∃ values, ValueMap.readJson t = .ok values ∧
      (ShownAlike leaf →
        resolveTag b ⟨values, .none, cipher, supply⟩ g =
          resolveTag b ⟨.empty, Section.lookup ⟨.object members⟩, cipher, supply⟩ g ∧
        (isReserved (pathKey path) = false →
          ∀ j, ∃ r k, resolveTag b ⟨values, .none, cipher, supply⟩ g j = .ok (some r, k))) ∧
      (∀ i, leaf = .integer i → Integer.greatest < i → isReserved (pathKey path) = false → ∃ v,
        resolveKey ⟨values, .none, cipher, supply⟩ g (pathKey path) = pure (some v) ∧
        resolveKey ⟨.empty, Section.lookup ⟨.object members⟩, cipher, supply⟩ g (pathKey path) =
          pure (some (Text.ofInt i)) ∧
        v = Display.doubleText (.ofNat i.toNat) ∧ v ≠ Text.ofInt i) := by
  have hproper := Json.proper_of_read hread
  have hload : ValueMap.readJson t = .ok (.insertMembers .empty none members) := by
    rw [ValueMap.readJson, hread]
    rfl
  refine ⟨_, hload, fun halike => ?alike, fun i hi hlarge hreserved => ?large⟩
  case alike =>
    obtain ⟨v, w, hv, hw, hsame⟩ := halike.texts
    cases hreserved : isReserved (pathKey path) with
    | true =>
      refine ⟨resolveTag_congr (by rfl) ?_, fun hnot => absurd hnot (by simp)⟩
      rw [hkey, resolveKey, resolveKey, if_pos hreserved, if_pos hreserved]
    | false =>
      have hvalues := resolveKey_values hproper hleaf hword hdistinct hv hclause hreserved cipher supply
      have hsection := resolveKey_section hleaf hword hdistinct hw hclause hreserved cipher supply
      rw [← hkey] at hvalues hsection
      refine ⟨resolveTag_lowered (by rfl) hvalues hsection (by rw [hlower, hsame]), fun _ j => ?_⟩
      rw [resolveTag_eq, hvalues, pure_bind]
      exact ⟨_, _, Run.bind_ok (wrapSecret_eq _ _ _ _ _ _ _)⟩
  case large =>
    subst hi
    obtain ⟨v, hv, hshown, hne⟩ := large_texts hlarge
    exact ⟨v, resolveKey_values hproper hleaf hword hdistinct hv hclause hreserved cipher supply,
      resolveKey_section hleaf hword hdistinct rfl hclause hreserved cipher supply, hshown, hne⟩

/-- A truth value below another name, asked for with a marker and in other letters. -/
theorem resolveTag_loaded_marked :
    let json : Json := .object [("App".toList, .object [("debug".toList, .bool true)]), ("b_2".toList, .array [.null])]
    let g : Tag := ⟨"$\x7bSecret:app.Debug\x7d".toList, "Secret:app.Debug".toList, none⟩
    let path : List Text := ["App".toList, "debug".toList]
    Json.read "\x7b\"b_2\": [null], \"App\": \x7b\"debug\": true\x7d\x7d".toList = .ok json ∧
      (∀ name ∈ json.names, IsWordName name) ∧ DistinctNames json ∧ Leaf path json (.bool true) ∧
      (Secret.stripMarker g.key).1 = pathKey path ∧
      ∃ values, ValueMap.readJson "\x7b\"b_2\": [null], \"App\": \x7b\"debug\": true\x7d\x7d".toList = .ok values ∧
        resolveTag {} ⟨values, .none, .mask, fun _ => 0⟩ g =
          resolveTag {} ⟨.empty, Section.lookup ⟨json⟩, .mask, fun _ => 0⟩ g ∧
        ∃ r k, resolveTag {} ⟨values, .none, .mask, fun _ => 0⟩ g {} = .ok (some r, k) := by
  intro json g path
  have hread : Json.read "\x7b\"b_2\": [null], \"App\": \x7b\"debug\": true\x7d\x7d".toList = .ok json := by cbv
  have hword : ∀ name ∈ json.names, IsWordName name := by decide
  have hdistinct : DistinctNames json := by
    refine .object (by decide) fun p hp => ?_
    simp only [List.mem_cons, List.not_mem_nil, or_false] at hp
    rcases hp with rfl | rfl
    · exact .object (by decide) fun q hq => by
        rw [List.mem_singleton.1 hq]
        exact .leaf (by simp)
    · exact .leaf (by simp)
  have hleaf : Leaf path json (.bool true) :=
    .member (List.mem_cons_self ..) (.member (List.mem_singleton_self _) (.here (by simp)))
  have hkey : (Secret.stripMarker g.key).1 = pathKey path := by decide +kernel
  obtain ⟨values, hload, halike, -⟩ :=
    resolveTag_loaded (b := {}) hread hword hdistinct hleaf rfl .mask (fun _ => 0) (g := g) rfl hkey
  obtain ⟨hsame, hresolved⟩ := halike (.bool true)
  exact ⟨hread, hword, hdistinct, hleaf, hkey, values, hload, hsame, hresolved (by decide +kernel) {}⟩

/-- The greatest whole number without a sign is rounded by the values and copied by the configuration. -/
theorem parse_loaded_large :
    let json : Json := .object [(['a'], .integer 18446744073709551615)]
    Json.read "\x7b\"a\":18446744073709551615\x7d".toList = .ok json ∧
      ∃ values, ValueMap.readJson "\x7b\"a\":18446744073709551615\x7d".toList = .ok values ∧
        ({} : Builder).parse ⟨values, .none, .plain, fun _ => 0⟩ false ['$', '{', 'a', '}'] =
          .ok "1.8446744073709552E+19".toList ∧
        ({} : Builder).parse ⟨.empty, Section.lookup ⟨json⟩, .plain, fun _ => 0⟩ false ['$', '{', 'a', '}'] =
          .ok "18446744073709551615".toList := by
  intro json
  have hread : Json.read "\x7b\"a\":18446744073709551615\x7d".toList = .ok json := by cbv
  have hload : ValueMap.readJson "\x7b\"a\":18446744073709551615\x7d".toList =
      .ok (.insertMembers .empty none [(['a'], .integer 18446744073709551615)]) := by
    rw [ValueMap.readJson, hread]
    rfl
  have hkey : Tag.IsKey ['a'] :=
    ⟨List.all_eq_true.1 (by decide +kernel), ⟨'a', rfl, by decide +kernel⟩, ⟨'a', rfl, by decide +kernel⟩⟩
  exact ⟨hread, _, hload,
    parse_of_alone rfl (by decide) (Tag.segments_ofKey hkey) (k := {}) (by decide +kernel) (by decide) false,
    parse_of_alone rfl (by decide) (Tag.segments_ofKey hkey) (k := {}) (by decide +kernel) (by decide) false⟩

end Documents

end Builder

end Placeholder
