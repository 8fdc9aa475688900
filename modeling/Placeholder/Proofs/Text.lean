/-
Laws of texts: heads of texts, sizes in bytes, blanks at the ends, the longest part of a text that has a property,
parts between separators, the order of texts, and tables by texts.
-/
import Placeholder.Text

namespace Placeholder.Text

theorem afterHead?_eq_some {head t rest : Text} : afterHead? head t = some rest ↔ t = head ++ rest := by
  induction head generalizing t with
  | nil => simp [afterHead?, eq_comm]
  | cons c head ih =>
    cases t with
    | nil => simp [afterHead?]
    | cons d t =>
      by_cases h : c = d
      · subst h
        simp [afterHead?, ih]
      · simp [afterHead?, h, Ne.symm h]

@[simp] theorem afterHead?_append (head rest : Text) : afterHead? head (head ++ rest) = some rest :=
  afterHead?_eq_some.2 rfl

theorem afterHead?_cons_ne {c d : Char} (h : d ≠ c) (head t : Text) : afterHead? (c :: head) (d :: t) = none := by
  rw [afterHead?, if_neg (Ne.symm h)]

@[simp] theorem byteSize_append (a b : Text) : byteSize (a ++ b) = byteSize a + byteSize b := by
  induction a with
  | nil => simp [byteSize]
  | cons c a ih => simp [byteSize, ih, Nat.add_assoc]

/-! ## Blanks -/

theorem isBlank_eq_false {c : Char} (hlow : 0x20 < c.toNat) (hhigh : c.toNat < 0x7f) : isBlank c = false := by
  simp only [isBlank, blankRanges, Unicode.Ranges.holds]
  grind

theorem trimStart_eq_self {t : Text} (h : ∀ c ∈ t.head?, isBlank c = false) : trimStart t = t := by
  cases t with
  | nil => rfl
  | cons c t =>
    rw [trimStart, List.dropWhile_cons_of_neg]
    simp [h c rfl]

/-- A text that begins and ends with no blank is not trimmed. -/
theorem trim_eq_self {t : Text} (hhead : ∀ c ∈ t.head?, isBlank c = false)
    (hlast : ∀ c ∈ t.getLast?, isBlank c = false) : trim t = t := by
  have hreverse := trimStart_eq_self (t := t.reverse) (by rwa [List.head?_reverse])
  rw [trimStart] at hreverse
  rw [trim, trimStart_eq_self hhead, trimEnd, hreverse, List.reverse_reverse]

theorem mem_trim {c : Char} {t : Text} (h : c ∈ t) : isBlank c = true ∨ c ∈ trim t := by
  have hdrop : ∀ {u : Text}, c ∈ u → isBlank c = true ∨ c ∈ u.dropWhile isBlank := by
    intro u hu
    rw [← List.takeWhile_append_dropWhile (p := isBlank) (l := u)] at hu
    rcases List.mem_append.1 hu with hu | hu
    · exact .inl (List.all_eq_true.1 List.all_takeWhile c hu)
    · exact .inr hu
  rcases hdrop h with hblank | hstart
  · exact .inl hblank
  · rw [trim, trimEnd, List.mem_reverse]
    exact hdrop (List.mem_reverse.2 hstart)

/-! ## Capitals of ASCII -/

/-- There are twenty-six of them; every other character stays as it is. -/
theorem toLower_cases (c : Char) : (∃ i : Fin 26, c = Char.ofNat (65 + i)) ∨ c.toLower = c := by
  by_cases hcapital : c.val ≥ 'A'.val ∧ c.val ≤ 'Z'.val
  · have hge : 0x41 ≤ c.toNat := UInt32.le_iff_toNat_le.1 hcapital.1
    have hle : c.toNat ≤ 0x5a := UInt32.le_iff_toNat_le.1 hcapital.2
    refine .inl ⟨⟨c.toNat - 65, by omega⟩, ?_⟩
    rw [Nat.add_sub_cancel' hge, Char.ofNat_toNat]
  · exact .inr (dif_neg hcapital)

/-! ## Heads up to a character -/

/-- The head of a text up to the last character with a property. -/
def upToLast (p : Char → Bool) (t : Text) : Text := (t.reverse.dropWhile (!p ·)).reverse

theorem upToLast_prefix (p : Char → Bool) (t : Text) : ∃ rest, t = upToLast p t ++ rest := by
  refine ⟨(t.reverse.takeWhile (!p ·)).reverse, ?_⟩
  rw [upToLast, ← List.reverse_append, List.takeWhile_append_dropWhile, List.reverse_reverse]

/-- What is not empty ends in a character with the property. -/
theorem getLast?_upToLast {p : Char → Bool} {t : Text} {c : Char} (h : (upToLast p t).getLast? = some c) :
    p c = true := by
  rw [upToLast, List.getLast?_reverse] at h
  have := List.head?_dropWhile_not (!p ·) t.reverse
  rw [h] at this
  simpa using this

/-- A head that ends in a character with the property reaches no further. -/
theorem length_le_upToLast {p : Char → Bool} {a b : Text} {c : Char} (h : a.getLast? = some c) (hc : p c = true) :
    a.length ≤ (upToLast p (a ++ b)).length := by
  have hdrop : ∀ u v : Text, u.head? = some c → u.length ≤ ((v ++ u).dropWhile (!p ·)).length := by
    intro u v hu
    induction v with
    | nil =>
      cases u with
      | nil => simp at hu
      | cons d u =>
        simp only [List.head?_cons, Option.some.injEq] at hu
        subst hu
        simp [hc]
    | cons d v ih =>
      rw [List.cons_append, List.dropWhile_cons]
      split
      · exact ih
      · simp only [List.length_cons, List.length_append]
        omega
  rw [upToLast, List.length_reverse, List.reverse_append, ← List.length_reverse]
  exact hdrop _ _ (by rw [List.head?_reverse, h])

/-! ## Parts between separators -/

theorem splitOn_ne_nil (isSeparator : Char → Bool) (t : Text) : splitOn isSeparator t ≠ [] := by
  fun_cases splitOn isSeparator t <;> exact List.cons_ne_nil _ _

theorem splitOn_of_none {isSeparator : Char → Bool} {t : Text} (h : ∀ c ∈ t, isSeparator c = false) :
    splitOn isSeparator t = [t] := by
  induction t with
  | nil => rfl
  | cons c t ih =>
    have hc := h c (List.mem_cons_self ..)
    rw [splitOn, ih fun d hd => h d (List.mem_cons_of_mem _ hd)]
    simp [hc]

/-- A separator ends a part, whatever the parts in front of it are. -/
theorem splitOn_append {isSeparator : Char → Bool} {c : Char} (hc : isSeparator c = true) (a b : Text) :
    splitOn isSeparator (a ++ c :: b) = splitOn isSeparator a ++ splitOn isSeparator b := by
  induction a with
  | nil => simp [splitOn, hc]
  | cons d a ih =>
    obtain ⟨part, parts, hparts⟩ := List.exists_cons_of_ne_nil (splitOn_ne_nil isSeparator a)
    rw [List.cons_append, splitOn, splitOn, ih, hparts]
    split <;> rfl

/-- A text behind others. -/
theorem joinWith_concat {separator : Text} {parts : List Text} (h : parts ≠ []) (t : Text) :
    joinWith separator (parts ++ [t]) = joinWith separator parts ++ separator ++ t := by
  fun_induction joinWith separator parts with
  | case1 => exact absurd rfl h
  | case2 u => rfl
  | case3 u parts hnil ih =>
    have hmore : parts ++ [t] ≠ [] := List.append_ne_nil_of_left_ne_nil hnil [t]
    rw [List.cons_append, joinWith.eq_3 _ _ _ hmore, ih hnil]
    simp only [List.append_assoc]

/-- Parts that are put together with a separator are split where they were, and each of them where it has one. -/
theorem splitOn_joinWith {isSeparator : Char → Bool} {c : Char} (hc : isSeparator c = true) {parts : List Text}
    (h : parts ≠ []) : splitOn isSeparator (joinWith [c] parts) = parts.flatMap (splitOn isSeparator) := by
  fun_induction joinWith [c] parts with
  | case1 => exact absurd rfl h
  | case2 t => simp
  | case3 t parts hnil ih =>
    rw [List.append_assoc, List.singleton_append, splitOn_append hc, ih hnil, List.flatMap_cons]

/-- The parts of a text, joined again. -/
theorem joinWith_splitOn (c : Char) (t : Text) : joinWith [c] (splitOn (· == c) t) = t := by
  induction t with
  | nil => rfl
  | cons d t ih =>
    rw [splitOn]
    split
    next hd =>
      rw [joinWith.eq_3 _ _ _ (splitOn_ne_nil _ t), ih, eq_of_beq hd]
      rfl
    next =>
      obtain ⟨part, parts, hparts⟩ := List.exists_cons_of_ne_nil (splitOn_ne_nil (· == c) t)
      rw [hparts] at ih ⊢
      cases parts <;> simpa [joinWith] using ih

/-- There is one part more than there are separators. -/
theorem length_splitOn (isSeparator : Char → Bool) (t : Text) :
    (splitOn isSeparator t).length = t.countP isSeparator + 1 := by
  induction t with
  | nil => rfl
  | cons c t ih =>
    obtain ⟨part, parts, hparts⟩ := List.exists_cons_of_ne_nil (splitOn_ne_nil isSeparator t)
    rw [hparts] at ih
    rw [splitOn, hparts, List.countP_cons]
    split <;> simp_all

/-! ## The order of texts -/

@[simp] theorem not_before_self (t : Text) : before t t = false := by
  induction t with
  | nil => rfl
  | cons c t ih => rw [before, if_pos rfl, ih]

theorem before_cons {c d : Char} {a b : Text} :
    before (c :: a) (d :: b) = true ↔ c.toNat < d.toNat ∨ c = d ∧ before a b = true := by
  by_cases h : c = d
  · subst h
    simp [before]
  · simp [before, h]

theorem before_trans {a b c : Text} (hab : before a b = true) (hbc : before b c = true) : before a c = true := by
  induction a generalizing b c with
  | nil =>
    cases c with
    | nil => rw [before.eq_1] at hbc; cases hbc
    | cons z c => rfl
  | cons x a ih =>
    cases b with
    | nil => rw [before] at hab; cases hab
    | cons y b =>
      cases c with
      | nil => rw [before] at hbc; cases hbc
      | cons z c =>
        rw [before_cons] at hab hbc ⊢
        rcases hab with hxy | ⟨rfl, hab⟩ <;> rcases hbc with hyz | ⟨rfl, hbc⟩
        · exact .inl (Nat.lt_trans hxy hyz)
        · exact .inl hxy
        · exact .inl hyz
        · exact .inr ⟨rfl, ih hab hbc⟩

theorem before_asymm {a b : Text} (h : before a b = true) : before b a = false :=
  Bool.eq_false_iff.2 fun h' => by simpa using before_trans h h'

theorem ne_of_before {a b : Text} (h : before a b = true) : a ≠ b := by
  rintro rfl
  simp at h

theorem before_of_ne {a b : Text} (hne : a ≠ b) (h : before a b = false) : before b a = true := by
  induction a generalizing b with
  | nil =>
    cases b with
    | nil => exact absurd rfl hne
    | cons d b => cases h
  | cons c a ih =>
    cases b with
    | nil => rfl
    | cons d b =>
      rw [← Bool.not_eq_true, before_cons, not_or, not_and] at h
      rw [before_cons]
      by_cases hcd : c = d
      · subst hcd
        exact .inr ⟨rfl, ih (fun hab => hne (hab ▸ rfl)) (Bool.eq_false_iff.2 (h.2 rfl))⟩
      · have hnat : c.toNat ≠ d.toNat := fun hnat => hcd (Char.toNat_inj.1 hnat)
        exact .inl (by omega)

/-! ## Tables -/

section Tables

variable {α : Type} {entries : List (Text × α)}

theorem lookup_cons (p : Text × α) (entries : List (Text × α)) (key : Text) :
    (p :: entries).lookup key = if key = p.1 then some p.2 else entries.lookup key := by
  rw [List.lookup_cons]
  by_cases h : key = p.1
  · simp [h]
  · simp [beq_eq_false_iff_ne.2 h, h]

/-- Where no name comes twice, an entry is found exactly if it is there. -/
theorem lookup_eq_some_iff_mem (h : (entries.map Prod.fst).Nodup) {name : Text} {a : α} :
    entries.lookup name = some a ↔ (name, a) ∈ entries := by
  induction entries with
  | nil => simp
  | cons p entries ih =>
    obtain ⟨n, b⟩ := p
    rw [List.map_cons, List.nodup_cons] at h
    rw [lookup_cons, List.mem_cons]
    by_cases hname : name = n
    · subst hname
      have hnot : (name, a) ∉ entries := fun hmem => h.1 (List.mem_map.2 ⟨_, hmem, rfl⟩)
      simp [hnot, eq_comm]
    · simp [hname, ih h.2]

theorem mem_keys_iff_isSome_lookup {key : Text} : key ∈ entries.map Prod.fst ↔ (entries.lookup key).isSome = true := by
  induction entries with
  | nil => simp
  | cons p entries ih =>
    rw [List.map_cons, List.mem_cons, lookup_cons, ih]
    split <;> simp_all

end Tables

end Placeholder.Text
