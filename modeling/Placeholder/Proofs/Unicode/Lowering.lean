/-
What lowering gives is in lower case already (`lowered_toLower`), so lowering it once more, or any part
of it, changes nothing (`toLower_eq_self`).

For single characters this is read off the table: no rule applies to what a rule maps to
(`lowerRules_avoid`). The two characters that have rules of their own, the capital sigma and the dotted
capital i, are looked at apart. Truth values hold neither of them, so lowering keeps their length.

The rules of folding are undone when the case variants of a character are listed, so it is among them itself
(`mem_caseVariants_self`).
-/
import Placeholder.Proofs.Text
import Placeholder.Secret

namespace Placeholder

namespace Unicode

/-! ## Rules -/

namespace CaseRule

/-- What a rule maps a code point to. -/
def image (r : CaseRule) (n : Nat) : Nat :=
  match r.delta with
  | .ofNat d => n + d
  | .negSucc d => n - (d + 1)

theorem image_eq (r : CaseRule) (n : Nat) : ((n : Int) + r.delta).toNat = r.image n := by
  rw [image]
  cases r.delta with
  | ofNat d => rfl
  | negSucc d => simp only [Int.negSucc_eq]; omega

theorem image_mono (r : CaseRule) {m n : Nat} (h : m ≤ n) : r.image m ≤ r.image n := by
  rw [image, image]
  cases r.delta with
  | ofNat d => exact Nat.add_le_add_right h d
  | negSucc d => exact Nat.sub_le_sub_right h (d + 1)

/-- The rule `s` does not apply to what `r` maps to. -/
def avoids (r s : CaseRule) : Bool :=
  -- `Nat.blt` is what the kernel compares fast with; it has to go through all pairs of rules.
  Nat.blt (r.image r.hi) s.lo || Nat.blt s.hi (r.image r.lo) ||
    (List.range (r.hi + 1 - r.lo)).all fun i => !r.applies (r.lo + i) || !s.applies (r.image (r.lo + i))

/-- A rule maps to characters from the small letters on, but not to the dotted capital i. -/
def isProper (r : CaseRule) : Bool :=
  let lo := r.image r.lo
  let hi := r.image r.hi
  (hi < 0xd800 || (0xe000 ≤ lo && hi < 0x110000)) && (hi < 'İ'.toNat || 'İ'.toNat < lo) && 'a'.toNat ≤ lo

theorem range_of_applies {r : CaseRule} {n : Nat} (h : r.applies n = true) : r.lo ≤ n ∧ n ≤ r.hi := by
  simp only [applies, Bool.and_eq_true, decide_eq_true_eq] at h
  exact h.1

theorem not_applies_image {r s : CaseRule} (h : r.avoids s = true) {n : Nat} (hn : r.applies n = true) :
    s.applies (r.image n) = false := by
  obtain ⟨hlo, hhi⟩ := range_of_applies hn
  have himage := r.image_mono hlo
  have himage' := r.image_mono hhi
  simp only [avoids, Bool.or_eq_true, Nat.blt_eq, List.all_eq_true, List.mem_range] at h
  rcases h with (h | h) | h
  · simp only [applies, Bool.and_eq_false_iff, decide_eq_false_iff_not]
    omega
  · simp only [applies, Bool.and_eq_false_iff, decide_eq_false_iff_not]
    omega
  · have hi := h (n - r.lo) (by omega)
    rw [Nat.add_sub_cancel' hlo, hn] at hi
    simpa using hi

/-- What a rule maps a code point to is the code point of a character. -/
theorem toNat_ofNat_image {r : CaseRule} (h : r.isProper = true) {n : Nat} (hn : r.applies n = true) :
    (Char.ofNat (r.image n)).toNat = r.image n := by
  obtain ⟨hlo, hhi⟩ := range_of_applies hn
  have hle := r.image_mono hlo
  have hge := r.image_mono hhi
  simp only [isProper, Bool.and_eq_true, Bool.or_eq_true, decide_eq_true_eq] at h
  have hchar : (r.image n).isValidChar := by
    rcases h.1.1 with hvalid | ⟨hlow, hhigh⟩
    · exact .inl (by omega)
    · exact .inr ⟨by omega, by omega⟩
  rw [Char.ofNat, dif_pos hchar]
  rfl

end CaseRule

theorem lowerRules_avoid : (lowerRules.all fun r => lowerRules.all fun s => r.avoids s) = true := by
  decide +kernel

theorem lowerRules_proper : lowerRules.all CaseRule.isProper = true := by
  decide +kernel

theorem foldRules_proper : foldRules.all CaseRule.isProper = true := by
  decide +kernel

theorem mapBy_cases (rules : List CaseRule) (n : Nat) :
    mapBy rules n = n ∨ ∃ r ∈ rules, r.applies n = true ∧ mapBy rules n = r.image n := by
  induction rules with
  | nil => exact .inl rfl
  | cons r rules ih =>
    rw [mapBy]
    split
    · exact .inl rfl
    · split
      next h => exact .inr ⟨r, List.mem_cons_self .., h, r.image_eq n⟩
      next =>
        rcases ih with h | ⟨r', hr', h⟩
        · exact .inl h
        · exact .inr ⟨r', List.mem_cons_of_mem r hr', h⟩

theorem mapBy_eq_self {rules : List CaseRule} {n : Nat} (h : ∀ r ∈ rules, r.applies n = false) : mapBy rules n = n := by
  rcases mapBy_cases rules n with hsame | ⟨r, hr, happlies, _⟩
  · exact hsame
  · rw [h r hr] at happlies
    cases happlies

/-! ## Single characters -/

/-- A character that lowering leaves alone. -/
structure IsLow (c : Char) : Prop where
  fixed : lowerChar c = c
  notDotted : c ≠ 'İ'

/-- A character with another lower-case form: the form is low, and not below the small letters. -/
theorem lowerChar_cases (c : Char) :
    lowerChar c = c ∨ (IsLow (lowerChar c) ∧ 'a'.toNat ≤ (lowerChar c).toNat) := by
  rcases mapBy_cases lowerRules c.toNat with hsame | ⟨r, hr, happlies, himage⟩
  · left
    rw [lowerChar, hsame, Char.ofNat_toNat]
  · right
    have hfixed : mapBy lowerRules (r.image c.toNat) = r.image c.toNat := mapBy_eq_self fun s hs =>
      CaseRule.not_applies_image (List.all_eq_true.1 (List.all_eq_true.1 lowerRules_avoid r hr) s hs) happlies
    have hproper := List.all_eq_true.1 lowerRules_proper r hr
    have hnat : (lowerChar c).toNat = r.image c.toNat := by
      rw [lowerChar, himage, CaseRule.toNat_ofNat_image hproper happlies]
    obtain ⟨hlo, hhi⟩ := CaseRule.range_of_applies happlies
    have hle := r.image_mono hlo
    have hge := r.image_mono hhi
    simp only [CaseRule.isProper, Bool.and_eq_true, Bool.or_eq_true, decide_eq_true_eq] at hproper
    obtain ⟨⟨_, hdotted⟩, hletter⟩ := hproper
    refine ⟨⟨?_, fun heq => ?_⟩, by omega⟩
    · rw [lowerChar, hnat, hfixed, ← hnat, Char.ofNat_toNat]
    · rw [heq] at hnat
      omega

theorem isLow_lowerChar {c : Char} (h : c ≠ 'İ') : IsLow (lowerChar c) := by
  rcases lowerChar_cases c with hsame | ⟨hlow, _⟩
  · rw [hsame]
    exact ⟨hsame, h⟩
  · exact hlow

theorem IsLow.notSigma {c : Char} (h : IsLow c) : c ≠ 'Σ' := by
  rintro rfl
  exact absurd h.fixed (by decide)

/-- No ASCII capital is low. -/
theorem IsLow.toLower_eq {c : Char} (h : IsLow c) : c.toLower = c := by
  refine dif_neg fun ⟨hlo, hhi⟩ => ?_
  have hge : 0x41 ≤ c.toNat := UInt32.le_iff_toNat_le.1 hlo
  have hle : c.toNat ≤ 0x5a := UInt32.le_iff_toNat_le.1 hhi
  have hrule : CaseRule.applies ⟨0x41, 0x5a, 1, 32⟩ c.toNat = true := by
    simp [CaseRule.applies, hge, hle, Nat.mod_one]
  have hnat : mapBy lowerRules c.toNat = c.toNat + 32 := by
    rw [lowerRules, mapBy, if_neg (Nat.not_lt.2 hge), if_pos hrule]
    rfl
  have hchar : (c.toNat + 32).isValidChar := .inl (by omega)
  have hfixed := congrArg Char.toNat h.fixed
  rw [lowerChar, hnat, Char.ofNat, dif_pos hchar] at hfixed
  have hself : c.toNat + 32 = c.toNat := hfixed
  omega

/-! ## Case variants -/

/-- Every character is a case variant of its own. -/
theorem mem_caseVariants_self (c : Char) : c ∈ caseVariants c := by
  rcases mapBy_cases foldRules c.toNat with hsame | ⟨r, hr, happlies, himage⟩
  · rw [caseVariants, fold, hsame, Char.ofNat_toNat]
    exact List.mem_cons_self ..
  · have hproper := List.all_eq_true.1 foldRules_proper r hr
    have hnat : (fold c).toNat = r.image c.toNat := by
      rw [fold, himage, CaseRule.toNat_ofNat_image hproper happlies]
    have hletter : 'a'.toNat ≤ r.image c.toNat := by
      simp only [CaseRule.isProper, Bool.and_eq_true, decide_eq_true_eq] at hproper
      exact Nat.le_trans hproper.2 (r.image_mono (CaseRule.range_of_applies happlies).1)
    -- The rule that folds `c` is undone among the variants.
    have hback : (((fold c).toNat : Int) - r.delta).toNat = c.toNat := by
      have hpos : 0 < 'a'.toNat := by decide
      rw [← CaseRule.image_eq] at hletter hnat
      omega
    refine List.mem_cons_of_mem _ (List.mem_filterMap.2 ⟨r, hr, ?_⟩)
    rw [hback, if_pos happlies, Char.ofNat_toNat]

/-! ## Texts -/

theorem isLow_of_mem_toLowerAfter {behind t : Text} {c : Char} (h : c ∈ toLowerAfter behind t) : IsLow c := by
  induction t generalizing behind with
  | nil => simp [toLowerAfter] at h
  | cons d t ih =>
    rw [toLowerAfter] at h
    rcases List.mem_append.1 h with h | h
    · split at h
      · split at h <;> rw [List.mem_singleton] at h <;> subst h <;> exact ⟨by decide, by decide⟩
      · split at h
        · simp only [List.mem_cons, List.not_mem_nil, or_false] at h
          rcases h with rfl | rfl <;> exact ⟨by decide, by decide⟩
        next hdotted =>
          rw [List.mem_singleton] at h
          subst h
          exact isLow_lowerChar hdotted
    · exact ih h

/-- Every character of a lowered text is low. -/
theorem lowered_toLower {t : Text} : ∀ c ∈ toLower t, IsLow c := fun _ h => isLow_of_mem_toLowerAfter h

theorem toLowerAfter_eq_self {behind t : Text} (h : ∀ c ∈ t, IsLow c) : toLowerAfter behind t = t := by
  induction t generalizing behind with
  | nil => rfl
  | cons c t ih =>
    have hc := h c (List.mem_cons_self ..)
    rw [toLowerAfter, if_neg hc.notSigma, if_neg hc.notDotted, hc.fixed,
      ih fun d hd => h d (List.mem_cons_of_mem c hd)]
    rfl

theorem toLower_eq_self {t : Text} (h : ∀ c ∈ t, IsLow c) : toLower t = t := toLowerAfter_eq_self h

theorem toLower_toLower (t : Text) : toLower (toLower t) = toLower t := toLower_eq_self lowered_toLower

theorem length_toLowerAfter {behind t : Text} (h : 'İ' ∉ t) : (toLowerAfter behind t).length = t.length := by
  induction t generalizing behind with
  | nil => rfl
  | cons c t ih =>
    rw [List.mem_cons, not_or] at h
    rw [toLowerAfter, List.length_append, ih h.2, if_neg (Ne.symm h.1), List.length_cons, Nat.add_comm]
    split
    · split <;> rfl
    · rfl

/-- Lowering makes no new character below the small letters. -/
theorem mem_of_mem_toLowerAfter {behind t : Text} {c : Char} (h : c ∈ toLowerAfter behind t)
    (hc : c.toNat < 'a'.toNat) : c ∈ t := by
  induction t generalizing behind with
  | nil => exact h
  | cons d t ih =>
    rw [toLowerAfter] at h
    rcases List.mem_append.1 h with h | h
    · split at h
      · split at h <;> rw [List.mem_singleton] at h <;> subst h <;> exact absurd hc (by decide)
      · split at h
        · simp only [List.mem_cons, List.not_mem_nil, or_false] at h
          rcases h with rfl | rfl <;> exact absurd hc (by decide)
        next =>
          rw [List.mem_singleton] at h
          subst h
          rcases lowerChar_cases d with hsame | ⟨_, hletter⟩
          · rw [hsame]
            exact List.mem_cons_self ..
          · omega
    · exact List.mem_cons_of_mem d (ih h)

theorem asciiLower_toLower (t : Text) : Text.asciiLower (toLower t) = toLower t := by
  rw [Text.asciiLower, List.map_congr_left fun c hc => (lowered_toLower c hc).toLower_eq, List.map_id']

end Unicode

/-! ## Truth values -/

/-- The texts of truth values hold blanks and some letters only. -/
theorem chars_of_readBool? {v : Text} (h : (readBool? v).isSome = true) {c : Char} (hc : c ∈ v) :
    Text.isBlank c = true ∨ c.toLower ∈ "truefalse".toList := by
  rcases Text.mem_trim hc with hblank | htrim
  · exact .inl hblank
  · refine .inr ?_
    have hlower : c.toLower ∈ Text.asciiLower (Text.trim v) := List.mem_map_of_mem htrim
    rw [readBool?] at h
    split at h
    next hword =>
      rw [eq_of_beq hword] at hlower
      exact List.mem_append_left "false".toList hlower
    next =>
      split at h
      next hword =>
        rw [eq_of_beq hword] at hlower
        exact List.mem_append_right "true".toList hlower
      next => cases h

namespace Secret

/-- Lowering a truth value keeps its length, since no dotted capital i is in it. -/
theorem length_lowerBool (enabled : Bool) (v : Text) : (lowerBool enabled v).length = v.length := by
  rw [lowerBool]
  split
  next h =>
    rw [Bool.and_eq_true] at h
    refine Unicode.length_toLowerAfter fun hdotted => ?_
    rcases chars_of_readBool? h.2 hdotted with hblank | hletter
    · exact absurd hblank (by decide)
    · exact absurd hletter (by decide)
  next => rfl

/-- Lowering concerns no text with a dollar sign, and makes none. -/
theorem lowerBool_cases (enabled : Bool) (v : Text) :
    lowerBool enabled v = v ∨ ('$' ∉ v ∧ '$' ∉ lowerBool enabled v) := by
  rw [lowerBool]
  split
  next h =>
    rw [Bool.and_eq_true] at h
    have hv : '$' ∉ v := fun hdollar => by
      rcases chars_of_readBool? h.2 hdollar with hblank | hletter
      · exact absurd hblank (by decide)
      · exact absurd hletter (by decide)
    exact .inr ⟨hv, fun hdollar => hv (Unicode.mem_of_mem_toLowerAfter hdollar (by decide))⟩
  next => exact .inl rfl

end Secret

end Placeholder
