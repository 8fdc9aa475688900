/-
How digits are put in places. What is shown for a section are its digits, each once and in their order, with the
signs that stand between the places (`withoutSigns_renderWhole`, `withoutSigns_place`): the places are filled from
the right, and digits that are too many go to the first one. Before that the digits are padded or trimmed, which
does not change the number they denote; and groups of three are parted by commas where a comma stands between two
places (`groups_iff`).
-/
import Mathlib.Data.List.TakeWhile
import Placeholder.Display.Custom
import Placeholder.Proofs.Digits

namespace Placeholder.Display

open Text

/-! ## Padding and trimming -/

/-- The integer digits are padded to `least` places exactly: what is longer has no zero in front. -/
theorem wholeDigits_ofNat (least n : Nat) :
    IsDigits (wholeDigits least (ofNat n)) ∧ natOfDigits (wholeDigits least (ofNat n)) = n ∧
      least ≤ (wholeDigits least (ofNat n)).length ∧
      (least < (wholeDigits least (ofNat n)).length → (wholeDigits least (ofNat n)).head? ≠ some '0') := by
  have hzero : ofNat n = ['0'] ↔ n = 0 := by
    constructor
    · intro h
      rw [← natOfDigits_ofNat n, h]
      rfl
    · rintro rfl
      rfl
  rw [wholeDigits]
  by_cases hn : n = 0
  · rw [if_pos (hzero.2 hn), hn, length_padLeft]
    refine ⟨isDigits_padLeft isDigits_nil _, natOfDigits_padLeft _ _, Nat.le_max_left .., fun h => ?_⟩
    rw [List.length_nil] at h
    omega
  · rw [if_neg fun h => hn (hzero.1 h), length_padLeft]
    refine ⟨isDigits_padLeft (isDigits_ofNat n) _, ?_, Nat.le_max_left .., fun h => ?_⟩
    · rw [natOfDigits_padLeft, natOfDigits_ofNat]
    · rw [padLeft_of_le (by omega)]
      exact head?_ofNat hn

/-- What a fraction loses is zeros at its end. -/
theorem trimFraction_append (least : Nat) (digits : Text) :
    ∃ n, digits = trimFraction least digits ++ List.replicate n '0' := by
  obtain ⟨n, hn⟩ := dropTrailing_append '0' (digits.drop least)
  exact ⟨n, by rw [trimFraction, List.append_assoc, ← hn, List.take_append_drop]⟩

/-- A fraction loses zeros at its end, but none of its first `least` digits. -/
theorem trimFraction_spec {least : Nat} {digits : Text} (hleast : least ≤ digits.length) (hdigits : IsDigits digits) :
    IsDigits (trimFraction least digits) ∧ fractionOfDigits (trimFraction least digits) = fractionOfDigits digits ∧
      least ≤ (trimFraction least digits).length ∧ (trimFraction least digits).length ≤ digits.length ∧
      (least < (trimFraction least digits).length → (trimFraction least digits).getLast? ≠ some '0') := by
  obtain ⟨n, hsplit⟩ := trimFraction_append least digits
  have hlength : (trimFraction least digits).length = least + (dropTrailing '0' (digits.drop least)).length := by
    rw [trimFraction, List.length_append, List.length_take, Nat.min_eq_left hleast]
  have hdigits' := hdigits
  rw [hsplit] at hdigits'
  refine ⟨(isDigits_append.1 hdigits').1, ?_, ?_, ?_, fun h => ?_⟩
  · rw [hsplit, fractionOfDigits_append_zeros, ← hsplit]
  · omega
  · have := congrArg List.length hsplit
    rw [List.length_append] at this
    omega
  · have hne : dropTrailing '0' (digits.drop least) ≠ [] := List.ne_nil_of_length_pos (by omega)
    rw [trimFraction, List.getLast?_append_of_ne_nil _ hne]
    exact getLast?_dropTrailing '0' _

/-! ## Places -/

theorem ne_sign_of_digit {c : Char} (h : isAsciiDigit c = true) : c ≠ '%' ∧ c ≠ '‰' := by
  constructor <;> rintro rfl <;> exact absurd h (by decide)

theorem ne_comma_of_digit {c : Char} (h : isAsciiDigit c = true) : c ≠ ',' := by
  rintro rfl
  exact absurd h (by decide)

/-- A text without its percent and per-mille signs. -/
def withoutSigns (t : Text) : Text := t.filter fun c => c != '%' && c != '‰'

theorem withoutSigns_append (a b : Text) : withoutSigns (a ++ b) = withoutSigns a ++ withoutSigns b :=
  List.filter_append ..

theorem withoutSigns_eq {t : Text} (h : ∀ c ∈ t, c = ',' ∨ isAsciiDigit c = true) : withoutSigns t = t := by
  refine List.filter_eq_self.2 fun c hc => ?_
  rcases h c hc with rfl | hdigit
  · decide
  · simp [ne_sign_of_digit hdigit]

theorem withoutSigns_digits {t : Text} (h : IsDigits t) : withoutSigns t = t := withoutSigns_eq fun c hc => .inr (h c hc)

/-- A token that shows no text of its own but signs. -/
def Token.IsBare (t : Token) : Prop := withoutSigns t.ownText = []

/-- Where there are places enough, all that is to be shown is shown, in its order. -/
theorem withoutSigns_place {tokens : List Token} {shown : List Text} (hbare : ∀ t ∈ tokens, t.IsBare)
    (h : shown.length ≤ tokens.countP Token.isPlace) :
    withoutSigns (place tokens shown) = withoutSigns shown.flatten := by
  induction tokens generalizing shown with
  | nil =>
    obtain rfl : shown = [] := List.length_eq_zero_iff.1 (Nat.le_zero.1 h)
    rfl
  | cons t tokens ih =>
    have hrest := fun t' ht' => hbare t' (List.mem_cons_of_mem t ht')
    rw [List.countP_cons] at h
    by_cases ht : t.isPlace = true
    · rw [if_pos ht] at h
      cases shown with
      | nil =>
        simp only [place, ht, if_true]
        exact ih hrest (Nat.zero_le _)
      | cons s shown =>
        rw [List.length_cons, Nat.add_le_add_iff_right] at h
        simp only [place, ht, if_true]
        rw [List.flatten_cons, withoutSigns_append, withoutSigns_append, ih hrest h]
    · rw [if_neg ht, Nat.add_zero] at h
      have hplace : place (t :: tokens) shown = t.ownText ++ place tokens shown := by
        cases shown <;> simp only [place, ht, if_false, Bool.false_eq_true]
      rw [hplace, withoutSigns_append, hbare t (List.mem_cons_self ..), ih hrest h, List.nil_append]

theorem flatten_map_singleton (t : Text) : (t.map fun c => [c]).flatten = t := by
  rw [← List.flatMap_def]
  exact List.flatMap_singleton' t

/-- Each digit is in one share. -/
theorem flatten_shares {n : Nat} (hn : 0 < n) (digits : Text) :
    (shares n digits).flatten = digits ∧ (shares n digits).length = n := by
  rw [shares]
  split
  next h =>
    refine ⟨?_, ?_⟩
    · rw [List.flatten_append, List.flatten_replicate_nil, List.nil_append, flatten_map_singleton]
    · rw [List.length_append, List.length_replicate, List.length_map]
      omega
  next h =>
    refine ⟨?_, ?_⟩
    · rw [List.flatten_cons, flatten_map_singleton, List.take_append_drop]
    · rw [List.length_cons, List.length_map, List.length_drop]
      omega

/-! ## Groups -/

/-- The groups of three digits, counted from the end. -/
def thousands : Text → List Text
  | [] => []
  | c :: rest =>
    match thousands rest with
    | [] => [[c]]
    | first :: others => if first.length = 3 then [c] :: first :: others else (c :: first) :: others

theorem thousands_cons (c : Char) {t first : Text} {others : List Text} (h : thousands t = first :: others) :
    thousands (c :: t) = if first.length = 3 then [c] :: first :: others else (c :: first) :: others := by
  rw [thousands, h]

/-- The digits are all in the groups; the first group may be short, and the others are of three digits. -/
theorem thousands_spec (t : Text) : (thousands t).flatten = t ∧
    (t ≠ [] → ∃ first others, thousands t = first :: others ∧ first.length = (t.length - 1) % 3 + 1 ∧
      ∀ group ∈ others, group.length = 3) := by
  induction t with
  | nil => simp [thousands]
  | cons c t ih =>
    obtain ⟨hflatten, hgroups⟩ := ih
    cases t with
    | nil => simp [thousands]
    | cons d t =>
      obtain ⟨first, others, hthousands, hfirst, hothers⟩ := hgroups (List.cons_ne_nil _ _)
      rw [hthousands, List.flatten_cons] at hflatten
      rw [List.length_cons, Nat.add_sub_cancel] at hfirst
      rw [thousands_cons c hthousands]
      by_cases hfull : first.length = 3
      · simp only [hfull, if_true]
        refine ⟨by simp [hflatten], fun _ => ⟨_, _, rfl, ?_, ?_⟩⟩
        · simp only [List.length_cons, List.length_nil]
          omega
        · exact List.forall_mem_cons.2 ⟨hfull, hothers⟩
      · simp only [hfull, if_false]
        refine ⟨by simp [hflatten], fun _ => ⟨_, _, rfl, ?_, hothers⟩⟩
        simp only [List.length_cons]
        omega

theorem joinWith_cons_cons (c : Char) (first : Text) (others : List Text) (separator : Text) :
    joinWith separator ((c :: first) :: others) = c :: joinWith separator (first :: others) := by
  cases others <;> simp [joinWith]

theorem mem_groupThousands {c : Char} {t : Text} (h : c ∈ groupThousands t) : c = ',' ∨ c ∈ t := by
  induction t with
  | nil => exact .inr h
  | cons d t ih =>
    rw [groupThousands] at h
    split at h
    · simp only [List.mem_cons] at h ⊢
      rcases h with h | h | h
      · exact .inr (.inl h)
      · exact .inl h
      · exact (ih h).imp_right .inr
    · simp only [List.mem_cons] at h ⊢
      rcases h with h | h
      · exact .inr (.inl h)
      · exact (ih h).imp_right .inr

/-- The commas part the groups. -/
theorem groupThousands_eq (t : Text) : groupThousands t = joinWith [','] (thousands t) := by
  induction t with
  | nil => rfl
  | cons c t ih =>
    cases t with
    | nil => rfl
    | cons d t =>
      obtain ⟨first, others, hthousands, hfirst, -⟩ := (thousands_spec (d :: t)).2 (List.cons_ne_nil _ _)
      rw [List.length_cons, Nat.add_sub_cancel] at hfirst
      rw [groupThousands, ih, thousands_cons c hthousands, hthousands]
      by_cases hfull : first.length = 3
      · have hmod : (t.length + 1) % 3 = 0 := by omega
        simp [hfull, hmod, joinWith]
      · have hmod : ¬ (d :: t).length % 3 = 0 := by rw [List.length_cons]; omega
        simp only [hfull, hmod, decide_false, Bool.false_and, Bool.false_eq_true, if_false]
        rw [joinWith_cons_cons]

/-- A text without its commas. -/
def withoutCommas (t : Text) : Text := t.filter (· != ',')

theorem withoutCommas_append (a b : Text) : withoutCommas (a ++ b) = withoutCommas a ++ withoutCommas b :=
  List.filter_append ..

theorem withoutCommas_digits {t : Text} (h : IsDigits t) : withoutCommas t = t := by
  refine List.filter_eq_self.2 fun c hc => ?_
  simp [ne_comma_of_digit (h c hc)]

theorem withoutCommas_groupThousands (t : Text) : withoutCommas (groupThousands t) = withoutCommas t := by
  induction t with
  | nil => rfl
  | cons c t ih =>
    have hcons : ∀ u, withoutCommas (c :: u) = withoutCommas [c] ++ withoutCommas u :=
      fun u => withoutCommas_append [c] u
    have hcomma : ∀ u, withoutCommas (',' :: u) = withoutCommas u := fun _ => rfl
    rw [groupThousands]
    split
    · rw [hcons, hcomma, ih, ← hcons]
    · rw [hcons, ih, ← hcons]

/-! ## Digits other than zero -/

theorem hasNonzeroDigit_append (a b : Text) : hasNonzeroDigit (a ++ b) = (hasNonzeroDigit a || hasNonzeroDigit b) :=
  List.any_append

theorem hasNonzeroDigit_zeros (n : Nat) : hasNonzeroDigit (List.replicate n '0') = false := by
  rw [hasNonzeroDigit, List.any_eq_false]
  intro c hc
  rw [List.eq_of_mem_replicate hc]
  decide

/-- Leaving out what is no digit leaves the digits. -/
theorem hasNonzeroDigit_filter {p : Char → Bool} (hp : ∀ c, isAsciiDigit c = true → p c = true) (t : Text) :
    hasNonzeroDigit (t.filter p) = hasNonzeroDigit t := by
  rw [hasNonzeroDigit, hasNonzeroDigit, List.any_filter]
  congr 1
  funext c
  cases hc : isAsciiDigit c with
  | true => rw [hp c hc, Bool.true_and]
  | false => rw [Bool.false_and, Bool.and_false]

theorem hasNonzeroDigit_withoutSigns (t : Text) : hasNonzeroDigit (withoutSigns t) = hasNonzeroDigit t :=
  hasNonzeroDigit_filter (fun c hc => by simp [ne_sign_of_digit hc]) t

theorem hasNonzeroDigit_withoutCommas (t : Text) : hasNonzeroDigit (withoutCommas t) = hasNonzeroDigit t :=
  hasNonzeroDigit_filter (fun c hc => by simp [ne_comma_of_digit hc]) t

/-- Commas between the digits do not make them other digits. -/
theorem hasNonzeroDigit_groupThousands (t : Text) : hasNonzeroDigit (groupThousands t) = hasNonzeroDigit t := by
  rw [← hasNonzeroDigit_withoutCommas, withoutCommas_groupThousands, hasNonzeroDigit_withoutCommas]

theorem hasNonzeroDigit_iff {t : Text} (h : IsDigits t) : hasNonzeroDigit t = true ↔ natOfDigits t ≠ 0 := by
  rw [ne_eq, natOfDigits_eq_zero h, hasNonzeroDigit, List.any_eq_true]
  constructor
  · rintro ⟨c, hc, hnonzero⟩ hall
    rw [hall c hc] at hnonzero
    revert hnonzero
    decide
  · intro hnot
    by_contra hnone
    refine hnot fun c hc => ?_
    by_contra hne
    exact hnone ⟨c, hc, by simp [h c hc, hne]⟩

/-- The digits on the two sides of a point are all zeros if they denote zero. -/
theorem hasNonzeroDigit_sides {digits places : Text} (hdigits : IsDigits digits) (hplaces : IsDigits places) :
    (hasNonzeroDigit digits || hasNonzeroDigit places) = true ↔
      (natOfDigits digits : ℚ) + fractionOfDigits places ≠ 0 := by
  have hwhole : (0 : ℚ) ≤ natOfDigits digits := by positivity
  have hfraction : (0 : ℚ) ≤ fractionOfDigits places := by
    rw [fractionOfDigits]
    positivity
  have hzero : fractionOfDigits places = 0 ↔ natOfDigits places = 0 := by
    rw [fractionOfDigits, div_eq_zero_iff, or_iff_left (by positivity), Nat.cast_eq_zero]
  rw [Bool.or_eq_true, hasNonzeroDigit_iff hdigits, hasNonzeroDigit_iff hplaces, ne_eq, ne_eq, ne_eq,
    add_eq_zero_iff_of_nonneg hwhole hfraction, hzero, Nat.cast_eq_zero, not_and_or]

/-! ## Commas between places -/

/-- The tokens up to the last place. -/
def upToLastPlace (tokens : List Token) : List Token := (tokens.reverse.dropWhile fun t => !t.isPlace).reverse

theorem upToLastPlace_append (tokens : List Token) : upToLastPlace tokens ++ afterLastPlace tokens = tokens := by
  rw [upToLastPlace, afterLastPlace, ← List.reverse_append, List.takeWhile_append_dropWhile, List.reverse_reverse]

theorem take_eq_upToLastPlace (tokens : List Token) :
    tokens.take (tokens.length - (afterLastPlace tokens).length) = upToLastPlace tokens := by
  have hlength := congrArg List.length (upToLastPlace_append tokens)
  rw [List.length_append] at hlength
  conv_lhs => rw [← upToLastPlace_append tokens]
  rw [List.take_left' (by rw [upToLastPlace_append]; omega)]

theorem dropWhile_ne_nil {tokens : List Token} (h : tokens.any Token.isPlace = true) :
    (tokens.dropWhile fun t => !t.isPlace) ≠ [] := by
  obtain ⟨t, ht, hplace⟩ := List.any_eq_true.1 h
  rw [ne_eq, List.dropWhile_eq_nil_iff]
  intro hall
  have hnot := hall t ht
  rw [hplace] at hnot
  cases hnot

/-- Thousands are grouped where a comma has a place before it and another behind it. -/
theorem groups_iff (whole : List Token) : groups whole = true ↔ ∃ before after, whole = before ++ .comma :: after ∧
    before.any Token.isPlace = true ∧ after.any Token.isPlace = true := by
  rw [groups, take_eq_upToLastPlace, List.contains_iff_mem]
  constructor
  · intro hcomma
    obtain ⟨x, y, hxy⟩ := List.append_of_mem hcomma
    have hinner : x ++ .comma :: (y ++ afterLastPlace (fromFirstPlace whole)) = fromFirstPlace whole := by
      rw [← List.cons_append, ← List.append_assoc, ← hxy, upToLastPlace_append]
    refine ⟨whole.takeWhile (fun t => !t.isPlace) ++ x, y ++ afterLastPlace (fromFirstPlace whole), ?_, ?_, ?_⟩
    · rw [List.append_assoc, hinner, fromFirstPlace, List.takeWhile_append_dropWhile]
    -- What is left from the first place on starts with one, and a comma is none.
    · have hhead := List.head?_dropWhile_not (fun t : Token => !t.isPlace) whole
      rw [← fromFirstPlace, ← hinner] at hhead
      cases x with
      | nil => simp [Token.isPlace] at hhead
      | cons t x =>
        rw [List.any_append]
        simp at hhead
        simp [hhead]
    -- In the same way what is left up to the last place ends in one.
    · have hlast := List.head?_dropWhile_not (fun t : Token => !t.isPlace) (fromFirstPlace whole).reverse
      rw [← List.getLast?_reverse, ← upToLastPlace, hxy] at hlast
      cases hy : y.getLast? with
      | none =>
        rw [List.getLast?_eq_none_iff] at hy
        simp [hy, Token.isPlace] at hlast
      | some t =>
        rw [List.getLast?_append, List.getLast?_cons, hy] at hlast
        simp at hlast
        rw [List.any_append, List.any_eq_true.2 ⟨t, List.mem_of_getLast? hy, hlast⟩, Bool.true_or]
  · rintro ⟨before, after, rfl, hbefore, hafter⟩
    have hfirst : fromFirstPlace (before ++ .comma :: after) = fromFirstPlace before ++ .comma :: after := by
      rw [fromFirstPlace, List.dropWhile_append, if_neg (by simpa using dropWhile_ne_nil hbefore), fromFirstPlace]
    have hafter' : after.reverse.any Token.isPlace = true := by rwa [List.any_reverse]
    have hlast : upToLastPlace (fromFirstPlace before ++ .comma :: after) =
        fromFirstPlace before ++ .comma :: upToLastPlace after := by
      rw [upToLastPlace, List.reverse_append, List.reverse_cons, List.append_assoc, List.dropWhile_append,
        if_neg (by simpa using dropWhile_ne_nil hafter')]
      simp [upToLastPlace]
    rw [hfirst, hlast]
    simp

/-- What is shown for the whole: its digits, in groups where a comma asks for them. -/
theorem withoutSigns_renderWhole {tokens : List Token} {digits : Text} (hbare : ∀ t ∈ tokens, t.IsBare)
    (hdigits : IsDigits digits) :
    withoutSigns (renderWhole tokens digits) = if groups tokens then groupThousands digits else digits := by
  have hgrouped : ∀ c ∈ groupThousands digits, c = ',' ∨ isAsciiDigit c = true := fun c hc =>
    (mem_groupThousands hc).imp_right (hdigits c)
  rw [renderWhole]
  by_cases hnone : tokens.countP Token.isPlace = 0
  · have hgroups : ¬ groups tokens = true := by
      rw [groups_iff]
      rintro ⟨before, after, rfl, hbefore, -⟩
      obtain ⟨t, ht, hplace⟩ := List.any_eq_true.1 hbefore
      exact List.countP_eq_zero.1 hnone t (List.mem_append_left _ ht) hplace
    rw [if_pos hnone, if_neg hgroups, withoutSigns_append, withoutSigns_place hbare (Nat.zero_le _),
      withoutSigns_digits hdigits]
    rfl
  · rw [if_neg hnone]
    by_cases hgroups : groups tokens = true
    · have hroom : [groupThousands digits].length ≤ tokens.countP Token.isPlace := Nat.pos_of_ne_zero hnone
      rw [if_pos hgroups, if_pos hgroups, withoutSigns_place hbare hroom, List.flatten_singleton,
        withoutSigns_eq hgrouped]
    · obtain ⟨hflatten, hlength⟩ := flatten_shares (Nat.pos_of_ne_zero hnone) digits
      rw [if_neg hgroups, if_neg hgroups, withoutSigns_place hbare (Nat.le_of_eq hlength), hflatten,
        withoutSigns_digits hdigits]

end Placeholder.Display
