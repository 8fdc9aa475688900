/-
The grammar of tags, said without patterns: what stands between an opening and a closing text, for
live and for escaped tags alike.

`recognise?` reads a tag at the start of a text. `Proofs.Tag.Recognition` shows that the patterns of
live and of escaped tags find exactly these tags.
-/
import Placeholder.Proofs.Text
import Placeholder.Tag

namespace Placeholder.Tag

/-- The characters of keys. -/
def isKeyChar (c : Char) : Bool := Unicode.isWord c || c == ':' || c == '|' || c == '.'

/-- The key at the start of a text: the longest run of key characters that begins and ends with a word
character. It is empty if there is none. -/
def keyAhead : Text → Text
  | [] => []
  | c :: t => if Unicode.isWord c then Text.upToLast Unicode.isWord ((c :: t).takeWhile isKeyChar) else []

/-- The rest of a clause behind its opening bracket: all up to the first `]` that `closing` follows, if
it comes before the end of the line. -/
def bodyAhead? (closing : Text) : Text → Option Text
  | [] => none
  | c :: t =>
    if c = ']' ∧ (Text.afterHead? closing t).isSome then some [c]
    else if c = '\n' then none
    else (bodyAhead? closing t).map (c :: ·)

/-- The clause at the start of a text, with its brackets and the colon or equals sign before them. -/
def clauseAhead? (closing : Text) : Text → Option Text
  | [] => none
  | c :: t =>
    if c = '[' then (bodyAhead? closing t).map (c :: ·)
    else if c = '=' ∨ c = ':' then (Text.afterHead? ['['] t).bind fun body =>
      (bodyAhead? closing body).map fun b => c :: '[' :: b
    else none

/-- The tag at the start of a text: a key between `opening` and `closing`, or a key and a clause. -/
def recognise? (opening closing t : Text) : Option Tag := do
  let rest ← Text.afterHead? opening t
  let key := keyAhead rest
  if key = [] then none
  else match clauseAhead? closing (rest.drop key.length) with
    | some clause => some ⟨opening ++ key ++ clause ++ closing, key, some clause⟩
    | none =>
      if (Text.afterHead? closing (rest.drop key.length)).isSome then
        some ⟨opening ++ key ++ closing, key, none⟩
      else none

/-- The text cut at the tags that stand between `opening` and `closing`, from left to right. -/
def cut (opening closing : Text) : Text → List Segment
  | [] => []
  | c :: t => match recognise? opening closing (c :: t) with
    | some g => .tag g :: cut opening closing (t.drop (g.raw.length - 1))
    | none => .plain c :: cut opening closing t
termination_by t => t.length

/-! ## Keys -/

/-- A key: key characters, of which the first and the last are word characters. -/
structure IsKey (k : Text) : Prop where
  chars : ∀ c ∈ k, isKeyChar c = true
  first : ∃ c, k.head? = some c ∧ Unicode.isWord c = true
  last : ∃ c, k.getLast? = some c ∧ Unicode.isWord c = true

theorem isKeyChar_of_isWord {c : Char} (h : Unicode.isWord c = true) : isKeyChar c = true := by
  simp [isKeyChar, h]

theorem IsKey.ne_nil {k : Text} (h : IsKey k) : k ≠ [] := by
  rintro rfl
  obtain ⟨c, hc, _⟩ := h.first
  simp at hc

theorem keyAhead_prefix (t : Text) : ∃ rest, t = keyAhead t ++ rest := by
  cases t with
  | nil => exact ⟨[], rfl⟩
  | cons c t =>
    rw [keyAhead]
    split
    · obtain ⟨rest, h⟩ := Text.upToLast_prefix Unicode.isWord ((c :: t).takeWhile isKeyChar)
      refine ⟨rest ++ (c :: t).dropWhile isKeyChar, ?_⟩
      rw [← List.append_assoc, ← h, List.takeWhile_append_dropWhile]
    · exact ⟨c :: t, rfl⟩

theorem append_drop_keyAhead (t : Text) : keyAhead t ++ t.drop (keyAhead t).length = t := by
  obtain ⟨rest, h⟩ := keyAhead_prefix t
  generalize keyAhead t = k at h ⊢
  subst h
  rw [List.drop_left]

theorem isKey_keyAhead {t : Text} (h : keyAhead t ≠ []) : IsKey (keyAhead t) := by
  cases t with
  | nil => exact absurd rfl h
  | cons c t =>
    rw [keyAhead] at h ⊢
    split at h
    next hc =>
      rw [if_pos hc]
      obtain ⟨rest, hrun⟩ := Text.upToLast_prefix Unicode.isWord ((c :: t).takeWhile isKeyChar)
      refine ⟨fun d hd => ?_, ⟨c, ?_, hc⟩, ?_⟩
      · have hmem : d ∈ (c :: t).takeWhile isKeyChar := by
          rw [hrun]
          exact List.mem_append_left rest hd
        exact List.all_eq_true.1 List.all_takeWhile d hmem
      · rw [List.takeWhile_cons, if_pos (isKeyChar_of_isWord hc)] at hrun h ⊢
        cases hup : Text.upToLast Unicode.isWord (c :: t.takeWhile isKeyChar) with
        | nil => exact absurd hup h
        | cons d u =>
          rw [hup, List.cons_append, List.cons.injEq] at hrun
          rw [List.head?_cons, hrun.1]
      · obtain ⟨d, hd⟩ := Option.isSome_iff_exists.1 (List.getLast?_isSome.2 h)
        exact ⟨d, hd, Text.getLast?_upToLast hd⟩
    next => exact absurd rfl h

/-- No key at the start of a text is longer than the one ahead. -/
theorem IsKey.length_le {k : Text} (h : IsKey k) (rest : Text) : k.length ≤ (keyAhead (k ++ rest)).length := by
  obtain ⟨c, hc, hword⟩ := h.first
  obtain ⟨d, hd, hlast⟩ := h.last
  cases k with
  | nil => exact Nat.zero_le _
  | cons c' k =>
    simp only [List.head?_cons, Option.some.injEq] at hc
    subst hc
    rw [List.cons_append, keyAhead, if_pos hword, ← List.cons_append, List.takeWhile_append_of_pos h.chars]
    exact Text.length_le_upToLast hd hlast

/-- A key ends where no key character follows. -/
theorem IsKey.keyAhead_append {k rest : Text} (h : IsKey k) (hrest : ∀ c ∈ rest.head?, isKeyChar c = false) :
    keyAhead (k ++ rest) = k := by
  have hle := h.length_le rest
  have hne : keyAhead (k ++ rest) ≠ [] := by
    intro h0
    rw [h0, List.length_nil, Nat.le_zero, List.length_eq_zero_iff] at hle
    exact h.ne_nil hle
  have hkey := isKey_keyAhead hne
  obtain ⟨r, hr⟩ := keyAhead_prefix (k ++ rest)
  -- What the key ahead has behind `k` would begin with a key character.
  rcases List.append_eq_append_iff.1 hr with ⟨a, ha, hb⟩ | ⟨a, ha, hb⟩
  · cases a with
    | nil => rw [ha, List.append_nil]
    | cons c a =>
      have hmem : c ∈ keyAhead (k ++ rest) := by
        rw [ha]
        simp
      have hc := hkey.chars c hmem
      rw [hrest c (by rw [hb]; rfl)] at hc
      cases hc
  · have hlen := congrArg List.length ha
    rw [List.length_append] at hlen
    have ha0 : a = [] := List.length_eq_zero_iff.1 (by omega)
    rw [ha0, List.append_nil] at ha
    exact ha.symm

/-- A key that is not the longest is followed by a key character, and not by a colon and a bracket. -/
theorem IsKey.behind_shorter {k v : Text} (hlt : k.length < (keyAhead (k ++ v)).length) :
    ∃ c u, v = c :: u ∧ isKeyChar c = true ∧ (Unicode.isWord c = true ∨ ∃ d ∈ u.head?, isKeyChar d = true) := by
  have hne : keyAhead (k ++ v) ≠ [] := by
    intro h0
    rw [h0] at hlt
    exact absurd hlt (Nat.not_lt_zero _)
  have hkey := isKey_keyAhead hne
  obtain ⟨r, hr⟩ := keyAhead_prefix (k ++ v)
  generalize keyAhead (k ++ v) = key at *
  rcases List.append_eq_append_iff.1 hr with ⟨a, rfl, rfl⟩ | ⟨a, rfl, -⟩
  · cases a with
    | nil =>
      rw [List.append_nil] at hlt
      exact absurd hlt (Nat.lt_irrefl _)
    | cons c a =>
      refine ⟨c, a ++ r, rfl, hkey.chars c (by simp), ?_⟩
      cases a with
      | nil =>
        obtain ⟨d, hd, hword⟩ := hkey.last
        rw [List.getLast?_concat, Option.some.injEq] at hd
        exact .inl (hd ▸ hword)
      | cons d a => exact .inr ⟨d, by simp, hkey.chars d (by simp)⟩
  · rw [List.length_append] at hlt
    omega

/-! ## Clauses -/

theorem bodyAhead?_prefix {closing : Text} : ∀ {t b : Text}, bodyAhead? closing t = some b →
    ∃ rest, t = b ++ closing ++ rest
  | [], b, h => by simp [bodyAhead?] at h
  | c :: t, b, h => by
    rw [bodyAhead?] at h
    split at h
    next hc =>
      obtain ⟨rest, hrest⟩ := Option.isSome_iff_exists.1 hc.2
      rw [Option.some.injEq] at h
      subst h
      exact ⟨rest, by rw [Text.afterHead?_eq_some.1 hrest]; rfl⟩
    next =>
      split at h
      · cases h
      · obtain ⟨b', hb, rfl⟩ := Option.map_eq_some_iff.1 h
        obtain ⟨rest, rfl⟩ := bodyAhead?_prefix hb
        exact ⟨rest, rfl⟩

/-- The search for the end of a clause passes over what has no bracket and no end of a line. -/
theorem bodyAhead?_append_of_not_mem {closing u : Text} (hbracket : ']' ∉ u) (hline : '\n' ∉ u) (rest : Text) :
    bodyAhead? closing (u ++ rest) = (bodyAhead? closing rest).map (u ++ ·) := by
  induction u with
  | nil => simp
  | cons c u ih =>
    rw [List.mem_cons, not_or] at hbracket hline
    rw [List.cons_append, bodyAhead?, if_neg fun h => hbracket.1 h.1.symm, if_neg (Ne.symm hline.1),
      ih hbracket.2 hline.2, Option.map_map]
    rfl

theorem clauseAhead?_prefix {closing t x : Text} (h : clauseAhead? closing t = some x) :
    ∃ rest, t = x ++ closing ++ rest := by
  cases t with
  | nil => simp [clauseAhead?] at h
  | cons c t =>
    rw [clauseAhead?] at h
    split at h
    next =>
      obtain ⟨b, hb, rfl⟩ := Option.map_eq_some_iff.1 h
      obtain ⟨rest, rfl⟩ := bodyAhead?_prefix hb
      exact ⟨rest, rfl⟩
    next =>
      split at h
      next =>
        obtain ⟨body, hbody, h⟩ := Option.bind_eq_some_iff.1 h
        obtain ⟨b, hb, rfl⟩ := Option.map_eq_some_iff.1 h
        obtain ⟨rest, rfl⟩ := bodyAhead?_prefix hb
        exact ⟨rest, by rw [Text.afterHead?_eq_some.1 hbody]; rfl⟩
      next => cases h

theorem isKeyChar_bracket : isKeyChar '[' = false := by decide

theorem isKeyChar_brace : isKeyChar '}' = false := by decide

/-- A clause can only follow the longest key. -/
theorem clauseAhead?_behind_shorter {closing k v : Text} (hlt : k.length < (keyAhead (k ++ v)).length) :
    clauseAhead? closing v = none := by
  obtain ⟨c, u, rfl, hc, hnext⟩ := IsKey.behind_shorter hlt
  have hne : c ≠ '[' := by
    rintro rfl
    rw [isKeyChar_bracket] at hc
    cases hc
  rw [clauseAhead?, if_neg hne]
  split
  next hlead =>
    have hword : Unicode.isWord c ≠ true := by
      rcases hlead with rfl | rfl <;> decide
    obtain ⟨d, hd, hdkey⟩ := hnext.resolve_left hword
    cases u with
    | nil => cases hd
    | cons e u =>
      have hde : d = e := by simpa using hd.symm
      have hbracket : e ≠ '[' := by
        rintro rfl
        rw [hde, isKeyChar_bracket] at hdkey
        cases hdkey
      rw [Text.afterHead?_cons_ne hbracket, Option.bind_none]
  next => rfl

/-- A key ends before a clause. -/
theorem IsKey.keyAhead_of_clauseAhead? {closing k v x : Text} (h : IsKey k) (hv : clauseAhead? closing v = some x) :
    keyAhead (k ++ v) = k := by
  have hlen : (keyAhead (k ++ v)).length = k.length := by
    refine Nat.le_antisymm (Nat.not_lt.1 fun hlt => ?_) (h.length_le v)
    rw [clauseAhead?_behind_shorter hlt] at hv
    cases hv
  obtain ⟨rest, hrest⟩ := keyAhead_prefix (k ++ v)
  exact (List.append_inj_left hrest hlen.symm).symm

/-! ## Recognised tags -/

/-- The parts of a tag between `opening` and `closing`. -/
structure Between (opening closing : Text) (g : Tag) : Prop where
  isKey : IsKey g.var
  raw : g.raw = opening ++ g.var ++ g.extended.getD [] ++ closing

theorem recognise?_eq_some {opening closing t : Text} {g : Tag} (h : recognise? opening closing t = some g) :
    Between opening closing g ∧ ∃ rest, t = g.raw ++ rest := by
  simp only [recognise?, Option.bind_eq_bind, Option.bind_eq_some_iff] at h
  obtain ⟨ahead, hahead, h⟩ := h
  have ht := Text.afterHead?_eq_some.1 hahead
  have hdrop := append_drop_keyAhead ahead
  split at h
  next => cases h
  next hne =>
    split at h
    next clause hclause =>
      simp only [Option.some.injEq] at h
      subst h
      obtain ⟨rest, hrest⟩ := clauseAhead?_prefix hclause
      refine ⟨⟨isKey_keyAhead hne, rfl⟩, rest, ?_⟩
      calc t = opening ++ (keyAhead ahead ++ (clause ++ closing ++ rest)) := by rw [← hrest, hdrop, ht]
        _ = opening ++ keyAhead ahead ++ clause ++ closing ++ rest := by simp only [List.append_assoc]
    next =>
      split at h
      next hclosing =>
        simp only [Option.some.injEq] at h
        subst h
        obtain ⟨rest, hrest⟩ := Option.isSome_iff_exists.1 hclosing
        refine ⟨⟨isKey_keyAhead hne, by simp⟩, rest, ?_⟩
        calc t = opening ++ (keyAhead ahead ++ (closing ++ rest)) := by
              rw [← Text.afterHead?_eq_some.1 hrest, hdrop, ht]
          _ = opening ++ keyAhead ahead ++ closing ++ rest := by simp only [List.append_assoc]
      next => cases h

end Placeholder.Tag
