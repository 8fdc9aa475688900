/-
The patterns of tags find what the grammar of tags recognises (`Delimited.match_recognise`).

The pattern of a key is ambiguous: it can cut a run of word characters in many ways. That does no
harm, since what may follow a key cannot follow any shorter one: a closing brace or a bracket is no
key character, and a colon before a bracket is not inside the longest key. So all searches but one
fail behind the key (`head?_behind_key`). The body of a clause is lazy, and its first end counts.
-/
import Placeholder.Proofs.Pattern.Forms
import Placeholder.Proofs.Pattern.Lockstep
import Placeholder.Proofs.Tag.Grammar

namespace Placeholder.Tag

open Pattern Expr Ways

/-! ## The pattern of a key -/

theorem plus_singletons {p : Char → Prop} {u : Text} :
    Plus (fun v => ∃ c, p c ∧ v = [c]) u ↔ u ≠ [] ∧ ∀ c ∈ u, p c := by
  constructor
  · intro h
    induction h with
    | one hu =>
      obtain ⟨c, hc, rfl⟩ := hu
      simpa using hc
    | more hu _ ih =>
      obtain ⟨c, hc, rfl⟩ := hu
      exact ⟨by simp, by simpa using ⟨hc, ih.2⟩⟩
  · rintro ⟨hne, h⟩
    induction u with
    | nil => exact absurd rfl hne
    | cons c u ih =>
      have hc := h c List.mem_cons_self
      cases u with
      | nil => exact .one ⟨c, hc, rfl⟩
      | cons d u => exact .more ⟨c, hc, rfl⟩ (ih (by simp) fun e he => h e (List.mem_cons_of_mem _ he))

/-- Key characters, the last of them a word character. -/
structure IsKeyEnd (k : Text) : Prop where
  chars : ∀ c ∈ k, isKeyChar c = true
  last : ∃ c, k.getLast? = some c ∧ Unicode.isWord c = true

theorem IsKeyEnd.append {a b : Text} (ha : ∀ c ∈ a, isKeyChar c = true) (hb : IsKeyEnd b) : IsKeyEnd (a ++ b) := by
  refine ⟨fun c hc => ?_, ?_⟩
  · rcases List.mem_append.1 hc with hc | hc
    · exact ha c hc
    · exact hb.chars c hc
  · obtain ⟨c, hc, hword⟩ := hb.last
    exact ⟨c, by rw [List.getLast?_append, hc]; rfl, hword⟩

theorem isKeyEnd_of_words {k : Text} (hne : k ≠ []) (h : ∀ c ∈ k, Unicode.isWord c = true) : IsKeyEnd k := by
  obtain ⟨c, hc⟩ := Option.isSome_iff_exists.1 (List.getLast?_isSome.2 hne)
  exact ⟨fun d hd => isKeyChar_of_isWord (h d hd), c, hc, h c (List.mem_of_getLast? hc)⟩

/-- Separators, and behind them word characters. -/
def IsRound (u : Text) : Prop :=
  ∃ s w, (s = [] ∨ s ≠ [] ∧ ∀ c ∈ s, CharSet.has (.chars [':', '|', '.']) c = true) ∧
    (w ≠ [] ∧ ∀ c ∈ w, CharSet.has .word c = true) ∧ u = s ++ w

theorem isKeyChar_eq (c : Char) :
    isKeyChar c = (CharSet.has .word c || CharSet.has (.chars [':', '|', '.']) c) := by
  simp [isKeyChar, CharSet.has, Bool.or_assoc, Bool.beq_eq_decide_eq]

theorem IsRound.isKeyEnd {u : Text} (h : IsRound u) : IsKeyEnd u := by
  obtain ⟨s, w, hs, ⟨hne, hw⟩, rfl⟩ := h
  refine IsKeyEnd.append (fun c hc => ?_) (isKeyEnd_of_words hne hw)
  rcases hs with rfl | ⟨_, hs⟩
  · simp at hc
  · rw [isKeyChar_eq, hs c hc, Bool.or_true]

/-- A separator before a round belongs to the round. -/
theorem IsRound.cons {u : Text} {c : Char} (hc : CharSet.has (.chars [':', '|', '.']) c = true) (h : IsRound u) :
    IsRound (c :: u) := by
  obtain ⟨s, w, hs, hw, rfl⟩ := h
  refine ⟨c :: s, w, .inr ⟨by simp, fun d hd => ?_⟩, hw, rfl⟩
  rcases List.mem_cons.1 hd with rfl | hd
  · exact hc
  · rcases hs with rfl | ⟨_, hs⟩
    · simp at hd
    · exact hs d hd

theorem plus_isRound_cons {u : Text} {c : Char} (hc : CharSet.has (.chars [':', '|', '.']) c = true)
    (h : Plus IsRound u) : Plus IsRound (c :: u) := by
  cases h with
  | one hu => exact .one (hu.cons hc)
  | more hu hv => exact .more (hu.cons hc) hv

theorem isRound_word {c : Char} (hc : CharSet.has .word c = true) : IsRound [c] :=
  ⟨[], [c], .inl rfl, ⟨by simp, fun _ hd => List.mem_singleton.1 hd ▸ hc⟩, rfl⟩

theorem plus_isRound_iff {u : Text} : Plus IsRound u ↔ IsKeyEnd u := by
  constructor
  · intro h
    induction h with
    | one hu => exact hu.isKeyEnd
    | more hu _ ih => exact ih.append hu.isKeyEnd.chars
  · intro h
    induction u with
    | nil =>
      obtain ⟨c, hc, _⟩ := h.last
      simp at hc
    | cons c u ih =>
      have hc := h.chars c List.mem_cons_self
      rw [isKeyChar_eq, Bool.or_eq_true] at hc
      cases u with
      | nil =>
        obtain ⟨d, hd, hword⟩ := h.last
        simp only [List.getLast?_singleton, Option.some.injEq] at hd
        subst hd
        exact .one (isRound_word hword)
      | cons d u =>
        have hrest : Plus IsRound (d :: u) := by
          refine ih ⟨fun e he => h.chars e (List.mem_cons_of_mem _ he), ?_⟩
          obtain ⟨e, he, hword⟩ := h.last
          rw [List.getLast?_cons_cons] at he
          exact ⟨e, he, hword⟩
        rcases hc with hc | hc
        · exact .more (isRound_word hc) hrest
        · exact plus_isRound_cons hc hrest

theorem isKey_iff {k : Text} : IsKey k ↔
    ∃ a b, (a ≠ [] ∧ ∀ c ∈ a, CharSet.has .word c = true) ∧ (b = [] ∨ IsKeyEnd b) ∧ k = a ++ b := by
  constructor
  · intro h
    obtain ⟨c, hc, hword⟩ := h.first
    cases k with
    | nil => simp at hc
    | cons d k =>
      simp only [List.head?_cons, Option.some.injEq] at hc
      subst hc
      refine ⟨[d], k, ⟨by simp, fun _ he => List.mem_singleton.1 he ▸ hword⟩, ?_, rfl⟩
      cases k with
      | nil => exact .inl rfl
      | cons e k =>
        obtain ⟨f, hf, hlast⟩ := h.last
        rw [List.getLast?_cons_cons] at hf
        exact .inr ⟨fun g hg => h.chars g (List.mem_cons_of_mem _ hg), f, hf, hlast⟩
  · rintro ⟨a, b, ⟨hne, ha⟩, hb, rfl⟩
    have hend : IsKeyEnd (a ++ b) := by
      rcases hb with rfl | hb
      · rw [List.append_nil]
        exact isKeyEnd_of_words hne ha
      · exact hb.append (isKeyEnd_of_words hne ha).chars
    refine ⟨hend.chars, ?_, hend.last⟩
    cases a with
    | nil => exact absurd rfl hne
    | cons c a => exact ⟨c, rfl, ha c List.mem_cons_self⟩

/-- The pattern of a key spans keys. -/
theorem spans_keyExpr : Spans keyExpr.ways IsKey := by
  have hwords : Spans (rounds true (one .word)).ways fun u => u ≠ [] ∧ ∀ c ∈ u, CharSet.has .word c = true :=
    ((Spans.one .word).rounds rfl).congr fun _ => plus_singletons
  have hseparators : Spans (star true (one (.chars [':', '|', '.']))).ways fun u =>
      u = [] ∨ u ≠ [] ∧ ∀ c ∈ u, CharSet.has (.chars [':', '|', '.']) c = true :=
    (((Spans.one _).rounds rfl).congr fun _ => plus_singletons).optional
  have hround : Spans (seq (star true (one (.chars [':', '|', '.']))) (rounds true (one .word))).ways IsRound :=
    hseparators.chain hwords
  have hend : Spans (star true (seq (star true (one (.chars [':', '|', '.']))) (rounds true (one .word)))).ways
      fun u => u = [] ∨ IsKeyEnd u :=
    ((hround.rounds rfl).congr fun _ => plus_isRound_iff).optional
  exact (hwords.chain hend).congr fun _ => isKey_iff.symm

/-! ## What follows a key -/

/-- The pattern behind a key: an optional clause, and the closing text. -/
def tailExpr (closing : Text) : Expr := sequence (optional true (group 2 clauseExpr) :: closing.map char)

/-- The way of the pattern behind a key. -/
def tailWay? (closing : Text) (pos : Nat) (t : Text) : Option Way :=
  match clauseAhead? closing t with
  | some x => some ⟨x.length + closing.length, [(5, pos + x.length), (4, pos)]⟩
  | none => (Text.afterHead? closing t).map fun _ => ⟨closing.length, []⟩

/-- The ways behind the clause of a tag: its end is noted, and the closing text follows. -/
def clauseEnd (closing : Text) : Ways := chain (mark 5).ways (sequence (closing.map char)).ways

theorem head?_clauseEnd (closing : Text) (pos : Nat) (t : Text) : (clauseEnd closing pos t).head? =
    (Text.afterHead? closing t).map fun _ => ⟨closing.length, [(5, pos)]⟩ := by
  rw [clauseEnd, mark_chain, List.head?_map, head?_ways_chars, Option.map_map]
  cases Text.afterHead? closing t with
  | none => rfl
  | some rest => simp [Way.andThen]

theorem head?_body (closing : Text) (pos : Nat) (t : Text) :
    (chain shortRun.ways (chain (char ']').ways (clauseEnd closing)) pos t).head? =
      (bodyAhead? closing t).map fun b => ⟨b.length + closing.length, [(5, pos + b.length)]⟩ := by
  induction t generalizing pos with
  | nil => rw [shortRun_chain]; rfl
  | cons c t ih =>
    rw [shortRun_chain_cons, List.head?_append, char_chain, bodyAhead?]
    have hmore : (if c = '\n' then [] else (chain shortRun.ways (chain (char ']').ways (clauseEnd closing))
        (pos + 1) t).map (Way.andThen ⟨1, []⟩)).head? =
        if c = '\n' then none
        else (bodyAhead? closing t).map fun b => ⟨b.length + 1 + closing.length, [(5, pos + (b.length + 1))]⟩ := by
      split
      · rfl
      · rw [List.head?_map, ih, Option.map_map]
        congr 1
        funext b
        simp [Way.andThen, Nat.add_comm, Nat.add_left_comm, Nat.add_assoc]
    rw [hmore]
    by_cases hc : c = ']'
    · rw [if_pos hc, List.head?_map, head?_clauseEnd]
      cases hclosing : Text.afterHead? closing t with
      | none =>
        simp only [Option.map_none, Option.none_or, Option.isSome_none, Bool.false_eq_true, and_false, if_false]
        split
        · rfl
        · rw [Option.map_map]
          rfl
      | some rest =>
        simp [hc, Way.andThen]
    · have hend : ¬ (c = ']' ∧ (Text.afterHead? closing t).isSome = true) := fun h => hc h.1
      rw [if_neg hc, if_neg hend, List.head?_nil, Option.none_or]
      split
      · rfl
      · rw [Option.map_map]
        rfl

theorem head?_clause (closing : Text) (pos : Nat) (t : Text) :
    (chain clauseExpr.ways (clauseEnd closing) pos t).head? =
      (clauseAhead? closing t).map fun x => ⟨x.length + closing.length, [(5, pos + x.length)]⟩ := by
  have hways : chain clauseExpr.ways (clauseEnd closing) = chain (optional true (one (.chars ['=', ':']))).ways
      (chain (char '[').ways (chain shortRun.ways (chain (char ']').ways (clauseEnd closing)))) := by
    simp only [clauseExpr, ways_sequence_cons, chain_assoc]
    rw [Expr.sequence, ways, stay_chain]
  have hbracket : ∀ (p : Nat) (u : Text), (chain (char '[').ways (chain shortRun.ways
      (chain (char ']').ways (clauseEnd closing))) p u).head? = (Text.afterHead? ['['] u).bind fun body =>
        (bodyAhead? closing body).map fun b => ⟨b.length + 1 + closing.length, [(5, p + (b.length + 1))]⟩ := by
    intro p u
    cases u with
    | nil => rfl
    | cons d u =>
      rw [char_chain]
      by_cases hd : d = '['
      · rw [if_pos hd, List.head?_map, head?_body, hd, Option.map_map, Text.afterHead?, if_pos rfl]
        congr 1
        funext b
        simp [Way.andThen, Nat.add_comm, Nat.add_left_comm, Nat.add_assoc]
      · rw [if_neg hd, Text.afterHead?_cons_ne hd]
        rfl
  rw [hways, optional_chain, List.head?_append, hbracket]
  cases t with
  | nil => rfl
  | cons c t =>
    rw [one_chain, clauseAhead?]
    by_cases hc : c = '['
    · subst hc
      simp [CharSet.has, Text.afterHead?, Function.comp_def]
    · rw [Text.afterHead?_cons_ne hc, Option.bind_none, Option.or_none, if_neg hc]
      by_cases hlead : c = '=' ∨ c = ':'
      · have hset : (CharSet.chars ['=', ':']).has c = true := by simpa [CharSet.has] using hlead
        rw [if_pos hset, if_pos hlead, List.head?_map, hbracket]
        cases Text.afterHead? ['['] t with
        | none => rfl
        | some body =>
          simp [Way.andThen, Function.comp_def, Nat.add_comm, Nat.add_left_comm]
      · have hset : ¬ (CharSet.chars ['=', ':']).has c = true := by simpa [CharSet.has] using hlead
        rw [if_neg hset, if_neg hlead]
        rfl

theorem head?_tail (closing : Text) (pos : Nat) (t : Text) :
    ((tailExpr closing).ways pos t).head? = tailWay? closing pos t := by
  rw [tailExpr, ways_sequence_cons, optional_chain, List.head?_append, head?_ways_chars, group_chain,
    List.head?_map, ← clauseEnd, head?_clause, tailWay?]
  cases clauseAhead? closing t with
  | none => rfl
  | some x => simp [Way.andThen]

/-! ## The longest key -/

/-- What follows a tag can only follow the longest key. -/
theorem tailWay?_behind_shorter {closing k v : Text} (pos : Nat)
    (hlt : k.length < (keyAhead (k ++ v)).length) : tailWay? ('}' :: closing) pos v = none := by
  have hclause : clauseAhead? ('}' :: closing) v = none := clauseAhead?_behind_shorter hlt
  obtain ⟨c, u, rfl, hc, -⟩ := IsKey.behind_shorter hlt
  have hne : c ≠ '}' := by
    rintro rfl
    rw [isKeyChar_brace] at hc
    cases hc
  rw [tailWay?, hclause, Text.afterHead?_cons_ne hne, Option.map_none]

/-- **Behind a key** only the longest key can be gone on from, so its search is the only one. -/
theorem head?_behind_key (closing : Text) (pos : Nat) (t : Text) :
    (chain (group 1 keyExpr).ways (tailExpr ('}' :: closing)).ways pos t).head? =
      if keyAhead t = [] then none
      else (tailWay? ('}' :: closing) (pos + (keyAhead t).length) (t.drop (keyAhead t).length)).map fun w =>
        ⟨(keyAhead t).length + w.taken, w.marks ++ [(3, pos + (keyAhead t).length), (2, pos)]⟩ := by
  rw [group_chain, List.head?_map, head?_chain]
  by_cases hnil : keyAhead t = []
  · rw [if_pos hnil]
    have hways : keyExpr.ways pos t = [] := by
      rw [List.eq_nil_iff_forall_not_mem]
      intro w hw
      obtain ⟨u, v, rfl, hu, _⟩ := spans_keyExpr.mem_iff.1 hw
      have hle := hu.length_le v
      rw [hnil, List.length_nil, Nat.le_zero, List.length_eq_zero_iff] at hle
      exact hu.ne_nil hle
    rw [hways]
    rfl
  · rw [if_neg hnil]
    obtain ⟨rest, hrest⟩ := keyAhead_prefix t
    have hmem : (⟨(keyAhead t).length, []⟩ : Way) ∈ keyExpr.ways pos t :=
      spans_keyExpr.mem_iff.2 ⟨keyAhead t, rest, hrest, isKey_keyAhead hnil, rfl⟩
    rw [findSome?_eq_of_unique hmem]
    · simp only [mark_chain, List.head?_map, head?_tail, Option.map_map]
      congr 1
      funext w
      simp [Way.andThen]
    · intro w hw hne
      obtain ⟨u, v, rfl, hu, rfl⟩ := spans_keyExpr.mem_iff.1 hw
      have hlt : u.length < (keyAhead (u ++ v)).length := by
        refine Nat.lt_of_le_of_ne (hu.length_le v) fun heq => hne ?_
        rw [← heq]
      simp only [mark_chain, List.head?_map, head?_tail, List.drop_left, tailWay?_behind_shorter _ hlt]
      rfl

/-! ## Whole tags -/

/-- A pattern of tags between `opening` and `closing`. -/
structure Delimited (p : Pattern) (opening closing : Text) : Prop where
  body : p.body = sequence (opening.map char ++ bodyExprs ++ ('}' :: closing).map char)
  groups : p.groups = groupNames
  simple : p.body.simple = true

theorem livePattern_delimited : Delimited livePattern ['$', '{'] [] := ⟨rfl, rfl, rfl⟩

theorem escapedPattern_delimited : Delimited escapedPattern ['$', '$', '{', '{'] ['}'] := ⟨rfl, rfl, rfl⟩

/-- The first way of a pattern of tags. -/
def tagWay? (opening closing t : Text) : Option Way :=
  (Text.afterHead? opening t).bind fun rest =>
    if keyAhead rest = [] then none
    else (tailWay? closing (opening.length + (keyAhead rest).length) (rest.drop (keyAhead rest).length)).map fun w =>
      ⟨opening.length + ((keyAhead rest).length + w.taken),
        w.marks ++ [(3, opening.length + (keyAhead rest).length), (2, opening.length)]⟩

namespace Delimited

variable {p : Pattern} {opening closing : Text}

theorem matchAt_eq (h : Delimited p opening closing) (left : Option Char) (t : Text) :
    p.matchAt left t = (tagWay? opening ('}' :: closing) t).map fun w => ⟨t.take w.taken, w.marks⟩ := by
  have htail : (sequence (bodyExprs ++ ('}' :: closing).map char)).ways =
      chain (group 1 keyExpr).ways (tailExpr ('}' :: closing)).ways := by
    rw [bodyExprs, List.cons_append, ways_sequence_cons]
    rfl
  have hhead : (p.body.ways 0 t).head? = tagWay? opening ('}' :: closing) t := by
    rw [h.body, List.append_assoc, ways_sequence_append, htail, chars_chain, tagWay?]
    cases Text.afterHead? opening t with
    | none => rfl
    | some rest =>
      simp only [List.head?_map, head?_behind_key, Nat.zero_add, Option.bind_some]
      split
      · rfl
      · rw [Option.map_map]
        congr 1
        funext w
        simp [Way.andThen]
  rw [Pattern.matchAt, Expr.matchAt_eq_head_ways h.simple, hhead, Option.map_map]
  rfl

theorem named?_var (h : Delimited p opening closing) (m : Match) : p.named? m "var".toList = m.group? 1 := by
  have hlookup : groupNames.lookup "var".toList = some 1 := by decide
  rw [named?, h.groups, hlookup, Option.bind_some]

theorem named?_extended (h : Delimited p opening closing) (m : Match) :
    p.named? m "extended".toList = m.group? 2 := by
  have hlookup : groupNames.lookup "extended".toList = some 2 := by decide
  rw [named?, h.groups, hlookup, Option.bind_some]

/-- The marks of a tag with a clause give its parts back. -/
theorem ofMatch?_clause (h : Delimited p opening closing) (key x rest : Text) :
    ofMatch? p ⟨opening ++ key ++ x ++ rest, [(5, opening.length + key.length + x.length),
      (4, opening.length + key.length), (3, opening.length + key.length), (2, opening.length)]⟩ =
      some ⟨opening ++ key ++ x ++ rest, key, some x⟩ := by
  have hkey : (opening ++ key ++ x ++ rest).take (opening.length + key.length) = opening ++ key := by
    rw [← List.length_append, List.append_assoc, List.take_left]
  have hclause : (opening ++ key ++ x ++ rest).take (opening.length + key.length + x.length) =
      opening ++ key ++ x := by
    rw [← List.length_append, ← List.length_append, List.take_left]
  have hvar : Match.group? ⟨opening ++ key ++ x ++ rest, [(5, opening.length + key.length + x.length),
      (4, opening.length + key.length), (3, opening.length + key.length), (2, opening.length)]⟩ 1 = some key :=
    congrArg some (by rw [hkey, List.drop_left])
  have hextended : Match.group? ⟨opening ++ key ++ x ++ rest, [(5, opening.length + key.length + x.length),
      (4, opening.length + key.length), (3, opening.length + key.length), (2, opening.length)]⟩ 2 = some x :=
    congrArg some (by rw [hclause, ← List.length_append, List.drop_left])
  simp only [ofMatch?, h.named?_var, h.named?_extended, hvar, hextended]
  rfl

/-- So do the marks of a tag without a clause. -/
theorem ofMatch?_key (h : Delimited p opening closing) (key rest : Text) :
    ofMatch? p ⟨opening ++ key ++ rest, [(3, opening.length + key.length), (2, opening.length)]⟩ =
      some ⟨opening ++ key ++ rest, key, none⟩ := by
  have hkey : (opening ++ key ++ rest).take (opening.length + key.length) = opening ++ key := by
    rw [← List.length_append, List.take_left]
  have hvar : Match.group? ⟨opening ++ key ++ rest, [(3, opening.length + key.length), (2, opening.length)]⟩ 1 =
      some key :=
    congrArg some (by rw [hkey, List.drop_left])
  have hextended : Match.group? ⟨opening ++ key ++ rest, [(3, opening.length + key.length), (2, opening.length)]⟩ 2 =
      none := rfl
  simp only [ofMatch?, h.named?_var, h.named?_extended, hvar, hextended]
  rfl

/-- **The pattern finds what the grammar recognises**: the same texts, and in them the same parts. -/
theorem match_recognise (h : Delimited p opening closing) (left : Option Char) (t : Text) :
    match recognise? opening ('}' :: closing) t with
    | none => p.matchAt left t = none
    | some g => ∃ m, p.matchAt left t = some m ∧ m.raw = g.raw ∧ ofMatch? p m = some g := by
  rw [h.matchAt_eq left t, tagWay?, recognise?]
  cases hahead : Text.afterHead? opening t with
  | none => rfl
  | some ahead =>
    have ht := Text.afterHead?_eq_some.1 hahead
    have hkey := append_drop_keyAhead ahead
    simp only [Option.bind_eq_bind, Option.bind_some]
    by_cases hnil : keyAhead ahead = []
    · simp [hnil]
    · rw [if_neg hnil, if_neg hnil]
      generalize keyAhead ahead = key at *
      rw [tailWay?]
      cases hclause : clauseAhead? ('}' :: closing) (ahead.drop key.length) with
      | some x =>
        obtain ⟨rest, hrest⟩ := clauseAhead?_prefix hclause
        have htake : t.take (opening.length + (key.length + (x.length + ('}' :: closing).length))) =
            opening ++ key ++ x ++ '}' :: closing := by
          have hall : t = (opening ++ key ++ x ++ '}' :: closing) ++ rest := by
            rw [ht, ← hkey, hrest]
            simp
          rw [hall, List.take_left' (by simp)]
        refine ⟨_, rfl, ?_, ?_⟩
        · exact htake
        · dsimp only
          rw [htake]
          exact h.ofMatch?_clause key x ('}' :: closing)
      | none =>
        cases hclosing : Text.afterHead? ('}' :: closing) (ahead.drop key.length) with
        | none => rfl
        | some rest =>
          have htake : t.take (opening.length + (key.length + ('}' :: closing).length)) =
              opening ++ key ++ '}' :: closing := by
            have hall : t = (opening ++ key ++ '}' :: closing) ++ rest := by
              rw [ht, ← hkey, Text.afterHead?_eq_some.1 hclosing]
              simp
            rw [hall, List.take_left' (by simp)]
          refine ⟨_, rfl, ?_, ?_⟩
          · exact htake
          · dsimp only
            rw [htake]
            exact h.ofMatch?_key key ('}' :: closing)

end Delimited

end Placeholder.Tag
