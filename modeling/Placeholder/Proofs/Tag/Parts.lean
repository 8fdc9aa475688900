/-
The parts of a clause, said without patterns: formats and defaults in brackets, each up to the next closing bracket.
`parts` is the walk that finds them from left to right, and `read_eq_parts` says that a clause is read as this walk
reads it.

A part ends with the first closing bracket behind its word. So behind a closing bracket, wherever it stands, the walk
has nothing open: the parts of a text that is cut there are those of the one and those of the other
(`parts_append`).
-/
import Mathlib.Data.List.TakeWhile
import Placeholder.Clause
import Placeholder.Proofs.Pattern.Captures

namespace Placeholder.Clause

open Pattern Expr Ways

/-! ## The walk -/

/-- A format or a default, as it stands in its brackets. -/
inductive Part
  | format (spec : Text)
  | default (text : Text)
  deriving DecidableEq, Repr

namespace Part

def format? : Part → Option Text
  | format spec => some spec
  | default _ => none

def default? : Part → Option Text
  | format _ => none
  | default text => some text

/-- The number of characters with the brackets and the word in them. -/
def size : Part → Nat
  | format spec => 8 + spec.length + 1
  | default text => 9 + text.length + 1

theorem size_pos (part : Part) : 0 < part.size := by
  cases part <;> exact Nat.succ_pos _

end Part

/-- The rest of a text that starts with a word, in letters of any case. -/
def afterWord? : (word : Text) → Text → Option Text
  | [], t => some t
  | _ :: _, [] => none
  | c :: word, d :: t => if (CharSet.literal true c).has d then afterWord? word t else none

/-- What stands before the first closing bracket, if that comes before the end of the line. -/
def upToBracket? : Text → Option Text
  | [] => none
  | c :: t => if c = ']' then some [] else if c = '\n' then none else (upToBracket? t).map (c :: ·)

def formatWord : Text := "[format:".toList

def defaultWord : Text := "[default:".toList

/-- The part at the start of a text. -/
def partAhead? (t : Text) : Option Part :=
  (((afterWord? formatWord t).bind upToBracket?).map Part.format).or
    (((afterWord? defaultWord t).bind upToBracket?).map Part.default)

/-- The parts of a text from left to right. -/
def parts : Text → List Part
  | [] => []
  | c :: t => match partAhead? (c :: t) with
    | some part => part :: parts (t.drop (part.size - 1))
    | none => parts t
termination_by t => t.length

theorem partAhead?_nil : partAhead? [] = none := by decide

/-- The walk goes on behind a part. -/
theorem parts_of_partAhead? {t : Text} {part : Part} (h : partAhead? t = some part) :
    parts t = part :: parts (t.drop part.size) := by
  cases t with
  | nil =>
    rw [partAhead?_nil] at h
    cases h
  | cons c t =>
    obtain ⟨n, hn⟩ : ∃ n, part.size = n + 1 := Nat.exists_eq_succ_of_ne_zero (Nat.ne_of_gt part.size_pos)
    rw [parts, h]
    simp only [hn, Nat.add_sub_cancel, List.drop_succ_cons]

/-! ## Words and brackets -/

theorem afterWord?_eq_some {word t rest : Text} :
    afterWord? word t = some rest ↔ ∃ o, Spelled word o ∧ t = o ++ rest := by
  induction word generalizing t with
  | nil =>
    simp only [afterWord?, Option.some.injEq]
    constructor
    · rintro rfl
      exact ⟨[], .nil, rfl⟩
    · rintro ⟨o, ho, rfl⟩
      cases ho
      rfl
  | cons c word ih =>
    cases t with
    | nil =>
      simp only [afterWord?, reduceCtorEq, false_iff, not_exists, not_and]
      rintro o (_ | _) h
      cases h
    | cons d t =>
      rw [afterWord?]
      constructor
      · intro h
        split at h
        next hd =>
          obtain ⟨o, ho, rfl⟩ := ih.1 h
          exact ⟨d :: o, .cons hd ho, rfl⟩
        next => cases h
      · rintro ⟨o, ho, h⟩
        cases ho with
        | cons hd ho =>
          obtain ⟨rfl, rfl⟩ := List.cons.inj h
          rw [if_pos hd]
          exact ih.2 ⟨_, ho, rfl⟩

theorem upToBracket?_eq_some {t u : Text} :
    upToBracket? t = some u ↔ ∃ rest, t = u ++ ']' :: rest ∧ ']' ∉ u ∧ '\n' ∉ u := by
  induction t generalizing u with
  | nil => simp [upToBracket?]
  | cons c t ih =>
    rw [upToBracket?]
    constructor
    · intro h
      split at h
      next hc =>
        obtain rfl := Option.some.inj h
        exact ⟨t, by rw [hc]; rfl, by simp, by simp⟩
      next hc =>
        split at h
        · cases h
        next hline =>
          obtain ⟨v, hv, rfl⟩ := Option.map_eq_some_iff.1 h
          obtain ⟨rest, rfl, hbracket, hv'⟩ := ih.1 hv
          refine ⟨rest, rfl, ?_, ?_⟩ <;> rw [List.mem_cons, not_or]
          · exact ⟨Ne.symm hc, hbracket⟩
          · exact ⟨Ne.symm hline, hv'⟩
    · rintro ⟨rest, h, hbracket, hline⟩
      cases u with
      | nil =>
        obtain ⟨rfl, -⟩ := List.cons.inj h
        rw [if_pos rfl]
      | cons d u =>
        obtain ⟨rfl, rfl⟩ := List.cons.inj h
        rw [List.mem_cons, not_or] at hbracket hline
        rw [if_neg (Ne.symm hbracket.1), if_neg (Ne.symm hline.1), ih.2 ⟨rest, rfl, hbracket.2, hline.2⟩]
        rfl

theorem upToBracket?_takeWhile {t rest : Text} (h : '\n' ∉ t) :
    upToBracket? (t ++ ']' :: rest) = some (t.takeWhile (· ≠ ']')) := by
  induction t with
  | nil => rfl
  | cons c t ih =>
    rw [List.mem_cons, not_or] at h
    rw [List.cons_append, upToBracket?, if_neg (Ne.symm h.1), ih h.2]
    by_cases hc : c = ']' <;> simp [hc]

/-- A text is all in front of its next closing bracket exactly if it has none. -/
theorem eq_takeWhile_iff {f : Text} : f = f.takeWhile (· ≠ ']') ↔ ']' ∉ f := by
  rw [eq_comm, List.takeWhile_eq_self_iff]
  simp only [ne_eq, decide_not, Bool.not_eq_eq_eq_not, Bool.not_true, decide_eq_false_iff_not]
  exact ⟨fun h hmem => h ']' hmem rfl, fun h c hc heq => h (heq ▸ hc)⟩

/-! ## What the pattern finds -/

theorem text_chain (word : Text) (g : Ways) (pos : Nat) (t : Text) : chain (Expr.text true word).ways g pos t =
    match afterWord? word t with
    | some rest => (g (pos + word.length) rest).map (Way.andThen ⟨word.length, []⟩)
    | none => [] := by
  induction word generalizing pos t with
  | nil =>
    have hstay : (Way.andThen ⟨0, []⟩ : Way → Way) = id := funext Way.stay_andThen
    have htext : (Expr.text true []).ways = Ways.stay := rfl
    simp [htext, afterWord?, hstay]
  | cons c word ih =>
    have htext : (Expr.text true (c :: word)).ways =
        chain (Expr.one (CharSet.literal true c)).ways (Expr.text true word).ways := ways_sequence_cons _ _
    rw [htext, chain_assoc]
    cases t with
    | nil => rfl
    | cons d t =>
      rw [one_chain, afterWord?]
      by_cases hd : (CharSet.literal true c).has d = true
      · rw [if_pos hd, if_pos hd, ih]
        cases afterWord? word t with
        | none => rfl
        | some rest =>
          simp only [List.map_map, List.length_cons, Nat.add_assoc, Nat.add_comm 1]
          congr 1
          funext w
          simp [Way.andThen, Nat.add_comm, Nat.add_assoc]
      · rw [if_neg hd, if_neg hd]

/-- A group around a short run ends at the next closing bracket. -/
theorem head?_run (n slot pos : Nat) (t : Text) :
    (chain Tag.shortRun.ways (chain (mark n).ways (chain (Tag.char ']').ways (mark slot).ways)) pos t).head? =
      (upToBracket? t).map fun u => ⟨u.length + 1, [(slot, pos + u.length + 1), (n, pos + u.length)]⟩ := by
  induction t generalizing pos with
  | nil => rw [shortRun_chain]; rfl
  | cons c t ih =>
    rw [shortRun_chain_cons, List.head?_append, mark_chain, List.head?_map, char_chain, upToBracket?]
    by_cases hc : c = ']'
    · simp [hc, ways, Way.andThen]
    · rw [if_neg hc, if_neg hc]
      split
      · rfl
      · rw [List.head?_map, ih, Option.map_map, Option.map_map]
        simp only [List.head?_nil, Option.map_none, Option.none_or]
        congr 1
        funext u
        simp [Way.andThen, Nat.add_comm, Nat.add_left_comm]

/-- The way of a word and what it is followed by, in two groups. -/
theorem head?_bracketed (word : String) (n m pos : Nat) (t : Text) :
    ((group n (sequence [Clause.word word, group m Tag.shortRun, Tag.char ']'])).ways pos t).head? =
      ((afterWord? word.toList t).bind upToBracket?).map fun u =>
        let start := pos + word.toList.length
        ⟨word.toList.length + u.length + 1,
          [(2 * n + 1, start + u.length + 1), (2 * m + 1, start + u.length), (2 * m, start), (2 * n, pos)]⟩ := by
  have hways : (group n (sequence [Clause.word word, group m Tag.shortRun, Tag.char ']'])).ways =
      chain (mark (2 * n)).ways (chain (Expr.text true word.toList).ways (chain (mark (2 * m)).ways
        (chain Tag.shortRun.ways
          (chain (mark (2 * m + 1)).ways (chain (Tag.char ']').ways (mark (2 * n + 1)).ways))))) := by
    simp only [group, Expr.sequence, ways, Clause.word, chain_assoc]
  rw [hways, mark_chain, List.head?_map, text_chain]
  cases afterWord? word.toList t with
  | none => rfl
  | some rest =>
    simp only [List.head?_map, mark_chain, head?_run, Option.map_map, Option.bind_some]
    congr 1
    funext u
    simp [Way.andThen, Nat.add_assoc]

theorem matchAt_segment (left : Option Char) (t : Text) : segmentPattern.matchAt left t =
    (((afterWord? formatWord t).bind upToBracket?).map fun u =>
      ⟨t.take (8 + u.length + 1), [(3, 8 + u.length + 1), (5, 8 + u.length), (4, 8), (2, 0)]⟩).or
    (((afterWord? defaultWord t).bind upToBracket?).map fun u =>
      ⟨t.take (9 + u.length + 1), [(7, 9 + u.length + 1), (9, 9 + u.length), (8, 9), (6, 0)]⟩) := by
  have hways : segmentPattern.body.ways 0 t =
      (group 1 (sequence [Clause.word "[format:", group 2 Tag.shortRun, Tag.char ']'])).ways 0 t ++
        (group 3 (sequence [Clause.word "[default:", group 4 Tag.shortRun, Tag.char ']'])).ways 0 t := rfl
  have hformat : "[format:".toList.length = 8 := rfl
  have hdefault : "[default:".toList.length = 9 := rfl
  rw [Pattern.matchAt_eq_head_ways (by decide), hways, List.head?_append, head?_bracketed, head?_bracketed,
    Option.map_or, Option.map_map, Option.map_map]
  simp only [hformat, hdefault, Nat.zero_add]
  rfl

/-- The format and the default that a match holds. -/
def fields (m : Match) : Option Text × Option Text :=
  (segmentPattern.named? m "formvalue".toList, segmentPattern.named? m "defvalue".toList)

/-- The second group of a bracketed word covers what stands in the brackets. -/
theorem group?_bracketed {word o u rest : Text} {marks : Marks} {n : Nat} (ho : Spelled word o)
    (hstart : marks.lookup (2 * n) = some word.length)
    (hstop : marks.lookup (2 * n + 1) = some (word.length + u.length)) :
    Match.group? ⟨(o ++ (u ++ ']' :: rest)).take (word.length + u.length + 1), marks⟩ n = some u := by
  have hlen := ho.length_eq
  rw [← List.append_assoc]
  refine Match.group?_eq (by omega) ?_ ?_
  · rw [hstart, hlen]
  · rw [hstop, hlen]

theorem exists_bracketed {word t u : Text} (h : (afterWord? word t).bind upToBracket? = some u) :
    ∃ o rest, Spelled word o ∧ t = o ++ (u ++ ']' :: rest) := by
  obtain ⟨ahead, hahead, hu⟩ := Option.bind_eq_some_iff.1 h
  obtain ⟨o, ho, rfl⟩ := afterWord?_eq_some.1 hahead
  obtain ⟨rest, rfl, -⟩ := upToBracket?_eq_some.1 hu
  exact ⟨o, rest, ho, rfl⟩

/-- **The pattern finds the part ahead**, and its groups are what the part holds. -/
theorem match_partAhead (left : Option Char) (t : Text) :
    match partAhead? t with
    | none => segmentPattern.matchAt left t = none
    | some part => ∃ m, segmentPattern.matchAt left t = some m ∧ m.raw.length = part.size ∧
        fields m = (part.format?, part.default?) := by
  have hfields : ∀ m, fields m = (m.group? 2, m.group? 4) := fun _ => rfl
  rw [matchAt_segment, partAhead?]
  cases hformat : (afterWord? formatWord t).bind upToBracket? with
  | some u =>
    obtain ⟨o, rest, ho, rfl⟩ := exists_bracketed hformat
    have hlen : o.length = 8 := ho.length_eq
    refine ⟨_, rfl, by simp [Part.size, hlen, Nat.add_assoc], ?_⟩
    rw [hfields, Match.group?_eq_none (n := 4) rfl]
    exact congrArg (·, none) (group?_bracketed (n := 2) ho rfl rfl)
  | none =>
    cases hdefault : (afterWord? defaultWord t).bind upToBracket? with
    | some u =>
      obtain ⟨o, rest, ho, rfl⟩ := exists_bracketed hdefault
      have hlen : o.length = 9 := ho.length_eq
      refine ⟨_, rfl, by simp [Part.size, hlen, Nat.add_assoc], ?_⟩
      rw [hfields, Match.group?_eq_none (n := 2) rfl]
      exact congrArg (none, ·) (group?_bracketed (n := 4) ho rfl rfl)
    | none => rfl

/-- The match of a piece, if it is one. -/
def found? : Piece → Option Match
  | .plain _ => none
  | .found m => some m

theorem map_fields_piecesFrom (left : Option Char) (behindMatch : Bool) (t : Text) :
    ((segmentPattern.piecesFrom left behindMatch t).filterMap found?).map fields =
      (parts t).map fun part => (part.format?, part.default?) := by
  have hahead := match_partAhead
  fun_induction piecesFrom segmentPattern left behindMatch t with
  | case1 => simp [parts]
  | case2 left behindMatch m hempty c rest hm ih =>
    -- A part is never empty.
    have h := hahead left (c :: rest)
    split at h
    · rw [hm] at h
      cases h
    next part _ =>
      obtain ⟨m', hm', hsize, -⟩ := h
      obtain rfl := Option.some.inj (hm.symm.trans hm')
      have hpos := part.size_pos
      omega
  | case3 left behindMatch t m hm _ ih =>
    have h := hahead left t
    split at h
    · rw [hm] at h
      cases h
    next part hpart =>
      obtain ⟨m', hm', hsize, hfields⟩ := h
      obtain rfl := Option.some.inj (hm.symm.trans hm')
      rw [hsize] at ih
      simp only [List.filterMap_cons, found?, List.map_cons, hfields, hsize, ih, parts_of_partAhead? hpart]
  | case4 => simp [parts]
  | case5 left behindMatch c rest hm ih =>
    have h := hahead left (c :: rest)
    split at h
    next hpart =>
      rw [List.filterMap_cons, found?, parts, hpart]
      exact ih
    · obtain ⟨m', hm', -⟩ := h
      rw [hm] at hm'
      cases hm'

/-- **A clause is read part by part**: its format is the first format among them, and its default the first
default. -/
theorem read_eq_parts (t : Text) :
    read t = ⟨(parts t).findSome? Part.format?, (parts t).findSome? Part.default?⟩ := by
  have hmatches : matches_ segmentPattern t = (segmentPattern.pieces t).filterMap found? := by
    rw [matches_]
    congr 1
    funext piece
    cases piece <;> rfl
  have hfirst : ∀ pick : Option Text × Option Text → Option Text,
      (matches_ segmentPattern t).findSome? (pick ∘ fields) =
        (parts t).findSome? fun part => pick (part.format?, part.default?) := by
    intro pick
    have h := congrArg (List.findSome? pick) (map_fields_piecesFrom none false t)
    rw [List.findSome?_map, List.findSome?_map] at h
    rw [hmatches]
    exact h
  rw [read, Clause.mk.injEq]
  exact ⟨hfirst Prod.fst, hfirst Prod.snd⟩

/-! ## Parts that are put together -/

/-- The part at the start of a text, with letters of any case in its word. -/
theorem partAhead?_format {word spec rest : Text} (hword : Spelled formatWord word) (hspec : '\n' ∉ spec) :
    partAhead? (word ++ (spec ++ ']' :: rest)) = some (.format (spec.takeWhile (· ≠ ']'))) := by
  rw [partAhead?, afterWord?_eq_some.2 ⟨word, hword, rfl⟩, Option.bind_some, upToBracket?_takeWhile hspec]
  rfl

theorem size_le_of_partAhead? {t : Text} {part : Part} (h : partAhead? t = some part) : part.size ≤ t.length := by
  rw [partAhead?, Option.or_eq_some_iff] at h
  rcases h with h | ⟨-, h⟩
  · obtain ⟨u, hu, rfl⟩ := Option.map_eq_some_iff.1 h
    obtain ⟨o, rest, ho, rfl⟩ := exists_bracketed hu
    have hlen : o.length = 8 := ho.length_eq
    rw [Part.size, List.length_append, List.length_append, List.length_cons, hlen]
    omega
  · obtain ⟨u, hu, rfl⟩ := Option.map_eq_some_iff.1 h
    obtain ⟨o, rest, ho, rfl⟩ := exists_bracketed hu
    have hlen : o.length = 9 := ho.length_eq
    rw [Part.size, List.length_append, List.length_append, List.length_cons, hlen]
    omega

/-- No word of a part has a closing bracket in it. -/
theorem no_bracket_in_words :
    ∀ word ∈ [formatWord, defaultWord], ∀ c ∈ word, (CharSet.literal true c).has ']' = false := by
  have hall : ([formatWord, defaultWord].all fun word =>
      word.all fun c => !(CharSet.literal true c).has ']') = true := by decide +kernel
  intro word hword c hc
  simpa using List.all_eq_true.1 (List.all_eq_true.1 hall word hword) c hc

/-- A word ends before a closing bracket, whatever stands behind that. -/
theorem afterWord?_bracket {word : Text} (hword : ∀ c ∈ word, (CharSet.literal true c).has ']' = false) (u : Text) :
    ∃ rest? : Option Text, ∀ v, afterWord? word (u ++ ']' :: v) = rest?.map (· ++ ']' :: v) := by
  induction word generalizing u with
  | nil => exact ⟨some u, fun _ => rfl⟩
  | cons c word ih =>
    cases u with
    | nil => exact ⟨none, fun v => if_neg (by simp [hword c (List.mem_cons_self ..)])⟩
    | cons d u =>
      obtain ⟨rest?, hrest⟩ := ih (fun e he => hword e (List.mem_cons_of_mem c he)) u
      refine ⟨if (CharSet.literal true c).has d then rest? else none, fun v => ?_⟩
      rw [List.cons_append, afterWord?, hrest]
      split <;> rfl

theorem upToBracket?_bracket (u v : Text) : upToBracket? (u ++ ']' :: v) = upToBracket? (u ++ [']']) := by
  induction u with
  | nil => rfl
  | cons c u ih => rw [List.cons_append, List.cons_append, upToBracket?, upToBracket?, ih]

theorem partAhead?_bracket (u v : Text) : partAhead? (u ++ ']' :: v) = partAhead? (u ++ [']']) := by
  have hsame : ∀ word ∈ [formatWord, defaultWord], (afterWord? word (u ++ ']' :: v)).bind upToBracket? =
      (afterWord? word (u ++ [']'])).bind upToBracket? := by
    intro word hword
    obtain ⟨rest?, hrest⟩ := afterWord?_bracket (no_bracket_in_words word hword) u
    rw [hrest, hrest]
    cases rest? with
    | none => rfl
    | some rest => exact upToBracket?_bracket rest v
  rw [partAhead?, partAhead?, hsame _ (by simp), hsame _ (by simp)]

/-- **The parts of a text that is cut behind a closing bracket** are those of the two pieces. -/
theorem parts_append (u v : Text) : parts (u ++ ']' :: v) = parts (u ++ [']']) ++ parts v := by
  induction hn : u.length using Nat.strongRecOn generalizing u with
  | _ n ih =>
    cases hpart : partAhead? (u ++ [']']) with
    | none =>
      have hlong := (partAhead?_bracket u v).trans hpart
      cases u with
      | nil =>
        simp only [List.nil_append] at hpart hlong ⊢
        rw [parts, hlong, parts, hpart, parts]
        rfl
      | cons c u =>
        simp only [List.cons_append] at hpart hlong ⊢
        rw [parts, hlong, parts, hpart]
        exact ih u.length (by rw [← hn]; exact Nat.lt_succ_self _) u rfl
    | some part =>
      have hpos := part.size_pos
      have hsize := size_le_of_partAhead? hpart
      rw [List.length_append, List.length_singleton] at hsize
      rw [parts_of_partAhead? hpart, parts_of_partAhead? ((partAhead?_bracket u v).trans hpart), List.cons_append]
      congr 1
      by_cases hle : part.size ≤ u.length
      · rw [List.drop_append_of_le_length hle, List.drop_append_of_le_length hle]
        exact ih _ (by rw [List.length_drop]; omega) _ rfl
      · -- The part ends with the bracket itself.
        have hall : part.size = (u ++ [']']).length := by
          rw [List.length_append, List.length_singleton]
          omega
        have hcut : u ++ ']' :: v = u ++ [']'] ++ v := by simp
        rw [hall, hcut, List.drop_left, List.drop_length, parts]
        rfl

/-- Of a text that is cut behind a closing bracket, the first piece counts before the second. -/
theorem read_append (u v : Text) : read (u ++ ']' :: v) =
    ⟨(read (u ++ [']'])).format.or (read v).format, (read (u ++ [']'])).default.or (read v).default⟩ := by
  rw [read_eq_parts, parts_append, read_eq_parts, read_eq_parts, List.findSome?_append, List.findSome?_append]

/-- Where no bracket opens, there is no part. -/
theorem partAhead?_cons_ne {c : Char} (h : c ≠ '[') (t : Text) : partAhead? (c :: t) = none := by
  have hliteral : CharSet.literal true '[' = .chars ['['] := by decide +kernel
  have hopen : ∀ {word rest : Text}, word = '[' :: rest → afterWord? word (c :: t) = none := by
    rintro word rest rfl
    rw [afterWord?, hliteral, if_neg (by simpa [CharSet.has] using h)]
  have hformat : formatWord = '[' :: "format:".toList := rfl
  have hdefault : defaultWord = '[' :: "default:".toList := rfl
  rw [partAhead?, hopen hformat, hopen hdefault]
  rfl

theorem parts_of_no_opening {u : Text} (h : '[' ∉ u) (v : Text) : parts (u ++ v) = parts v := by
  induction u with
  | nil => rfl
  | cons c u ih =>
    rw [List.mem_cons, not_or] at h
    rw [List.cons_append, parts, partAhead?_cons_ne (Ne.symm h.1)]
    exact ih h.2

/-- What a part holds ends before the first closing bracket, so it has none. -/
theorem no_bracket_of_partAhead? {t u : Text} {part : Part} (h : partAhead? t = some part)
    (hu : part.format? = some u ∨ part.default? = some u) : ']' ∉ u := by
  have hbefore : ∀ {word u : Text}, (afterWord? word t).bind upToBracket? = some u → ']' ∉ u := by
    intro word u h
    obtain ⟨_, -, hu⟩ := Option.bind_eq_some_iff.1 h
    obtain ⟨_, -, hbracket, -⟩ := upToBracket?_eq_some.1 hu
    exact hbracket
  rw [partAhead?, Option.or_eq_some_iff] at h
  rcases h with h | ⟨-, h⟩
  · obtain ⟨spec, hspec, rfl⟩ := Option.map_eq_some_iff.1 h
    obtain rfl : spec = u := by simpa [Part.format?, Part.default?] using hu
    exact hbefore hspec
  · obtain ⟨text, htext, rfl⟩ := Option.map_eq_some_iff.1 h
    obtain rfl : text = u := by simpa [Part.format?, Part.default?] using hu
    exact hbefore htext

theorem no_bracket_of_mem_parts {t u : Text} {part : Part} (h : part ∈ parts t)
    (hu : part.format? = some u ∨ part.default? = some u) : ']' ∉ u := by
  fun_induction parts t with
  | case1 => cases h
  | case2 c t part' hpart ih =>
    rcases List.mem_cons.1 h with rfl | h
    · exact no_bracket_of_partAhead? hpart hu
    · exact ih h
  | case3 c t hpart ih => exact ih h

/-- No format that is read has a closing bracket. -/
theorem no_bracket_of_read_format {t spec : Text} (h : (read t).format = some spec) : ']' ∉ spec := by
  rw [read_eq_parts] at h
  obtain ⟨part, hpart, hspec⟩ := List.exists_of_findSome?_eq_some h
  exact no_bracket_of_mem_parts hpart (.inl hspec)

end Placeholder.Clause
