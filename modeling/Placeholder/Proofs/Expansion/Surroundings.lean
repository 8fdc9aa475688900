/-
Plain surroundings: a text without dollar signs in front and one without closing braces behind are carried
through an expansion as they are, and nothing else changes (`parse_surround`).

A pass finds the same tags with the surroundings as without (`Tag.segments_surround`), so it resolves the same
tags in the same order, from the same journal. Each question that a run asks of its text then has the same
answer: are there tags, did the pass change anything, what is restored at the end. This holds for the texts of
all passes, whatever half-open tags they may end in.
-/
import Placeholder.Proofs.Expansion.Passes
import Placeholder.Proofs.Tag.Context

namespace Placeholder.Builder

variable {b : Builder} {sources : Sources} {p s : Text}

/-- A text with one put before it and one behind it. -/
def surround (p s t : Text) : Text := p ++ t ++ s

theorem surround_inj {t u : Text} : surround p s t = surround p s u ↔ t = u := by
  simp [surround]

/-! ## One pass -/

theorem replaceSegments_map_plain (resolved : Resolved) (t : Text) :
    replaceSegments b sources resolved (t.map .plain) = pure t := by
  induction t with
  | nil => rfl
  | cons c t ih =>
    rw [List.map_cons, replaceSegments, ih]
    rfl

theorem replaceSegments_append_plain (resolved : Resolved) (segs : List Tag.Segment) :
    replaceSegments b sources resolved (segs ++ s.map .plain) =
      (· ++ s) <$> replaceSegments b sources resolved segs := by
  induction segs generalizing resolved with
  | nil => exact replaceSegments_map_plain resolved s
  | cons seg segs ih =>
    cases seg with
    | plain c =>
      rw [List.cons_append, replaceSegments, replaceSegments, ih]
      simp
    | tag g =>
      rw [List.cons_append, replaceSegments, replaceSegments]
      split
      · rw [ih]
        simp
      · simp [ih]

theorem replaceSegments_plain_append (resolved : Resolved) (segs : List Tag.Segment) :
    replaceSegments b sources resolved (p.map .plain ++ segs) =
      (p ++ ·) <$> replaceSegments b sources resolved segs := by
  induction p with
  | nil => simp
  | cons c p ih =>
    rw [List.map_cons, List.cons_append, replaceSegments, ih]
    simp

theorem substitute_surround (hb : b.pattern = Tag.livePattern) (hp : '$' ∉ p) (hs : '}' ∉ s) (t : Text) :
    b.substitute sources (surround p s t) = surround p s <$> b.substitute sources t := by
  rw [substitute, substitute, hb, surround, Tag.segments_surround hp hs, replaceSegments_append_plain,
    replaceSegments_plain_append, Functor.map_map]
  rfl

/-! ## The run -/

theorem finish_surround (hp : '$' ∉ p) (hs : '}' ∉ s) (first : Bool) (t : Text) :
    b.finish first (surround p s t) = surround p s (b.finish first t) := by
  rw [finish, finish]
  split
  · rfl
  · exact Tag.unescape_surround hp hs t

theorem passes_surround (hb : b.pattern = Tag.livePattern) (hp : '$' ∉ p) (hs : '}' ∉ s)
    (strict first : Bool) (left : Nat) (t : Text) :
    b.passes sources strict left first (surround p s t) =
      surround p s <$> b.passes sources strict left first t := by
  have hall : ∀ u, Tag.all b.pattern (surround p s u) = Tag.all b.pattern u := by
    intro u
    rw [hb]
    exact Tag.all_surround hp hs u
  induction left generalizing first t with
  | zero =>
    rw [passes, passes, hall]
    split
    · rw [finish_surround hp hs, map_pure]
    · rfl
  | succ left ih =>
    rw [passes, passes, hall]
    split
    · rw [finish_surround hp hs, map_pure]
    · rw [substitute_surround hb hp hs, map_bind, bind_map_left]
      refine bind_congr fun u => ?_
      simp only [surround_inj]
      split
      · cases strict <;> rfl
      · exact ih false u

/-- **Plain surroundings do not touch an expansion**: the text in the middle becomes what it becomes alone, and
where it fails alone it fails with the same fault. -/
theorem parse_surround (hb : b.pattern = Tag.livePattern) (sources : Sources) (strict : Bool) {p e s : Text}
    (hp : '$' ∉ p) (hs : '}' ∉ s) (he : e ≠ []) :
    b.parse sources strict (p ++ e ++ s) = (b.parse sources strict e).map fun r => p ++ r ++ s := by
  have hne : p ++ e ++ s ≠ [] := by simp [he]
  have hrun : b.run sources strict (p ++ e ++ s) = surround p s <$> b.run sources strict e := by
    rw [run, run, if_neg (by simpa using hne), if_neg (by simpa using he)]
    exact passes_surround hb hp hs strict true b.options.maxPasses e
  rw [parse, parse, hrun]
  simp only [StateT.run_map]
  cases (b.run sources strict e).run {} <;> rfl

/-- What a tag becomes may look like the opening of a tag together with what stands behind. -/
theorem parse_between_brace_and_key :
    ({} : Builder).parse { values := .ofList [(['a'], .string ['x', '$'])] } true
      (['}', ' '] ++ ['$', '{', 'a', '}'] ++ ['{', 'b']) = .ok ['}', ' ', 'x', '$', '{', 'b'] := by
  let a : Tag := ⟨['$', '{', 'a', '}'], ['a'], none⟩
  let sources : Sources := { values := .ofList [(['a'], .string ['x', '$'])] }
  obtain ⟨ha, hx⟩ : Tag.segments Tag.livePattern ['$', '{', 'a', '}'] = [.tag a] ∧
      Tag.segments Tag.livePattern ['x', '$'] = [.plain 'x', .plain '$'] := by
    constructor <;> rw [Tag.livePattern_delimited.segments_eq_cut] <;> cbv
  have hpass : ({} : Builder).substitute sources ['$', '{', 'a', '}'] {} = .ok (['x', '$'], {}) := by
    rw [substitute, ha]
    rfl
  have hreach : Reaches {} sources 1 ['$', '{', 'a', '}'] {} ['x', '$'] {} := by
    refine .step ⟨?_, hpass, by decide⟩ .refl
    rw [Tag.all, ha]
    decide
  have hmiddle : ({} : Builder).parse sources true ['$', '{', 'a', '}'] = .ok ['x', '$'] := by
    have hsettled : Tag.all ({} : Builder).pattern ['x', '$'] = [] := by
      rw [Tag.all, hx]
      rfl
    have hend : Tag.unescape ['x', '$'] = ['x', '$'] := by
      rw [Tag.unescape_eq]
      cbv
    have hmax : ({} : Builder).options.maxPasses = 1 + 63 := rfl
    rw [parse_of_reaches (by decide) hmax hreach, passes_settled hsettled, finish, hend]
    rfl
  rw [parse_surround rfl sources true (by decide) (by decide) (by decide), hmiddle]
  rfl

end Placeholder.Builder
