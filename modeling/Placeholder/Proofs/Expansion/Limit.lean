/-
The number of passes. A pass does not know how many may follow it, so runs with different limits go through the
same texts (`Reaches.limited`), and a run that does not meet its limit ends like every run with a greater one
(`parse_limited`).

Honestly told, the limit is asked for before the pass, and not when the pass has changed the text. So it counts
every pass over a text with live tags, one that would change nothing included: a run that has used up its limit
fails at a text that it has settled at, unless no live tag is left in it (`parse_at_limit`).
-/
import Placeholder.Proofs.Expansion.Faults

namespace Placeholder.Builder

variable {b : Builder} {s : Sources}

/-! ## Builders that differ in their limits -/

/-- The same builder with another number of passes. -/
def limited (b : Builder) (n : Nat) : Builder := { b with options := { b.options with maxPasses := n } }

theorem replaceSegments_limited (b : Builder) (s : Sources) (n : Nat) (resolved : Resolved)
    (segs : List Tag.Segment) :
    replaceSegments (b.limited n) s resolved segs = replaceSegments b s resolved segs := by
  have htag : ∀ g, resolveTag (b.limited n) s g = resolveTag b s g := fun _ => rfl
  induction segs generalizing resolved with
  | nil => rfl
  | cons seg segs ih =>
    cases seg with
    | plain c => rw [replaceSegments, replaceSegments, ih]
    | tag g =>
      rw [replaceSegments, replaceSegments, htag]
      simp only [ih]

theorem substitute_limited (b : Builder) (s : Sources) (n : Nat) (t : Text) :
    (b.limited n).substitute s t = b.substitute s t := replaceSegments_limited b s n [] _

/-- Texts are reached with every limit. -/
theorem Reaches.limited {n t j u k} (h : Reaches b s n t j u k) (l : Nat) : Reaches (b.limited l) s n t j u k := by
  induction h with
  | refl => exact .refl
  | step hadv _ ih => exact .step ⟨hadv.live, by rw [substitute_limited, hadv.pass], hadv.changed⟩ ih

/-- Where no pass is left, a run fails for its limit; and every other end of a run is the same with more passes
left and any other limit. -/
theorem Ending.passes_limited {left t j} (h : Ending b s left t j) (strict first : Bool) (l more : Nat) :
    b.passes s strict left first t j = .error (.passLimit b.options.maxPasses) ∨
      (b.limited l).passes s strict (left + more) first t j = b.passes s strict left first t j := by
  cases h with
  | settled hlive =>
    right
    rw [passes_settled hlive, passes_settled (b := b.limited l) hlive]
    rfl
  | limit hlive => exact .inl (passes_limit hlive)
  | @fault left _ _ f hlive hf =>
    right
    have hf' : (b.limited l).substitute s t j = .error f := by rw [substitute_limited, hf]
    rw [Nat.add_right_comm, passes_fault hlive hf, passes_fault (b := b.limited l) hlive hf']
  | @unchanged left _ _ k hlive hsame =>
    right
    have hsame' : (b.limited l).substitute s t j = .ok (t, k) := by rw [substitute_limited, hsame]
    rw [Nat.add_right_comm, passes_unchanged hlive hsame, passes_unchanged (b := b.limited l) hlive hsame']
    rfl

/-! ## Where the limit is met -/

/-- A run fails for its limit if as many passes as it allows have changed the text and live tags are left. -/
theorem parse_eq_passLimit_iff (b : Builder) (s : Sources) (strict : Bool) (t : Text) (l : Nat) :
    b.parse s strict t = .error (.passLimit l) ↔
      l = b.options.maxPasses ∧ t ≠ [] ∧
        ∃ u k, Reaches b s b.options.maxPasses t {} u k ∧ Tag.all b.pattern u ≠ [] := by
  constructor
  · intro h
    have ht : t ≠ [] := by
      rintro rfl
      rw [parse_nil] at h
      cases h
    obtain ⟨n, m, u, k, hmax, hreach, hend⟩ := exists_ending b s b.options.maxPasses t {}
    rw [parse_of_reaches ht hmax hreach] at h
    cases hend with
    | settled hlive =>
      rw [passes_settled hlive] at h
      cases h
    | limit hlive =>
      rw [passes_limit hlive] at h
      cases h
      rw [Nat.add_zero] at hmax
      exact ⟨rfl, ht, u, k, hmax ▸ hreach, hlive⟩
    | fault hlive hf =>
      rw [passes_fault hlive hf] at h
      cases h
      exact absurd rfl ((substitute_faults b s _ _ _ hf).ne_passLimit l)
    | unchanged hlive hsame =>
      rw [passes_unchanged hlive hsame] at h
      cases strict <;> cases h
  · rintro ⟨rfl, ht, u, k, hreach, hlive⟩
    rw [parse_of_reaches ht (Nat.add_zero _).symm hreach, passes_limit hlive]
    rfl

/-- **Raising the limit never changes an answer.** A run that does not fail for its limit gives the same with
every greater limit; and one that fails for its limit fails for every smaller one. -/
theorem parse_limited (b : Builder) (s : Sources) (strict : Bool) (t : Text) :
    (∀ m n, m ≤ n → (∀ l, (b.limited m).parse s strict t ≠ .error (.passLimit l)) →
      (b.limited n).parse s strict t = (b.limited m).parse s strict t) ∧
    (∀ m n, n ≤ m → (∃ l, (b.limited m).parse s strict t = .error (.passLimit l)) →
      (b.limited n).parse s strict t = .error (.passLimit n)) := by
  have hraise : ∀ m n, m ≤ n → (∀ l, (b.limited m).parse s strict t ≠ .error (.passLimit l)) →
      (b.limited n).parse s strict t = (b.limited m).parse s strict t := by
    intro m n hmn hm
    by_cases ht : t = []
    · rw [ht, parse_nil, parse_nil]
    -- With the greater limit the run comes to the same text, and has more passes left there.
    obtain ⟨i, left, u, k, hleft, hreach, hend⟩ := exists_ending (b.limited m) s m t {}
    have hmore : (b.limited n).options.maxPasses = i + (left + (n - m)) := by
      have hn : (b.limited n).options.maxPasses = n := rfl
      omega
    have hreach' : Reaches (b.limited n) s i t {} u k := hreach.limited n
    rw [parse_of_reaches ht hleft hreach] at hm ⊢
    rw [parse_of_reaches ht hmore hreach']
    rcases hend.passes_limited strict (i == 0) n (n - m) with hlimit | hsame
    · rw [hlimit] at hm
      exact absurd rfl (hm _)
    · exact congrArg (Except.map Prod.fst) hsame
  refine ⟨hraise, fun m n hnm ⟨l, hl⟩ => Classical.byContradiction fun hn => ?_⟩
  have hnot : ∀ l', (b.limited n).parse s strict t ≠ .error (.passLimit l') := by
    intro l' hl'
    obtain rfl := ((parse_eq_passLimit_iff _ _ _ _ _).1 hl').1
    exact hn hl'
  exact hnot l (hraise n m hnm hnot ▸ hl)

/-- A text that has settled in as many passes as are allowed is the answer, and with every greater limit too. -/
theorem parse_limited_last_pass :
    (({} : Builder).limited 1).parse { values := .ofList [(['a'], .string ['x'])] } true ['$', '{', 'a', '}'] =
      .ok ['x'] ∧
    ∀ n, 1 ≤ n → (({} : Builder).limited n).parse { values := .ofList [(['a'], .string ['x'])] } true
      ['$', '{', 'a', '}'] = .ok ['x'] := by
  let sources : Sources := { values := .ofList [(['a'], .string ['x'])] }
  let t : Text := ['$', '{', 'a', '}']
  have hsegs : Tag.segments Tag.livePattern t = [.tag ⟨t, ['a'], none⟩] := by
    rw [Tag.livePattern_delimited.segments_eq_cut]
    cbv
  have hreach : Reaches {} sources 1 t {} ['x'] {} := by
    refine .step ⟨?_, ?_, by decide⟩ .refl
    · rw [Tag.all, hsegs]
      decide
    · rw [substitute, hsegs]
      rfl
  have hfirst : (({} : Builder).limited 1).parse sources true t = .ok ['x'] :=
    parse_of_reaches_no_dollar rfl (by decide) (by decide) (hreach.limited 1) (by decide)
  refine ⟨hfirst, fun n hn => ?_⟩
  rw [(parse_limited {} sources true t).1 1 n hn fun l hl => by rw [hfirst] at hl; cases hl]
  exact hfirst

/-! ## What the limit counts -/

/-- What a run gives at a text that no pass changes: its end form if no live tag is in it, the fault of the pass,
or what the mode makes of a text with live tags. -/
def converged (b : Builder) (s : Sources) (strict first : Bool) (t : Text) (j : Journal) : Outcome Text :=
  if Tag.all b.pattern t = [] then .ok (b.finish first t)
  else match b.substitute s t j with
    | .error f => .error f
    | .ok (u, _) => if strict then .error (.unresolved ((Tag.all b.pattern t).map Tag.raw)) else .ok u

theorem converged_settled {strict first t j} (h : Tag.all b.pattern t = []) :
    b.converged s strict first t j = .ok (b.finish first t) := if_pos h

theorem not_advances_of_unchanged {t j k} (h : b.substitute s t j = .ok (t, k)) (u : Text) (l : Journal) :
    ¬ b.Advances s t j u l := by
  intro hadv
  have hpass := hadv.pass
  rw [h] at hpass
  cases hpass
  exact hadv.changed rfl

/-- A run with a pass left comes to the end that it has without a limit. -/
theorem passes_converged {strict first left t j} (h : ∀ u k, ¬ b.Advances s t j u k) :
    (b.passes s strict (left + 1) first t j).map Prod.fst = b.converged s strict first t j := by
  by_cases hlive : Tag.all b.pattern t = []
  · rw [passes_settled hlive, converged_settled hlive]
    rfl
  rw [converged, if_neg hlive]
  cases hpass : b.substitute s t j with
  | error f =>
    rw [passes_fault hlive hpass]
    rfl
  | ok p =>
    obtain ⟨u, k⟩ := p
    obtain rfl : u = t := Classical.byContradiction fun hne => h u k ⟨hlive, hpass, hne⟩
    rw [passes_unchanged hlive hpass]
    cases strict <;> rfl

/-- Before a text is reached, the texts on the way to it are, and live tags are in them. -/
theorem Reaches.earlier {n m t j v l} (h : Reaches b s n t j v l) (hm : m < n) :
    ∃ u k, Reaches b s m t j u k ∧ Tag.all b.pattern u ≠ [] := by
  induction h generalizing m with
  | refl => exact absurd hm (Nat.not_lt_zero m)
  | step hadv _ ih =>
    cases m with
    | zero => exact ⟨_, _, .refl, hadv.live⟩
    | succ m =>
      obtain ⟨u, k, hreach, hlive⟩ := ih (Nat.lt_of_succ_lt_succ hm)
      exact ⟨u, k, .step hadv hreach, hlive⟩

/-- All texts that a run reaches stand on the way to its end. -/
theorem Reaches.rest {n m t j u k v l} (h : Reaches b s n t j u k) (hend : ∀ v l, ¬ b.Advances s u k v l)
    (h' : Reaches b s m t j v l) : ∃ i, n = m + i ∧ Reaches b s i v l u k := by
  induction h' generalizing n with
  | refl => exact ⟨n, (Nat.zero_add n).symm, h⟩
  | step hadv' _ ih =>
    cases h with
    | refl => exact absurd hadv' (hend _ _)
    | step hadv hrest =>
      have hpass := hadv.pass
      rw [hadv'.pass] at hpass
      cases hpass
      obtain ⟨i, rfl, hreach⟩ := ih hrest
      exact ⟨i, by omega, hreach⟩

/-- **What the limit counts.** A run fails for its limit exactly if as many passes as it allows have changed the
text and live tags are left. So if `n` passes change the text and none after them does, the run gives what it
would give without a limit if `n` is below the limit, or is the limit and no live tag is left; and otherwise it
fails. -/
theorem parse_at_limit (b : Builder) (s : Sources) (strict : Bool) {t : Text} (ht : t ≠ []) :
    (∀ l, b.parse s strict t = .error (.passLimit l) ↔
      l = b.options.maxPasses ∧ ∃ u k, Reaches b s b.options.maxPasses t {} u k ∧ Tag.all b.pattern u ≠ []) ∧
    ∀ n u k, Reaches b s n t {} u k → (∀ v l, ¬ b.Advances s u k v l) →
      b.parse s strict t =
        if n < b.options.maxPasses ∨ n = b.options.maxPasses ∧ Tag.all b.pattern u = [] then
          b.converged s strict (n == 0) u k
        else .error (.passLimit b.options.maxPasses) := by
  have hlimit := parse_eq_passLimit_iff b s strict t
  simp only [ht, ne_eq, not_false_eq_true, true_and] at hlimit
  refine ⟨hlimit, fun n u k hreach hend => ?_⟩
  split
  next h =>
    rcases h with hlt | ⟨hmax, hlive⟩
    · obtain ⟨left, hleft⟩ : ∃ left, b.options.maxPasses = n + (left + 1) :=
        ⟨b.options.maxPasses - (n + 1), by omega⟩
      rw [parse_of_reaches ht hleft hreach, passes_converged hend]
    · have hleft : b.options.maxPasses = n + 0 := by omega
      rw [parse_of_reaches ht hleft hreach, passes_settled hlive, converged_settled hlive]
      rfl
  next h =>
    refine (hlimit _).2 ⟨rfl, ?_⟩
    rcases Nat.lt_or_ge b.options.maxPasses n with hlt | hle
    · exact hreach.earlier hlt
    · obtain rfl : n = b.options.maxPasses := by omega
      exact ⟨u, k, hreach, fun hlive => h (.inr ⟨rfl, hlive⟩)⟩

/-- Of two tags one has a value: one pass changes the text, and the next leaves it as it is. -/
theorem reaches_half : Reaches {} { values := .ofList [(['a'], .string ['x'])] } 1
      ['$', '{', 'a', '}', '$', '{', 'b', '}'] {} ['x', '$', '{', 'b', '}'] {} ∧
    ({} : Builder).substitute { values := .ofList [(['a'], .string ['x'])] } ['x', '$', '{', 'b', '}'] {} =
      .ok (['x', '$', '{', 'b', '}'], {}) ∧
    Tag.all Tag.livePattern ['x', '$', '{', 'b', '}'] = [⟨['$', '{', 'b', '}'], ['b'], none⟩] := by
  let a : Tag := ⟨['$', '{', 'a', '}'], ['a'], none⟩
  let b : Tag := ⟨['$', '{', 'b', '}'], ['b'], none⟩
  obtain ⟨hab, hb⟩ : Tag.segments Tag.livePattern ['$', '{', 'a', '}', '$', '{', 'b', '}'] = [.tag a, .tag b] ∧
      Tag.segments Tag.livePattern ['x', '$', '{', 'b', '}'] = [.plain 'x', .tag b] := by
    constructor <;> rw [Tag.livePattern_delimited.segments_eq_cut] <;> cbv
  refine ⟨.step ⟨?_, ?_, by decide⟩ .refl, ?_, ?_⟩
  · rw [Tag.all, hab]
    decide
  · rw [substitute, hab]
    rfl
  · rw [substitute, hb]
    rfl
  · rw [Tag.all, hb]
    rfl

/-- With a pass to spare, the tag without a value is named. -/
theorem parse_at_limit_spare :
    (({} : Builder).limited 2).parse { values := .ofList [(['a'], .string ['x'])] } true
      ['$', '{', 'a', '}', '$', '{', 'b', '}'] = .error (.unresolved [['$', '{', 'b', '}']]) := by
  obtain ⟨hreach, hsame, hall⟩ := reaches_half
  have hsame' := (substitute_limited {} _ 2 _).symm ▸ hsame
  have hend := (parse_at_limit (({} : Builder).limited 2) { values := .ofList [(['a'], .string ['x'])] } true
    (t := ['$', '{', 'a', '}', '$', '{', 'b', '}']) (by decide)).2 1 _ _ (hreach.limited 2)
    (not_advances_of_unchanged hsame')
  rw [hend, if_pos (.inl (by decide)), converged, hsame',
    show (({} : Builder).limited 2).pattern = Tag.livePattern from rfl, hall]
  rfl

/-- One pass changes the text and one is allowed, but the run fails, for the pass that would change nothing is
not allowed any more. -/
theorem parse_limit_before_unchanged :
    let s : Sources := { values := .ofList [(['a'], .string ['x'])] }
    let t : Text := ['$', '{', 'a', '}', '$', '{', 'b', '}']
    let u : Text := ['x', '$', '{', 'b', '}']
    let b : Builder := ({} : Builder).limited 1
    Reaches b s 1 t {} u {} ∧ (∀ v k, ¬ Reaches b s 2 t {} v k) ∧ b.converged s false false u {} = .ok u ∧
      b.parse s false t = .error (.passLimit 1) := by
  intro s t u b
  obtain ⟨hreach, hsame, hall⟩ := reaches_half
  have hreach' : Reaches b s 1 t {} u {} := hreach.limited 1
  have hsame' : b.substitute s u {} = .ok (u, {}) := by rw [substitute_limited]; exact hsame
  have hlive : Tag.all b.pattern u ≠ [] := by
    rw [show b.pattern = Tag.livePattern from rfl, hall]
    decide
  have hend : ∀ v k, ¬ b.Advances s u {} v k := not_advances_of_unchanged hsame'
  refine ⟨hreach', fun v k h => ?_, ?_, ?_⟩
  · obtain ⟨i, hi, -⟩ := hreach'.rest hend h
    omega
  · rw [converged, if_neg hlive, hsame']
    rfl
  · rw [parse_of_reaches (by decide) (show _ = 1 + 0 from rfl) hreach', passes_limit hlive]
    rfl

end Placeholder.Builder
