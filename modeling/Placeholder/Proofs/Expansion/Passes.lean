/-
The passes of an expansion, as a relation: `Reaches` follows the passes that change the text, and
`Ending` tells the four ways in which they come to an end. Neither knows of the strict mode, which only
decides what becomes of a text that a pass leaves unchanged.

Every run has a last step (`exists_ending`), and the run goes there with the relation
(`passes_of_reaches`); so what a run gives can be read off its last step (`parse_of_reaches`).
-/
import Placeholder.Expansion
import Placeholder.Proofs.Tag.Splice

namespace Placeholder

namespace Run

theorem bind_ok {α β : Type} {m : Run α} {f : α → Run β} {j k : Journal} {a : α} (h : m j = .ok (a, k)) :
    (m >>= f) j = f a k := by
  have hbind : (m >>= f) j = (m j).bind fun p => f p.1 p.2 := rfl
  rw [hbind, h, Except.bind]

theorem bind_error {α β : Type} {m : Run α} {f : α → Run β} {j : Journal} {e : Fault} (h : m j = .error e) :
    (m >>= f) j = .error e := by
  have hbind : (m >>= f) j = (m j).bind fun p => f p.1 p.2 := rfl
  rw [hbind, h, Except.bind]

theorem bind_eq_ok {α β : Type} {m : Run α} {f : α → Run β} {j k : Journal} {a : β} :
    (m >>= f) j = .ok (a, k) ↔ ∃ x l, m j = .ok (x, l) ∧ f x l = .ok (a, k) := by
  cases hm : m j with
  | error e =>
    rw [bind_error hm]
    simp
  | ok p =>
    rw [bind_ok hm]
    constructor
    · exact fun h => ⟨p.1, p.2, rfl, h⟩
    · rintro ⟨x, l, hp, h⟩
      cases hp
      exact h

end Run

namespace Builder

variable {b : Builder} {sources : Sources}

/-! ## Single tags -/

theorem wrapSecret_eq (options : Options) (cipher : Secret.Cipher) (key raw v : Text) (isSecret : Bool) (j : Journal) :
    wrapSecret options cipher key raw v isSecret j =
      .ok ((Secret.wrap options.boolToLower cipher key raw v isSecret j.calls).1,
        { j with calls := (Secret.wrap options.boolToLower cipher key raw v isSecret j.calls).2 }) := rfl

theorem resolveTag_eq (b : Builder) (s : Sources) (g : Tag) : resolveTag b s g = (do
    match ← resolveKey s g (Secret.stripMarker g.key).1 with
    | some value => return some (← wrapSecret b.options s.cipher (Secret.stripMarker g.key).1 g.raw value
        (Secret.stripMarker g.key).2)
    | none => return none) := rfl

/-! ## One step -/

/-- A pass that changes a text with live tags; the journal goes from `j` to `k`. -/
structure Advances (b : Builder) (sources : Sources) (t : Text) (j : Journal) (u : Text) (k : Journal) : Prop where
  live : Tag.all b.pattern t ≠ []
  pass : b.substitute sources t j = .ok (u, k)
  changed : u ≠ t

/-- Why no further pass changes a text, where `left` more passes are allowed. -/
inductive Ending (b : Builder) (sources : Sources) : (left : Nat) → Text → Journal → Prop
  /-- No live tag is left. -/
  | settled {left t j} : Tag.all b.pattern t = [] → Ending b sources left t j
  /-- No pass is left. -/
  | limit {t j} : Tag.all b.pattern t ≠ [] → Ending b sources 0 t j
  | fault {left t j f} : Tag.all b.pattern t ≠ [] → b.substitute sources t j = .error f →
      Ending b sources (left + 1) t j
  /-- A pass leaves the text as it is. -/
  | unchanged {left t j k} : Tag.all b.pattern t ≠ [] → b.substitute sources t j = .ok (t, k) →
      Ending b sources (left + 1) t j

theorem passes_settled {strict first left t j} (h : Tag.all b.pattern t = []) :
    b.passes sources strict left first t j = .ok (b.finish first t, j) := by
  rw [passes.eq_def]
  simp only [h, List.isEmpty_nil, if_true]
  rfl

theorem passes_limit {strict first t j} (h : Tag.all b.pattern t ≠ []) :
    b.passes sources strict 0 first t j = .error (.passLimit b.options.maxPasses) := by
  rw [passes]
  simp only [List.isEmpty_iff, h, if_false]
  rfl

theorem passes_fault {strict first left t j f} (h : Tag.all b.pattern t ≠ [])
    (hf : b.substitute sources t j = .error f) :
    b.passes sources strict (left + 1) first t j = .error f := by
  rw [passes]
  simp only [List.isEmpty_iff, h, if_false]
  exact Run.bind_error hf

theorem passes_unchanged {strict first left t j k} (h : Tag.all b.pattern t ≠ [])
    (hsame : b.substitute sources t j = .ok (t, k)) :
    b.passes sources strict (left + 1) first t j =
      if strict then .error (.unresolved ((Tag.all b.pattern t).map Tag.raw)) else .ok (t, k) := by
  rw [passes]
  simp only [List.isEmpty_iff, h, if_false]
  rw [Run.bind_ok hsame]
  cases strict <;> simp <;> rfl

theorem Advances.passes_eq {strict first left t j u k} (h : b.Advances sources t j u k) :
    b.passes sources strict (left + 1) first t j = b.passes sources strict left false u k := by
  rw [passes]
  simp only [List.isEmpty_iff, h.live, if_false]
  rw [Run.bind_ok h.pass, if_neg h.changed]

/-! ## All steps -/

/-- The text and the journal after `n` passes that change the text. -/
inductive Reaches (b : Builder) (sources : Sources) : Nat → Text → Journal → Text → Journal → Prop
  | refl {t j} : Reaches b sources 0 t j t j
  | step {n t j u k v l} : b.Advances sources t j u k → Reaches b sources n u k v l →
      Reaches b sources (n + 1) t j v l

/-- A run goes on from every text it reaches, with the passes that are left. -/
theorem passes_of_reaches {strict first left n t j u k} (h : Reaches b sources n t j u k) :
    b.passes sources strict (n + left) first t j = b.passes sources strict left (first && n == 0) u k := by
  induction h generalizing first with
  | refl => rw [Nat.zero_add, beq_self_eq_true, Bool.and_true]
  | @step n t j u k v l hadv _ ih =>
    rw [Nat.add_right_comm, hadv.passes_eq, ih]
    simp

/-- **Every run ends**, at a text that it reaches. -/
theorem exists_ending (b : Builder) (sources : Sources) (left : Nat) (t : Text) (j : Journal) :
    ∃ n m u k, left = n + m ∧ Reaches b sources n t j u k ∧ Ending b sources m u k := by
  induction left generalizing t j with
  | zero =>
    by_cases hlive : Tag.all b.pattern t = []
    · exact ⟨0, 0, t, j, rfl, .refl, .settled hlive⟩
    · exact ⟨0, 0, t, j, rfl, .refl, .limit hlive⟩
  | succ left ih =>
    by_cases hlive : Tag.all b.pattern t = []
    · exact ⟨0, left + 1, t, j, (Nat.zero_add _).symm, .refl, .settled hlive⟩
    · cases hpass : b.substitute sources t j with
      | error f => exact ⟨0, left + 1, t, j, (Nat.zero_add _).symm, .refl, .fault hlive hpass⟩
      | ok p =>
        obtain ⟨u, k⟩ := p
        by_cases hsame : u = t
        · subst hsame
          exact ⟨0, left + 1, u, j, (Nat.zero_add _).symm, .refl, .unchanged hlive hpass⟩
        · obtain ⟨n, m, v, l, rfl, hreach, hend⟩ := ih u k
          exact ⟨n + 1, m, v, l, by omega, .step ⟨hlive, hpass, hsame⟩ hreach, hend⟩

theorem parse_nil (b : Builder) (sources : Sources) (strict : Bool) :
    b.parse sources strict [] = .error .emptyExpression := rfl

/-- What a run gives is what it gives from a text that it reaches. -/
theorem parse_of_reaches {t : Text} (ht : t ≠ []) {strict n m u k} (hmax : b.options.maxPasses = n + m)
    (h : Reaches b sources n t {} u k) :
    b.parse sources strict t = (b.passes sources strict m (n == 0) u k).map Prod.fst := by
  have hrun : b.parse sources strict t = (b.passes sources strict b.options.maxPasses true t {}).map Prod.fst := by
    rw [parse, run, if_neg (by simpa using ht)]
    rfl
  rw [hrun, hmax, passes_of_reaches h, Bool.true_and]

theorem finish_of_no_dollar {t : Text} (h : '$' ∉ t) (first : Bool) : b.finish first t = t := by
  rw [finish, Tag.unescape_of_no_dollar h, ite_self]

/-- A text without a dollar sign is the answer, if no more passes lead to it than are allowed. -/
theorem parse_of_reaches_no_dollar (hb : b.pattern = Tag.livePattern) {t r : Text} (ht : t ≠ []) {strict n k}
    (hn : n ≤ b.options.maxPasses) (h : Reaches b sources n t {} r k) (hr : '$' ∉ r) :
    b.parse sources strict t = .ok r := by
  obtain ⟨m, hm⟩ := Nat.exists_eq_add_of_le hn
  have hsettled : Tag.all b.pattern r = [] := by rw [hb, Tag.all_of_no_dollar hr]
  rw [parse_of_reaches ht hm h, passes_settled hsettled, finish_of_no_dollar hr]
  rfl

/-- A tag that is alone in its text, and becomes a text without a dollar sign: this text is the answer. -/
theorem parse_of_alone (hb : b.pattern = Tag.livePattern) (hmax : 1 ≤ b.options.maxPasses) {g : Tag}
    (halone : Tag.segments Tag.livePattern g.raw = [.tag g]) {r : Text} {k : Journal}
    (h : resolveTag b sources g {} = .ok (some r, k)) (hr : '$' ∉ r) (strict : Bool) :
    b.parse sources strict g.raw = .ok r := by
  have hdollar : '$' ∈ g.raw := by
    refine Classical.byContradiction fun hnone => ?_
    have hplain := Tag.segments_of_no_dollar hnone
    rw [halone] at hplain
    cases hraw : g.raw <;> simp [hraw] at hplain
  have hlive : Tag.all b.pattern g.raw ≠ [] := by
    rw [hb, Tag.all, halone]
    exact List.cons_ne_nil g []
  have hpass : b.substitute sources g.raw {} = .ok (r, k) := by
    rw [substitute, hb, halone, replaceSegments, List.lookup_nil]
    exact (Run.bind_ok h).trans (congrArg (fun t => Except.ok (t, k)) (List.append_nil r))
  have hchanged : r ≠ g.raw := fun heq => hr (heq ▸ hdollar)
  exact parse_of_reaches_no_dollar hb (List.ne_nil_of_mem hdollar) hmax (.step ⟨hlive, hpass, hchanged⟩ .refl) hr

end Builder

end Placeholder
