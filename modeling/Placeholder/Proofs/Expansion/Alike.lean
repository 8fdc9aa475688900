/-
Steps that show the same. The journal holds the calls that the cipher was asked and the number of draws; no
step reads the calls for anything but the cipher, and a pure cipher does not look at them either. So two runs
that differ in the calls alone go on alike, step by step (`passes_alike`).
-/
import Placeholder.Proofs.Secret
import Placeholder.Proofs.Expansion.Draws

namespace Placeholder

namespace Run

variable {α β : Type}

/-- Two outcomes of a step that differ at most in the calls of the cipher. -/
inductive SameShown : Outcome (α × Journal) → Outcome (α × Journal) → Prop
  | error (f : Fault) : SameShown (.error f) (.error f)
  | ok (a : α) {k₁ k₂ : Journal} : k₁.drawn = k₂.drawn → SameShown (.ok (a, k₁)) (.ok (a, k₂))

/-- Two steps that show the same, whatever the cipher was called with before. -/
def Alike (m₁ m₂ : Run α) : Prop :=
  ∀ j₁ j₂ : Journal, j₁.drawn = j₂.drawn → SameShown (m₁ j₁) (m₂ j₂)

theorem SameShown.cases {o₁ o₂ : Outcome (α × Journal)} (h : SameShown o₁ o₂) :
    (∃ f, o₁ = .error f ∧ o₂ = .error f) ∨
    (∃ a k₁ k₂, o₁ = .ok (a, k₁) ∧ o₂ = .ok (a, k₂) ∧ k₁.drawn = k₂.drawn) := by
  cases h with
  | error f => exact .inl ⟨f, rfl, rfl⟩
  | ok a hdrawn => exact .inr ⟨a, _, _, rfl, rfl, hdrawn⟩

theorem SameShown.map_fst {o₁ o₂ : Outcome (α × Journal)} (h : SameShown o₁ o₂) :
    o₁.map Prod.fst = o₂.map Prod.fst := by
  cases h <;> rfl

/-! ## Steps that do not look at the calls -/

theorem Alike.pure (a : α) : Alike (pure a) (pure a) := fun _ _ hj => .ok a hj

theorem Alike.throw (f : Fault) : Alike (throw f : Run α) (throw f) := fun _ _ _ => .error f

theorem Alike.takeDraws (n : Nat) : Alike (Builder.takeDraws n) (Builder.takeDraws n) := by
  intro j₁ j₂ hj
  rw [Builder.takeDraws, Builder.takeDraws, hj]
  exact .ok _ rfl

theorem Alike.bind {m₁ m₂ : Run α} {f₁ f₂ : α → Run β} (h : Alike m₁ m₂) (hf : ∀ a, Alike (f₁ a) (f₂ a)) :
    Alike (m₁ >>= f₁) (m₂ >>= f₂) := by
  intro j₁ j₂ hj
  rcases (h j₁ j₂ hj).cases with ⟨f, h₁, h₂⟩ | ⟨a, k₁, k₂, h₁, h₂, hdrawn⟩
  · rw [bind_error h₁, bind_error h₂]
    exact .error f
  · rw [bind_ok h₁, bind_ok h₂]
    exact hf a k₁ k₂ hdrawn

theorem Drawing.alike {m : Run α} (h : m.Drawing) : Alike m m := by
  rcases h with ⟨f, rfl⟩ | ⟨n, make, rfl⟩
  · exact .throw f
  · rw [map_eq_pure_bind]
    exact .bind (.takeDraws n) fun _ => .pure _

end Run

namespace Builder

open Run

variable {b : Builder} {s₁ s₂ : Sources}

/-! ## Single tags -/

theorem wrapSecret_alike {cipher : Secret.Cipher} (hpure : cipher.IsPure) (options : Options) (key raw v : Text)
    (isSecret : Bool) :
    Alike (wrapSecret options cipher key raw v isSecret) (wrapSecret options cipher key raw v isSecret) := by
  intro j₁ j₂ hj
  rw [wrapSecret_eq, wrapSecret_eq, Secret.wrap_calls hpure _ _ _ _ _ j₁.calls j₂.calls]
  exact .ok _ hj

theorem resolveKey_alike (s : Sources) (g : Tag) (key : Text) : Alike (resolveKey s g key) (resolveKey s g key) :=
  (resolveKey_drawing s g key).alike

/-- Where two sources have the same for the key of a tag, and one pure cipher, the tag becomes the same. -/
theorem resolveTag_alike (hcipher : s₁.cipher = s₂.cipher) (hpure : s₂.cipher.IsPure) {g : Tag}
    (hkey : resolveKey s₁ g (Secret.stripMarker g.key).1 = resolveKey s₂ g (Secret.stripMarker g.key).1) :
    Alike (resolveTag b s₁ g) (resolveTag b s₂ g) := by
  rw [resolveTag_eq, resolveTag_eq, hkey, hcipher]
  refine .bind (resolveKey_alike _ _ _) fun value => ?_
  cases value with
  | none => exact .pure _
  | some value => exact .bind (wrapSecret_alike hpure _ _ _ _ _) fun _ => .pure _

/-! ## Passes and runs -/

theorem replaceSegments_alike {segs : List Tag.Segment}
    (h : ∀ g, .tag g ∈ segs → Alike (resolveTag b s₁ g) (resolveTag b s₂ g)) (resolved : Resolved) :
    Alike (replaceSegments b s₁ resolved segs) (replaceSegments b s₂ resolved segs) := by
  induction segs generalizing resolved with
  | nil => exact .pure _
  | cons seg segs ih =>
    have hrest := ih fun g hg => h g (List.mem_cons_of_mem seg hg)
    cases seg with
    | plain c => exact .bind (hrest resolved) fun _ => .pure _
    | tag g =>
      rw [replaceSegments, replaceSegments]
      split
      · exact .bind (hrest resolved) fun _ => .pure _
      · exact .bind (h g (List.mem_cons_self ..)) fun value => .bind (hrest _) fun _ => .pure _

theorem substitute_alike {t : Text} (h : ∀ g ∈ Tag.all b.pattern t, Alike (resolveTag b s₁ g) (resolveTag b s₂ g)) :
    Alike (b.substitute s₁ t) (b.substitute s₂ t) :=
  replaceSegments_alike (fun g hg => h g (List.mem_filterMap.2 ⟨.tag g, hg, rfl⟩)) []

/-- Two runs show the same as long as the passes of the first one meet tags only that become the same in both. -/
theorem passes_alike {strict first : Bool} {left : Nat} {t : Text} {j₁ j₂ : Journal} (hj : j₁.drawn = j₂.drawn)
    (h : ∀ n u k, n < left → Reaches b s₁ n t j₁ u k →
      ∀ g ∈ Tag.all b.pattern u, Alike (resolveTag b s₁ g) (resolveTag b s₂ g)) :
    SameShown (b.passes s₁ strict left first t j₁) (b.passes s₂ strict left first t j₂) := by
  induction left generalizing first t j₁ j₂ with
  | zero =>
    by_cases hlive : Tag.all b.pattern t = []
    · rw [passes_settled hlive, passes_settled hlive]
      exact .ok _ hj
    · rw [passes_limit hlive, passes_limit hlive]
      exact .error _
  | succ left ih =>
    by_cases hlive : Tag.all b.pattern t = []
    · rw [passes_settled hlive, passes_settled hlive]
      exact .ok _ hj
    -- The pass gives both runs one text, so they stop together or go on together from the same text.
    · have hpass := substitute_alike (h 0 t j₁ (Nat.zero_lt_succ left) .refl) j₁ j₂ hj
      rcases hpass.cases with ⟨f, h₁, h₂⟩ | ⟨u, k₁, k₂, h₁, h₂, hdrawn⟩
      · rw [passes_fault hlive h₁, passes_fault hlive h₂]
        exact .error f
      · by_cases hsame : u = t
        · subst hsame
          rw [passes_unchanged hlive h₁, passes_unchanged hlive h₂]
          cases strict
          · exact .ok u hdrawn
          · exact .error _
        · have hadv₁ : b.Advances s₁ t j₁ u k₁ := ⟨hlive, h₁, hsame⟩
          have hadv₂ : b.Advances s₂ t j₂ u k₂ := ⟨hlive, h₂, hsame⟩
          rw [hadv₁.passes_eq, hadv₂.passes_eq]
          exact ih hdrawn fun n v l hn hreach => h (n + 1) v l (Nat.succ_lt_succ hn) (.step hadv₁ hreach)

theorem parse_eq_of_alike {t : Text} (strict : Bool) (h : ∀ n u j, n < b.options.maxPasses → Reaches b s₁ n t {} u j →
    ∀ g ∈ Tag.all b.pattern u, Alike (resolveTag b s₁ g) (resolveTag b s₂ g)) :
    b.parse s₁ strict t = b.parse s₂ strict t := by
  by_cases ht : t = []
  · rw [ht, parse_nil, parse_nil]
  · rw [parse_of_reaches ht (Nat.zero_add _).symm .refl, parse_of_reaches ht (Nat.zero_add _).symm .refl]
    exact (passes_alike rfl h).map_fst

end Builder

end Placeholder
