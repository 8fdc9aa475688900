/-
What the strict mode changes: nothing but the answer for a text that a pass leaves unchanged although
live tags are in it.

Honestly told, the two modes share all their work. What has to be shown is that no other end of a run
can be taken for this one. The result alone does not tell, for an escaped tag, once restored, looks like a
live one; the pass does (`Stuck`).
-/
import Placeholder.Proofs.Expansion.Passes

namespace Placeholder.Builder

variable {b : Builder} {sources : Sources}

/-- A pass of the expansion of `t` comes to `r`, finds live tags there, and leaves `r` unchanged. -/
def Stuck (b : Builder) (sources : Sources) (t r : Text) : Prop :=
  ∃ n j k, n < b.options.maxPasses ∧ Reaches b sources n t {} r j ∧ Tag.all b.pattern r ≠ [] ∧
    b.substitute sources r j = .ok (r, k)

theorem parse_of_stuck {t r : Text} (ht : t ≠ []) (h : b.Stuck sources t r) (strict : Bool) :
    b.parse sources strict t =
      if strict then .error (.unresolved ((Tag.all b.pattern r).map Tag.raw)) else .ok r := by
  obtain ⟨n, j, k, hn, hreach, hlive, hpass⟩ := h
  obtain ⟨m, hm⟩ : ∃ m, b.options.maxPasses = n + (m + 1) := ⟨b.options.maxPasses - (n + 1), by omega⟩
  rw [parse_of_reaches ht hm hreach, passes_unchanged hlive hpass]
  cases strict <;> rfl

/-- A run settles at a text without live tags, or it fails in both modes, or it is stuck. -/
theorem settles_or_fails_or_stuck {t : Text} (ht : t ≠ []) :
    (∃ n u j, Reaches b sources n t {} u j ∧ Tag.all b.pattern u = [] ∧ ∀ strict, b.parse sources strict t =
      .ok (if n = 0 ∧ b.options.unescapeOnFirstPass = false then t else Tag.unescape u)) ∨
    (∃ f, ∀ strict, b.parse sources strict t = .error f) ∨
    (∃ r, b.Stuck sources t r) := by
  obtain ⟨n, m, u, j, hmax, hreach, hend⟩ := exists_ending b sources b.options.maxPasses t {}
  cases hend with
  | settled hlive =>
    refine .inl ⟨n, u, j, hreach, hlive, fun strict => ?_⟩
    rw [parse_of_reaches ht hmax hreach, passes_settled hlive, finish]
    cases hreach with
    | refl => cases b.options.unescapeOnFirstPass <;> rfl
    | step => rfl
  | limit hlive =>
    refine .inr (.inl ⟨.passLimit b.options.maxPasses, fun strict => ?_⟩)
    rw [parse_of_reaches ht hmax hreach, passes_limit hlive]
    rfl
  | @fault _ _ _ f hlive hf =>
    refine .inr (.inl ⟨f, fun strict => ?_⟩)
    rw [parse_of_reaches ht hmax hreach, passes_fault hlive hf]
    rfl
  | unchanged hlive hsame => exact .inr (.inr ⟨u, n, j, _, by omega, hreach, hlive, hsame⟩)

/-- **Strict and lenient runs** go through the same passes. What a strict run gives is a text without live
tags, with its escaped tags restored unless no pass was needed and the options keep them. A fault of a lenient
run is the fault of the strict one. And where a lenient run gives a text, a strict run gives it too, or it names
the live tags of that text: this, exactly if a pass has left that text unchanged. -/
theorem strict_lenient (b : Builder) (sources : Sources) (t : Text) :
    (∀ r, b.parse sources true t = .ok r →
      ∃ n u j, Reaches b sources n t {} u j ∧ Tag.all b.pattern u = [] ∧
        r = if n = 0 ∧ b.options.unescapeOnFirstPass = false then t else Tag.unescape u) ∧
    (∀ f, b.parse sources false t = .error f → b.parse sources true t = .error f) ∧
    (∀ r, b.parse sources false t = .ok r →
      (b.parse sources true t = .ok r ∨
        b.parse sources true t = .error (.unresolved ((Tag.all b.pattern r).map Tag.raw))) ∧
      (b.parse sources true t = .error (.unresolved ((Tag.all b.pattern r).map Tag.raw)) ↔ b.Stuck sources t r)) := by
  by_cases ht : t = []
  · subst ht
    simp [parse_nil]
  rcases settles_or_fails_or_stuck ht with ⟨n, u, j, hreach, hlive, hok⟩ | ⟨f, hfail⟩ | ⟨r, hstuck⟩
  · refine ⟨fun r hr => ⟨n, u, j, hreach, hlive, ?_⟩, fun f hf => ?_, fun r hr => ⟨.inl ?_, fun h => ?_, fun h => ?_⟩⟩
    · rw [hok] at hr
      exact (Except.ok.inj hr).symm
    · rw [hok] at hf
      cases hf
    · rwa [hok] at hr ⊢
    · rw [hok] at h
      cases h
    · have hstrict := parse_of_stuck ht h true
      rw [hok] at hstrict
      cases hstrict
  · refine ⟨fun r hr => ?_, fun f' hf => ?_, fun r hr => ?_⟩
    · rw [hfail] at hr
      cases hr
    · rwa [hfail] at hf ⊢
    · rw [hfail] at hr
      cases hr
  · have hlenient := parse_of_stuck ht hstuck false
    have hstrict := parse_of_stuck ht hstuck true
    simp only [Bool.false_eq_true, if_false, if_true] at hlenient hstrict
    refine ⟨fun r' hr => ?_, fun f hf => ?_, fun r' hr => ?_⟩
    · rw [hstrict] at hr
      cases hr
    · rw [hlenient] at hf
      cases hf
    · rw [hlenient, Except.ok.injEq] at hr
      subst hr
      exact ⟨.inr hstrict, fun _ => hstuck, fun _ => hstrict⟩

end Placeholder.Builder
