/-
What a tag needs of the journal. A key fails, whatever the journal holds, or it takes some draws and always has
a result, which hangs on the position of the first draw alone (`resolveKey_drawing`). So a tag fails from every
journal, and with one fault, or from none (`errs_or_resolves`): to say of a tag that it errs, no journal has to
be named.
-/
import Placeholder.Proofs.Expansion.Passes
import Placeholder.Proofs.Generator
import Placeholder.Proofs.Secret

namespace Placeholder

namespace Run

variable {α β : Type}

/-- A step that fails whatever the journal holds, or takes some draws and gives what it makes of the first. -/
def Drawing (m : Run α) : Prop :=
  (∃ f, m = throw f) ∨ ∃ (n : Nat) (make : Nat → α), m = make <$> Builder.takeDraws n

theorem Drawing.throw (f : Fault) : Drawing (throw f : Run α) := .inl ⟨f, rfl⟩

theorem Drawing.pure (a : α) : Drawing (pure a) := .inr ⟨0, fun _ => a, rfl⟩

theorem Drawing.lift (o : Outcome α) : Drawing (liftM o) := by
  cases o with
  | error f => exact .throw f
  | ok a => exact .pure a

theorem Drawing.map {m : Run α} (h : m.Drawing) (g : α → β) : Drawing (g <$> m) := by
  rcases h with ⟨f, rfl⟩ | ⟨n, make, rfl⟩
  · exact .throw f
  · refine .inr ⟨n, g ∘ make, ?_⟩
    rw [Functor.map_map]
    rfl

theorem Drawing.lift_bind {o : Outcome α} {f : α → Run β} (h : ∀ a, o = .ok a → Drawing (f a)) :
    Drawing (liftM o >>= f) := by
  cases o with
  | error e => exact .throw e
  | ok a => exact h a rfl

/-- What is made of the draws has to fail for all of them alike, or for none. -/
theorem Drawing.takeDraws_lift (n : Nat) {make : Nat → Outcome α}
    (h : (∃ f, ∀ first, make first = .error f) ∨ ∀ first, ∃ a, make first = .ok a) :
    Drawing (Builder.takeDraws n >>= fun first => liftM (make first)) := by
  rcases h with ⟨f, hf⟩ | hok
  · simp only [hf]
    exact .throw f
  · obtain ⟨result, hresult⟩ := Classical.skolem.1 hok
    simp only [hresult]
    exact .inr ⟨n, result, rfl⟩

end Run

namespace Builder

open Run

variable {b : Builder} {s : Sources} {g : Tag}

/-! ## Keys -/

theorem resolveReserved_drawing (supply : Generator.Supply) (g : Tag) (key format : Text) :
    Drawing (resolveReserved supply g key format) := by
  rw [resolveReserved]
  split
  · rw [generateString]
    split
    · exact .throw _
    · exact .lift_bind fun length _ => .inr ⟨length, fun first => Generator.string supply first length, rfl⟩
  · split
    · rw [generateNumber]
      split
      · exact .throw _
      next args _ =>
        refine .lift_bind fun min hmin => ?_
        cases hargs : args.max with
        | none =>
          exact .takeDraws_lift 1 (Generator.number_fails_or_not supply none _ (Generator.mem_of_readBound hmin)
            (by rintro m ⟨⟩))
        | some text =>
          simp only [pure_bind]
          refine .lift_bind fun max hmax => ?_
          exact .takeDraws_lift 1 (Generator.number_fails_or_not supply (some max) _ (Generator.mem_of_readBound hmin)
            (by rintro m ⟨⟩; exact Generator.mem_of_readBound hmax))
    · exact .throw _

/-- A key that is no generator does not look at the journal. -/
theorem resolveKey_eq_lift {key : Text} (h : isReserved key = false) : ∃ o : Outcome (Option Text), resolveKey s g key = liftM o := by
  rw [resolveKey, h, if_neg Bool.false_ne_true]
  split
  next v _ =>
    refine ⟨some <$> v.format ((Clause.ofTag g).format.getD []), ?_⟩
    cases v.format ((Clause.ofTag g).format.getD []) <;> rfl
  next =>
    split
    next text _ => exact ⟨.ok (some text), rfl⟩
    next => exact ⟨_, rfl⟩

/-- **A key fails, or it takes some draws and has a result**; which of the two, no journal decides. -/
theorem resolveKey_drawing (s : Sources) (g : Tag) (key : Text) : Drawing (resolveKey s g key) := by
  cases hreserved : isReserved key with
  | true =>
    rw [resolveKey, hreserved, if_pos rfl]
    exact (resolveReserved_drawing _ _ _ _).map some
  | false =>
    obtain ⟨o, ho⟩ := resolveKey_eq_lift (s := s) (g := g) hreserved
    rw [ho]
    exact .lift o

/-! ## Tags -/

/-- A tag fails from every journal with one fault. -/
def Errs (b : Builder) (s : Sources) (g : Tag) (f : Fault) : Prop := ∀ j, resolveTag b s g j = .error f

/-- All that a tag can do: it errs, or its key takes some draws and the text of the key, if there is one, is put
through the cipher. -/
theorem resolveTag_cases (b : Builder) (s : Sources) (g : Tag) :
    (∃ f, Errs b s g f) ∨ ∃ (n : Nat) (make : Nat → Option Text), ∀ j, resolveTag b s g j =
      match make j.drawn with
      | none => .ok (none, { j with drawn := j.drawn + n })
      | some v => .ok
        (some (Secret.wrap b.options.boolToLower s.cipher (Secret.stripMarker g.key).1 g.raw v
            (Secret.stripMarker g.key).2 j.calls).1,
          { calls := (Secret.wrap b.options.boolToLower s.cipher (Secret.stripMarker g.key).1 g.raw v
              (Secret.stripMarker g.key).2 j.calls).2,
            drawn := j.drawn + n }) := by
  rcases resolveKey_drawing s g (Secret.stripMarker g.key).1 with ⟨f, hkey⟩ | ⟨n, make, hkey⟩
  · refine .inl ⟨f, fun j => ?_⟩
    rw [resolveTag_eq, hkey]
    rfl
  · refine .inr ⟨n, make, fun j => ?_⟩
    have hstep : (make <$> takeDraws n : Run (Option Text)) j =
        .ok (make j.drawn, { j with drawn := j.drawn + n }) := rfl
    rw [resolveTag_eq, hkey, bind_ok hstep]
    cases make j.drawn <;> rfl

theorem errs_or_resolves (b : Builder) (s : Sources) (g : Tag) :
    (∃ f, Errs b s g f) ∨ ∀ j, ∃ v k, resolveTag b s g j = .ok (v, k) := by
  refine (resolveTag_cases b s g).imp_right ?_
  rintro ⟨n, make, h⟩ j
  rw [h]
  cases make j.drawn with
  | none => exact ⟨_, _, rfl⟩
  | some v => exact ⟨_, _, rfl⟩

/-- The cipher is asked for a tag that is resolved, as often as its key says, and for no other. -/
theorem resolveTag_subjects {j k : Journal} {v : Option Text} (h : resolveTag b s g j = .ok (v, k)) :
    k.calls.map Secret.Call.subject =
      List.replicate (if v.isSome then Secret.asks g.key else 0) ((Secret.stripMarker g.key).1, g.raw) ++
        j.calls.map Secret.Call.subject := by
  rcases resolveTag_cases b s g with ⟨f, hf⟩ | ⟨n, make, hok⟩
  · rw [hf] at h
    cases h
  · rw [hok] at h
    cases hv : make j.drawn with
    | none =>
      rw [hv] at h
      cases h
      rfl
    | some text =>
      rw [hv] at h
      cases h
      exact Secret.wrap_subjects _ _ _ _ g.toLower_stripMarker _

end Builder

end Placeholder
