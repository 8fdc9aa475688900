/-
What can go wrong with a tag: a text in it is no value of its type, a value cannot be shown under its specifier,
its clause is malformed, or its key is a bare marker. Nothing else goes wrong in a pass (`substitute_faults`), so
a pass never fails for the number of passes, and never for tags that are left. And a generator that has its
arguments does not complain of its clause any more (`drawNumber_faults`).
-/
import Placeholder.Proofs.Expansion.Passes

namespace Placeholder

/-- The faults of values: of texts that are none, and of specifiers that do not apply. -/
inductive Fault.OfValue : Fault → Prop
  | coercion (type value : Text) (why : Mismatch) : OfValue (.coercion type value why)
  | unsupportedFormat (kind : Value.Kind) (spec : Text) : OfValue (.unsupportedFormat kind spec)

/-- The faults of tags that cannot be evaluated. -/
inductive Fault.OfTag : Fault → Prop
  | value {f : Fault} : f.OfValue → OfTag f
  | malformedClause (clause : Text) : OfTag (.malformedClause clause)
  | unknownReserved (key : Text) : OfTag (.unknownReserved key)

theorem Fault.OfValue.ne_malformedClause {f : Fault} (h : f.OfValue) (clause : Text) : f ≠ .malformedClause clause := by
  rintro rfl
  cases h

theorem Fault.OfTag.ne_passLimit {f : Fault} (h : f.OfTag) (l : Nat) : f ≠ .passLimit l := by
  rintro rfl
  cases h with
  | value h => cases h

/-! ## Values and their texts -/

theorem Value.format_faults {v : Value} {spec : Text} {f : Fault} (h : v.format spec = .error f) : f.OfValue := by
  rw [format] at h
  split at h
  · cases h
  · split at h
    · cases h
    · cases h
      exact .unsupportedFormat _ _

theorem Literal.read_faults {t : Text} {f : Fault} (h : Literal.read t = .error f) : f.OfValue := by
  rw [Literal.read] at h
  split at h
  · cases h
    exact .coercion _ _ _
  · split at h
    · cases h
    · dsimp only at h
      split at h
      · cases h
        exact .coercion _ _ _
      · split at h
        · cases h
        · cases h
          exact .coercion _ _ _

namespace Generator

theorem readLength_faults {t : Text} {f : Fault} (h : readLength t = .error f) : f.OfValue := by
  rw [readLength] at h
  split at h
  · cases h
    exact .coercion _ _ _
  · split at h
    · cases h
      exact .coercion _ _ _
    · cases h

theorem readBound_faults {t : Text} {f : Fault} (h : readBound t = .error f) : f.OfValue := by
  rw [readBound] at h
  split at h
  · cases h
    exact .coercion _ _ _
  · cases h

theorem number_faults {supply : Supply} {drawn : Nat} {min : Int} {max : Option Int} {format : Text} {f : Fault}
    (h : number supply drawn min max format = .error f) : f.OfValue := by
  rw [number] at h
  dsimp only at h
  split at h
  · cases h
    exact .coercion _ _ _
  · split at h
    · exact Value.format_faults h
    · cases h
      exact .coercion _ _ _

end Generator

namespace Run

variable {α β : Type} {P Q : Fault → Prop}

/-- A step that fails with faults of one kind only. -/
def FailsWith (P : Fault → Prop) (m : Run α) : Prop := ∀ j f, m j = .error f → P f

theorem FailsWith.pure (a : α) : FailsWith P (pure a : Run α) := fun _ _ h => by cases h

theorem FailsWith.throw {f : Fault} (h : P f) : FailsWith P (throw f : Run α) := fun _ _ hf => by
  cases hf
  exact h

theorem FailsWith.lift {o : Outcome α} (h : ∀ f, o = .error f → P f) : FailsWith P (liftM o : Run α) := by
  cases o with
  | error f => exact .throw (h f rfl)
  | ok a => exact .pure a

theorem FailsWith.takeDraws (n : Nat) : FailsWith P (Builder.takeDraws n) := fun _ _ h => by cases h

theorem FailsWith.bind {m : Run α} {f : α → Run β} (h : m.FailsWith P) (hf : ∀ a, (f a).FailsWith P) :
    (m >>= f).FailsWith P := by
  intro j e he
  cases hm : m j with
  | error e' =>
    rw [bind_error hm] at he
    cases he
    exact h j e hm
  | ok p =>
    obtain ⟨a, k⟩ := p
    rw [bind_ok hm] at he
    exact hf a k e he

theorem FailsWith.mono {m : Run α} (h : m.FailsWith P) (hPQ : ∀ f, P f → Q f) : m.FailsWith Q :=
  fun j f hf => hPQ f (h j f hf)

end Run

namespace Builder

open Run

variable {b : Builder} {s : Sources}

/-! ## Generators -/

/-- Draws a string of the length that a text gives. -/
def drawString (supply : Generator.Supply) (length : Text) : Run Text := do
  let length ← Generator.readLength length
  return Generator.string supply (← takeDraws length) length

/-- Draws a number between the bounds that texts give, and shows it under the format that comes with them, or else
under another. -/
def drawNumber (supply : Generator.Supply) (format : Text) (args : Clause.NumberArgs) : Run Text := do
  let min ← Generator.readBound args.min
  let max ← match args.max with
    | some max => do pure (some (← Generator.readBound max))
    | none => pure none
  Generator.number supply (← takeDraws 1) min max (args.format.getD format)

theorem generateString_eq (supply : Generator.Supply) (g : Tag) (key : Text) : generateString supply g key =
    match Clause.stringLength? (bareTag g key) with
    | none => throw (.malformedClause g.raw)
    | some length => drawString supply length := rfl

theorem generateNumber_eq (supply : Generator.Supply) (g : Tag) (key format : Text) :
    generateNumber supply g key format =
      match Clause.numberArgs? (bareTag g key) with
      | none => throw (.malformedClause g.raw)
      | some args => drawNumber supply format args := rfl

/-- A generator of strings that has its length fails for the length alone. -/
theorem drawString_faults (supply : Generator.Supply) (length : Text) :
    (drawString supply length).FailsWith Fault.OfValue :=
  .bind (.lift fun _ => Generator.readLength_faults) fun length => .bind (.takeDraws length) fun _ => .pure _

/-- A generator of numbers that has its arguments fails for its bounds or its specifier alone. -/
theorem drawNumber_faults (supply : Generator.Supply) (format : Text) (args : Clause.NumberArgs) :
    (drawNumber supply format args).FailsWith Fault.OfValue := by
  have hdraw : ∀ min max, (takeDraws 1 >>= fun first => liftM (Generator.number supply first min max
      (args.format.getD format)) : Run Text).FailsWith Fault.OfValue :=
    fun min max => .bind (.takeDraws 1) fun _ => .lift fun _ => Generator.number_faults
  rw [drawNumber]
  refine .bind (.lift fun _ => Generator.readBound_faults) fun min => ?_
  cases args.max with
  | none => exact hdraw min none
  | some max =>
    simp only [pure_bind]
    exact .bind (.lift fun _ => Generator.readBound_faults) fun max => hdraw min (some max)

theorem resolveReserved_faults (supply : Generator.Supply) (g : Tag) (key format : Text) :
    (resolveReserved supply g key format).FailsWith Fault.OfTag := by
  rw [resolveReserved]
  split
  · rw [generateString_eq]
    split
    · exact .throw (.malformedClause _)
    · exact (drawString_faults _ _).mono fun _ => .value
  · split
    · rw [generateNumber_eq]
      split
      · exact .throw (.malformedClause _)
      · exact (drawNumber_faults _ _ _).mono fun _ => .value
    · exact .throw (.unknownReserved _)

/-! ## Keys and tags -/

theorem resolveDefault_faults {g : Tag} {f : Fault} (h : resolveDefault g = .error f) : f.OfTag := by
  rw [resolveDefault] at h
  split at h
  · cases h
  next extended _ =>
    dsimp only at h
    split at h
    · cases h
      exact .malformedClause _
    · cases hread : Literal.read ((Clause.read extended).default.getD []) with
      | error e =>
        rw [hread] at h
        cases h
        exact .value (Literal.read_faults hread)
      | ok v =>
        rw [hread] at h
        cases hshown : v.format ((Clause.read extended).format.getD []) with
        | error e =>
          simp only [bind, Except.bind, hshown] at h
          cases h
          exact .value (Value.format_faults hshown)
        | ok text => simp [bind, Except.bind, hshown, pure, Except.pure] at h

theorem resolveKey_faults (s : Sources) (g : Tag) (key : Text) : (resolveKey s g key).FailsWith Fault.OfTag := by
  rw [resolveKey]
  split
  · exact .bind (resolveReserved_faults _ _ _ _) fun _ => .pure _
  · split
    · exact .bind (.lift fun _ hf => .value (Value.format_faults hf)) fun _ => .pure _
    · split
      · exact .pure _
      · exact .lift fun _ => resolveDefault_faults

/-- A tag fails as its key does. -/
theorem resolveTag_failsWith {P : Fault → Prop} {g : Tag}
    (h : (resolveKey s g (Secret.stripMarker g.key).1).FailsWith P) : (resolveTag b s g).FailsWith P := by
  rw [resolveTag_eq]
  refine .bind h fun value => ?_
  cases value with
  | none => exact .pure _
  | some value => exact .bind (fun _ _ h => by cases h) fun _ => .pure _

/-! ## Passes -/

theorem replaceSegments_faults (b : Builder) (s : Sources) (resolved : Resolved) (segs : List Tag.Segment) :
    (replaceSegments b s resolved segs).FailsWith Fault.OfTag := by
  induction segs generalizing resolved with
  | nil => exact .pure _
  | cons seg segs ih =>
    cases seg with
    | plain c => exact .bind (ih resolved) fun _ => .pure _
    | tag g =>
      rw [replaceSegments]
      split
      · exact .bind (ih resolved) fun _ => .pure _
      · exact .bind (resolveTag_failsWith (resolveKey_faults s g _)) fun value => .bind (ih _) fun _ => .pure _

/-- **A pass fails for its tags alone.** -/
theorem substitute_faults (b : Builder) (s : Sources) (t : Text) : (b.substitute s t).FailsWith Fault.OfTag :=
  replaceSegments_faults b s [] _

end Builder

end Placeholder
