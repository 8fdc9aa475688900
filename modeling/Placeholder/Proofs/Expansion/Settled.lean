/-
Settled texts. What an expansion gives, expanded again, is itself (`parse_settled`), unless escaped tags were
restored at its end, for these may look like live ones then.

A run ends in a text in one of three ways. No live tag was in the expression, or none is left: then none is in the
answer, and there is nothing to do. Or a pass has left the text unchanged: then the first pass of the second run
does so too, for a pure cipher answers the same without the calls of the first run. What is left are the
generators. They draw on, so the second run finds the same only if it draws what that last pass has drawn
(`resolveTag_later`); a text without generators does not ask for this.
-/
import Placeholder.Proofs.Expansion.Alike
import Placeholder.Proofs.Expansion.Inert
import Placeholder.Proofs.Expansion.Limit
import Placeholder.Proofs.Expansion.Strictness

namespace Placeholder

namespace Tag

/-- Without escaped tags there is nothing to restore. -/
theorem unescape_eq_self {t : Text} (h : all escapedPattern t = []) : unescape t = t := by
  have hplain : ∀ seg ∈ segments escapedPattern t, seg.restored = seg.raw := by
    intro seg hseg
    cases seg with
    | plain c => rfl
    | tag g =>
      have hg : g ∈ all escapedPattern t := mem_all.2 hseg
      rw [h] at hg
      cases hg
  have hrestored : unescape t = (segments escapedPattern t).flatMap Segment.restored := rfl
  rw [hrestored, List.flatMap_def, List.map_congr_left hplain, ← List.flatMap_def]
  exact flatMap_raw_segments _ t

end Tag

/-! ## Later draws -/

/-- The journal with `n` more draws used up. -/
def Journal.later (n : Nat) (j : Journal) : Journal := { j with drawn := n + j.drawn }

namespace Run

variable {α β : Type} {n : Nat}

/-- With `n` more draws used up, `m` does what `m'` does. -/
def Later (n : Nat) (m' m : Run α) : Prop := ∀ j, m (j.later n) = (m' j).map fun p => (p.1, p.2.later n)

theorem Later.pure (a : α) : Later n (pure a) (pure a) := fun _ => rfl

theorem Later.throw (f : Fault) : Later n (throw f : Run α) (throw f) := fun _ => rfl

theorem Later.lift (o : Outcome α) : Later n (liftM o : Run α) (liftM o) := by
  cases o with
  | error f => exact .throw f
  | ok a => exact .pure a

theorem Later.bind {m' m : Run α} {f' f : α → Run β} (h : Later n m' m) (hf : ∀ a, Later n (f' a) (f a)) :
    Later n (m' >>= f') (m >>= f) := by
  intro j
  cases hm : m' j with
  | error e =>
    have hlater : m (j.later n) = .error e := by
      rw [h j, hm]
      rfl
    rw [bind_error hm, bind_error hlater]
    rfl
  | ok p =>
    obtain ⟨a, k⟩ := p
    have hlater : m (j.later n) = .ok (a, k.later n) := by
      rw [h j, hm]
      rfl
    rw [bind_ok hm, bind_ok hlater]
    exact hf a k

/-- What is made of the first draw has to be the same for a draw that is `n` positions later. -/
theorem Later.takeDraws (count : Nat) {f' f : Nat → Run β} (hf : ∀ first, Later n (f' first) (f (n + first))) :
    Later n (Builder.takeDraws count >>= f') (Builder.takeDraws count >>= f) := by
  intro j
  have hstep' : Builder.takeDraws count j = .ok (j.drawn, { j with drawn := j.drawn + count }) := rfl
  have hstep : Builder.takeDraws count (j.later n) =
      .ok (n + j.drawn, ({ j with drawn := j.drawn + count } : Journal).later n) := by
    simp only [Builder.takeDraws, Journal.later, Nat.add_assoc]
  rw [bind_ok hstep', bind_ok hstep]
  exact hf j.drawn _

end Run

/-- The supply from position `n` on. -/
def Generator.Supply.drop (supply : Generator.Supply) (n : Nat) : Generator.Supply := fun i => supply (n + i)

namespace Builder

open Run

variable {b : Builder} {s : Sources} {g : Tag} {n : Nat}

theorem resolveReserved_later (supply : Generator.Supply) (g : Tag) (key format : Text) :
    Later n (resolveReserved (supply.drop n) g key format) (resolveReserved supply g key format) := by
  rw [resolveReserved, resolveReserved]
  split
  · rw [generateString, generateString]
    split
    · exact .throw _
    · refine .bind (.lift _) fun length => .takeDraws length fun first => ?_
      have hsame : Generator.string (supply.drop n) first length = Generator.string supply (n + first) length := by
        simp only [Generator.string, Generator.Supply.drop, Nat.add_assoc]
      rw [hsame]
      exact .pure _
  · split
    · rw [generateNumber, generateNumber]
      split
      · exact .throw _
      next args _ =>
        have hnumber : ∀ min max, Later n
            (takeDraws 1 >>= fun first => liftM (Generator.number (supply.drop n) first min max (args.format.getD format)))
            (takeDraws 1 >>= fun first => liftM (Generator.number supply first min max (args.format.getD format))) :=
          fun min max => .takeDraws 1 fun first => .lift _
        refine .bind (.lift _) fun min => ?_
        cases args.max with
        | none => exact hnumber min none
        | some max =>
          simp only [pure_bind]
          exact .bind (.lift _) fun max => hnumber min (some max)
    · exact .throw _

/-- A key asks the supply only if it is the key of a generator. -/
theorem resolveKey_later {supply : Generator.Supply} {key : Text}
    (hdraws : isReserved key = true → supply = s.supply.drop n) (g : Tag) :
    Later n (resolveKey { s with supply } g key) (resolveKey s g key) := by
  cases hreserved : isReserved key with
  | true =>
    obtain rfl := hdraws hreserved
    rw [resolveKey, resolveKey, if_pos hreserved, if_pos hreserved]
    exact .bind (resolveReserved_later _ _ _ _) fun _ => .pure _
  | false =>
    have hsame : resolveKey { s with supply } g key = resolveKey s g key := by
      rw [resolveKey, resolveKey, hreserved, if_neg Bool.false_ne_true, if_neg Bool.false_ne_true]
    obtain ⟨o, ho⟩ := resolveKey_eq_lift (s := s) (g := g) hreserved
    rw [hsame, ho]
    exact .lift o

theorem resolveTag_later {supply : Generator.Supply}
    (hdraws : isReserved (Secret.stripMarker g.key).1 = true → supply = s.supply.drop n) :
    Later n (resolveTag b { s with supply } g) (resolveTag b s g) := by
  rw [resolveTag_eq, resolveTag_eq]
  refine .bind (resolveKey_later hdraws g) fun value => ?_
  cases value with
  | none => exact .pure _
  | some value => exact .bind (fun _ => rfl) fun _ => .pure _

theorem replaceSegments_later {supply : Generator.Supply} {segs : List Tag.Segment}
    (h : ∀ g, .tag g ∈ segs → Later n (resolveTag b { s with supply } g) (resolveTag b s g)) (resolved : Resolved) :
    Later n (replaceSegments b { s with supply } resolved segs) (replaceSegments b s resolved segs) := by
  induction segs generalizing resolved with
  | nil => exact .pure _
  | cons seg segs ih =>
    have hrest := ih fun g hg => h g (List.mem_cons_of_mem seg hg)
    cases seg with
    | plain c => exact .bind (hrest resolved) fun _ => .pure _
    | tag g =>
      rw [replaceSegments, replaceSegments]
      split
      · exact .bind (hrest resolved) fun _ => .pure _
      · exact .bind (h g (List.mem_cons_self ..)) fun value => .bind (hrest _) fun _ => .pure _

/-! ## Texts that a pass leaves unchanged -/

/-- Where a pass leaves a text unchanged, so does the first pass of another run that draws the same for the
generators in it. -/
theorem substitute_again (hpure : s.cipher.IsPure) {r : Text} {j k : Journal} (h : b.substitute s r j = .ok (r, k))
    {supply : Generator.Supply}
    (hdraws : ∀ g ∈ Tag.all b.pattern r, isReserved (Secret.stripMarker g.key).1 = true →
      supply = s.supply.drop j.drawn) :
    ∃ l, b.substitute { s with supply } r {} = .ok (r, l) := by
  -- Without the calls of the run before, and then without its draws.
  have hcalls : ∃ l, b.substitute s r (({} : Journal).later j.drawn) = .ok (r, l) := by
    have halike : Alike (b.substitute s r) (b.substitute s r) :=
      substitute_alike fun g _ => resolveTag_alike rfl hpure rfl
    rcases (halike j (({} : Journal).later j.drawn) rfl).cases with ⟨f, hf, -⟩ | ⟨u, k', l, hk, hl, -⟩
    · rw [h] at hf
      cases hf
    · rw [h] at hk
      cases hk
      exact ⟨l, hl⟩
  obtain ⟨l, hl⟩ := hcalls
  have hlater : Later j.drawn (b.substitute { s with supply } r) (b.substitute s r) :=
    replaceSegments_later (fun g hg => resolveTag_later (hdraws g (Tag.mem_all.2 hg))) []
  rw [hlater] at hl
  cases hpass : b.substitute { s with supply } r {} with
  | error f =>
    rw [hpass] at hl
    cases hl
  | ok p =>
    obtain ⟨u, l'⟩ := p
    rw [hpass] at hl
    cases hl
    exact ⟨l', rfl⟩

/-- An escaped tag is restored in the last step of the expansion of `t`. -/
def Restores (b : Builder) (s : Sources) (t : Text) : Prop :=
  ∃ n u j, Reaches b s n t {} u j ∧ Tag.all b.pattern u = [] ∧
    (n = 0 → b.options.unescapeOnFirstPass = true) ∧ Tag.all Tag.escapedPattern u ≠ []

/-- **Settled texts are stable.** Let an expansion give a text that is not empty, and restore no escaped tag at
its end. Then the expansion of this text, with the same builder and in the same mode, gives it back: from the same
sources, as long as the generators in it, if there are any, draw again what they drew when the first run came to
this text. -/
theorem parse_settled (hpure : s.cipher.IsPure) {strict : Bool} {t r : Text} (h : b.parse s strict t = .ok r)
    (hr : r ≠ []) (hnone : ¬ Restores b s t) :
    ∃ n j, Reaches b s n t {} r j ∧ (∀ u k, ¬ b.Advances s r j u k) ∧
      ∀ supply, (∀ g ∈ Tag.all b.pattern r, isReserved (Secret.stripMarker g.key).1 = true →
        ∀ i, supply i = s.supply (j.drawn + i)) →
        b.parse { s with supply } strict r = .ok r := by
  have ht : t ≠ [] := by
    rintro rfl
    rw [parse_nil] at h
    cases h
  rcases @settles_or_fails_or_stuck b s t ht with ⟨n, u, j, hreach, hlive, hok⟩ | ⟨f, hf⟩ | ⟨u, hstuck⟩
  · obtain ⟨rfl, hfinish⟩ : r = u ∧ b.finish true r = r := by
      rw [hok, Except.ok.injEq] at h
      by_cases hfirst : n = 0 ∧ b.options.unescapeOnFirstPass = false
      · obtain ⟨rfl, hoff⟩ := hfirst
        cases hreach
        simp only [hoff, and_self, if_true] at h
        exact ⟨h.symm, by simp [finish, hoff]⟩
      · have hescaped : Tag.all Tag.escapedPattern u = [] :=
          Classical.byContradiction fun hne =>
            hnone ⟨n, u, j, hreach, hlive, fun h0 => by simpa [h0] using hfirst, hne⟩
        rw [if_neg hfirst, Tag.unescape_eq_self hescaped] at h
        obtain rfl := h
        refine ⟨rfl, ?_⟩
        rw [finish, Tag.unescape_eq_self hescaped, ite_self]
    refine ⟨n, j, hreach, fun _ _ hadv => hadv.live hlive, fun supply _ => ?_⟩
    rw [parse_of_no_tags hr hlive, hfinish]
  · rw [hf] at h
    cases h
  · have hlenient := parse_of_stuck ht hstuck strict
    rw [h] at hlenient
    cases strict with
    | true => cases hlenient
    | false =>
      cases hlenient
      obtain ⟨n, j, k, hn, hreach, hlive, hpass⟩ := hstuck
      refine ⟨n, j, hreach, not_advances_of_unchanged hpass, fun supply hdraws => ?_⟩
      obtain ⟨l, hl⟩ := substitute_again hpure hpass fun g hg hreserved => funext (hdraws g hg hreserved)
      have hagain : b.Stuck { s with supply } r r := ⟨0, {}, l, by omega, .refl, hlive, hl⟩
      exact parse_of_stuck hr hagain false

/-- A text with a tag that has no value is settled, whatever is drawn. -/
theorem parse_settled_half :
    let s : Sources := { values := .ofList [(['a'], .string ['x'])] }
    let t : Text := ['$', '{', 'a', '}', '$', '{', 'b', '}']
    let r : Text := ['x', '$', '{', 'b', '}']
    ({} : Builder).parse s false t = .ok r ∧ ¬ Restores {} s t ∧
      ∀ supply, ({} : Builder).parse { s with supply } false r = .ok r := by
  intro s t r
  obtain ⟨hreach, hsame, hall⟩ := reaches_half
  have hlive : Tag.all Tag.livePattern r ≠ [] := by
    rw [hall]
    decide
  have hparse : ({} : Builder).parse s false t = .ok r := by
    rw [parse_of_reaches (by decide) (show _ = 1 + 63 from rfl) hreach, passes_unchanged hlive hsame]
    rfl
  -- The run comes to its end at `r`, so no text without live tags is reached.
  have hnone : ¬ Restores {} s t := by
    rintro ⟨n, u, j, hu, hsettled, -, -⟩
    obtain ⟨i, -, hrest⟩ := hreach.rest (not_advances_of_unchanged hsame) hu
    cases hrest with
    | refl => exact hlive hsettled
    | step hadv _ => exact hadv.live hsettled
  obtain ⟨n, j, -, -, hagain⟩ :=
    parse_settled (Secret.Cipher.isPure_ofFun Secret.Call.value) hparse (by decide) hnone
  refine ⟨hparse, hnone, fun supply => hagain supply fun g hg hreserved => ?_⟩
  rw [show ({} : Builder).pattern = Tag.livePattern from rfl, hall, List.mem_singleton] at hg
  rw [hg] at hreserved
  exact absurd hreserved (by decide)

end Builder

end Placeholder
