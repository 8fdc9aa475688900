/-
Which source answers a tag. A generator comes before the values, and a value before the configuration; so the
configuration is asked only for keys that have no value and are not reserved. What it knows about other keys does
not show in any pass, and nor does anything about the values but what they answer (`parse_of_same_answers`).

Keys come up as the passes go on, from texts that were put in before. That is why the two sources are compared
tag by tag: where every tag resolves to the same, so does every pass, and every run (`parse_congr`).
-/
import Placeholder.Proofs.Expansion.Passes

namespace Placeholder.Builder

variable {b : Builder} {s₁ s₂ : Sources}

/-! ## Sources that resolve every tag alike -/

theorem replaceSegments_congr (h : ∀ g, resolveTag b s₁ g = resolveTag b s₂ g) (resolved : Resolved)
    (segs : List Tag.Segment) : replaceSegments b s₁ resolved segs = replaceSegments b s₂ resolved segs := by
  induction segs generalizing resolved with
  | nil => rfl
  | cons seg segs ih =>
    cases seg with
    | plain c => rw [replaceSegments, replaceSegments, ih]
    | tag g =>
      rw [replaceSegments, replaceSegments, h]
      simp only [ih]

theorem substitute_congr (h : ∀ g, resolveTag b s₁ g = resolveTag b s₂ g) (t : Text) :
    b.substitute s₁ t = b.substitute s₂ t := replaceSegments_congr h [] _

theorem passes_congr (h : ∀ g, resolveTag b s₁ g = resolveTag b s₂ g) (strict : Bool) (left : Nat) (first : Bool)
    (t : Text) : b.passes s₁ strict left first t = b.passes s₂ strict left first t := by
  induction left generalizing first t with
  | zero => rw [passes, passes]
  | succ left ih =>
    rw [passes, passes, substitute_congr h]
    simp only [ih]

theorem parse_congr (h : ∀ g, resolveTag b s₁ g = resolveTag b s₂ g) (strict : Bool) (t : Text) :
    b.parse s₁ strict t = b.parse s₂ strict t := by
  rw [parse, parse, run, run, passes_congr h]

theorem resolveTag_congr (hcipher : s₁.cipher = s₂.cipher) {g : Tag}
    (hkey : resolveKey s₁ g (Secret.stripMarker g.key).1 = resolveKey s₂ g (Secret.stripMarker g.key).1) :
    resolveTag b s₁ g = resolveTag b s₂ g := by
  rw [resolveTag_eq, resolveTag_eq, hkey, hcipher]

/-! ## Sources that give the same answers -/

/-- The configuration is asked for a key without a value only, and for no key that is reserved. -/
theorem resolveKey_congr (hsupply : s₁.supply = s₂.supply) {key : Text}
    (hvalue : s₁.values.get? key = s₂.values.get? key)
    (hconfig : s₁.values.get? key = none → isReserved key = false → s₁.config key = s₂.config key) (g : Tag) :
    resolveKey s₁ g key = resolveKey s₂ g key := by
  rw [resolveKey, resolveKey, hsupply, ← hvalue]
  cases hreserved : isReserved key with
  | true => rw [if_pos rfl, if_pos rfl]
  | false =>
    rw [if_neg Bool.false_ne_true, if_neg Bool.false_ne_true]
    cases hnone : s₁.values.get? key with
    | some v => rfl
    | none => rw [hconfig hnone hreserved]

/-- **What no tag can ask for does not show.** If two maps of values give the same answer to every key, and two
configurations give the same answer to every key that has no value and is not reserved, then every expansion
gives the same text or the same fault with the one map and configuration as with the others. -/
theorem parse_of_same_answers (b : Builder) (cipher : Secret.Cipher) (supply : Generator.Supply) (strict : Bool)
    (t : Text) {values₁ values₂ : ValueMap} {config₁ config₂ : Config}
    (hvalues : ∀ k, values₁.get? k = values₂.get? k)
    (hconfig : ∀ k, values₁.get? k = none → isReserved k = false → config₁ k = config₂ k) :
    b.parse ⟨values₁, config₁, cipher, supply⟩ strict t = b.parse ⟨values₂, config₂, cipher, supply⟩ strict t := by
  refine parse_congr (fun g => resolveTag_congr (by rfl) ?_) strict t
  exact resolveKey_congr (by rfl) (hvalues _) (hconfig _) g

/-- A null entry against no entry, a key in another case, and a configuration that knows the key of the value and
a reserved one against one that knows nothing. -/
theorem parse_of_same_answers_null :
    ({} : Builder).parse
      ⟨(ValueMap.empty.insertNull ['s']).insert ['n'] (.string ['x']),
        fun k => if k = ['n'] ∨ isReserved k then some ['h'] else none, .plain, fun _ => 0⟩ true
      ['$', '{', 'N', '}', '$', '{', 's', '}', '$', '{', 's', 'e', 'c', 'r', 'e', 't', '}'] =
    ({} : Builder).parse ⟨ValueMap.empty.insert ['N'] (.string ['x']), .none, .plain, fun _ => 0⟩ true
      ['$', '{', 'N', '}', '$', '{', 's', '}', '$', '{', 's', 'e', 'c', 'r', 'e', 't', '}'] := by
  have hfirst : ((ValueMap.empty.insertNull ['s']).insert ['n'] (.string ['x'])).entries =
      [(['s'], none), (['n'], some (.string ['x']))] := rfl
  have hsecond : (ValueMap.empty.insert ['N'] (.string ['x'])).entries = [(['n'], some (.string ['x']))] := rfl
  refine parse_of_same_answers _ _ _ _ _ (fun k => ?_) fun k hnone hreserved => if_neg ?_
  · rw [ValueMap.get?, ValueMap.get?, ValueMap.entry?, ValueMap.entry?, hfirst, hsecond]
    by_cases hs : Unicode.toLower k = ['s']
    · rw [hs]
      rfl
    · rw [List.lookup_cons, beq_eq_false_iff_ne.2 hs]
  · rintro (rfl | htrue)
    · cases hnone
    · rw [hreserved] at htrue
      cases htrue

end Placeholder.Builder
