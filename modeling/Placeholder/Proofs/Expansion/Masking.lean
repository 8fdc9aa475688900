/-
Masked secrets do not show. Two runs over values that differ in one text only cannot be told apart if
each tag that reads this text asks for the cipher, and the cipher is the mask (`parse_mask_eq`).

The two runs go step by step. Their journals differ, for the calls of the cipher hold the hidden text, so the
runs are compared with `Run.Alike`, which leaves the calls out. The texts between the passes are the same in both
runs, and what is asked of the tags has to be asked of the first run alone.
-/
import Placeholder.Proofs.Expansion.Alike
import Placeholder.Proofs.Tag.Scan
import Placeholder.Proofs.Unicode.Lowering

namespace Placeholder

namespace Secret

/-! ## The mask -/

/-- The mask of a lowered text hangs on its length alone, and so does the mask of that mask. -/
theorem wrap_mask {lower isSecret : Bool} {key raw v₁ v₂ : Text} (hlen : v₁.length = v₂.length)
    (hmarked : isSecret = true ∨ Text.sameUpToAsciiCase key secretsKey = true) (calls₁ calls₂ : List Call) :
    (wrap lower .mask key raw v₁ isSecret calls₁).1 = (wrap lower .mask key raw v₂ isSecret calls₂).1 := by
  have hstars : (lowerBool lower v₁).length = (lowerBool lower v₂).length := by
    rw [length_lowerBool, length_lowerBool, hlen]
  rw [wrap, wrap]
  cases isSecret with
  | true =>
    cases Text.sameUpToAsciiCase key secretsKey <;>
      simp only [transform, Cipher.mask, Cipher.ofFun, hstars, if_true, if_false, Bool.false_eq_true]
  | false =>
    rw [hmarked.resolve_left Bool.false_ne_true]
    simp only [transform, Cipher.mask, Cipher.ofFun, hstars, if_true, if_false, Bool.false_eq_true]

end Secret

namespace ValueMap

/-- Keys that differ in letter case only have the same value. -/
theorem get?_congr (m : ValueMap) {k k' : Text} (h : Unicode.toLower k = Unicode.toLower k') :
    m.get? k = m.get? k' := by
  rw [get?, get?, entry?, entry?, h]

/-- A map with one text only. -/
def single (k v : Text) : ValueMap := .ofList [(k, .string v)]

theorem get?_single_ne {k k' v : Text} (h : Unicode.toLower k' ≠ Unicode.toLower k) : (single k v).get? k' = none := by
  have hentries : (single k v).entries = [(Unicode.toLower k, some (.string v))] := rfl
  rw [get?, entry?, hentries, List.lookup_cons, beq_eq_false_iff_ne.2 h]
  rfl

end ValueMap

namespace Builder

open Run

variable {b : Builder} {s₁ s₂ : Sources}

/-! ## The tags of a pass -/

theorem wrapSecret_hidden (options : Options) {key raw v₁ v₂ : Text} {isSecret : Bool} (hlen : v₁.length = v₂.length)
    (hmarked : isSecret = true ∨ Text.sameUpToAsciiCase key Secret.secretsKey = true) :
    Alike (wrapSecret options .mask key raw v₁ isSecret) (wrapSecret options .mask key raw v₂ isSecret) := by
  intro j₁ j₂ hj
  rw [wrapSecret_eq, wrapSecret_eq, Secret.wrap_mask hlen hmarked j₁.calls j₂.calls]
  exact .ok _ hj

/-- The key of a text in the values gives this text, and no text under a format. -/
theorem resolveKey_string {s : Sources} {g : Tag} {key v : Text} (hreserved : isReserved key = false)
    (hv : s.values.get? key = some (.string v)) :
    resolveKey s g key = if ((Clause.ofTag g).format.getD []).isEmpty then pure (some v)
      else throw (.unsupportedFormat .string ((Clause.ofTag g).format.getD [])) := by
  rw [resolveKey, hreserved, if_neg Bool.false_ne_true, hv]
  simp only [Value.format]
  split <;> rfl

/-- Where two sources have texts of one length for the key of a tag, and the tag asks for the cipher, the tag
becomes the same. -/
theorem resolveTag_hidden (h₁ : s₁.cipher = .mask) (h₂ : s₂.cipher = .mask) {g : Tag} {v₁ v₂ : Text}
    (hreserved : isReserved (Secret.stripMarker g.key).1 = false)
    (hv₁ : s₁.values.get? (Secret.stripMarker g.key).1 = some (.string v₁))
    (hv₂ : s₂.values.get? (Secret.stripMarker g.key).1 = some (.string v₂)) (hlen : v₁.length = v₂.length)
    (hmarked : (Secret.stripMarker g.key).2 = true ∨ (Secret.stripMarker g.key).1 = Secret.secretsKey) :
    Alike (resolveTag b s₁ g) (resolveTag b s₂ g) := by
  have hsame : (Secret.stripMarker g.key).2 = true ∨
      Text.sameUpToAsciiCase (Secret.stripMarker g.key).1 Secret.secretsKey = true := by
    refine hmarked.imp_right fun hkey => ?_
    rw [hkey]
    decide
  rw [resolveTag_eq, resolveTag_eq, resolveKey_string hreserved hv₁, resolveKey_string hreserved hv₂, h₁, h₂]
  split
  · rw [pure_bind, pure_bind]
    exact .bind (wrapSecret_hidden _ hlen hsame) fun _ => .pure _
  · exact .throw _

/-! ## The run -/

/-- **Masked secrets do not show.** If two maps of values agree on all keys but `k`, where they have texts of
one length, and each tag that the passes of the first run meet for `k` carries the marker for the cipher, or `k`
is the key of secrets, then both runs give the same text or the same fault. -/
theorem parse_mask_eq (b : Builder) (config : Config) (supply : Generator.Supply) (strict : Bool) (t k : Text)
    {values₁ values₂ : ValueMap} {v₁ v₂ : Text}
    (hothers : ∀ key, Unicode.toLower key ≠ Unicode.toLower k → values₁.get? key = values₂.get? key)
    (hv₁ : values₁.get? k = some (.string v₁)) (hv₂ : values₂.get? k = some (.string v₂)) (hlen : v₁.length = v₂.length)
    (hmarked : ∀ n u j, n < b.options.maxPasses → Reaches b ⟨values₁, config, .mask, supply⟩ n t {} u j →
      ∀ g ∈ Tag.all b.pattern u, (Secret.stripMarker g.key).1 = Unicode.toLower k →
        (Secret.stripMarker g.key).2 = true ∨ Unicode.toLower k = Secret.secretsKey) :
    b.parse ⟨values₁, config, .mask, supply⟩ strict t = b.parse ⟨values₂, config, .mask, supply⟩ strict t := by
  refine parse_eq_of_alike strict fun n u j hn hreach g hg => ?_
  have hlow := g.toLower_stripMarker
  by_cases hreserved : isReserved (Secret.stripMarker g.key).1 = true
  · refine resolveTag_alike (by rfl) (by exact Secret.Cipher.isPure_mask) ?_
    rw [resolveKey, resolveKey, if_pos hreserved, if_pos hreserved]
  · rw [Bool.not_eq_true] at hreserved
    by_cases hkey : (Secret.stripMarker g.key).1 = Unicode.toLower k
    · have hcongr : Unicode.toLower (Secret.stripMarker g.key).1 = Unicode.toLower k := by rw [hlow, hkey]
      refine resolveTag_hidden rfl rfl hreserved ?_ ?_ hlen ?_
      · rw [ValueMap.get?_congr _ hcongr, hv₁]
      · rw [ValueMap.get?_congr _ hcongr, hv₂]
      · rw [hkey]
        exact hmarked n u j hn hreach g hg hkey
    · refine resolveTag_alike (by rfl) (by exact Secret.Cipher.isPure_mask) ?_
      rw [resolveKey, resolveKey, hothers _ (by rwa [hlow])]

/-- A truth value, which is lowered before it is masked, and another text of its length cannot be told apart
behind both markers. -/
theorem parse_mask_secrets :
    ({ options := { maxPasses := 1 } } : Builder).parse
      ⟨.single "secrets".toList ['T', 'r', 'u', 'e'], .none, .mask, fun _ => 0⟩ true
      "$\x7bsecret:secrets\x7d".toList =
    ({ options := { maxPasses := 1 } } : Builder).parse
      ⟨.single "secrets".toList ['p', 'a', 's', 's'], .none, .mask, fun _ => 0⟩ true
      "$\x7bsecret:secrets\x7d".toList := by
  have hsegs : Tag.segments Tag.livePattern "$\x7bsecret:secrets\x7d".toList =
      [.tag ⟨"$\x7bsecret:secrets\x7d".toList, "secret:secrets".toList, none⟩] := by
    rw [Tag.livePattern_delimited.segments_eq_cut]
    cbv
  refine parse_mask_eq _ _ _ _ _ "secrets".toList (fun key hkey => ?_) rfl rfl rfl ?_
  · rw [ValueMap.get?_single_ne hkey, ValueMap.get?_single_ne hkey]
  · intro n u j hn hreach g hg _
    cases hreach with
    | refl =>
      rw [Tag.all, hsegs] at hg
      obtain rfl := List.mem_singleton.1 hg
      exact .inl (by decide)
    | step => exact absurd hn (Nat.not_lt.2 (Nat.succ_le_succ (Nat.zero_le _)))

end Builder

end Placeholder
