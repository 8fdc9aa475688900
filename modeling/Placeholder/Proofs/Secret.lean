/-
Markers and ciphers. A pure cipher does not look at the calls before it, so what it makes of a text does not hang
on them. And how often any cipher is asked is told by the key alone: once for the marker in front of the key, and
once more for the key of secrets.
-/
import Placeholder.Tag
import Placeholder.Secret
import Placeholder.Proofs.Text
import Placeholder.Proofs.Unicode.Lowering

namespace Placeholder

namespace Secret

/-! ## Markers -/

theorem mem_of_mem_stripMarker {key : Text} {c : Char} (h : c ∈ (stripMarker key).1) : c ∈ key := by
  have hafter : ∀ {marker rest : Text}, afterMarker? marker key = some rest → c ∈ rest → c ∈ key := by
    intro marker rest hrest hc
    rw [Text.afterHead?_eq_some.1 hrest]
    exact List.mem_append_right _ hc
  rw [stripMarker] at h
  split at h
  next hrest => exact hafter hrest h
  next =>
    split at h
    next hrest => exact hafter hrest h
    next => exact h

theorem sameUpToAsciiCase_secretsKey {key : Text} (h : Unicode.toLower key = key) :
    Text.sameUpToAsciiCase key secretsKey = decide (key = secretsKey) := by
  have hkey : Text.asciiLower key = key := by rw [← h, Unicode.asciiLower_toLower]
  have hsecrets : Text.asciiLower secretsKey = secretsKey := by decide
  rw [Text.sameUpToAsciiCase, hkey, hsecrets]
  exact Bool.eq_iff_iff.2 (by simp)

/-! ## Pure ciphers -/

/-- A cipher whose answer does not hang on the calls before. -/
def Cipher.IsPure (cipher : Cipher) : Prop := ∀ earlier₁ earlier₂ call, cipher earlier₁ call = cipher earlier₂ call

theorem Cipher.isPure_ofFun (f : Call → Text) : (Cipher.ofFun f).IsPure := fun _ _ _ => rfl

theorem Cipher.isPure_mask : Cipher.mask.IsPure := Cipher.isPure_ofFun _

/-- What a pure cipher makes of a text does not hang on the calls before. -/
theorem wrap_calls {cipher : Cipher} (hpure : cipher.IsPure) (lower isSecret : Bool) (key raw v : Text)
    (calls₁ calls₂ : List Call) :
    (wrap lower cipher key raw v isSecret calls₁).1 = (wrap lower cipher key raw v isSecret calls₂).1 := by
  have htransform : ∀ marker value, (transform cipher marker key raw value calls₁).1 =
      (transform cipher marker key raw value calls₂).1 := by
    intro marker value
    simp only [transform, hpure calls₁ calls₂]
  rw [wrap, wrap]
  cases isSecret with
  | false =>
    simp only [Bool.false_eq_true, if_false]
    split
    · exact htransform _ _
    · rfl
  | true =>
    simp only [if_true]
    split
    · simp only [transform, hpure calls₁ calls₂]
      rw [hpure (_ :: calls₁) (_ :: calls₂)]
    · exact htransform _ _

/-! ## Calls -/

/-- How often the cipher is asked for the text of a key as it stands in a tag. -/
def asks (key : Text) : Nat :=
  (if (stripMarker key).2 then 1 else 0) + (if (stripMarker key).1 = secretsKey then 1 else 0)

/-- What a call is for: the key without its marker and the raw text of the tag. -/
def Call.subject (call : Call) : Text × Text := (call.key, call.raw)

theorem transform_calls (cipher : Cipher) (marker key raw v : Text) (calls : List Call) :
    (transform cipher marker key raw v calls).2.map Call.subject = (key, raw) :: calls.map Call.subject := rfl

theorem wrap_subjects (lower : Bool) (cipher : Cipher) (raw v : Text) {key : Text}
    (hkey : Unicode.toLower (stripMarker key).1 = (stripMarker key).1) (calls : List Call) :
    (wrap lower cipher (stripMarker key).1 raw v (stripMarker key).2 calls).2.map Call.subject =
      List.replicate (asks key) ((stripMarker key).1, raw) ++ calls.map Call.subject := by
  rw [wrap, asks, sameUpToAsciiCase_secretsKey hkey]
  cases (stripMarker key).2 <;> by_cases h : (stripMarker key).1 = secretsKey <;>
    simp [h, transform_calls, List.replicate_succ]

end Secret

/-- The key of a tag without its marker is in lower case. -/
theorem Tag.toLower_stripMarker (g : Tag) :
    Unicode.toLower (Secret.stripMarker g.key).1 = (Secret.stripMarker g.key).1 :=
  Unicode.toLower_eq_self fun c hc => Unicode.lowered_toLower c (Secret.mem_of_mem_stripMarker hc)

end Placeholder
