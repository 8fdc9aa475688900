/-
What a draw decides, and what it does not. A number that is drawn lies between its bounds, and since the bounds
are read from texts of 64-bit numbers, it is a value. Which number it is decides how it is shown, but not
whether it can be shown: a specifier applies to all whole numbers or to none. So a generator fails before it
draws or not at all (`number_fails_or_not`).
-/
import Placeholder.Generator

namespace Placeholder

namespace Integer

theorem readDigits_le {bound n : Nat} {fault : ReadFault} {value : Nat} {t : Text} (hvalue : value ≤ bound)
    (h : readDigits bound fault value t = .ok n) : n ≤ bound := by
  induction t generalizing value with
  | nil =>
    rw [readDigits, Except.ok.injEq] at h
    omega
  | cons c t ih =>
    rw [readDigits] at h
    split at h
    · cases h
    · simp only at h
      split at h
      · cases h
      next hle => exact ih (Nat.not_lt.1 hle) h

theorem readSome_le {bound n : Nat} {fault : ReadFault} {t : Text} (h : readSome bound fault t = .ok n) :
    n ≤ bound := by
  rw [readSome] at h
  split at h
  · cases h
  · exact readDigits_le (Nat.zero_le bound) h

/-- A number that is read is in the range that is read. -/
theorem mem_of_readIn {low high i : Int} (hlow : low ≤ 0) (hhigh : 0 ≤ high) {t : Text}
    (h : readIn low high t = .ok i) : low ≤ i ∧ i ≤ high := by
  have hplain : ∀ {digits}, (readSome high.toNat .tooLarge digits).map (fun n => (n : Int)) = .ok i →
      low ≤ i ∧ i ≤ high := by
    intro digits h
    cases hn : readSome high.toNat .tooLarge digits with
    | error f =>
      rw [hn] at h
      cases h
    | ok n =>
      rw [hn] at h
      have hle := readSome_le hn
      have hi : (n : Int) = i := Except.ok.inj h
      omega
  unfold readIn at h
  split at h
  · cases h
  · exact hplain h
  next digits =>
    split at h
    · cases hn : readSome (-low).toNat .tooSmall digits with
      | error f =>
        rw [hn] at h
        cases h
      | ok n =>
        rw [hn] at h
        have hle := readSome_le hn
        have hi : -(n : Int) = i := Except.ok.inj h
        omega
    · cases h
  · exact hplain h

theorem mem_of_read {i : Int} {t : Text} (h : read t = .ok i) : least ≤ i ∧ i ≤ greatest :=
  mem_of_readIn (by decide) (by decide) h

end Integer

namespace Display

/-- Whether a standard specifier applies to a whole number does not hang on the number. -/
theorem isSome_standard_integer (i i' : Int) (letter : Char) (precision : Option Nat) :
    (standard (.integer i) letter precision).isSome = (standard (.integer i') letter precision).isSome := by
  unfold standard
  simp only
  split
  · rfl
  · split <;> try rfl
    split <;> rfl

theorem isSome_number_integer (i i' : Int) (spec : Text) :
    (number (.integer i) spec).isSome = (number (.integer i') spec).isSome := by
  unfold number
  simp only
  split
  · exact isSome_standard_integer i i' _ _
  · rfl

end Display

namespace Value

/-- A specifier shows all whole numbers, or it shows none and fails for all of them alike. -/
theorem format_integer_cases (spec : Text) :
    (∃ f, ∀ i, (integer i).format spec = .error f) ∨ ∀ i, ∃ t, (integer i).format spec = .ok t := by
  unfold format
  split
  · exact .inr fun i => ⟨_, rfl⟩
  · cases hzero : (underSpec? spec (integer ⟨0, by decide⟩)).isSome with
    | false =>
      refine .inl ⟨.unsupportedFormat .integer spec, fun i => ?_⟩
      have hnone : (underSpec? spec (integer i)).isSome = false := by
        rw [← hzero]
        exact Display.isSome_number_integer _ _ spec
      rw [Option.isSome_eq_false_iff, Option.isNone_iff_eq_none] at hnone
      simp only [hnone, kind]
    | true =>
      refine .inr fun i => ?_
      have hsome : (underSpec? spec (integer i)).isSome = true := by
        rw [← hzero]
        exact Display.isSome_number_integer _ _ spec
      obtain ⟨t, ht⟩ := Option.isSome_iff_exists.1 hsome
      exact ⟨t, by simp only [ht]⟩

end Value

namespace Generator

theorem pickNumber_mem (low high : Int) (h : low < high) (draw : Nat) :
    low ≤ pickNumber low high draw ∧ pickNumber low high draw < high := by
  have hwidth : 0 < high - low := by omega
  have hnonneg := Int.emod_nonneg (draw : Int) (Int.ne_of_gt hwidth)
  have hlt := Int.emod_lt_of_pos (draw : Int) hwidth
  unfold pickNumber
  omega

theorem mem_of_readBound {i : Int} {t : Text} (h : readBound t = .ok i) :
    Integer.least ≤ i ∧ i ≤ Integer.greatest := by
  unfold readBound at h
  split at h
  · cases h
  next hread =>
    cases h
    exact Integer.mem_of_read hread

/-- The bounds are in order, and each is one of the two or zero. -/
theorem bounds_mem {min : Int} {max : Option Int} (hmin : Integer.least ≤ min ∧ min ≤ Integer.greatest)
    (hmax : ∀ m, max = some m → Integer.least ≤ m ∧ m ≤ Integer.greatest) :
    Integer.least ≤ (bounds min max).1 ∧ (bounds min max).1 ≤ (bounds min max).2 ∧
      (bounds min max).2 ≤ Integer.greatest := by
  have hother : Integer.least ≤ max.getD 0 ∧ max.getD 0 ≤ Integer.greatest := by
    cases max with
    | none => decide
    | some m => exact hmax m rfl
  unfold bounds
  simp only
  split <;> simp only <;> omega

/-- The generator of numbers fails for all draws alike, or for none. -/
theorem number_fails_or_not (supply : Supply) {min : Int} (max : Option Int) (format : Text)
    (hmin : Integer.least ≤ min ∧ min ≤ Integer.greatest)
    (hmax : ∀ m, max = some m → Integer.least ≤ m ∧ m ≤ Integer.greatest) :
    (∃ f, ∀ drawn, number supply drawn min max format = .error f) ∨
      ∀ drawn, ∃ t, number supply drawn min max format = .ok t := by
  obtain ⟨hlow, hle, hhigh⟩ := bounds_mem hmin hmax
  by_cases heq : (bounds min max).1 = (bounds min max).2
  · refine .inl ⟨.coercion numberKey ('[' :: Text.ofInt min ++ ',' :: Text.ofInt (max.getD 0) ++ [']'])
      .emptyRange, fun drawn => ?_⟩
    unfold number
    simp only [heq, if_true]
  · have hnumber : ∀ drawn, ∃ i, number supply drawn min max format = (Value.integer i).format format := by
      intro drawn
      have hpick := pickNumber_mem (bounds min max).1 (bounds min max).2 (by omega) (supply drawn)
      have hrange : Integer.least ≤ pickNumber (bounds min max).1 (bounds min max).2 (supply drawn) ∧
          pickNumber (bounds min max).1 (bounds min max).2 (supply drawn) ≤ Integer.greatest := by omega
      refine ⟨⟨_, hrange⟩, ?_⟩
      unfold number
      simp only [heq, if_false, Value.ofInt?, dif_pos hrange]
    rcases Value.format_integer_cases format with ⟨f, hf⟩ | hok
    · refine .inl ⟨f, fun drawn => ?_⟩
      obtain ⟨i, hi⟩ := hnumber drawn
      rw [hi, hf]
    · refine .inr fun drawn => ?_
      obtain ⟨i, hi⟩ := hnumber drawn
      rw [hi]
      exact hok i

end Generator

end Placeholder
