/-
The numbers that digits denote. Zeros in front of a whole number do not count, and neither do zeros behind a
fraction; that is why numbers can be padded and trimmed.
-/
import Mathlib.Algebra.Order.Field.Rat
import Mathlib.Data.Nat.Log
import Mathlib.Tactic.FieldSimp
import Mathlib.Tactic.Positivity
import Mathlib.Tactic.Ring
import Placeholder.Number.Instances
import Placeholder.Text

namespace Placeholder.Text

/-! ## Whole numbers -/

/-- A text of digits only. -/
def IsDigits (t : Text) : Prop := ∀ c ∈ t, isAsciiDigit c = true

theorem isDigits_nil : IsDigits [] := fun c hc => by cases hc

theorem isDigits_append {a b : Text} : IsDigits (a ++ b) ↔ IsDigits a ∧ IsDigits b := by
  simp only [IsDigits, List.mem_append, or_imp, forall_and]

theorem IsDigits.subset {a b : Text} (h : IsDigits b) (hsub : a ⊆ b) : IsDigits a := fun c hc => h c (hsub hc)

theorem isDigits_replicate_zero (n : Nat) : IsDigits (List.replicate n '0') := by
  intro c hc
  rw [List.eq_of_mem_replicate hc]
  decide

theorem isDigits_ofNat (n : Nat) : IsDigits (ofNat n) := by
  intro c hc
  have h := Nat.isDigit_of_mem_toDigits (by decide) (by decide) hc
  simp only [Char.isDigit, Bool.and_eq_true, decide_eq_true_eq] at h
  simp only [isAsciiDigit, Bool.and_eq_true, decide_eq_true_eq]
  exact h

theorem digitValue_le {c : Char} (h : isAsciiDigit c = true) : digitValue c ≤ 9 := by
  simp only [isAsciiDigit, Bool.and_eq_true, decide_eq_true_eq] at h
  have hle : c.toNat ≤ '9'.toNat := h.2
  have hnine : '9'.toNat = '0'.toNat + 9 := rfl
  unfold digitValue
  omega

theorem digitValue_eq_zero {c : Char} (h : isAsciiDigit c = true) : digitValue c = 0 ↔ c = '0' := by
  simp only [isAsciiDigit, Bool.and_eq_true, decide_eq_true_eq] at h
  have hle : '0'.toNat ≤ c.toNat := h.1
  constructor
  · intro hzero
    unfold digitValue at hzero
    exact Char.toNat_inj.1 (by omega)
  · rintro rfl
    rfl

/-- A digit is no sign. -/
theorem ne_sign_of_digit {c : Char} (h : isAsciiDigit c = true) : c ≠ '+' ∧ c ≠ '-' := by
  constructor <;> rintro rfl <;> exact absurd h (by decide)

/-- A number in a base has one digit more than the power of the base that it reaches. -/
theorem length_toDigits {b : Nat} (hb : 1 < b) (n : Nat) : (Nat.toDigits b n).length = Nat.log b n + 1 := by
  apply Nat.le_antisymm
  · exact (Nat.length_toDigits_le_iff hb (Nat.succ_pos _)).2 (Nat.lt_pow_succ_log_self hb n)
  · have hpos : 0 < (Nat.toDigits b n).length := Nat.length_toDigits_pos
    exact Nat.log_lt_of_lt_pow' hpos.ne' ((Nat.length_toDigits_le_iff hb hpos).1 le_rfl)

theorem length_ofNat (n : Nat) : (ofNat n).length = Nat.log 10 n + 1 := length_toDigits (by decide) n

theorem natOfDigits_append (a b : Text) : natOfDigits (a ++ b) = natOfDigits a * 10 ^ b.length + natOfDigits b := by
  have hfold : ∀ t, natOfDigits t = Nat.ofDigitChars 10 t 0 := fun _ => rfl
  rw [hfold, hfold, hfold, Nat.ofDigitChars_append, Nat.ofDigitChars_eq_ofDigitChars_zero, Nat.mul_comm]

theorem natOfDigits_cons (c : Char) (t : Text) : natOfDigits (c :: t) = digitValue c * 10 ^ t.length + natOfDigits t := by
  have hone : natOfDigits [c] = digitValue c := by simp [natOfDigits]
  rw [← List.singleton_append, natOfDigits_append, hone]

@[simp] theorem natOfDigits_ofNat (n : Nat) : natOfDigits (ofNat n) = n := Nat.ofDigitChars_ten_toDigits

@[simp] theorem natOfDigits_replicate_zero (n : Nat) : natOfDigits (List.replicate n '0') = 0 :=
  Nat.ofDigitChars_replicate_zero

theorem natOfDigits_lt {t : Text} (h : IsDigits t) : natOfDigits t < 10 ^ t.length := by
  induction t with
  | nil => decide
  | cons c t ih =>
    have hc := digitValue_le (h c (List.mem_cons_self ..))
    have ht := ih (h.subset (List.subset_cons_self c t))
    have hmul := Nat.mul_le_mul_right (10 ^ t.length) hc
    rw [natOfDigits_cons, List.length_cons, Nat.pow_succ]
    omega

theorem natOfDigits_take {t : Text} (h : IsDigits t) (n : Nat) :
    natOfDigits (t.take n) = natOfDigits t / 10 ^ (t.length - n) := by
  have hrest : natOfDigits (t.drop n) < 10 ^ (t.length - n) := by
    rw [← List.length_drop]
    exact natOfDigits_lt (h.subset (List.drop_subset n t))
  have hsplit : natOfDigits t = natOfDigits (t.take n) * 10 ^ (t.length - n) + natOfDigits (t.drop n) := by
    rw [← List.length_drop, ← natOfDigits_append, List.take_append_drop]
  rw [hsplit, Nat.mul_comm, Nat.mul_add_div (Nat.pow_pos (by decide)), Nat.div_eq_of_lt hrest, Nat.add_zero]

theorem natOfDigits_eq_zero {t : Text} (h : IsDigits t) : natOfDigits t = 0 ↔ ∀ c ∈ t, c = '0' := by
  induction t with
  | nil => simp [natOfDigits]
  | cons c t ih =>
    have hpow : 10 ^ t.length ≠ 0 := (Nat.pow_pos (by decide)).ne'
    rw [natOfDigits_cons, Nat.add_eq_zero_iff, Nat.mul_eq_zero, or_iff_left hpow,
      digitValue_eq_zero (h c (List.mem_cons_self ..)), ih (h.subset (List.subset_cons_self c t)), List.forall_mem_cons]

/-- A number is written without leading zeros. -/
theorem head?_ofNat {n : Nat} (h : n ≠ 0) : (ofNat n).head? ≠ some '0' := by
  intro hhead
  obtain ⟨t, ht⟩ : ∃ t, ofNat n = '0' :: t := by
    cases hn : ofNat n with
    | nil => simp [hn] at hhead
    | cons c t =>
      rw [hn, List.head?_cons, Option.some.injEq] at hhead
      exact ⟨t, by rw [hhead]⟩
  have hdigits : IsDigits t := (isDigits_ofNat n).subset (ht ▸ List.subset_cons_self '0' t)
  have hvalue : n = natOfDigits t := by
    rw [← natOfDigits_ofNat n, ht, natOfDigits_cons]
    simp [digitValue]
  cases t with
  | nil => exact h hvalue
  | cons c t =>
    have hlt : n < 10 ^ (c :: t).length := by
      rw [hvalue]
      exact natOfDigits_lt hdigits
    have hlen : (ofNat n).length ≤ (c :: t).length :=
      (Nat.length_toDigits_le_iff (by decide) (Nat.succ_pos _)).2 hlt
    rw [ht, List.length_cons] at hlen
    omega

theorem isDigits_padLeft {t : Text} (h : IsDigits t) (width : Nat) : IsDigits (padLeft width '0' t) :=
  isDigits_append.2 ⟨isDigits_replicate_zero _, h⟩

@[simp] theorem natOfDigits_padLeft (width : Nat) (t : Text) : natOfDigits (padLeft width '0' t) = natOfDigits t := by
  rw [padLeft, natOfDigits_append, natOfDigits_replicate_zero, Nat.zero_mul, Nat.zero_add]

theorem length_padLeft (width : Nat) (c : Char) (t : Text) : (padLeft width c t).length = max width t.length := by
  rw [padLeft, List.length_append, List.length_replicate]
  omega

theorem padLeft_of_le {width : Nat} {t : Text} (h : width ≤ t.length) (c : Char) : padLeft width c t = t := by
  rw [padLeft, Nat.sub_eq_zero_of_le h, List.replicate_zero, List.nil_append]

/-! ## Fractions -/

/-- The fraction that digits behind a point denote. -/
def fractionOfDigits (t : Text) : ℚ := natOfDigits t / 10 ^ t.length

theorem fractionOfDigits_append_zeros (t : Text) (n : Nat) :
    fractionOfDigits (t ++ List.replicate n '0') = fractionOfDigits t := by
  have hn : (10 : ℚ) ^ n ≠ 0 := by positivity
  have ht : (10 : ℚ) ^ t.length ≠ 0 := by positivity
  rw [fractionOfDigits, fractionOfDigits, natOfDigits_append, natOfDigits_replicate_zero, List.length_append,
    List.length_replicate, pow_add]
  push_cast
  field_simp
  ring

theorem dropTrailing_append (c : Char) (t : Text) : ∃ n, t = dropTrailing c t ++ List.replicate n c := by
  refine ⟨(t.reverse.takeWhile (· == c)).length, ?_⟩
  have hall : t.reverse.takeWhile (· == c) = List.replicate (t.reverse.takeWhile (· == c)).length c := by
    refine List.eq_replicate_iff.2 ⟨rfl, fun d hd => ?_⟩
    exact eq_of_beq (List.all_eq_true.1 List.all_takeWhile d hd)
  rw [dropTrailing, ← List.reverse_replicate, ← hall, ← List.reverse_append, List.takeWhile_append_dropWhile,
    List.reverse_reverse]

theorem getLast?_dropTrailing (c : Char) (t : Text) : (dropTrailing c t).getLast? ≠ some c := by
  intro h
  rw [dropTrailing, List.getLast?_reverse] at h
  have hhead := List.head?_dropWhile_not (· == c) t.reverse
  rw [h] at hhead
  simp at hhead

end Placeholder.Text
