/-
Texts of numbers, read back. Reading goes through the digits from the left with the number so far; no number so far
is greater than the whole one, so nothing overflows on the way that fits in the end.
-/
import Placeholder.Number.Decimal.Reader
import Placeholder.Number.Integer
import Placeholder.Proofs.Digits

namespace Placeholder

open Text (IsDigits isAsciiDigit natOfDigits digitValue)

/-- The number in front of further digits, put together from the left and from the right. -/
theorem Text.prefix_cons (n : Nat) (c : Char) (t : Text) :
    (10 * n + digitValue c) * 10 ^ t.length + natOfDigits t = n * 10 ^ (c :: t).length + natOfDigits (c :: t) := by
  rw [natOfDigits_cons, List.length_cons, Nat.pow_succ]
  ring

/-- A number with further digits behind it is no smaller. -/
theorem Text.prefix_le (n : Nat) (t : Text) : n ≤ n * 10 ^ t.length + natOfDigits t :=
  Nat.le_add_right_of_le (Nat.le_mul_of_pos_right n (Nat.pow_pos (by decide)))

theorem Text.ofNat_ne_nil (n : Nat) : ofNat n ≠ [] := Nat.toDigits_ne_nil

/-- Digits do not begin with a sign. -/
theorem Text.exists_digits_cons {t : Text} (h : IsDigits t) (hne : t ≠ []) :
    ∃ c u, t = c :: u ∧ c ≠ '+' ∧ c ≠ '-' := by
  obtain ⟨c, u, rfl⟩ := List.exists_cons_of_ne_nil hne
  exact ⟨c, u, rfl, ne_sign_of_digit (h c (List.mem_cons_self ..))⟩

/-! ## Whole numbers -/

namespace Integer

theorem readDigits_digits {bound n : Nat} {fault : ReadFault} {t : Text} (h : IsDigits t)
    (hbound : n * 10 ^ t.length + natOfDigits t ≤ bound) :
    readDigits bound fault n t = .ok (n * 10 ^ t.length + natOfDigits t) := by
  induction t generalizing n with
  | nil => simp [readDigits, natOfDigits]
  | cons c t ih =>
    rw [← Text.prefix_cons] at hbound ⊢
    have hnext := Text.prefix_le (10 * n + digitValue c) t
    rw [readDigits, h c (List.mem_cons_self ..), if_neg (by decide)]
    dsimp only
    rw [if_neg (by omega), ih (h.subset (List.subset_cons_self c t)) hbound]

section

variable {digits : Text} (h : IsDigits digits) (hne : digits ≠ [])
include h hne

theorem readSome_digits {bound : Nat} (fault : ReadFault) (hbound : natOfDigits digits ≤ bound) :
    readSome bound fault digits = .ok (natOfDigits digits) := by
  have hvalue : 0 * 10 ^ digits.length + natOfDigits digits = natOfDigits digits := by simp
  have hread : readDigits bound fault 0 digits = .ok _ := readDigits_digits h (hvalue.trans_le hbound)
  rw [hvalue] at hread
  rw [readSome, if_neg (by simpa using hne), hread]

/-- Digits without a sign are read for what they are. -/
theorem readIn_digits {low high : Int} (hbound : natOfDigits digits ≤ high.toNat) :
    readIn low high digits = .ok (natOfDigits digits : Int) := by
  obtain ⟨c, t, hcons, hplus, hminus⟩ := Text.exists_digits_cons h hne
  have hread := readSome_digits h hne .tooLarge hbound
  rw [hcons] at hread ⊢
  unfold readIn
  split
  next heq => cases heq
  next heq => exact absurd (List.cons.inj heq).1 hplus
  next heq => exact absurd (List.cons.inj heq).1 hminus
  next =>
    rw [hread]
    rfl

/-- The digits of the magnitude of an integer are read back, behind a minus sign if it is negative. -/
theorem readIn_signed {i : Int} (hi : least ≤ i ∧ i ≤ greatest) (hvalue : natOfDigits digits = i.natAbs) :
    readIn least greatest (if i < 0 then '-' :: digits else digits) = .ok i := by
  split
  next hneg =>
    have hbound : natOfDigits digits ≤ (-least).toNat := by omega
    have hminus : -(natOfDigits digits : Int) = i := by omega
    rw [readIn, if_pos (by decide), readSome_digits h hne .tooSmall hbound]
    exact congrArg Except.ok hminus
  next hpos =>
    have hplus : (natOfDigits digits : Int) = i := by omega
    rw [readIn_digits h hne (by omega), hplus]

end

/-- The text of an integer is read back. -/
theorem readIn_ofInt {i : Int} (h : least ≤ i ∧ i ≤ greatest) : readIn least greatest (Text.ofInt i) = .ok i :=
  readIn_signed (Text.isDigits_ofNat _) (Text.ofNat_ne_nil _) h (Text.natOfDigits_ofNat _)

theorem readSize_ofNat {n : Nat} (h : (n : Int) ≤ greatestSize) : readSize (Text.ofNat n) = .ok n := by
  rw [readSize, readIn_digits (Text.isDigits_ofNat n) (Text.ofNat_ne_nil n) (by rw [Text.natOfDigits_ofNat]; omega),
    Text.natOfDigits_ofNat]
  rfl

theorem readDigits_ok {bound n m : Nat} {fault : ReadFault} {t : Text} (h : readDigits bound fault n t = .ok m)
    (hn : n ≤ bound) : IsDigits t ∧ m ≤ bound := by
  induction t generalizing n with
  | nil =>
    obtain rfl := Except.ok.inj h
    exact ⟨Text.isDigits_nil, hn⟩
  | cons c t ih =>
    rw [readDigits] at h
    split at h
    · cases h
    next hc =>
      dsimp only at h
      split at h
      · cases h
      next hbound =>
        obtain ⟨ht, hm⟩ := ih h (Nat.not_lt.1 hbound)
        exact ⟨List.forall_mem_cons.2 ⟨by simpa using hc, ht⟩, hm⟩

/-- A size is written in digits, with or without a plus sign. -/
theorem readSize_ok {t : Text} {n : Nat} (h : readSize t = .ok n) :
    (∀ c ∈ t, isAsciiDigit c = true ∨ c = '+') ∧ (n : Int) ≤ greatestSize := by
  have hsome : ∀ {digits : Text},
      (readSome greatestSize.toNat .tooLarge digits).map (fun n => (n : Int).toNat) = .ok n →
      IsDigits digits ∧ (n : Int) ≤ greatestSize := by
    intro digits h
    rw [readSome] at h
    split at h
    · cases h
    · cases hread : readDigits greatestSize.toNat .tooLarge 0 digits with
      | error f => rw [hread] at h; cases h
      | ok m =>
        rw [hread] at h
        obtain rfl : m = n := Except.ok.inj h
        obtain ⟨hdigits, hm⟩ := readDigits_ok hread (Nat.zero_le _)
        exact ⟨hdigits, by simp only [greatestSize] at hm ⊢; omega⟩
  have hmap : ∀ m : Except ReadFault Nat,
      (m.map fun n => (n : Int)).map Int.toNat = m.map fun n => (n : Int).toNat := by rintro (f | m) <;> rfl
  unfold readSize readIn at h
  split at h
  · cases h
  · rw [hmap] at h
    obtain ⟨hdigits, hn⟩ := hsome h
    exact ⟨List.forall_mem_cons.2 ⟨.inr rfl, fun c hc => .inl (hdigits c hc)⟩, hn⟩
  · rw [if_neg (by decide)] at h
    cases h
  · rw [hmap] at h
    obtain ⟨hdigits, hn⟩ := hsome h
    exact ⟨fun c hc => .inl (hdigits c hc), hn⟩

end Integer

/-! ## Decimal numbers -/

namespace Decimal

/-- Digits are read one after another as long as the number and its places fit. -/
theorem readDigits_digits {pointed started : Bool} {n scale : Nat} {t : Text} (rest : Text) (h : IsDigits t)
    (hfits : n * 10 ^ t.length + natOfDigits t < 2 ^ 96) (hscale : pointed = true → scale + t.length ≤ 28)
    (hpointed : pointed = false → scale = 0) :
    readDigits pointed started ⟨n, scale⟩ (t ++ rest) =
      readDigits pointed (started || !t.isEmpty)
        ⟨n * 10 ^ t.length + natOfDigits t, if pointed then scale + t.length else 0⟩ rest := by
  induction t generalizing started n scale with
  | nil =>
    have hsame : (if pointed then scale else 0) = scale := by
      cases pointed with
      | true => rfl
      | false => exact (hpointed rfl).symm
    simp [natOfDigits, hsame]
  | cons c t ih =>
    rw [← Text.prefix_cons] at hfits ⊢
    have hroom : (pointed && decide (28 ≤ scale)) = false := by
      cases pointed with
      | true =>
        have := hscale rfl
        rw [List.length_cons] at this
        simp only [Bool.true_and, decide_eq_false_iff_not]
        omega
      | false => rfl
    have hnext := Text.prefix_le (10 * n + digitValue c) t
    rw [List.cons_append, readDigits, hroom, if_neg Bool.false_ne_true, if_pos (h c (List.mem_cons_self ..))]
    dsimp only
    rw [if_pos (by omega), ih (h.subset (List.subset_cons_self c t)) hfits]
    · cases pointed <;> simp [Nat.add_assoc, Nat.add_comm 1]
    · intro htrue
      have := hscale htrue
      rw [List.length_cons] at this
      rw [if_pos htrue]
      omega
    · intro hfalse
      rw [hfalse, if_neg Bool.false_ne_true]

theorem readDigits_ofNat {n : Nat} (h : n < 2 ^ 96) (rest : Text) :
    readDigits false false ⟨0, 0⟩ (Text.ofNat n ++ rest) = readDigits false true ⟨n, 0⟩ rest := by
  have hvalue : 0 * 10 ^ (Text.ofNat n).length + natOfDigits (Text.ofNat n) = n := by simp
  rw [readDigits_digits rest (Text.isDigits_ofNat n) (by omega) (fun htrue => by cases htrue) fun _ => rfl, hvalue,
    List.isEmpty_eq_false_iff.2 (Text.ofNat_ne_nil n)]
  rfl

theorem toText_eq (d : Decimal) : d.toText = if d.negative then '-' :: d.abs.toText else d.abs.toText := rfl

/-- The text without a sign: the whole part, and the places behind a point if there are any. -/
theorem toText_abs (d : Decimal) : d.abs.toText = Text.ofNat (d.coefficient / 10 ^ d.scale) ++
    if d.scale = 0 then [] else '.' :: Text.padLeft d.scale '0' (Text.ofNat (d.coefficient % 10 ^ d.scale)) := by
  rw [toText, abs, Ratio.splitDigits]
  by_cases hscale : d.scale = 0
  · simp [hscale]
  · have hne : Text.padLeft d.scale '0' (Text.ofNat (d.coefficient % 10 ^ d.scale)) ≠ [] :=
      List.ne_nil_of_length_pos (by rw [Text.length_padLeft]; omega)
    simp [hscale, hne]

/-- The magnitude of a number is read back with all its places. -/
theorem readDigits_toText_abs (d : Decimal) :
    readDigits false false ⟨0, 0⟩ d.abs.toText = .ok ⟨d.coefficient, d.scale⟩ := by
  have hfits := d.fits
  have hwhole : d.coefficient / 10 ^ d.scale < 2 ^ 96 := Nat.lt_of_le_of_lt (Nat.div_le_self ..) hfits
  rw [toText_abs, readDigits_ofNat hwhole]
  split
  next hscale =>
    rw [hscale, Nat.pow_zero, Nat.div_one]
    rfl
  next hscale =>
    let places := Text.padLeft d.scale '0' (Text.ofNat (d.coefficient % 10 ^ d.scale))
    have hdigits : IsDigits places := Text.isDigits_padLeft (Text.isDigits_ofNat _) _
    have hofNat : (Text.ofNat (d.coefficient % 10 ^ d.scale)).length ≤ d.scale :=
      (Nat.length_toDigits_le_iff (by decide) (Nat.pos_of_ne_zero hscale)).2 (Nat.mod_lt _ (Nat.pow_pos (by decide)))
    have hlen : places.length = d.scale := by
      rw [Text.length_padLeft]
      omega
    have hvalue : d.coefficient / 10 ^ d.scale * 10 ^ places.length + natOfDigits places = d.coefficient := by
      rw [hlen, Text.natOfDigits_padLeft, Text.natOfDigits_ofNat, Nat.div_add_mod']
    have hpoint : readDigits false true ⟨d.coefficient / 10 ^ d.scale, 0⟩ ('.' :: places) =
        readDigits true true ⟨d.coefficient / 10 ^ d.scale, 0⟩ places := rfl
    have hread : readDigits true true ⟨d.coefficient / 10 ^ d.scale, 0⟩ (places ++ []) =
        readDigits true (true || !places.isEmpty) ⟨_, if true then 0 + places.length else 0⟩ [] :=
      readDigits_digits [] hdigits (hvalue.trans_lt hfits) (fun _ => by have := d.scale_le; omega)
        fun hfalse => by cases hfalse
    rw [List.append_nil, hvalue, hlen, if_pos rfl, Nat.zero_add] at hread
    exact hpoint.trans hread

theorem read_minus {body : Text} {p : Digits} {d : Decimal} (h : readDigits false false ⟨0, 0⟩ body = .ok p)
    (hd : make? true p.coefficient p.scale = some d) : read ('-' :: body) = .ok d := by
  rw [read]
  simp only [bind, Except.bind, h, hd]

theorem read_unsigned {c : Char} {t : Text} {p : Digits} {d : Decimal} (hplus : c ≠ '+') (hminus : c ≠ '-')
    (h : readDigits false false ⟨0, 0⟩ (c :: t) = .ok p) (hd : make? false p.coefficient p.scale = some d) :
    read (c :: t) = .ok d := by
  rw [read]
  · simp only [bind, Except.bind, h, hd]
  · exact fun heq => by cases heq
  · exact fun body heq => hminus (List.cons.inj heq).1
  · exact fun body heq => hplus (List.cons.inj heq).1

/-- The text of a number is read back; only the sign of a zero is lost. -/
theorem read_toText (d : Decimal) : ∃ e, read d.toText = .ok e ∧ e.same d = true := by
  refine ⟨⟨d.negative && d.coefficient != 0, d.coefficient, d.scale, d.fits, d.scale_le⟩, ?_, ?_⟩
  · have hmake : make? d.negative d.coefficient d.scale =
        some ⟨d.negative && d.coefficient != 0, d.coefficient, d.scale, d.fits, d.scale_le⟩ :=
      dif_pos ⟨d.fits, d.scale_le⟩
    have hdigits := readDigits_toText_abs d
    rw [toText_eq]
    cases hnegative : d.negative with
    | true =>
      rw [hnegative] at hmake
      exact read_minus hdigits hmake
    | false =>
      rw [hnegative] at hmake
      obtain ⟨c, t, hofNat, hplus, hminus⟩ :=
        Text.exists_digits_cons (Text.isDigits_ofNat (d.coefficient / 10 ^ d.scale)) (Text.ofNat_ne_nil _)
      rw [toText_abs, hofNat, List.cons_append] at hdigits
      rw [if_neg Bool.false_ne_true, toText_abs, hofNat, List.cons_append]
      exact read_unsigned hplus hminus hdigits hmake
  · by_cases hzero : d.coefficient = 0
    · simp [same, isZero, hzero]
    · simp [same, hzero]

end Decimal

end Placeholder
