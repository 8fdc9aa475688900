/-
Whole numbers with leading zeros, read back. `D` shows an integer in decimal digits behind a minus sign if it is
negative; `X` and `x` show the word of 64 bits that stands for it in two's complement, in hexadecimal digits without a
sign. In either case there are as many digits as the number needs, or as the precision asks for if these are more
(`format_radix`).

Hexadecimal digits are read from the left (`readHex?`), and the letters among them are all of one case.
-/
import Placeholder.Proofs.Display.FixedPoint
import Placeholder.Proofs.Number.ReadBack

namespace Placeholder

open Text (IsDigits isAsciiDigit isAsciiLetter digitValue)

/-! ## Hexadecimal numbers -/

namespace Text

/-- The value of a hexadecimal digit, where the letters are capitals or none of them is. -/
def hexValue? (capital : Bool) (c : Char) : Option Nat :=
  let first := if capital then 'A' else 'a'
  if isAsciiDigit c then some (digitValue c)
  else if first.toNat ≤ c.toNat ∧ c.toNat < first.toNat + 6 then some (10 + (c.toNat - first.toNat))
  else none

/-- Reads hexadecimal digits behind the number `n`. -/
def readHexFrom? (capital : Bool) : (n : Nat) → Text → Option Nat
  | n, [] => some n
  | n, c :: t => (hexValue? capital c).bind fun d => readHexFrom? capital (16 * n + d) t

/-- Reads a hexadecimal number of one digit or more. -/
def readHex? (capital : Bool) (t : Text) : Option Nat := if t.isEmpty then none else readHexFrom? capital 0 t

/-- The text in capitals, if they are asked for. -/
def inCase (capital : Bool) (t : Text) : Text := t.map fun c => if capital then c.toUpper else c

variable (capital : Bool)

theorem inCase_eq (t : Text) : inCase capital t = if capital then asciiUpper t else t := by
  cases capital with
  | false => exact List.map_id t
  | true => rfl

theorem inCase_append (a b : Text) : inCase capital (a ++ b) = inCase capital a ++ inCase capital b := List.map_append

theorem length_inCase (t : Text) : (inCase capital t).length = t.length := List.length_map ..

theorem hexValue?_digitChar {d : Nat} (hd : d < 16) :
    hexValue? capital (if capital then d.digitChar.toUpper else d.digitChar) = some d := by
  revert d
  cases capital <;> decide

theorem readHexFrom?_append (n : Nat) (a b : Text) :
    readHexFrom? capital n (a ++ b) = (readHexFrom? capital n a).bind fun m => readHexFrom? capital m b := by
  induction a generalizing n with
  | nil => rfl
  | cons c a ih =>
    rw [List.cons_append, readHexFrom?, readHexFrom?]
    cases hexValue? capital c with
    | none => rfl
    | some d => exact ih _

theorem readHexFrom?_digit {d : Nat} (hd : d < 16) (n : Nat) :
    readHexFrom? capital n (inCase capital [d.digitChar]) = some (16 * n + d) := by
  rw [inCase, List.map_singleton, readHexFrom?, hexValue?_digitChar capital hd]
  rfl

theorem readHexFrom?_zeros (k : Nat) : readHexFrom? capital 0 (inCase capital (List.replicate k '0')) = some 0 := by
  induction k with
  | zero => cases capital <;> rfl
  | succ k ih =>
    rw [List.replicate_succ', inCase_append, readHexFrom?_append, ih]
    exact readHexFrom?_digit capital (d := 0) (by decide) 0

theorem readHexFrom?_toDigits (n : Nat) :
    readHexFrom? capital 0 (inCase capital (Nat.toDigits 16 n)) = some n := by
  induction n using Nat.strong_induction_on with
  | _ n ih =>
    by_cases hn : n < 16
    · rw [Nat.toDigits_of_lt_base hn, readHexFrom?_digit capital hn, Nat.mul_zero, Nat.zero_add]
    · rw [Nat.toDigits_of_base_le (by decide) (Nat.not_lt.1 hn), inCase_append, readHexFrom?_append,
        ih _ (by omega), Option.bind_some, readHexFrom?_digit capital (Nat.mod_lt _ (by decide)), Nat.div_add_mod]

/-- Hexadecimal digits behind zeros are read back. -/
theorem readHex?_padLeft (width n : Nat) :
    readHex? capital (inCase capital (padLeft width '0' (Nat.toDigits 16 n))) = some n := by
  have hne : (inCase capital (padLeft width '0' (Nat.toDigits 16 n))).isEmpty = false := by
    rw [List.isEmpty_eq_false_iff, ← List.length_pos_iff, length_inCase, length_padLeft]
    exact Nat.lt_of_lt_of_le Nat.length_toDigits_pos (Nat.le_max_right ..)
  rw [readHex?, hne, if_neg Bool.false_ne_true, padLeft, inCase_append, readHexFrom?_append, readHexFrom?_zeros,
    Option.bind_some, readHexFrom?_toDigits]

end Text

/-! ## Integers under a specifier -/

namespace Display

open Text (inCase readHex?)

variable {precision : Option Nat}

theorem format_integer_standard (i : Int64Value) (h : ∀ p ∈ precision, p ≤ greatestPrecision) {letter : Char}
    (hletter : isAsciiLetter letter = true) {shown : Text}
    (hshown : standard (.integer i.1) letter precision = some shown) :
    (Value.integer i).format (specifier letter precision) = .ok shown := by
  rw [Value.format, if_neg (by simp [specifier])]
  simp only [Value.underSpec?, Display.number, standardSpec?_specifier hletter h, hshown]

theorem standard_D (i : Int) (h : ∀ p ∈ precision, p ≤ greatestPrecision) :
    standard (.integer i) 'D' precision =
      some (if i < 0 then '-' :: Text.padLeft (precision.getD 0) '0' (Text.ofNat i.natAbs)
        else Text.padLeft (precision.getD 0) '0' (Text.ofNat i.natAbs)) := by
  have hletter : 'D'.toUpper = 'D' := by decide
  unfold standard
  rw [if_neg (any_precision h), hletter]
  rfl

theorem standard_X (i : Int) (capital : Bool) (h : ∀ p ∈ precision, p ≤ greatestPrecision) :
    standard (.integer i) (if capital then 'X' else 'x') precision =
      some (inCase capital (Text.padLeft (precision.getD 0) '0' (hexDigits i))) := by
  have hletter : (if capital then 'X' else 'x').toUpper = 'X' := by cases capital <;> decide
  have hcapital : (if capital then 'X' else 'x').isUpper = capital := by cases capital <;> decide
  unfold standard
  rw [if_neg (any_precision h), hletter]
  simp only [hcapital]
  rw [Text.inCase_eq]

/-- An integer of 64 bits is the two's complement of the word that it is shown as. -/
theorem hexDigits_word (i : Int64Value) :
    ∃ word : BitVec 64, hexDigits i.1 = Nat.toDigits 16 word.toNat ∧ word.toInt = i.1 := by
  refine ⟨BitVec.ofInt 64 i.1, ?_, ?_⟩
  · rw [hexDigits, BitVec.toNat_ofInt]
    rfl
  · have hlow := i.2.1
    have hhigh := i.2.2
    simp only [Integer.least, Integer.greatest] at hlow hhigh
    rw [BitVec.toInt_ofInt]
    exact Int.bmod_eq_of_le (by omega) (by omega)

/-- **Whole numbers with leading zeros.** `D` shows the decimal digits of an integer, behind a minus sign exactly if it
is negative; `X` and `x` show the word of 64 bits that is the integer in two's complement, in capitals and in small
letters. What is shown is read back, and has as many digits as the number needs, or as the precision asks for if these
are more; so the digits in front of the number are zeros. -/
theorem format_radix (i : Int64Value) (h : ∀ p ∈ precision, p ≤ 99) :
    (∃ digits : Text,
      (Value.integer i).format (specifier 'D' precision) = .ok (if i.1 < 0 then '-' :: digits else digits) ∧
      IsDigits digits ∧ Integer.read (if i.1 < 0 then '-' :: digits else digits) = .ok i.1 ∧
      digits.length = max (precision.getD 0) (Nat.log 10 i.1.natAbs + 1)) ∧
    ∀ capital : Bool, ∃ (shown : Text) (word : BitVec 64),
      (Value.integer i).format (specifier (if capital then 'X' else 'x') precision) = .ok shown ∧
      readHex? capital shown = some word.toNat ∧ word.toInt = i.1 ∧
      shown.length = max (precision.getD 0) (Nat.log 16 word.toNat + 1) := by
  refine ⟨?_, fun capital => ?_⟩
  · have hdigits : IsDigits (Text.padLeft (precision.getD 0) '0' (Text.ofNat i.1.natAbs)) :=
      Text.isDigits_padLeft (Text.isDigits_ofNat _) _
    have hlength : (Text.padLeft (precision.getD 0) '0' (Text.ofNat i.1.natAbs)).length =
        max (precision.getD 0) (Nat.log 10 i.1.natAbs + 1) := by
      rw [Text.length_padLeft, Text.ofNat, Text.length_toDigits (by decide)]
    have hread := Integer.readIn_signed hdigits (List.ne_nil_of_length_pos (by omega)) i.2
      (by rw [Text.natOfDigits_padLeft, Text.natOfDigits_ofNat])
    exact ⟨_, format_integer_standard i h (by decide) (standard_D i.1 h), hdigits, hread, hlength⟩
  · obtain ⟨word, hword, hvalue⟩ := hexDigits_word i
    have hshown := format_integer_standard i h (by cases capital <;> decide) (standard_X i.1 capital h)
    rw [hword] at hshown
    refine ⟨_, word, hshown, Text.readHex?_padLeft .., hvalue, ?_⟩
    rw [Text.length_inCase, Text.length_padLeft, Text.length_toDigits (by decide)]

/-- The least integer, of which the magnitude is no integer of 64 bits. -/
theorem format_radix_least :
    let i : Int64Value := ⟨Integer.least, by decide⟩
    (∀ p ∈ some 20, p ≤ 99) ∧
      (Value.integer i).format "D20".toList = .ok "-09223372036854775808".toList ∧
      Integer.read "-09223372036854775808".toList = .ok i.1 ∧
      (Value.integer i).format "x20".toList = .ok "00008000000000000000".toList ∧
      ∃ word : BitVec 64, readHex? false "00008000000000000000".toList = some word.toNat ∧ word.toInt = i.1 := by
  intro i
  have hprecision : ∀ p ∈ some 20, p ≤ 99 := by decide
  have hdecimal : (Value.integer i).format (specifier 'D' (some 20)) = .ok "-09223372036854775808".toList := by
    decide +kernel
  have hhex : (Value.integer i).format (specifier 'x' (some 20)) = .ok "00008000000000000000".toList := by
    decide +kernel
  obtain ⟨⟨digits, hdecimal', -, hread, -⟩, hword⟩ := format_radix i hprecision
  obtain ⟨shown, word, hhex', hreadHex, hvalue, -⟩ := hword false
  obtain rfl := Except.ok.inj (hhex.symm.trans hhex')
  rw [hdecimal] at hdecimal'
  rw [← Except.ok.inj hdecimal'] at hread
  exact ⟨hprecision, hdecimal, hread, hhex, word, hreadHex, hvalue⟩

end Display

end Placeholder
