/-
Whole numbers of 64 bits as binary numbers. Up to `2 ^ 53` there is a binary number for each of them, and its shortest
text is theirs (`toText_ofNat`). A greater one is rounded to a multiple of a power of two, which is whole again and does
not go past a power of ten that the number itself does not exceed (`ofNat_whole`): that power is such a multiple too.
-/
import Placeholder.Proofs.Number.Shortest

namespace Placeholder.Binary64

/-- The number without its sign; what is not finite counts as zero. -/
def magnitude : Binary64 → ℚ
  | finite _ m e _ => m * 2 ^ e
  | _ => 0

theorem ofNat_zero : ofNat 0 = finite false 0 (-1074) (by decide) := by decide

section

variable {n : ℕ} (hn : n ≠ 0) (hlt : n < 2 ^ 64)
include hn hlt

/-- A whole number is kept, or rounded to a multiple of a power of two. -/
theorem ofNat_finite : ∃ m e h, ofNat n = finite false m e h ∧ ((m : ℚ) * 2 ^ e = n ∨
    ∃ k count : ℕ, 0 < k ∧ k ≤ 11 ∧ 2 ^ (k + 52) ≤ n ∧ (m : ℚ) * 2 ^ e = (count * 2 ^ k : ℕ) ∧
      (∀ c, c * 2 ^ k ≤ n → c ≤ count) ∧ ∀ c, n ≤ c * 2 ^ k → count ≤ c) := by
  have hden : 0 < (Ratio.ofNat n).den := Nat.one_pos
  obtain ⟨u, hunit, -⟩ := nearestParts_eq (r := Ratio.ofNat n) hn hden
  have hlow := hunit.low
  rw [Ratio.value_ofNat] at hlow
  have hu : u ≤ 11 := by
    rcases hlow with h | h
    · have hltq : (n : ℚ) < 2 ^ (64 : ℤ) := by exact_mod_cast hlt
      have hpow := (zpow_lt_zpow_iff_right₀ (by norm_num : (1 : ℚ) < 2)).1 (h.trans_lt hltq)
      omega
    · omega
  obtain ⟨m, e, h, hnearest, hvalue⟩ := nearest_finite hn hden hunit (by omega) false
  refine ⟨m, e, h, hnearest, ?_⟩
  have hpos : 0 < ((Ratio.ofNat n).timesPower 2 (-u)).den := Ratio.den_timesPower_pos hden (by decide) (-u)
  have hscaled : ((Ratio.ofNat n).timesPower 2 (-u)).value = n / 2 ^ u := by
    rw [value_in_units, Ratio.value_ofNat]
  rw [hvalue]
  rcases le_or_gt u 0 with hneg | hup
  · -- a unit that divides one divides every whole number
    obtain ⟨k, rfl⟩ : ∃ k : ℕ, u = -k := ⟨(-u).toNat, by omega⟩
    refine .inl ?_
    have hwhole : ((Ratio.ofNat n).timesPower 2 (- -(k : ℤ))).halfEven = n * 2 ^ k := by
      refine Ratio.halfEven_eq hpos ?_
      rw [hscaled, zpow_neg, zpow_natCast, div_inv_eq_mul]
      push_cast
      rfl
    rw [hwhole, zpow_neg, zpow_natCast]
    push_cast
    rw [mul_assoc, mul_inv_cancel₀ (by positivity), mul_one]
  · obtain ⟨k, rfl⟩ := Int.eq_ofNat_of_zero_le hup.le
    rw [zpow_natCast] at hscaled
    have hk : (0 : ℚ) < 2 ^ k := by positivity
    refine .inr ⟨k, ((Ratio.ofNat n).timesPower 2 (-k)).halfEven, by omega, by omega, ?_, ?_, fun c hc => ?_,
      fun c hc => ?_⟩
    · rcases hlow with hlow | hleast
      · exact_mod_cast hlow
      · omega
    · rw [zpow_natCast]
      push_cast
      rfl
    · refine Ratio.le_halfEven hpos ?_
      rw [hscaled, le_div_iff₀ hk]
      exact_mod_cast hc
    · refine Ratio.halfEven_le hpos ?_
      rw [hscaled, div_le_iff₀ hk]
      exact_mod_cast hc

/-- The binary number nearest to a whole number is whole. It is the number itself up to `2 ^ 53`, and not beyond a power
of ten that the number does not exceed. -/
theorem ofNat_whole : ∃ m e h, ofNat n = finite false m e h ∧ m ≠ 0 ∧ ∃ near : ℕ, (m : ℚ) * 2 ^ e = near ∧
    (n ≤ 2 ^ 53 → near = n) ∧ ∀ p, n ≤ 10 ^ p → near ≤ 10 ^ p := by
  obtain ⟨m, e, h, hnearest, hcases⟩ := ofNat_finite hn hlt
  suffices hnear : ∃ near : ℕ, near ≠ 0 ∧ (m : ℚ) * 2 ^ e = near ∧ (n ≤ 2 ^ 53 → near = n) ∧
      ∀ p, n ≤ 10 ^ p → near ≤ 10 ^ p by
    obtain ⟨near, hne, hvalue, hbounds⟩ := hnear
    refine ⟨m, e, h, hnearest, ?_, near, hvalue, hbounds⟩
    rintro rfl
    rw [Nat.cast_zero, zero_mul] at hvalue
    exact hne (by exact_mod_cast hvalue.symm)
  rcases hcases with hexact | ⟨k, count, hk, hk11, hlarge, hvalue, hge, hle⟩
  · exact ⟨n, hn, hexact, fun _ => rfl, fun p hp => hp⟩
  · have hpow : 2 ^ k ≤ n := (Nat.pow_le_pow_right (by decide) (Nat.le_add_right k 52)).trans hlarge
    have hcount : 1 ≤ count := hge 1 (by omega)
    have hfactor : 0 < 2 ^ k := Nat.pow_pos (by decide)
    refine ⟨count * 2 ^ k, (Nat.mul_pos hcount hfactor).ne', hvalue, fun hsmall => ?_, fun p hp => ?_⟩
    · obtain rfl : k = 1 := by
        have := (Nat.pow_le_pow_iff_right (by decide : 1 < 2)).1 (hlarge.trans hsmall)
        omega
      obtain rfl : n = 2 ^ 53 := le_antisymm hsmall hlarge
      have hlow := hge (2 ^ 52) (by decide)
      have hhigh := hle (2 ^ 52) (by decide)
      omega
    · -- from `2 ^ 53` on a power of ten has sixteen factors of two
      have hp16 : 16 ≤ p := by
        by_contra hsmall
        have hten : 10 ^ p ≤ 10 ^ 15 := Nat.pow_le_pow_right (by decide) (by omega)
        have htwo : 2 ^ 53 ≤ 2 ^ (k + 52) := Nat.pow_le_pow_right (by decide) (by omega)
        omega
      have hdvd : 2 ^ k ∣ 10 ^ p := (pow_dvd_pow 2 (by omega : k ≤ p)).trans (pow_dvd_pow_of_dvd (by decide) p)
      obtain ⟨c, hc⟩ := hdvd
      rw [Nat.mul_comm] at hc
      rw [hc] at hp ⊢
      exact Nat.mul_le_mul_right _ (hle c hp)

end

/-- There is a binary number for each whole number up to `2 ^ 53`. -/
theorem ofNat_exact {n : ℕ} (h : n ≤ 2 ^ 53) :
    ∃ m e hcanonical, ofNat n = finite false m e hcanonical ∧ (m : ℚ) * 2 ^ e = n := by
  rcases eq_or_ne n 0 with rfl | hn
  · exact ⟨0, -1074, _, ofNat_zero, by rw [Nat.cast_zero, zero_mul]⟩
  · obtain ⟨m, e, hcanonical, hnearest, -, near, hvalue, hexact, -⟩ := ofNat_whole hn (h.trans_lt (by decide))
    exact ⟨m, e, hcanonical, hnearest, by rw [hvalue, hexact h]⟩

theorem magnitude_ofNat {n : ℕ} (h : n ≤ 2 ^ 53) : (ofNat n).magnitude = n := by
  obtain ⟨m, e, hcanonical, hnearest, hvalue⟩ := ofNat_exact h
  rw [hnearest, magnitude, hvalue]

/-- The shortest text of a whole number consists of digits. -/
theorem toText_whole {m : ℕ} {e : ℤ} (hm : m ≠ 0) (h : Canonical m e) {n : ℕ} (hn : (m : ℚ) * 2 ^ e = n) :
    ∃ near : ℕ, near ≠ 0 ∧ (finite false m e h).toText = Text.ofNat near := by
  have hexponent := exponent_shortest_nonneg hm h.1 hn
  have hwhole := Decimals.value_of_exponent hexponent
  have hdigits := Nat.pos_of_ne_zero (digits_shortest_ne_zero (e := e) hm h.1)
  have hnonzero : (shortest m e).digits * 10 ^ (shortest m e).exponent.toNat ≠ 0 :=
    (Nat.mul_pos hdigits (by positivity)).ne'
  exact ⟨_, hnonzero, Decimals.positional_whole hnonzero hexponent hwhole⟩

/-- **Whole numbers up to `2 ^ 53`** have their own text as the shortest one. -/
theorem toText_ofNat {n : ℕ} (h : n ≤ 2 ^ 53) : (ofNat n).toText = Text.ofNat n := by
  rcases h.lt_or_eq with hlt | rfl
  · rcases eq_or_ne n 0 with rfl | hn
    · decide
    obtain ⟨m, e, hcanonical, hnearest, hm, near, hvalue, hexact, -⟩ :=
      ofNat_whole hn (hlt.trans (by decide))
    rw [hexact h] at hvalue
    have he : e ≤ 0 := by
      by_contra hpositive
      obtain ⟨k, rfl⟩ := Int.eq_ofNat_of_zero_le (not_le.1 hpositive).le
      have hlarge : 2 ^ 52 ≤ m := hcanonical.2.2.2.resolve_right (by omega)
      rw [zpow_natCast] at hvalue
      have hproduct : m * 2 ^ k = n := by exact_mod_cast hvalue
      have htwo : 2 ^ 1 ≤ 2 ^ k := Nat.pow_le_pow_right (by decide) (by omega)
      have hmul := Nat.mul_le_mul hlarge htwo
      omega
    rw [hnearest]
    exact Decimals.positional_whole hn (exponent_shortest_nonneg hm hcanonical.1 hvalue)
      (value_shortest_whole hm hcanonical.1 he hvalue)
  · decide +kernel

end Placeholder.Binary64
