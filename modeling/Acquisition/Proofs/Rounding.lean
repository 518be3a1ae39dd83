/-
# Acquisition.Proofs.Rounding — what a double is written as

A double is written with a fixed count of places, rounded to the nearest. `number?` says what number
its bits stand for, as a rational number, and `reading?` what number a decimal stands for. Neither
knows how the text is made: `reading_ofBits` says that the two are never further apart than half a
unit of the last place, and `blank_notMem_ofBits` that there is no blank in the text, so that
several of them in a line can be told apart.
-/
import Acquisition.Proofs.Truncation

namespace Acquisition.Decimal

set_option autoImplicit false

/-! ## The number behind the bits -/

/-- The number that the bits of a double stand for: a sign, eleven bits of an exponent, and
fifty-two of a fraction, in front of which stands a one unless the exponent is the lowest. The
highest exponent is that of infinities and of what is no number. -/
def number? (bits : UInt64) : Option ℚ :=
  let sign : ℚ := if bits.toNat < 2 ^ 63 then 1 else -1
  let exponent : Nat := bits.toNat / 2 ^ 52 % 2 ^ 11
  let fraction : Nat := bits.toNat % 2 ^ 52
  if exponent = 2 ^ 11 - 1 then none
  else if exponent = 0 then some (sign * (fraction * 2 ^ (-1074 : ℤ)))
  else some (sign * (((fraction + 2 ^ 52 : Nat) : ℚ) * 2 ^ ((exponent : ℤ) - 1075)))

theorem toNat_exponent (bits : UInt64) :
    ((bits >>> 52) &&& 0x7FF).toNat = bits.toNat / 2 ^ 52 % 2 ^ 11 := by
  rw [UInt64.toNat_and, UInt64.toNat_shiftRight, Nat.shiftRight_eq_div_pow]
  exact Nat.and_two_pow_sub_one_eq_mod _ 11

theorem toNat_fraction (bits : UInt64) :
    (bits &&& 0xFFFFFFFFFFFFF).toNat = bits.toNat % 2 ^ 52 := by
  rw [UInt64.toNat_and]
  exact Nat.and_two_pow_sub_one_eq_mod _ 52

theorem sign_eq (bits : UInt64) : (bits >>> 63 == 1) = !decide (bits.toNat < 2 ^ 63) := by
  have small := bits.toNat_lt
  rw [Bool.eq_iff_iff, beq_iff_eq, ← UInt64.toNat_inj, UInt64.toNat_shiftRight,
    Nat.shiftRight_eq_div_pow]
  simp
  omega

/-! ## Rounding -/

/-- A rounded quotient is off by at most half. -/
theorem abs_roundDiv_sub_le (numerator : Nat) {denominator : Nat} (positive : 0 < denominator) :
    |(roundDiv numerator denominator : ℚ) - numerator / denominator| ≤ 1 / 2 := by
  obtain ⟨low, high⟩ := roundDiv_near numerator denominator positive
  have below : (2 * numerator : ℚ) ≤
      2 * roundDiv numerator denominator * denominator + denominator := by exact_mod_cast low
  have above : (2 * roundDiv numerator denominator * denominator : ℚ) ≤
      2 * numerator + denominator := by exact_mod_cast high
  have room : (0 : ℚ) < denominator := by exact_mod_cast positive
  have least : (numerator : ℚ) / denominator ≤ roundDiv numerator denominator + 1 / 2 := by
    rw [div_le_iff₀ room]
    linarith
  have most : (roundDiv numerator denominator : ℚ) - 1 / 2 ≤ numerator / denominator := by
    rw [le_div_iff₀ room]
    linarith
  rw [abs_le]
  constructor <;> linarith

/-- What is written is off by at most half a unit. -/
theorem abs_roundBinary_sub_le (places significand : Nat) (exponent : ℤ) :
    |(roundBinary places significand exponent : ℚ) - significand * 2 ^ exponent * 10 ^ places| ≤
      1 / 2 := by
  cases exponent with
  | ofNat up =>
      simp only [roundBinary, Int.ofNat_eq_natCast, zpow_natCast]
      push_cast
      rw [sub_self, abs_zero]
      positivity
  | negSucc down =>
      have near := abs_roundDiv_sub_le (significand * 10 ^ places) (Nat.two_pow_pos (down + 1))
      have same : (significand : ℚ) * 2 ^ Int.negSucc down * 10 ^ places =
          ((significand * 10 ^ places : Nat) : ℚ) / ((2 ^ (down + 1) : Nat) : ℚ) := by
        rw [zpow_negSucc]
        push_cast
        ring
      rw [same]
      exact near

/-- A count of units that is off by half is off by half a unit. -/
theorem abs_count_sub_le {places count : Nat} {value : ℚ}
    (near : |(count : ℚ) - value * 10 ^ places| ≤ 1 / 2) :
    |(count : ℚ) / 10 ^ places - value| ≤ 1 / 2 / 10 ^ places := by
  have unit : (0 : ℚ) < 10 ^ places := by positivity
  calc |(count : ℚ) / 10 ^ places - value|
      = |((count : ℚ) - value * 10 ^ places) / 10 ^ places| := by
        rw [sub_div, mul_div_cancel_right₀ _ unit.ne']
    _ = |(count : ℚ) - value * 10 ^ places| / 10 ^ places := by
        rw [abs_div, abs_of_pos unit]
    _ ≤ 1 / 2 / 10 ^ places := by gcongr

/-! ## The text -/

/-- How the bits of a number are written. -/
theorem ofBits_eq {places : Nat} {bits : UInt64} {value : ℚ} (exact : number? bits = some value) :
    ∃ (significand : Nat) (exponent : ℤ),
      ofBits places bits = (if bits.toNat < 2 ^ 63 then "" else "-") ++
        point places (roundBinary places significand exponent) ∧
      value = (if bits.toNat < 2 ^ 63 then 1 else -1) * (significand * 2 ^ exponent) := by
  have sign : (if bits >>> 63 == 1 then "-" else "") =
      if bits.toNat < 2 ^ 63 then "" else "-" := by
    rw [sign_eq]
    split <;> simp_all
  have top (field : Nat) : (field == 0x7FF) = decide (field = 2 ^ 11 - 1) := by
    rw [Bool.eq_iff_iff, beq_iff_eq, decide_eq_true_iff]
    rfl
  rw [ofBits, sign, toNat_exponent, toNat_fraction]
  simp only [number?] at exact
  generalize bits.toNat / 2 ^ 52 % 2 ^ 11 = field at exact ⊢
  generalize bits.toNat % 2 ^ 52 = fraction at exact ⊢
  split at exact
  · cases exact
  · next inside =>
    have finite : (field == 0x7FF) = false := by
      rw [top, decide_eq_false_iff_not]
      exact inside
    simp only [finite, Bool.false_eq_true, if_false]
    split at exact
    · next low =>
        cases exact
        subst low
        refine ⟨fraction, -1074, ?_, rfl⟩
        have lowest : ((1 : Nat) : ℤ) - 1075 = -1074 := by decide
        simp only [beq_self_eq_true, if_true, lowest]
    · next high =>
        cases exact
        refine ⟨fraction + 2 ^ 52, (field : ℤ) - 1075, ?_, rfl⟩
        simp only [beq_iff_eq, high, if_false]

/-- **A double is written to the nearest.** What the text reads as and what the bits stand for are
never further apart than half a unit of the last place. -/
theorem reading_ofBits {places : Nat} (positive : 0 < places) {bits : UInt64} {value : ℚ}
    (exact : number? bits = some value) :
    ∃ shown, reading? (ofBits places bits).toList = some shown ∧
      |shown - value| ≤ 1 / 2 / 10 ^ places := by
  obtain ⟨significand, exponent, written, rfl⟩ := ofBits_eq exact
  have near := abs_count_sub_le (abs_roundBinary_sub_le places significand exponent)
  rw [written]
  split
  · refine ⟨(roundBinary places significand exponent : ℚ) / 10 ^ places, ?_, ?_⟩
    · rw [String.empty_append, reading_point, magnitude_point positive]
    · rw [one_mul]
      exact near
  · refine ⟨-((roundBinary places significand exponent : ℚ) / 10 ^ places), ?_, ?_⟩
    · have minus : "-".toList = ['-'] := by simp
      rw [String.toList_append, minus, List.singleton_append, reading?, magnitude_point positive,
        Option.map_some]
    · rw [neg_one_mul, neg_sub_neg, abs_sub_comm]
      exact near

/-- There is no blank in a decimal. -/
theorem blank_notMem_point (places count : Nat) : ' ' ∉ (point places count).toList := by
  have digit {width number : Nat} : ' ' ∉ (padded width number).toList := fun blank =>
    absurd (isDigit_padded ' ' blank) (by decide)
  rw [toList_point, List.mem_append, List.mem_cons, not_or, not_or]
  exact ⟨digit, by decide, digit⟩

/-- **There is no blank in the text of a double**, be it a number or not. -/
theorem blank_notMem_ofBits (places : Nat) (bits : UInt64) :
    ' ' ∉ (ofBits places bits).toList := by
  have sign : ' ' ∉ (if bits >>> 63 == 1 then "-" else "").toList := by
    split <;> decide
  rw [ofBits]
  split
  · split
    · rw [String.toList_append, List.mem_append, not_or]
      exact ⟨sign, by decide⟩
    · decide
  · rw [String.toList_append, List.mem_append, not_or]
    exact ⟨sign, blank_notMem_point _ _⟩

end Acquisition.Decimal
