/-
# Acquisition.Proofs.Truncation — what a fraction is written as

A fraction is written with a fixed count of places, the rest being cut off. `towardsZero` says on
rational numbers what cutting off is, and `reading?` what number a text of digits with a point in
it stands for. Neither knows how the text is made: `units_eq_towardsZero` and `reading_quotient`
are what ties them to it, for any count of places and any two integers.

The text is made from an integer by splitting it in two. What it reads as comes from the parts
being quotient and rest of one division, and its shape from each part being digits only: the first
with no zero in front, the second filled up to the count of places.

`fraction_written` puts this together for fractions of two words of 32 bits, for which words of 64
bits are enough on the way.
-/
import Acquisition.Value
import Mathlib.Data.Rat.Floor
import Mathlib.Tactic.FieldSimp
import Mathlib.Tactic.Linarith
import Mathlib.Tactic.Ring

namespace Acquisition

set_option autoImplicit false

/-! ## Cutting off -/

/-- The whole number next to a rational number on the side of zero. -/
def towardsZero (number : ℚ) : ℤ :=
  if 0 ≤ number then ⌊number⌋ else ⌈number⌉

theorem towardsZero_of_nonneg {number : ℚ} (nonneg : 0 ≤ number) :
    towardsZero number = ⌊number⌋ :=
  if_pos nonneg

theorem towardsZero_of_nonpos {number : ℚ} (nonpos : number ≤ 0) :
    towardsZero number = ⌈number⌉ := by
  rcases lt_or_eq_of_le nonpos with negative | zero
  · exact if_neg (not_le.2 negative)
  · rw [zero]
    rfl

theorem towardsZero_neg (number : ℚ) : towardsZero (-number) = -towardsZero number := by
  rcases le_total 0 number with nonneg | nonpos
  · rw [towardsZero_of_nonneg nonneg, towardsZero_of_nonpos (neg_nonpos.2 nonneg), Int.ceil_neg]
  · rw [towardsZero_of_nonpos nonpos, towardsZero_of_nonneg (neg_nonneg.2 nonpos), Int.floor_neg]

theorem towardsZero_mono {low high : ℚ} (ordered : low ≤ high) :
    towardsZero low ≤ towardsZero high := by
  rcases le_total 0 low with nonneg | nonpos
  · rw [towardsZero_of_nonneg nonneg, towardsZero_of_nonneg (nonneg.trans ordered)]
    exact Int.floor_le_floor ordered
  rw [towardsZero_of_nonpos nonpos]
  rcases le_total high 0 with below | above
  · rw [towardsZero_of_nonpos below]
    exact Int.ceil_le_ceil ordered
  · rw [towardsZero_of_nonneg above]
    calc ⌈low⌉ ≤ 0 := Int.ceil_le.2 (by simpa using nonpos)
      _ ≤ ⌊high⌋ := Int.floor_nonneg.2 above

/-- Less than one is cut off. -/
theorem abs_towardsZero_sub_lt (number : ℚ) : |towardsZero number - number| < 1 := by
  rw [abs_lt]
  rcases le_total 0 number with nonneg | nonpos
  · rw [towardsZero_of_nonneg nonneg]
    have low := Int.floor_le number
    have high := Int.lt_floor_add_one number
    constructor <;> linarith
  · rw [towardsZero_of_nonpos nonpos]
    have low := Int.le_ceil number
    have high := Int.ceil_lt_add_one number
    constructor <;> linarith

/-- Less than a unit is cut off, whatever the unit. -/
theorem abs_towardsZero_div_sub_lt (number : ℚ) {units : ℚ} (positive : 0 < units) :
    |(towardsZero (number * units) : ℚ) / units - number| < 1 / units := by
  have cut := abs_towardsZero_sub_lt (number * units)
  calc |(towardsZero (number * units) : ℚ) / units - number|
      = |(towardsZero (number * units) - number * units) / units| := by
        rw [sub_div, mul_div_cancel_right₀ _ positive.ne']
    _ = |towardsZero (number * units) - number * units| / units := by
        rw [abs_div, abs_of_pos positive]
    _ < 1 / units := by gcongr

/-- Dividing integers with the rest having the sign of what is divided is cutting off. -/
theorem tdiv_eq_towardsZero (numerator denominator : Int) :
    numerator.tdiv denominator = towardsZero (numerator / denominator) := by
  have natural (above below : Nat) :
      Int.tdiv above below = towardsZero ((above : ℤ) / (below : ℤ)) := by
    rw [towardsZero_of_nonneg (by positivity), Int.tdiv_eq_ediv_of_nonneg (Int.natCast_nonneg _),
      Int.cast_natCast below, Rat.floor_intCast_div_natCast]
  obtain ⟨above, rfl | rfl⟩ := numerator.eq_nat_or_neg <;>
    obtain ⟨below, rfl | rfl⟩ := denominator.eq_nat_or_neg <;>
    simp only [Int.neg_tdiv, Int.tdiv_neg, Int.cast_neg, neg_div, div_neg, neg_neg,
      towardsZero_neg, natural]

/-! ## Digits -/

/-- Whether the text of a whole number is as short as it can be: digits, and a zero in front only
if it is the only one. -/
structure IsNumeral (chars : List Char) : Prop where
  digits : ∀ char ∈ chars, char.isDigit = true
  nonempty : chars ≠ []
  shortest : chars.head? = some '0' → chars = ['0']

theorem isNumeral_toDigits (number : Nat) : IsNumeral (Nat.toDigits 10 number) where
  digits _ member := Nat.isDigit_of_mem_toDigits (by decide) (by decide) member
  nonempty := Nat.toDigits_ne_nil
  shortest := by
    induction number using Nat.strongRecOn with
    | _ number shorter =>
      rw [Nat.toDigits_eq_if (by decide)]
      split
      · simp
      · next large =>
          -- the digits in front are those of a tenth, which would be zero
          intro zero
          rw [List.head?_append_of_ne_nil _ Nat.toDigits_ne_nil] at zero
          have alone := shorter (number / 10) (by omega) zero
          have tenth := congrArg (Nat.ofDigitChars 10 · 0) alone
          have nothing : Nat.ofDigitChars 10 ['0'] 0 = 0 := rfl
          simp only [Nat.ofDigitChars_ten_toDigits, nothing] at tenth
          omega

namespace Decimal

variable {width number : Nat}

theorem toList_padded (width number : Nat) : (padded width number).toList =
    List.replicate (width - (Nat.toDigits 10 number).length) '0' ++ Nat.toDigits 10 number :=
  String.toList_ofList

/-- Nothing is filled up where one digit is enough. -/
theorem toList_padded_one (number : Nat) : (padded 1 number).toList = Nat.toDigits 10 number := by
  have enough : 1 - (Nat.toDigits 10 number).length = 0 :=
    Nat.sub_eq_zero_of_le Nat.length_toDigits_pos
  rw [toList_padded, enough, List.replicate_zero, List.nil_append]

theorem length_padded (positive : 0 < width) (fits : number < 10 ^ width) :
    (padded width number).toList.length = width := by
  have short := (Nat.length_toDigits_le_iff (by decide) positive).2 fits
  rw [toList_padded, List.length_append, List.length_replicate, Nat.sub_add_cancel short]

theorem isDigit_padded : ∀ char ∈ (padded width number).toList, char.isDigit = true := by
  intro char member
  rw [toList_padded, List.mem_append] at member
  rcases member with filled | digit
  · rw [List.eq_of_mem_replicate filled]
    rfl
  · exact (isNumeral_toDigits number).digits char digit

theorem ofDigitChars_padded : Nat.ofDigitChars 10 (padded width number).toList 0 = number := by
  rw [toList_padded, Nat.ofDigitChars_append, Nat.ofDigitChars_replicate_zero, Nat.mul_zero,
    Nat.ofDigitChars_ten_toDigits]

theorem toList_point (places count : Nat) : (point places count).toList =
    (padded 1 (count / 10 ^ places)).toList ++
      '.' :: (padded places (count % 10 ^ places)).toList := by
  simp [point, toString]

/-- A decimal with no sign starts with a digit. -/
theorem head?_point (places count : Nat) : (point places count).toList.head? ≠ some '-' := by
  intro minus
  rw [toList_point, toList_padded_one,
    List.head?_append_of_ne_nil _ Nat.toDigits_ne_nil] at minus
  have digit := (isNumeral_toDigits _).digits _ (List.mem_of_head? minus)
  contradiction

theorem toList_quotient (places : Nat) (numerator denominator : Int) :
    let count := units places numerator denominator
    (quotient places numerator denominator).toList =
      (if count < 0 then ['-'] else []) ++ (point places count.natAbs).toList := by
  simp only [quotient, String.toList_append]
  split <;> rfl

theorem head?_quotient (places : Nat) (numerator denominator : Int) :
    (quotient places numerator denominator).toList.head? = some '-' ↔
      units places numerator denominator < 0 := by
  rw [toList_quotient]
  split
  · next negative => exact iff_of_true (List.head?_cons ..) negative
  · next nonneg =>
      rw [List.nil_append]
      exact iff_of_false (head?_point _ _) nonneg

/-- The parts of the text, between the sign and the point and behind it. -/
theorem quotient_shape {places : Nat} (positive : 0 < places) (numerator denominator : Int) :
    ∃ whole decimals, (quotient places numerator denominator).toList =
        (if units places numerator denominator < 0 then ['-'] else []) ++ whole ++
          '.' :: decimals ∧
      IsNumeral whole ∧ decimals.length = places ∧
      ∀ char ∈ decimals, char.isDigit = true := by
  have below (count : Nat) : count % 10 ^ places < 10 ^ places :=
    Nat.mod_lt _ (Nat.pow_pos (by decide))
  rw [toList_quotient, toList_point, toList_padded_one, ← List.append_assoc]
  exact ⟨_, _, rfl, isNumeral_toDigits _, length_padded positive (below _), isDigit_padded⟩

theorem units_eq_towardsZero (places : Nat) (numerator denominator : Int) :
    units places numerator denominator =
      towardsZero ((numerator / denominator : ℚ) * 10 ^ places) := by
  rw [units, tdiv_eq_towardsZero]
  congr 1
  push_cast
  ring

/-! ## Reading -/

/-- The number that digits with a point between them stand for. -/
def magnitude? (chars : List Char) : Option ℚ :=
  let whole := chars.takeWhile Char.isDigit
  match chars.dropWhile Char.isDigit with
  | '.' :: fraction =>
      if whole ≠ [] ∧ fraction ≠ [] ∧ fraction.all Char.isDigit then
        some ((Nat.ofDigitChars 10 whole 0 : ℚ) +
          Nat.ofDigitChars 10 fraction 0 / 10 ^ fraction.length)
      else none
  | _ => none

/-- The number that a decimal stands for, which may have a minus in front. -/
def reading? : List Char → Option ℚ
  | '-' :: chars => (magnitude? chars).map (- ·)
  | chars => magnitude? chars

theorem magnitude_append {whole fraction : List Char}
    (digits : ∀ char ∈ whole, char.isDigit = true) (first : whole ≠ [])
    (decimals : ∀ char ∈ fraction, char.isDigit = true) (last : fraction ≠ []) :
    magnitude? (whole ++ '.' :: fraction) = some ((Nat.ofDigitChars 10 whole 0 : ℚ) +
      Nat.ofDigitChars 10 fraction 0 / 10 ^ fraction.length) := by
  have front : (whole ++ '.' :: fraction).takeWhile Char.isDigit = whole := by
    rw [List.takeWhile_append_of_pos digits, List.takeWhile_cons_of_neg (by decide),
      List.append_nil]
  have back : (whole ++ '.' :: fraction).dropWhile Char.isDigit = '.' :: fraction := by
    rw [List.dropWhile_append_of_pos digits, List.dropWhile_cons_of_neg (by decide)]
  simp only [magnitude?, front, back]
  exact if_pos ⟨first, last, List.all_eq_true.2 decimals⟩

/-- The two parts are quotient and rest of one division, so nothing is lost between them. -/
theorem magnitude_point {places : Nat} (positive : 0 < places) (count : Nat) :
    magnitude? (point places count).toList = some ((count : ℚ) / 10 ^ places) := by
  have below : count % 10 ^ places < 10 ^ places := Nat.mod_lt _ (by positivity)
  have length := length_padded positive below
  have parts : (count : ℚ) =
      10 ^ places * (count / 10 ^ places : Nat) + (count % 10 ^ places : Nat) := by
    exact_mod_cast (Nat.div_add_mod count (10 ^ places)).symm
  have first : (padded 1 (count / 10 ^ places)).toList ≠ [] := by
    rw [toList_padded_one]
    exact Nat.toDigits_ne_nil
  have last : (padded places (count % 10 ^ places)).toList ≠ [] :=
    List.ne_nil_of_length_pos (by omega)
  rw [toList_point, magnitude_append isDigit_padded first isDigit_padded last, length,
    ofDigitChars_padded, ofDigitChars_padded, Option.some_inj, eq_div_iff (by positivity), add_mul,
    div_mul_cancel₀ _ (by positivity), parts, mul_comm]

/-- Without a minus in front, a decimal is its magnitude. -/
theorem reading_point (places count : Nat) :
    reading? (point places count).toList = magnitude? (point places count).toList := by
  unfold reading?
  split
  · next rest minus => exact absurd (congrArg List.head? minus) (head?_point places count)
  · rfl

/-- **What the text reads as** is the fraction cut off after the count of places. -/
theorem reading_quotient {places : Nat} (positive : 0 < places) (numerator denominator : Int) :
    reading? (quotient places numerator denominator).toList =
      some (towardsZero ((numerator / denominator : ℚ) * 10 ^ places) / 10 ^ places : ℚ) := by
  rw [toList_quotient, ← units_eq_towardsZero]
  generalize units places numerator denominator = count
  rcases lt_or_ge count 0 with negative | nonneg
  · have magnitude : ((count.natAbs : ℤ) : ℚ) = -count := by
      rw [Int.ofNat_natAbs_of_nonpos (le_of_lt negative), Int.cast_neg]
    simp only [if_pos negative, List.cons_append, List.nil_append, reading?,
      magnitude_point positive, Option.map_some, ← neg_div]
    rw [← Int.cast_natCast, magnitude, neg_neg]
  · have magnitude : ((count.natAbs : ℤ) : ℚ) = count := by
      rw [Int.natAbs_of_nonneg nonneg]
    simp only [if_neg (not_lt.2 nonneg), List.nil_append, reading_point, magnitude_point positive]
    rw [← Int.cast_natCast, magnitude]

end Decimal

/-! ## Fractions of words -/

namespace Value

/-- A numerator in units of the ninth place still fits into a word of 64 bits. -/
theorem toInt_scaled (numerator : Int32) :
    (numerator.toInt64 * 1000000000).toInt = numerator.toInt * 10 ^ 9 := by
  have low := numerator.le_toInt
  have high := numerator.toInt_lt
  have unit : (1000000000 : Int64).toInt = 10 ^ 9 := by decide
  rw [Int64.toInt_mul, Int32.toInt_toInt64, unit]
  exact Int.bmod_eq_of_le (by omega) (by omega)

/-- It is not the one word whose quotient by minus one does not fit. -/
theorem toInt_scaled_div (numerator denominator : Int32) :
    (numerator.toInt64 * 1000000000 / denominator.toInt64).toInt =
      Decimal.units places numerator.toInt denominator.toInt := by
  have room : numerator.toInt64 * 1000000000 ≠ Int64.minValue := by
    intro least
    have scaled := toInt_scaled numerator
    rw [least] at scaled
    have low := numerator.le_toInt
    have value : Int64.minValue.toInt = -2 ^ 63 := by decide
    omega
  rw [Int64.toInt_div_of_ne_left _ _ room, toInt_scaled, Int32.toInt_toInt64]
  rfl

variable {numerator denominator : Int32}

theorem text_fraction (nonzero : denominator ≠ 0) :
    (fraction numerator.toInt denominator.toInt).text =
      Decimal.quotient places numerator.toInt denominator.toInt :=
  if_neg fun zero => nonzero (Int32.toInt_inj.1 zero)

theorem reading_text (nonzero : denominator ≠ 0) :
    Decimal.reading? (fraction numerator.toInt denominator.toInt).text.toList =
      some (towardsZero ((numerator.toInt / denominator.toInt : ℚ) * 10 ^ 9) / 10 ^ 9 : ℚ) := by
  rw [text_fraction nonzero, Decimal.reading_quotient (by decide)]
  rfl

/-- **What a fraction is written as.** For any two words of 32 bits of which the second is not
zero, words of 64 bits hold everything on the way. The text has a minus just if what is left after
cutting off is negative, then a numeral, a point and nine digits. It reads as the fraction cut off
after the ninth place, so it is off by less than a unit of it, and a higher fraction does not read
as less. -/
theorem fraction_written (numerator denominator : Int32) (nonzero : denominator ≠ 0) :
    Decimal.units places numerator.toInt denominator.toInt =
      towardsZero ((numerator.toInt / denominator.toInt : ℚ) * 10 ^ 9) ∧
    let exact : ℚ := numerator.toInt / denominator.toInt
    let count := towardsZero (exact * 10 ^ 9)
    let text := (fraction numerator.toInt denominator.toInt).text.toList
    ((numerator.toInt64 * 1000000000).toInt = numerator.toInt * 10 ^ 9 ∧
      (numerator.toInt64 * 1000000000 / denominator.toInt64).toInt = count ∧
      count.natAbs < 2 ^ 64) ∧
    (∃ whole decimals,
      text = (if count < 0 then ['-'] else []) ++ whole ++ '.' :: decimals ∧
      IsNumeral whole ∧ decimals.length = 9 ∧ ∀ char ∈ decimals, char.isDigit = true) ∧
    (text.head? = some '-' ↔ count < 0) ∧ text ≠ "-0.000000000".toList ∧
    ∃ value : ℚ, Decimal.reading? text = some value ∧ value = count / 10 ^ 9 ∧
      |value - exact| < 1 / 10 ^ 9 ∧
      ∀ other divisor : Int32, divisor ≠ 0 → exact ≤ other.toInt / divisor.toInt →
        ∃ higher, Decimal.reading? (fraction other.toInt divisor.toInt).text.toList =
          some higher ∧ value ≤ higher := by
  refine ⟨Decimal.units_eq_towardsZero .., ?_⟩
  intro exact count text
  have units : Decimal.units places numerator.toInt denominator.toInt = count :=
    Decimal.units_eq_towardsZero ..
  have word := toInt_scaled_div numerator denominator
  have low := (numerator.toInt64 * 1000000000 / denominator.toInt64).le_toInt
  have high := (numerator.toInt64 * 1000000000 / denominator.toInt64).toInt_lt
  have written : text = (Decimal.quotient places numerator.toInt denominator.toInt).toList :=
    congrArg String.toList (text_fraction nonzero)
  have signed : text.head? = some '-' ↔ count < 0 := by
    rw [written, Decimal.head?_quotient, units]
  have read : Decimal.reading? text = some (count / 10 ^ 9 : ℚ) := reading_text nonzero
  refine ⟨⟨toInt_scaled numerator, word.trans units, by omega⟩, ?_, signed, ?_,
    _, read, rfl, ?_, ?_⟩
  · rw [written, ← units]
    exact Decimal.quotient_shape (by decide) _ _
  · -- it would read as zero, which has no minus
    intro zero
    have nothing : Decimal.reading? "-0.000000000".toList = some 0 := by decide +kernel
    have negative : (count : ℚ) < 0 := Int.cast_lt_zero.2 (signed.1 (by rw [zero]; rfl))
    rw [zero, nothing, Option.some_inj] at read
    linarith
  · exact abs_towardsZero_div_sub_lt exact (by positivity)
  · intro other divisor another ordered
    refine ⟨_, reading_text another, ?_⟩
    have cut := towardsZero_mono (mul_le_mul_of_nonneg_right ordered
      (by positivity : (0 : ℚ) ≤ 10 ^ 9))
    gcongr

/-- The least word over minus one, which is not a word itself, is written all the same. -/
theorem least_written : (-1 : Int32) ≠ 0 ∧
    Decimal.reading? (fraction Int32.minValue.toInt (-1 : Int32).toInt).text.toList =
      some 2147483648 := by
  obtain ⟨-, -, -, -, -, value, read, cut, -⟩ :=
    fraction_written Int32.minValue (-1) (by decide)
  have exact : ((Int32.minValue.toInt / (-1 : Int32).toInt : ℚ) * 10 ^ 9) =
      (2147483648000000000 : ℤ) := by
    have least : Int32.minValue.toInt = -2147483648 := by decide
    have minus : (-1 : Int32).toInt = -1 := by decide
    rw [least, minus]
    norm_num
  refine ⟨by decide, read.trans ?_⟩
  rw [cut, exact, towardsZero_of_nonneg (by norm_num), Int.floor_intCast]
  norm_num

/-- A quarter below zero keeps its minus, and half a unit of the last place has none. -/
example : (fraction (-1) 4).text = "-0.250000000" ∧
    (fraction (-1) 2000000000).text = "0.000000000" := by decide +kernel

end Value

end Acquisition
