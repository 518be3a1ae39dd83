/-
# Acquisition.Decimal — numbers written with a fixed count of decimal places

`quotient` writes a fraction cut off after a count of places, and `ofFloat` writes a
double rounded to a count of places, a half going to the even neighbour. Both work
on exact integers: a double is taken apart into its sign, significand and power of
two, so no digit depends on floating point arithmetic.
-/

import Acquisition.Power

namespace Acquisition.Decimal

set_option autoImplicit false

/-- The decimal digits of a number, filled up with zeros in front to a width. -/
def padded (width number : Nat) : String :=
  let digits := (Nat.toDigits 10 number)
  String.ofList (List.replicate (width - digits.length) '0' ++ digits)

/-- A count of units of the last place, written with its point. -/
def point (places units : Nat) : String :=
  let scale := 10 ^ places
  s!"{padded 1 (units / scale)}.{padded places (units % scale)}"

/-- A fraction in units of a decimal place, cut off towards zero. -/
def units (places : Nat) (numerator denominator : Int) : Int :=
  (numerator * 10 ^ places).tdiv denominator

/-- A fraction cut off after a count of places. The sign belongs to what is left
after cutting off, so zero has none. -/
def quotient (places : Nat) (numerator denominator : Int) : String :=
  let count := units places numerator denominator
  (if count < 0 then "-" else "") ++ point places count.natAbs

/-- Rounds a quotient to the nearest number, a half to the even neighbour. -/
def roundDiv (numerator denominator : Nat) : Nat :=
  let whole := numerator / denominator
  let twice := 2 * (numerator % denominator)
  if denominator < twice || (denominator == twice && whole % 2 == 1) then whole + 1 else whole

/-- The number `significand * 2 ^ exponent` in units of a decimal place, rounded. -/
def roundBinary (places significand : Nat) (exponent : Int) : Nat :=
  match exponent with
  | .ofNat up => significand * 2 ^ up * 10 ^ places
  | .negSucc down => roundDiv (significand * 10 ^ places) (2 ^ (down + 1))

/-- A double given by its bits, rounded to a count of places. -/
def ofBits (places : Nat) (bits : UInt64) : String :=
  let sign := if bits >>> 63 == 1 then "-" else ""
  let field := ((bits >>> 52) &&& 0x7FF).toNat
  let fraction := (bits &&& 0xFFFFFFFFFFFFF).toNat
  if field == 0x7FF then
    if fraction == 0 then sign ++ "inf" else "NaN"
  else
    let significand := if field == 0 then fraction else fraction + 2 ^ (52 : Nat)
    let exponent : Int := (if field == 0 then 1 else field : Nat) - 1075
    sign ++ point places (roundBinary places significand exponent)

/-- A double rounded to a count of places. -/
def ofFloat (places : Nat) (number : Float) : String :=
  ofBits places number.toBits

/-- Rounding is off by at most half. -/
theorem roundDiv_near (numerator denominator : Nat) (positive : 0 < denominator) :
    2 * numerator ≤ 2 * (roundDiv numerator denominator) * denominator + denominator ∧
      2 * (roundDiv numerator denominator) * denominator ≤ 2 * numerator + denominator := by
  have parts := Nat.div_add_mod numerator denominator
  have rest := Nat.mod_lt numerator positive
  have swap : denominator * (numerator / denominator) =
      numerator / denominator * denominator := Nat.mul_comm ..
  simp only [roundDiv]
  split
  · next up =>
      have half : denominator ≤ 2 * (numerator % denominator) := by
        simp only [Bool.or_eq_true, decide_eq_true_eq, Bool.and_eq_true, beq_iff_eq] at up
        omega
      rw [Nat.mul_assoc, Nat.add_mul, Nat.one_mul]
      omega
  · next down =>
      have half : 2 * (numerator % denominator) ≤ denominator := by
        simp only [Bool.or_eq_true, decide_eq_true_eq, not_or] at down
        omega
      rw [Nat.mul_assoc]
      omega

end Acquisition.Decimal
