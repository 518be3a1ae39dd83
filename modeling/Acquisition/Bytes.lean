/-
# Acquisition.Bytes — numbers as bytes, least significant first

`ofNat` writes a number in so many bytes and `toNat` reads bytes back. The two undo
each other: `toNat_ofNat` up to the size of the bytes, `ofNat_toNat` always.
-/

import Acquisition.Power

namespace Acquisition.Bytes

set_option autoImplicit false

/-- The most bytes that one block of memory can have. -/
def largestBlock : Nat := 2 ^ (63 : Nat) - 1

/-- The lowest so many bytes of a number, least significant first. -/
def ofNat : Nat → Nat → List UInt8
  | 0, _ => []
  | count + 1, number => UInt8.ofNat number :: ofNat count (number / 256)

/-- The number written in bytes, least significant first. -/
def toNat : List UInt8 → Nat
  | [] => 0
  | byte :: rest => byte.toNat + 256 * toNat rest

/-- A word in two bytes. -/
def ofWord (word : UInt16) : List UInt8 :=
  ofNat 2 word.toNat

/-- Words, two bytes each; a byte left over is dropped. -/
def toWords : List UInt8 → List UInt16
  | low :: high :: rest => UInt16.ofNat (toNat [low, high]) :: toWords rest
  | _ => []

/-- A time in eight bytes. -/
def ofTime (time : Int64) : List UInt8 :=
  ofNat 8 time.toUInt64.toNat

/-- The time written in eight bytes. -/
def toTime (bytes : List UInt8) : Int64 :=
  (UInt64.ofNat (toNat bytes)).toInt64

theorem length_ofNat : ∀ count number : Nat, (ofNat count number).length = count
  | 0, _ => rfl
  | count + 1, number => by simp [ofNat, length_ofNat count]

/-- Reading back what was written gives the part of the number that fitted. -/
theorem toNat_ofNat : ∀ count number : Nat, toNat (ofNat count number) = number % 256 ^ count
  | 0, number => by simp [ofNat, toNat, Nat.mod_one]
  | count + 1, number => by
      have split : number % 256 ^ (count + 1) =
          number % 256 + 256 * (number / 256 % 256 ^ count) := by
        rw [Nat.pow_succ', Nat.mod_mul]
      rw [split, ofNat, toNat, toNat_ofNat count, UInt8.toNat_ofNat']

/-- **Bytes that are read are written back the same.** -/
theorem ofNat_toNat : ∀ bytes : List UInt8, ofNat bytes.length (toNat bytes) = bytes
  | [] => rfl
  | byte :: rest => by
      have small := byte.toNat_lt
      have low : UInt8.ofNat (byte.toNat + 256 * toNat rest) = byte := by
        apply UInt8.toNat_inj.1
        rw [UInt8.toNat_ofNat']
        omega
      have high : (byte.toNat + 256 * toNat rest) / 256 = toNat rest := by omega
      rw [List.length_cons, toNat, ofNat, low, high, ofNat_toNat rest]

end Acquisition.Bytes
