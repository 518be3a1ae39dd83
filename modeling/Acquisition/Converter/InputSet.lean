/-
# Acquisition.Converter.InputSet — sets of inputs to scan

An `InputSet` holds inputs below sixteen as the bits of a word. An input of
sixteen or more has no place in it; the first one asked for is remembered as
`stray`, so that the set can be turned down instead of standing for other inputs
than were asked for.

`mem_toList` says which inputs are listed, `toList_sorted` that they are listed in
ascending order, `contains_insert` and `stray_insert` what an insertion does.
-/

import Acquisition.Bits

namespace Acquisition.Converter

set_option autoImplicit false

/-- A set of inputs below sixteen, with the first input asked for that did not fit. -/
structure InputSet where
  bits : UInt16 := 0
  stray : Option UInt8 := none
  deriving DecidableEq

namespace InputSet

/-- The set of the given bits. -/
def ofBits (bits : UInt16) : InputSet :=
  ⟨bits, none⟩

/-- Whether an input is in the set. -/
def contains (set : InputSet) (input : UInt8) : Bool :=
  set.bits.toNat.testBit input.toNat

/-- Adds an input, or remembers it as stray if it is the first that does not fit. -/
def insert (set : InputSet) (input : UInt8) : InputSet :=
  if input < 16 then
    { set with bits := UInt16.ofNat (Bits.insert set.bits.toNat input.toNat) }
  else
    { set with stray := set.stray <|> some input }

/-- The set of the listed inputs. -/
def ofList (inputs : List UInt8) : InputSet :=
  inputs.foldl insert {}

/-- The inputs in the set, lowest first. -/
def toList (set : InputSet) : List UInt8 :=
  (Bits.members 16 set.bits.toNat).map UInt8.ofNat

/-- How many inputs are in the set. -/
def count (set : InputSet) : Nat :=
  Bits.population 16 set.bits.toNat

/-- Whether no input is in the set. -/
def isEmpty (set : InputSet) : Bool :=
  set.bits == 0

/-- The highest input in the set. -/
def last (set : InputSet) : Option UInt8 :=
  (Bits.highest set.bits.toNat).map UInt8.ofNat

theorem mem_toList (set : InputSet) (input : UInt8) :
    input ∈ set.toList ↔ set.contains input = true := by
  simp only [toList, List.mem_map, Bits.mem_members, contains]
  constructor
  · rintro ⟨position, ⟨small, found⟩, rfl⟩
    rw [UInt8.toNat_ofNat', Nat.mod_eq_of_lt (by omega)]
    exact found
  · intro found
    have small : input.toNat < 16 := Bits.lt_of_testBit set.bits.toNat_lt found
    exact ⟨input.toNat, ⟨small, found⟩, UInt8.ofNat_toNat⟩

theorem toList_sorted (set : InputSet) : set.toList.Pairwise (· < ·) := by
  simp only [toList, List.pairwise_map]
  refine (Bits.members_sorted 16 set.bits.toNat).imp_of_mem ?_
  intro low high lowMem highMem below
  have lowSmall := ((Bits.mem_members ..).1 lowMem).1
  have highSmall := ((Bits.mem_members ..).1 highMem).1
  rw [UInt8.lt_iff_toNat_lt, UInt8.toNat_ofNat', UInt8.toNat_ofNat']
  omega

/-- An insertion adds the input if it fits, and no other. -/
theorem contains_insert (set : InputSet) (input other : UInt8) :
    (set.insert input).contains other =
      (set.contains other || decide (input < 16 ∧ input = other)) := by
  by_cases fits : input < 16
  · have position : input.toNat < 16 := by simpa [UInt8.lt_iff_toNat_lt] using fits
    have bounded : Bits.insert set.bits.toNat input.toNat < 2 ^ 16 :=
      Nat.or_lt_two_pow set.bits.toNat_lt (Nat.pow_lt_pow_right (by decide) position)
    have kept := UInt16.toNat_ofNat_of_lt' bounded
    simp only [insert, contains, if_pos fits, kept, Bits.testBit_insert]
    simp [fits, UInt8.toNat_inj]
  · simp [insert, fits, contains]

/-- The first input that does not fit stays remembered. -/
theorem stray_insert (set : InputSet) (input : UInt8) :
    (set.insert input).stray = if input < 16 then set.stray else set.stray <|> some input := by
  by_cases fits : input < 16 <;> simp [insert, fits]

/-- **Counting agrees with listing.** -/
theorem length_toList (set : InputSet) : set.toList.length = set.count := by
  simp [toList, count, Bits.length_members]

theorem count_le (set : InputSet) : set.count ≤ 16 := by
  have filtered := List.length_filter_le set.bits.toNat.testBit (List.range 16)
  rwa [List.length_range, ← Bits.members, Bits.length_members] at filtered

/-- The highest input is one of the set. -/
theorem mem_of_last {set : InputSet} {top : UInt8} (found : set.last = some top) :
    top ∈ set.toList := by
  simp only [last, Option.map_eq_some_iff] at found
  obtain ⟨position, highest, rfl⟩ := found
  have member := Bits.testBit_highest highest
  have small : position < 16 := Bits.lt_of_testBit set.bits.toNat_lt member
  exact List.mem_map.2 ⟨position, (Bits.mem_members ..).2 ⟨small, member⟩, rfl⟩

end InputSet

end Acquisition.Converter
