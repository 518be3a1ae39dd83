/-
# Acquisition.ScanMask — sets of scan indices

A `ScanMask` says which scan indices take part in a capture, as the bits of a word
of sixty-four. Indices that do not fit are left out.
-/

import Acquisition.Bits

namespace Acquisition

set_option autoImplicit false

/-- A set of scan indices below sixty-four. -/
structure ScanMask where
  bits : UInt64 := 0
  deriving DecidableEq, Inhabited

namespace ScanMask

/-- Whether an index is in the mask. -/
def contains (mask : ScanMask) (index : Nat) : Bool :=
  mask.bits.toNat.testBit index

/-- Adds an index that fits. -/
def insert (mask : ScanMask) (index : Nat) : ScanMask :=
  if index < 64 then ⟨UInt64.ofNat (Bits.insert mask.bits.toNat index)⟩ else mask

/-- The mask of the listed indices. -/
def ofList (indices : List Nat) : ScanMask :=
  indices.foldl insert {}

/-- The indices in the mask, lowest first. -/
def toList (mask : ScanMask) : List Nat :=
  Bits.members 64 mask.bits.toNat

/-- How many indices are in the mask. -/
def count (mask : ScanMask) : Nat :=
  Bits.population 64 mask.bits.toNat

/-- Whether no index is in the mask. -/
def isEmpty (mask : ScanMask) : Bool :=
  mask.bits == 0

theorem mem_toList (mask : ScanMask) (index : Nat) :
    index ∈ mask.toList ↔ mask.contains index = true := by
  simp only [toList, Bits.mem_members, contains, and_iff_right_iff_imp]
  exact Bits.lt_of_testBit mask.bits.toNat_lt

theorem toList_sorted (mask : ScanMask) : mask.toList.Pairwise (· < ·) :=
  Bits.members_sorted 64 mask.bits.toNat

/-- An insertion adds the index if it fits, and no other. -/
theorem contains_insert (mask : ScanMask) (index other : Nat) :
    (mask.insert index).contains other =
      (mask.contains other || decide (index < 64 ∧ index = other)) := by
  by_cases fits : index < 64
  · have bounded : Bits.insert mask.bits.toNat index < 2 ^ 64 :=
      Nat.or_lt_two_pow mask.bits.toNat_lt (Nat.pow_lt_pow_right (by decide) fits)
    have kept := UInt64.toNat_ofNat_of_lt' bounded
    simp only [insert, contains, if_pos fits, kept, Bits.testBit_insert]
    simp [fits]
  · simp [insert, fits, contains]

/-- **Counting agrees with listing.** -/
theorem length_toList (mask : ScanMask) : mask.toList.length = mask.count :=
  Bits.length_members 64 mask.bits.toNat

end ScanMask

end Acquisition
