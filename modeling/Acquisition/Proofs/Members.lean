/-
# Acquisition.Proofs.Members — sets of inputs and scan masks are sets in order

A set of inputs and a scan mask are one word each, and everything about them is worked out from
the word: what is in them by testing a bit, how much by adding bits up, the last by the size of
the word. `Listing` says what these have to do with each other: there is one list of all that is
in the set, in strictly ascending order, the set answers for each element by it, and counts it.
`listed_in_order` says that this is so after any insertions into any word, that the list then
holds what was in the word and those inserted that have a place in it, and that the last and the
first without a place are what they are called.
-/
import Acquisition.Proofs.Channels

namespace Acquisition

open Acquisition.Converter (InputSet)

set_option autoImplicit false

/-! ## The members of a word -/

namespace Bits

/-- **The highest member is listed last.** -/
theorem getLast?_members {width word : Nat} (small : word < 2 ^ width) :
    (members width word).getLast? = highest word := by
  cases found : highest word with
  | none =>
      have zero : word = 0 := by simpa [highest] using found
      simp [members, zero]
  | some top =>
      have held := testBit_highest found
      have member : top ∈ members width word :=
        (mem_members ..).2 ⟨lt_of_testBit small held, held⟩
      obtain ⟨last, ends⟩ := Option.isSome_iff_exists.1
        (List.getLast?_isSome.2 (List.ne_nil_of_mem member))
      have below : last ≤ top :=
        le_highest found ((mem_members ..).1 (List.mem_of_getLast? ends)).2
      -- everything before the last is below it, and the highest is somewhere in the list
      obtain ⟨others, split⟩ := List.getLast?_eq_some_iff.1 ends
      have sorted := members_sorted width word
      rw [split, List.pairwise_append] at sorted
      rw [split, List.mem_append, List.mem_singleton] at member
      have above : top ≤ last := by
        rcases member with before | same
        · exact Nat.le_of_lt (sorted.2.2 top before last (List.mem_singleton_self last))
        · exact Nat.le_of_eq same
      rw [ends, Nat.le_antisymm below above]

end Bits

/-! ## Sets and the lists of what is in them -/

/-- A list of all that is in a set, each once and in ascending order. The set answers for each
element by it, and counts it. -/
structure Listing {α : Type} [LT α] (members : List α) (contains : α → Bool) (count : Nat)
    (inside : α → Prop) : Prop where
  ascending : members.Pairwise (· < ·)
  complete : ∀ element, element ∈ members ↔ inside element
  answers : ∀ element, contains element = true ↔ element ∈ members
  counted : count = members.length

namespace Converter.InputSet

/-- The list of a set has what the set answers for. -/
theorem listing {set : InputSet} {inside : UInt8 → Prop}
    (same : ∀ input, set.contains input = true ↔ inside input) :
    Listing set.toList set.contains set.count inside where
  ascending := set.toList_sorted
  complete input := (set.mem_toList input).trans (same input)
  answers input := (set.mem_toList input).symm
  counted := set.length_toList.symm

theorem last_eq (set : InputSet) : set.last = set.toList.getLast? := by
  rw [last, toList, List.getLast?_map, Bits.getLast?_members set.bits.toNat_lt]

end Converter.InputSet

namespace ScanMask

/-- The list of a mask has what the mask answers for. -/
theorem listing {mask : ScanMask} {inside : Nat → Prop}
    (same : ∀ index, mask.contains index = true ↔ inside index) :
    Listing mask.toList mask.contains mask.count inside where
  ascending := mask.toList_sorted
  complete index := (mask.mem_toList index).trans (same index)
  answers index := (mask.mem_toList index).symm
  counted := mask.length_toList.symm

/-- A mask is what it answers. -/
theorem eq_of_contains {mask other : ScanMask}
    (same : ∀ index, mask.contains index = other.contains index) : mask = other := by
  cases mask
  cases other
  exact congrArg ScanMask.mk (UInt64.toNat_inj.1 (Nat.eq_of_testBit_eq same))

/-- **A mask is made up of the indices it lists.** -/
theorem ofList_toList (mask : ScanMask) : ofList mask.toList = mask := by
  refine eq_of_contains fun index => ?_
  have fits : index ∈ mask.toList → index < 64 :=
    fun member => ((Bits.mem_members ..).1 member).1
  rw [contains_ofList, Bool.eq_iff_iff, decide_eq_true_iff, ← mem_toList]
  exact and_iff_right_of_imp fits

end ScanMask

/-! ## Any insertions -/

/-- **Sets of inputs and scan masks are finite sets, listed in order.** Start a set of inputs from
any word and insert any inputs, one after the other and with any repeated. It lists those in the
word and those inserted that are below sixteen; its last is the last in the list, which there is
unless it is empty; and it remembers the first input inserted that is sixteen or more, if there is
one. So does a mask with the indices below sixty-four, and it is the mask of the indices it
lists. -/
theorem listed_in_order (bits : UInt16) (inputs : List UInt8) (word : UInt64)
    (indices : List Nat) :
    let set := inputs.foldl InputSet.insert (.ofBits bits)
    let mask := indices.foldl ScanMask.insert ⟨word⟩
    Listing set.toList set.contains set.count
        (fun input => bits.toNat.testBit input.toNat = true ∨ input < 16 ∧ input ∈ inputs) ∧
      set.last = set.toList.getLast? ∧ (set.last = none ↔ set.toList = []) ∧
      set.stray = inputs.find? (fun input => 16 ≤ input) ∧
      (set.stray = none ↔ ∀ input ∈ inputs, input < 16) ∧
      Listing mask.toList mask.contains mask.count
        (fun index => word.toNat.testBit index = true ∨ index < 64 ∧ index ∈ indices) ∧
      ScanMask.ofList mask.toList = mask := by
  intro set mask
  have last := set.last_eq
  have stray : set.stray = inputs.find? fun input => 16 ≤ input :=
    (InputSet.stray_foldl_insert inputs (.ofBits bits)).trans Option.none_or
  refine ⟨InputSet.listing fun input => ?_, last, ?_, stray, ?_, ScanMask.listing fun index => ?_,
    mask.ofList_toList⟩
  · rw [InputSet.contains_foldl_insert, Bool.or_eq_true, decide_eq_true_iff]
    rfl
  · rw [last, List.getLast?_eq_none_iff]
  · rw [stray, List.find?_eq_none]
    simp only [decide_eq_true_iff, UInt8.not_le]
  · rw [ScanMask.contains_foldl_insert, Bool.or_eq_true, decide_eq_true_iff]
    rfl

/-- Inputs at and beyond the width of the word, and one that is there already. -/
example : (([9, 16, 2, 200, 9].foldl InputSet.insert (.ofBits 0x8004)).toList,
    ([9, 16, 2, 200, 9].foldl InputSet.insert (.ofBits 0x8004)).stray) =
      ([2, 9, 15], some 16) := by decide +kernel

end Acquisition
