/-
# Acquisition.Proofs.Selection — which inputs a converter agrees to scan

A list of inputs becomes a set of bits before a converter is asked to scan it, and an input can
be turned down at two places: one that has no bit is remembered as stray while the set is made
(`stray_ofList_eq`), and one that has a bit but is not there is found at the top of the set
(`le_last`). `program_ofList` says that the two leave no gap. For every list, in any order and
with any repeated, either every input of it is there and the words to send are just their
commands, whatever longer scans stood there before, or the converter names an input of the list
that is not there and is left as it was. Nothing is said to its device either way.
-/
import Acquisition.Proofs.Channels
import Acquisition.Proofs.Requests
import Acquisition.Spi.Logged
import Acquisition.Spi.Script

namespace Acquisition

open Acquisition.Converter (InputSet Problem command)

set_option autoImplicit false

namespace Converter

/-- No input in a set is above its highest. -/
theorem InputSet.le_last {set : InputSet} {top input : UInt8} (found : set.last = some top)
    (member : input ∈ set.toList) : input ≤ top := by
  have inside : set.bits.toNat.testBit input.toNat = true := (set.mem_toList input).1 member
  obtain ⟨position, highest, rfl⟩ := Option.map_eq_some_iff.1 found
  have below := Bits.le_highest highest inside
  have small : position < 16 :=
    Bits.lt_of_testBit set.bits.toNat_lt (Bits.testBit_highest highest)
  rw [UInt8.le_iff_toNat_le, UInt8.toNat_ofNat', Nat.mod_eq_of_lt (by omega)]
  exact below

/-- A set of inputs that all fit has each of them, and no other. -/
theorem InputSet.mem_ofList {inputs : List UInt8} (small : ∀ input ∈ inputs, input < 16)
    (input : UInt8) : input ∈ (ofList inputs).toList ↔ input ∈ inputs := by
  rw [mem_toList, contains_ofList, decide_eq_true_iff]
  exact ⟨fun both => both.2, fun listed => ⟨small input listed, listed⟩⟩

variable {σ : Type}

/-- **A converter scans just the inputs it is asked for, or nothing new.** Asked for the inputs of
a list, it agrees only if the part has each of them. What it sends from then on is their commands,
each once and in ascending order, and the padding; the words received so far stay. Otherwise it
names an input of the list that the part does not have, which is the first that has no place in a
set, or the highest if all have one, and is left as it was. -/
theorem program_ofList (converter : Converter σ) (inputs : List UInt8) :
    match converter.program (.ofList inputs) with
    | (.ok (), after) =>
        (∀ input ∈ inputs, input.toNat < converter.part.inputs) ∧
        (∃ distinct : List UInt8, distinct.Pairwise (· < ·) ∧
          (∀ input, input ∈ distinct ↔ input ∈ inputs) ∧
          after.scan.inputs.toList = distinct ∧
          after.scan.commands = distinct.map (command · converter.settings) ++ [0, 0] ∧
          after.scan.bytes = 2 * (distinct.length + 2)) ∧
        after.scan.store = converter.scan.store ∧ after.device = converter.device ∧
        after.part = converter.part ∧ after.settings = converter.settings
    | (.error problem, after) =>
        (∃ input ∈ inputs, converter.part.inputs ≤ input.toNat ∧ problem = .noInput input ∧
          (inputs.find? (fun other => 16 ≤ other) = some input ∨
            (∀ other ∈ inputs, other < 16) ∧ ∀ other ∈ inputs, other ≤ input)) ∧
        after = converter := by
  have room := converter.part.inputs_bounds.2
  have remembered := InputSet.stray_ofList_eq inputs
  rw [program]
  cases stray : (InputSet.ofList inputs).stray with
  | some input =>
      rw [stray] at remembered
      have large : 16 ≤ input := by simpa using List.find?_some remembered.symm
      refine
        ⟨⟨input, List.mem_of_find?_eq_some remembered.symm, ?_, rfl, .inl remembered.symm⟩, rfl⟩
      exact Nat.le_trans room (UInt8.le_iff_toNat_le.1 large)
  | none =>
  have small : ∀ input ∈ inputs, input < 16 := by
    simpa [List.find?_eq_none, stray] using remembered.symm
  have listed := InputSet.mem_ofList small
  cases last : (InputSet.ofList inputs).last.filter fun input =>
      converter.part.inputs ≤ input.toNat with
  | some input =>
      obtain ⟨highest, absent⟩ := Option.filter_eq_some_iff.1 last
      refine ⟨⟨input, (listed input).1 (InputSet.mem_of_last highest), of_decide_eq_true absent,
        rfl, .inr ⟨small, fun other asked => ?_⟩⟩, rfl⟩
      exact InputSet.le_last highest ((listed other).2 asked)
  | none =>
      have within := InputSet.within_of_last stray last
      refine ⟨fun input asked => within.existing input ((listed input).2 asked),
        ⟨_, InputSet.toList_sorted _, listed, rfl, ?_, ?_⟩, rfl, rfl, rfl, rfl⟩
      · exact PreparedScan.commands_prepare _ _ _
      · rw [InputSet.length_toList]
        exact Nat.mul_comm _ _

/-- Asked for the inputs 2, 0 and 2 again, a converter sends two commands and the padding. -/
example :
    let scripted : Converter (Spi.Logged (Spi.Script UInt16)) :=
      { device := { device := { replies := [0, 0, 0x0123, 0x2456] } }, part := .ads7950 }
    let prepared := scripted.program (.ofList [2, 0, 2])
    prepared.2.scanInputs.map (fun done => (done.1.toOption,
      done.2.1.device.log.map Spi.Transaction.operations)) =
      some (some [0x0123, 0x2456], [[.transfer 1 [0x1840]], [.transfer 1 [0x1940]],
        [.transfer 1 [0]], [.transfer 1 [0]]]) := by
  decide +kernel

end Converter

end Acquisition
