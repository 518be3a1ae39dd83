/-
# Acquisition.Proofs.Frames — one transaction, one frame, and when it is not

A part takes a transaction for one frame if its operations have one word between them. That counts
the words of the whole list, and then every operation is carried out on its own: one that sends or
fills the first of its words breaks the part down if it has none (`Hollow`), and a transfer of no
words clocks a frame of its own. What a list of operations clocks is therefore `clocked`, which need
not be the one word on the wire.

`oneFrame_iff` says for which transactions it is: those whose operations without a word are all
delays.
-/
import Acquisition.Proofs.Responses

namespace Acquisition

set_option autoImplicit false

namespace Spi

/-- An operation that sends or fills the first of its words, and has none. -/
def Operation.Hollow (operation : Operation UInt16) : Prop :=
  operation = .write [] ∨ operation = .read 0 ∨ operation = .inPlace []

/-- The words that a part takes in while it carries out an operation. -/
def Operation.clocked : Operation UInt16 → List UInt16
  | .delay _ => []
  | operation => [operation.sent]

/-- An operation without a word is hollow, or a transfer, or a delay. -/
theorem Operation.cases_width_zero {operation : Operation UInt16} (empty : operation.width = 0) :
    operation.Hollow ∨ operation = .transfer 0 [] ∨
      ∃ nanoseconds, operation = .delay nanoseconds := by
  cases operation with
  | write words =>
      cases List.length_eq_zero_iff.1 empty
      exact .inl (.inl rfl)
  | read count =>
      cases (empty : count = 0)
      exact .inl (.inr (.inl rfl))
  | transfer count words =>
      have both : max count words.length = 0 := empty
      have none : words.length = 0 := by omega
      have short : count = 0 := by omega
      cases List.length_eq_zero_iff.1 none
      cases short
      exact .inr (.inl rfl)
  | inPlace words =>
      cases List.length_eq_zero_iff.1 empty
      exact .inl (.inr (.inr rfl))
  | delay nanoseconds => exact .inr (.inr ⟨nanoseconds, rfl⟩)

theorem width_cons {α : Type} (operation : Operation α) (rest : List (Operation α)) :
    width (operation :: rest) = operation.width + width rest := rfl

theorem width_eq_zero_iff {α : Type} {operations : List (Operation α)} :
    width operations = 0 ↔ ∀ operation ∈ operations, operation.width = 0 := by
  induction operations with
  | nil => simp [width]
  | cons operation rest ih =>
      rw [width_cons, Nat.add_eq_zero_iff, ih, List.forall_mem_cons]

/-- Operations with one word between them: one of them has it. -/
theorem exists_of_width_eq_one {α : Type} {operations : List (Operation α)}
    (one : width operations = 1) : ∃ before operation later,
      operations = before ++ operation :: later ∧ operation.width = 1 ∧
        (∀ other ∈ before, other.width = 0) ∧ ∀ other ∈ later, other.width = 0 := by
  induction operations with
  | nil => cases one
  | cons operation rest ih =>
      rw [width_cons] at one
      by_cases empty : operation.width = 0
      · obtain ⟨before, single, later, rfl, has, first, last⟩ := ih (by omega)
        exact ⟨operation :: before, single, later, rfl, has, List.forall_mem_cons.2 ⟨empty, first⟩,
          last⟩
      · have here : operation.width = 1 := by omega
        have none : width rest = 0 := by omega
        exact ⟨[], operation, rest, rfl, here, by simp, width_eq_zero_iff.1 none⟩

end Spi

namespace Converter.SimulatedPart

open Spi (Operation)

/-! ## One operation -/

/-- A hollow operation breaks any part down. -/
theorem operate_hollow (chip : SimulatedPart) {operation : Operation UInt16}
    (hollow : operation.Hollow) : chip.operate operation = none := by
  rcases hollow with rfl | rfl | rfl <;> rfl

/-- Any other operation is carried out by a part that is ready. -/
theorem operate_solid {chip : SimulatedPart} (ready : chip.Ready) {operation : Operation UInt16}
    (solid : ¬ operation.Hollow) :
    ∃ received, chip.operate operation = some (received, chip.run operation.clocked) := by
  have framed := frame_ready ready operation.sent
  cases operation with
  | write words =>
      cases words with
      | nil => exact absurd (.inl rfl) solid
      | cons word rest =>
          refine ⟨[], ?_⟩
          exact congrArg (Option.map fun done => ([], done.2)) framed
  | read count =>
      cases count with
      | zero => exact absurd (.inr (.inl rfl)) solid
      | succ count =>
          refine ⟨[chip.pending], ?_⟩
          exact congrArg (Option.map fun done => ([done.1], done.2)) framed
  | transfer count words =>
      refine ⟨[chip.pending].take count, ?_⟩
      exact congrArg (Option.map fun done => ([done.1].take count, done.2)) framed
  | inPlace words =>
      cases words with
      | nil => exact absurd (.inr (.inr rfl)) solid
      | cons word rest =>
          refine ⟨[chip.pending], ?_⟩
          exact congrArg (Option.map fun done => ([done.1], done.2)) framed
  | delay nanoseconds => exact ⟨[], rfl⟩

/-! ## Operations in order -/

theorem run_append (chip : SimulatedPart) (first second : List UInt16) :
    chip.run (first ++ second) = (chip.run first).run second := by
  rw [run, run, run, List.foldl_append]

theorem ready_run {chip : SimulatedPart} (ready : chip.Ready) (words : List UInt16) :
    (chip.run words).Ready :=
  (chip.run_alike words).ready ready

/-- A part that is ready takes in what the operations clock, as long as none is hollow. -/
theorem operateAll_solid (operations : List (Operation UInt16)) :
    ∀ {chip : SimulatedPart}, chip.Ready → (∀ operation ∈ operations, ¬ operation.Hollow) →
      ∃ received, operateAll operations chip =
        some (received, chip.run (operations.flatMap Operation.clocked)) := by
  induction operations with
  | nil => exact fun _ _ => ⟨[], rfl⟩
  | cons operation rest ih =>
      intro chip ready solid
      obtain ⟨here, later⟩ := List.forall_mem_cons.1 solid
      obtain ⟨received, operated⟩ := operate_solid ready here
      obtain ⟨others, carried⟩ := ih (ready_run ready operation.clocked) later
      refine ⟨received :: others, ?_⟩
      rw [operateAll, operated]
      dsimp only
      rw [carried, List.flatMap_cons, run_append, Option.map_some]

theorem operateAll_hollow (operations : List (Operation UInt16)) :
    ∀ {chip : SimulatedPart}, chip.Ready → (∃ operation ∈ operations, operation.Hollow) →
      operateAll operations chip = none := by
  induction operations with
  | nil =>
      rintro chip ready ⟨operation, member, hollow⟩
      cases member
  | cons operation rest ih =>
      intro chip ready found
      rw [operateAll]
      by_cases hollow : operation.Hollow
      · rw [operate_hollow chip hollow]
      · obtain ⟨received, operated⟩ := operate_solid ready hollow
        have later : ∃ other ∈ rest, other.Hollow := by
          obtain ⟨other, member, breaks⟩ := found
          rcases List.mem_cons.1 member with rfl | inside
          · exact absurd breaks hollow
          · exact ⟨other, inside, breaks⟩
        rw [operated]
        dsimp only
        rw [ih (ready_run ready operation.clocked) later, Option.map_none]

/-- Delays leave a part as it is, and bring nothing. -/
theorem operateAll_delays (chip : SimulatedPart) {operations : List (Operation UInt16)}
    (delays : ∀ operation ∈ operations, ∃ nanoseconds, operation = .delay nanoseconds)
    (rest : List (Operation UInt16)) :
    operateAll (operations ++ rest) chip =
      (operateAll rest chip).map fun done =>
        (List.replicate operations.length [] ++ done.1, done.2) := by
  induction operations with
  | nil => exact Option.map_id'.symm
  | cons operation others ih =>
      obtain ⟨⟨nanoseconds, rfl⟩, later⟩ := List.forall_mem_cons.1 delays
      rw [List.cons_append, operateAll, operate]
      dsimp only
      rw [ih later, Option.map_map]
      rfl

/-! ## One frame -/

/-- A transaction that is refused and leaves the part as it is, or is one frame: of its operations
one has a word, the part goes on from a frame of that word, and that operation reads what the part
answers with. -/
def OneFrame (chip : SimulatedPart) (operations : List (Operation UInt16)) : Prop :=
  (∃ fault received, chip.transact operations = some ⟨some fault, received, chip⟩) ∨
  ∃ before operation later received, operations = before ++ operation :: later ∧
    operation.width = 1 ∧ (∀ other ∈ before, other.width = 0) ∧
    (∀ other ∈ later, other.width = 0) ∧
    chip.transact operations = some ⟨none, received, chip.step operation.sent⟩ ∧
    Spi.overlay (operation.buffer 0) (received[before.length]?.getD []) =
      operation.seen chip.pending

theorem transact_one {chip : SimulatedPart} (ready : chip.wordReady = true)
    {operations : List (Operation UInt16)} (one : Spi.width operations = 1) :
    chip.transact operations =
      (operateAll operations chip).map fun done => ⟨none, done.1, done.2⟩ := by
  simp [transact, ready, one]

/-- One word among delays is one frame. -/
theorem oneFrame_of_delays {chip : SimulatedPart} (ready : chip.Ready)
    {operations : List (Operation UInt16)} (one : Spi.width operations = 1)
    (delays : ∀ operation ∈ operations, operation.width = 0 →
      ∃ nanoseconds, operation = .delay nanoseconds) : chip.OneFrame operations := by
  obtain ⟨before, operation, later, rfl, single, first, last⟩ := Spi.exists_of_width_eq_one one
  obtain ⟨received, operated, seen⟩ := operate_ready ready single
  have firstDelays : ∀ other ∈ before, ∃ nanoseconds, other = .delay nanoseconds :=
    fun other member => delays other (List.mem_append_left _ member) (first other member)
  have lastDelays : ∀ other ∈ later, ∃ nanoseconds, other = .delay nanoseconds :=
    fun other member =>
      delays other (List.mem_append_right _ (List.mem_cons_of_mem _ member)) (last other member)
  let brought := List.replicate before.length [] ++ received :: List.replicate later.length []
  have carried : operateAll (before ++ operation :: later) chip =
      some (brought, chip.step operation.sent) := by
    have rest := operateAll_delays (chip.step operation.sent) lastDelays []
    rw [List.append_nil] at rest
    rw [operateAll_delays chip firstDelays, operateAll, operated]
    dsimp only
    rw [rest, operateAll, Option.map_some, Option.map_some, Option.map_some, List.append_nil]
  refine .inr ⟨before, operation, later, brought, rfl, single, first, last, ?_, ?_⟩
  · rw [transact_one ready.words one, carried]
    rfl
  · have place : brought[before.length]? = some received := by
      rw [List.getElem?_append_right (by simp), List.length_replicate, Nat.sub_self]
      rfl
    rw [place]
    exact seen

/-! ## What other transactions do -/

theorem length_clocked_of_empty {operations : List (Operation UInt16)}
    (solid : ∀ operation ∈ operations, ¬ operation.Hollow)
    (empty : ∀ operation ∈ operations, operation.width = 0) :
    (operations.flatMap Operation.clocked).length = operations.count (.transfer 0 []) := by
  induction operations with
  | nil => rfl
  | cons operation rest ih =>
      obtain ⟨hereSolid, solid⟩ := List.forall_mem_cons.1 solid
      obtain ⟨hereEmpty, empty⟩ := List.forall_mem_cons.1 empty
      rw [List.flatMap_cons, List.length_append, ih solid empty, List.count_cons]
      rcases Operation.cases_width_zero hereEmpty with hollow | rfl | ⟨nanoseconds, rfl⟩
      · exact absurd hollow hereSolid
      · rw [if_pos (beq_self_eq_true _), Nat.add_comm]
        rfl
      · rw [if_neg (by simp)]
        exact Nat.zero_add _

/-- **What is clocked besides the one word** are the transfers of no words. -/
theorem length_clocked {operations : List (Operation UInt16)} (one : Spi.width operations = 1)
    (solid : ∀ operation ∈ operations, ¬ operation.Hollow) :
    (operations.flatMap Operation.clocked).length = 1 + operations.count (.transfer 0 []) := by
  obtain ⟨before, operation, later, rfl, single, first, last⟩ := Spi.exists_of_width_eq_one one
  have before_solid : ∀ other ∈ before, ¬ other.Hollow :=
    fun other member => solid other (List.mem_append_left _ member)
  have later_solid : ∀ other ∈ later, ¬ other.Hollow :=
    fun other member => solid other (List.mem_append_right _ (List.mem_cons_of_mem _ member))
  have other : operation ≠ .transfer 0 [] := by
    rintro rfl
    cases single
  have clocked : operation.clocked.length = 1 := by
    cases operation with
    | delay nanoseconds => cases single
    | _ => rfl
  rw [List.flatMap_append, List.flatMap_cons, List.length_append, List.length_append, clocked,
    length_clocked_of_empty before_solid first, length_clocked_of_empty later_solid last,
    List.count_append, List.count_cons_of_ne other]
  omega

/-- What becomes of a transaction of one word: it breaks the part down if it holds a hollow
operation, and otherwise it succeeds, and each transfer of no words is a frame more. -/
theorem transact_of_width_one {chip : SimulatedPart} (ready : chip.Ready)
    {operations : List (Operation UInt16)} (one : Spi.width operations = 1) :
    (chip.transact operations = none ↔ ∃ operation ∈ operations, operation.Hollow) ∧
    ∀ reply, chip.transact operations = some reply → reply.fault = none ∧
      reply.device.frames = chip.frames + 1 + operations.count (.transfer 0 []) := by
  rw [transact_one ready.words one]
  by_cases found : ∃ operation ∈ operations, operation.Hollow
  · rw [operateAll_hollow operations ready found, Option.map_none]
    refine ⟨⟨fun _ => found, fun _ => rfl⟩, fun reply answered => ?_⟩
    cases answered
  · have solid : ∀ operation ∈ operations, ¬ operation.Hollow :=
      fun operation member hollow => found ⟨operation, member, hollow⟩
    obtain ⟨received, carried⟩ := operateAll_solid operations ready solid
    rw [carried, Option.map_some]
    refine ⟨⟨fun broken => ?_, fun hollow => absurd hollow found⟩, fun reply answered => ?_⟩
    · cases broken
    · cases answered
      refine ⟨rfl, ?_⟩
      rw [run_frames, length_clocked one solid, Nat.add_assoc]

/-- **When one transaction is one frame.** A part with a reference of zero or more answers every
transaction with a refusal that leaves it as it is, or with one frame of the one word that the
transaction carries, unless there is another operation beside that word which has none itself and
is not a delay. Then the part breaks down if that is a write, a read or an exchange in place, and
clocks one frame more for each transfer of no words. -/
theorem oneFrame_iff (chip : SimulatedPart) (range : 0 ≤ chip.reference)
    (operations : List (Operation UInt16)) :
    (chip.OneFrame operations ↔ (chip.wordReady = true → Spi.width operations = 1 →
      ∀ operation ∈ operations, operation.width = 0 →
        ∃ nanoseconds, operation = .delay nanoseconds)) ∧
    (chip.wordReady = true → Spi.width operations = 1 →
      (chip.transact operations = none ↔
        ∃ operation ∈ operations, operation = .write [] ∨ operation = .read 0 ∨
          operation = .inPlace []) ∧
      ∀ reply, chip.transact operations = some reply → reply.fault = none ∧
        reply.device.frames = chip.frames + 1 + operations.count (.transfer 0 [])) := by
  refine ⟨⟨fun frame words one => ?_, fun delays => ?_⟩,
    fun words one => transact_of_width_one ⟨words, range⟩ one⟩
  · obtain ⟨breaks, answers⟩ := transact_of_width_one ⟨words, range⟩ one
    rcases frame with ⟨fault, received, refused⟩ |
      ⟨before, single, later, received, _, _, _, _, answered, _⟩
    · have done := (answers _ refused).1
      cases done
    · have frames := (answers _ answered).2
      rw [step_frames] at frames
      have none : operations.count (.transfer 0 []) = 0 := by omega
      intro operation member empty
      rcases Operation.cases_width_zero empty with hollow | rfl | delay
      · rw [breaks.2 ⟨operation, member, hollow⟩] at answered
        cases answered
      · exact absurd member (List.count_eq_zero.1 none)
      · exact delay
  · by_cases words : chip.wordReady = true
    · by_cases one : Spi.width operations = 1
      · exact oneFrame_of_delays ⟨words, range⟩ one (delays words one)
      · exact .inl ⟨.chipSelect, [], by simp [transact, words, one]⟩
    · exact .inl ⟨.other, [], by simp [transact, words]⟩

/-- A part of four inputs, ready for words. -/
def expectant : SimulatedPart where
  part := .ads7951
  voltages := [1000000, 0, 0, 0]
  reference := 2500000
  wordReady := true

/-- A command among delays is one frame; a command after a write of nothing breaks the part down. -/
theorem expectant_frames :
    0 ≤ expectant.reference ∧ expectant.OneFrame [.delay 10, .transfer 1 [0x1840], .delay 0] ∧
      expectant.transact [.write [], .transfer 1 [0x1840]] = none := by
  refine ⟨by decide, ?_, ?_⟩
  · refine (oneFrame_iff expectant (by decide) _).1.2 fun _ _ operation member empty => ?_
    simp only [List.mem_cons, List.not_mem_nil, or_false] at member
    rcases member with rfl | rfl | rfl
    · exact ⟨10, rfl⟩
    · cases empty
    · exact ⟨0, rfl⟩
  · exact ((oneFrame_iff expectant (by decide) _).2 rfl rfl).1.2 ⟨_, List.mem_cons_self, .inl rfl⟩

/-- **One word in all is not always one frame**: beside a word, an empty write, read or exchange in
place breaks a part down, and an empty transfer makes it clock two frames. -/
theorem empty_beside_word :
    0 ≤ expectant.reference ∧
    expectant.transact [.write [], .write [0x1840]] = none ∧
    expectant.transact [.read 0, .write [0x1840]] = none ∧
    expectant.transact [.inPlace [], .write [0x1840]] = none ∧
    ((expectant.transact [.transfer 0 [], .write [0x1840]]).map fun reply =>
      reply.device.frames) = some 2 ∧
    ¬ expectant.OneFrame [.write [], .write [0x1840]] ∧
    ¬ expectant.OneFrame [.transfer 0 [], .write [0x1840]] := by
  have broken : expectant.transact [.write [], .write [0x1840]] = none := rfl
  have twice : ((expectant.transact [.transfer 0 [], .write [0x1840]]).map fun reply =>
    (reply.fault, reply.device.frames)) = some (none, 2) := by decide +kernel
  refine ⟨by decide, broken, rfl, rfl, by decide +kernel, ?_, ?_⟩
  · rintro (⟨fault, received, refused⟩ | ⟨_, single, _, received, _, _, _, _, answered, _⟩)
    · rw [broken] at refused
      cases refused
    · rw [broken] at answered
      cases answered
  · rintro (⟨fault, received, refused⟩ | ⟨_, single, _, received, _, _, _, _, answered, _⟩)
    · rw [refused] at twice
      cases twice
    · rw [answered, Option.map_some, step_frames] at twice
      cases twice

end Converter.SimulatedPart

end Acquisition
