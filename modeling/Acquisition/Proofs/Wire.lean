/-
# Acquisition.Proofs.Wire — what a converter puts on the wire

A `Spi.Line` is a device of which nothing is known: what it says to a transaction is any function of
the transactions so far and the one at hand, failures and words too few or too many included. It
keeps a record of all it was asked, failed transactions too.

Whatever a line says and whatever a converter is asked, one word at a time is on the wire, and every
word sent is zero or a command for an input that the part has (`askAll_wire`): an input that does
not exist is turned down before anything is sent, and a set of inputs that the part does not have
before it is prepared. What is prepared between two requests is therefore no scan at all, or the
scan of the inputs prepared last (`Orderly`), also after a request that failed halfway. The words of
longer scans before are still there, behind the scan, and none of them is sent (`commands_prepare`).
-/
import Acquisition.Proofs.Requests

namespace Acquisition

open Acquisition.Converter (InputSet PreparedScan Range Settings command pipelineWords)

set_option autoImplicit false

/-! ## Devices of which nothing is known -/

namespace Spi

variable {α : Type}

/-- A device given by what it says to a transaction, as a function of all transactions before it and
of its operations: whether it fails, and the words received for each operation. -/
structure Line (α : Type) where
  behaviour : List (List (Operation α)) → List (Operation α) → Option Fault × List (List α)
  /-- All transactions so far, oldest first, those that failed included. -/
  asked : List (List (Operation α)) := []

namespace Line

/-- What a line says to a transaction, which it records. -/
def answer (line : Line α) (operations : List (Operation α)) : Reply α (Line α) :=
  let said := line.behaviour line.asked operations
  ⟨said.1, said.2, { line with asked := line.asked ++ [operations] }⟩

instance : Device (Line α) α where
  transact line operations := some (line.answer operations)

/-- Every transaction on record is one operation of a kind. -/
def Only (may : Operation α → Prop) (line : Line α) : Prop :=
  ∀ operations ∈ line.asked, ∃ operation, operations = [operation] ∧ may operation

theorem only_answer {may : Operation α → Prop} {line : Line α} (only : line.Only may)
    {operation : Operation α} (fits : may operation) :
    (line.answer [operation]).device.Only may := by
  intro operations member
  rcases List.mem_append.1 member with earlier | last
  · exact only operations earlier
  · exact ⟨operation, List.mem_singleton.1 last, fits⟩

theorem answering : Answering (fun _ : Line UInt16 => True) :=
  ⟨fun _ _ _ _ _ _ => trivial, fun _ _ _ _ => ⟨_, rfl⟩⟩

/-- A line is told apart from itself by nothing, and its record goes on holding operations of a kind
as long as it is sent no others. -/
theorem mirrors (may : Operation UInt16 → Prop) :
    Mirrors (fun left right : Line UInt16 => right = left ∧ left.Only may) may True := by
  intro left right operation buffer other here fits room length same
  obtain ⟨rfl, only⟩ := here
  cases same trivial
  exact .some ⟨rfl, ⟨rfl, only_answer only fits⟩, fun _ => rfl, fun _ => rfl⟩

end Line

/-- The words that an operation sends. -/
def Operation.outgoing : Operation α → List α
  | .write words => words
  | .read _ => []
  | .transfer _ words => words
  | .inPlace words => words
  | .delay _ => []

end Spi

/-! ## One word at a time -/

namespace Converter

/-- Zero, or a command for an input that the part has. -/
def Proper (part : Part) (settings : Settings) (word : UInt16) : Prop :=
  word = 0 ∨ ∃ input : UInt8, input.toNat < part.inputs ∧ word = command input settings

/-- An operation of one word that sends a proper word, or none. -/
def OneWord (part : Part) (settings : Settings) (operation : Spi.Operation UInt16) : Prop :=
  operation.width = 1 ∧ ∀ word ∈ operation.outgoing, Proper part settings word

variable {σ : Type} {converter after : Converter σ}

theorem oneWord_transfer {part : Part} {settings : Settings} {word : UInt16}
    (proper : Proper part settings word) : OneWord part settings (.transfer 1 [word]) := by
  refine ⟨rfl, fun sent member => ?_⟩
  rw [List.mem_singleton.1 member]
  exact proper

theorem oneWord_write {part : Part} {settings : Settings} {word : UInt16}
    (proper : Proper part settings word) : OneWord part settings (.write [word]) := by
  refine ⟨rfl, fun sent member => ?_⟩
  rw [List.mem_singleton.1 member]
  exact proper

/-- Before anything is prepared a converter sends proper words only. -/
theorem sends_oneWord (converter : Converter σ) (empty : converter.scan.commands = []) :
    converter.Sends (OneWord converter.part converter.settings) := by
  refine ⟨⟨rfl, by simp [Spi.Operation.outgoing]⟩, oneWord_transfer (.inl rfl), ?_, ?_⟩
  · intro input existing
    have proper : Proper converter.part converter.settings (command input converter.settings) :=
      .inr ⟨input, existing, rfl⟩
    exact ⟨oneWord_write proper, oneWord_transfer proper⟩
  · intro word member
    rw [empty] at member
    cases member

/-- What is prepared is no scan at all, or a scan of inputs that the part has: their commands in
ascending order, and the padding. -/
structure Orderly (converter : Converter σ) : Prop where
  scan : converter.scan.commands = [] ∨ converter.scan.Programmed converter.settings
  within : converter.scan.inputs.Within converter.part

theorem Orderly.ask [Spi.Device σ UInt16] (orderly : converter.Orderly) {request : Request}
    {outcome : Outcome} (asked : converter.ask request = some (outcome, after)) :
    after.Orderly := by
  rcases ask_cases asked with keeps | ⟨inputs, within, rfl⟩
  · refine ⟨?_, ?_⟩
    · rw [keeps.settings, keeps.commands]
      exact orderly.scan.imp_right keeps.programmed
    · rw [keeps.inputs, keeps.part]
      exact orderly.within
  · exact ⟨.inr (PreparedScan.programmed_prepare _ _ _), within⟩

theorem part_ask [Spi.Device σ UInt16] {request : Request} {outcome : Outcome}
    (asked : converter.ask request = some (outcome, after)) : after.part = converter.part := by
  rcases ask_cases asked with keeps | ⟨inputs, within, rfl⟩
  · exact keeps.part
  · rfl

theorem settings_ask [Spi.Device σ UInt16] {request : Request} {outcome : Outcome}
    (asked : converter.ask request = some (outcome, after)) :
    after.settings = converter.settings := by
  rcases ask_cases asked with keeps | ⟨inputs, within, rfl⟩
  · exact keeps.settings
  · rfl

/-- What a converter is prepared for between two requests, spelled out. -/
theorem Orderly.laid_out (orderly : converter.Orderly) :
    (converter.scan.commands = [] ∧ converter.scan.bytes = 0) ∨
      (converter.scan.commands =
        converter.scan.inputs.toList.map (command · converter.settings) ++ [0, 0] ∧
      converter.scan.bytes = 2 * (converter.scan.inputs.count + 2)) := by
  rcases orderly.scan with empty | programmed
  · left
    rw [PreparedScan.bytes_eq, empty]
    exact ⟨rfl, rfl⟩
  · right
    refine ⟨programmed, ?_⟩
    rw [PreparedScan.bytes_eq, PreparedScan.length_commands, programmed.words, pipelineWords]

/-- A converter of a part over a range, before it is asked anything. -/
def fresh (device : σ) (part : Part) (range : Range) : Converter σ :=
  { device, part, settings := .ofRange range }

theorem orderly_fresh (device : σ) (part : Part) (range : Range) :
    (fresh device part range).Orderly := by
  refine ⟨.inl PreparedScan.commands_blank, rfl, fun input member => ?_⟩
  rw [InputSet.mem_toList, InputSet.contains] at member
  simp [fresh, PreparedScan.blank] at member

/-- **The discipline of the wire.** Whatever a converter is asked, and whatever its device says,
every transaction is one operation of one word, and every word sent is zero or a command for an
input that the part has. Between two requests the scan prepared is empty, or it is the commands of
inputs that the part has, in ascending order, and two words of zero. -/
theorem askAll_wire (part : Part) (range : Range) (requests : List Request)
    (behaviour : List (List (Spi.Operation UInt16)) → List (Spi.Operation UInt16) →
      Option Spi.Fault × List (List UInt16)) :
    ∃ outcomes after,
      askAll requests (fresh (⟨behaviour, []⟩ : Spi.Line UInt16) part range) =
        some (outcomes, after) ∧
      (∀ operations ∈ after.device.asked, ∃ operation, operations = [operation] ∧
        operation.width = 1 ∧ ∀ word ∈ operation.outgoing,
          word = 0 ∨ ∃ input : UInt8, input.toNat < part.inputs ∧
            word = command input (.ofRange range)) ∧
      ((after.scan.commands = [] ∧ after.scan.bytes = 0) ∨
        (after.scan.commands =
          after.scan.inputs.toList.map (command · (.ofRange range)) ++ [0, 0] ∧
        after.scan.bytes = 2 * (after.scan.inputs.count + 2))) ∧
      after.scan.inputs.toList.Pairwise (· < ·) ∧ after.scan.inputs.stray = none ∧
      (∀ input ∈ after.scan.inputs.toList, input.toNat < part.inputs) ∧
      after.part = part ∧ after.settings = .ofRange range := by
  let start := fresh (⟨behaviour, []⟩ : Spi.Line UInt16) part range
  obtain ⟨outcomes, after, asked⟩ : ∃ outcomes after, askAll requests start = some (outcomes, after) :=
    askAll_answers Spi.Line.answering requests trivial
  refine ⟨outcomes, after, asked, ?_⟩
  -- The part, the settings and an orderly scan are kept by each request.
  obtain ⟨orderly, samePart, sameSettings⟩ := askAll_kept
    (fun converter => converter.Orderly ∧ converter.part = part ∧ converter.settings = .ofRange range)
    (fun here asked => ⟨here.1.ask asked, (part_ask asked).trans here.2.1,
      (settings_ask asked).trans here.2.2⟩) ⟨orderly_fresh _ part range, rfl, rfl⟩ asked
  -- The record holds single words because the line cannot be told apart from itself.
  have alike : start.Alike (fun left right => right = left ∧
      left.Only (OneWord part (.ofRange range))) True start := by
    refine ⟨rfl, rfl, rfl, rfl, fun _ => rfl, rfl, ?_⟩
    intro operations member
    cases member
  have mirrored := askAll_alike (Spi.Line.mirrors _) requests alike
    (sends_oneWord start PreparedScan.commands_blank)
  rw [asked] at mirrored
  obtain ⟨_, same⟩ := Option.rel_some_some.1 mirrored
  have only := same.device.2
  have laid := orderly.laid_out
  rw [sameSettings] at laid
  exact ⟨only, laid, after.scan.inputs.toList_sorted, orderly.within.fitting,
    samePart ▸ orderly.within.existing, samePart, sameSettings⟩

end Converter

end Acquisition
