/-
# Acquisition.Converter.PreparedScan — scanning a set of inputs

A part converts during the word after a command and sends the result during the
word after that, so the result of the command in word `k` arrives in word `k + 2`.
A scan of `n` inputs is therefore `n` commands and two padding words, and the first
two words received belong to whatever was asked for before.

`prepare` lays the words out over those of the scan before, which stay where they
are not covered; only the words of the scan are sent (`commands_prepare`).
`exchange` clocks them one transaction at a time over any device and stops at the
first that fails; words received later than that stay as they were, as does
everything beyond the scan (`length_clock`). `mismatch?` looks for the first result
that carries another input than the one asked for.
-/

import Acquisition.Converter.Command
import Acquisition.Converter.InputSet
import Acquisition.Spi.Device

namespace Acquisition.Converter

set_option autoImplicit false

/-- Words between a command and its result. -/
def pipelineWords : Nat := 2

/-- Words set aside for what is sent. -/
def sendWords : Nat := maxInputs + 2

/-- Words set aside for what is received. -/
def receiveWords : Nat := maxInputs + 10

/-- The words of a scan, and what was last received. -/
structure PreparedScan where
  /-- The inputs scanned. -/
  inputs : InputSet := {}
  /-- All words set aside for what is sent; beyond the scan stand words of longer scans
  before it. -/
  outbox : List UInt16 := List.replicate sendWords 0
  /-- Bytes in the scan. -/
  bytes : Nat := 0
  /-- All words set aside for what is received. -/
  store : List UInt16 := List.replicate receiveWords 0
  outbox_length : outbox.length = sendWords := by simp
  whole : 2 ∣ bytes := by simp
  fits : bytes / 2 ≤ sendWords := by simp
  store_length : store.length = receiveWords := by simp
  deriving DecidableEq

/-- A result that carries another input than the one asked for. -/
structure Mismatch where
  position : Nat
  expected : UInt8
  found : UInt8
  deriving DecidableEq

namespace PreparedScan

/-- A scan of no inputs, before anything was received. -/
def blank : PreparedScan := {}

/-- Words in the scan. -/
def words (scan : PreparedScan) : Nat :=
  scan.bytes / 2

/-- The words to send. -/
def commands (scan : PreparedScan) : List UInt16 :=
  scan.outbox.take scan.words

theorem commands_blank : blank.commands = [] := rfl

theorem length_commands (scan : PreparedScan) : scan.commands.length = scan.words := by
  rw [commands, List.length_take, scan.outbox_length, words, Nat.min_eq_left scan.fits]

/-- There is room for all that a scan brings. -/
theorem words_le (scan : PreparedScan) : scan.words ≤ scan.store.length := by
  rw [scan.store_length]
  exact Nat.le_trans scan.fits (by decide)

theorem bytes_eq (scan : PreparedScan) : scan.bytes = 2 * scan.commands.length := by
  rw [length_commands, words, Nat.mul_div_cancel' scan.whole]

theorem length_laid (inputs : InputSet) (settings : Settings) :
    ((inputs.toList.map fun input => command input settings) ++
      List.replicate pipelineWords 0).length = inputs.count + pipelineWords := by
  rw [List.length_append, List.length_map, InputSet.length_toList, List.length_replicate]

/-- One command per input in ascending order, then the padding, over the words before. -/
def prepare (scan : PreparedScan) (inputs : InputSet) (settings : Settings) : PreparedScan :=
  { scan with
    inputs
    outbox := Spi.overlay scan.outbox
      ((inputs.toList.map fun input => command input settings) ++ List.replicate pipelineWords 0)
    bytes := (inputs.count + pipelineWords) * 2
    outbox_length := (Spi.length_overlay ..).trans scan.outbox_length
    whole := Nat.dvd_mul_left ..
    fits := by
      rw [Nat.mul_div_cancel _ (by decide)]
      exact Nat.add_le_add_right inputs.count_le pipelineWords }

theorem words_prepare (scan : PreparedScan) (inputs : InputSet) (settings : Settings) :
    (scan.prepare inputs settings).words = inputs.count + pipelineWords :=
  Nat.mul_div_cancel _ (by decide)

/-- **Nothing of an earlier scan is sent**: the words sent are those laid out last. -/
theorem commands_prepare (scan : PreparedScan) (inputs : InputSet) (settings : Settings) :
    (scan.prepare inputs settings).commands =
      (inputs.toList.map fun input => command input settings) ++
        List.replicate pipelineWords 0 := by
  have room : inputs.count + pipelineWords ≤ scan.outbox.length := by
    rw [scan.outbox_length]
    exact Nat.add_le_add_right inputs.count_le pipelineWords
  rw [commands, words_prepare]
  rw [← length_laid inputs settings] at room ⊢
  exact Spi.take_overlay room

/-- The words received in the last exchange, the first two included. -/
def received (scan : PreparedScan) : List UInt16 :=
  scan.store.take scan.words

/-- The results, in the order of the inputs. -/
def payload (scan : PreparedScan) : List UInt16 :=
  scan.received.drop pipelineWords

section Clock

variable {σ : Type} [Spi.Device σ UInt16]

/-- Sends words one transaction at a time, each over its own place of the store, and
stops at the first transaction that fails. -/
def clock : List UInt16 → List UInt16 → σ → Option (Spi.Exchange UInt16 σ)
  | [], store, device => some ⟨none, store, device⟩
  | _ :: _, [], device => some ⟨none, [], device⟩
  | word :: commands, place :: store, device =>
      match Spi.perform device (.transfer 1 [word]) [place] with
      | none => none
      | some ⟨some fault, place, device⟩ => some ⟨some fault, place ++ store, device⟩
      | some ⟨none, place, device⟩ =>
          (clock commands store device).map fun rest =>
            ⟨rest.fault, place ++ rest.buffer, rest.device⟩

/-- An exchange keeps every place of the store. -/
theorem length_clock : ∀ (commands store : List UInt16) (device : σ)
    (done : Spi.Exchange UInt16 σ), clock commands store device = some done →
      done.buffer.length = store.length
  | [], store, device, done, clocked => by
      simp only [clock, Option.some.injEq] at clocked
      rw [← clocked]
  | _ :: _, [], device, done, clocked => by
      simp only [clock, Option.some.injEq] at clocked
      rw [← clocked]
  | word :: commands, place :: store, device, done, clocked => by
      rw [clock] at clocked
      split at clocked
      · exact absurd clocked (by simp)
      · next fault words after sent =>
          have kept := Spi.length_perform _ _ _ _ sent
          simp only [Option.some.injEq] at clocked
          simp only [← clocked, List.length_append, List.length_cons]
          simp only [List.length_singleton] at kept
          omega
      · next words after sent =>
          have kept := Spi.length_perform _ _ _ _ sent
          obtain ⟨rest, clockedRest, rfl⟩ := Option.map_eq_some_iff.1 clocked
          have restKept := length_clock commands store after rest clockedRest
          simp only [List.length_append, List.length_cons, restKept]
          simp only [List.length_singleton] at kept
          omega

/-- Carries out the prepared exchange. -/
def exchange (scan : PreparedScan) (device : σ) : Option (Option Spi.Fault × PreparedScan × σ) :=
  match clocked : clock scan.commands scan.store device with
  | none => none
  | some done =>
      some (done.fault,
        { scan with
          store := done.buffer
          store_length := (length_clock _ _ _ _ clocked).trans scan.store_length },
        done.device)

/-- An exchange that gets through its transactions changes the words received and
nothing else. -/
theorem exchange_of_clock {scan : PreparedScan} {device : σ} {done : Spi.Exchange UInt16 σ}
    (clocked : clock scan.commands scan.store device = some done) :
    ∃ after : PreparedScan, scan.exchange device = some (done.fault, after, done.device) ∧
      after.inputs = scan.inputs ∧ after.commands = scan.commands ∧ after.store = done.buffer := by
  refine ⟨{ scan with
    store := done.buffer
    store_length := (length_clock _ _ _ _ clocked).trans scan.store_length }, ?_, rfl, rfl, rfl⟩
  unfold exchange
  split
  · next broken => simp [broken] at clocked
  · next other answered =>
      cases Option.some.inj (answered.symm.trans clocked)
      rfl

/-- A device that breaks down takes the exchange with it. -/
theorem exchange_eq_none {scan : PreparedScan} {device : σ}
    (broken : clock scan.commands scan.store device = none) : scan.exchange device = none := by
  unfold exchange
  split
  · rfl
  · next done clocked =>
      rw [broken] at clocked
      cases clocked

end Clock

/-- The first result that carries another input than the one asked for. -/
def mismatch? (scan : PreparedScan) : Option Mismatch :=
  (scan.inputs.toList.zip scan.payload).zipIdx.findSome? fun ((expected, word), position) =>
    let found := (Response.mk word).tag
    if found = expected then none else some ⟨position, expected, found⟩

/-- Results that carry the inputs asked for are no mismatch. -/
theorem mismatch?_eq_none {scan : PreparedScan}
    (tagged : scan.payload.map (fun word => (Response.mk word).tag) = scan.inputs.toList) :
    scan.mismatch? = none := by
  have paired : (scan.payload.map fun word => (Response.mk word).tag).zip scan.payload =
      scan.payload.map fun word => ((Response.mk word).tag, word) := by
    simpa using List.zip_map' (f := fun word => (Response.mk word).tag) (g := id) (l := scan.payload)
  simp only [mismatch?, ← tagged, paired, List.findSome?_eq_none_iff]
  rintro ⟨⟨expected, word⟩, position⟩ member
  obtain ⟨same, _, renamed⟩ := List.mem_map.1 (List.fst_mem_of_mem_zipIdx member)
  obtain ⟨rfl, rfl⟩ := Prod.mk.inj renamed
  simp

theorem mismatch?_eq {scan other : PreparedScan} (inputs : other.inputs = scan.inputs)
    (payload : other.payload = scan.payload) : other.mismatch? = scan.mismatch? := by
  rw [mismatch?, mismatch?, inputs, payload]

end PreparedScan

end Acquisition.Converter
