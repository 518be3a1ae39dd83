/-
# Acquisition.Converter.Core — a converter behind an SPI device

A `Converter` joins a device on the bus with the part it is, the settings used in
every command and the scan prepared last. A single input is read by three
transactions: the first asks for the input, the second keeps the part clocked while
it converts, and the third brings the result. Each word is its own transaction, so
another device may be addressed in between.

An operation answers with its result and the converter afterwards; `none` means
that the device broke down.
-/

import Acquisition.Converter.PreparedScan
import Acquisition.Log

namespace Acquisition.Converter

set_option autoImplicit false

/-- Why a converter cannot answer. -/
inductive Problem where
  /-- A transaction failed. -/
  | spi (fault : Spi.Fault)
  /-- The result belongs to another input than the one asked for. -/
  | otherInput (expected found : UInt8)
  /-- The part has no such input. -/
  | noInput (input : UInt8)
  deriving DecidableEq

/-- The sentence for a problem. -/
def Problem.message : Problem → String
  | .spi fault => s!"SPI error: {fault.name}"
  | .otherInput expected found =>
      s!"requested channel {expected.toNat} but received channel {found.toNat}"
  | .noInput input => s!"channel {input.toNat} does not exist"

end Acquisition.Converter

namespace Acquisition

open Acquisition.Converter

set_option autoImplicit false

/-- A part behind a device on the bus. -/
structure Converter (σ : Type) where
  device : σ
  part : Part
  settings : Settings := .standard
  scan : PreparedScan := .blank

namespace Converter

variable {σ : Type}

/-- Prepares a scan of other inputs. A set with an input the part does not have is
turned down: first for an input that did not fit the set, then for the highest. -/
def program (converter : Converter σ) (inputs : InputSet) : Except Problem Unit × Converter σ :=
  match inputs.stray with
  | some input => (.error (.noInput input), converter)
  | none =>
      match inputs.last.filter fun input => converter.part.inputs ≤ input.toNat with
      | some input => (.error (.noInput input), converter)
      | none =>
          (.ok (), { converter with scan := converter.scan.prepare inputs converter.settings })

/-- The full-scale input in millivolts for a reference in microvolts. -/
def fullScale (converter : Converter σ) (reference : Int) : Int :=
  converter.settings.fullScale reference

section Traffic

variable [Spi.Device σ UInt16]

/-- Carries out one operation of one word; a failed transaction is a problem. -/
def send (converter : Converter σ) (operation : Spi.Operation UInt16) (buffer : List UInt16) :
    Option (Except Problem (List UInt16) × Converter σ) :=
  (Spi.perform converter.device operation buffer).map fun done =>
    let converter := { converter with device := done.device }
    match done.fault with
    | some fault => (.error (.spi fault), converter)
    | none => (.ok done.buffer, converter)

/-- Reads one input; the conversion is left-aligned in twelve bits. -/
def single (converter : Converter σ) (input : UInt8) :
    Option (Except Problem UInt16 × Converter σ) :=
  if converter.part.inputs ≤ input.toNat then
    some (.error (.noInput input), converter)
  else
    let word := command input converter.settings
    match converter.send (.write [word]) [] with
    | none => none
    | some (.error problem, converter) => some (.error problem, converter)
    | some (.ok _, converter) =>
    match converter.send (.write [word]) [] with
    | none => none
    | some (.error problem, converter) => some (.error problem, converter)
    | some (.ok _, converter) =>
    match converter.send (.read 1) [0] with
    | none => none
    | some (.error problem, converter) => some (.error problem, converter)
    | some (.ok words, converter) =>
        let response : Response := ⟨words.headD 0⟩
        if response.tag = input then
          some (.ok response.code, converter)
        else
          some (.error (.otherInput input response.tag), converter)

/-- Reads one input; the conversion is right-aligned. -/
def read (converter : Converter σ) (input : UInt8) :
    Option (Except Problem UInt16 × Converter σ) :=
  (converter.single input).map fun (result, converter) =>
    (result.map fun code => code >>> UInt16.ofNat converter.part.profile.shift, converter)

/-- The line about a result that carries another input than the one asked for. -/
def mismatchLine (converter : Converter σ) (mismatch : Mismatch) : LogLine :=
  ⟨.debug, s!"{converter.part.deviceId}: scan word {mismatch.position} carries channel " ++
    s!"{mismatch.found.toNat} instead of {mismatch.expected.toNat}"⟩

/-- Carries out the prepared scan and hands back its results, inputs in ascending order
with their tags left in place. A result of another input is reported, not refused. -/
def scanInputs (converter : Converter σ) :
    Option (Except Problem (List UInt16) × Converter σ × List LogLine) :=
  (converter.scan.exchange converter.device).map fun (fault, scan, device) =>
    let converter := { converter with scan, device }
    match fault with
    | some fault => (.error (.spi fault), converter, [])
    | none =>
        (.ok scan.payload, converter, (scan.mismatch?.map converter.mismatchLine).toList)

end Traffic

end Converter

end Acquisition
