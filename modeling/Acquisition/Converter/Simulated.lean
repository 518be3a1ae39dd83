/-
# Acquisition.Converter.Simulated — a part simulated word by word

A `SimulatedPart` does what a part does between chip selects: a word sent in frame
`k` chooses the input converted during frame `k + 1`, whose result is sent in frame
`k + 2`. One transaction is one frame and carries exactly one word; operations that
carry none may stand beside the one that does, and of these only a transfer and a
delay are harmless.

A reference below zero leaves no range to convert over, so every frame breaks down.
-/

import Acquisition.Converter.Command
import Acquisition.Spi.Device

namespace Acquisition.Converter

set_option autoImplicit false

/-- A part, its analog inputs in microvolts, and what it holds between frames. -/
structure SimulatedPart where
  part : Part
  /-- The voltage at each input, in microvolts; an input past the end is at zero. -/
  voltages : List Int
  /-- The reference, in microvolts. -/
  reference : Int
  /-- Whether the bus has been set to words of sixteen bits. -/
  wordReady : Bool := false
  /-- The input converted in the next frame. -/
  selected : Nat := 0
  /-- Whether the range is twice the reference. -/
  doubled : Bool := false
  /-- The word sent in the next frame. -/
  pending : UInt16 := 0
  /-- Frames seen. -/
  frames : Nat := 0
  deriving DecidableEq

namespace SimulatedPart

/-- The voltage at an input. -/
def voltage (chip : SimulatedPart) (input : Nat) : Int :=
  chip.voltages.getD input 0

/-- Sets the voltage at an input that is there. -/
def setVoltage (chip : SimulatedPart) (input : Nat) (microvolts : Int) : SimulatedPart :=
  { chip with voltages := chip.voltages.set input microvolts }

/-- The voltage that gives the largest conversion. -/
def fullScale (chip : SimulatedPart) : Int :=
  if chip.doubled then chip.reference * 2 else chip.reference

/-- The conversion of a voltage over a range, which is cut off at both ends. -/
def convert (profile : Profile) (fullScale voltage : Int) : Nat :=
  if fullScale = 0 then 0
  else (max 0 (min voltage fullScale) * profile.maxCode / fullScale).toNat

/-- A conversion with the input it belongs to, left-aligned. -/
def tagged (profile : Profile) (input code : Nat) : UInt16 :=
  (UInt16.ofNat input <<< 12) ||| (UInt16.ofNat code <<< UInt16.ofNat profile.shift)

/-- The result of converting the chosen input. -/
def conversion (chip : SimulatedPart) : UInt16 :=
  tagged chip.part.profile chip.selected
    (convert chip.part.profile chip.fullScale (chip.voltage chip.selected))

/-- Whether a word makes the part take over its input and range. -/
def latches (word : UInt16) : Bool :=
  word &&& 0xF000 == manualBit && word &&& writeBit != 0

/-- Takes over the input and range of a word, if it is a word that does so. -/
def latch (chip : SimulatedPart) (word : UInt16) : SimulatedPart :=
  if latches word then
    { chip with
      selected := ((word >>> 7) &&& 0xF).toNat % chip.part.inputs
      doubled := word &&& rangeBit != 0 }
  else chip

/-- One frame: sends the pending result while a word comes in, and converts the input
chosen before. -/
def frame (chip : SimulatedPart) (word : UInt16) : Option (UInt16 × SimulatedPart) :=
  if chip.fullScale < 0 then none
  else
    let converted := { chip with pending := chip.conversion, frames := chip.frames + 1 }
    some (chip.pending, converted.latch word)

/-- Carries out one operation of a transaction that has passed the count of words. -/
def operate (chip : SimulatedPart) :
    Spi.Operation UInt16 → Option (List UInt16 × SimulatedPart)
  | .write [] => none
  | .write (word :: _) => (chip.frame word).map fun (_, chip) => ([], chip)
  | .read 0 => none
  | .read (_ + 1) => (chip.frame 0).map fun (answer, chip) => ([answer], chip)
  | .transfer count words =>
      (chip.frame (words.headD 0)).map fun (answer, chip) => ([answer].take count, chip)
  | .inPlace [] => none
  | .inPlace (word :: _) => (chip.frame word).map fun (answer, chip) => ([answer], chip)
  | .delay _ => some ([], chip)

/-- Carries out operations in order. -/
def operateAll : List (Spi.Operation UInt16) → SimulatedPart →
    Option (List (List UInt16) × SimulatedPart)
  | [], chip => some ([], chip)
  | operation :: rest, chip =>
      match chip.operate operation with
      | none => none
      | some (words, chip) =>
          (operateAll rest chip).map fun (received, chip) => (words :: received, chip)

/-- Answers a transaction. Before the word size is set nothing is understood, and a
transaction that does not carry exactly one word is no frame. -/
def transact (chip : SimulatedPart) (operations : List (Spi.Operation UInt16)) :
    Option (Spi.Reply UInt16 SimulatedPart) :=
  if !chip.wordReady then some ⟨some .other, [], chip⟩
  else if Spi.width operations ≠ 1 then some ⟨some .chipSelect, [], chip⟩
  else (operateAll operations chip).map fun (received, chip) => ⟨none, received, chip⟩

instance : Spi.Device SimulatedPart UInt16 where
  transact := transact

instance : Spi.WordSize SimulatedPart where
  setWordSize chip bits :=
    if bits = 16 then (none, { chip with wordReady := true }) else (some .other, chip)

end SimulatedPart

end Acquisition.Converter
