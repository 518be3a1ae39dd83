/-
# Acquisition.Converter.Part — the parts of the converter family

The family has twelve parts: four input counts at each of three resolutions. A
`Profile` is all that the rest of the library needs of a part: how many inputs it
has and how many bits a conversion has. Conversions of fewer than twelve bits are
left-aligned in a field of twelve; `shift` says by how much.

`ofDeviceId?_deviceId`: a part is found again by its identifier.
-/

import Acquisition.Power

namespace Acquisition.Converter

set_option autoImplicit false

/-- The width of the field that carries a conversion. -/
def codeBits : Nat := 12

/-- The width at which a sample is stored. -/
def storageBits : Nat := 16

/-- The most inputs a part can have. -/
def maxInputs : Nat := 16

/-- The inputs and the resolution of a part. -/
structure Profile where
  inputs : Nat
  resolution : Nat
  deriving DecidableEq

namespace Profile

/-- How far a conversion is moved up to fill the field of twelve bits. -/
def shift (profile : Profile) : Nat :=
  codeBits - profile.resolution

/-- The largest conversion. -/
def maxCode (profile : Profile) : Nat :=
  2 ^ profile.resolution - 1

end Profile

/-- One analog input of a part. -/
structure Input where
  index : Nat
  resolution : Nat
  storage : Nat
  shift : Nat
  deriving DecidableEq

/-- The name of an input in the datasheet; there are sixteen. -/
def Input.datasheetName? (input : Input) : Option String :=
  if input.index < maxInputs then some s!"CH{input.index}" else none

/-- The inputs of a part, lowest first. -/
def Profile.inputList (profile : Profile) : List Input :=
  (List.range profile.inputs).map fun index =>
    ⟨index, profile.resolution, storageBits, profile.shift⟩

/-- The parts, in the order of the datasheet. -/
inductive Part where
  | ads7950 | ads7951 | ads7952 | ads7953
  | ads7954 | ads7955 | ads7956 | ads7957
  | ads7958 | ads7959 | ads7960 | ads7961
  deriving DecidableEq

namespace Part

/-- Every part, in the order of the datasheet. -/
def all : List Part :=
  [.ads7950, .ads7951, .ads7952, .ads7953, .ads7954, .ads7955,
   .ads7956, .ads7957, .ads7958, .ads7959, .ads7960, .ads7961]

/-- The identifier by which a bus names the part. -/
def deviceId : Part → String
  | .ads7950 => "ti-ads7950"
  | .ads7951 => "ti-ads7951"
  | .ads7952 => "ti-ads7952"
  | .ads7953 => "ti-ads7953"
  | .ads7954 => "ti-ads7954"
  | .ads7955 => "ti-ads7955"
  | .ads7956 => "ti-ads7956"
  | .ads7957 => "ti-ads7957"
  | .ads7958 => "ti-ads7958"
  | .ads7959 => "ti-ads7959"
  | .ads7960 => "ti-ads7960"
  | .ads7961 => "ti-ads7961"

/-- The inputs and the resolution of each part. -/
def profile : Part → Profile
  | .ads7950 => ⟨4, 12⟩
  | .ads7951 => ⟨8, 12⟩
  | .ads7952 => ⟨12, 12⟩
  | .ads7953 => ⟨16, 12⟩
  | .ads7954 => ⟨4, 10⟩
  | .ads7955 => ⟨8, 10⟩
  | .ads7956 => ⟨12, 10⟩
  | .ads7957 => ⟨16, 10⟩
  | .ads7958 => ⟨4, 8⟩
  | .ads7959 => ⟨8, 8⟩
  | .ads7960 => ⟨12, 8⟩
  | .ads7961 => ⟨16, 8⟩

/-- The place of the part in the datasheet. -/
def ordinal (part : Part) : Nat :=
  all.idxOf part

/-- How many inputs the part has. -/
def inputs (part : Part) : Nat :=
  part.profile.inputs

/-- Finds a part by its identifier. -/
def ofDeviceId? (id : String) : Option Part :=
  all.find? fun part => part.deviceId == id

/-- **A part is found again by its identifier.** -/
theorem ofDeviceId?_deviceId (part : Part) : ofDeviceId? part.deviceId = some part := by
  cases part <;> decide

/-- No part has more inputs than a word has channel tags, and each has some. -/
theorem inputs_bounds (part : Part) : 0 < part.inputs ∧ part.inputs ≤ maxInputs := by
  cases part <;> decide

/-- Every resolution fits the field that carries a conversion. -/
theorem resolution_bounds (part : Part) :
    0 < part.profile.resolution ∧ part.profile.resolution ≤ codeBits := by
  cases part <;> decide

end Part

end Acquisition.Converter
