/-
# Acquisition.Converter.Command — control words and response words

A control word, most significant bit first:

| 15..12 | 11    | 10..7 | 6     | 5..0 |
|--------|-------|-------|-------|------|
| mode   | write | input | range | 0    |

A response word carries the input it belongs to in bits 15..12 (`Response.tag`)
and the conversion in bits 11..0 (`Response.code`).
-/

import Acquisition.Converter.Part

namespace Acquisition.Converter

set_option autoImplicit false

/-- The mode in which the input is chosen by hand. -/
def manualBit : UInt16 := 0x1000

/-- Makes the part take over the mode, input and range of the word. -/
def writeBit : UInt16 := 0x0800

/-- The input range of twice the reference. -/
def rangeBit : UInt16 := 0x0040

/-- The input range: up to the reference, or up to twice the reference. -/
inductive Range where
  | single
  | double
  deriving DecidableEq, Inhabited

/-- What every control word asks for besides the input. -/
structure Settings where
  manual : Bool := false
  doubled : Bool := false
  deriving DecidableEq

namespace Settings

/-- Choosing inputs by hand over the given range. -/
def ofRange : Range → Settings
  | .single => ⟨true, false⟩
  | .double => ⟨true, true⟩

/-- Choosing inputs by hand over the range of twice the reference. -/
def standard : Settings :=
  ofRange .double

/-- Asks for whatever either asks for. -/
def union (a b : Settings) : Settings :=
  ⟨a.manual || b.manual, a.doubled || b.doubled⟩

/-- Whether all that `b` asks for is asked for by `a`. -/
def contains (a b : Settings) : Bool :=
  (a.manual || !b.manual) && (a.doubled || !b.doubled)

/-- The bits of a control word that ask for the settings. -/
def bits (settings : Settings) : UInt16 :=
  (if settings.manual then manualBit else 0) ||| (if settings.doubled then rangeBit else 0)

/-- The input range asked for. -/
def range (settings : Settings) : Range :=
  if settings.doubled then .double else .single

/-- The full-scale input in millivolts for a reference in microvolts: whole millivolts
of the reference, twice over for the doubled range. -/
def fullScale (settings : Settings) (reference : Int) : Int :=
  let millivolts := reference.tdiv 1000
  match settings.range with
  | .single => millivolts
  | .double => millivolts * 2

end Settings

/-- The control word that asks for a conversion of an input. -/
def command (input : UInt8) (settings : Settings) : UInt16 :=
  manualBit ||| writeBit ||| ((input.toUInt16 &&& 0xF) <<< 7) ||| settings.bits

/-- A word sent by a part. -/
structure Response where
  word : UInt16
  deriving DecidableEq

namespace Response

/-- The input the conversion belongs to. -/
def tag (response : Response) : UInt8 :=
  (response.word >>> 12).toUInt8

/-- The conversion, left-aligned in twelve bits. -/
def code (response : Response) : UInt16 :=
  response.word &&& 0x0FFF

end Response

end Acquisition.Converter
