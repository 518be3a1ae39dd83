/-
# Acquisition.Channel — what a device can measure

A `Channel` is one thing a device can be read for: a voltage, or the time of a scan.
It says where its sample stands in a scan (`scanIndex`), how a stored sample is to be
understood (`SampleFormat`), and which attributes it answers for, on its own or for
all channels of its kind together.
-/

import Acquisition.Power

namespace Acquisition

set_option autoImplicit false

/-- What a channel can be asked for. -/
inductive Attribute where
  | raw
  | processed
  | scale
  | offset
  deriving DecidableEq

namespace Attribute

/-- Every attribute, in order. -/
def all : List Attribute :=
  [.raw, .processed, .scale, .offset]

/-- The word for an attribute. -/
def name : Attribute → String
  | .raw => "raw"
  | .processed => "processed"
  | .scale => "scale"
  | .offset => "offset"

/-- The place of an attribute in a set of attributes. -/
def position : Attribute → Nat
  | .raw => 0
  | .processed => 1
  | .scale => 2
  | .offset => 3

/-- Reads the word for an attribute. -/
def ofName? (word : String) : Option Attribute :=
  all.find? fun asked => asked.name == word

theorem ofName?_name (asked : Attribute) : ofName? asked.name = some asked := by
  cases asked <;> decide

end Attribute

/-- A set of attributes. -/
structure AttributeSet where
  bits : Nat := 0
  deriving DecidableEq

namespace AttributeSet

/-- Adds an attribute. -/
def insert (set : AttributeSet) (asked : Attribute) : AttributeSet :=
  ⟨set.bits ||| 2 ^ asked.position⟩

/-- The set of the listed attributes. -/
def ofList (attributes : List Attribute) : AttributeSet :=
  attributes.foldl insert {}

/-- Whether an attribute is in the set. -/
def contains (set : AttributeSet) (asked : Attribute) : Bool :=
  set.bits.testBit asked.position

/-- The attributes in the set, in order. -/
def toList (set : AttributeSet) : List Attribute :=
  Attribute.all.filter set.contains

/-- Whether no attribute is in the set. -/
def isEmpty (set : AttributeSet) : Bool :=
  set.bits == 0

/-- An insertion adds the attribute and no other. -/
theorem contains_insert (set : AttributeSet) (asked other : Attribute) :
    (set.insert asked).contains other =
      (set.contains other || decide (asked = other)) := by
  have position : asked.position = other.position ↔ asked = other := by
    cases asked <;> cases other <;> decide
  simp [insert, contains, Nat.testBit_or, Nat.testBit_two_pow, position]

end AttributeSet

/-- The order of the bytes of a stored sample. -/
inductive ByteOrder where
  | cpu
  | big
  | little
  deriving DecidableEq

/-- How a stored sample is to be understood. -/
structure SampleFormat where
  signed : Bool
  /-- Bits that carry the value. -/
  realBits : Nat
  /-- Bits the sample takes up. -/
  storageBits : Nat
  /-- Bits below the value. -/
  shift : Nat
  order : ByteOrder
  deriving DecidableEq

/-- The value in a stored sample: what is left above the shift, cut down to the bits
that carry the value. -/
def SampleFormat.decode (format : SampleFormat) (sample : UInt16) : UInt16 :=
  UInt16.ofNat (sample.toNat / 2 ^ format.shift % 2 ^ format.realBits)

/-- The kinds of channel. -/
inductive ChannelKind where
  | voltage
  | timestamp
  deriving DecidableEq

/-- One thing a device can be read for. -/
structure Channel where
  kind : ChannelKind
  /-- The number of the channel among those of its kind. -/
  number : Nat
  /-- What the provider of the device knows the channel by. -/
  address : Nat
  name : String
  /-- The place of the sample in a scan. -/
  scanIndex : Nat
  format : SampleFormat
  /-- What the channel answers for on its own. -/
  separate : AttributeSet
  /-- What it answers for together with all channels of its kind. -/
  shared : AttributeSet
  deriving DecidableEq

namespace Channel

/-- The number of a channel that is not numbered. -/
def unnumbered : Nat := 0xFFFFFFFF

/-- An unsigned voltage with a raw value of its own and a scale shared by all voltages. -/
def voltage (index : Nat) (name : String) (realBits storageBits shift : Nat) : Channel where
  kind := .voltage
  number := index
  address := index
  name
  scanIndex := index
  format := ⟨false, realBits, storageBits, shift, .cpu⟩
  separate := .ofList [.raw]
  shared := .ofList [.scale]

/-- The time of a scan, as sixty-four signed bits of nanoseconds. -/
def timestamp (scanIndex : Nat) : Channel where
  kind := .timestamp
  number := unnumbered
  address := 0
  name := "timestamp"
  scanIndex
  format := ⟨true, 64, 64, 0, .cpu⟩
  separate := {}
  shared := {}

/-- Whether the channel answers for an attribute. -/
def supports (channel : Channel) (asked : Attribute) : Bool :=
  channel.separate.contains asked || channel.shared.contains asked

/-- The text of a channel. -/
def text (channel : Channel) : String :=
  match channel.kind with
  | .voltage => s!"in_voltage{channel.number}"
  | .timestamp => "in_timestamp"

end Channel

end Acquisition
