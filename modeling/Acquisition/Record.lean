/-
# Acquisition.Record — the bytes of one scan

A scan is stored as one record: its samples in order, two bytes each, and then, if
the layout has one, the time of the scan at the next multiple of eight. A layout
fixes how many samples a record has: of a longer list of samples the rest is dropped,
a shorter one is filled up with zeros.

`length_encode` says that every record has the size of its layout, `decode?_eq_none_iff`
that exactly the records too short for the layout cannot be read.
-/

import Acquisition.Bytes

namespace Acquisition

set_option autoImplicit false

/-- What a record holds. -/
structure RecordLayout where
  samples : Nat := 0
  timestamp : Bool := false
  deriving DecidableEq

/-- One scan as it is read back. -/
structure Scan where
  samples : List UInt16
  /-- The time of the scan, in nanoseconds. -/
  timestamp : Option Int64
  deriving DecidableEq

namespace RecordLayout

/-- Bytes the samples take up. -/
def sampleBytes (layout : RecordLayout) : Nat :=
  layout.samples * 2

/-- Where the time stands: at the first multiple of eight past the samples. -/
def stampOffset (layout : RecordLayout) : Nat :=
  (layout.sampleBytes + 7) / 8 * 8

/-- Bytes of a record. -/
def bytes (layout : RecordLayout) : Nat :=
  if layout.timestamp then layout.stampOffset + 8 else layout.sampleBytes

/-- The record of a scan. -/
def encode (layout : RecordLayout) (samples : List UInt16) (time : Int64) : List UInt8 :=
  let body := (samples.take layout.samples).flatMap Bytes.ofWord
  if layout.timestamp then
    body ++ List.replicate (layout.stampOffset - body.length) 0 ++ Bytes.ofTime time
  else
    body ++ List.replicate (layout.sampleBytes - body.length) 0

/-- Reads a record that is long enough. -/
def decode? (layout : RecordLayout) (record : List UInt8) : Option Scan :=
  if record.length < layout.bytes then none
  else
    some
      { samples := Bytes.toWords (record.take layout.sampleBytes)
        timestamp :=
          if layout.timestamp then
            some (Bytes.toTime ((record.drop layout.stampOffset).take 8))
          else none }

theorem decode?_eq_none_iff (layout : RecordLayout) (record : List UInt8) :
    layout.decode? record = none ↔ record.length < layout.bytes := by
  simp [decode?]

theorem sampleBytes_le_stampOffset (layout : RecordLayout) :
    layout.sampleBytes ≤ layout.stampOffset := by
  simp only [stampOffset]
  omega

theorem length_flatMap_ofWord (words : List UInt16) :
    (words.flatMap Bytes.ofWord).length = words.length * 2 := by
  induction words with
  | nil => rfl
  | cons word rest ih =>
      simp only [List.flatMap_cons, List.length_append, ih, List.length_cons, Bytes.ofWord,
        Bytes.length_ofNat]
      omega

/-- **Every record has the size of its layout.** -/
theorem length_encode (layout : RecordLayout) (samples : List UInt16) (time : Int64) :
    (layout.encode samples time).length = layout.bytes := by
  have body : (samples.take layout.samples).length * 2 ≤ layout.sampleBytes := by
    simp only [sampleBytes, List.length_take]
    omega
  have place := layout.sampleBytes_le_stampOffset
  simp only [encode, bytes]
  split
  · simp only [List.length_append, List.length_replicate, length_flatMap_ofWord, Bytes.ofTime,
      Bytes.length_ofNat]
    omega
  · simp only [List.length_append, List.length_replicate, length_flatMap_ofWord]
    omega

end RecordLayout

end Acquisition
