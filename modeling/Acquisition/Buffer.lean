/-
# Acquisition.Buffer — a queue of whole scans

A `Buffer` holds up to `length` scans as records in a ring of bytes. Configuring it
for a layout empties it. A record that does not fit as a whole is dropped and counted
as an overrun; records are taken out as a whole too, either one at a time as scans
or as many as fit into a block of bytes. Until it is configured, and for a layout
without bytes, nothing can be taken out.

`configure?` and `withRecord` ask first whether memory can hold the ring and a record.
`push_eq` says that a scan is pushed by queueing its record.
-/

import Acquisition.Record
import Acquisition.RingBuffer

namespace Acquisition

set_option autoImplicit false

/-- A queue of scans, stored as the bytes of their records. -/
structure Buffer where
  /-- The most scans held. -/
  length : Nat := 128
  layout : RecordLayout := {}
  ring : RingBuffer UInt8 := .ofCapacity 0
  /-- Scans dropped because the buffer was full. -/
  overruns : Nat := 0

namespace Buffer

/-- An unconfigured buffer for so many scans. -/
def ofLength (length : Nat) : Buffer :=
  { length }

/-- Makes room for another layout; whatever was queued is gone. -/
def configure (buffer : Buffer) (layout : RecordLayout) : Buffer :=
  { buffer with
    layout
    ring := .ofCapacity (buffer.length * layout.bytes)
    overruns := 0 }

/-- Makes room for another layout; `none` if memory cannot hold the ring. -/
def configure? (buffer : Buffer) (layout : RecordLayout) : Option Buffer :=
  (RingBuffer.ofCapacity? 1 (buffer.length * layout.bytes)).map fun ring =>
    { buffer with layout, ring, overruns := 0 }

/-- Does what takes a block of memory for one record; `none` if memory cannot hold it. -/
def withRecord {α : Type} (buffer : Buffer) (act : Buffer → α) : Option α :=
  if buffer.layout.bytes ≤ Bytes.largestBlock then some (act buffer) else none

/-- Queues a scan and says whether it fitted. The record of one that does not fit is not
written out. -/
def push (buffer : Buffer) (samples : List UInt16) (time : Int64) : Bool × Buffer :=
  if buffer.ring.available < buffer.layout.bytes then
    (false, { buffer with overruns := buffer.overruns + 1 })
  else
    let record := buffer.layout.encode samples time
    (true, { buffer with ring := record.foldl RingBuffer.put buffer.ring })

/-- Queues scans in order and counts those that fitted; `none` if memory cannot hold the
record of one. -/
def pushAll : List (List UInt16 × Int64) → Buffer → Option (Nat × Buffer)
  | [], buffer => some (0, buffer)
  | (samples, time) :: rest, buffer =>
      (buffer.withRecord fun buffer => buffer.push samples time).bind fun pushed =>
        (pushAll rest pushed.2).map fun later => (later.1 + pushed.1.toNat, later.2)

/-- How many scans are queued. -/
def count (buffer : Buffer) : Nat :=
  if buffer.layout.bytes = 0 then 0 else buffer.ring.length / buffer.layout.bytes

/-- Whether no scan is queued. -/
def isEmpty (buffer : Buffer) : Bool :=
  buffer.count == 0

/-- Takes out the oldest record. -/
def popRecord? (buffer : Buffer) : Option (List UInt8 × Buffer) :=
  let bytes := buffer.layout.bytes
  if bytes = 0 || buffer.ring.length < bytes then none
  else
    let taken := buffer.ring.dequeueMany bytes
    some (taken.1, { buffer with ring := taken.2 })

/-- Takes out the oldest scan. -/
def popScan? (buffer : Buffer) : Option (Scan × Buffer) :=
  match buffer.popRecord? with
  | none => none
  | some (record, buffer) =>
      (buffer.layout.decode? record).map fun scan => (scan, buffer)

/-- Takes out up to so many of the oldest records, back to back. -/
def popRecords : Nat → Buffer → List UInt8 × Buffer
  | 0, buffer => ([], buffer)
  | count + 1, buffer =>
      match buffer.popRecord? with
      | none => ([], buffer)
      | some (record, buffer) =>
          let rest := popRecords count buffer
          (record ++ rest.1, rest.2)

/-- Takes out as many whole records as fit into so many bytes. -/
def readBytes (buffer : Buffer) (size : Nat) : List UInt8 × Buffer :=
  popRecords (size / buffer.layout.bytes) buffer

/-- Writes as many whole records as fit over the front of a block of bytes. -/
def readInto (buffer : Buffer) (block : List UInt8) : Nat × List UInt8 × Buffer :=
  let taken := buffer.readBytes block.length
  (taken.1.length, taken.1 ++ block.drop taken.1.length, taken.2)

/-- Takes out scans until none is left, at most so many. -/
def popScans : Nat → Buffer → List Scan × Buffer
  | 0, buffer => ([], buffer)
  | count + 1, buffer =>
      match buffer.popScan? with
      | none => ([], buffer)
      | some (scan, buffer) =>
          let rest := popScans count buffer
          (scan :: rest.1, rest.2)

/-- Takes out every scan. -/
def popAll (buffer : Buffer) : List Scan × Buffer :=
  buffer.popScans buffer.count

/-- Whenever memory can hold the ring, asking first changes nothing. -/
theorem configure?_eq_some_iff (buffer : Buffer) (layout : RecordLayout) :
    buffer.configure? layout = some (buffer.configure layout) ↔
      buffer.length * layout.bytes < Bytes.largestBlock := by
  simp only [configure?, RingBuffer.ofCapacity?, configure, Nat.one_mul, Nat.succ_le_iff]
  split <;> simp_all

/-- **Pushing a scan queues its record as a whole, or counts an overrun.** -/
theorem push_eq (buffer : Buffer) (samples : List UInt16) (time : Int64) :
    buffer.push samples time =
      match buffer.ring.enqueueAll (buffer.layout.encode samples time) with
      | (true, ring) => (true, { buffer with ring })
      | (false, ring) => (false, { buffer with ring, overruns := buffer.overruns + 1 }) := by
  simp only [push, RingBuffer.enqueueAll, RecordLayout.length_encode]
  split <;> rfl

end Buffer

end Acquisition
