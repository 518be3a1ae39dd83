/-
# Acquisition.Proofs.ScanQueue — a buffer is a queue of whole scans

A buffer stores scans as the bytes of their records in one ring, and the ring may wrap
in the middle of a record. `Queues` says what the ring holds: the records of a list of
scans, one behind the other, each as long as the layout says, with room for as many
as the buffer is to hold. Every operation of a buffer is an operation on that list:
pushing appends (`push_queues`), taking a scan takes the first (`popScan?_queues`),
reading bytes takes the records of the first few (`readBytes_queues`), and configuring
empties it (`configure_queues`).

A scan survives its record (`decode?_record`), and the record of any samples is the
record of the scan they are cut or filled up to (`record_fit`).
-/
import Acquisition.Buffer

namespace Acquisition

set_option autoImplicit false

/-! ## Numbers read back from bytes -/

namespace Bytes

theorem toWords_flatMap_ofWord (words : List UInt16) : toWords (words.flatMap ofWord) = words := by
  induction words with
  | nil => rfl
  | cons word rest ih =>
      have small : word.toNat < 256 ^ 2 := by simpa using word.toNat_lt
      have head : UInt16.ofNat (toNat (ofNat 2 word.toNat)) = word := by
        rw [toNat_ofNat, Nat.mod_eq_of_lt small, UInt16.ofNat_toNat]
      rw [List.flatMap_cons]
      simp only [ofWord, ofNat, List.cons_append, List.nil_append, toWords, List.cons.injEq]
      exact ⟨head, ih⟩

theorem toTime_ofTime (time : Int64) : toTime (ofTime time) = time := by
  have small : time.toUInt64.toNat < 256 ^ 8 := by simpa using time.toUInt64.toNat_lt
  rw [toTime, ofTime, toNat_ofNat, Nat.mod_eq_of_lt small, UInt64.ofNat_toNat]
  rfl

theorem flatMap_ofWord_zeros (count : Nat) :
    (List.replicate count (0 : UInt16)).flatMap ofWord = List.replicate (count * 2) 0 := by
  induction count with
  | zero => rfl
  | succ count ih =>
      rw [List.replicate_succ, List.flatMap_cons, ih, Nat.succ_mul]
      rfl

end Bytes

/-! ## Scans and their records -/

namespace RecordLayout

/-- A scan with as many samples as a record of the layout, and with a time just if the
layout has one. -/
structure Fits (layout : RecordLayout) (scan : Scan) : Prop where
  samples : scan.samples.length = layout.samples
  timestamp : scan.timestamp.isSome = layout.timestamp

/-- Samples cut or filled up to a scan of the layout. -/
def fit (layout : RecordLayout) (samples : List UInt16) (time : Int64) : Scan where
  samples := samples.take layout.samples ++ List.replicate (layout.samples - samples.length) 0
  timestamp := if layout.timestamp then some time else none

/-- The record of a scan of the layout. -/
def record (layout : RecordLayout) (scan : Scan) : List UInt8 :=
  layout.encode scan.samples (scan.timestamp.getD 0)

theorem fits_fit (layout : RecordLayout) (samples : List UInt16) (time : Int64) :
    layout.Fits (layout.fit samples time) := by
  constructor
  · simp only [fit, List.length_append, List.length_take, List.length_replicate]
    omega
  · cases stamped : layout.timestamp <;> simp [fit, stamped]

/-- Samples that are as many as the layout says are kept as they are. -/
theorem fit_exact {layout : RecordLayout} {samples : List UInt16} (time : Int64)
    (exact : samples.length = layout.samples) :
    layout.fit samples time = ⟨samples, if layout.timestamp then some time else none⟩ := by
  simp [fit, ← exact]

@[simp] theorem length_record (layout : RecordLayout) (scan : Scan) :
    (layout.record scan).length = layout.bytes :=
  layout.length_encode _ _

/-- Filling up the samples with zeros or their bytes comes to the same. -/
theorem padded_fit (layout : RecordLayout) (samples : List UInt16) (time : Int64) {total : Nat}
    (room : layout.sampleBytes ≤ total) :
    let body := (layout.fit samples time).samples.flatMap Bytes.ofWord
    let cut := (samples.take layout.samples).flatMap Bytes.ofWord
    body ++ List.replicate (total - body.length) 0 =
      cut ++ List.replicate (total - cut.length) 0 := by
  intro body cut
  have filled : body = cut ++ List.replicate ((layout.samples - samples.length) * 2) 0 := by
    simp only [body, fit, List.flatMap_append, Bytes.flatMap_ofWord_zeros, cut]
  have width : cut.length = min layout.samples samples.length * 2 := by
    simp only [cut, length_flatMap_ofWord, List.length_take]
  simp only [sampleBytes] at room
  rw [filled, List.append_assoc, List.replicate_append_replicate, List.length_append,
    List.length_replicate, width]
  congr 2
  omega

/-- **Any samples have the record of the scan they are cut or filled up to.** -/
theorem record_fit (layout : RecordLayout) (samples : List UInt16) (time : Int64) :
    layout.record (layout.fit samples time) = layout.encode samples time := by
  have whole : (layout.fit samples time).samples.take layout.samples =
      (layout.fit samples time).samples :=
    List.take_of_length_le (Nat.le_of_eq (layout.fits_fit samples time).samples)
  have stamp : layout.timestamp = true → (layout.fit samples time).timestamp.getD 0 = time := by
    intro stamped
    simp [fit, stamped]
  simp only [record, encode, whole]
  split
  · next stamped =>
      rw [stamp stamped, padded_fit layout samples time layout.sampleBytes_le_stampOffset]
  · exact padded_fit layout samples time (Nat.le_refl _)

/-- **A scan survives its record.** -/
theorem decode?_record {layout : RecordLayout} {scan : Scan} (fits : layout.Fits scan) :
    layout.decode? (layout.record scan) = some scan := by
  have whole : scan.samples.take layout.samples = scan.samples :=
    List.take_of_length_le (Nat.le_of_eq fits.samples)
  have width : (scan.samples.flatMap Bytes.ofWord).length = layout.sampleBytes := by
    rw [length_flatMap_ofWord, fits.samples, sampleBytes]
  have long : ¬ (layout.record scan).length < layout.bytes := by simp
  have place := layout.sampleBytes_le_stampOffset
  have samples : Bytes.toWords ((layout.record scan).take layout.sampleBytes) = scan.samples := by
    simp only [record, encode, whole, List.append_assoc]
    split <;> rw [List.take_left' width, Bytes.toWords_flatMap_ofWord]
  have timestamp : (if layout.timestamp then
      some (Bytes.toTime (((layout.record scan).drop layout.stampOffset).take 8)) else none) =
        scan.timestamp := by
    cases stamped : layout.timestamp with
    | false =>
        have absent := fits.timestamp
        rw [stamped] at absent
        rw [Option.isSome_eq_false_iff, Option.isNone_iff_eq_none] at absent
        exact absent.symm
    | true =>
        have present := fits.timestamp
        rw [stamped, Option.isSome_iff_exists] at present
        obtain ⟨time, same⟩ := present
        have before : (scan.samples.flatMap Bytes.ofWord ++
            List.replicate (layout.stampOffset - layout.sampleBytes) 0).length =
              layout.stampOffset := by
          rw [List.length_append, width, List.length_replicate]
          omega
        simp only [record, encode, whole, stamped, if_true, width, same, Option.getD_some]
        have eight : (Bytes.ofTime time).length ≤ 8 := Nat.le_of_eq (Bytes.length_ofNat 8 _)
        rw [List.drop_left' before, List.take_of_length_le eight, Bytes.toTime_ofTime]
  rw [decode?, if_neg long, samples, timestamp]

end RecordLayout

/-! ## Blocks of bytes in a ring -/

namespace RingBuffer

variable {α : Type} [Inhabited α]

/-- Taking one element takes the first of the queue and keeps the room. -/
theorem dequeue_cons {ring : RingBuffer α} {value : α} {rest : List α}
    (queued : ring.toList = value :: rest) :
    ∃ after, ring.dequeue = some (value, after) ∧ after.toList = rest ∧
      after.capacity = ring.capacity := by
  have taken := ring.dequeue_eq
  rw [queued] at taken
  obtain ⟨⟨first, after⟩, dequeued, same⟩ := Option.map_eq_some_iff.1 taken
  obtain ⟨rfl, remaining⟩ := Prod.mk.inj same
  refine ⟨after, dequeued, remaining, ?_⟩
  simp only [dequeue] at dequeued
  split at dequeued
  · exact absurd dequeued (by simp)
  · cases dequeued
    rfl

/-- **Taking elements takes the first of the queue**, as long as there are enough. -/
theorem dequeueMany_append {block rest : List α} {ring : RingBuffer α}
    (queued : ring.toList = block ++ rest) :
    ∃ after, ring.dequeueMany block.length = (block, after) ∧ after.toList = rest ∧
      after.capacity = ring.capacity := by
  induction block generalizing ring with
  | nil => exact ⟨ring, rfl, queued, rfl⟩
  | cons value block ih =>
      obtain ⟨next, dequeued, remaining, room⟩ := dequeue_cons queued
      obtain ⟨after, taken, left, kept⟩ := ih remaining
      refine ⟨after, ?_, left, kept.trans room⟩
      simp only [List.length_cons, dequeueMany, dequeued, taken]

end RingBuffer

/-! ## The queue -/

namespace Buffer

/-- A buffer whose ring has room for its records and holds those of the listed scans. -/
structure Queues (buffer : Buffer) (scans : List Scan) : Prop where
  room : buffer.ring.capacity = buffer.length * buffer.layout.bytes
  records : buffer.ring.toList = scans.flatMap buffer.layout.record
  fits : ∀ scan ∈ scans, buffer.layout.Fits scan
  bytes : scans = [] ∨ 0 < buffer.layout.bytes

theorem length_records (layout : RecordLayout) (scans : List Scan) :
    (scans.flatMap layout.record).length = scans.length * layout.bytes := by
  induction scans with
  | nil => simp
  | cons scan rest ih =>
      simp only [List.flatMap_cons, List.length_append, RecordLayout.length_record, ih,
        List.length_cons, Nat.succ_mul]
      omega

namespace Queues

variable {buffer : Buffer} {scans : List Scan}

theorem ring_length (queues : buffer.Queues scans) :
    buffer.ring.length = scans.length * buffer.layout.bytes := by
  rw [← RingBuffer.length_toList, queues.records, length_records]

/-- The number of scans is the number the buffer gives. -/
theorem count (queues : buffer.Queues scans) : buffer.count = scans.length := by
  unfold Buffer.count
  rcases queues.bytes with rfl | positive
  · simp [queues.ring_length]
  · rw [if_neg (Nat.ne_of_gt positive), queues.ring_length, Nat.mul_div_cancel _ positive]

end Queues

/-- An unconfigured buffer holds nothing. -/
theorem ofLength_queues (length : Nat) : (ofLength length).Queues [] where
  room := by
    show 0 = length * 0
    omega
  records := RingBuffer.toList_ofCapacity 0
  fits := by simp
  bytes := by simp

/-- **Configuring empties the queue.** -/
theorem configure_queues (buffer : Buffer) (layout : RecordLayout) :
    (buffer.configure layout).Queues [] where
  room := rfl
  records := RingBuffer.toList_ofCapacity _
  fits := by simp
  bytes := by simp

/-- **Pushing appends a scan if there is room for it, and counts an overrun if not.** -/
theorem push_queues {buffer : Buffer} {scans : List Scan} (queues : buffer.Queues scans)
    (positive : 0 < buffer.layout.bytes) (samples : List UInt16) (time : Int64) :
    let pushed := buffer.push samples time
    let room := scans.length < buffer.length
    pushed.1 = decide room ∧
      pushed.2.Queues (if room then scans ++ [buffer.layout.fit samples time] else scans) ∧
      pushed.2.layout = buffer.layout ∧ pushed.2.length = buffer.length ∧
      pushed.2.overruns = buffer.overruns + if room then 0 else 1 := by
  intro pushed room
  have width := buffer.layout.length_encode samples time
  have available : buffer.ring.available =
      (buffer.length - scans.length) * buffer.layout.bytes := by
    rw [RingBuffer.available, queues.room, queues.ring_length, Nat.sub_mul]
  by_cases fitting : room
  · have enough : buffer.layout.bytes ≤ buffer.ring.available := by
      rw [available]
      exact Nat.le_mul_of_pos_left _ (Nat.sub_pos_of_lt fitting)
    obtain ⟨records, capacity⟩ := RingBuffer.toList_foldl_put
      (buffer.layout.encode samples time) buffer.ring (width.symm ▸ enough)
    let ring := (buffer.layout.encode samples time).foldl RingBuffer.put buffer.ring
    have done : pushed = (true, { buffer with ring }) := by
      simp only [pushed, push, if_neg (Nat.not_lt.2 enough), ring]
    rw [if_pos fitting, if_pos fitting, decide_eq_true fitting, done]
    refine ⟨rfl, ⟨capacity.trans queues.room, ?_, ?_, .inr positive⟩, rfl, rfl, rfl⟩
    · show ring.toList = _
      rw [records, queues.records, List.flatMap_append, List.flatMap_singleton,
        RecordLayout.record_fit]
    · intro scan member
      rcases List.mem_append.1 member with old | new
      · exact queues.fits scan old
      · rw [List.mem_singleton.1 new]
        exact buffer.layout.fits_fit samples time
  · have little : buffer.ring.available < buffer.layout.bytes := by
      have all : buffer.length - scans.length = 0 := Nat.sub_eq_zero_of_le (Nat.not_lt.1 fitting)
      rw [available, all, Nat.zero_mul]
      exact positive
    have done : pushed = (false, { buffer with overruns := buffer.overruns + 1 }) := by
      simp only [pushed, push, if_pos little]
    rw [if_neg fitting, if_neg fitting, decide_eq_false fitting, done]
    exact ⟨rfl, ⟨queues.room, queues.records, queues.fits, queues.bytes⟩, rfl, rfl, rfl⟩

/-- Taking a record takes that of the first scan. -/
theorem popRecord?_queues {buffer : Buffer} {scan : Scan} {rest : List Scan}
    (queues : buffer.Queues (scan :: rest)) :
    ∃ ring, buffer.popRecord? = some (buffer.layout.record scan, { buffer with ring }) ∧
      Queues { buffer with ring } rest := by
  have positive : 0 < buffer.layout.bytes := by
    rcases queues.bytes with empty | positive
    · exact absurd empty (by simp)
    · exact positive
  have enough : ¬ buffer.ring.length < buffer.layout.bytes := by
    rw [queues.ring_length, List.length_cons, Nat.succ_mul]
    omega
  have records := queues.records
  rw [List.flatMap_cons] at records
  obtain ⟨ring, taken, left, room⟩ := RingBuffer.dequeueMany_append records
  rw [RecordLayout.length_record] at taken
  refine ⟨ring, ?_, ?_⟩
  · simp [popRecord?, Nat.ne_of_gt positive, enough, taken]
  · exact ⟨room.trans queues.room, left,
      fun other member => queues.fits other (List.mem_cons_of_mem _ member), .inr positive⟩

theorem popRecord?_queues_nil {buffer : Buffer} (queues : buffer.Queues []) :
    buffer.popRecord? = none := by
  have empty : buffer.ring.length = 0 := by simpa using queues.ring_length
  simp only [popRecord?, empty, ite_eq_left_iff]
  intro inside
  simp only [Bool.or_eq_true, decide_eq_true_eq] at inside
  omega

/-- **Taking a scan takes the first one.** -/
theorem popScan?_queues {buffer : Buffer} {scan : Scan} {rest : List Scan}
    (queues : buffer.Queues (scan :: rest)) :
    ∃ ring, buffer.popScan? = some (scan, { buffer with ring }) ∧
      Queues { buffer with ring } rest := by
  obtain ⟨ring, taken, left⟩ := popRecord?_queues queues
  refine ⟨ring, ?_, left⟩
  have decoded := RecordLayout.decode?_record (queues.fits scan List.mem_cons_self)
  simp only [popScan?, taken, decoded, Option.map_some]

theorem popScan?_queues_nil {buffer : Buffer} (queues : buffer.Queues []) :
    buffer.popScan? = none := by
  simp only [popScan?, popRecord?_queues_nil queues]

/-- **Reading bytes takes the records of the first scans, back to back.** -/
theorem popRecords_queues (count : Nat) {buffer : Buffer} {scans : List Scan}
    (queues : buffer.Queues scans) :
    ∃ ring, buffer.popRecords count =
        ((scans.take count).flatMap buffer.layout.record, { buffer with ring }) ∧
      Queues { buffer with ring } (scans.drop count) := by
  induction count generalizing buffer scans with
  | zero => exact ⟨buffer.ring, rfl, queues⟩
  | succ count ih =>
      cases scans with
      | nil =>
          refine ⟨buffer.ring, ?_, queues⟩
          simp only [popRecords, popRecord?_queues_nil queues, List.take_nil, List.flatMap_nil]
      | cons scan rest =>
          obtain ⟨next, taken, left⟩ := popRecord?_queues queues
          obtain ⟨ring, read, remaining⟩ := ih left
          refine ⟨ring, ?_, remaining⟩
          simp only [popRecords, taken, read, List.take_succ_cons, List.flatMap_cons]

theorem readBytes_queues (size : Nat) {buffer : Buffer} {scans : List Scan}
    (queues : buffer.Queues scans) :
    let count := size / buffer.layout.bytes
    ∃ ring, buffer.readBytes size =
        ((scans.take count).flatMap buffer.layout.record, { buffer with ring }) ∧
      Queues { buffer with ring } (scans.drop count) :=
  popRecords_queues _ queues

/-- **Taking every scan takes them in the order they came.** -/
theorem popScans_queues {buffer : Buffer} {scans : List Scan} (queues : buffer.Queues scans) :
    ∃ ring, buffer.popScans scans.length = (scans, { buffer with ring }) ∧
      Queues { buffer with ring } [] := by
  induction scans generalizing buffer with
  | nil => exact ⟨buffer.ring, rfl, queues⟩
  | cons scan rest ih =>
      obtain ⟨next, taken, left⟩ := popScan?_queues queues
      obtain ⟨ring, others, empty⟩ := ih left
      refine ⟨ring, ?_, empty⟩
      simp only [List.length_cons, popScans, taken, others]

theorem popAll_queues {buffer : Buffer} {scans : List Scan} (queues : buffer.Queues scans) :
    ∃ ring, buffer.popAll = (scans, { buffer with ring }) ∧ Queues { buffer with ring } [] := by
  rw [popAll, queues.count]
  exact popScans_queues queues

end Buffer

/-! ## Scans out of bytes -/

namespace RecordLayout

/-- The scans of the first records in a block. -/
def scansAt (layout : RecordLayout) : Nat → List UInt8 → List Scan
  | 0, _ => []
  | count + 1, block =>
      (layout.decode? (block.take layout.bytes)).toList ++
        layout.scansAt count (block.drop layout.bytes)

/-- The scans of the whole records in a block. -/
def scansIn (layout : RecordLayout) (block : List UInt8) : List Scan :=
  layout.scansAt (block.length / layout.bytes) block

theorem scansAt_records {layout : RecordLayout} {scans : List Scan}
    (fits : ∀ scan ∈ scans, layout.Fits scan) :
    layout.scansAt scans.length (scans.flatMap layout.record) = scans := by
  induction scans with
  | nil => rfl
  | cons scan rest ih =>
      have width := layout.length_record scan
      rw [List.flatMap_cons, List.length_cons, scansAt, List.take_left' width,
        List.drop_left' width, decode?_record (fits scan List.mem_cons_self),
        ih fun other member => fits other (List.mem_cons_of_mem _ member)]
      rfl

/-- **Records back to back are read as the scans they were made from.** -/
theorem scansIn_records {layout : RecordLayout} {scans : List Scan} (positive : 0 < layout.bytes)
    (fits : ∀ scan ∈ scans, layout.Fits scan) :
    layout.scansIn (scans.flatMap layout.record) = scans := by
  rw [scansIn, Buffer.length_records, Nat.mul_div_cancel _ positive]
  exact scansAt_records fits

end RecordLayout

/-- Any of the first records of a queue are read as the first scans. -/
theorem Buffer.Queues.scansIn_take {buffer : Buffer} {scans : List Scan}
    (queues : buffer.Queues scans) (count : Nat) :
    buffer.layout.scansIn ((scans.take count).flatMap buffer.layout.record) = scans.take count := by
  rcases queues.bytes with rfl | positive
  · rw [List.take_nil, List.flatMap_nil, RecordLayout.scansIn, List.length_nil, Nat.zero_div]
    rfl
  · refine RecordLayout.scansIn_records positive fun scan member => ?_
    exact queues.fits scan (List.mem_of_mem_take member)

end Acquisition
