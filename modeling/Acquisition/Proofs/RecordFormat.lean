/-
# Acquisition.Proofs.RecordFormat — what stands where in a record

A record can be written and read in another way than `encode` and `decode?` do it. It can
be filled in place (`fillIn`): a block of zeros of the record's size, over whose front the
samples go in steps of two bytes, and only a limit on their number keeps them out of the
padding and the time; then the time goes over its own eight bytes. And it can be read piece
by piece (`pieces?`), where each piece has to be there and nobody asks for the size of the
whole. `fillIn_eq` and `pieces?_eq` say that these come to the same.

`encode_decode?_iff` is the way back: a record of the right size is written again byte for
byte from what it is read as, just if its padding is zero.

The records that leave a buffer as bytes stand back to back (`delivered_eq`). If their
layouts have a time, each time stands at a multiple of eight of the whole stream
(`stamp_at`), whatever else the buffer is asked in between.
-/
import Acquisition.Proofs.BoundedQueue

namespace Acquisition

set_option autoImplicit false

/-! ## Bytes written back from what they are read as -/

namespace Bytes

theorem toNat_lt (block : List UInt8) : toNat block < 256 ^ block.length := by
  have same := toNat_ofNat block.length (toNat block)
  rw [ofNat_toNat] at same
  rw [same]
  exact Nat.mod_lt _ (Nat.pow_pos (by decide))

theorem length_toWords (block : List UInt8) : (toWords block).length = block.length / 2 := by
  fun_induction toWords block with
  | case1 low high rest ih =>
      simp only [List.length_cons, ih]
      omega
  | case2 block short =>
      match block, short with
      | [], _ => rfl
      | [_], _ => simp
      | low :: high :: rest, short => exact absurd rfl (short low high rest)

theorem ofWord_ofNat_toNat (low high : UInt8) :
    ofWord (UInt16.ofNat (toNat [low, high])) = [low, high] := by
  have small : toNat [low, high] < 256 ^ 2 := toNat_lt [low, high]
  have same := ofNat_toNat [low, high]
  rwa [ofWord, UInt16.toNat_ofNat_of_lt' (by simpa using small)]

/-- Whole pairs of bytes are written back from their words. -/
theorem flatMap_ofWord_toWords (block : List UInt8) (even : 2 ∣ block.length) :
    (toWords block).flatMap ofWord = block := by
  fun_induction toWords block with
  | case1 low high rest ih =>
      have rest_even : 2 ∣ rest.length := by
        simp only [List.length_cons] at even
        omega
      rw [List.flatMap_cons, ih rest_even, ofWord_ofNat_toNat]
      rfl
  | case2 block short =>
      match block, short with
      | [], _ => rfl
      | [_], _ => exact absurd even (by simp)
      | low :: high :: rest, short => exact absurd rfl (short low high rest)

/-- Eight bytes are written back from their time. -/
theorem ofTime_toTime {block : List UInt8} (eight : block.length = 8) :
    ofTime (toTime block) = block := by
  have small : toNat block < 256 ^ 8 := eight ▸ toNat_lt block
  have same := ofNat_toNat block
  rw [eight] at same
  rw [ofTime, toTime, UInt64.toUInt64_toInt64, UInt64.toNat_ofNat_of_lt' (by simpa using small),
    same]

theorem length_ofTime (time : Int64) : (ofTime time).length = 8 :=
  length_ofNat 8 _

/-- So many bytes of a block from one place on; `none` unless all of them are there. -/
def piece? (block : List UInt8) (start count : Nat) : Option (List UInt8) :=
  if start + count ≤ block.length then some ((block.drop start).take count) else none

/-- Writes words over the front of a block, two bytes each, as long as there are words and
two bytes left, but at most so many. -/
def overwrite : Nat → List UInt16 → List UInt8 → List UInt8
  | limit + 1, word :: words, _ :: _ :: rest => ofWord word ++ overwrite limit words rest
  | _, _, block => block

/-- Where there is room for the words within the limit, just these go over the front. -/
theorem overwrite_eq {limit : Nat} {words : List UInt16} {block : List UInt8}
    (room : limit * 2 ≤ block.length) :
    overwrite limit words block =
      (words.take limit).flatMap ofWord ++ block.drop ((words.take limit).length * 2) := by
  fun_induction overwrite limit words block with
  | case1 limit word words first second rest ih =>
      have room' : limit * 2 ≤ rest.length := by
        simp only [List.length_cons] at room
        omega
      simp only [List.take_succ_cons, List.flatMap_cons, List.length_cons, ih room',
        List.append_assoc, Nat.succ_mul, List.drop_succ_cons]
  | case2 limit words block stuck =>
      match limit, words, block, stuck with
      | 0, _, _, _ => rfl
      | _ + 1, [], _, _ => rfl
      | limit + 1, _, [], _ => exact absurd room (by simp)
      | limit + 1, _, [_], _ =>
          simp only [List.length_cons, List.length_nil] at room
          omega
      | limit + 1, word :: words, first :: second :: rest, stuck =>
          exact absurd rfl (stuck limit word words first second rest rfl rfl)

end Bytes

namespace RecordLayout

variable {layout : RecordLayout}

/-! ## Where the time stands -/

theorem eight_dvd_stampOffset (layout : RecordLayout) : 8 ∣ layout.stampOffset :=
  Nat.dvd_mul_left 8 _

theorem stampOffset_le {place : Nat} (aligned : 8 ∣ place) (past : layout.sampleBytes ≤ place) :
    layout.stampOffset ≤ place := by
  unfold stampOffset
  omega

theorem eight_dvd_bytes (stamped : layout.timestamp = true) : 8 ∣ layout.bytes := by
  rw [bytes, if_pos stamped]
  exact Nat.dvd_add layout.eight_dvd_stampOffset (Nat.dvd_refl 8)

theorem sampleBytes_le_bytes (layout : RecordLayout) : layout.sampleBytes ≤ layout.bytes := by
  have place := layout.sampleBytes_le_stampOffset
  unfold bytes
  split <;> omega

/-! ## Filled in place, read piece by piece -/

/-- The record of a scan, filled into a block of zeros. -/
def fillIn (layout : RecordLayout) (samples : List UInt16) (time : Int64) : List UInt8 :=
  let block := Bytes.overwrite layout.samples samples (List.replicate layout.bytes 0)
  if layout.timestamp then
    block.take layout.stampOffset ++ Bytes.ofTime time ++ block.drop (layout.stampOffset + 8)
  else block

/-- Reads the pieces of a record, each of which has to be there. -/
def pieces? (layout : RecordLayout) (record : List UInt8) : Option Scan :=
  (Bytes.piece? record 0 layout.sampleBytes).bind fun words =>
    if layout.timestamp then
      (Bytes.piece? record layout.stampOffset 8).map fun stamp =>
        ⟨Bytes.toWords words, some (Bytes.toTime stamp)⟩
    else some ⟨Bytes.toWords words, none⟩

/-- **Filling in a block of zeros makes the record**: the samples stay clear of what is
behind them. -/
theorem fillIn_eq (layout : RecordLayout) (samples : List UInt16) (time : Int64) :
    layout.fillIn samples time = layout.encode samples time := by
  let body := (samples.take layout.samples).flatMap Bytes.ofWord
  have width : (samples.take layout.samples).length * 2 = body.length :=
    (length_flatMap_ofWord _).symm
  have short : body.length ≤ layout.sampleBytes := by
    rw [← width, List.length_take, sampleBytes]
    omega
  have place := layout.sampleBytes_le_stampOffset
  have room : layout.samples * 2 ≤ (List.replicate layout.bytes (0 : UInt8)).length := by
    rw [List.length_replicate]
    exact layout.sampleBytes_le_bytes
  have block : Bytes.overwrite layout.samples samples (List.replicate layout.bytes 0) =
      body ++ List.replicate (layout.bytes - body.length) 0 := by
    rw [Bytes.overwrite_eq room, width, List.drop_replicate]
  cases stamped : layout.timestamp with
  | false =>
      have plain : layout.bytes = layout.sampleBytes := by simp [bytes, stamped]
      rw [plain] at block
      simp only [fillIn, encode, stamped, Bool.false_eq_true, if_false, plain, block, body]
  | true =>
      have stretch : layout.bytes - body.length = layout.stampOffset - body.length + 8 := by
        simp only [bytes, stamped, if_true]
        omega
      let front := body ++ List.replicate (layout.stampOffset - body.length) 0
      have front_length : front.length = layout.stampOffset := by
        simp only [front, List.length_append, List.length_replicate]
        omega
      have parts : body ++ List.replicate (layout.bytes - body.length) 0 =
          front ++ List.replicate 8 0 := by
        rw [stretch, ← List.replicate_append_replicate, List.append_assoc]
      have past : (front ++ List.replicate 8 (0 : UInt8)).drop (layout.stampOffset + 8) = [] := by
        apply List.drop_of_length_le
        simp [front_length]
      simp only [fillIn, encode, block, stamped, if_true, parts, List.take_left' front_length, past,
        List.append_nil, front, body]

/-- **Reading piece by piece reads the record**, and breaks down just where it is too short. -/
theorem pieces?_eq (layout : RecordLayout) (record : List UInt8) :
    layout.pieces? record = layout.decode? record := by
  have place := layout.sampleBytes_le_stampOffset
  cases stamped : layout.timestamp with
  | false =>
      simp only [pieces?, decode?, Bytes.piece?, bytes, stamped, Bool.false_eq_true, if_false,
        Nat.zero_add, List.drop_zero]
      by_cases short : record.length < layout.sampleBytes
      · rw [if_pos short, if_neg (by omega), Option.bind_none]
      · rw [if_neg short, if_pos (by omega), Option.bind_some]
  | true =>
      simp only [pieces?, decode?, Bytes.piece?, bytes, stamped, if_true, Nat.zero_add,
        List.drop_zero]
      by_cases short : record.length < layout.stampOffset + 8
      · rw [if_pos short, if_neg (by omega : ¬ layout.stampOffset + 8 ≤ record.length)]
        simp only [Option.map_none, Option.bind_fun_none]
      · rw [if_neg short, if_pos (by omega : layout.sampleBytes ≤ record.length),
          if_pos (by omega : layout.stampOffset + 8 ≤ record.length)]
        rfl

/-! ## There and back -/

/-- The bytes between the samples and the time. -/
def padding (layout : RecordLayout) (record : List UInt8) : List UInt8 :=
  (record.take layout.stampOffset).drop layout.sampleBytes

/-- **A record reads as its samples, cut or filled up with zeros, and its time.** -/
theorem decode?_encode (layout : RecordLayout) (samples : List UInt16) (time : Int64) :
    layout.decode? (layout.encode samples time) = some (layout.fit samples time) := by
  rw [← record_fit]
  exact decode?_record (layout.fits_fit samples time)

/-- The record of as many samples as the layout says, and its three parts. -/
theorem encode_exact {samples : List UInt16} (time : Int64)
    (exact : samples.length = layout.samples) :
    layout.encode samples time = samples.flatMap Bytes.ofWord ++
      if layout.timestamp then
        List.replicate (layout.stampOffset - layout.sampleBytes) 0 ++ Bytes.ofTime time
      else [] := by
  have whole : samples.take layout.samples = samples :=
    List.take_of_length_le (Nat.le_of_eq exact)
  have width : (samples.flatMap Bytes.ofWord).length = layout.sampleBytes := by
    rw [length_flatMap_ofWord, exact, sampleBytes]
  unfold encode
  split
  · simp only [whole, width, List.append_assoc]
  · simp only [whole, width, Nat.sub_self, List.replicate_zero]

/-- A record is its samples, its padding and the rest. -/
theorem parts_eq (layout : RecordLayout) (record : List UInt8) :
    record = record.take layout.sampleBytes ++
      (layout.padding record ++ record.drop layout.stampOffset) := by
  have cut : record.take layout.sampleBytes =
      (record.take layout.stampOffset).take layout.sampleBytes := by
    rw [List.take_take, Nat.min_eq_left layout.sampleBytes_le_stampOffset]
  rw [cut, ← List.append_assoc, padding, List.take_append_drop, List.take_append_drop]

/-- **A record of the layout's size is written again from what it reads as, byte for byte,
just if its padding is zero.** -/
theorem encode_decode?_iff {record : List UInt8} (whole : record.length = layout.bytes) :
    ∃ scan, layout.decode? record = some scan ∧
      ∀ time, layout.encode scan.samples (scan.timestamp.getD time) = record ↔
        ∀ byte ∈ layout.padding record, byte = 0 := by
  have place := layout.sampleBytes_le_stampOffset
  have inside := layout.sampleBytes_le_bytes
  have front_length : (record.take layout.sampleBytes).length = layout.sampleBytes := by
    rw [List.length_take]
    omega
  have exact : (Bytes.toWords (record.take layout.sampleBytes)).length = layout.samples := by
    rw [Bytes.length_toWords, front_length, sampleBytes, Nat.mul_div_cancel _ (by decide)]
  have front : (Bytes.toWords (record.take layout.sampleBytes)).flatMap Bytes.ofWord =
      record.take layout.sampleBytes := by
    apply Bytes.flatMap_ofWord_toWords
    rw [front_length]
    exact Nat.dvd_mul_left 2 _
  refine ⟨_, by rw [decode?, if_neg (by omega)], fun time => ?_⟩
  simp only [encode_exact _ exact, front]
  cases stamped : layout.timestamp with
  | false =>
      have size : record.length = layout.sampleBytes := by simp [whole, bytes, stamped]
      have bare : layout.padding record = [] := by
        rw [padding, List.take_of_length_le (by omega), List.drop_of_length_le (by omega)]
      have all : record.take layout.sampleBytes = record :=
        List.take_of_length_le (Nat.le_of_eq size)
      simp [bare, all]
  | true =>
      have size : record.length = layout.stampOffset + 8 := by simp [whole, bytes, stamped]
      have stamp_length : (record.drop layout.stampOffset).length = 8 := by
        rw [List.length_drop]
        omega
      have stamp : (record.drop layout.stampOffset).take 8 = record.drop layout.stampOffset :=
        List.take_of_length_le (Nat.le_of_eq stamp_length)
      have padding_length :
          (layout.padding record).length = layout.stampOffset - layout.sampleBytes := by
        rw [padding, List.length_drop, List.length_take]
        omega
      have cancel : record.take layout.sampleBytes ++
            (List.replicate (layout.stampOffset - layout.sampleBytes) 0 ++
              record.drop layout.stampOffset) =
          record.take layout.sampleBytes ++
            (layout.padding record ++ record.drop layout.stampOffset) ↔
          layout.padding record =
            List.replicate (layout.stampOffset - layout.sampleBytes) 0 := by
        rw [List.append_cancel_left_eq, List.append_cancel_right_eq, eq_comm]
      rw [← layout.parts_eq record] at cancel
      simp only [if_true, Option.getD_some, stamp, Bytes.ofTime_toTime stamp_length]
      rw [cancel, List.eq_replicate_iff, padding_length]
      simp

end RecordLayout

/-! ## The stream of bytes a buffer gives -/

/-- The bytes that a reply has put into a block. -/
def BufferReply.delivered : BufferReply → List UInt8
  | .block written bytes => bytes.take written
  | _ => []

/-- The scans that a command takes out as bytes, oldest first. -/
def ScanQueue.shipped : BufferCommand → ScanQueue → List Scan
  | .readInto block, queue => queue.scans.take (block.length / queue.layout.bytes)
  | _, _ => []

/-- The scans that commands take out as bytes, oldest first, each with the layout of its
record. -/
def ScanQueue.shipments : List BufferCommand → ScanQueue → List (RecordLayout × Scan)
  | [], _ => []
  | command :: rest, queue =>
      (queue.shipped command).map (Prod.mk queue.layout) ++
        match queue.perform command with
        | none => []
        | some done => shipments rest done.2

/-- The records of scans, back to back. -/
def streamOf (entries : List (RecordLayout × Scan)) : List UInt8 :=
  entries.flatMap fun entry => entry.1.record entry.2

@[simp] theorem streamOf_append (first second : List (RecordLayout × Scan)) :
    streamOf (first ++ second) = streamOf first ++ streamOf second :=
  List.flatMap_append

@[simp] theorem streamOf_cons (layout : RecordLayout) (scan : Scan)
    (rest : List (RecordLayout × Scan)) :
    streamOf ((layout, scan) :: rest) = layout.record scan ++ streamOf rest :=
  List.flatMap_cons

@[simp] theorem streamOf_map (layout : RecordLayout) (scans : List Scan) :
    streamOf (scans.map (Prod.mk layout)) = scans.flatMap layout.record := by
  rw [streamOf, List.flatMap_map]

namespace ScanQueue

variable {queue : ScanQueue}

/-- What a command delivers are the records of the scans it takes out. -/
theorem delivered_perform {command : BufferCommand} {done : BufferReply × ScanQueue}
    (performed : queue.perform command = some done) :
    done.1.delivered = (queue.shipped command).flatMap queue.layout.record := by
  cases command with
  | readInto block =>
      cases performed
      let count := min queue.scans.length (block.length / queue.layout.bytes)
      have taking : queue.scans.take (block.length / queue.layout.bytes) =
          queue.scans.take count := by
        rw [List.take_eq_take_min, Nat.min_comm]
      have width : ((queue.scans.take count).flatMap queue.layout.record).length =
          count * queue.layout.bytes := by
        rw [Buffer.length_records, List.length_take, Nat.min_eq_left (Nat.min_le_left _ _)]
      simp only [BufferReply.delivered, shipped, taking]
      exact List.take_left' width
  | configure layout =>
      simp only [perform] at performed
      split at performed <;> cases performed
      rfl
  | push samples time =>
      simp only [perform] at performed
      split at performed
      · cases performed
      split at performed
      · cases performed
        rfl
      split at performed <;> cases performed <;> rfl
  | takeScan =>
      simp only [perform] at performed
      split at performed <;> cases performed
      rfl
  | count | overruns =>
      cases performed
      rfl

/-- **What commands deliver are the records of the scans they take out, back to back.** -/
theorem delivered_eq {commands : List BufferCommand} {replies : List BufferReply}
    {after : ScanQueue}
    (performed : carryOut ScanQueue.perform commands queue = some (replies, after)) :
    replies.flatMap BufferReply.delivered = streamOf (queue.shipments commands) := by
  induction commands generalizing queue replies with
  | nil =>
      cases performed
      rfl
  | cons command rest ih =>
      obtain ⟨done, first, later⟩ := Option.bind_eq_some_iff.1 performed
      obtain ⟨⟨others, last⟩, next, same⟩ := Option.map_eq_some_iff.1 later
      obtain ⟨rfl, rfl⟩ := Prod.mk.inj same
      simp only [shipments, first, List.flatMap_cons, streamOf_append, streamOf_map,
        delivered_perform first, ih next]

/-- The scans of a queue whose layout has a time, each of the layout. -/
structure Stamped (queue : ScanQueue) : Prop where
  timestamp : queue.layout.timestamp = true
  fits : ∀ scan ∈ queue.scans, queue.layout.Fits scan

/-- The layouts that commands make room for all have a time. -/
def KeepsTime (command : BufferCommand) : Prop :=
  ∀ layout, command = .configure layout → layout.timestamp = true

theorem Stamped.perform (stamped : queue.Stamped) {command : BufferCommand}
    (keeps : KeepsTime command) {done : BufferReply × ScanQueue}
    (performed : queue.perform command = some done) : done.2.Stamped := by
  cases command with
  | configure layout =>
      simp only [ScanQueue.perform] at performed
      split at performed <;> cases performed
      exact ⟨keeps layout rfl, by simp⟩
  | push samples time =>
      simp only [ScanQueue.perform] at performed
      split at performed
      · cases performed
      split at performed
      · cases performed
        exact stamped
      split at performed <;> cases performed
      · refine ⟨stamped.timestamp, fun scan member => ?_⟩
        rcases List.mem_append.1 member with old | new
        · exact stamped.fits scan old
        · rw [List.mem_singleton.1 new]
          exact queue.layout.fits_fit samples time
      · exact ⟨stamped.timestamp, stamped.fits⟩
  | takeScan =>
      simp only [ScanQueue.perform] at performed
      split at performed <;> cases performed
      exact ⟨stamped.timestamp, fun scan member => stamped.fits scan (List.mem_of_mem_tail member)⟩
  | readInto block =>
      cases performed
      exact ⟨stamped.timestamp, fun scan member => stamped.fits scan (List.mem_of_mem_drop member)⟩
  | count | overruns =>
      cases performed
      exact stamped

/-- Every scan taken out of such a queue is one of a layout with a time. -/
theorem Stamped.shipments {commands : List BufferCommand} (stamped : queue.Stamped)
    (keeps : ∀ command ∈ commands, KeepsTime command) :
    ∀ entry ∈ queue.shipments commands, entry.1.timestamp = true ∧ entry.1.Fits entry.2 := by
  induction commands generalizing queue with
  | nil => simp [ScanQueue.shipments]
  | cons command rest ih =>
      intro entry member
      rcases List.mem_append.1 member with now | later
      · obtain ⟨scan, taken, rfl⟩ := List.mem_map.1 now
        refine ⟨stamped.timestamp, stamped.fits scan ?_⟩
        cases command with
        | readInto block => exact List.mem_of_mem_take taken
        | configure | push | takeScan | count | overruns => exact absurd taken (by simp [shipped])
      · cases performed : queue.perform command with
        | none => simp [performed] at later
        | some done =>
            rw [performed] at later
            exact ih (stamped.perform (keeps command List.mem_cons_self) performed)
              (fun other member => keeps other (List.mem_cons_of_mem _ member)) entry later

end ScanQueue

/-- The time of a scan takes the last eight bytes of its record. -/
theorem RecordLayout.record_stamp {layout : RecordLayout} {scan : Scan} (fits : layout.Fits scan)
    (stamped : layout.timestamp = true) :
    ∃ time front, scan.timestamp = some time ∧ front.length = layout.stampOffset ∧
      layout.record scan = front ++ Bytes.ofTime time := by
  have present := fits.timestamp
  rw [stamped, Option.isSome_iff_exists] at present
  obtain ⟨time, same⟩ := present
  have place := layout.sampleBytes_le_stampOffset
  refine ⟨time, scan.samples.flatMap Bytes.ofWord ++
    List.replicate (layout.stampOffset - layout.sampleBytes) 0, same, ?_, ?_⟩
  · rw [List.length_append, length_flatMap_ofWord, fits.samples, List.length_replicate,
      ← sampleBytes]
    omega
  · rw [record, same, Option.getD_some, encode_exact time fits.samples, if_pos stamped,
      List.append_assoc]

/-- Records that each have a time come to a multiple of eight bytes. -/
theorem eight_dvd_streamOf {entries : List (RecordLayout × Scan)}
    (stamped : ∀ entry ∈ entries, entry.1.timestamp = true) :
    8 ∣ (streamOf entries).length := by
  induction entries with
  | nil => exact Nat.dvd_zero 8
  | cons entry rest ih =>
      obtain ⟨layout, scan⟩ := entry
      rw [streamOf_cons, List.length_append, RecordLayout.length_record]
      exact Nat.dvd_add (RecordLayout.eight_dvd_bytes (stamped _ List.mem_cons_self))
        (ih fun other member => stamped other (List.mem_cons_of_mem _ member))

/-- **The time of every record stands at a multiple of eight of the stream.** -/
theorem stamp_at {before after : List (RecordLayout × Scan)} {layout : RecordLayout} {scan : Scan}
    (stamped : ∀ entry ∈ before ++ (layout, scan) :: after,
      entry.1.timestamp = true ∧ entry.1.Fits entry.2) :
    let place := (streamOf before).length + layout.stampOffset
    8 ∣ place ∧ ∃ time, scan.timestamp = some time ∧
      ((streamOf (before ++ (layout, scan) :: after)).drop place).take 8 = Bytes.ofTime time := by
  intro place
  have here := stamped (layout, scan) (by simp)
  have earlier : 8 ∣ (streamOf before).length :=
    eight_dvd_streamOf fun entry member => (stamped entry (List.mem_append_left _ member)).1
  obtain ⟨time, front, same, front_length, parts⟩ := RecordLayout.record_stamp here.2 here.1
  refine ⟨Nat.dvd_add earlier layout.eight_dvd_stampOffset, time, same, ?_⟩
  have reach : (streamOf before ++ front).length = place := by
    rw [List.length_append, front_length]
  have split : streamOf (before ++ (layout, scan) :: after) =
      (streamOf before ++ front) ++ (Bytes.ofTime time ++ streamOf after) := by
    simp only [streamOf_append, streamOf_cons, parts, List.append_assoc]
  rw [split, List.drop_left' reach, List.take_left' (Bytes.length_ofTime time)]

/-! ## The format as a whole -/

namespace Buffer

variable {buffer : Buffer} {scans : List Scan}

/-- Commands leave a buffer that holds the records of scans. -/
theorem Queues.carryOut (queues : buffer.Queues scans) {commands : List BufferCommand}
    {replies : List BufferReply} {after : Buffer}
    (performed : carryOut Buffer.perform commands buffer = some (replies, after)) :
    ∃ left, after.Queues left := by
  induction commands generalizing buffer scans replies with
  | nil =>
      cases performed
      exact ⟨scans, queues⟩
  | cons command rest ih =>
      obtain ⟨done, first, later⟩ := Option.bind_eq_some_iff.1 performed
      obtain ⟨⟨others, last⟩, next, same⟩ := Option.map_eq_some_iff.1 later
      obtain ⟨rfl, rfl⟩ := Prod.mk.inj same
      obtain ⟨kept, still⟩ := (Buffer.agrees queues command).2 done first
      exact ih still next

/-- Commands get the replies that the queue the buffer stands for gives. -/
theorem Queues.carryOut_queue (queues : buffer.Queues scans) {commands : List BufferCommand}
    {replies : List BufferReply} {after : Buffer}
    (performed : Acquisition.carryOut Buffer.perform commands buffer = some (replies, after)) :
    Acquisition.carryOut ScanQueue.perform commands buffer.queue = some (replies, after.queue) := by
  have same := carryOut_view Buffer.queue (fun buffer => ∃ scans, buffer.Queues scans)
    (fun command buffer ⟨_, queues⟩ => (Buffer.agrees queues command).1)
    (fun command buffer done ⟨_, queues⟩ => (Buffer.agrees queues command).2 done) commands
    buffer ⟨scans, queues⟩
  rw [← same, performed]
  rfl

end Buffer

/-- **A record keeps what it is made of.** Whether it is filled in place or not, it reads as
its samples, cut or filled up with zeros to as many as the layout says, and its time just if
the layout has one; a record of the right size whose padding is zero is written again byte
for byte from what it reads as; and read piece by piece or not, only a record that is too
short cannot be read. The time stands at the first multiple of eight past the samples, and
where a buffer has a layout with a time, whatever it is asked from there on, the bytes it
gives are records back to back with the time of each at a multiple of eight of all of them. -/
theorem record_format (layout : RecordLayout) :
    (∀ samples time, layout.fillIn samples time = layout.encode samples time ∧
      layout.decode? (layout.encode samples time) =
        some ⟨samples.take layout.samples ++ List.replicate (layout.samples - samples.length) 0,
          if layout.timestamp then some time else none⟩) ∧
    (∀ record, record.length = layout.bytes → (∀ byte ∈ layout.padding record, byte = 0) →
      ∃ scan, layout.decode? record = some scan ∧
        ∀ time, layout.encode scan.samples (scan.timestamp.getD time) = record) ∧
    (∀ record, layout.pieces? record = layout.decode? record ∧
      (layout.decode? record = none ↔ record.length < layout.bytes)) ∧
    (layout.timestamp = true →
      (8 ∣ layout.stampOffset ∧ 2 * layout.samples ≤ layout.stampOffset ∧
        ∀ place, 8 ∣ place → 2 * layout.samples ≤ place → layout.stampOffset ≤ place) ∧
      8 ∣ layout.bytes ∧
      ∀ length earlier done buffer commands replies after,
        carryOut Buffer.perform earlier (.ofLength length) = some (done, buffer) →
        buffer.layout = layout →
        (∀ command ∈ commands, ScanQueue.KeepsTime command) →
        carryOut Buffer.perform commands buffer = some (replies, after) →
        let stream := replies.flatMap BufferReply.delivered
        stream = streamOf (buffer.queue.shipments commands) ∧
          ∀ before entry others,
            buffer.queue.shipments commands = before ++ entry :: others →
            let place := (streamOf before).length + entry.1.stampOffset
            8 ∣ place ∧ ∃ time, entry.2.timestamp = some time ∧
              (stream.drop place).take 8 = Bytes.ofTime time) := by
  have samples_width : layout.sampleBytes = 2 * layout.samples := Nat.mul_comm _ _
  refine ⟨fun samples time => ⟨layout.fillIn_eq samples time, layout.decode?_encode samples time⟩,
    ?_, fun record => ⟨layout.pieces?_eq record, layout.decode?_eq_none_iff record⟩,
    fun stamped => ⟨?_, ?_, ?_⟩⟩
  · intro record whole zero
    obtain ⟨scan, decoded, again⟩ := RecordLayout.encode_decode?_iff whole
    exact ⟨scan, decoded, fun time => (again time).2 zero⟩
  · rw [← samples_width]
    exact ⟨layout.eight_dvd_stampOffset, layout.sampleBytes_le_stampOffset,
      fun place => RecordLayout.stampOffset_le⟩
  · exact RecordLayout.eight_dvd_bytes stamped
  · rintro length earlier done buffer commands replies after reached rfl keeps performed
    obtain ⟨scans, queues⟩ := (Buffer.ofLength_queues length).carryOut reached
    have ready : buffer.queue.Stamped := by
      rw [queues.queue_eq]
      exact ⟨stamped, queues.fits⟩
    have stream := ScanQueue.delivered_eq (queues.carryOut_queue performed)
    refine ⟨stream, fun before entry others split => ?_⟩
    have all := ready.shipments keeps
    rw [split] at all
    rw [stream, split]
    exact stamp_at all

/-- Two scans are pushed and read as bytes; the layout has three samples and a time. -/
def pushedTwice : List BufferCommand :=
  [.push [1, 2, 3] 5, .push [4] 6, .readInto (List.replicate 40 0)]

/-- The second of two records is read from a buffer that was just given its layout: its time
stands at byte 24 of the stream. -/
theorem second_record_format : ∃ replies after,
    carryOut Buffer.perform pushedTwice (Buffer.configure (.ofLength 4) ⟨3, true⟩) =
      some (replies, after) ∧
    ((replies.flatMap BufferReply.delivered).drop 24).take 8 = Bytes.ofTime 6 := by
  let buffer := Buffer.configure (.ofLength 4) ⟨3, true⟩
  have configured : carryOut Buffer.perform [.configure ⟨3, true⟩] (.ofLength 4) =
      some ([.done], buffer) := by
    have room := (Buffer.configure?_eq_some_iff (.ofLength 4) ⟨3, true⟩).2 (by decide)
    simp only [carryOut, Buffer.perform, room, Option.map_some, Option.bind_some, buffer]
  obtain ⟨⟨replies, after⟩, performed⟩ := Option.isSome_iff_exists.1
    (by decide +kernel : (carryOut Buffer.perform pushedTwice buffer).isSome = true)
  have keeps : ∀ command ∈ pushedTwice, ScanQueue.KeepsTime command := by
    intro command member layout configures
    simp [pushedTwice, configures] at member
  have shipments : buffer.queue.shipments pushedTwice =
      [(⟨3, true⟩, ⟨[1, 2, 3], some 5⟩)] ++ (⟨3, true⟩, ⟨[4, 0, 0], some 6⟩) :: [] := by
    decide +kernel
  obtain ⟨-, -, -, format⟩ := record_format ⟨3, true⟩
  obtain ⟨-, -, stream⟩ := format rfl
  obtain ⟨-, places⟩ := stream 4 [.configure ⟨3, true⟩] [.done] buffer pushedTwice replies after
    configured rfl keeps performed
  obtain ⟨-, time, ⟨⟩, stamp⟩ := places _ _ _ shipments
  exact ⟨replies, after, performed, stamp⟩

end Acquisition
