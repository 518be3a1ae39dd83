/-
# Acquisition.Proofs.BoundedQueue — a buffer answers like a bounded queue of scans

`ScanQueue` is what a buffer is meant to be: a list of scans, a bound on its length and a
count of the scans that found no room, with nothing in it about bytes, records or rings.
`ScanQueue.perform` says what each command does to it. `replies_eq_queue` says that no
sequence of commands tells the two apart: a buffer gives the same replies, breaks down at
the same command, and is left with the same scans.

Two commands ask for memory, and both break down if there is not enough: making room for
`capacity` records, and the block for one record. A layout whose records have no bytes is
no layout to capture with; pushing under it leaves no trace.
-/
import Acquisition.Proofs.ScanQueue

namespace Acquisition

set_option autoImplicit false

/-! ## Commands one after the other -/

section CarryOut

variable {State Spec Command Reply : Type}

/-- Commands carried out one after the other, with the replies in order; `none` as soon as
one breaks down. -/
def carryOut (perform : Command → State → Option (Reply × State)) :
    List Command → State → Option (List Reply × State)
  | [], state => some ([], state)
  | command :: rest, state =>
      (perform command state).bind fun done =>
        (carryOut perform rest done.2).map fun later => (done.1 :: later.1, later.2)

/-- **What one command shows, any number of commands show.** If each command replies as it
is specified to in the view, and leaves a state the view is good for, so do all of them. -/
theorem carryOut_view {perform : Command → State → Option (Reply × State)}
    {specified : Command → Spec → Option (Reply × Spec)} (view : State → Spec)
    (sound : State → Prop)
    (replies : ∀ command state, sound state →
      (perform command state).map (Prod.map id view) = specified command (view state))
    (kept : ∀ command state done, sound state → perform command state = some done →
      sound done.2) :
    ∀ commands state, sound state →
      (carryOut perform commands state).map (Prod.map id view) =
        carryOut specified commands (view state)
  | [], _, _ => rfl
  | command :: rest, state, here => by
      have first := replies command state here
      rw [carryOut, carryOut, ← first]
      cases performed : perform command state with
      | none => rfl
      | some done =>
          have later := carryOut_view view sound replies kept rest done.2
            (kept command state done here performed)
          simp only [Option.bind_some, Option.map_some, Prod.map_snd, Prod.map_fst, id_eq,
            ← later, Option.map_map]
          rfl

end CarryOut

/-! ## What a buffer can be asked -/

/-- Something asked of a buffer. -/
inductive BufferCommand where
  /-- Room is made for the records of a layout. -/
  | configure (layout : RecordLayout)
  | push (samples : List UInt16) (time : Int64)
  /-- The oldest scan is taken, at once or after waiting for it. The buffer is free for
  others while somebody waits, so what arrives meanwhile has been pushed by then. -/
  | takeScan
  /-- Whole records are written over the front of a block of bytes. -/
  | readInto (block : List UInt8)
  | count
  | overruns

/-- What comes back. -/
inductive BufferReply where
  | done
  | pushed (fitted : Bool)
  | scan (taken : Option Scan)
  /-- How many bytes were written, and what the block holds now. -/
  | block (written : Nat) (bytes : List UInt8)
  | number (count : Nat)
  deriving DecidableEq

/-- Carries out a command; `none` if memory cannot hold what it needs. -/
def Buffer.perform : BufferCommand → Buffer → Option (BufferReply × Buffer)
  | .configure layout, buffer => (buffer.configure? layout).map fun buffer => (.done, buffer)
  | .push samples time, buffer =>
      (buffer.withRecord fun buffer => buffer.push samples time).map fun pushed =>
        (.pushed pushed.1, pushed.2)
  | .takeScan, buffer =>
      buffer.withRecord fun buffer =>
        match buffer.popScan? with
        | none => (.scan none, buffer)
        | some (scan, buffer) => (.scan (some scan), buffer)
  | .readInto block, buffer =>
      let read := buffer.readInto block
      some (.block read.1 read.2.1, read.2.2)
  | .count, buffer => some (.number buffer.count, buffer)
  | .overruns, buffer => some (.number buffer.overruns, buffer)

/-! ## What it is to answer -/

/-- At most so many scans of a layout, oldest first. -/
structure ScanQueue where
  capacity : Nat
  layout : RecordLayout := {}
  scans : List Scan := []
  /-- Scans that found no room. -/
  overruns : Nat := 0

/-- What a command does to a queue. -/
def ScanQueue.perform : BufferCommand → ScanQueue → Option (BufferReply × ScanQueue)
  | .configure layout, queue =>
      if queue.capacity * layout.bytes < Bytes.largestBlock then
        some (.done, { queue with layout, scans := [], overruns := 0 })
      else none
  | .push samples time, queue =>
      if Bytes.largestBlock < queue.layout.bytes then none
      else if queue.layout.bytes = 0 then some (.pushed true, queue)
      else if queue.scans.length < queue.capacity then
        some (.pushed true,
          { queue with scans := queue.scans ++ [queue.layout.fit samples time] })
      else some (.pushed false, { queue with overruns := queue.overruns + 1 })
  | .takeScan, queue =>
      if Bytes.largestBlock < queue.layout.bytes then none
      else some (.scan queue.scans.head?, { queue with scans := queue.scans.tail })
  | .readInto block, queue =>
      let count := min queue.scans.length (block.length / queue.layout.bytes)
      let written := count * queue.layout.bytes
      some (.block written
          ((queue.scans.take count).flatMap queue.layout.record ++ block.drop written),
        { queue with scans := queue.scans.drop count })
  | .count, queue => some (.number queue.scans.length, queue)
  | .overruns, queue => some (.number queue.overruns, queue)

namespace Buffer

/-- The queue a buffer stands for: its scans are those that come out of it. -/
def queue (buffer : Buffer) : ScanQueue where
  capacity := buffer.length
  layout := buffer.layout
  scans := buffer.popAll.1
  overruns := buffer.overruns

variable {buffer : Buffer} {scans : List Scan}

theorem Queues.queue_eq (queues : buffer.Queues scans) :
    buffer.queue = ⟨buffer.length, buffer.layout, scans, buffer.overruns⟩ := by
  obtain ⟨ring, taken, _⟩ := popAll_queues queues
  rw [queue, taken]

/-- Under a layout without bytes a push is granted and leaves no trace. -/
theorem push_empty (empty : buffer.layout.bytes = 0)
    (samples : List UInt16) (time : Int64) : buffer.push samples time = (true, buffer) := by
  have nothing : buffer.layout.encode samples time = [] := by
    rw [← List.length_eq_zero_iff, RecordLayout.length_encode, empty]
  simp [push, empty, nothing]

/-- A record is made if memory can hold it. -/
theorem withRecord_eq {α : Type} (buffer : Buffer) (act : Buffer → α) :
    buffer.withRecord act =
      if Bytes.largestBlock < buffer.layout.bytes then none else some (act buffer) := by
  by_cases large : Bytes.largestBlock < buffer.layout.bytes
  · rw [withRecord, if_neg (Nat.not_le.2 large), if_pos large]
  · rw [withRecord, if_pos (Nat.not_lt.1 large), if_neg large]

/-- Room is made if memory can hold it. -/
theorem configure?_eq (buffer : Buffer) (layout : RecordLayout) :
    buffer.configure? layout =
      if buffer.length * layout.bytes < Bytes.largestBlock then some (buffer.configure layout)
      else none := by
  simp only [configure?, RingBuffer.ofCapacity?, configure, Nat.one_mul, Nat.succ_le_iff]
  split <;> rfl

/-! ## One command -/

/-- A command replies as it would in the queue the buffer stands for, and leaves the same
scans. -/
def Agrees (command : BufferCommand) (buffer : Buffer) : Prop :=
  (buffer.perform command).map (Prod.map id queue) = buffer.queue.perform command ∧
    ∀ done, buffer.perform command = some done → ∃ scans, done.2.Queues scans

theorem configure_agrees (queues : buffer.Queues scans) (layout : RecordLayout) :
    Agrees (.configure layout) buffer := by
  have fresh := configure_queues buffer layout
  simp only [Agrees, perform, configure?_eq, queues.queue_eq, ScanQueue.perform]
  split
  · refine ⟨?_, ?_⟩
    · simp only [Option.map_some, Prod.map, id_eq, fresh.queue_eq]
      rfl
    · rintro done ⟨⟩
      exact ⟨[], fresh⟩
  · exact ⟨rfl, by simp⟩

theorem push_agrees (queues : buffer.Queues scans) (samples : List UInt16) (time : Int64) :
    Agrees (.push samples time) buffer := by
  simp only [Agrees, perform, withRecord_eq, queues.queue_eq, ScanQueue.perform]
  split
  · exact ⟨rfl, by simp⟩
  by_cases empty : buffer.layout.bytes = 0
  · rw [if_pos empty, push_empty empty]
    refine ⟨?_, ?_⟩
    · simp only [Option.map_some, Prod.map, id_eq, queues.queue_eq]
    · rintro done ⟨⟩
      exact ⟨scans, queues⟩
  · obtain ⟨fitted, after, layout, length, overruns⟩ :=
      push_queues queues (Nat.pos_of_ne_zero empty) samples time
    refine ⟨?_, ?_⟩
    · simp only [Option.map_some, Prod.map, id_eq, after.queue_eq, fitted, layout, length,
        overruns, if_neg empty]
      split <;> simp [*]
    · rintro done ⟨⟩
      exact ⟨_, after⟩

theorem takeScan_agrees (queues : buffer.Queues scans) : Agrees .takeScan buffer := by
  simp only [Agrees, perform, withRecord_eq, queues.queue_eq, ScanQueue.perform]
  split
  · exact ⟨rfl, by simp⟩
  cases scans with
  | nil =>
      rw [popScan?_queues_nil queues]
      refine ⟨?_, ?_⟩
      · simp only [Option.map_some, Prod.map, id_eq, queues.queue_eq, List.head?_nil,
          List.tail_nil]
      · rintro done ⟨⟩
        exact ⟨[], queues⟩
  | cons scan rest =>
      obtain ⟨ring, taken, left⟩ := popScan?_queues queues
      rw [taken]
      refine ⟨?_, ?_⟩
      · simp only [Option.map_some, Prod.map, id_eq, left.queue_eq, List.head?_cons,
          List.tail_cons]
      · rintro done ⟨⟩
        exact ⟨rest, left⟩

theorem readInto_agrees (queues : buffer.Queues scans) (block : List UInt8) :
    Agrees (.readInto block) buffer := by
  obtain ⟨ring, taken, left⟩ := readBytes_queues block.length queues
  have width := length_records buffer.layout (scans.take (block.length / buffer.layout.bytes))
  rw [List.length_take, Nat.min_comm] at width
  -- As many records are asked for as the block has room for, but there may be fewer.
  have taking : scans.take (min scans.length (block.length / buffer.layout.bytes)) =
      scans.take (block.length / buffer.layout.bytes) := by
    rw [Nat.min_comm, ← List.take_eq_take_min]
  have leaving : scans.drop (min scans.length (block.length / buffer.layout.bytes)) =
      scans.drop (block.length / buffer.layout.bytes) := by
    rw [Nat.min_comm, ← List.drop_eq_drop_min]
  simp only [Agrees, perform, readInto, taken, width, queues.queue_eq, ScanQueue.perform, taking,
    leaving]
  refine ⟨?_, ?_⟩
  · simp only [Option.map_some, Prod.map, id_eq, left.queue_eq]
  · rintro done ⟨⟩
    exact ⟨_, left⟩

/-- **Each command agrees with the queue.** -/
theorem agrees (queues : buffer.Queues scans) : ∀ command, Agrees command buffer
  | .configure layout => configure_agrees queues layout
  | .push samples time => push_agrees queues samples time
  | .takeScan => takeScan_agrees queues
  | .readInto block => readInto_agrees queues block
  | .count => by
      refine ⟨?_, ?_⟩
      · simp only [perform, Option.map_some, Prod.map, id_eq, ScanQueue.perform, queues.queue_eq,
          queues.count]
      · rintro done ⟨⟩
        exact ⟨scans, queues⟩
  | .overruns => by
      refine ⟨?_, ?_⟩
      · simp only [perform, Option.map_some, Prod.map, id_eq, ScanQueue.perform, queues.queue_eq]
      · rintro done ⟨⟩
        exact ⟨scans, queues⟩

end Buffer

/-! ## Any number of commands -/

/-- **A buffer is a bounded queue of whole scans.** Whatever commands it is given, and
however few scans it may hold, it replies as the queue does, breaks down where the queue
does, and holds the scans that the queue holds. -/
theorem replies_eq_queue (length : Nat) (commands : List BufferCommand) :
    (carryOut Buffer.perform commands (.ofLength length)).map (Prod.map id Buffer.queue) =
      carryOut ScanQueue.perform commands { capacity := length } := by
  have fresh := Buffer.ofLength_queues length
  have same := carryOut_view Buffer.queue (fun buffer => ∃ scans, buffer.Queues scans)
    (fun command buffer ⟨_, queues⟩ => (Buffer.agrees queues command).1)
    (fun command buffer done ⟨_, queues⟩ => (Buffer.agrees queues command).2 done) commands
    (.ofLength length) ⟨[], fresh⟩
  rw [same, fresh.queue_eq]
  rfl

/-- In a buffer for two scans the third finds no room, and the next record wraps. -/
example : (carryOut Buffer.perform
    [.configure ⟨1, false⟩, .push [1, 9] 0, .push [] 0, .push [3] 0, .takeScan, .push [4] 0,
      .readInto [7, 7, 7, 7, 7], .overruns] (.ofLength 2)).map Prod.fst =
    some [.done, .pushed true, .pushed true, .pushed false, .scan (some ⟨[1], none⟩),
      .pushed true, .block 4 [0, 0, 4, 0, 7], .number 1] := by decide +kernel

end Acquisition
