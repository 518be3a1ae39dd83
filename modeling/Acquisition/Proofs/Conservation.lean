/-
# Acquisition.Proofs.Conservation — no scan is lost, doubled or torn

A `Ledger` is kept beside a session while a capture is on. It carries a converter of its
own along, on which each edge is one scan, each reading of an input one single-input
exchange, and nothing else an exchange; it writes down for each edge how many scans were
queued when the edge came and what its scan brought (`Shot`), and it collects the scans
that were read, whichever way they were read.

`capture_conserved` says that the ledger and the session agree at every point of a capture,
however the device on the bus answers: the converters are the same, every edge was done
once, and the scans read are, with those still queued, the payloads of the edges that
succeeded and found room, in their order.
-/
import Acquisition.Proofs.Probe
import Acquisition.Spi.Script

namespace Acquisition

open Acquisition.Converter (Part Problem)

set_option autoImplicit false

/-! ## The ledger -/

/-- An edge of a capture. -/
structure Shot where
  time : Int64
  /-- How many scans were queued when it came. -/
  found : Nat
  /-- What its scan brought. -/
  outcome : Except Problem (List UInt16)

namespace Shot

/-- Whether the exchange succeeded. -/
def succeeded (shot : Shot) : Bool :=
  match shot.outcome with
  | .ok _ => true
  | .error _ => false

/-- Whether there was no room for another scan. -/
def late (shot : Shot) : Bool :=
  128 ≤ shot.found

/-- The scan the edge leaves to be read: what the exchange brought, if it succeeded and there
was room, with the time of the edge if scans have one. -/
def kept? (stamped : Bool) (shot : Shot) : Option Scan :=
  match shot.outcome with
  | .ok payload =>
      if shot.late then none else some ⟨payload, if stamped then some shot.time else none⟩
  | .error _ => none

end Shot

/-- An account of a capture. -/
structure Ledger (σ : Type) where
  /-- The converter as the exchanges alone leave it. -/
  converter : Converter σ
  /-- The edges so far. -/
  shots : List Shot := []
  /-- The scans read so far. -/
  read : List Scan := []

namespace Ledger

variable {σ : Type}

/-- How many edges had a successful exchange. -/
def succeeded (ledger : Ledger σ) : Nat :=
  ledger.shots.countP Shot.succeeded

/-- How many of these found no room. -/
def dropped (ledger : Ledger σ) : Nat :=
  ledger.shots.countP fun shot => shot.succeeded && shot.late

/-- The scans of all others, in the order of the edges. -/
def kept (ledger : Ledger σ) (stamped : Bool) : List Scan :=
  ledger.shots.filterMap (Shot.kept? stamped)

/-- Every successful exchange left a scan or found no room. -/
theorem succeeded_eq (ledger : Ledger σ) (stamped : Bool) :
    ledger.succeeded = (ledger.kept stamped).length + ledger.dropped := by
  unfold succeeded kept dropped
  induction ledger.shots with
  | nil => rfl
  | cons shot rest ih =>
      obtain ⟨time, found, outcome⟩ := shot
      rw [List.countP_cons, List.countP_cons, ih]
      cases outcome with
      | error problem =>
          rw [List.filterMap_cons_none rfl]
          rfl
      | ok payload =>
          cases late : Shot.late ⟨time, found, .ok payload⟩ with
          | true =>
              rw [List.filterMap_cons_none (by simp [Shot.kept?, late])]
              simp only [Shot.succeeded, Bool.and_self, if_true]
              omega
          | false =>
              rw [List.filterMap_cons_some (by simp [Shot.kept?, late]; rfl), List.length_cons]
              simp only [Shot.succeeded, Bool.and_false, if_true, Bool.false_eq_true, if_false]
              omega

/-- Enters an edge and the converter it left behind. -/
def shoot (ledger : Ledger σ) (converter : Converter σ) (shot : Shot) : Ledger σ :=
  { ledger with converter, shots := ledger.shots ++ [shot] }

theorem length_shoot (ledger : Ledger σ) (converter : Converter σ) (shot : Shot) :
    (ledger.shoot converter shot).shots.length = ledger.shots.length + 1 :=
  List.length_append

theorem kept_shoot (ledger : Ledger σ) (converter : Converter σ) (shot : Shot) (stamped : Bool) :
    (ledger.shoot converter shot).kept stamped =
      ledger.kept stamped ++ (shot.kept? stamped).toList := by
  rw [kept, shoot, List.filterMap_append]
  cases left : shot.kept? stamped with
  | none =>
      rw [List.filterMap_cons_none left, List.filterMap_nil]
      rfl
  | some scan =>
      rw [List.filterMap_cons_some left, List.filterMap_nil]
      rfl

theorem dropped_shoot (ledger : Ledger σ) (converter : Converter σ) (shot : Shot) :
    (ledger.shoot converter shot).dropped =
      ledger.dropped + (shot.succeeded && shot.late).toNat := by
  rw [dropped, shoot, List.countP_append, List.countP_singleton]
  cases shot.succeeded && shot.late <;> rfl

section Traffic

variable [Spi.Device σ UInt16]

/-- Enters a use and what came back from it; `buffer` is the buffer before. -/
def enter (part : Part) (buffer : Buffer) (ledger : Ledger σ) : Use → Answer → Option (Ledger σ)
  | .edge time, _ | .tick time, _ =>
      ledger.converter.scanInputs.map fun (outcome, converter, _) =>
        ledger.shoot converter ⟨time, buffer.count, outcome⟩
  | .read input asked, _ =>
      if asked = .raw ∧ input < part.inputs then
        (ledger.converter.single (UInt8.ofNat input)).map fun (_, converter) =>
          { ledger with converter }
      else some ledger
  | _, answer => some { ledger with read := ledger.read ++ answer.scans buffer.layout }

/-- Uses a bound converter and enters it. -/
def follow (binding : Binding) (session : Session (Frontend σ) Unit) (ledger : Ledger σ)
    (use : Use) : Option (Answer × Session (Frontend σ) Unit × Ledger σ) :=
  (session.device? binding.device).bind fun device =>
    (binding.use session use).bind fun (answer, after) =>
      (ledger.enter binding.part device.buffer use answer).map fun entered =>
        (answer, after, entered)

/-- Uses a bound converter several times and enters each. -/
def followAll (binding : Binding) :
    List Use → Session (Frontend σ) Unit → Ledger σ →
      Option (List Answer × Session (Frontend σ) Unit × Ledger σ)
  | [], session, ledger => some ([], session, ledger)
  | use :: rest, session, ledger =>
      (ledger.follow binding session use).bind fun (answer, session, ledger) =>
        (followAll binding rest session ledger).map fun (answers, session, ledger) =>
          (answer :: answers, session, ledger)

end Traffic

end Ledger

/-- Whether a use raises an edge. -/
def Use.isEdge : Use → Bool
  | .edge _ | .tick _ => true
  | _ => false

/-- How many uses raise an edge. -/
def edges (uses : List Use) : Nat :=
  uses.countP Use.isEdge

/-- An answer as it is given while a capture is on: no other is started, and bytes come as
whole records. -/
def Answer.Proper (layout : RecordLayout) : Answer → Prop
  | .switched result => ∃ error, result = .error error
  | .bytes block => (layout.scansIn block).flatMap layout.record = block
  | _ => True

/-- What a ledger says of the session it was kept beside. Whoever reads next is given the oldest of
the scans that are queued, or the records of as many of the oldest as fit. -/
structure Settled {σ : Type} (binding : Binding) (stamped : Bool) (completed : Nat)
    (session : Session (Frontend σ) Unit) (ledger : Ledger σ) : Prop where
  device : ∃ device, session.device? binding.device = some device ∧
    device.provider.converter = ledger.converter ∧
    ledger.succeeded = ledger.read.length + device.buffer.count + device.buffer.overruns ∧
    device.buffer.overruns = ledger.dropped ∧
    ledger.read ++ device.buffer.popAll.1 = ledger.kept stamped ∧
    (session.readScan binding.device).1 = device.buffer.popAll.1.head? ∧
    ∀ size, (session.readBytes binding.device size).1 =
      (device.buffer.popAll.1.take (size / device.buffer.layout.bytes)).flatMap
        device.buffer.layout.record
  trigger : ∃ trigger, session.trigger? binding.trigger = some trigger ∧
    trigger.completed = completed + ledger.shots.length ∧ trigger.busy = false

/-- A ledger that agrees with a bound converter and what is queued in its buffer is settled. -/
theorem Settled.of_bound {σ : Type} {binding : Binding} {stamped : Bool} {base : Nat}
    {session : Session (Frontend σ) Unit} {ledger : Ledger σ} {device : Device (Frontend σ) Unit}
    {trigger : Trigger} {queued : List Scan} (bound : Bound binding session device trigger)
    (converter : device.provider.converter = ledger.converter)
    (queues : device.buffer.Queues queued) (kept : ledger.read ++ queued = ledger.kept stamped)
    (overruns : device.buffer.overruns = ledger.dropped)
    (completed : trigger.completed = base + ledger.shots.length) :
    Settled binding stamped base session ledger := by
  obtain ⟨_, all, _⟩ := Buffer.popAll_queues queues
  obtain ⟨_, _, oldest, _⟩ := bound.readScan queues
  have total := ledger.succeeded_eq stamped
  have both := congrArg List.length kept
  rw [List.length_append] at both
  refine ⟨⟨device, bound.device_at, converter, ?_, overruns, ?_, ?_, fun size => ?_⟩, trigger,
    bound.trigger_at, completed, bound.intact.quiet⟩
  · rw [total, ← both, queues.count, overruns]
  · rw [all]
    exact kept
  · rw [oldest, all]
  · obtain ⟨_, _, block, _⟩ := bound.readBytes queues size
    rw [block, all]

/-! ## What carries the account -/

section Account

variable {σ : Type} [Spi.Device σ UInt16]

/-- A capture in the middle of its account: `queued` is what is queued, `layout` the layout of
the capture. -/
structure Tracks (binding : Binding) (answers : σ → Prop) (layout : RecordLayout)
    (base : Nat) (session : Session (Frontend σ) Unit) (ledger : Ledger σ)
    (device : Device (Frontend σ) Unit) (trigger : Trigger) (queued : List Scan) : Prop where
  bound : Bound binding session device trigger
  capturing : device.capturing = true
  answering : answers device.provider.converter.device
  shape : device.buffer.layout = layout
  converter : device.provider.converter = ledger.converter
  queues : device.buffer.Queues queued
  kept : ledger.read ++ queued = ledger.kept layout.timestamp
  overruns : device.buffer.overruns = ledger.dropped
  completed : trigger.completed = base + ledger.shots.length

namespace Tracks

variable {binding : Binding} {answers : σ → Prop} {layout : RecordLayout} {base : Nat}
  {session : Session (Frontend σ) Unit} {ledger : Ledger σ} {device : Device (Frontend σ) Unit}
  {trigger : Trigger} {queued : List Scan}

omit [Spi.Device σ UInt16] in
/-- A ledger that agrees with a session is settled. -/
theorem settled (tracks : Tracks binding answers layout base session ledger device trigger
    queued) : Settled binding layout.timestamp base session ledger :=
  .of_bound tracks.bound tracks.converter tracks.queues tracks.kept tracks.overruns
    tracks.completed

/-- What an edge leaves in the buffer: behind what was queued, the scan the edge is to keep,
and one overrun more if the scan came late. -/
theorem queued_edge
    (tracks : Tracks binding answers layout base session ledger device trigger queued)
    {outcome : Except Problem (List UInt16)} {converter : Converter σ} {lines : List LogLine}
    (scanned : device.provider.converter.scanInputs = some (outcome, converter, lines))
    (time : Int64) :
    let shot : Shot := ⟨time, device.buffer.count, outcome⟩
    let after := (device.answered converter outcome time).buffer
    after.Queues (queued ++ (shot.kept? layout.timestamp).toList) ∧ after.layout = layout ∧
      after.overruns = ledger.dropped + (shot.succeeded && shot.late).toNat := by
  intro shot after
  cases outcome with
  | error problem =>
      refine ⟨?_, tracks.shape, tracks.overruns⟩
      rw [show shot.kept? layout.timestamp = none from rfl, Option.toList_none, List.append_nil]
      exact tracks.queues
  | ok payload =>
      obtain ⟨queues, shape, _, overruns⟩ :=
        tracks.bound.intact.pushed tracks.capturing scanned tracks.queues time
      rw [tracks.shape] at queues
      rw [tracks.overruns] at overruns
      have late : shot.late = decide (128 ≤ queued.length) := by
        rw [← tracks.queues.count]
        rfl
      by_cases room : queued.length < 128
      · rw [if_pos room] at queues overruns
        rw [decide_eq_false (Nat.not_le.2 room)] at late
        have left : shot.kept? layout.timestamp =
            some ⟨payload, if layout.timestamp then some time else none⟩ := by
          simp [Shot.kept?, shot, late]
        rw [left, late, Bool.and_false]
        exact ⟨queues, shape.trans tracks.shape, overruns⟩
      · rw [if_neg room] at queues overruns
        rw [decide_eq_true (Nat.not_lt.1 room)] at late
        have left : shot.kept? layout.timestamp = none := by simp [Shot.kept?, shot, late]
        rw [left, late, Option.toList_none, List.append_nil]
        exact ⟨queues, shape.trans tracks.shape, overruns⟩

/-- **An edge** is one scan, which is entered as what it brought: a scan that succeeded is
queued if it found room, and counted as an overrun if not. -/
theorem edge (answering : Spi.Answering answers)
    (tracks : Tracks binding answers layout base session ledger device trigger queued)
    (time : Int64) :
    ∃ after entered device' trigger' queued', session.poll binding.trigger time = some after ∧
      ledger.enter binding.part device.buffer (.edge time) .done = some entered ∧
      Tracks binding answers layout base after entered device' trigger' queued' ∧
      entered.shots.length = ledger.shots.length + 1 := by
  obtain ⟨⟨outcome, converter, lines⟩, scanned⟩ :=
    Converter.scanInputs_answers answering tracks.answering
  obtain ⟨after, polled, _, still⟩ := tracks.bound.poll tracks.capturing time scanned
  obtain ⟨queues, shape, overruns⟩ := tracks.queued_edge scanned time
  have keeps := (Converter.scanInputs_keeps scanned).1
  let shot : Shot := ⟨time, device.buffer.count, outcome⟩
  have booked : ledger.enter binding.part device.buffer (.edge time) .done =
      some (ledger.shoot converter shot) := by
    rw [Ledger.enter, ← tracks.converter, scanned, Option.map_some]
  have more := ledger.length_shoot converter shot
  refine ⟨after, ledger.shoot converter shot, device.answered converter outcome time,
    trigger.handled, queued ++ (shot.kept? layout.timestamp).toList, polled, booked, ?_, more⟩
  exact
    { bound := still
      capturing := (Device.answered_capturing _ _ _ _).trans tracks.capturing
      answering := by
        rw [Device.answered_converter]
        exact keeps.stable answers answering.stable tracks.answering
      shape := shape
      converter := Device.answered_converter _ _ _ _
      queues := queues
      kept := by
        rw [Ledger.kept_shoot, ← tracks.kept, List.append_assoc]
        rfl
      overruns := overruns.trans (ledger.dropped_shoot converter shot).symm
      completed := by
        rw [more]
        exact congrArg (· + 1) tracks.completed }

omit [Spi.Device σ UInt16] in
/-- A ledger goes on agreeing with a session that has the same device and trigger. -/
theorem moved (tracks : Tracks binding answers layout base session ledger device trigger queued)
    {later : Session (Frontend σ) Unit} (bound : Bound binding later device trigger) :
    Tracks binding answers layout base later ledger device trigger queued :=
  { tracks with bound }

omit [Spi.Device σ UInt16] in
/-- Scans that are taken from the front are entered as read. -/
theorem taken (tracks : Tracks binding answers layout base session ledger device trigger queued)
    {later : Session (Frontend σ) Unit} {ring : RingBuffer UInt8} {front rest : List Scan}
    (bound : Bound binding later (device.withRing ring) trigger)
    (left : (device.withRing ring).buffer.Queues rest) (parts : front ++ rest = queued) :
    Tracks binding answers layout base later { ledger with read := ledger.read ++ front }
      (device.withRing ring) trigger rest :=
  { tracks with
    bound := bound
    queues := left
    kept := by
      show ledger.read ++ front ++ rest = ledger.kept layout.timestamp
      rw [List.append_assoc, parts]
      exact tracks.kept }

/-- **Reading an input** is one exchange, and leaves what is queued alone. -/
theorem read (answering : Spi.Answering answers)
    (tracks : Tracks binding answers layout base session ledger device trigger queued)
    (input : Nat) (asked : Attribute) :
    ∃ result after entered device', binding.read session input asked = some (result, after) ∧
      ledger.enter binding.part device.buffer (.read input asked) (.value result) = some entered ∧
      Tracks binding answers layout base after entered device' trigger queued ∧
      entered.shots = ledger.shots := by
  by_cases raw : asked = .raw ∧ input < binding.part.inputs
  · obtain ⟨rfl, existing⟩ := raw
    obtain ⟨⟨outcome, converter⟩, answered⟩ :=
      Converter.single_answers answering tracks.answering (UInt8.ofNat input)
    obtain ⟨after, given, _, still⟩ := tracks.bound.read_raw existing answered
    have keeps := Converter.single_keeps answered
    have booked : ledger.enter binding.part device.buffer (.read input .raw)
        (.value (rawOf binding.part outcome)) = some { ledger with converter } := by
      rw [Ledger.enter, if_pos ⟨rfl, existing⟩, ← tracks.converter, answered, Option.map_some]
    refine ⟨_, after, _, device.withConverter converter, given, booked, ?_, rfl⟩
    exact
      { tracks with
        bound := still
        answering := keeps.stable answers answering.stable tracks.answering
        converter := rfl }
  · obtain ⟨after, given, _, still⟩ := tracks.bound.read_other raw
    let result := valueOf binding.part input (session.supplies.voltage device.provider.supply) asked
    have booked : ledger.enter binding.part device.buffer (.read input asked) (.value result) =
        some ledger := by
      rw [Ledger.enter, if_neg raw]
    exact ⟨result, after, ledger, device, given, booked, tracks.moved still, rfl⟩

/-- What a use that was followed comes to. -/
theorem followed (tracks : Tracks binding answers layout base session ledger device trigger queued)
    {use : Use} {answer : Answer} {after : Session (Frontend σ) Unit} {entered : Ledger σ}
    (used : binding.use session use = some (answer, after))
    (booked : ledger.enter binding.part device.buffer use answer = some entered) :
    ledger.follow binding session use = some (answer, after, entered) := by
  rw [Ledger.follow, tracks.bound.device_at, Option.bind_some, used, Option.bind_some]
  exact congrArg (Option.map _) booked

/-- **One use keeps the account right**, unless it stops the capture. -/
theorem follow (answering : Spi.Answering answers)
    (tracks : Tracks binding answers layout base session ledger device trigger queued)
    {use : Use} (on : use ≠ .disable) :
    ∃ answer after entered device' trigger' queued',
      ledger.follow binding session use = some (answer, after, entered) ∧
      Tracks binding answers layout base after entered device' trigger' queued' ∧
      entered.shots.length = ledger.shots.length + use.isEdge.toNat ∧ answer.Proper layout := by
  have nothing : some { ledger with read := ledger.read ++ [] } = some ledger := by
    rw [List.append_nil]
  cases use with
  | edge time =>
      obtain ⟨after, entered, device', trigger', queued', polled, booked, still, more⟩ :=
        tracks.edge answering time
      have used := congrArg (Option.map fun later => (Answer.done, later)) polled
      exact ⟨_, after, entered, device', trigger', queued', tracks.followed used booked, still,
        more, trivial⟩
  | tick time =>
      obtain ⟨after, entered, device', trigger', queued', polled, booked, still, more⟩ :=
        tracks.edge answering time
      have ticked := (tracks.bound.tick_eq time).trans polled
      have used := congrArg (Option.map fun later => (Answer.done, later)) ticked
      exact ⟨_, after, entered, device', trigger', queued', tracks.followed used booked, still,
        more, trivial⟩
  | read input asked =>
      obtain ⟨result, after, entered, device', given, booked, still, same⟩ :=
        tracks.read answering input asked
      have used := congrArg (Option.map fun done => (Answer.value done.1, done.2)) given
      exact ⟨_, after, entered, device', trigger, queued, tracks.followed used booked, still,
        congrArg List.length same, trivial⟩
  | enable inputs timestamp =>
      obtain ⟨error, refused⟩ : ∃ error,
          binding.enable session inputs timestamp = some (.error error, session) := by
        rw [Binding.enable]
        split
        · exact ⟨_, rfl⟩
        · exact ⟨_, tracks.bound.enable_capturing tracks.capturing _⟩
      have used := congrArg (Option.map fun done => (Answer.switched done.1, done.2)) refused
      exact ⟨_, session, ledger, device, trigger, queued, tracks.followed used nothing, tracks,
        rfl, error, rfl⟩
  | capture mask =>
      have refused := tracks.bound.enable_capturing tracks.capturing mask
      have used := congrArg (Option.map fun done => (Answer.switched done.1, done.2)) refused
      exact ⟨_, session, ledger, device, trigger, queued, tracks.followed used nothing, tracks,
        rfl, _, rfl⟩
  | disable => exact absurd rfl on
  | takeScan =>
      obtain ⟨ring, after, given, _, still, left⟩ := tracks.bound.readScan tracks.queues
      have used : binding.use session .takeScan = some (.scan queued.head?, after) := by
        simp only [Binding.use, given]
      have parts : queued.head?.toList ++ queued.tail = queued := by cases queued <;> rfl
      exact ⟨_, after, _, _, trigger, queued.tail, tracks.followed used rfl,
        tracks.taken still left parts, rfl, trivial⟩
  | takeBytes size =>
      obtain ⟨ring, after, given, _, still, left⟩ := tracks.bound.readBytes tracks.queues size
      let count := size / device.buffer.layout.bytes
      let block := (queued.take count).flatMap device.buffer.layout.record
      have used : binding.use session (.takeBytes size) = some (.bytes block, after) := by
        simp only [Binding.use, given, count, block]
      have scans : device.buffer.layout.scansIn block = queued.take count :=
        tracks.queues.scansIn_take count
      have booked : ledger.enter binding.part device.buffer (.takeBytes size) (.bytes block) =
          some { ledger with read := ledger.read ++ queued.take count } := by
        show some { ledger with read := ledger.read ++ device.buffer.layout.scansIn block } = _
        rw [scans]
      refine ⟨_, after, _, _, trigger, queued.drop count, tracks.followed used booked,
        tracks.taken still left (List.take_append_drop _ _), rfl, ?_⟩
      show (layout.scansIn block).flatMap layout.record = block
      rw [← tracks.shape, scans]

/-- So do any number of uses, and none of them breaks down. -/
theorem followAll (answering : Spi.Answering answers)
    (tracks : Tracks binding answers layout base session ledger device trigger queued)
    {uses : List Use} (on : .disable ∉ uses) :
    ∃ replies after entered device' trigger' queued',
      ledger.followAll binding uses session = some (replies, after, entered) ∧
      Tracks binding answers layout base after entered device' trigger' queued' ∧
      entered.shots.length = ledger.shots.length + edges uses ∧
      ∀ reply ∈ replies, reply.Proper layout := by
  induction uses generalizing session ledger device trigger queued with
  | nil => exact ⟨[], session, ledger, device, trigger, queued, rfl, tracks, rfl, by simp⟩
  | cons use rest ih =>
      have first : use ≠ .disable := fun same => on (same ▸ List.mem_cons_self)
      have others : .disable ∉ rest := fun member => on (List.mem_cons_of_mem _ member)
      obtain ⟨answer, middle, half, device', trigger', queued', used, still, more, proper⟩ :=
        tracks.follow answering first
      obtain ⟨replies, after, entered, device'', trigger'', queued'', usedRest, last, most,
        properRest⟩ := ih still others
      refine ⟨answer :: replies, after, entered, device'', trigger'', queued'', ?_, last, ?_, ?_⟩
      · rw [Ledger.followAll, used, Option.bind_some]
        exact congrArg (Option.map _) usedRest
      · rw [most, more, edges, edges, List.countP_cons]
        cases use.isEdge <;> simp [Nat.add_comm, Nat.add_left_comm]
      · intro reply member
        rcases List.mem_cons.1 member with rfl | later
        · exact proper
        · exact properRest reply later

omit [Spi.Device σ UInt16] in
/-- A capture that has just started agrees with an empty ledger. -/
theorem start {mask : ScanMask} (here : answers device.provider.converter.device)
    {later : Session (Frontend σ) Unit} {still : Trigger}
    (running : Bound binding later (device.started mask layout) still) :
    Tracks binding answers layout still.completed later
      { converter := (device.started mask layout).provider.converter }
      (device.started mask layout) still [] where
  bound := running
  capturing := rfl
  answering := here
  shape := rfl
  converter := rfl
  queues := device.buffer.configure_queues layout
  kept := rfl
  overruns := rfl
  completed := rfl

end Tracks

end Account

/-- **Captured scans are conserved.** Take a converter that was bound behind a device which
answers every transaction, with whatever words or failures, and was used in any way before a
capture of some inputs was started. However it is used from then on, short of stopping the
capture, every use gives an answer, and the ledger kept beside it is settled, before and
after the capture is stopped. So whoever reads a scan, at any moment, is given the oldest that
is queued, and whoever reads bytes the records of the oldest. -/
theorem capture_conserved {σ : Type} [Spi.Device σ UInt16] [Spi.WordSize σ] {answers : σ → Prop}
    (answering : Spi.Answering answers) {session fresh idle started : Session (Frontend σ) Unit}
    {device : σ} (here : answers (Spi.WordSize.setWordSize device wordBits).2)
    {id bus : String} {binding : Binding}
    (probed : session.probe device id bus = (.ok binding, fresh))
    {earlier : List Use} {answered : List Answer}
    (used : binding.useAll earlier fresh = some (answered, idle))
    {inputs : List Nat} {stamped : Bool}
    (enabled : binding.enable idle inputs stamped = some (.ok (), started))
    {uses : List Use} (on : .disable ∉ uses) :
    ∃ opened paced, started.device? binding.device = some opened ∧
      started.trigger? binding.trigger = some paced ∧
      ∃ replies later ledger,
        Ledger.followAll binding uses started { converter := opened.provider.converter } =
          some (replies, later, ledger) ∧
        ledger.shots.length = edges uses ∧
        (∀ reply ∈ replies, reply.Proper opened.buffer.layout) ∧
        Settled binding stamped paced.completed later ledger ∧
        ∃ ended, later.disable binding.device = (.ok (), ended) ∧
          Settled binding stamped paced.completed ended ledger := by
  obtain ⟨first, _, bound, _, _, made⟩ := (Session.probe_ok probed).bound
  obtain ⟨before, paused, ready, follows⟩ := bound.useAll used
  have still := follows.stable answers answering.stable (made ▸ here)
  obtain ⟨existing, layout, paced, shaped, running, _⟩ := ready.enabled enabled
  have stamp : layout.timestamp = stamped :=
    (RecordLayout.ofMask?_channelsOf shaped).2.2.trans (Binding.contains_maskOf existing stamped)
  let opened := before.started (Binding.maskOf binding.part inputs stamped) layout
  obtain ⟨replies, later, ledger, device', trigger', queued, followed, tracks, count, proper⟩ :=
    (Tracks.start still running).followAll answering on
  refine ⟨opened, paced, running.device_at, running.trigger_at, replies, later, ledger, followed,
    ?_, proper, stamp ▸ tracks.settled, ?_⟩
  · exact count.trans (Nat.zero_add _)
  · obtain ⟨ended, trigger'', stopped, _, off, same⟩ := tracks.bound.disable
    exact ⟨ended, stopped, stamp ▸ .of_bound off tracks.converter tracks.queues tracks.kept
      tracks.overruns (same.trans tracks.completed)⟩

/-! ## A capture with a failure in it -/

/-- A session with nothing in it but the supply of the reference. -/
def bench : Session (Frontend (Spi.Script UInt16)) Unit where
  supplies := { regulators := ⟨[{ microvolts := 2500000 }]⟩, named := [(referenceSupply, ⟨0⟩)] }

/-- A device that answers with three words in turn and fails in the middle of the second scan. -/
def faltering : Spi.Script UInt16 where
  replies := [0x1111, 0x2222, 0x3333]
  failAt := [6]

def onBench : Binding :=
  ⟨⟨0⟩, ⟨0⟩, ⟨0⟩, "spi0.1", .ads7950⟩

/-- Two edges, a reading and a scan taken, another edge, and whatever is left taken. -/
def mixed : List Use :=
  [.edge 10, .edge 20, .read 0 .raw, .takeScan, .tick 30, .enable [0] false, .takeBytes 100]

theorem faltering_capture :
    ∃ (later ended : Session (Frontend (Spi.Script UInt16)) Unit) (ledger : Ledger _),
      later.disable onBench.device = (.ok (), ended) ∧
      Settled onBench true 0 later ledger ∧ Settled onBench true 0 ended ledger ∧
      ledger.shots.length = 3 ∧ ledger.succeeded = 2 ∧
      ledger.read = [⟨[0x3333, 0x1111], some 10⟩, ⟨[0x3333, 0x1111], some 30⟩] := by
  let fresh := (bench.probe faltering "ti-ads7950" "spi0.1").2
  have probed : bench.probe faltering "ti-ads7950" "spi0.1" = (.ok onBench, fresh) :=
    Session.probe_of_toOption (by decide +kernel)
  have used : onBench.useAll [] fresh = some ([], fresh) := rfl
  have on : .disable ∉ mixed := by decide
  have answering : Spi.Answering fun _ : Spi.Script UInt16 => True :=
    ⟨fun _ _ _ _ _ _ => trivial, fun _ _ _ _ => ⟨_, rfl⟩⟩
  -- The run as a whole, worked out.
  have ran : ((onBench.enable fresh [1, 3] true).bind fun (result, started) =>
      (started.device? onBench.device).bind fun opened =>
        (started.trigger? onBench.trigger).bind fun paced =>
          (Ledger.followAll onBench mixed started
            { converter := opened.provider.converter }).map fun (_, _, ledger) =>
              (result.toOption, paced.completed, ledger.succeeded, ledger.read)) =
      some (some (), 0, 2, [⟨[0x3333, 0x1111], some 10⟩, ⟨[0x3333, 0x1111], some 30⟩]) := by
    decide +kernel
  obtain ⟨⟨result, started⟩, enabled, ran⟩ := Option.bind_eq_some_iff.1 ran
  cases result with
  | error error =>
      obtain ⟨opened, _, ran⟩ := Option.bind_eq_some_iff.1 ran
      obtain ⟨paced, _, ran⟩ := Option.bind_eq_some_iff.1 ran
      obtain ⟨run, _, same⟩ := Option.map_eq_some_iff.1 ran
      exact absurd (congrArg Prod.fst same) (by simp [Except.toOption])
  | ok nothing =>
      obtain ⟨opened, paced, found, foundTrigger, replies, later, ledger, followed, count, _,
        settled, ended, stopped, last⟩ :=
        capture_conserved answering trivial probed used enabled on
      simp only [found, foundTrigger, followed, Option.bind_some, Option.map_some] at ran
      simp only [Option.some.injEq, Prod.mk.injEq] at ran
      obtain ⟨_, completed, succeeded, read⟩ := ran
      rw [completed] at settled last
      exact ⟨later, ended, ledger, stopped, settled, last, count, succeeded, read⟩

end Acquisition
