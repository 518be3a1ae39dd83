/-
# Acquisition.Proofs.Steady — a converter whose inputs stand still

What a converter on a simulated part shows of itself while the voltages at its inputs do
not change is a `Picture`: whether a capture is on, which inputs it scans, and which scans
are queued. The part behind it does not appear. Its chosen input, its range, its pending
result and the words of the last scan come out differently after every exchange, but nothing
that is seen from outside depends on them.

`Shows.use` is the simulation: each use of the converter is the same use of its picture, and
the answer is the same. `Shows.useAll` carries it over any number of uses. A picture is not
changed by a read (`Picture.useAll_unread`), and what it queues is the readings of the inputs
(`Picture.useAll_capturing`).
-/
import Acquisition.Proofs.Probe
import Acquisition.Proofs.ScanQueue

namespace Acquisition

open Acquisition.Converter (Part Problem SimulatedPart PreparedScan)

set_option autoImplicit false

/-! ## What no transaction changes of a simulated part -/

namespace Converter.SimulatedPart

theorem Alike.refl (chip : SimulatedPart) : chip.Alike chip :=
  ⟨rfl, rfl, rfl, rfl⟩

theorem frame_alike {chip after : SimulatedPart} {word answer : UInt16}
    (framed : chip.frame word = some (answer, after)) : chip.Alike after := by
  rw [frame] at framed
  split at framed
  · exact absurd framed (by simp)
  · cases framed
    exact chip.step_alike word

theorem operate_alike {chip after : SimulatedPart} {operation : Spi.Operation UInt16}
    {words : List UInt16} (operated : chip.operate operation = some (words, after)) :
    chip.Alike after := by
  have framed (word : UInt16) (received : UInt16 → List UInt16)
      (done : (chip.frame word).map (fun sent => (received sent.1, sent.2)) =
        some (words, after)) : chip.Alike after := by
    obtain ⟨⟨answer, later⟩, sent, same⟩ := Option.map_eq_some_iff.1 done
    cases same
    exact frame_alike sent
  cases operation with
  | write sent =>
      cases sent with
      | nil => exact absurd operated (by simp [operate])
      | cons word rest => exact framed word (fun _ => []) operated
  | read count =>
      cases count with
      | zero => exact absurd operated (by simp [operate])
      | succ count => exact framed 0 (fun answer => [answer]) operated
  | transfer count sent => exact framed (sent.headD 0) (fun answer => [answer].take count) operated
  | inPlace sent =>
      cases sent with
      | nil => exact absurd operated (by simp [operate])
      | cons word rest => exact framed word (fun answer => [answer]) operated
  | delay nanoseconds =>
      cases operated
      exact .refl chip

theorem operateAll_alike {operations : List (Spi.Operation UInt16)} :
    ∀ {chip after : SimulatedPart} {words : List (List UInt16)},
      operateAll operations chip = some (words, after) → chip.Alike after := by
  induction operations with
  | nil =>
      intro chip after words operated
      cases operated
      exact .refl chip
  | cons operation rest ih =>
      intro chip after words operated
      rw [operateAll] at operated
      split at operated
      · exact absurd operated (by simp)
      · next first middle done =>
          obtain ⟨⟨others, last⟩, remaining, same⟩ := Option.map_eq_some_iff.1 operated
          cases same
          exact (operate_alike done).trans (ih remaining)

/-- **No transaction changes the inputs of a part**, its reference or its words. -/
theorem alike_stable (chip : SimulatedPart) : Spi.Stable chip.Alike := by
  intro other operation reply _ answered alike
  replace answered : other.transact [operation] = some reply := answered
  rw [transact] at answered
  split at answered
  · cases answered
    exact alike
  split at answered
  · cases answered
    exact alike
  · obtain ⟨⟨words, after⟩, operated, rfl⟩ := Option.map_eq_some_iff.1 answered
    exact alike.trans (operateAll_alike operated)

end Converter.SimulatedPart

/-! ## Pictures -/

/-- Whether a use reads an attribute. -/
def Use.isRead : Use → Bool
  | .read _ _ => true
  | _ => false

/-- Whether an answer is the value of an attribute. -/
def Answer.isValue : Answer → Bool
  | .value _ => true
  | _ => false

/-- The uses that read nothing. -/
def Use.others (uses : List Use) : List Use :=
  uses.filter fun use => !use.isRead

/-- The answers that are no values. -/
def Answer.others (answers : List Answer) : List Answer :=
  answers.filter fun answer => !answer.isValue

/-- Values hold no scans. -/
theorem Answer.scans_others (layout : RecordLayout) (answers : List Answer) :
    (Answer.others answers).flatMap (·.scans layout) = answers.flatMap (·.scans layout) := by
  induction answers with
  | nil => rfl
  | cons answer rest ih =>
      rw [List.flatMap_cons, ← ih]
      cases answer <;> rfl

/-- The inputs a mask scans, lowest first. -/
def ScanMask.inputs (mask : ScanMask) (part : Part) : List Nat :=
  mask.toList.filter fun index => index < part.inputs

/-- What is seen of a converter with steady inputs. -/
structure Picture where
  capturing : Bool
  mask : ScanMask
  layout : RecordLayout
  queued : List Scan

namespace Picture

variable (chip : SimulatedPart) (binding : Binding)

/-- The words of a scan: the reading of each input that is captured. -/
def samples (picture : Picture) : List UInt16 :=
  (picture.mask.inputs chip.part).map (chip.reading .double)

/-- The scan of an edge. -/
def scan (picture : Picture) (time : Int64) : Scan :=
  ⟨picture.samples chip, if picture.layout.timestamp then some time else none⟩

/-- An edge while a capture is on queues a scan, if there is room for it. -/
def edge (picture : Picture) (time : Int64) : Picture :=
  if picture.capturing ∧ picture.queued.length < 128 then
    { picture with queued := picture.queued ++ [picture.scan chip time] }
  else picture

/-- Starts a capture; `none` if the timer breaks down over the name of the bus. -/
def start (picture : Picture) (mask : ScanMask) : Option (Except Error Unit × Picture) :=
  if picture.capturing then some (.error .busy, picture)
  else
    match RecordLayout.ofMask? (channelsOf binding.part) mask with
    | none => some (.error .invalid, picture)
    | some layout =>
        if Trigger.canName binding.bus then some (.ok (), ⟨true, mask, layout, []⟩) else none

/-- Uses a picture, and gives the answer unless that is a value. -/
def use (picture : Picture) : Use → Option (List Answer × Picture)
  | .edge time | .tick time => some ([.done], picture.edge chip time)
  | .read _ _ => some ([], picture)
  | .enable inputs stamped =>
      if inputs.any fun input => binding.part.inputs ≤ input then
        some ([.switched (.error .invalid)], picture)
      else
        (picture.start binding (Binding.maskOf binding.part inputs stamped)).map
          fun (result, next) => ([.switched result], next)
  | .capture mask =>
      (picture.start binding mask).map fun (result, next) => ([.switched result], next)
  | .disable => some ([.switched (.ok ())], { picture with capturing := false })
  | .takeScan =>
      some ([.scan picture.queued.head?], { picture with queued := picture.queued.tail })
  | .takeBytes size =>
      let count := size / picture.layout.bytes
      some ([.bytes ((picture.queued.take count).flatMap picture.layout.record)],
        { picture with queued := picture.queued.drop count })

/-- Uses a picture several times, one after the other. -/
def useAll : List Use → Picture → Option (List Answer × Picture)
  | [], picture => some ([], picture)
  | use :: rest, picture =>
      (picture.use chip binding use).bind fun (heard, picture) =>
        (useAll rest picture).map fun (others, picture) => (heard ++ others, picture)

variable {chip binding}

/-- **Reads do not show.** -/
theorem useAll_unread (uses : List Use) (picture : Picture) :
    picture.useAll chip binding uses = picture.useAll chip binding (Use.others uses) := by
  induction uses generalizing picture with
  | nil => rfl
  | cons use rest ih =>
      cases asked : use.isRead with
      | true =>
          have skipped : Use.others (use :: rest) = Use.others rest :=
            List.filter_cons_of_neg (by simp [asked])
          have still : picture.use chip binding use = some ([], picture) := by
            cases use with
            | read => rfl
            | _ => cases asked
          rw [skipped, useAll, still, Option.bind_some, ← ih]
          exact Option.map_id'
      | false =>
          have taken : Use.others (use :: rest) = use :: Use.others rest :=
            List.filter_cons_of_pos (by simp [asked])
          rw [taken, useAll, useAll]
          congr 1
          funext ⟨heard, next⟩
          exact congrArg (Option.map _) (ih next)

/-- **While a capture is on, nothing but the readings of its inputs is queued**, behind what
was queued before, and only the first scans are taken. -/
theorem use_capturing {picture : Picture} (on : picture.capturing = true)
    (whole : ∀ count, picture.layout.scansIn
      ((picture.queued.take count).flatMap picture.layout.record) = picture.queued.take count)
    {use : Use} (going : use ≠ .disable) :
    ∃ heard next captured, picture.use chip binding use = some (heard, next) ∧
      next.capturing = true ∧ next.mask = picture.mask ∧ next.layout = picture.layout ∧
      heard.flatMap (·.scans picture.layout) ++ next.queued = picture.queued ++ captured ∧
      ∀ scan ∈ captured, scan.samples = picture.samples chip := by
  have edge (time : Int64) : ∃ captured,
      (picture.edge chip time).capturing = true ∧
      (picture.edge chip time).mask = picture.mask ∧
      (picture.edge chip time).layout = picture.layout ∧
      (picture.edge chip time).queued = picture.queued ++ captured ∧
      ∀ scan ∈ captured, scan.samples = picture.samples chip := by
    rw [Picture.edge]
    split
    · refine ⟨[picture.scan chip time], on, rfl, rfl, rfl, ?_⟩
      intro scan member
      rw [List.mem_singleton.1 member]
      rfl
    · exact ⟨[], on, rfl, rfl, (List.append_nil _).symm, by simp⟩
  have busy (mask : ScanMask) : picture.start binding mask = some (.error .busy, picture) :=
    if_pos on
  cases use with
  | edge time =>
      obtain ⟨captured, capturing, mask, layout, queued, scans⟩ := edge time
      exact ⟨_, _, captured, rfl, capturing, mask, layout, queued, scans⟩
  | tick time =>
      obtain ⟨captured, capturing, mask, layout, queued, scans⟩ := edge time
      exact ⟨_, _, captured, rfl, capturing, mask, layout, queued, scans⟩
  | read input asked => exact ⟨_, _, [], rfl, on, rfl, rfl, (List.append_nil _).symm, by simp⟩
  | enable inputs stamped =>
      rw [Picture.use, busy]
      split
      · exact ⟨_, _, [], rfl, on, rfl, rfl, (List.append_nil _).symm, by simp⟩
      · exact ⟨_, _, [], rfl, on, rfl, rfl, (List.append_nil _).symm, by simp⟩
  | capture mask =>
      rw [Picture.use, busy]
      exact ⟨_, _, [], rfl, on, rfl, rfl, (List.append_nil _).symm, by simp⟩
  | disable => exact absurd rfl going
  | takeScan =>
      refine ⟨_, _, [], rfl, on, rfl, rfl, ?_, by simp⟩
      show picture.queued.head?.toList ++ [] ++ picture.queued.tail = picture.queued ++ []
      rw [List.append_nil, List.append_nil]
      cases picture.queued <;> rfl
  | takeBytes size =>
      refine ⟨_, _, [], rfl, on, rfl, rfl, ?_, by simp⟩
      rw [List.flatMap_singleton, Answer.scans, whole, List.take_append_drop, List.append_nil]

end Picture

/-! ## The simulation -/

/-- A session in which a bound converter shows a picture: its part is like `chip`, and what is
seen of it is what the picture says. -/
structure Shows (binding : Binding) (chip : SimulatedPart)
    (session : Session (Frontend SimulatedPart) Unit) (picture : Picture)
    (device : Device (Frontend SimulatedPart) Unit) (trigger : Trigger) : Prop where
  bound : Bound binding session device trigger
  alike : chip.Alike device.provider.converter.device
  capturing : device.capturing = picture.capturing
  mask : device.mask = picture.mask
  layout : device.buffer.layout = picture.layout
  queues : device.buffer.Queues picture.queued

namespace Shows

variable {binding : Binding} {chip : SimulatedPart}
  {session : Session (Frontend SimulatedPart) Unit} {picture : Picture}
  {device : Device (Frontend SimulatedPart) Unit} {trigger : Trigger}

/-- A bound converter shows a picture. -/
theorem of_bound (bound : Bound binding session device trigger) :
    ∃ picture, Shows binding device.provider.converter.device session picture device trigger := by
  obtain ⟨scans, queues⟩ := bound.intact.queued
  exact ⟨⟨device.capturing, device.mask, device.buffer.layout, scans⟩, bound, .refl _, rfl, rfl,
    rfl, queues⟩

/-- The same picture, in a session that still has the device and the trigger. -/
theorem moved (shows : Shows binding chip session picture device trigger)
    {later : Session (Frontend SimulatedPart) Unit} (bound : Bound binding later device trigger) :
    Shows binding chip later picture device trigger :=
  { shows with bound }

/-- Other scans queued in the same buffer are another picture. -/
theorem taken (shows : Shows binding chip session picture device trigger)
    {later : Session (Frontend SimulatedPart) Unit} {ring : RingBuffer UInt8} {rest : List Scan}
    (bound : Bound binding later (device.withRing ring) trigger)
    (left : (device.withRing ring).buffer.Queues rest) :
    Shows binding chip later { picture with queued := rest } (device.withRing ring) trigger :=
  { shows with
    bound := bound
    queues := left }

/-- **Starting a capture** does to the session what it does to the picture. -/
theorem start (shows : Shows binding chip session picture device trigger) (mask : ScanMask) :
    match picture.start binding mask with
    | none => session.enable binding.device mask = none
    | some (result, next) => ∃ after device' trigger',
        session.enable binding.device mask = some (result, after) ∧
        Shows binding chip after next device' trigger' := by
  cases on : picture.capturing with
  | true =>
      have busy := shows.bound.enable_capturing (shows.capturing.trans on) mask
      simp only [Picture.start, on, if_true]
      exact ⟨session, device, trigger, busy, shows⟩
  | false =>
      have idle := shows.capturing.trans on
      cases made : RecordLayout.ofMask? (channelsOf binding.part) mask with
      | none =>
          have invalid := shows.bound.enable_invalid idle made
          simp only [Picture.start, on, Bool.false_eq_true, if_false, made]
          exact ⟨session, device, trigger, invalid, shows⟩
      | some layout =>
          have enabled := shows.bound.enable_idle idle made
          simp only [Picture.start, on, Bool.false_eq_true, if_false, made]
          by_cases named : Trigger.canName binding.bus = true
          · rw [if_pos named] at enabled
            obtain ⟨after, still, started, _, running, _⟩ := enabled
            rw [if_pos named]
            exact ⟨after, _, still, started, running, shows.alike, rfl, rfl, rfl,
              device.buffer.configure_queues layout⟩
          · rw [if_neg named] at enabled
            rw [if_neg named]
            exact enabled

theorem capture (shows : Shows binding chip session picture device trigger) (mask : ScanMask) :
    match picture.use chip binding (.capture mask) with
    | none => binding.use session (.capture mask) = none
    | some (heard, next) => ∃ answer after device' trigger',
        binding.use session (.capture mask) = some (answer, after) ∧
        Answer.others [answer] = heard ∧ Shows binding chip after next device' trigger' := by
  have started := shows.start mask
  rw [Picture.use]
  cases shown : picture.start binding mask with
  | none =>
      rw [shown] at started
      exact congrArg (Option.map _) started
  | some done =>
      rw [shown] at started
      obtain ⟨after, device', trigger', asked, still⟩ := started
      exact ⟨_, after, device', trigger', congrArg (Option.map _) asked, rfl, still⟩

section Traffic

variable (ready : chip.Ready) (matched : chip.part = binding.part)

include ready matched

/-- **A scan brings the readings of the inputs that are captured**, whatever the part was
doing before. -/
theorem scanned (shows : Shows binding chip session picture device trigger)
    (on : picture.capturing = true) :
    ∃ converter, device.provider.converter.scanInputs =
      some (.ok (picture.samples chip), converter, []) := by
  have prepared := shows.bound.intact.prepared (shows.capturing.trans on)
  have part : device.provider.converter.part = chip.part :=
    shows.bound.intact.part.trans matched.symm
  have inputs :
      device.provider.converter.scan.inputs = Frontend.inputsOf chip.part picture.mask := by
    rw [prepared.inputs, part, shows.mask]
  have within : device.provider.converter.scan.inputs.Within
      device.provider.converter.device.part := by
    rw [inputs, shows.alike.part]
    exact Frontend.within_inputsOf _ _
  obtain ⟨scan, scanned, _⟩ := Converter.scanInputs_programmed (shows.alike.ready ready) within
    prepared.programmed
  have words : (device.provider.converter.scan.inputs.toList.map fun input =>
      device.provider.converter.device.reading .double input.toNat) = picture.samples chip := by
    rw [inputs, Frontend.toList_inputsOf, List.map_map, Picture.samples]
    apply List.map_congr_left
    intro input member
    have existing : input < chip.part.inputs := by simpa using (List.mem_filter.1 member).2
    rw [Function.comp_apply, shows.alike.reading, Part.toNat_ofNat existing]
  exact ⟨_, scanned.trans (congrArg (fun payload => some (Except.ok payload, _, [])) words)⟩

/-- **An edge** does to the session what it does to the picture. -/
theorem edge (shows : Shows binding chip session picture device trigger) (time : Int64) :
    ∃ after device' trigger', session.poll binding.trigger time = some after ∧
      Shows binding chip after (picture.edge chip time) device' trigger' := by
  cases on : picture.capturing with
  | false =>
      have still : picture.edge chip time = picture := if_neg (by simp [on])
      rw [still]
      exact ⟨session, device, trigger, shows.bound.poll_idle (shows.capturing.trans on) time, shows⟩
  | true =>
      have capturing := shows.capturing.trans on
      obtain ⟨converter, scanned⟩ := shows.scanned ready matched on
      obtain ⟨after, polled, _, still⟩ := shows.bound.poll capturing time scanned
      have keeps := (Converter.scanInputs_keeps scanned).1
      have alike := keeps.stable _ chip.alike_stable shows.alike
      obtain ⟨queues, shape, _⟩ :=
        shows.bound.intact.pushed capturing scanned shows.queues time
      have queued : picture.edge chip time =
          { picture with
            queued := if picture.queued.length < 128 then picture.queued ++ [picture.scan chip time]
              else picture.queued } := by
        by_cases room : picture.queued.length < 128
        · rw [if_pos room]
          exact if_pos ⟨on, room⟩
        · rw [if_neg room]
          exact if_neg fun both => room both.2
      rw [shows.layout] at queues
      rw [queued]
      refine ⟨after, device.answered converter (.ok (picture.samples chip)) time, trigger.handled,
        polled, ?_⟩
      exact
        { bound := still
          alike := by
            rw [Device.answered_converter]
            exact alike
          capturing := (Device.answered_capturing _ _ _ _).trans shows.capturing
          mask := (Device.answered_mask _ _ _ _).trans shows.mask
          layout := shape.trans shows.layout
          queues := queues }

/-- **Reading an input brings its conversion**, and does not show. -/
theorem read_raw (shows : Shows binding chip session picture device trigger) {input : Nat}
    (existing : input < binding.part.inputs) :
    ∃ after device', binding.read session input .raw =
        some (.ok (.whole (chip.code .double input)), after) ∧
      Shows binding chip after picture device' trigger := by
  have small := Part.lt_maxInputs existing
  have same := Part.toNat_ofNat existing
  have here := shows.alike.ready ready
  have part : device.provider.converter.device.part = device.provider.converter.part :=
    (shows.alike.part.trans matched).trans shows.bound.intact.part.symm
  have inside : (UInt8.ofNat input).toNat < device.provider.converter.part.inputs := by
    rw [same, shows.bound.intact.part]
    exact existing
  have answered := Converter.single_ready here part inside
  obtain ⟨after, given, _, still⟩ := shows.bound.read_raw existing answered
  have keeps := Converter.single_keeps answered
  have number : (Converter.Response.mk (device.provider.converter.device.reading
      device.provider.converter.settings.range (UInt8.ofNat input).toNat)).code.toNat /
        2 ^ binding.part.profile.shift = chip.code .double input := by
    rw [same, shows.alike.reading, chip.toNat_code_reading _ ready.range small, matched,
      Nat.mul_div_cancel _ (Nat.two_pow_pos _), shows.bound.intact.settings]
    rfl
  rw [rawOf, number] at given
  exact ⟨after, _, given, still, keeps.stable _ chip.alike_stable shows.alike, shows.capturing,
    shows.mask, shows.layout, shows.queues⟩

/-- Reading anything does not show. -/
theorem read (shows : Shows binding chip session picture device trigger) (input : Nat)
    (asked : Attribute) :
    ∃ result after device', binding.read session input asked = some (result, after) ∧
      Shows binding chip after picture device' trigger := by
  by_cases raw : asked = .raw ∧ input < binding.part.inputs
  · obtain ⟨rfl, existing⟩ := raw
    obtain ⟨after, device', given, still⟩ := shows.read_raw ready matched existing
    exact ⟨_, after, device', given, still⟩
  · obtain ⟨after, given, _, still⟩ := shows.bound.read_other raw
    exact ⟨_, after, device, given, shows.moved still⟩

/-- **One use of a converter is one use of its picture**, and gives the same answer. -/
theorem use (shows : Shows binding chip session picture device trigger) (use : Use) :
    match picture.use chip binding use with
    | none => binding.use session use = none
    | some (heard, next) => ∃ answer after device' trigger',
        binding.use session use = some (answer, after) ∧ Answer.others [answer] = heard ∧
        Shows binding chip after next device' trigger' := by
  cases use with
  | edge time =>
      obtain ⟨after, device', trigger', polled, still⟩ := shows.edge ready matched time
      have used := congrArg (Option.map fun later => (Answer.done, later)) polled
      exact ⟨_, after, device', trigger', used, rfl, still⟩
  | tick time =>
      obtain ⟨after, device', trigger', polled, still⟩ := shows.edge ready matched time
      have ticked := (shows.bound.tick_eq time).trans polled
      have used := congrArg (Option.map fun later => (Answer.done, later)) ticked
      exact ⟨_, after, device', trigger', used, rfl, still⟩
  | read input asked =>
      obtain ⟨result, after, device', given, still⟩ := shows.read ready matched input asked
      have used := congrArg (Option.map fun done => (Answer.value done.1, done.2)) given
      exact ⟨_, after, device', trigger, used, rfl, still⟩
  | enable inputs stamped =>
      by_cases outside : (inputs.any fun input => binding.part.inputs ≤ input) = true
      · simp only [Picture.use, Binding.use, Binding.enable, outside, if_true, Option.map_some]
        exact ⟨_, session, device, trigger, rfl, rfl, shows⟩
      · simp only [Picture.use, Binding.use, Binding.enable, outside]
        exact shows.capture _
  | capture mask => exact shows.capture mask
  | disable =>
      obtain ⟨after, trigger', stopped, _, off, _⟩ := shows.bound.disable
      have used : binding.use session .disable = some (.switched (.ok ()), after) := by
        simp only [Binding.use, stopped]
      exact ⟨_, after, _, trigger', used, rfl, off, shows.alike, rfl, shows.mask, shows.layout,
        shows.queues⟩
  | takeScan =>
      obtain ⟨ring, after, given, _, still, left⟩ := shows.bound.readScan shows.queues
      have used : binding.use session .takeScan = some (.scan picture.queued.head?, after) := by
        simp only [Binding.use, given]
      exact ⟨_, after, _, trigger, used, rfl, shows.taken still left⟩
  | takeBytes size =>
      obtain ⟨ring, after, given, _, still, left⟩ := shows.bound.readBytes shows.queues size
      rw [shows.layout] at given left
      have used : binding.use session (.takeBytes size) =
          some (.bytes ((picture.queued.take (size / picture.layout.bytes)).flatMap
            picture.layout.record), after) := by
        simp only [Binding.use, given]
      exact ⟨_, after, _, trigger, used, rfl, shows.taken still left⟩

/-- So it is for any number of uses. -/
theorem useAll (shows : Shows binding chip session picture device trigger) (uses : List Use) :
    match picture.useAll chip binding uses with
    | none => binding.useAll uses session = none
    | some (heard, next) => ∃ answers after device' trigger',
        binding.useAll uses session = some (answers, after) ∧ Answer.others answers = heard ∧
        Shows binding chip after next device' trigger' := by
  induction uses generalizing session picture device trigger with
  | nil => exact ⟨[], session, device, trigger, rfl, rfl, shows⟩
  | cons first rest ih =>
      have here := shows.use ready matched first
      rw [Picture.useAll]
      cases shown : picture.use chip binding first with
      | none =>
          rw [shown] at here
          simp only [Binding.useAll, here, Option.bind_none]
      | some done =>
          obtain ⟨heard, next⟩ := done
          rw [shown] at here
          obtain ⟨answer, after, device', trigger', used, said, still⟩ := here
          have later := ih still
          simp only [Option.bind_some, Binding.useAll, used]
          cases remaining : next.useAll chip binding rest with
          | none =>
              rw [remaining] at later
              simp only [Option.map_none, later]
          | some more =>
              obtain ⟨others, last⟩ := more
              rw [remaining] at later
              obtain ⟨answers, end_, device'', trigger'', usedRest, saidRest, final⟩ := later
              refine ⟨answer :: answers, end_, device'', trigger'', ?_, ?_, final⟩
              · rw [usedRest, Option.map_some]
              · rw [← said, ← saidRest]
                exact List.filter_append [answer] answers

/-- **What is taken and what is left in the queue are, in order, what was queued before and
the scans captured since**, and these are the readings of the inputs. -/
theorem useAll_capturing (shows : Shows binding chip session picture device trigger)
    (on : picture.capturing = true) {uses : List Use} (going : .disable ∉ uses) :
    ∃ answers after next device' trigger' captured,
      binding.useAll uses session = some (answers, after) ∧
      Shows binding chip after next device' trigger' ∧
      answers.flatMap (·.scans picture.layout) ++ next.queued = picture.queued ++ captured ∧
      ∀ scan ∈ captured, scan.samples = picture.samples chip := by
  induction uses generalizing session picture device trigger with
  | nil => exact ⟨[], session, picture, device, trigger, [], rfl, shows, by simp, by simp⟩
  | cons first rest ih =>
      have goingFirst : first ≠ .disable := fun same => going (same ▸ List.mem_cons_self)
      have goingRest : .disable ∉ rest := fun member => going (List.mem_cons_of_mem _ member)
      have whole := shows.queues.scansIn_take
      rw [shows.layout] at whole
      obtain ⟨heard, next, early, seen, still, mask, layout, kept, earlyScans⟩ :=
        Picture.use_capturing on whole goingFirst
      have here := shows.use ready matched first
      rw [seen] at here
      obtain ⟨answer, middle, device', trigger', used, said, showsNext⟩ := here
      obtain ⟨answers, after, last, device'', trigger'', later, usedRest, showsLast, keptRest,
        laterScans⟩ := ih showsNext still goingRest
      refine ⟨answer :: answers, after, last, device'', trigger'', early ++ later, ?_, showsLast,
        ?_, ?_⟩
      · simp only [Binding.useAll, used, usedRest, Option.map_some]
      · rw [← said, Answer.scans_others] at kept
        rw [layout] at keptRest
        calc (answer :: answers).flatMap (·.scans picture.layout) ++ last.queued
            = [answer].flatMap (·.scans picture.layout) ++
                (answers.flatMap (·.scans picture.layout) ++ last.queued) := by simp
          _ = ([answer].flatMap (·.scans picture.layout) ++ next.queued) ++ later := by
              rw [keptRest, List.append_assoc]
          _ = picture.queued ++ (early ++ later) := by rw [kept, List.append_assoc]
      · intro scan member
        rcases List.mem_append.1 member with before | behind
        · exact earlyScans scan before
        · have same : next.samples chip = picture.samples chip := by
            rw [Picture.samples, Picture.samples, mask]
          exact (laterScans scan behind).trans same

end Traffic

end Shows

end Acquisition
