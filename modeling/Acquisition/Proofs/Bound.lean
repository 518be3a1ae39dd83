/-
# Acquisition.Proofs.Bound — a bound converter stays bound

There is one law per use of a bound converter. Each says what the use answers, which
device and trigger it leaves behind, and that the rest of the session is kept; none of
them depends on what else lives in the session, nor on how the device on the bus
answers. `use` and `useAll` collect them: whatever a bound converter is used for, it stays
bound.
-/
import Acquisition.Proofs.Uses

namespace Acquisition

open Acquisition.Converter (Part Problem PreparedScan)

set_option autoImplicit false

variable {σ : Type}

/-! ## Reading, however the device is used otherwise -/

theorem channelOf_supports_iff (part : Part) (input : Nat) (asked : Attribute) :
    (channelOf (part.input input)).supports asked = true ↔ asked = .raw ∨ asked = .scale := by
  have same : (channelOf (part.input input)).supports asked =
      ((AttributeSet.ofList [.raw]).contains asked ||
        (AttributeSet.ofList [.scale]).contains asked) := rfl
  rw [same]
  cases asked <;> decide

namespace Fronts

variable [Spi.Device σ UInt16] {binding : Binding} {session : Session (Frontend σ) Unit}
  {device : Device (Frontend σ) Unit}

/-- Where an input is looked for. -/
theorem read_eq (fronts : Fronts binding session device) (input : Nat)
    (asked : Attribute) :
    binding.read session input asked =
      if input < binding.part.inputs then session.read binding.device input asked
      else some (.error .invalid, session) := by
  have place := voltageChannel?_channelsOf fronts.channels input
  simp only [Binding.read, fronts.device_at, Option.bind_some, place]
  by_cases existing : input < binding.part.inputs
  · simp only [if_pos existing]
  · simp only [if_neg existing]

theorem read_input (fronts : Fronts binding session device) {input : Nat}
    (existing : input < binding.part.inputs) (asked : Attribute) :
    let channel := channelOf (binding.part.input input)
    session.read binding.device input asked =
      if !channel.supports asked then some (.error .notSupported, session)
      else
        (Provider.read session.supplies channel asked device.provider).map
          fun (result, provider) =>
            (result, (session.note (.read binding.device channel asked)).modifyDevice
              binding.device fun device => { device with provider }) := by
  have channel := channelsOf_input existing
  rw [← fronts.channels] at channel
  simp only [Session.read, fronts.device_at, Option.bind_some, channel, Option.map_some]

theorem read_raw_eq (fronts : Fronts binding session device) {input : Nat}
    (existing : input < binding.part.inputs) :
    binding.read session input .raw =
      (device.provider.converter.single (UInt8.ofNat input)).map fun (result, converter) =>
        let channel := channelOf (binding.part.input input)
        (rawOf binding.part result,
          (session.note (.read binding.device channel .raw)).modifyDevice
            binding.device fun found =>
              { found with provider := { device.provider with converter } }) := by
  have supported := (channelOf_supports_iff binding.part input .raw).2 (.inl rfl)
  rw [fronts.read_eq, if_pos existing, fronts.read_input existing]
  simp only [supported, Bool.not_true, Bool.false_eq_true, if_false, Provider.read, Frontend.read]
  show Option.map _ (Option.map _ (device.provider.converter.single (UInt8.ofNat input))) = _
  rw [Option.map_map]
  rfl

end Fronts

namespace Bound

variable {binding : Binding} {session : Session (Frontend σ) Unit}
  {device : Device (Frontend σ) Unit} {trigger : Trigger}

/-- A session that still has the device and the trigger is as good. -/
theorem moved (bound : Bound binding session device trigger) {later : Session (Frontend σ) Unit}
    (sameDevice : later.device? binding.device = session.device? binding.device)
    (sameTrigger : later.trigger? binding.trigger = session.trigger? binding.trigger) :
    Bound binding later device trigger :=
  ⟨sameDevice.trans bound.device_at, sameTrigger.trans bound.trigger_at, bound.intact⟩

theorem consumer? (bound : Bound binding session device trigger) :
    session.consumer? binding.trigger = if device.capturing then some binding.device else none := by
  have alive := Session.alive_of_holders bound.device_at bound.intact.held
  rw [Session.consumer?, bound.trigger_at, Option.bind_some, bound.intact.consumer]
  split
  · rw [Option.filter_some, if_pos alive]
  · rfl

/-- Putting another intact device in place keeps the rest. -/
theorem modifyDevice (bound : Bound binding session device trigger)
    (change : Device (Frontend σ) Unit → Device (Frontend σ) Unit)
    (intact : Intact binding (change device) trigger) :
    session.Keeps binding.device binding.trigger (session.modifyDevice binding.device change) ∧
      Bound binding (session.modifyDevice binding.device change) (change device) trigger := by
  refine ⟨.modifyDevice _ _, ?_, ?_, intact⟩
  · rw [Session.device?_modifyDevice, bound.device_at, Option.map_some]
  · rw [Session.trigger?_modifyDevice, bound.trigger_at]

/-! ## Edges -/

/-- An edge that comes while no capture is on reaches nobody. -/
theorem poll_idle [Spi.Device σ UInt16] (bound : Bound binding session device trigger)
    (idle : device.capturing = false) (time : Int64) :
    session.poll binding.trigger time = some session := by
  have nobody := bound.consumer?
  rw [idle, if_neg Bool.false_ne_true] at nobody
  simp only [Session.poll, bound.trigger_at, nobody]

section Capturing

variable [Spi.Device σ UInt16]

/-- An edge that reaches a consumer ready for it is one run of its handler, which reports and
raises no edge itself. -/
theorem play_ready (encounter : Encounter (Frontend σ) Unit)
    (free : encounter.trigger.busy = false) (capturing : encounter.device.capturing = true)
    (ready : encounter.device.handler = some ()) (time : Int64) :
    encounter.play time [.raise] =
      (encounter.device.provider.handle time).map fun (turn, provider, lines) =>
        (encounter.enter time turn () provider lines).finish := by
  have found : encounter.handler? = some () := by
    rw [Encounter.handler?, if_pos capturing, ready]
  rw [Encounter.play_enter free found]
  cases handled : encounter.device.provider.handle time with
  | none => simp [Provider.handle, handled]
  | some done =>
      obtain ⟨turn, provider, lines⟩ := done
      simp [Provider.handle, handled, Frontend.handle_acts _ _ _ _ _ handled]

theorem play_answered (encounter : Encounter (Frontend σ) Unit)
    (free : encounter.trigger.busy = false) (capturing : encounter.device.capturing = true)
    (ready : encounter.device.handler = some ()) (time : Int64)
    {result : Except Problem (List UInt16)} {converter : Converter σ} {lines : List LogLine}
    (scanned : encounter.device.provider.converter.scanInputs = some (result, converter, lines)) :
    ∃ after : Encounter (Frontend σ) Unit, encounter.play time [.raise] = some after ∧
      after.device = encounter.device.answered converter result time ∧
      after.trigger = encounter.trigger.handled := by
  have played := play_ready encounter free capturing ready time
  have same (provider : Frontend σ) :
      { encounter.device with handler := some (), provider } =
        { encounter.device with provider } := by
    rw [← ready]
  rw [Frontend.handle, scanned] at played
  cases result with
  | error problem =>
      simp only [Option.map_some, Encounter.enter, same] at played
      exact ⟨_, played, rfl, rfl⟩
  | ok payload =>
      simp only [Option.map_some, Encounter.enter, same] at played
      exact ⟨_, played, rfl, rfl⟩

/-- **An edge while a capture is on is one scan**, pushed if it succeeded, and the edge is
done either way. -/
theorem poll (bound : Bound binding session device trigger)
    (capturing : device.capturing = true) (time : Int64)
    {result : Except Problem (List UInt16)} {converter : Converter σ} {lines : List LogLine}
    (scanned : device.provider.converter.scanInputs = some (result, converter, lines)) :
    ∃ later, session.poll binding.trigger time = some later ∧
      session.Keeps binding.device binding.trigger later ∧
      Bound binding later (device.answered converter result time) trigger.handled := by
  have somebody := bound.consumer?
  rw [capturing, if_pos rfl] at somebody
  obtain ⟨after, played, answered, handled⟩ := play_answered
    ⟨binding.trigger, binding.device, trigger, device, []⟩ bound.intact.quiet capturing
    bound.intact.handler time scanned
  let placed := (session.modifyTrigger binding.trigger fun _ => after.trigger).modifyDevice
    binding.device fun _ => after.device
  refine ⟨{ placed with journal := after.noted ++ session.journal }, ?_, ?_, ?_, ?_, ?_⟩
  · simp only [Session.poll, bound.trigger_at, somebody, bound.device_at, played, Option.map_some,
      placed]
  · exact ((Session.Keeps.modifyTrigger _ _).trans (.modifyDevice _ _)).trans (.journal _ _)
  · show placed.device? binding.device = _
    simp [placed, bound.device_at, answered]
  · show placed.trigger? binding.trigger = _
    simp [placed, bound.trigger_at, handled]
  · exact (bound.intact.answered capturing scanned time).handled

/-- An edge breaks down with the scan that answers it. -/
theorem poll_broken (bound : Bound binding session device trigger)
    (capturing : device.capturing = true) (time : Int64)
    (broken : device.provider.converter.scanInputs = none) :
    session.poll binding.trigger time = none := by
  have somebody := bound.consumer?
  rw [capturing, if_pos rfl] at somebody
  have stuck := play_ready ⟨binding.trigger, binding.device, trigger, device, []⟩
    bound.intact.quiet capturing bound.intact.handler time
  rw [Frontend.handle, broken, Option.map_none, Option.map_none] at stuck
  simp only [Session.poll, bound.trigger_at, somebody, bound.device_at, stuck, Option.map_none]

end Capturing

/-- The timer of a bound converter runs just when its edges reach somebody, so when it comes
round that is an edge like any other. -/
theorem tick_eq [Spi.Device σ UInt16] (bound : Bound binding session device trigger)
    (time : Int64) : session.tick binding.trigger time = session.poll binding.trigger time := by
  obtain ⟨period, timed⟩ := bound.intact.timed
  simp only [Session.tick, bound.trigger_at, Option.map_some, timed]
  split
  · rfl
  · next still =>
      rw [Bool.not_eq_true] at still
      exact (bound.poll_idle still time).symm

/-! ## Reading -/

section Reading

variable [Spi.Device σ UInt16]

/-- **Reading an input is one single-input exchange.** -/
theorem read_raw (bound : Bound binding session device trigger) {input : Nat}
    (existing : input < binding.part.inputs) {result : Except Problem UInt16}
    {converter : Converter σ}
    (answered : device.provider.converter.single (UInt8.ofNat input) = some (result, converter)) :
    ∃ later, binding.read session input .raw = some (rawOf binding.part result, later) ∧
      session.Keeps binding.device binding.trigger later ∧
      Bound binding later (device.withConverter converter) trigger := by
  let noted := session.note (.read binding.device (channelOf (binding.part.input input)) .raw)
  have here : Bound binding noted device trigger := bound.moved rfl rfl
  obtain ⟨kept, still⟩ := here.modifyDevice
    (fun found => { found with provider := { device.provider with converter } })
    (bound.intact.withConverter (Converter.single_keeps answered))
  refine ⟨_, ?_, (Session.Keeps.note _ _).trans kept, still⟩
  rw [bound.fronts.read_raw_eq existing, answered, Option.map_some]

/-- Reading an input breaks down with the exchange. -/
theorem read_broken (bound : Bound binding session device trigger) {input : Nat}
    (existing : input < binding.part.inputs)
    (broken : device.provider.converter.single (UInt8.ofNat input) = none) :
    binding.read session input .raw = none := by
  rw [bound.fronts.read_raw_eq existing, broken, Option.map_none]

/-- The size of one step is that of the standard range. -/
theorem scale_eq (intact : Intact binding device trigger) {input : Nat}
    (existing : input < binding.part.inputs) (supplies : Supplies) :
    Provider.read supplies (channelOf (binding.part.input input)) .scale device.provider =
      some (valueOf binding.part input (supplies.voltage device.provider.supply) .scale,
        device.provider) := by
  simp only [Provider.read, Frontend.read, valueOf, if_pos existing]
  cases supplies.voltage device.provider.supply with
  | error error => rfl
  | ok reference =>
      have range : device.provider.converter.fullScale reference =
          Converter.Settings.standard.fullScale reference := by
        rw [← intact.settings]
        rfl
      simp only [range]
      rfl

/-- **Reading anything else takes no exchange**: the size of one step comes from the voltage of
the supply, and there is nothing else to be read. -/
theorem read_other (bound : Bound binding session device trigger) {input : Nat}
    {asked : Attribute} (other : ¬(asked = .raw ∧ input < binding.part.inputs)) :
    ∃ later, binding.read session input asked =
        some (valueOf binding.part input (session.supplies.voltage device.provider.supply) asked,
          later) ∧
      session.Keeps binding.device binding.trigger later ∧
      Bound binding later device trigger := by
  rw [bound.fronts.read_eq]
  by_cases existing : input < binding.part.inputs
  · rw [if_pos existing, bound.fronts.read_input existing]
    by_cases supported : (channelOf (binding.part.input input)).supports asked = true
    · have scale : asked = .scale := by
        rcases (channelOf_supports_iff _ _ _).1 supported with raw | scale
        · exact absurd ⟨raw, existing⟩ other
        · exact scale
      subst scale
      let noted := session.note (.read binding.device (channelOf (binding.part.input input)) .scale)
      have here : Bound binding noted device trigger := bound.moved rfl rfl
      obtain ⟨kept, still⟩ := here.modifyDevice
        (fun found => { found with provider := device.provider }) bound.intact
      simp only [supported, Bool.not_true, Bool.false_eq_true, if_false,
        scale_eq bound.intact existing, Option.map_some]
      exact ⟨_, rfl, (Session.Keeps.note _ _).trans kept, still⟩
    · have unsupported : valueOf binding.part input
          (session.supplies.voltage device.provider.supply) asked = .error .notSupported := by
        cases asked with
        | scale => exact absurd ((channelOf_supports_iff _ _ _).2 (.inr rfl)) supported
        | _ => exact if_pos existing
      rw [Bool.not_eq_true] at supported
      simp only [supported, Bool.not_false, if_true, unsupported]
      exact ⟨_, rfl, .refl _, bound⟩
  · have missing : valueOf binding.part input
        (session.supplies.voltage device.provider.supply) asked = .error .invalid := by
      cases asked <;> exact if_neg existing
    rw [if_neg existing, missing]
    exact ⟨_, rfl, .refl _, bound⟩

end Reading

/-! ## Starting and stopping a capture -/

/-- A device whose capture was started is intact, and so is its trigger once its timer runs
for the device. -/
theorem started_intact (intact : Intact binding device trigger) {mask : ScanMask}
    {layout : RecordLayout}
    (made : RecordLayout.ofMask? (channelsOf binding.part) mask = some layout) (period : Nat) :
    Intact binding (device.started mask layout)
      { trigger with source := .timed ⟨period, true⟩, consumer := some binding.device } :=
  { intact with
    queued := ⟨[], device.buffer.configure_queues layout⟩
    prepared := fun _ =>
      { programmed := by
          rw [← intact.settings]
          exact PreparedScan.programmed_prepare _ _ _
        inputs := rfl
        layout := (congrArg (RecordLayout.ofMask? · mask) intact.channels).trans made }
    timed := ⟨period, rfl⟩
    consumer := rfl }

section Switching

variable [Spi.Device σ UInt16]

/-- A capture that is on cannot be started. -/
theorem enable_capturing (bound : Bound binding session device trigger)
    (capturing : device.capturing = true) (mask : ScanMask) :
    session.enable binding.device mask = some (.error .busy, session) := by
  simp only [Session.enable, bound.device_at, capturing, if_true]

/-- A mask without a layout is turned down. -/
theorem enable_invalid (bound : Bound binding session device trigger)
    (idle : device.capturing = false) {mask : ScanMask}
    (shapeless : RecordLayout.ofMask? (channelsOf binding.part) mask = none) :
    session.enable binding.device mask = some (.error .invalid, session) := by
  have handled : device.handler.isNone = false := by rw [bound.intact.handler, Option.isNone_some]
  rw [← bound.intact.channels] at shapeless
  simp only [Session.enable, bound.device_at, idle, Bool.false_eq_true, if_false, handled,
    bound.intact.paced, shapeless]

theorem program_eq (device : Device (Frontend σ) Unit) (mask : ScanMask) :
    Provider.program mask device.provider = (.ok (), (device.started mask {}).provider) := by
  have within := Frontend.within_inputsOf device.provider.converter.part mask
  have done := device.provider.converter.program_within within
  show Frontend.program mask device.provider = _
  simp only [Frontend.program, done]
  rfl

/-- **A capture of a mask with a layout starts with an empty buffer of that layout**, unless
the timer breaks down over the name of the bus. -/
theorem enable_idle (bound : Bound binding session device trigger)
    (idle : device.capturing = false) {mask : ScanMask} {layout : RecordLayout}
    (made : RecordLayout.ofMask? (channelsOf binding.part) mask = some layout) :
    if Trigger.canName binding.bus then
      ∃ later still, session.enable binding.device mask = some (.ok (), later) ∧
        session.Keeps binding.device binding.trigger later ∧
        Bound binding later (device.started mask layout) still ∧
        still.completed = trigger.completed
    else session.enable binding.device mask = none := by
  obtain ⟨period, timed⟩ := bound.intact.timed
  have handled : device.handler.isNone = false := by rw [bound.intact.handler, Option.isNone_some]
  have programmed := program_eq device mask
  have shaped := made
  rw [← bound.intact.channels] at shaped
  let attached := ((session.note (.program binding.device mask)).modifyDevice binding.device
    fun found =>
      { found with
        provider := (device.started mask {}).provider
        buffer := found.buffer.configure layout
        mask
        capturing := true }).modifyTrigger binding.trigger fun found => found.attach binding.device
  let running : Trigger :=
    { trigger with source := .timed ⟨period, true⟩, consumer := some binding.device }
  have started : attached.startTrigger binding.trigger =
      if Trigger.canName binding.bus then
        some (.ok (), attached.modifyTrigger binding.trigger fun _ => running)
      else none := by
    have found : attached.trigger? binding.trigger = some (trigger.attach binding.device) := by
      simp [attached, bound.trigger_at]
    simp only [Session.startTrigger, found, Trigger.start, Trigger.attach, timed, idle,
      Bool.false_or, bound.intact.named, Session.noteSwitch, Trigger.isHooked,
      Bool.false_eq_true, if_false]
    split
    · simp only [Option.map_some, running, bound.intact.named]
    · rfl
  split
  · next named =>
      rw [if_pos named] at started
      have kept : session.Keeps binding.device binding.trigger attached :=
        ((Session.Keeps.note _ _).trans (.modifyDevice _ _)).trans (.modifyTrigger _ _)
      let later := attached.modifyTrigger binding.trigger fun _ => running
      let line := s!"{device.name}: buffer enabled, {mask.count} scan elements"
      refine ⟨later.report [⟨.debug, line⟩], running, ?_,
        (kept.trans (.modifyTrigger _ _)).trans (.report _ _), ?_, rfl⟩
      · simp only [Session.enable, bound.device_at, idle, Bool.false_eq_true, if_false, handled,
          bound.intact.paced, shaped, programmed]
        change Option.map _ (attached.startTrigger binding.trigger) = _
        rw [started]
        rfl
      · refine ⟨?_, ?_, started_intact bound.intact made period⟩
        · simp [later, attached, bound.device_at, Device.started]
        · simp [later, attached, bound.trigger_at]
  · next unnamed =>
      rw [if_neg unnamed] at started
      simp only [Session.enable, bound.device_at, idle, Bool.false_eq_true, if_false, handled,
        bound.intact.paced, shaped, programmed]
      change Option.map _ (attached.startTrigger binding.trigger) = _
      rw [started]
      rfl

/-- What a capture that started came from: inputs of the part, and a layout for them. -/
theorem enabled (bound : Bound binding session device trigger) {inputs : List Nat}
    {stamped : Bool} {later : Session (Frontend σ) Unit}
    (started : binding.enable session inputs stamped = some (.ok (), later)) :
    let mask := Binding.maskOf binding.part inputs stamped
    (∀ input ∈ inputs, input < binding.part.inputs) ∧ ∃ layout still,
      RecordLayout.ofMask? (channelsOf binding.part) mask = some layout ∧
      Bound binding later (device.started mask layout) still ∧
      still.completed = trigger.completed := by
  intro mask
  rw [Binding.enable] at started
  split at started
  · exact absurd started (by simp)
  next inside =>
  have existing : ∀ input ∈ inputs, input < binding.part.inputs := by
    intro input member
    apply Nat.lt_of_not_le
    intro outside
    exact inside (List.any_eq_true.2 ⟨input, member, decide_eq_true outside⟩)
  refine ⟨existing, ?_⟩
  cases on : device.capturing with
  | true => cases (bound.enable_capturing on mask).symm.trans started
  | false =>
      cases made : RecordLayout.ofMask? (channelsOf binding.part) mask with
      | none => cases (bound.enable_invalid on made).symm.trans started
      | some layout =>
          have switched := bound.enable_idle on made
          split at switched
          · obtain ⟨after, still, asked, _, running, same⟩ := switched
            cases asked.symm.trans started
            exact ⟨layout, still, rfl, running, same⟩
          · exact absurd (switched.symm.trans started) (by simp)

end Switching

/-- **Stopping a capture always succeeds**, and what is queued stays queued. -/
theorem disable (bound : Bound binding session device trigger) :
    ∃ later still, session.disable binding.device = (.ok (), later) ∧
      session.Keeps binding.device binding.trigger later ∧
      Bound binding later { device with capturing := false } still ∧
      still.completed = trigger.completed := by
  cases on : device.capturing with
  | false =>
      refine ⟨session, trigger, ?_, .refl _, ?_, rfl⟩
      · simp only [Session.disable, bound.device_at, on, Bool.not_false, if_true]
      · rw [← on]
        exact bound
  | true =>
      obtain ⟨period, timed⟩ := bound.intact.timed
      let off := session.modifyDevice binding.device fun found => { found with capturing := false }
      let still : Trigger := { trigger with source := .timed ⟨period, false⟩, consumer := none }
      have stopped : off.stopTrigger binding.trigger = (.ok (), off.modifyTrigger binding.trigger
          fun _ => { trigger with source := .timed ⟨period, false⟩ }) := by
        have found : off.trigger? binding.trigger = some trigger := bound.trigger_at
        simp only [Session.stopTrigger, found, Trigger.stop, timed, Session.noteSwitch,
          Trigger.isHooked, Bool.false_eq_true, if_false]
      let later := (off.modifyTrigger binding.trigger
        fun _ => { trigger with source := .timed ⟨period, false⟩ }).modifyTrigger binding.trigger
          Trigger.detach
      have kept : session.Keeps binding.device binding.trigger later :=
        ((Session.Keeps.modifyDevice _ _).trans (.modifyTrigger _ _)).trans (.modifyTrigger _ _)
      refine ⟨later, still, ?_, kept, ⟨?_, ?_, ?_⟩, rfl⟩
      · simp only [Session.disable, bound.device_at, on, Bool.not_true, Bool.false_eq_true,
          if_false, bound.intact.paced]
        split
        · next refused => cases stopped.symm.trans refused
        · next answered =>
            cases stopped.symm.trans answered
            rfl
      · simp [later, off, bound.device_at]
      · simp [later, off, bound.trigger_at, Trigger.detach, still]
      · exact
          { bound.intact with
            prepared := fun on => absurd on Bool.false_ne_true
            timed := ⟨period, rfl⟩
            consumer := rfl }

/-! ## Taking scans -/

/-- **Taking a scan takes the oldest one**, if there is one. -/
theorem readScan (bound : Bound binding session device trigger) {scans : List Scan}
    (queues : device.buffer.Queues scans) :
    ∃ ring later, session.readScan binding.device = (scans.head?, later) ∧
      session.Keeps binding.device binding.trigger later ∧
      Bound binding later (device.withRing ring) trigger ∧
      (device.withRing ring).buffer.Queues scans.tail := by
  cases scans with
  | nil =>
      have nothing := Buffer.popScan?_queues_nil queues
      refine ⟨device.buffer.ring, session, ?_, .refl _, bound, queues⟩
      simp only [Session.readScan, bound.device_at, Option.bind_some, nothing, List.head?_nil]
  | cons scan rest =>
      obtain ⟨ring, taken, left⟩ := Buffer.popScan?_queues queues
      obtain ⟨kept, still⟩ := bound.modifyDevice
        (fun found => { found with buffer := { device.buffer with ring } })
        (bound.intact.withBuffer left rfl rfl)
      refine ⟨ring, _, ?_, kept, still, left⟩
      simp only [Session.readScan, bound.device_at, Option.bind_some, taken, List.head?_cons]

/-- **Reading bytes takes the records of the oldest scans**, as many as fit as a whole. -/
theorem readBytes (bound : Bound binding session device trigger) {scans : List Scan}
    (queues : device.buffer.Queues scans) (size : Nat) :
    let count := size / device.buffer.layout.bytes
    ∃ ring later, session.readBytes binding.device size =
        ((scans.take count).flatMap device.buffer.layout.record, later) ∧
      session.Keeps binding.device binding.trigger later ∧
      Bound binding later (device.withRing ring) trigger ∧
      (device.withRing ring).buffer.Queues (scans.drop count) := by
  obtain ⟨ring, taken, left⟩ := Buffer.readBytes_queues size queues
  obtain ⟨kept, still⟩ := bound.modifyDevice
    (fun found => { found with buffer := { device.buffer with ring } })
    (bound.intact.withBuffer left rfl rfl)
  refine ⟨ring, _, ?_, kept, still, left⟩
  simp only [Session.readBytes, bound.device_at, taken]

/-! ## Any use -/

section Any

variable [Spi.Device σ UInt16]

theorem answered_follows (device : Device (Frontend σ) Unit) {converter : Converter σ}
    (keeps : device.provider.converter.Keeps converter) (result : Except Problem (List UInt16))
    (time : Int64) : device.Follows (device.answered converter result time) := by
  cases result with
  | error problem => exact ⟨rfl, rfl, keeps.stable⟩
  | ok payload =>
      rw [Device.answered, Device.push_eq]
      exact ⟨rfl, rfl, keeps.stable⟩

theorem switched (bound : Bound binding session device trigger) {mask : ScanMask}
    {result : Except Error Unit} {later : Session (Frontend σ) Unit}
    (asked : session.enable binding.device mask = some (result, later)) :
    session.Keeps binding.device binding.trigger later ∧ ∃ device' trigger',
      Bound binding later device' trigger' ∧ device.Follows device' := by
  cases on : device.capturing with
  | true =>
      cases (bound.enable_capturing on mask).symm.trans asked
      exact ⟨.refl _, device, trigger, bound, .refl _⟩
  | false =>
      cases made : RecordLayout.ofMask? (channelsOf binding.part) mask with
      | none =>
          cases (bound.enable_invalid on made).symm.trans asked
          exact ⟨.refl _, device, trigger, bound, .refl _⟩
      | some layout =>
          have enabled := bound.enable_idle on made
          split at enabled
          · obtain ⟨after, still, started, kept, running, _⟩ := enabled
            cases started.symm.trans asked
            exact ⟨kept, _, still, running, rfl, rfl, fun _ _ here => here⟩
          · exact absurd (enabled.symm.trans asked) (by simp)

theorem polled (bound : Bound binding session device trigger) {time : Int64}
    {later : Session (Frontend σ) Unit}
    (raised : session.poll binding.trigger time = some later) :
    session.Keeps binding.device binding.trigger later ∧ ∃ device' trigger',
      Bound binding later device' trigger' ∧ device.Follows device' := by
  cases on : device.capturing with
  | false =>
      cases (bound.poll_idle on time).symm.trans raised
      exact ⟨.refl _, device, trigger, bound, .refl _⟩
  | true =>
      cases scanned : device.provider.converter.scanInputs with
      | none => exact absurd ((bound.poll_broken on time scanned).symm.trans raised) (by simp)
      | some done =>
          obtain ⟨result, converter, lines⟩ := done
          obtain ⟨after, handled, kept, still⟩ := bound.poll on time scanned
          cases handled.symm.trans raised
          have keeps := (Converter.scanInputs_keeps scanned).1
          exact ⟨kept, _, _, still, answered_follows device keeps result time⟩

/-- **A bound converter stays bound**, whatever it is used for and however its device answers,
and nothing else in the session changes. -/
theorem use (bound : Bound binding session device trigger) {use : Use} {answer : Answer}
    {later : Session (Frontend σ) Unit} (used : binding.use session use = some (answer, later)) :
    session.Keeps binding.device binding.trigger later ∧ ∃ device' trigger',
      Bound binding later device' trigger' ∧ device.Follows device' := by
  cases use with
  | edge time =>
      obtain ⟨after, raised, same⟩ := Option.map_eq_some_iff.1 used
      cases same
      exact bound.polled raised
  | tick time =>
      obtain ⟨after, raised, same⟩ := Option.map_eq_some_iff.1 used
      cases same
      exact bound.polled ((bound.tick_eq time).symm.trans raised)
  | read input asked =>
      obtain ⟨⟨result, after⟩, answered, same⟩ := Option.map_eq_some_iff.1 used
      cases same
      by_cases raw : asked = .raw ∧ input < binding.part.inputs
      · obtain ⟨rfl, existing⟩ := raw
        cases single : device.provider.converter.single (UInt8.ofNat input) with
        | none => exact absurd ((bound.read_broken existing single).symm.trans answered) (by simp)
        | some done =>
            obtain ⟨outcome, converter⟩ := done
            obtain ⟨after, read, kept, still⟩ := bound.read_raw existing single
            cases read.symm.trans answered
            exact ⟨kept, _, _, still, rfl, rfl, (Converter.single_keeps single).stable⟩
      · obtain ⟨after, read, kept, still⟩ := bound.read_other raw
        cases read.symm.trans answered
        exact ⟨kept, device, trigger, still, .refl _⟩
  | enable inputs timestamp =>
      obtain ⟨⟨result, after⟩, asked, same⟩ := Option.map_eq_some_iff.1 used
      cases same
      rw [Binding.enable] at asked
      split at asked
      · cases asked
        exact ⟨.refl _, device, trigger, bound, .refl _⟩
      · exact bound.switched asked
  | capture mask =>
      obtain ⟨⟨result, after⟩, asked, same⟩ := Option.map_eq_some_iff.1 used
      cases same
      exact bound.switched asked
  | disable =>
      obtain ⟨after, still, stopped, kept, off, _⟩ := bound.disable
      simp only [Binding.use, stopped] at used
      cases used
      exact ⟨kept, _, still, off, rfl, rfl, fun _ _ here => here⟩
  | takeScan =>
      obtain ⟨scans, queues⟩ := bound.intact.queued
      obtain ⟨ring, after, taken, kept, still, _⟩ := bound.readScan queues
      simp only [Binding.use, taken] at used
      cases used
      exact ⟨kept, _, trigger, still, rfl, rfl, fun _ _ here => here⟩
  | takeBytes size =>
      obtain ⟨scans, queues⟩ := bound.intact.queued
      obtain ⟨ring, after, taken, kept, still, _⟩ := bound.readBytes queues size
      simp only [Binding.use, taken] at used
      cases used
      exact ⟨kept, _, trigger, still, rfl, rfl, fun _ _ here => here⟩

/-- So it is after any number of uses. -/
theorem useAll (bound : Bound binding session device trigger) {uses : List Use}
    {answers : List Answer} {later : Session (Frontend σ) Unit}
    (used : binding.useAll uses session = some (answers, later)) :
    ∃ device' trigger', Bound binding later device' trigger' ∧ device.Follows device' := by
  induction uses generalizing session device trigger answers with
  | nil =>
      cases used
      exact ⟨device, trigger, bound, .refl _⟩
  | cons first rest ih =>
      rw [Binding.useAll] at used
      split at used
      · exact absurd used (by simp)
      · next answer after done =>
          obtain ⟨_, device', trigger', still, follows⟩ := bound.use done
          obtain ⟨⟨others, last⟩, remaining, same⟩ := Option.map_eq_some_iff.1 used
          cases same
          obtain ⟨device'', trigger'', bound, more⟩ := ih still remaining
          exact ⟨device'', trigger'', bound, follows.trans more⟩

end Any

end Bound

end Acquisition
