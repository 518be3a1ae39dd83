/-
# Acquisition.Proofs.Probe — binding a converter, and undoing it

Binding adds one device, one trigger, one entry to each registry and one use of the
supply (`probe_ok`), or hands the device on the bus back and leaves all of these as they
were (`probe_error`); it succeeds wherever the supply can be switched on and the name of the bus is
free (`probe_succeeds`). Once a device is hidden and its trigger destroyed, the rest of
undoing is the same for a binding that failed at its last step and for one that is given
up: the handler is taken away, the supply switched off, and the device let go (`tearDown`).
-/
import Acquisition.Proofs.Bound

namespace Acquisition

open Acquisition.Converter (Part)

set_option autoImplicit false

/-! ## How often a supply is in use -/

namespace Supplies

/-- How often a regulator has been switched on and not off again. -/
def uses (supplies : Supplies) (id : RegulatorId) : Option Nat :=
  (supplies.regulator? id).map Regulator.useCount

theorem regulator?_modify (supplies : Supplies) (id other : RegulatorId)
    (change : Regulator → Regulator) :
    (supplies.modify id change).regulator? other =
      if other = id then (supplies.regulator? other).map change else supplies.regulator? other := by
  have same : id.index = other.index ↔ other = id := by
    constructor
    · intro same
      cases id
      cases other
      exact congrArg RegulatorId.mk same.symm
    · rintro rfl
      rfl
  simp only [regulator?, modify, Table.get?_modify, same]

/-- Whatever a change does to a regulator, it does to how often that one is in use. -/
theorem uses_modify {supplies : Supplies} {id : RegulatorId} {regulator changed : Regulator}
    (found : supplies.regulator? id = some regulator) (other : RegulatorId) :
    (supplies.modify id fun _ => changed).uses other =
      if other = id then some changed.useCount else supplies.uses other := by
  rw [uses, regulator?_modify]
  split
  · next same => rw [same, found, Option.map_some, Option.map_some]
  · rfl

/-- Switching on counts once. -/
theorem uses_enable {supplies after : Supplies} {id : RegulatorId}
    (enabled : supplies.enable id = (.ok (), after)) :
    ∃ count, supplies.uses id = some count ∧ after.named = supplies.named ∧
      ∀ other, after.uses other = if other = id then some (count + 1) else supplies.uses other := by
  rw [enable] at enabled
  split at enabled
  · cases enabled
  · next regulator found =>
      simp only [Regulator.enable] at enabled
      split at enabled
      · cases enabled
      · cases enabled
        refine ⟨regulator.useCount, by rw [uses, found, Option.map_some], rfl, ?_⟩
        exact uses_modify found

/-- Switching on that is refused changes nothing. -/
theorem enable_error {supplies after : Supplies} {id : RegulatorId} {error : Error}
    (refused : supplies.enable id = (.error error, after)) : after = supplies := by
  rw [enable] at refused
  split at refused
  · cases refused
    rfl
  next regulator found =>
  simp only [Regulator.enable] at refused
  split at refused
  · cases refused
    exact congrArg (Supplies.mk · supplies.named) (Table.set_get? found)
  · cases refused

/-- **Switching off what was just switched on** brings everything back. -/
theorem disable_enable {supplies on : Supplies} {id : RegulatorId}
    (enabled : supplies.enable id = (.ok (), on)) : on.disable id = (.ok (), supplies, []) := by
  rw [enable] at enabled
  split at enabled
  · cases enabled
  next regulator found =>
  simp only [Regulator.enable] at enabled
  split at enabled
  · cases enabled
  cases enabled
  have there : (supplies.modify id fun _ =>
      { regulator with useCount := regulator.useCount + 1 }).regulator? id =
        some { regulator with useCount := regulator.useCount + 1 } := by
    rw [regulator?_modify, if_pos rfl, found, Option.map_some]
  have back : ((supplies.modify id fun _ =>
      { regulator with useCount := regulator.useCount + 1 }).modify id fun _ => regulator) =
        supplies := by
    refine congrArg (Supplies.mk · supplies.named) ?_
    exact (Table.set_set _ _ _ _).trans (Table.set_get? found)
  simp only [disable, there, Regulator.disable]
  rw [back]

/-- Switching off what is in use succeeds and counts back once. -/
theorem uses_disable {supplies : Supplies} {id : RegulatorId} {count : Nat}
    (used : supplies.uses id = some (count + 1)) :
    ∃ after, supplies.disable id = (.ok (), after, []) ∧ after.named = supplies.named ∧
      ∀ other, after.uses other = if other = id then some count else supplies.uses other := by
  obtain ⟨regulator, found, counted⟩ := Option.map_eq_some_iff.1 used
  refine ⟨supplies.modify id fun _ => { regulator with useCount := count }, ?_, rfl,
    uses_modify found⟩
  simp only [disable, found, Regulator.disable, counted]

end Supplies

/-! ## Letting go of a device -/

namespace Session

variable {σ : Type} {F H : Type}

/-- Stopping a capture that is not on changes nothing. -/
theorem disable_idle {session : Session F H} {id : DeviceId} {device : Device F H}
    (found : session.device? id = some device) (idle : device.capturing = false) :
    session.disable id = (.ok (), session) := by
  simp only [disable, found, idle, Bool.not_false, if_true]

/-- A registered device whose capture can be stopped is taken out of the registry. -/
theorem withdraw_ok {session after : Session F H} {id : DeviceId}
    (listed : id ∈ session.listed)
    (stopped : { session with listed := session.listed.erase id }.disable id = (.ok (), after))
    (bus : String) :
    session.withdraw bus id =
      after.modifyDevice id fun device => { device with number := none } := by
  have present : session.listed.contains id = true := by simpa using listed
  simp only [withdraw, unregister, present, Bool.not_true, Bool.false_eq_true, if_false, stopped]

/-- **Giving up a device.** If it is hidden and its capture is off, its handler is taken away,
the supply is switched off, and the device on the bus is handed back unless somebody else
holds on. -/
theorem tearDown {session : Session (Frontend σ) H} {id : DeviceId}
    {device : Device (Frontend σ) H} {supply : RegulatorId} {supplies : Supplies}
    {lines : List LogLine} (found : session.device? id = some device)
    (idle : device.capturing = false) (hidden : id ∉ session.listed)
    (off : session.supplies.disable supply = (.ok (), supplies, lines)) (bus : String)
    (trigger : TriggerId) :
    ∃ after, ((session.cleanup id).switchOff bus supply).reclaim id =
        (if device.holders - 1 = 0 then some device.provider.converter.device else none, after) ∧
      Apart id trigger session after ∧ after.listed = session.listed ∧
      after.software = session.software ∧ after.supplies = supplies := by
  let bare := session.modifyDevice id fun device => { device with handler := none }
  have cleaned : session.cleanup id = bare := by
    simp only [cleanup, found, disable_idle found idle, bare]
  let dark : Session (Frontend σ) H := { bare with supplies }.report lines
  have switched : bare.switchOff bus supply = dark := by
    have same : bare.supplies = session.supplies := rfl
    simp only [switchOff, same, off, dark]
  have there : dark.device? id = some { device with handler := none } := by
    show bare.device? id = _
    rw [device?_modifyDevice, found, Option.map_some]
  let after := dark.release id
  have left : after.device? id =
      some { device with handler := none, holders := device.holders - 1 } := by
    show (dark.modifyDevice id _).device? id = _
    rw [device?_modifyDevice, there, Option.map_some]
  have unlisted : after.listed.contains id = false := by
    have same : after.listed = session.listed := rfl
    rw [same, Bool.eq_false_iff, ne_eq, List.contains_iff_mem]
    exact hidden
  have first : Apart id trigger session bare := (Keeps.modifyDevice _ _).toApart
  have second : Apart id trigger bare dark := .of_tables rfl rfl
  have third : Apart id trigger dark after := (Keeps.modifyDevice _ _).toApart
  refine ⟨after, ?_, (first.trans second).trans third, rfl, rfl, rfl⟩
  have alive : after.alive id = (device.holders - 1 != 0) := by
    simp only [alive, left, unlisted, Bool.or_false]
  have released : dark.release id = after := rfl
  rw [cleaned, switched]
  simp only [reclaim, released, alive, left, Option.map_some, bne_iff_ne, ne_eq, ite_not]
  split <;> rfl

/-! ## Adding a device -/

/-- A session in which everything registered exists. -/
structure Sound (session : Session F H) : Prop where
  listed : ∀ id ∈ session.listed, id.index < session.devices.size
  software : ∀ id ∈ session.software, id.index < session.triggers.size

/-- A session with one more device, under the next number, and everything else as it was. -/
structure Adds (device : Device F H) (before after : Session F H) : Prop where
  device_at : after.device? ⟨before.devices.size⟩ = some device
  devices : ∀ other, other ≠ ⟨before.devices.size⟩ → after.device? other = before.device? other
  deviceCount : after.devices.size = before.devices.size + 1
  triggers : after.triggers = before.triggers
  software : after.software = before.software
  supplies : after.supplies = before.supplies
  /-- It is registered, unless its number was registered before there was a device. -/
  listed : ⟨before.devices.size⟩ ∉ before.listed →
    after.listed = before.listed ++ [⟨before.devices.size⟩]

/-- Adds a device, gives it a handler and registers it. -/
def install (session : Session F H) (name : String) (channels : List Channel) (provider : F)
    (handler : H) : Session F H :=
  let made := session.addDevice name channels provider
  ((made.2.setup made.1 handler).2.register made.1).2

/-- A new device can be given a handler and registered. -/
theorem adds_install (session : Session F H) (name : String) (channels : List Channel)
    (provider : F) (handler : H) :
    ∃ number, Adds { name, channels, provider, number, handler := some handler } session
      (session.install name channels provider handler) := by
  let made := session.addDevice name channels provider
  have fresh : made.2.device? made.1 = some { name, channels, provider } := by
    have place : made.1.index = session.devices.size := rfl
    rw [device?_addDevice, if_pos place]
  have others : ∀ other, other ≠ made.1 → made.2.device? other = session.device? other := by
    intro other differs
    rw [device?_addDevice, if_neg]
    intro same
    apply differs
    cases other
    exact congrArg DeviceId.mk same
  let handled := made.2.modifyDevice made.1 fun device => { device with handler := some handler }
  have ready : handled.device? made.1 =
      some { name, channels, provider, handler := some handler } := by
    rw [device?_modifyDevice, fresh, Option.map_some]
  have kept : Keeps made.1 ⟨0⟩ made.2 handled := Keeps.modifyDevice _ _
  have count : handled.devices.size = session.devices.size + 1 :=
    kept.deviceCount.trans (Table.size_push _ _)
  have setup : made.2.setup made.1 handler = (.ok (), handled) := by
    simp only [setup, fresh, Option.isSome_none, Bool.false_eq_true, if_false, handled]
  by_cases listed : made.1 ∈ session.listed
  · refine ⟨none, ?_⟩
    have present : handled.listed.contains made.1 = true := List.contains_iff_mem.2 listed
    have refused : (handled.register made.1).2 = handled := by
      simp only [register, ready, present, if_true]
    have installed : session.install name channels provider handler = handled := by
      rw [install, setup, refused]
    rw [installed]
    exact
      { device_at := ready
        devices := fun other differs =>
          (kept.devices other differs).trans (others other differs)
        deviceCount := count
        triggers := rfl
        software := rfl
        supplies := rfl
        listed := fun absent => absurd listed absent }
  · refine ⟨some session.nextNumber, ?_⟩
    have absent : handled.listed.contains made.1 = false := by
      rw [Bool.eq_false_iff, ne_eq, List.contains_iff_mem]
      exact listed
    let numbered := handled.modifyDevice made.1 fun device =>
      { device with number := some session.nextNumber }
    have registered : (handled.register made.1).2 =
        { numbered with
          listed := session.listed ++ [made.1]
          nextNumber := session.nextNumber + 1 }.report
            [⟨.info, s!"{name}: registered as iio:device{session.nextNumber}"⟩] := by
      simp only [register, ready, absent, Bool.false_eq_true, if_false]
      rfl
    have still : Keeps made.1 ⟨0⟩ handled numbered := Keeps.modifyDevice _ _
    rw [install, setup, registered]
    exact
      { device_at := by
          show numbered.device? made.1 = _
          rw [device?_modifyDevice, ready, Option.map_some]
        devices := fun other differs =>
          ((kept.trans still).devices other differs).trans (others other differs)
        deviceCount := still.deviceCount.trans count
        triggers := rfl
        software := rfl
        supplies := rfl
        listed := fun _ => rfl }

/-- A software trigger under a name nobody has taken gets the next number. -/
theorem createSoftware_ok {session after : Session F H} {name : String} {id : TriggerId}
    (made : session.createSoftware timerKind name = (.ok id, after)) :
    (session.software? name).isSome = false ∧ id = ⟨session.triggers.size⟩ ∧
      after.software = session.software ++ [id] ∧
      after.devices = session.devices ∧ after.listed = session.listed ∧
      after.supplies = session.supplies ∧ after.triggers.size = session.triggers.size + 1 ∧
      ∀ other : TriggerId, after.trigger? other =
        if other = id then some { name, source := .timed {} } else session.trigger? other := by
  simp only [createSoftware, ne_eq, not_true_eq_false, if_false] at made
  split at made
  · cases made
  · next free =>
    cases made
    refine ⟨by simpa using free, rfl, rfl, rfl, rfl, rfl, Table.size_push _ _, fun other => ?_⟩
    have same : other.index = session.triggers.size ↔ other = ⟨session.triggers.size⟩ := by
      cases other
      simp
    have added := session.trigger?_addTrigger name (.timed {}) other
    simp only [same] at added
    exact added

/-- A software trigger can be made under a name that is free. -/
theorem createSoftware_free {session : Session F H} {name : String}
    (free : session.software? name = none) :
    ∃ made, session.createSoftware timerKind name = (.ok ⟨session.triggers.size⟩, made) := by
  simp only [createSoftware, free, ne_eq, not_true_eq_false, if_false, Option.isSome_none,
    Bool.false_eq_true]
  exact ⟨_, rfl⟩

/-- It can be made under no other name, and trying to leaves the session alone. -/
theorem createSoftware_error {session after : Session F H} {name : String} {error : Error}
    (refused : session.createSoftware timerKind name = (.error error, after)) :
    (session.software? name).isSome = true ∧ error = .exists ∧ after = session := by
  simp only [createSoftware, ne_eq, not_true_eq_false, if_false] at refused
  split at refused
  · next taken =>
      cases refused
      exact ⟨taken, rfl, rfl⟩
  · cases refused

/-! ## Binding -/

/-- The device that is made for a binding. -/
def newDevice (binding : Binding) (device : σ) (name : String) (number : Option Nat) :
    Device (Frontend σ) Unit where
  name
  channels := channelsOf binding.part
  provider :=
    { converter := { device, part := binding.part }
      supply := binding.supply
      bus := binding.bus }
  number
  handler := some ()
  trigger := some binding.trigger
  pinned := true

/-- The device that is made for a binding, before it has a trigger. -/
def loose (device : σ) (part : Part) (supply : RegulatorId) (bus name : String)
    (number : Option Nat) : Device (Frontend σ) Unit where
  name
  channels := channelsOf part
  provider := { converter := { device, part }, supply, bus }
  number
  handler := some ()

/-- Gives up a device for which no trigger could be made. -/
def abandon (session : Session (Frontend σ) Unit) (id : DeviceId) (bus : String)
    (supply : RegulatorId) : Option σ × Session (Frontend σ) Unit :=
  let told := session.report [⟨.error, s!"{bus}: Failed to create hrtimer trigger."⟩]
  (((told.withdraw bus id).cleanup id).switchOff bus supply).reclaim id

/-- What binding a converter does to a session. -/
structure Probed [Spi.WordSize σ] (device : σ) (id bus : String) (binding : Binding)
    (before after : Session (Frontend σ) Unit) : Prop where
  part : Part.ofDeviceId? id = some binding.part
  named : binding.bus = bus
  supply : before.supplies.find? referenceSupply = some binding.supply
  enabled : before.supplies.enable binding.supply = (.ok (), after.supplies)
  device_new : binding.device = ⟨before.devices.size⟩
  trigger_new : binding.trigger = ⟨before.triggers.size⟩
  made : ∃ number, after.device? binding.device =
    some (newDevice binding (Spi.WordSize.setWordSize device wordBits).2 id number)
  bound : ∃ fresh trigger, Bound binding after fresh trigger ∧ fresh.capturing = false ∧
    fresh.holders = 1 ∧
    fresh.provider.converter.device = (Spi.WordSize.setWordSize device wordBits).2
  devices : ∀ other, other ≠ binding.device → after.device? other = before.device? other
  triggers : ∀ other, other ≠ binding.trigger → after.trigger? other = before.trigger? other
  deviceCount : after.devices.size = before.devices.size + 1
  triggerCount : after.triggers.size = before.triggers.size + 1
  listed : binding.device ∉ before.listed → after.listed = before.listed ++ [binding.device]
  software : after.software = before.software ++ [binding.trigger]

/-- A device and a trigger as they are made for a binding are intact. -/
theorem intact_fresh (binding : Binding) (device : σ) (name : String) (number : Option Nat) :
    Intact binding (newDevice binding device name number)
      { name := binding.bus, source := .timed {} } where
  part := rfl
  settings := rfl
  channels := rfl
  handler := rfl
  paced := rfl
  held := Nat.one_ne_zero
  room := rfl
  queued := ⟨[], Buffer.ofLength_queues 128⟩
  prepared := fun on => absurd on Bool.false_ne_true
  named := rfl
  timed := ⟨_, rfl⟩
  consumer := rfl
  quiet := rfl

/-- Nothing is left of an attempt but devices nobody can reach. -/
structure Undone (before after : Session F H) : Prop where
  listed : after.listed = before.listed
  software : after.software = before.software
  supplies : after.supplies = before.supplies
  devices : ∀ other : DeviceId, other.index < before.devices.size →
    after.device? other = before.device? other
  triggers : ∀ other : TriggerId, other.index < before.triggers.size →
    after.trigger? other = before.trigger? other
  deviceCount : before.devices.size ≤ after.devices.size
  triggerCount : before.triggers.size ≤ after.triggers.size

theorem Undone.report (session : Session F H) (lines : List LogLine) :
    Undone session (session.report lines) :=
  ⟨rfl, rfl, rfl, fun _ _ => rfl, fun _ _ => rfl, Nat.le_refl _, Nat.le_refl _⟩

/-- **Giving up a device right after it was registered** undoes all that was done for it, and hands
the device on the bus back. -/
theorem abandon_eq {session registered : Session (Frontend σ) Unit} {supplies : Supplies}
    {device : σ} {part : Part} {supply : RegulatorId} {bus name : String} {number : Option Nat}
    (absent : ⟨session.devices.size⟩ ∉ session.listed)
    (enabled : session.supplies.enable supply = (.ok (), supplies))
    (added : Adds (loose device part supply bus name number) { session with supplies }
      registered) :
    ∃ last, registered.abandon ⟨session.devices.size⟩ bus supply = (some device, last) ∧
      Undone session last := by
  let new : DeviceId := ⟨session.devices.size⟩
  let told := registered.report [⟨.error, s!"{bus}: Failed to create hrtimer trigger."⟩]
  have listed : told.listed = session.listed ++ [new] := added.listed absent
  have member : new ∈ told.listed := by simp [listed]
  have erased : told.listed.erase new = session.listed := by
    rw [listed, List.erase_append_right _ absent, List.erase_cons_head, List.append_nil]
  let hidden := { told with listed := told.listed.erase new }
  have stopped : hidden.disable new = (.ok (), hidden) := disable_idle added.device_at rfl
  let bare := hidden.modifyDevice new fun device => { device with number := none }
  have withdrawn : told.withdraw bus new = bare := withdraw_ok member stopped bus
  have found : bare.device? new = _ :=
    (hidden.device?_modifyDevice new _).trans (congrArg (Option.map _) added.device_at)
  have off : bare.supplies.disable supply = (.ok (), session.supplies, []) := by
    rw [show bare.supplies = supplies from added.supplies]
    exact Supplies.disable_enable enabled
  have unlisted : new ∉ bare.listed := by
    show new ∉ told.listed.erase new
    rw [erased]
    exact absent
  obtain ⟨last, gone, apart, lastListed, software, lit⟩ :=
    tearDown found rfl unlisted off bus ⟨session.triggers.size⟩
  have first : Apart new ⟨session.triggers.size⟩ registered hidden := .of_tables rfl rfl
  have second : Apart new ⟨session.triggers.size⟩ hidden bare :=
    (Keeps.modifyDevice _ _).toApart
  have whole := (first.trans second).trans apart
  refine ⟨last, ?_, ?_⟩
  · rw [abandon]
    show (((told.withdraw bus new).cleanup new).switchOff bus supply).reclaim new = _
    rw [withdrawn, gone]
    rfl
  · exact
      { listed := lastListed.trans erased
        software := software.trans added.software
        supplies := lit
        devices := fun other inside => by
          have old : other ≠ new := fun same => Nat.lt_irrefl _ (same ▸ inside)
          exact (whole.devices other old).trans (added.devices other old)
        triggers := fun other inside => by
          have old : other ≠ ⟨session.triggers.size⟩ :=
            fun same => Nat.lt_irrefl _ (same ▸ inside)
          rw [whole.triggers other old, trigger?, added.triggers]
          rfl
        deviceCount := by
          rw [whole.deviceCount, added.deviceCount]
          exact Nat.le_succ _
        triggerCount :=
          Nat.le_of_eq (whole.triggerCount.trans (congrArg Table.size added.triggers)).symm }

variable [Spi.WordSize σ]

/-- What stands in the way of binding a converter: its word size, its identifier, the supply of its
reference, or the name of the bus, in this order. -/
def obstacle? (fault : Option Spi.Fault) (id : String) (supplies : Supplies) (taken : Bool) :
    Option Error :=
  match fault with
  | some fault => some (.transport fault)
  | none =>
  match Part.ofDeviceId? id with
  | none => some .noDevice
  | some _ =>
  match supplies.get referenceSupply with
  | .error error => some error
  | .ok supply =>
  match (supplies.enable supply).1 with
  | .error error => some error
  | .ok () => if taken then some .exists else none

/-- What stands in the way of binding a converter behind a device in a session. -/
def refusal? (session : Session (Frontend σ) Unit) (device : σ) (id bus : String) :
    Option Error :=
  obstacle? (Spi.WordSize.setWordSize device wordBits).1 id session.supplies
    (session.software? bus).isSome

/-- What can come of an attempt to bind a converter. -/
inductive Probing (session : Session (Frontend σ) Unit) (device : σ) (id bus : String) :
    Except (ProbeFailure σ) Binding × Session (Frontend σ) Unit → Prop where
  /-- It fails before there is anything to be undone. -/
  | refused {failure : ProbeFailure σ} {after : Session (Frontend σ) Unit}
      (blocked : session.refusal? device id bus = some failure.error)
      (handed : failure.device = some (Spi.WordSize.setWordSize device wordBits).2)
      (undone : Undone session after) : Probing session device id bus (.error failure, after)
  /-- It fails over the name of the trigger, and what was done is undone. -/
  | untied {part : Part} {supply : RegulatorId} {supplies : Supplies}
      {registered : Session (Frontend σ) Unit} {number : Option Nat} {error : Error}
      (blocked : session.refusal? device id bus = some error)
      (enabled : session.supplies.enable supply = (.ok (), supplies))
      (added : Adds
        (loose (Spi.WordSize.setWordSize device wordBits).2 part supply bus id number)
        { session with supplies } registered) :
      Probing session device id bus
        (.error ⟨error, (registered.abandon ⟨session.devices.size⟩ bus supply).1⟩,
          (registered.abandon ⟨session.devices.size⟩ bus supply).2)
  /-- The converter is bound. -/
  | bound {part : Part} {supply : RegulatorId} {supplies : Supplies}
      {registered made : Session (Frontend σ) Unit} {number : Option Nat} {trigger : TriggerId}
      (clear : session.refusal? device id bus = none)
      (known : Part.ofDeviceId? id = some part)
      (found : session.supplies.find? referenceSupply = some supply)
      (enabled : session.supplies.enable supply = (.ok (), supplies))
      (added : Adds
        (loose (Spi.WordSize.setWordSize device wordBits).2 part supply bus id number)
        { session with supplies } registered)
      (created : registered.createSoftware timerKind bus = (.ok trigger, made)) :
      Probing session device id bus
        (.ok ⟨⟨session.devices.size⟩, trigger, supply, bus, part⟩,
          made.pinTrigger ⟨session.devices.size⟩ trigger)

/-- Nothing else can come of an attempt. -/
theorem probing (session : Session (Frontend σ) Unit) (device : σ) (id bus : String) :
    Probing session device id bus (session.probe device id bus) := by
  rw [probe]
  split
  · next fault spi setup =>
      exact .refused (by simp only [refusal?, obstacle?, setup]) (by rw [setup]) (.report _ _)
  next spi setup =>
  split
  · next unknown =>
      exact .refused (by simp only [refusal?, obstacle?, setup, unknown]) (by rw [setup])
        (.report _ _)
  next part known =>
  split
  · next error missing =>
      exact .refused (by simp only [refusal?, obstacle?, setup, known, missing]) (by rw [setup])
        (.report _ _)
  next supply found =>
  split
  · next error supplies refused =>
      cases Supplies.enable_error refused
      exact .refused (by simp only [refusal?, obstacle?, setup, known, found, refused])
        (by rw [setup]) (.report _ _)
  next supplies enabled =>
  have left : session.refusal? device id bus =
      if (session.software? bus).isSome then some .exists else none := by
    simp only [refusal?, obstacle?, setup, known, found, enabled]
  have stands : session.supplies.find? referenceSupply = some supply := by
    rw [Supplies.get] at found
    split at found
    · next same =>
        cases found
        exact same
    · cases found
  let frontend : Frontend σ := { converter := { device := spi, part }, supply, bus }
  obtain ⟨number, added⟩ := adds_install { session with supplies } id (channelsOf part) frontend ()
  let registered :=
    Session.install { session with supplies } id (channelsOf part) frontend ()
  have names : registered.software? bus = session.software? bus := by
    simp only [software?, trigger?, registered, added.software, added.triggers]
  have same : spi = (Spi.WordSize.setWordSize device wordBits).2 := by rw [setup]
  dsimp only
  split
  · next trigger made created =>
      have free : (session.software? bus).isSome = false := names ▸ (createSoftware_ok created).1
      rw [free] at left
      subst same
      exact .bound left known stands enabled added created
  · next error made refused =>
      obtain ⟨taken, rfl, rfl⟩ := createSoftware_error refused
      have taken : (session.software? bus).isSome = true := names ▸ taken
      rw [taken] at left
      subst same
      exact .untied left enabled added

/-- **Binding a converter** adds an intact device and an intact trigger, and nothing else. -/
theorem probe_ok {session after : Session (Frontend σ) Unit} {device : σ} {id bus : String}
    {binding : Binding} (probed : session.probe device id bus = (.ok binding, after)) :
    Probed device id bus binding session after := by
  have run := session.probing device id bus
  rw [probed] at run
  cases run with
  | @bound part supply supplies registered made number trigger clear known found enabled added
      created =>
      obtain ⟨_, place, software, devices, listed, kept, count, triggers⟩ :=
        createSoftware_ok created
      have pinned : Keeps ⟨session.devices.size⟩ trigger made
          (made.pinTrigger ⟨session.devices.size⟩ trigger) := .modifyDevice _ _
      let binding : Binding := { device := ⟨session.devices.size⟩, trigger, supply, bus, part }
      let spi := (Spi.WordSize.setWordSize device wordBits).2
      have here : made.device? = registered.device? := by
        funext other
        rw [device?, devices, device?]
      have placed : (made.pinTrigger binding.device trigger).device? binding.device =
          some (newDevice binding spi id number) := by
        rw [pinTrigger, device?_modifyDevice, here, added.device_at, Option.map_some]
        rfl
      have bound : Bound binding (made.pinTrigger binding.device trigger) _ _ :=
        { device_at := placed
          trigger_at := by
            rw [pinTrigger, trigger?_modifyDevice, triggers, if_pos rfl]
          intact := intact_fresh binding spi id number }
      show Probed device id bus binding session (made.pinTrigger binding.device trigger)
      exact
        { part := known
          named := rfl
          supply := found
          enabled := enabled.trans
            (congrArg (Prod.mk _) (pinned.supplies.trans (kept.trans added.supplies)).symm)
          device_new := rfl
          trigger_new := place.trans (by rw [added.triggers])
          made := ⟨number, placed⟩
          bound := ⟨_, _, bound, rfl, rfl, rfl⟩
          devices := fun other differs =>
            (pinned.devices other differs).trans
              ((congrFun here other).trans (added.devices other differs))
          triggers := fun other differs =>
            (pinned.triggers other differs).trans (by
              rw [triggers, if_neg differs, trigger?, added.triggers]
              rfl)
          deviceCount := pinned.deviceCount.trans (by rw [devices, added.deviceCount])
          triggerCount := pinned.triggerCount.trans (by rw [count, added.triggers])
          listed := fun absent => pinned.listed.trans (by rw [listed, added.listed absent])
          software := pinned.software.trans (by rw [software, added.software]) }

/-- An attempt that gave back a binding. -/
theorem probe_of_toOption {session : Session (Frontend σ) Unit} {device : σ} {id bus : String}
    {binding : Binding} (made : (session.probe device id bus).1.toOption = some binding) :
    session.probe device id bus = (.ok binding, (session.probe device id bus).2) := by
  cases probed : session.probe device id bus with
  | mk result after =>
      rw [probed] at made
      cases result with
      | error failure => exact absurd made (by simp [Except.toOption])
      | ok other =>
          cases Option.some.inj made
          rfl

/-- **A converter that could not be bound leaves no trace**, at whichever step binding it
failed, and its device is handed back. -/
theorem probe_error {session after : Session (Frontend σ) Unit} {device : σ} {id bus : String}
    {failure : ProbeFailure σ} (absent : ⟨session.devices.size⟩ ∉ session.listed)
    (failed : session.probe device id bus = (.error failure, after)) :
    failure.device = some (Spi.WordSize.setWordSize device wordBits).2 ∧ Undone session after := by
  have run := session.probing device id bus
  rw [failed] at run
  cases run with
  | refused _ handed undone => exact ⟨handed, undone⟩
  | untied _ enabled added =>
      obtain ⟨last, abandoned, undone⟩ := abandon_eq absent enabled added
      rw [abandoned]
      exact ⟨rfl, undone⟩

/-- **An attempt fails over what stands in its way**, and over nothing else. -/
theorem refusal?_eq (session : Session (Frontend σ) Unit) (device : σ) (id bus : String) :
    session.refusal? device id bus =
      match (session.probe device id bus).1 with
      | .error failure => some failure.error
      | .ok _ => none := by
  have run := session.probing device id bus
  generalize session.probe device id bus = done at run ⊢
  cases run with
  | refused blocked _ _ => exact blocked
  | untied blocked _ _ => exact blocked
  | bound clear _ _ _ _ _ => exact clear

/-- A converter is bound if nothing stands in the way. -/
theorem bound_iff (session : Session (Frontend σ) Unit) (device : σ) (id bus : String) :
    (∃ binding after, session.probe device id bus = (.ok binding, after)) ↔
      session.refusal? device id bus = none := by
  rw [refusal?_eq]
  rcases probed : session.probe device id bus with ⟨result, after⟩
  cases result with
  | error failure => simp
  | ok binding => simp

/-- A part whose word size can be set is bound under its own identifier, if the supply of its
reference can be switched on and no trigger has the name of the bus. -/
theorem probe_succeeds {session : Session (Frontend σ) Unit} {device : σ} {bus : String}
    {supply : RegulatorId} {supplies : Supplies} (part : Part)
    (settled : (Spi.WordSize.setWordSize device wordBits).1 = none)
    (found : session.supplies.find? referenceSupply = some supply)
    (enabled : session.supplies.enable supply = (.ok (), supplies))
    (free : session.software? bus = none) :
    ∃ binding after, session.probe device part.deviceId bus = (.ok binding, after) := by
  let spi := (Spi.WordSize.setWordSize device wordBits).2
  have setup : Spi.WordSize.setWordSize device wordBits = (none, spi) := Prod.ext settled rfl
  let lit : Session (Frontend σ) Unit := { session with supplies }
  let provider : Frontend σ := { converter := { device := spi, part }, supply, bus }
  let installed := lit.install part.deviceId (channelsOf part) provider ()
  obtain ⟨number, added⟩ := adds_install lit part.deviceId (channelsOf part) provider ()
  have unnamed : installed.software? bus = none := by
    have same : installed.software? bus = session.software? bus := by
      simp only [software?, trigger?, installed, added.software, added.triggers, lit]
    exact same.trans free
  obtain ⟨made, created⟩ := createSoftware_free unnamed
  simp only [probe, setup, Part.ofDeviceId?_deviceId, Supplies.get, found, enabled]
  split
  · exact ⟨_, _, rfl⟩
  · next refused => cases created.symm.trans refused

/-! ## Giving a binding up -/

omit [Spi.WordSize σ] in
/-- **Giving up a bound converter** takes its device and its trigger out of their registries
and switches its supply off. Its device on the bus is handed back unless somebody else
holds on. -/
theorem remove_bound {session : Session (Frontend σ) Unit} {binding : Binding}
    {device : Device (Frontend σ) Unit} {trigger : Trigger} {supplies : Supplies}
    {lines : List LogLine} (bound : Bound binding session device trigger)
    (listed : binding.device ∈ session.listed)
    (once : binding.device ∉ session.listed.erase binding.device)
    (software : binding.trigger ∈ session.software)
    (switched : session.supplies.disable binding.supply = (.ok (), supplies, lines)) :
    ∃ after, session.remove binding =
        (if device.holders - 1 = 0 then some device.provider.converter.device else none, after) ∧
      Apart binding.device binding.trigger session after ∧
      after.listed = session.listed.erase binding.device ∧
      after.software = session.software.erase binding.trigger ∧ after.supplies = supplies := by
  let hidden := { session with listed := session.listed.erase binding.device }
  have here : Bound binding hidden device trigger := bound.moved rfl rfl
  obtain ⟨quiet, still, stopped, kept, off, _⟩ := here.disable
  let bare := quiet.modifyDevice binding.device fun device => { device with number := none }
  have withdrawn : session.withdraw binding.bus binding.device = bare :=
    withdraw_ok listed stopped binding.bus
  let forgotten := { bare with software := bare.software.erase binding.trigger }
  let dropped := forgotten.modifyTrigger binding.trigger fun trigger => trigger.stop.2.detach
  have destroyed : bare.destroySoftware binding.trigger = (.ok (), dropped) := by
    have present : bare.software.contains binding.trigger = true := by
      have same : bare.software = session.software := kept.software
      rw [same, List.contains_iff_mem]
      exact software
    simp only [destroySoftware, present, Bool.not_true, Bool.false_eq_true, if_false, dropped,
      forgotten]
  have found : dropped.device? binding.device = _ :=
    (quiet.device?_modifyDevice binding.device _).trans
      (congrArg (Option.map _) off.device_at)
  have same : dropped.supplies = session.supplies := kept.supplies
  obtain ⟨after, gone, apart, lastListed, lastSoftware, lit⟩ :=
    tearDown found rfl (kept.listed ▸ once) (same ▸ switched) binding.bus binding.trigger
  have first : Apart binding.device binding.trigger session hidden := .of_tables rfl rfl
  have second : Apart binding.device binding.trigger quiet bare := (Keeps.modifyDevice _ _).toApart
  have third : Apart binding.device binding.trigger bare forgotten := .of_tables rfl rfl
  have fourth : Apart binding.device binding.trigger forgotten dropped :=
    (Keeps.modifyTrigger _ _).toApart
  refine ⟨after, ?_, ?_, lastListed.trans kept.listed, ?_, lit⟩
  · simp only [remove, withdrawn, destroyed]
    exact gone
  · exact ((first.trans kept.toApart).trans second).trans ((third.trans fourth).trans apart)
  · exact lastSoftware.trans (congrArg (List.erase · binding.trigger) kept.software)

end Session

end Acquisition
