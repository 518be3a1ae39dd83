/-
# Acquisition.Proofs.Sessions — what the operations of a session leave alone

Most operations of a session concern one device and one trigger. `Keeps` says that
everything else is as it was: the other devices and triggers, both registries, and the
supplies. It holds of each change a session is made of and of any number of them one
after the other, so an operation that is such a chain keeps all of it.
-/
import Acquisition.Session.Capture

namespace Acquisition.Session

set_option autoImplicit false

variable {F H : Type}

/-! ## Devices and triggers after a change -/

section Lookup

variable (session : Session F H)

@[simp] theorem device?_modifyDevice (id : DeviceId) (change : Device F H → Device F H) :
    (session.modifyDevice id change).device? id = (session.device? id).map change := by
  simp [device?, modifyDevice, Table.get?_modify]

theorem device?_modifyDevice_other {id other : DeviceId} (differs : other ≠ id)
    (change : Device F H → Device F H) :
    (session.modifyDevice id change).device? other = session.device? other := by
  have apart : id.index ≠ other.index := by
    intro same
    apply differs
    cases id
    cases other
    exact congrArg DeviceId.mk same.symm
  simp [device?, modifyDevice, Table.get?_modify, apart]

/-- Changes that come to the same for the device that is there come to the same. -/
theorem modifyDevice_congr {id : DeviceId} {device : Device F H}
    (there : session.device? id = some device) {change other : Device F H → Device F H}
    (same : change device = other device) :
    session.modifyDevice id change = session.modifyDevice id other := by
  have changed : session.devices.modify id.index change =
      session.devices.modify id.index other := Table.modify_congr there same
  rw [modifyDevice, changed, modifyDevice]

@[simp] theorem trigger?_modifyTrigger (id : TriggerId) (change : Trigger → Trigger) :
    (session.modifyTrigger id change).trigger? id = (session.trigger? id).map change := by
  simp [trigger?, modifyTrigger, Table.get?_modify]

theorem trigger?_modifyTrigger_other {id other : TriggerId} (differs : other ≠ id)
    (change : Trigger → Trigger) :
    (session.modifyTrigger id change).trigger? other = session.trigger? other := by
  have apart : id.index ≠ other.index := by
    intro same
    apply differs
    cases id
    cases other
    exact congrArg TriggerId.mk same.symm
  simp [trigger?, modifyTrigger, Table.get?_modify, apart]

@[simp] theorem device?_modifyTrigger (id : TriggerId) (change : Trigger → Trigger)
    (other : DeviceId) : (session.modifyTrigger id change).device? other = session.device? other :=
  rfl

@[simp] theorem trigger?_modifyDevice (id : DeviceId) (change : Device F H → Device F H)
    (other : TriggerId) :
    (session.modifyDevice id change).trigger? other = session.trigger? other :=
  rfl

@[simp] theorem device?_report (lines : List LogLine) (id : DeviceId) :
    (session.report lines).device? id = session.device? id := rfl

@[simp] theorem trigger?_report (lines : List LogLine) (id : TriggerId) :
    (session.report lines).trigger? id = session.trigger? id := rfl

@[simp] theorem device?_note (event : Event) (id : DeviceId) :
    (session.note event).device? id = session.device? id := rfl

@[simp] theorem trigger?_note (event : Event) (id : TriggerId) :
    (session.note event).trigger? id = session.trigger? id := rfl

@[simp] theorem trigger?_noteSwitch (id other : TriggerId) (trigger : Trigger) (on : Bool) :
    (session.noteSwitch id trigger on).trigger? other = session.trigger? other := by
  rw [noteSwitch]
  split <;> rfl

theorem device?_stopTrigger (trigger : TriggerId) (id : DeviceId) :
    (session.stopTrigger trigger).2.device? id = session.device? id := by
  rw [stopTrigger]
  split
  · rfl
  · simp only [device?_modifyTrigger, noteSwitch]
    split <;> rfl

/-- A device somebody holds on to lives. -/
theorem alive_of_holders {session : Session F H} {id : DeviceId} {device : Device F H}
    (found : session.device? id = some device) (held : device.holders ≠ 0) :
    session.alive id = true := by
  simp [alive, found, held]

theorem device?_addDevice (name : String) (channels : List Channel) (provider : F)
    (id : DeviceId) :
    (session.addDevice name channels provider).2.device? id =
      if id.index = session.devices.size then some { name, channels, provider }
      else session.device? id :=
  Table.get?_push _ _ _

theorem trigger?_addTrigger (name : String) (source : Source) (id : TriggerId) :
    (session.addTrigger name source).2.trigger? id =
      if id.index = session.triggers.size then some { name, source } else session.trigger? id :=
  Table.get?_push _ _ _

/-- Numbers are handed out in order. -/
theorem index_lt_of_device? {session : Session F H} {id : DeviceId} {device : Device F H}
    (found : session.device? id = some device) : id.index < session.devices.size :=
  (List.getElem?_eq_some_iff.1 found).1

theorem index_lt_of_trigger? {session : Session F H} {id : TriggerId} {trigger : Trigger}
    (found : session.trigger? id = some trigger) : id.index < session.triggers.size :=
  (List.getElem?_eq_some_iff.1 found).1

end Lookup

/-! ## What is kept -/

/-- No device but one, and no trigger but one, differs. -/
structure Apart (device : DeviceId) (trigger : TriggerId) (before after : Session F H) : Prop where
  devices : ∀ other, other ≠ device → after.device? other = before.device? other
  triggers : ∀ other, other ≠ trigger → after.trigger? other = before.trigger? other
  deviceCount : after.devices.size = before.devices.size
  triggerCount : after.triggers.size = before.triggers.size

/-- Nothing but one device, one trigger and the journal differs. -/
structure Keeps (device : DeviceId) (trigger : TriggerId) (before after : Session F H) : Prop
    extends Apart device trigger before after where
  listed : after.listed = before.listed
  software : after.software = before.software
  supplies : after.supplies = before.supplies

variable {device : DeviceId} {trigger : TriggerId}

/-- Sessions with the same tables differ in no device and no trigger. -/
theorem Apart.of_tables {before after : Session F H} (devices : after.devices = before.devices)
    (triggers : after.triggers = before.triggers) : Apart device trigger before after where
  devices other _ := by rw [device?, devices, device?]
  triggers other _ := by rw [trigger?, triggers, trigger?]
  deviceCount := by rw [devices]
  triggerCount := by rw [triggers]

theorem Apart.trans {first second third : Session F H} (left : Apart device trigger first second)
    (right : Apart device trigger second third) : Apart device trigger first third where
  devices other differs := (right.devices other differs).trans (left.devices other differs)
  triggers other differs := (right.triggers other differs).trans (left.triggers other differs)
  deviceCount := right.deviceCount.trans left.deviceCount
  triggerCount := right.triggerCount.trans left.triggerCount

namespace Keeps

theorem refl (session : Session F H) : Keeps device trigger session session :=
  ⟨.of_tables rfl rfl, rfl, rfl, rfl⟩

theorem trans {first second third : Session F H} (left : Keeps device trigger first second)
    (right : Keeps device trigger second third) : Keeps device trigger first third :=
  ⟨left.toApart.trans right.toApart, right.listed.trans left.listed,
    right.software.trans left.software, right.supplies.trans left.supplies⟩

theorem modifyDevice (session : Session F H) (change : Device F H → Device F H) :
    Keeps device trigger session (session.modifyDevice device change) :=
  ⟨⟨fun _ differs => session.device?_modifyDevice_other differs change, fun _ _ => rfl,
    Table.size_modify _ _ _, rfl⟩, rfl, rfl, rfl⟩

theorem modifyTrigger (session : Session F H) (change : Trigger → Trigger) :
    Keeps device trigger session (session.modifyTrigger trigger change) :=
  ⟨⟨fun _ _ => rfl, fun _ differs => session.trigger?_modifyTrigger_other differs change, rfl,
    Table.size_modify _ _ _⟩, rfl, rfl, rfl⟩

theorem journal (session : Session F H) (entries : List Entry) :
    Keeps device trigger session { session with journal := entries } :=
  ⟨.of_tables rfl rfl, rfl, rfl, rfl⟩

theorem report (session : Session F H) (lines : List LogLine) :
    Keeps device trigger session (session.report lines) :=
  journal session _

theorem note (session : Session F H) (event : Event) :
    Keeps device trigger session (session.note event) :=
  journal session _

end Keeps

end Acquisition.Session
