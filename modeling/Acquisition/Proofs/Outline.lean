/-
# Acquisition.Proofs.Outline — what a session shows of captures and of the registry

The `Outline` of a session says which devices are being captured, which trigger each was
given, which device each trigger is attached to, and which devices have a number and are
listed. Whatever happens to a session changes its outline by a few `Move`s, if at all: the
laws here say for each change of a device or a trigger which move it is, or that it shows
nowhere.
-/
import Acquisition.Proofs.Sessions
import Acquisition.Session.Edge
import Acquisition.Session.Registry
import Acquisition.Session.Software

namespace Acquisition

set_option autoImplicit false

/-! ## The outline of a session -/

/-- What a session shows of its captures and its registry. -/
@[ext] structure Outline where
  /-- Whether a device is being captured. -/
  capturing : DeviceId → Bool
  /-- The trigger that a device was given. -/
  paced : DeviceId → Option TriggerId
  /-- The device that a trigger is attached to. -/
  attached : TriggerId → Option DeviceId
  /-- Whether there is such a trigger. -/
  known : TriggerId → Bool
  /-- Whether a device has a number. -/
  numbered : DeviceId → Bool
  /-- The registered devices, oldest first. -/
  listed : List DeviceId

/-- A change of an outline. -/
inductive Move where
  /-- There is a new trigger. -/
  | appear (trigger : TriggerId)
  /-- A device is given a trigger. -/
  | give (device : DeviceId) (trigger : TriggerId)
  /-- A device is captured from now on, and its trigger attached to it. -/
  | start (device : DeviceId) (trigger : TriggerId)
  /-- A device is no longer captured. -/
  | rest (device : DeviceId)
  /-- A trigger is attached to no device any more. -/
  | detach (trigger : TriggerId)
  /-- A device is listed and gets a number. -/
  | enlist (device : DeviceId)
  /-- A device is no longer listed. -/
  | strike (device : DeviceId)
  /-- A device has no number any more. -/
  | unnumber (device : DeviceId)

/-- The outline after a change. -/
def Outline.apply (outline : Outline) : Move → Outline
  | .appear trigger =>
      { outline with known := fun id => id = trigger || outline.known id }
  | .give device trigger =>
      { outline with paced := fun id => if id = device then some trigger else outline.paced id }
  | .start device trigger =>
      { outline with
        capturing := fun id => id = device || outline.capturing id
        attached := fun id => if id = trigger then some device else outline.attached id }
  | .rest device =>
      { outline with capturing := fun id => id ≠ device && outline.capturing id }
  | .detach trigger =>
      { outline with attached := fun id => if id = trigger then none else outline.attached id }
  | .enlist device =>
      { outline with
        numbered := fun id => id = device || outline.numbered id
        listed := outline.listed ++ [device] }
  | .strike device =>
      { outline with listed := outline.listed.erase device }
  | .unnumber device =>
      { outline with numbered := fun id => id ≠ device && outline.numbered id }

/-- Every trigger that a device was given is there. -/
def Outline.Furnished (outline : Outline) : Prop :=
  ∀ device trigger, outline.paced device = some trigger → outline.known trigger = true

/-- Triggers stay, so it is enough that those newly given are there. -/
theorem Outline.Furnished.foldl : ∀ {moves : List Move} {outline : Outline}, outline.Furnished →
    (∀ device trigger, Move.give device trigger ∈ moves → outline.known trigger = true) →
    (moves.foldl apply outline).Furnished
  | [], _, furnished, _ => furnished
  | move :: rest, outline, furnished, given => by
      rw [List.foldl_cons]
      have stays : ∀ trigger, outline.known trigger = true →
          (outline.apply move).known trigger = true := by
        intro trigger known
        cases move <;> simp [apply, known]
      refine foldl ?_ fun device trigger later =>
        stays trigger (given device trigger (List.mem_cons_of_mem _ later))
      intro device trigger paced
      apply stays
      cases move with
      | give receiver gift =>
          simp only [apply] at paced
          split at paced
          · cases paced
            exact given _ _ List.mem_cons_self
          · exact furnished device trigger paced
      | _ => exact furnished device trigger paced

theorem Trigger.setFrequency_consumer (trigger : Trigger) (hertz : Nat) :
    (trigger.setFrequency hertz).2.consumer = trigger.consumer := by
  rw [setFrequency]
  split <;> rfl

namespace Session

variable {F H : Type}

/-- Whether a device is being captured. -/
def capturing (session : Session F H) (id : DeviceId) : Bool :=
  (session.device? id).any Device.capturing

/-- The trigger that a device was given. -/
def paced? (session : Session F H) (id : DeviceId) : Option TriggerId :=
  (session.device? id).bind Device.trigger

/-- The device that a trigger is attached to, whether or not it still lives. -/
def attached? (session : Session F H) (id : TriggerId) : Option DeviceId :=
  (session.trigger? id).bind Trigger.consumer

/-- Whether a device has a number. -/
def registered (session : Session F H) (id : DeviceId) : Bool :=
  (session.device? id).any fun device => device.number.isSome

/-- The outline of a session. -/
def outline (session : Session F H) : Outline where
  capturing := session.capturing
  paced := session.paced?
  attached := session.attached?
  known := fun id => (session.trigger? id).isSome
  numbered := session.registered
  listed := session.listed

/-! ## What the parts of a command do to the outline -/

section Outline

variable (session : Session F H)

theorem device?_modifyDevice_eq (id other : DeviceId) (change : Device F H → Device F H) :
    (session.modifyDevice id change).device? other =
      if other = id then (session.device? other).map change else session.device? other := by
  split
  · next same => rw [same, device?_modifyDevice]
  · next differs => exact session.device?_modifyDevice_other differs change

theorem trigger?_modifyTrigger_eq (id other : TriggerId) (change : Trigger → Trigger) :
    (session.modifyTrigger id change).trigger? other =
      if other = id then (session.trigger? other).map change else session.trigger? other := by
  split
  · next same => rw [same, trigger?_modifyTrigger]
  · next differs => exact session.trigger?_modifyTrigger_other differs change

theorem capturing_modifyDevice (id other : DeviceId) (change : Device F H → Device F H) :
    (session.modifyDevice id change).capturing other =
      if other = id then (session.device? other).any fun device => (change device).capturing
      else session.capturing other := by
  rw [Session.capturing, device?_modifyDevice_eq]
  split
  · rw [Option.any_map]
  · rfl

theorem paced?_modifyDevice (id other : DeviceId) (change : Device F H → Device F H) :
    (session.modifyDevice id change).paced? other =
      if other = id then (session.device? other).bind fun device => (change device).trigger
      else session.paced? other := by
  rw [paced?, device?_modifyDevice_eq]
  split
  · rw [Option.bind_map]
    rfl
  · rfl

theorem registered_modifyDevice (id other : DeviceId) (change : Device F H → Device F H) :
    (session.modifyDevice id change).registered other =
      if other = id then (session.device? other).any fun device => (change device).number.isSome
      else session.registered other := by
  rw [registered, device?_modifyDevice_eq]
  split
  · rw [Option.any_map]
  · rfl

theorem attached?_modifyTrigger (id other : TriggerId) (change : Trigger → Trigger) :
    (session.modifyTrigger id change).attached? other =
      if other = id then (session.trigger? other).bind fun trigger => (change trigger).consumer
      else session.attached? other := by
  rw [attached?, trigger?_modifyTrigger_eq]
  split
  · rw [Option.bind_map]
    rfl
  · rfl

theorem isSome_trigger?_modifyTrigger (id other : TriggerId) (change : Trigger → Trigger) :
    ((session.modifyTrigger id change).trigger? other).isSome =
      (session.trigger? other).isSome := by
  rw [trigger?_modifyTrigger_eq]
  split
  · rw [Option.isSome_map]
  · rfl

/-- A change of a device, as far as it shows. -/
theorem outline_modifyDevice_eq (id : DeviceId) (change : Device F H → Device F H) :
    (session.modifyDevice id change).outline =
      { session.outline with
        capturing := fun other =>
          if other = id then (session.device? other).any fun device => (change device).capturing
          else session.capturing other
        paced := fun other =>
          if other = id then (session.device? other).bind fun device => (change device).trigger
          else session.paced? other
        numbered := fun other =>
          if other = id then
            (session.device? other).any fun device => (change device).number.isSome
          else session.registered other } := by
  rw [outline, Outline.mk.injEq]
  exact ⟨funext fun _ => session.capturing_modifyDevice _ _ _,
    funext fun _ => session.paced?_modifyDevice _ _ _, rfl, rfl,
    funext fun _ => session.registered_modifyDevice _ _ _, rfl⟩

/-- A change of a device that shows nowhere. -/
theorem outline_modifyDevice (id : DeviceId) {change : Device F H → Device F H}
    (capturing : ∀ device, (change device).capturing = device.capturing)
    (trigger : ∀ device, (change device).trigger = device.trigger)
    (number : ∀ device, (change device).number.isSome = device.number.isSome) :
    (session.modifyDevice id change).outline = session.outline := by
  simp only [outline_modifyDevice_eq, capturing, trigger, number]
  refine Outline.ext (funext fun _ => ?_) (funext fun _ => ?_) rfl rfl (funext fun _ => ?_) rfl
  all_goals exact ite_self _

/-- A change of a trigger, as far as it shows. -/
theorem outline_modifyTrigger_eq (id : TriggerId) (change : Trigger → Trigger) :
    (session.modifyTrigger id change).outline =
      { session.outline with
        attached := fun other =>
          if other = id then (session.trigger? other).bind fun trigger => (change trigger).consumer
          else session.attached? other } :=
  Outline.ext rfl rfl (funext fun _ => session.attached?_modifyTrigger _ _ _)
    (funext fun _ => session.isSome_trigger?_modifyTrigger _ _ _) rfl rfl

/-- A change of a trigger that shows nowhere. -/
theorem outline_modifyTrigger (id : TriggerId) {change : Trigger → Trigger}
    (consumer : ∀ trigger, (change trigger).consumer = trigger.consumer) :
    (session.modifyTrigger id change).outline = session.outline := by
  simp only [outline_modifyTrigger_eq, consumer]
  exact Outline.ext rfl rfl (funext fun _ => ite_self _) rfl rfl rfl

/-- A change of a device that is not there. -/
theorem outline_modifyDevice_absent {id : DeviceId} (absent : session.device? id = none)
    (change : Device F H → Device F H) : (session.modifyDevice id change).outline = session.outline := by
  rw [outline_modifyDevice_eq]
  refine Outline.ext (funext fun other => ?_) (funext fun other => ?_) rfl rfl
    (funext fun other => ?_) rfl
  all_goals by_cases same : other = id
  all_goals simp [same, absent, outline, Session.capturing, paced?, registered]

/-- A device replaced by one that looks the same. -/
theorem outline_setDevice {id : DeviceId} {before after : Device F H}
    (found : session.device? id = some before) (capturing : after.capturing = before.capturing)
    (trigger : after.trigger = before.trigger) (number : after.number = before.number) :
    (session.modifyDevice id fun _ => after).outline = session.outline := by
  rw [outline_modifyDevice_eq]
  refine Outline.ext (funext fun other => ?_) (funext fun other => ?_) rfl rfl
    (funext fun other => ?_) rfl
  all_goals by_cases same : other = id
  all_goals
    simp [same, found, capturing, trigger, number, outline, Session.capturing, paced?, registered]

/-- A trigger replaced by one that is attached to the same. -/
theorem outline_setTrigger {id : TriggerId} {before after : Trigger}
    (found : session.trigger? id = some before) (consumer : after.consumer = before.consumer) :
    (session.modifyTrigger id fun _ => after).outline = session.outline := by
  rw [outline_modifyTrigger_eq]
  refine Outline.ext rfl rfl (funext fun other => ?_) rfl rfl rfl
  by_cases same : other = id <;> simp [same, found, consumer, outline, attached?]

@[simp] theorem outline_report (lines : List LogLine) :
    (session.report lines).outline = session.outline := rfl

/-- A new device shows nowhere: it is idle, has no trigger and no number. -/
theorem outline_addDevice (name : String) (channels : List Channel) (provider : F) :
    (session.addDevice name channels provider).2.outline = session.outline := by
  have nobody : session.device? ⟨session.devices.size⟩ = none := List.getElem?_eq_none (Nat.le_refl _)
  refine Outline.ext (funext fun id => ?_) (funext fun id => ?_) rfl rfl (funext fun id => ?_) rfl
  all_goals
    simp only [outline, Session.capturing, paced?, registered, device?_addDevice]
    split
    · next last =>
        have same : id = ⟨session.devices.size⟩ := by rw [← last]
        rw [same, nobody]
        rfl
    · rfl

/-- A new trigger is attached to nothing. -/
theorem outline_addTrigger (name : String) (source : Source) :
    (session.addTrigger name source).2.outline =
      session.outline.apply (.appear ⟨session.triggers.size⟩) := by
  have nobody : session.trigger? ⟨session.triggers.size⟩ = none :=
    List.getElem?_eq_none (Nat.le_refl _)
  have last {id : TriggerId} : id.index = session.triggers.size ↔ id = ⟨session.triggers.size⟩ := by
    cases id
    simp
  refine Outline.ext rfl rfl (funext fun id => ?_) (funext fun id => ?_) rfl rfl
  all_goals
    simp only [outline, Outline.apply, attached?, trigger?_addTrigger, last]
    split
    · next same => simp [same, nobody]
    · next differs => simp [differs]

/-! ## The moves one by one -/

theorem outline_rest (id : DeviceId) :
    (session.modifyDevice id fun device => { device with capturing := false }).outline =
      session.outline.apply (.rest id) := by
  rw [outline_modifyDevice_eq]
  refine Outline.ext (funext fun other => ?_) (funext fun _ => ite_self _) rfl rfl
    (funext fun _ => ite_self _) rfl
  by_cases same : other = id <;> simp [Outline.apply, outline, same]

theorem outline_detach (id : TriggerId) {change : Trigger → Trigger}
    (gone : ∀ trigger, (change trigger).consumer = none) :
    (session.modifyTrigger id change).outline = session.outline.apply (.detach id) := by
  rw [outline_modifyTrigger_eq]
  refine Outline.ext rfl rfl (funext fun other => ?_) rfl rfl rfl
  by_cases same : other = id <;> simp [Outline.apply, outline, same, gone]

theorem outline_unnumber (id : DeviceId) :
    (session.modifyDevice id fun device => { device with number := none }).outline =
      session.outline.apply (.unnumber id) := by
  rw [outline_modifyDevice_eq]
  refine Outline.ext (funext fun _ => ite_self _) (funext fun _ => ite_self _) rfl rfl
    (funext fun other => ?_) rfl
  by_cases same : other = id <;> simp [Outline.apply, outline, same]

/-- Giving a trigger to a device that is there. -/
theorem outline_give {id : DeviceId} {device : Device F H} (found : session.device? id = some device)
    (trigger : TriggerId) {change : Device F H → Device F H}
    (given : (change device).trigger = some trigger)
    (capturing : ∀ device, (change device).capturing = device.capturing)
    (number : ∀ device, (change device).number.isSome = device.number.isSome) :
    (session.modifyDevice id change).outline = session.outline.apply (.give id trigger) := by
  simp only [outline_modifyDevice_eq, capturing, number]
  refine Outline.ext (funext fun _ => ite_self _) (funext fun other => ?_) rfl rfl
    (funext fun _ => ite_self _) rfl
  by_cases same : other = id <;> simp [Outline.apply, outline, same, found, given]

/-- A capture that is switched on and its trigger attached. -/
theorem outline_start {id : DeviceId} {trigger : TriggerId} {device : Device F H}
    (found : session.device? id = some device) (known : (session.trigger? trigger).isSome)
    (change : Device F H → Device F H) (capturing : (change device).capturing = true)
    (paced : ∀ device, (change device).trigger = device.trigger)
    (number : ∀ device, (change device).number.isSome = device.number.isSome) :
    ((session.modifyDevice id change).modifyTrigger trigger fun trigger => trigger.attach id).outline
      = session.outline.apply (.start id trigger) := by
  obtain ⟨pacer, there⟩ := Option.isSome_iff_exists.1 known
  rw [outline_modifyTrigger_eq, outline_modifyDevice_eq]
  refine Outline.ext (funext fun other => ?_) (funext fun other => ?_) (funext fun other => ?_) rfl
    (funext fun other => ?_) rfl
  · by_cases same : other = id <;> simp [Outline.apply, outline, same, found, capturing]
  · simp only [paced]
    exact ite_self _
  · by_cases same : other = trigger
    · simp [Outline.apply, same, there, Trigger.attach]
    · simp only [Outline.apply, same, if_false]
      rfl
  · simp only [number]
    exact ite_self _

/-! ## What shows nowhere -/

theorem setFrequency_outline (id : TriggerId) (hertz : Nat) :
    (session.setFrequency id hertz).2.outline = session.outline := by
  rw [setFrequency]
  cases found : session.trigger? id with
  | none => rfl
  | some trigger => exact session.outline_setTrigger found (trigger.setFrequency_consumer hertz)

theorem setup_outline (id : DeviceId) (handler : H) :
    (session.setup id handler).2.outline = session.outline := by
  rw [setup]
  split
  · rfl
  · split
    · rfl
    · exact outline_modifyDevice _ _ (fun _ => rfl) (fun _ => rfl) fun _ => rfl

theorem push_outline (id : DeviceId) (samples : List UInt16) (time : Int64) :
    (session.push id samples time).outline = session.outline := by
  rw [push]
  cases found : session.device? id with
  | none => rfl
  | some device =>
      have same : (device.push samples time).1 =
          { device with buffer := (device.push samples time).1.buffer } := by
        rw [Device.push]
        split <;> rfl
      exact session.outline_setDevice found (by rw [same]) (by rw [same]) (by rw [same])

theorem readScan_outline (id : DeviceId) : (session.readScan id).2.outline = session.outline := by
  rw [readScan]
  split
  · rfl
  · exact outline_modifyDevice _ _ (fun _ => rfl) (fun _ => rfl) fun _ => rfl

theorem readBytes_outline (id : DeviceId) (size : Nat) :
    (session.readBytes id size).2.outline = session.outline := by
  rw [readBytes]
  split
  · rfl
  · exact outline_modifyDevice _ _ (fun _ => rfl) (fun _ => rfl) fun _ => rfl

theorem read_outline [Provider F H] {id : DeviceId} {position : Nat} {asked : Attribute}
    {result : Except Error Value} {after : Session F H}
    (done : session.read id position asked = some (result, after)) :
    after.outline = session.outline := by
  rw [read] at done
  split at done
  · cases done
    rfl
  · split at done
    · cases done
      rfl
    · obtain ⟨⟨answer, provider⟩, _, same⟩ := Option.map_eq_some_iff.1 done
      cases same
      exact outline_modifyDevice _ _ (fun _ => rfl) (fun _ => rfl) fun _ => rfl

end Outline

end Session

/-! ## Edges -/

namespace Encounter

variable {F H : Type}

/-- Neither the capture nor the registration of the consumer differs, nor the name of the trigger
and what it is attached to. -/
structure Still (before after : Encounter F H) : Prop where
  capturing : after.device.capturing = before.device.capturing
  trigger : after.device.trigger = before.device.trigger
  number : after.device.number = before.device.number
  consumer : after.trigger.consumer = before.trigger.consumer
  name : after.trigger.name = before.trigger.name

namespace Still

theorem refl (encounter : Encounter F H) : Still encounter encounter :=
  ⟨rfl, rfl, rfl, rfl, rfl⟩

theorem trans {first second third : Encounter F H} (left : Still first second)
    (right : Still second third) : Still first third :=
  ⟨right.capturing.trans left.capturing, right.trigger.trans left.trigger,
    right.number.trans left.number, right.consumer.trans left.consumer,
    right.name.trans left.name⟩

theorem push (encounter : Encounter F H) (record : Option (List UInt16 × Int64)) :
    Still encounter (encounter.push record) := by
  cases record with
  | none => exact .refl encounter
  | some entry =>
      simp only [Encounter.push, Device.push]
      split <;> exact ⟨rfl, rfl, rfl, rfl, rfl⟩

theorem lasting (start : Encounter F H) : Lasting (Still start) where
  miss _ here := here.trans ⟨rfl, rfl, rfl, rfl, rfl⟩
  finish _ here := here.trans ⟨rfl, rfl, rfl, rfl, rfl⟩
  pass _ here := here.trans ⟨rfl, rfl, rfl, rfl, rfl⟩
  enter _ _ turn _ _ _ here := by
    refine (here.trans ?_).trans (push _ turn.record)
    exact ⟨rfl, rfl, rfl, rfl, rfl⟩

/-- **Edges start and stop no capture**, however many the handler raises itself. -/
theorem play [Provider F H] {time : Int64} {acts : List Act} {encounter after : Encounter F H}
    (played : encounter.play time acts = some after) : Still encounter after :=
  (lasting encounter).play played (.refl encounter)

end Still

end Encounter

namespace Session

variable {F H : Type} [Provider F H] (session : Session F H)

theorem poll_outline {id : TriggerId} {time : Int64} {after : Session F H}
    (done : session.poll id time = some after) : after.outline = session.outline := by
  rw [poll] at done
  split at done
  · next trigger deviceId found consumer =>
      split at done
      · cases done
        rfl
      · next device there =>
          obtain ⟨met, played, same⟩ := Option.map_eq_some_iff.1 done
          obtain ⟨capturing, paced, number, attached, _⟩ := Encounter.Still.play played
          cases same
          have answered := session.outline_setTrigger found attached
          have pushed := outline_setDevice (session.modifyTrigger id fun _ => met.trigger) there
            capturing paced number
          exact pushed.trans answered
  · cases done
    rfl

theorem tick_outline {id : TriggerId} {time : Int64} {after : Session F H}
    (done : session.tick id time = some after) : after.outline = session.outline := by
  rw [tick] at done
  split at done
  · split at done
    · exact session.poll_outline done
    · cases done
      rfl
  · cases done
    rfl

end Session

end Acquisition
