/-
# Acquisition.Proofs.Quiet — what happens without an edge

An edge shows in two places: in the counters of its trigger, and in the journal, which notes each
time the handler of a device is given one (`handled`). Of all commands only raising an edge changes
these, apart from reporting an edge done from outside, which counts on its trigger: every other
leaves the triggers that there are with the counters they have, and makes new ones that start from
nothing (`perform_edgeless`).

Most commands do still less: they are made up of `Minor` changes (`perform_minor`), under which a
device keeps its number and a trigger its name as well. What is to be shown of these commands needs
to be shown of the few minor changes only.
-/
import Acquisition.Proofs.Commands
import Acquisition.Proofs.Outline

namespace Acquisition

set_option autoImplicit false

/-! ## Counters -/

namespace Trigger

/-- The name of a trigger, whether it is busy, and its counters. -/
def marks (trigger : Trigger) : String × Bool × Nat × Nat :=
  (trigger.name, trigger.counters)

theorem stop_marks (trigger : Trigger) : trigger.stop.2.marks = trigger.marks := by
  rw [stop]
  split <;> rfl

theorem start_marks {trigger after : Trigger} {result : Except Error Unit}
    (asked : trigger.start = some (result, after)) : after.marks = trigger.marks := by
  rw [start] at asked
  split at asked
  case h_4 timer timed =>
    split at asked <;> cases asked
    rfl
  all_goals
    cases asked
    rfl

theorem setFrequency_marks (trigger : Trigger) (hertz : Nat) :
    (trigger.setFrequency hertz).2.marks = trigger.marks := by
  rw [setFrequency]
  split <;> rfl

theorem rehook_marks (trigger : Trigger) (onStart onStop : Option Error) :
    (trigger.rehook onStart onStop).marks = trigger.marks := by
  rw [rehook]
  split <;> rfl

end Trigger

/-! ## The journal -/

/-- Whether an entry says that the handler of a device was given an edge. -/
def Entry.handles (id : DeviceId) : Entry → Bool
  | .event (.handle device _ _) => device = id
  | _ => false

/-- How often a journal says that the handler of a device was given an edge. -/
def handlings (id : DeviceId) (journal : List Entry) : Nat :=
  journal.countP (Entry.handles id)

theorem handlings_lines (id : DeviceId) (lines : List LogLine) (journal : List Entry) :
    handlings id ((lines.map Entry.line).reverse ++ journal) = handlings id journal := by
  have none : (lines.map Entry.line).reverse.countP (Entry.handles id) = 0 := by
    rw [List.countP_eq_zero]
    intro entry member
    obtain ⟨line, _, rfl⟩ := List.mem_map.1 (List.mem_reverse.1 member)
    exact Bool.false_ne_true
  rw [handlings, List.countP_append, none, Nat.zero_add, handlings]

/-- Whether a command makes nothing, registers nothing and raises no edge. -/
def Command.inPassing {F H : Type} : Command F H → Bool
  | .setFrequency _ _ | .hold _ | .release _ | .reconsider _ _ | .rehook _ _ _ | .setup _ _
  | .cleanup _ | .assign _ _ | .pin _ _ | .enable _ _ | .disable _ | .read _ _ _ | .push _ _ _
  | .readScan _ | .readBytes _ _ => true
  | _ => false

namespace Session

variable {F H : Type}

/-- Whether a trigger is busy, and its counters. -/
def counters? (session : Session F H) (id : TriggerId) : Option (Bool × Nat × Nat) :=
  (session.trigger? id).map Trigger.counters

/-- How often the handler of a device was given an edge. -/
def handled (session : Session F H) (id : DeviceId) : Nat :=
  handlings id session.journal

theorem handled_append {before after : Session F H} {entries : List Entry} {id : DeviceId}
    (entered : after.journal = entries ++ before.journal) (none : handlings id entries = 0) :
    after.handled id = before.handled id := by
  rw [handlings] at none
  rw [handled, handled, entered, handlings, handlings, List.countP_append, none, Nat.zero_add]

/-! ## Minor changes -/

/-- What a session does in passing: a device may change but for its number, a trigger but for its
name and its counters, and lines and events are noted, but no edge that a handler is given. -/
inductive Minor : Session F H → Session F H → Prop where
  | refl (session : Session F H) : Minor session session
  | device {session : Session F H} (id : DeviceId) {change : Device F H → Device F H}
      (number : ∀ device, session.device? id = some device →
        (change device).number = device.number) :
      Minor session (session.modifyDevice id change)
  | trigger {session : Session F H} (id : TriggerId) {change : Trigger → Trigger}
      (marks : ∀ trigger, session.trigger? id = some trigger →
        (change trigger).marks = trigger.marks) :
      Minor session (session.modifyTrigger id change)
  | journal {session : Session F H} {journal : List Entry}
      (handlings : ∀ id, handlings id journal = handlings id session.journal) :
      Minor session { session with journal }
  | trans {first second third : Session F H} (left : Minor first second)
      (right : Minor second third) : Minor first third

section Functions

variable (session : Session F H)

theorem minor_report (lines : List LogLine) : Minor session (session.report lines) :=
  .journal fun id => handlings_lines id lines session.journal

theorem minor_noteSwitch (id : TriggerId) (trigger : Trigger) (on : Bool) :
    Minor session (session.noteSwitch id trigger on) := by
  rw [noteSwitch]
  split
  · exact .journal fun _ => rfl
  · exact .refl session

theorem minor_stopTrigger (id : TriggerId) : Minor session (session.stopTrigger id).2 := by
  rw [stopTrigger]
  split
  · exact .refl session
  · next trigger found =>
      refine (session.minor_noteSwitch id trigger false).trans (.trigger id fun held here => ?_)
      rw [trigger?_noteSwitch, found] at here
      cases here
      exact trigger.stop_marks

theorem minor_startTrigger {id : TriggerId} {result : Except Error Unit} {after : Session F H}
    (asked : session.startTrigger id = some (result, after)) : Minor session after := by
  rw [startTrigger] at asked
  split at asked
  · cases asked
    exact .refl session
  · next trigger found =>
      obtain ⟨⟨answer, started⟩, agreed, same⟩ := Option.map_eq_some_iff.1 asked
      cases same
      refine (session.minor_noteSwitch id trigger true).trans (.trigger id fun held here => ?_)
      rw [trigger?_noteSwitch, found] at here
      cases here
      exact Trigger.start_marks agreed

theorem minor_setFrequency (id : TriggerId) (hertz : Nat) :
    Minor session (session.setFrequency id hertz).2 := by
  rw [setFrequency]
  split
  · exact .refl session
  · next trigger found =>
      refine .trigger id fun held here => ?_
      cases found.symm.trans here
      exact trigger.setFrequency_marks hertz

theorem minor_setup (id : DeviceId) (handler : H) : Minor session (session.setup id handler).2 := by
  rw [setup]
  split
  · exact .refl session
  split
  · exact .refl session
  · exact .device id fun _ _ => rfl

theorem minor_setTrigger (id : DeviceId) (trigger : TriggerId) :
    Minor session (session.setTrigger id trigger).2 := by
  rw [setTrigger]
  split
  · exact .refl session
  split
  · exact .refl session
  · exact .device id fun _ _ => rfl

theorem minor_disable (id : DeviceId) : Minor session (session.disable id).2 := by
  have off : Minor session
      (session.modifyDevice id fun device => { device with capturing := false }) :=
    .device id fun _ _ => rfl
  rw [disable]
  split
  · exact .refl session
  split
  · exact .refl session
  dsimp only
  split
  · exact off
  next trigger own =>
  have stopped := off.trans (minor_stopTrigger _ trigger)
  split
  · next refused => exact refused ▸ stopped
  · next agreed =>
      rw [agreed] at stopped
      exact stopped.trans (.trigger trigger fun _ _ => rfl)

theorem minor_cleanup (id : DeviceId) : Minor session (session.cleanup id) := by
  have stopped := session.minor_disable id
  rw [cleanup]
  split
  · exact .refl session
  · refine Minor.trans ?_ (.device id fun _ _ => rfl)
    split
    · exact stopped
    · exact stopped.trans (minor_report _ _)

theorem minor_enable [Provider F H] {id : DeviceId} {mask : ScanMask} {result : Except Error Unit}
    {after : Session F H} (done : session.enable id mask = some (result, after)) :
    Minor session after := by
  have noted : Minor session (session.note (.program id mask)) := .journal fun _ => rfl
  rw [enable] at done
  split at done
  · cases done
    exact .refl session
  split at done
  · cases done
    exact .refl session
  split at done
  · cases done
    exact .refl session
  split at done
  · cases done
    exact .refl session
  · cases done
    exact .refl session
  next trigger layout given made =>
  split at done
  · cases done
    exact noted.trans (.device id fun _ _ => rfl)
  next provider agrees =>
  obtain ⟨⟨answer, asked⟩, started, finished⟩ := Option.map_eq_some_iff.1 done
  have begun : Minor session ((session.note (.program id mask)).modifyDevice id fun device =>
      { device with provider, buffer := device.buffer.configure layout, mask, capturing := true }) :=
    noted.trans (.device id fun _ _ => rfl)
  have attached := begun.trans (.trigger trigger fun pacer _ =>
    (rfl : (pacer.attach id).marks = pacer.marks))
  have counted := attached.trans (minor_startTrigger _ started)
  cases answer with
  | error error =>
      cases finished
      have detached := counted.trans (.trigger trigger fun pacer _ =>
        (rfl : pacer.detach.marks = pacer.marks))
      exact detached.trans (.device id fun _ _ => rfl)
  | ok _ =>
      cases finished
      exact counted.trans (minor_report _ _)

theorem minor_read [Provider F H] {id : DeviceId} {position : Nat} {asked : Attribute}
    {result : Except Error Value} {after : Session F H}
    (answered : session.read id position asked = some (result, after)) : Minor session after := by
  rw [Session.read] at answered
  split at answered
  · cases answered
    exact .refl session
  split at answered
  · cases answered
    exact .refl session
  next device channel _ _ =>
  obtain ⟨⟨answer, provider⟩, _, same⟩ := Option.map_eq_some_iff.1 answered
  cases same
  have noted : Minor session (session.note (.read id channel asked)) := .journal fun _ => rfl
  exact noted.trans (.device id fun _ _ => rfl)

theorem minor_push (id : DeviceId) (samples : List UInt16) (time : Int64) :
    Minor session (session.push id samples time) := by
  rw [Session.push]
  split
  · exact .refl session
  · next device there =>
      refine Minor.trans (.device id fun held here => ?_) (minor_report _ _)
      cases there.symm.trans here
      rw [Device.push]
      split <;> rfl

theorem minor_readScan (id : DeviceId) : Minor session (session.readScan id).2 := by
  rw [readScan]
  split
  · exact .refl session
  · exact .device id fun _ _ => rfl

theorem minor_readBytes (id : DeviceId) (size : Nat) : Minor session (session.readBytes id size).2 := by
  rw [readBytes]
  split
  · exact .refl session
  · exact .device id fun _ _ => rfl

end Functions

/-- **A command that is carried out in passing changes no more than minor things.** -/
theorem perform_minor [Provider F H] {session after : Session F H} {command : Command F H}
    (inPassing : command.inPassing = true) (performed : session.perform command = some after) :
    Minor session after := by
  cases command with
  | setFrequency trigger hertz =>
      cases performed
      exact session.minor_setFrequency trigger hertz
  | hold device | release device | reconsider device provider =>
      cases performed
      exact .device device fun _ _ => rfl
  | rehook trigger onStart onStop =>
      cases performed
      exact .trigger trigger fun pacer _ => pacer.rehook_marks onStart onStop
  | setup device handler =>
      cases performed
      exact session.minor_setup device handler
  | cleanup device =>
      cases performed
      exact session.minor_cleanup device
  | assign device trigger =>
      cases performed
      split
      · exact session.minor_setTrigger device trigger
      · exact .refl session
  | pin device trigger =>
      cases performed
      split
      · exact .device device fun _ _ => rfl
      · exact .refl session
  | enable device mask =>
      obtain ⟨⟨result, later⟩, done, same⟩ := Option.map_eq_some_iff.1 performed
      cases same
      exact session.minor_enable done
  | disable device =>
      cases performed
      exact session.minor_disable device
  | read device position asked =>
      obtain ⟨⟨result, later⟩, answered, same⟩ := Option.map_eq_some_iff.1 performed
      cases same
      exact session.minor_read answered
  | push device samples time =>
      cases performed
      exact session.minor_push device samples time
  | readScan device =>
      cases performed
      exact session.minor_readScan device
  | readBytes device size =>
      cases performed
      exact session.minor_readBytes device size
  | _ => cases inPassing

/-! ## Nothing of what edges bring about -/

/-- No trigger has counted anything, though there may be new ones, which start from nothing, and no
handler has been given an edge. -/
structure Edgeless (before after : Session F H) : Prop where
  counters : ∀ id, after.counters? id = before.counters? id ∨
    before.counters? id = none ∧ after.counters? id = some (false, 0, 0)
  handled : ∀ id, after.handled id = before.handled id

namespace Edgeless

theorem refl (session : Session F H) : Edgeless session session :=
  ⟨fun _ => .inl rfl, fun _ => rfl⟩

theorem trans {first second third : Session F H} (left : Edgeless first second)
    (right : Edgeless second third) : Edgeless first third where
  counters id := by
    rcases right.counters id with same | ⟨absent, fresh⟩
    · rw [same]
      exact left.counters id
    · rcases left.counters id with same | ⟨_, there⟩
      · exact .inr ⟨same.symm.trans absent, fresh⟩
      · cases absent.symm.trans there
  handled id := (right.handled id).trans (left.handled id)

/-- A change beside the triggers and the journal. -/
theorem beside {before after : Session F H} (triggers : after.triggers = before.triggers)
    (journal : after.journal = before.journal) : Edgeless before after := by
  refine ⟨fun id => .inl ?_, fun id => ?_⟩
  · rw [counters?, counters?, trigger?, trigger?, triggers]
  · rw [Session.handled, Session.handled, journal]

end Edgeless

/-- Minor changes do nothing of what edges do. -/
theorem Minor.edgeless {before after : Session F H} (minor : Minor before after) :
    Edgeless before after := by
  induction minor with
  | refl session => exact .refl session
  | device id number => exact .beside rfl rfl
  | @trigger session id change marks =>
      refine ⟨fun other => .inl ?_, fun _ => rfl⟩
      rw [counters?, trigger?_modifyTrigger_eq, counters?]
      split
      · next here =>
          rw [Option.map_map, here]
          exact Option.map_congr fun trigger there => congrArg Prod.snd (marks trigger there)
      · rfl
  | journal handlings => exact ⟨fun _ => .inl rfl, handlings⟩
  | trans _ _ left right => exact left.trans right

section Functions

variable (session : Session F H)

theorem edgeless_addTrigger (name : String) (source : Source) :
    Edgeless session (session.addTrigger name source).2 := by
  refine ⟨fun id => ?_, fun _ => rfl⟩
  rw [counters?, trigger?_addTrigger, counters?]
  split
  · next last =>
      have absent : session.trigger? id = none := List.getElem?_eq_none (Nat.le_of_eq last.symm)
      exact .inr ⟨by rw [absent, Option.map_none], rfl⟩
  · exact .inl rfl

theorem edgeless_register (id : DeviceId) : Edgeless session (session.register id).2 := by
  rw [register]
  split
  · exact .refl session
  · split
    · exact .refl session
    · refine Edgeless.trans ?_ (minor_report _ _).edgeless
      exact .beside rfl rfl

theorem edgeless_unregister (id : DeviceId) : Edgeless session (session.unregister id).2 := by
  rw [unregister]
  split
  · exact .refl session
  · have unlisted : Edgeless session { session with listed := session.listed.erase id } :=
      .beside rfl rfl
    have stopped := unlisted.trans (minor_disable _ id).edgeless
    split
    · next refused => exact refused ▸ stopped
    · next agreed =>
        rw [agreed] at stopped
        exact stopped.trans (.beside rfl rfl)

theorem edgeless_createSoftware (kind name : String) :
    Edgeless session (session.createSoftware kind name).2 := by
  rw [createSoftware]
  split
  · exact .refl session
  · split
    · exact .refl session
    · refine Edgeless.trans ?_ (minor_report _ _).edgeless
      refine (session.edgeless_addTrigger name (.timed {})).trans ?_
      exact .beside rfl rfl

theorem edgeless_destroySoftware (id : TriggerId) :
    Edgeless session (session.destroySoftware id).2 := by
  rw [destroySoftware]
  split
  · exact .refl session
  · have gone : Edgeless session { session with software := session.software.erase id } :=
      .beside rfl rfl
    have stopped : Minor { session with software := session.software.erase id }
        ({ session with software := session.software.erase id }.modifyTrigger id
          fun trigger => trigger.stop.2.detach) :=
      .trigger id fun trigger _ => trigger.stop_marks
    exact gone.trans stopped.edgeless

end Functions

/-! ## Commands -/

/-- Whether the timer of a trigger is running. -/
def ticks (session : Session F H) (id : TriggerId) : Bool :=
  (session.trigger? id).any fun trigger =>
    match trigger.source with
    | .timed timer => timer.running
    | _ => false

/-- The edge that a command raises, as its trigger and its time. -/
def raises? (session : Session F H) : Command F H → Option (TriggerId × Int64)
  | .poll id time => some (id, time)
  | .tick id time => if session.ticks id then some (id, time) else none
  | _ => none

variable [Provider F H] {session after : Session F H} {command : Command F H}

theorem tick_eq (session : Session F H) (id : TriggerId) (time : Int64) :
    session.tick id time = if session.ticks id then session.poll id time else some session := by
  rw [tick, ticks]
  cases session.trigger? id with
  | none => rfl
  | some trigger =>
      rw [Option.map_some, Option.any_some]
      cases trigger.source <;> rfl

/-- A command that raises an edge is one poll of its trigger. -/
theorem perform_raises {id : TriggerId} {time : Int64}
    (raised : session.raises? command = some (id, time)) :
    session.perform command = session.poll id time := by
  cases command with
  | poll other moment =>
      cases raised
      rfl
  | tick other moment =>
      rw [raises?] at raised
      split at raised
      · next running =>
          cases raised
          exact (session.tick_eq id time).trans (if_pos running)
      · cases raised
  | _ => cases raised

/-- **Only raising an edge does what edges do**, as long as nobody reports from outside. -/
theorem perform_edgeless (quiet : session.raises? command = none)
    (own : ∀ id, command ≠ .notifyDone id) (performed : session.perform command = some after) :
    Edgeless session after := by
  cases command with
  | makeDevice name channels provider =>
      cases performed
      exact .beside rfl rfl
  | makeTrigger name source =>
      cases performed
      exact session.edgeless_addTrigger name source
  | createSoftware kind name =>
      cases performed
      exact session.edgeless_createSoftware kind name
  | destroySoftware trigger =>
      cases performed
      exact session.edgeless_destroySoftware trigger
  | register device =>
      cases performed
      exact session.edgeless_register device
  | unregister device =>
      cases performed
      exact session.edgeless_unregister device
  | poll id time => cases quiet
  | tick id time =>
      rw [raises?] at quiet
      split at quiet
      · cases quiet
      · next still =>
          cases ((session.tick_eq id time).trans (if_neg still)).symm.trans performed
          exact .refl session
  | notifyDone id => exact absurd rfl (own id)
  | _ => exact (perform_minor rfl performed).edgeless

/-- **Only raising an edge runs a handler**, whoever reports. -/
theorem perform_unhandled (quiet : session.raises? command = none)
    (performed : session.perform command = some after) (id : DeviceId) :
    after.handled id = session.handled id := by
  by_cases outside : ∃ trigger, command = .notifyDone trigger
  · obtain ⟨trigger, rfl⟩ := outside
    cases performed
    rfl
  · have own : ∀ trigger, command ≠ .notifyDone trigger :=
      fun trigger same => outside ⟨trigger, same⟩
    exact (perform_edgeless quiet own performed).handled id

end Session

end Acquisition
