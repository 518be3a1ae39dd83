/-
# Acquisition.Proofs.SetUp — a device that is captured is fully set up

While a capture is on, its device has a handler and a trigger, its mask names channels of the
device, the provider last agreed to just that mask, and the buffer has the layout of it
(`capturing_set_up`). All of this is put in place when enabling the capture succeeds
(`enable_ok`), which is the only way for a capture to get on. From then on nothing that can be
asked of a session takes any of it away without switching the capture off (`perform_sustains`):
triggers may be swapped and refuse, providers change their minds, edges and scans come and go.
-/
import Acquisition.Proofs.Channels
import Acquisition.Proofs.Refusals
import Acquisition.Proofs.Windows
import Acquisition.Rehearsal

namespace Acquisition

set_option autoImplicit false

/-! ## What leaves the layout of a buffer -/

namespace Buffer

variable {buffer : Buffer}

theorem push_layout (buffer : Buffer) (samples : List UInt16) (time : Int64) :
    (buffer.push samples time).2.layout = buffer.layout := by
  rw [push]
  split <;> rfl

theorem popRecord?_layout {record : List UInt8} {after : Buffer}
    (taken : buffer.popRecord? = some (record, after)) : after.layout = buffer.layout := by
  rw [popRecord?] at taken
  split at taken
  · cases taken
  · cases taken
    rfl

theorem popScan?_layout {scan : Scan} {after : Buffer}
    (taken : buffer.popScan? = some (scan, after)) : after.layout = buffer.layout := by
  rw [popScan?] at taken
  split at taken
  · cases taken
  · next record rest popped =>
      obtain ⟨read, _, same⟩ := Option.map_eq_some_iff.1 taken
      cases same
      exact popRecord?_layout popped

theorem popRecords_layout (count : Nat) (buffer : Buffer) :
    (buffer.popRecords count).2.layout = buffer.layout := by
  induction count generalizing buffer with
  | zero => rfl
  | succ count ih =>
      rw [popRecords]
      split
      · rfl
      · next record rest popped => exact (ih rest).trans (popRecord?_layout popped)

end Buffer

/-! ## What keeps a capture set up -/

/-- The mask in an entry that says that the provider of a device was asked to make ready for it. -/
def Entry.asked? (id : DeviceId) : Entry → Option ScanMask
  | .event (.program device mask) => if device = id then some mask else none
  | _ => none

/-- The masks a journal says that the provider of a device was asked to make ready for, newest
first. -/
def askedFor (id : DeviceId) (journal : List Entry) : List ScanMask :=
  journal.filterMap (Entry.asked? id)

theorem askedFor_lines (id : DeviceId) (lines : List LogLine) (journal : List Entry) :
    askedFor id ((lines.map Entry.line).reverse ++ journal) = askedFor id journal := by
  have none : askedFor id (lines.map Entry.line).reverse = [] := by
    rw [askedFor, List.filterMap_eq_nil_iff]
    intro entry member
    obtain ⟨line, _, rfl⟩ := List.mem_map.1 (List.mem_reverse.1 member)
    rfl
  rw [askedFor, List.filterMap_append]
  exact congrArg (· ++ askedFor id journal) none

/-- A device that is as set up as it was before, as long as its capture is on. -/
structure Device.Sustains {F H : Type} (before after : Device F H) : Prop where
  capturing : after.capturing = true → before.capturing = true
  channels : after.channels = before.channels
  mask : after.mask = before.mask
  layout : after.buffer.layout = before.buffer.layout
  handler : before.handler.isSome = true → after.handler.isSome = true
  trigger : before.trigger.isSome = true → after.trigger.isSome = true

namespace Device.Sustains

variable {F H : Type}

theorem refl (device : Device F H) : device.Sustains device :=
  ⟨id, rfl, rfl, rfl, id, id⟩

theorem trans {first second third : Device F H} (left : first.Sustains second)
    (right : second.Sustains third) : first.Sustains third :=
  ⟨left.capturing ∘ right.capturing, right.channels.trans left.channels,
    right.mask.trans left.mask, right.layout.trans left.layout, right.handler ∘ left.handler,
    right.trigger ∘ left.trigger⟩

/-- Anything else about a device may change. -/
theorem ofEq {before after : Device F H} (capturing : after.capturing = before.capturing)
    (channels : after.channels = before.channels) (mask : after.mask = before.mask)
    (layout : after.buffer.layout = before.buffer.layout) (handler : after.handler = before.handler)
    (trigger : after.trigger = before.trigger) : before.Sustains after :=
  ⟨fun on => capturing ▸ on, channels, mask, layout, fun there => handler ▸ there,
    fun there => trigger ▸ there⟩

theorem push (device : Device F H) (samples : List UInt16) (time : Int64) :
    device.Sustains (device.push samples time).1 := by
  have layout := device.buffer.push_layout samples time
  rw [Device.push]
  split
  · next buffer pushed => exact ofEq rfl rfl rfl (by rwa [pushed] at layout) rfl rfl
  · next buffer pushed => exact ofEq rfl rfl rfl (by rwa [pushed] at layout) rfl rfl

end Device.Sustains

/-! ### Edges -/

namespace Encounter

variable {F H : Type}

/-- The consumer is as set up as before, and no provider was asked to make ready. -/
structure Sustains (before after : Encounter F H) : Prop where
  device : before.device.Sustains after.device
  asked : ∀ id, askedFor id after.noted = askedFor id before.noted

namespace Sustains

theorem refl (encounter : Encounter F H) : Sustains encounter encounter :=
  ⟨.refl _, fun _ => rfl⟩

theorem trans {first second third : Encounter F H} (left : Sustains first second)
    (right : Sustains second third) : Sustains first third :=
  ⟨left.device.trans right.device, fun id => (right.asked id).trans (left.asked id)⟩

theorem push (encounter : Encounter F H) (record : Option (List UInt16 × Int64)) :
    Sustains encounter (encounter.push record) := by
  cases record with
  | none => exact .refl encounter
  | some entry =>
      obtain ⟨samples, time⟩ := entry
      exact ⟨.push encounter.device samples time, fun id => askedFor_lines id _ encounter.noted⟩

theorem lasting (start : Encounter F H) : Lasting (Sustains start) where
  miss encounter here := here.trans ⟨.refl _, fun id => askedFor_lines id _ encounter.noted⟩
  finish _ here := here.trans ⟨.refl _, fun _ => rfl⟩
  pass _ here := here.trans ⟨.refl _, fun _ => rfl⟩
  -- The handler stays in place, whatever it remembers then.
  enter _ _ turn _ _ lines here := by
    refine (here.trans ?_).trans (push _ turn.record)
    exact ⟨⟨id, rfl, rfl, rfl, fun _ => rfl, id⟩, fun id => askedFor_lines id lines _⟩

/-- **So is it after any number of edges**, also those that the handler raises itself. -/
theorem play [Provider F H] {time : Int64} {acts : List Act} {encounter after : Encounter F H}
    (played : encounter.play time acts = some after) : Sustains encounter after :=
  (lasting encounter).play played (.refl encounter)

end Sustains

end Encounter

/-! ### Sessions -/

namespace Session

variable {F H : Type} {id : DeviceId}

/-- The masks that the provider of a device was asked to make ready for, newest first. -/
def asked (session : Session F H) (id : DeviceId) : List ScanMask :=
  askedFor id session.journal

/-- If the capture of a device is on, the device is as set up as it was before, and its provider
was not asked to make ready again. -/
def Sustains (id : DeviceId) (before after : Session F H) : Prop :=
  ∀ device, after.device? id = some device → device.capturing = true →
    (∃ earlier, before.device? id = some earlier ∧ earlier.Sustains device) ∧
      after.asked id = before.asked id

namespace Sustains

theorem refl (session : Session F H) : Sustains id session session :=
  fun device found _ => ⟨⟨device, found, .refl device⟩, rfl⟩

theorem trans {first second third : Session F H} (left : Sustains id first second)
    (right : Sustains id second third) : Sustains id first third := by
  intro device found on
  obtain ⟨⟨middle, there, kept⟩, same⟩ := right device found on
  obtain ⟨⟨earlier, here, more⟩, before⟩ := left middle there (kept.capturing on)
  exact ⟨⟨earlier, here, more.trans kept⟩, same.trans before⟩

/-- A change beside the devices and what providers were asked. -/
theorem beside {before after : Session F H} (devices : after.devices = before.devices)
    (asked : after.asked id = before.asked id) : Sustains id before after := by
  intro device found _
  rw [device?, devices] at found
  exact ⟨⟨device, found, .refl device⟩, asked⟩

/-- A capture that was off is still off. -/
theorem capturing {before after : Session F H} (kept : Sustains id before after)
    (off : before.capturing id = false) : after.capturing id = false := by
  rw [← Bool.not_eq_true, Session.capturing, Option.any_eq_true]
  rintro ⟨device, found, on⟩
  obtain ⟨⟨earlier, there, more⟩, _⟩ := kept device found on
  rw [Session.capturing, there, Option.any_some, more.capturing on] at off
  cases off

/-- A capture that is off needs nothing. -/
theorem off {before after : Session F H} (off : after.capturing id = false) :
    Sustains id before after := by
  intro device found on
  rw [Session.capturing, found, Option.any_some, on] at off
  cases off

end Sustains

section Functions

variable (session : Session F H)

/-- A change of one device keeps all set up if it keeps that one. -/
theorem sustains_modifyDevice (other : DeviceId) {change : Device F H → Device F H}
    (kept : ∀ device, session.device? other = some device → device.Sustains (change device)) :
    Sustains id session (session.modifyDevice other change) := by
  intro device found on
  rw [device?_modifyDevice_eq] at found
  split at found
  · next same =>
      obtain ⟨earlier, there, rfl⟩ := Option.map_eq_some_iff.1 found
      exact ⟨⟨earlier, there, kept earlier (same ▸ there)⟩, rfl⟩
  · exact ⟨⟨device, found, .refl device⟩, rfl⟩

/-- Another device does not matter. -/
theorem sustains_modifyOther {other : DeviceId} (apart : id ≠ other)
    (change : Device F H → Device F H) : Sustains id session (session.modifyDevice other change) := by
  intro device found on
  rw [device?_modifyDevice_other _ apart] at found
  exact ⟨⟨device, found, .refl device⟩, rfl⟩

theorem sustains_modifyTrigger (trigger : TriggerId) (change : Trigger → Trigger) :
    Sustains id session (session.modifyTrigger trigger change) :=
  .beside rfl rfl

theorem sustains_report (lines : List LogLine) : Sustains id session (session.report lines) :=
  .beside rfl (askedFor_lines id lines session.journal)

theorem sustains_addDevice (name : String) (channels : List Channel) (provider : F) :
    Sustains id session (session.addDevice name channels provider).2 := by
  intro device found on
  rw [device?_addDevice] at found
  split at found
  · cases found
    cases on
  · exact ⟨⟨device, found, .refl device⟩, rfl⟩

theorem sustains_noteSwitch (trigger : TriggerId) (state : Trigger) (on : Bool) :
    Sustains id session (session.noteSwitch trigger state on) := by
  rw [noteSwitch]
  split
  · exact .beside rfl rfl
  · exact .refl session

theorem sustains_startTrigger {trigger : TriggerId} {result : Except Error Unit}
    {after : Session F H} (asked : session.startTrigger trigger = some (result, after)) :
    Sustains id session after := by
  rw [startTrigger] at asked
  split at asked
  · cases asked
    exact .refl session
  · obtain ⟨_, _, same⟩ := Option.map_eq_some_iff.1 asked
    cases same
    exact (session.sustains_noteSwitch trigger _ true).trans (sustains_modifyTrigger _ _ _)

theorem sustains_stopTrigger (trigger : TriggerId) :
    Sustains id session (session.stopTrigger trigger).2 := by
  rw [stopTrigger]
  split
  · exact .refl session
  · exact (session.sustains_noteSwitch trigger _ false).trans (sustains_modifyTrigger _ _ _)

theorem sustains_rest (other : DeviceId) :
    Sustains id session
      (session.modifyDevice other fun device => { device with capturing := false }) :=
  session.sustains_modifyDevice other fun _ _ =>
    ⟨nofun, rfl, rfl, rfl, fun here => here, fun here => here⟩

/-- A capture that is stopped was off already, or is marked as off before anything else is
done. -/
theorem disable_cases (id : DeviceId) :
    session.capturing id = false ∧ (session.disable id).2 = session ∨
      ∀ other, Sustains other
        (session.modifyDevice id fun device => { device with capturing := false })
        (session.disable id).2 := by
  rw [disable]
  split
  · next absent => exact .inl ⟨by rw [Session.capturing, absent]; rfl, rfl⟩
  next device found =>
  split
  · next idle =>
      refine .inl ⟨?_, rfl⟩
      rw [Session.capturing, found, Option.any_some]
      simpa using idle
  refine .inr fun other => ?_
  dsimp only
  split
  · exact .refl _
  · next trigger _ =>
      have stopped : Sustains other _ _ := sustains_stopTrigger
        (session.modifyDevice id fun device => { device with capturing := false }) trigger
      split
      · next refused => exact refused ▸ stopped
      · next agreed =>
          rw [agreed] at stopped
          exact stopped.trans (sustains_modifyTrigger _ _ _)

theorem sustains_disable (other : DeviceId) : Sustains id session (session.disable other).2 := by
  rcases session.disable_cases other with ⟨-, same⟩ | stopped
  · exact same.symm ▸ .refl session
  · exact (session.sustains_rest other).trans (stopped id)

theorem capturing_disable (id : DeviceId) : (session.disable id).2.capturing id = false := by
  rcases session.disable_cases id with ⟨idle, same⟩ | stopped
  · rwa [same]
  · apply (stopped id).capturing
    rw [capturing_modifyDevice, if_pos rfl]
    cases session.device? id <;> rfl

/-- Without its handler a device is not captured. -/
theorem sustains_cleanup (other : DeviceId) : Sustains id session (session.cleanup other) := by
  rw [cleanup]
  split
  · exact .refl session
  next device found =>
  have idle := session.capturing_disable other
  have stopped : Sustains id session (session.disable other).2 := session.sustains_disable other
  have told (lines : List LogLine) : Sustains id session ((session.disable other).2.report lines) :=
    stopped.trans (sustains_report _ lines)
  have bare {quiet : Session F H} (kept : Sustains id session quiet)
      (off : quiet.capturing other = false) : Sustains id session
        (quiet.modifyDevice other fun device => { device with handler := none }) := by
    by_cases same : id = other
    · subst same
      apply Sustains.off
      rw [capturing_modifyDevice, if_pos rfl]
      exact off
    · exact kept.trans (quiet.sustains_modifyOther same _)
  dsimp only
  split
  · exact bare stopped idle
  · exact bare (told _) idle

theorem sustains_register (other : DeviceId) :
    Sustains id session (session.register other).2 := by
  rw [register]
  split
  · exact .refl session
  split
  · exact .refl session
  have numbered : Sustains id session (session.modifyDevice other fun device =>
      { device with number := some session.nextNumber }) :=
    session.sustains_modifyDevice other fun _ _ => .ofEq rfl rfl rfl rfl rfl rfl
  refine Sustains.trans ?_ (sustains_report _ _)
  exact numbered.trans (.beside rfl rfl)

theorem sustains_unregister (other : DeviceId) :
    Sustains id session (session.unregister other).2 := by
  rw [unregister]
  split
  · exact .refl session
  have unlisted : Sustains id session { session with listed := session.listed.erase other } :=
    .beside rfl rfl
  have stopped := unlisted.trans (sustains_disable _ other)
  split
  · next refused => exact refused ▸ stopped
  · next agreed =>
      rw [agreed] at stopped
      exact stopped.trans (sustains_modifyDevice _ other fun _ _ => .ofEq rfl rfl rfl rfl rfl rfl)

theorem sustains_createSoftware (kind name : String) :
    Sustains id session (session.createSoftware kind name).2 := by
  rw [createSoftware]
  split
  · exact .refl session
  split
  · exact .refl session
  refine Sustains.trans ?_ (sustains_report _ _)
  exact .beside rfl rfl

theorem sustains_destroySoftware (trigger : TriggerId) :
    Sustains id session (session.destroySoftware trigger).2 := by
  rw [destroySoftware]
  split
  · exact .refl session
  · exact .beside rfl rfl

theorem sustains_setFrequency (trigger : TriggerId) (hertz : Nat) :
    Sustains id session (session.setFrequency trigger hertz).2 := by
  rw [setFrequency]
  split
  · exact .refl session
  · exact session.sustains_modifyTrigger trigger _

theorem sustains_pinTrigger (other : DeviceId) (trigger : TriggerId) :
    Sustains id session (session.pinTrigger other trigger) :=
  session.sustains_modifyDevice other fun _ _ =>
    ⟨fun on => on, rfl, rfl, rfl, fun there => there, fun _ => rfl⟩

theorem sustains_setTrigger (other : DeviceId) (trigger : TriggerId) :
    Sustains id session (session.setTrigger other trigger).2 := by
  rw [setTrigger]
  split
  · exact .refl session
  split
  · exact .refl session
  · exact session.sustains_modifyDevice other fun _ _ =>
      ⟨fun on => on, rfl, rfl, rfl, fun there => there, fun _ => rfl⟩

theorem sustains_setup (other : DeviceId) (handler : H) :
    Sustains id session (session.setup other handler).2 := by
  rw [setup]
  split
  · exact .refl session
  split
  · exact .refl session
  · exact session.sustains_modifyDevice other fun _ _ =>
      ⟨fun on => on, rfl, rfl, rfl, fun _ => rfl, fun there => there⟩

theorem sustains_push (other : DeviceId) (samples : List UInt16) (time : Int64) :
    Sustains id session (session.push other samples time) := by
  rw [Session.push]
  split
  · exact .refl session
  · next device found =>
      refine Sustains.trans ?_ (sustains_report _ _)
      apply session.sustains_modifyDevice other
      intro same there
      cases found.symm.trans there
      exact .push device samples time

theorem sustains_readScan (other : DeviceId) :
    Sustains id session (session.readScan other).2 := by
  rw [readScan]
  split
  · exact .refl session
  · next scan buffer taken =>
      apply session.sustains_modifyDevice other
      intro device there
      rw [there, Option.bind_some] at taken
      exact .ofEq rfl rfl rfl (Buffer.popScan?_layout taken) rfl rfl

theorem sustains_readBytes (other : DeviceId) (size : Nat) :
    Sustains id session (session.readBytes other size).2 := by
  rw [readBytes]
  split
  · exact .refl session
  · next device found =>
      apply session.sustains_modifyDevice other
      intro same there
      cases found.symm.trans there
      exact .ofEq rfl rfl rfl (Buffer.popRecords_layout _ device.buffer) rfl rfl

theorem sustains_read [Provider F H] {other : DeviceId} {position : Nat} {asked : Attribute}
    {result : Except Error Value} {after : Session F H}
    (answered : session.read other position asked = some (result, after)) :
    Sustains id session after := by
  rw [Session.read] at answered
  split at answered
  · cases answered
    exact .refl session
  split at answered
  · cases answered
    exact .refl session
  obtain ⟨⟨answer, provider⟩, _, same⟩ := Option.map_eq_some_iff.1 answered
  cases same
  refine Sustains.trans (.beside rfl rfl) (sustains_modifyDevice _ other fun _ _ => ?_)
  exact .ofEq rfl rfl rfl rfl rfl rfl

theorem sustains_poll [Provider F H] {trigger : TriggerId} {time : Int64} {after : Session F H}
    (polled : session.poll trigger time = some after) : Sustains id session after := by
  rw [poll] at polled
  split at polled
  · next state consumer found reached =>
      split at polled
      · cases polled
        exact .refl session
      · next device there =>
          obtain ⟨met, played, same⟩ := Option.map_eq_some_iff.1 polled
          obtain ⟨kept, asked⟩ := Encounter.Sustains.play played
          cases same
          have answered : Sustains id session (session.modifyTrigger trigger fun _ => met.trigger) :=
            session.sustains_modifyTrigger trigger _
          have pushed : Sustains id session ((session.modifyTrigger trigger
              fun _ => met.trigger).modifyDevice consumer fun _ => met.device) := by
            refine answered.trans (sustains_modifyDevice _ consumer ?_)
            intro same here
            cases there.symm.trans here
            exact kept
          refine pushed.trans (.beside rfl ?_)
          show askedFor id (met.noted ++ session.journal) = askedFor id session.journal
          rw [askedFor, List.filterMap_append]
          exact congrArg (· ++ askedFor id session.journal) (asked id)
  · cases polled
    exact .refl session

end Functions

/-! ### Enabling -/

theorem asked_note (session : Session F H) (id other : DeviceId) (mask : ScanMask) :
    (session.note (.program other mask)).asked id =
      if other = id then mask :: session.asked id else session.asked id := by
  by_cases same : other = id
  · rw [if_pos same]
    exact List.filterMap_cons_some (if_pos same)
  · rw [if_neg same]
    exact List.filterMap_cons_none (if_neg same)

section Enabling

variable [Provider F H] {session after : Session F H} {mask : ScanMask}

/-- **What a capture that starts was made of.** It was off, and its device had a handler, a trigger,
and a layout for the mask; its provider was asked to make ready for the mask and agreed; and it was
marked as on, for that mask and layout, before the trigger agreed. -/
theorem enable_ok (started : session.enable id mask = some (.ok (), after)) :
    ∃ device trigger layout provider lines asked, session.device? id = some device ∧
      device.capturing = false ∧ device.handler.isSome = true ∧ device.trigger = some trigger ∧
      RecordLayout.ofMask? device.channels mask = some layout ∧
      Provider.program mask device.provider = (.ok (), provider) ∧
      ((session.note (.program id mask)).poised id trigger
        fun device => device.begun provider layout mask).startTrigger trigger =
          some (.ok (), asked) ∧
      after = asked.report lines := by
  rw [enable] at started
  split at started
  · cases started
  next device found =>
  split at started
  · cases started
  next idle =>
  split at started
  · cases started
  next ready =>
  split at started
  · cases started
  · cases started
  next trigger layout given made =>
  split at started
  · cases started
  next provider agrees =>
  obtain ⟨⟨answer, asked⟩, starting, finished⟩ := Option.map_eq_some_iff.1 started
  cases answer with
  | error reason => cases finished
  | ok _ =>
      cases finished
      exact ⟨device, trigger, layout, provider, _, asked, found, by simpa using idle,
        Option.isSome_iff_ne_none.2 (by simpa using ready), given, made, agrees, starting, rfl⟩

/-- Enabling a capture keeps all others set up, and this one as well if it is refused. -/
theorem sustains_enable {other : DeviceId} {result : Except Error Unit}
    (done : session.enable other mask = some (result, after))
    (apart : result = .ok () → id ≠ other) : Sustains id session after := by
  by_cases same : id = other
  · subst same
    cases on : session.capturing id with
    | true =>
        obtain ⟨device, found, capturing⟩ := (Option.any_eq_true _ _).1 on
        have busy : session.enable id mask = some (.error .busy, session) := by
          simp only [enable, found, capturing, if_true]
        cases busy.symm.trans done
        exact .refl session
    | false =>
        apply Sustains.off
        rw [← Bool.not_eq_true, enable_capturing session done id, on]
        simp [show result ≠ .ok () from fun succeeded => apart succeeded rfl]
  have noted : Sustains id session (session.note (.program other mask)) :=
    .beside rfl ((session.asked_note id other mask).trans (if_neg (Ne.symm same)))
  have begun (trigger : TriggerId) (change : Device F H → Device F H) : Sustains id session
      ((session.note (.program other mask)).poised other trigger change) :=
    (noted.trans (sustains_modifyOther _ same change)).trans (sustains_modifyTrigger _ _ _)
  cases result with
  | ok _ =>
      obtain ⟨_, trigger, _, _, lines, asked, _, _, _, _, _, _, starting, rfl⟩ := enable_ok done
      exact ((begun trigger _).trans (sustains_startTrigger _ starting)).trans (sustains_report _ _)
  | error reason =>
      rcases enable_error done with ⟨_, rfl | ⟨provider, rfl⟩⟩ | reached
      · exact .refl after
      · exact noted.trans (sustains_modifyOther _ same _)
      · obtain ⟨_, trigger, _, _, asked, _, _, _, starting, rfl⟩ := reached
        have refused := (begun trigger _).trans (sustains_startTrigger _ starting)
        exact (refused.trans (sustains_modifyTrigger _ _ _)).trans (sustains_modifyOther _ same _)

/-- **Every command keeps what is captured set up**, but for the one that turns the capture on. -/
theorem perform_sustains {command : Command F H} (performed : session.perform command = some after)
    (starts : ∀ mask, command = .enable id mask →
      session.enable id mask ≠ some (.ok (), after)) : Sustains id session after := by
  cases command with
  | makeDevice name channels provider =>
      cases performed
      exact session.sustains_addDevice name channels provider
  | createSoftware kind name =>
      cases performed
      exact session.sustains_createSoftware kind name
  | destroySoftware trigger =>
      cases performed
      exact session.sustains_destroySoftware trigger
  | setFrequency trigger hertz =>
      cases performed
      exact session.sustains_setFrequency trigger hertz
  | hold device | release device | reconsider device provider =>
      cases performed
      exact session.sustains_modifyDevice device fun _ _ => .ofEq rfl rfl rfl rfl rfl rfl
  | setup device handler =>
      cases performed
      exact session.sustains_setup device handler
  | cleanup device =>
      cases performed
      exact session.sustains_cleanup device
  | assign device trigger =>
      cases performed
      split
      · exact session.sustains_setTrigger device trigger
      · exact .refl session
  | pin device trigger =>
      cases performed
      split
      · exact session.sustains_pinTrigger device trigger
      · exact .refl session
  | enable device mask =>
      obtain ⟨⟨result, later⟩, done, same⟩ := Option.map_eq_some_iff.1 performed
      cases same
      apply sustains_enable done
      rintro rfl rfl
      exact starts mask rfl done
  | disable device =>
      cases performed
      exact session.sustains_disable device
  | register device =>
      cases performed
      exact session.sustains_register device
  | unregister device =>
      cases performed
      exact session.sustains_unregister device
  | read device position asked =>
      obtain ⟨⟨result, later⟩, answered, same⟩ := Option.map_eq_some_iff.1 performed
      cases same
      exact session.sustains_read answered
  | push device samples time =>
      cases performed
      exact session.sustains_push device samples time
  | readScan device =>
      cases performed
      exact session.sustains_readScan device
  | readBytes device size =>
      cases performed
      exact session.sustains_readBytes device size
  | poll trigger time => exact session.sustains_poll performed
  | tick trigger time =>
      rw [perform, tick_eq] at performed
      split at performed
      · exact session.sustains_poll performed
      · cases performed
        exact .refl session
  | makeTrigger | rehook | notifyDone =>
      cases performed
      exact .beside rfl rfl

end Enabling

/-! ## The last mask a provider agreed to -/

variable [Provider F H]

/-- In the step the provider of a device was asked to make ready for a mask, and agreed. -/
def Step.Agrees (step : Step F H) (id : DeviceId) (mask : ScanMask) : Prop :=
  (∃ device, step.before.device? id = some device ∧
    (Provider.program mask device.provider).1 = .ok ()) ∧
    step.after.asked id = mask :: step.before.asked id

/-- The provider of a device agreed to make ready for a mask, and was not asked again since. -/
def LastAgreed (id : DeviceId) (mask : ScanMask) (steps : List (Step F H)) : Prop :=
  ∃ earlier agreeing later, steps = earlier ++ agreeing :: later ∧ agreeing.Agrees id mask ∧
    ∀ step ∈ later, step.after.asked id = step.before.asked id

theorem lastAgreed_now {mask : ScanMask} {step : Step F H} (agrees : step.Agrees id mask)
    (steps : List (Step F H)) : LastAgreed id mask (steps ++ [step]) :=
  ⟨steps, step, [], rfl, agrees, List.forall_mem_nil _⟩

theorem LastAgreed.concat {mask : ScanMask} {steps : List (Step F H)} {step : Step F H}
    (agreed : LastAgreed id mask steps) (unasked : step.after.asked id = step.before.asked id) :
    LastAgreed id mask (steps ++ [step]) := by
  obtain ⟨earlier, agreeing, later, rfl, agrees, since⟩ := agreed
  refine ⟨earlier, agreeing, later ++ [step], by simp, agrees, fun other member => ?_⟩
  rcases List.mem_append.1 member with inside | last
  · exact since other inside
  · rw [List.mem_singleton.1 last]
    exact unasked

/-- A device that is set up for a capture of its mask, after the steps of a run. -/
structure SetUp (id : DeviceId) (past : List (Step F H)) (device : Device F H) : Prop where
  handler : device.handler.isSome = true
  trigger : device.trigger.isSome = true
  layout : RecordLayout.ofMask? device.channels device.mask = some device.buffer.layout
  agreed : LastAgreed id device.mask past

/-- A capture that starts is set up. -/
theorem setUp_enabled {session after : Session F H} {mask : ScanMask} {command : Command F H}
    (started : session.enable id mask = some (.ok (), after)) (past : List (Step F H))
    {device : Device F H} (found : after.device? id = some device) :
    SetUp id (past ++ [⟨session, command, after⟩]) device := by
  obtain ⟨before, trigger, layout, provider, lines, asked, there, -, handler, given, made, agrees,
    starting, rfl⟩ := enable_ok started
  let poised := (session.note (.program id mask)).poised id trigger
    fun device => device.begun provider layout mask
  have placed : poised.device? id = some (before.begun provider layout mask) := by
    show ((session.note (.program id mask)).modifyDevice id _).device? id = _
    rw [device?_modifyDevice, device?_note, there, Option.map_some]
  rw [device?_report, device?_startTrigger _ starting] at found
  cases placed.symm.trans found
  have same : asked.asked id = poised.asked id :=
    (sustains_startTrigger poised starting (before.begun provider layout mask)
      ((device?_startTrigger _ starting id).trans placed) rfl).2
  have grown : poised.asked id = mask :: session.asked id :=
    (session.asked_note id id mask).trans (if_pos rfl)
  have reported : (asked.report lines).asked id = asked.asked id :=
    askedFor_lines id lines asked.journal
  exact
    { handler := handler
      trigger := Option.isSome_iff_exists.2 ⟨trigger, given⟩
      layout := made
      agreed := lastAgreed_now ⟨⟨before, there, congrArg Prod.fst agrees⟩,
        (reported.trans same).trans grown⟩ past }

/-- A device that is as set up as before is set up if it was. -/
theorem SetUp.sustained {past : List (Step F H)} {step : Step F H} {before after : Device F H}
    (ready : SetUp id past before) (kept : before.Sustains after)
    (unasked : step.after.asked id = step.before.asked id) :
    SetUp id (past ++ [step]) after where
  handler := kept.handler ready.handler
  trigger := kept.trigger ready.trigger
  layout := by rw [kept.channels, kept.mask, kept.layout, ready.layout]
  agreed := by
    rw [kept.mask]
    exact ready.agreed.concat unasked

/-- **Whatever is captured is set up**, after every step of a run. -/
theorem setUp_step {past : List (Step F H)} {session after : Session F H} {command : Command F H}
    (performed : session.perform command = some after)
    (before : ∀ device, session.device? id = some device → device.capturing = true →
      SetUp id past device) :
    ∀ device, after.device? id = some device → device.capturing = true →
      SetUp id (past ++ [⟨session, command, after⟩]) device := by
  intro device found on
  by_cases starts : ∃ mask, command = .enable id mask ∧
      session.enable id mask = some (.ok (), after)
  · obtain ⟨mask, -, started⟩ := starts
    exact setUp_enabled started past found
  · have kept := perform_sustains performed fun mask same started => starts ⟨mask, same, started⟩
    obtain ⟨⟨earlier, there, more⟩, unasked⟩ := kept device found on
    exact (before earlier there (more.capturing on)).sustained more unasked

end Session

open Session

/-- **A device that is captured is fully set up.** Take any run of commands, in which devices with
any channels are made and used in any way, providers and hooks change their minds at any point, and
nobody reaches past the devices into their buffers. Whenever a capture is on, its device has a
handler and a trigger; every index of its mask has a channel; its provider was last asked to make
ready for just this mask, and agreed; and the records of its buffer have one sample for each index
that stands for a voltage, at least one, and the time just if an index stands for it. Until the
capture is off, another trigger and another capture are refused, and nothing changes. -/
theorem capturing_set_up {F H : Type} [Provider F H] {commands : List (Command F H)}
    {steps : List (Step F H)} {step : Step F H} (ran : steps ++ [step] <+: trace commands {})
    {id : DeviceId} {device : Device F H} (found : step.after.device? id = some device)
    (on : device.capturing = true) :
    (device.handler.isSome = true ∧
      ∃ trigger, device.trigger = some trigger ∧ (step.after.trigger? trigger).isSome = true) ∧
    (∀ index ∈ device.mask.toList, ∃ channel ∈ device.channels, channel.scanIndex = index) ∧
    LastAgreed id device.mask (steps ++ [step]) ∧
    (device.buffer.layout.samples = device.mask.toList.countP
        (fun index => kindAt? device.channels index = some .voltage) ∧
      0 < device.buffer.layout.samples ∧
      (device.buffer.layout.timestamp = true ↔
        ∃ index ∈ device.mask.toList, kindAt? device.channels index = some .timestamp)) ∧
    (∀ trigger, step.after.setTrigger id trigger = (.error .busy, step.after)) ∧
    ∀ mask, step.after.enable id mask = some (.error .busy, step.after) := by
  let good (past : List (Step F H)) (session : Session F H) : Prop :=
    session.outline.Furnished ∧ ∀ device, session.device? id = some device →
      device.capturing = true → SetUp id past device
  have kept (past : List (Step F H)) (session : Session F H) (command : Command F H)
      (_ : command ∈ commands) (after : Session F H)
      (performed : session.perform command = some after) (before : good past session) :
      good (past ++ [⟨session, command, after⟩]) after :=
    ⟨session.perform_furnished before.1 performed, setUp_step performed before.2⟩
  have start : good [] ({} : Session F H) := ⟨nofun, nofun⟩
  obtain ⟨-, -, furnished, setUp⟩ := trace_past kept start ran
  obtain ⟨handler, paced, layout, agreed⟩ := setUp device found on
  obtain ⟨named, samples, positive, timestamp⟩ := RecordLayout.ofMask?_eq_some layout
  obtain ⟨trigger, given⟩ := Option.isSome_iff_exists.1 paced
  refine ⟨⟨handler, trigger, given, ?_⟩, named, agreed, ⟨samples, positive, timestamp⟩,
    fun other => ?_, fun mask => ?_⟩
  · apply furnished id trigger
    show step.after.paced? id = some trigger
    rw [paced?, found, Option.bind_some, given]
  · simp only [setTrigger, found, on, Bool.or_true, if_true]
  · simp only [enable, found, on, if_true]

/-- Channels with a gap between their scan indices, an index that two of them have, and two
times. -/
def unevenChannels : List Channel :=
  [.voltage 0 "0" 12 16 0, .timestamp 4, { Channel.voltage 1 "1" 12 16 0 with scanIndex := 4 },
    .voltage 7 "7" 12 16 0, .timestamp 9]

/-- A capture that starts at the third attempt: first the provider refuses, then the trigger. While
it is on, it is asked to start again, its trigger is swapped, and its provider changes its mind. -/
def rebuilt : List (Command Rehearsal Routine) :=
  [.makeTrigger "first" (.hooked (some .busy) none), .makeTrigger "second" .byHand,
    .makeDevice "adc" unevenChannels { refusal := some .again }, .setup ⟨0⟩ { samples := some [7] },
    .assign ⟨0⟩ ⟨0⟩, .enable ⟨0⟩ (.ofList [0]), .reconsider ⟨0⟩ {}, .enable ⟨0⟩ (.ofList [7]),
    .rehook ⟨0⟩ none none, .enable ⟨0⟩ (.ofList [0, 4, 7, 9]), .enable ⟨0⟩ (.ofList [0]),
    .pin ⟨0⟩ ⟨1⟩, .reconsider ⟨0⟩ { refusal := some .again }, .poll ⟨1⟩ 10]

/-- In the end the device is set up for the mask of the third attempt: two of its indices stand for
voltages, and two for a time. -/
theorem rebuilt_set_up :
    ∃ steps step device, steps ++ [step] <+: trace rebuilt {} ∧
      step.after.device? ⟨0⟩ = some device ∧ device.capturing = true ∧
      LastAgreed ⟨0⟩ (.ofList [0, 4, 7, 9]) (steps ++ [step]) ∧
      device.buffer.layout.samples = 2 ∧ device.buffer.layout.timestamp = true ∧
      step.after.setTrigger ⟨0⟩ ⟨0⟩ = (.error .busy, step.after) := by
  have final : ((trace rebuilt {}).getLast?.any fun step => (step.after.device? ⟨0⟩).any
      fun device => device.capturing && device.mask == .ofList [0, 4, 7, 9] &&
        device.channels == unevenChannels) = true := by decide +kernel
  obtain ⟨step, last, shown⟩ := (Option.any_eq_true _ _).1 final
  obtain ⟨steps, whole⟩ := List.getLast?_eq_some_iff.1 last
  have ran : steps ++ [step] <+: trace rebuilt {} := whole ▸ List.prefix_refl _
  obtain ⟨device, found, seen⟩ := (Option.any_eq_true _ _).1 shown
  simp only [Bool.and_eq_true, beq_iff_eq] at seen
  obtain ⟨⟨on, mask⟩, channels⟩ := seen
  obtain ⟨-, -, agreed, ⟨samples, -, timestamp⟩, busy, -⟩ := capturing_set_up ran found on
  rw [mask] at agreed
  rw [mask, channels] at samples timestamp
  exact ⟨steps, step, device, ran, found, on, agreed, samples.trans (by decide +kernel),
    timestamp.2 (by decide +kernel), busy ⟨0⟩⟩

end Acquisition
