/-
# Acquisition.Proofs.Attachment — devices that are captured, and triggers that are attached

A trigger is attached to a device when its capture starts, and detached when it stops. Two
things can go wrong with that, and nothing else.

Stopping marks the capture as off before it asks the trigger to stop, and a trigger that refuses
stays attached. Nothing asks it again: the device is not captured any more, so that stopping its
capture once more does nothing. `detached_unless_abandoned` says that a device that is not
captured is attached to no trigger, but for a trigger left behind in this way.

A trigger is attached to one device at a time, and starting a capture takes it away from a
device that is being captured on it. `connected_unless_shared` says that each device that is
captured has its trigger attached, but for one that lost it in this way.
-/
import Acquisition.Proofs.Captures
import Acquisition.Rehearsal

namespace Acquisition

set_option autoImplicit false

namespace Session

variable {F H : Type}

/-! ## Triggers left behind -/

/-- A device that is not captured is attached to no trigger. -/
def Detached (session : Session F H) : Prop :=
  ∀ id trigger, session.capturing id = false → session.attached? trigger ≠ some id

/-- A trigger is attached only to a device that is captured on it. -/
def Matched (session : Session F H) : Prop :=
  ∀ id trigger, session.attached? trigger = some id →
    session.capturing id = true ∧ session.paced? id = some trigger

/-- Whether the trigger of a capture is attached to its device and refuses to stop. -/
def clings (session : Session F H) (id : DeviceId) : Bool :=
  session.resists id && (session.paced? id).any fun trigger => session.attached? trigger = some id

/-- Whether a command stops a capture whose trigger clings to its device. -/
def abandons (session : Session F H) (command : Command F H) : Bool :=
  (session.stops? command).any session.clings

theorem Matched.detached {session : Session F H} (matched : session.Matched) : session.Detached :=
  fun id trigger idle attached => Bool.false_ne_true (idle.symm.trans (matched id trigger attached).1)

theorem Matched.shift {session after : Session F H} {stopped : Option DeviceId}
    {taken : Option TriggerId} (matched : session.Matched)
    (shift : Shift session after stopped taken) (free : stopped.any session.clings = false) :
    after.Matched := by
  intro id trigger attached
  cases shift with
  | kept capturing paced still =>
      rw [still] at attached
      rw [capturing, paced]
      exact matched id trigger attached
  | @given receiver gift idle capturing paced still =>
      rw [still] at attached
      obtain ⟨on, own⟩ := matched id trigger attached
      have other : id ≠ receiver := by
        rintro rfl
        exact Bool.false_ne_true (idle.symm.trans on)
      rw [capturing, paced, if_neg other]
      exact ⟨on, own⟩
  | taken holder own capturing paced moved =>
      rw [moved] at attached
      rw [capturing, paced]
      split at attached
      · next same => exact ⟨by simp [attached], same ▸ (own id attached).2⟩
      · obtain ⟨on, own⟩ := matched id trigger attached
        exact ⟨by simp [on], own⟩
  | @stopped stopped capturing paced moved =>
      rw [moved] at attached
      rw [capturing, paced]
      split at attached
      · cases attached
      · next held =>
          obtain ⟨on, own⟩ := matched id trigger attached
          have other : id ≠ stopped := by
            rintro rfl
            -- the trigger was not let go, so it clings
            have refuses : session.willStop trigger = false := by simpa [letsGo, on, own] using held
            simp [clings, resists, on, own, refuses, attached] at free
          exact ⟨by simp [other, on], own⟩

/-- A trigger that clings is left attached to a device that is not captured any more. -/
theorem Shift.not_detached {session after : Session F H} {stopped : Option DeviceId}
    {taken : Option TriggerId} (shift : Shift session after stopped taken)
    (clung : stopped.any session.clings = true) : ¬ after.Detached := by
  cases shift with
  | @stopped id capturing paced moved =>
      simp only [clings, resists, Option.any_some, Bool.and_eq_true] at clung
      obtain ⟨⟨on, refuses⟩, held⟩ := clung
      cases own : session.paced? id with
      | none => simp [own] at held
      | some trigger =>
          simp only [own, Option.any_some, Bool.not_eq_true', decide_eq_true_eq] at refuses held
          intro detached
          refine detached id trigger (by simp [capturing]) ?_
          rw [moved]
          simp [letsGo, refuses, held]
  | _ => cases clung

/-- **A refused stop is not tried again.** The capture is off after it, so stopping it once more
succeeds without asking the trigger, and changes nothing. -/
theorem disable_refused {session : Session F H} {id : DeviceId}
    (resists : session.resists id = true) :
    (session.disable id).1 ≠ .ok () ∧
      (session.disable id).2.disable id = (.ok (), (session.disable id).2) := by
  obtain ⟨on, refuses⟩ := Bool.and_eq_true_iff.1 resists
  obtain ⟨device, found, on⟩ := (Option.any_eq_true _ _).1 on
  obtain ⟨trigger, own, -⟩ := (Option.any_eq_true _ _).1 refuses
  rw [paced?, found, Option.bind_some] at own
  have answer := (session.disable_outline id).2 (by rw [found, Option.isSome_some])
  rw [resists] at answer
  have refused : (session.disable id).1 ≠ .ok () := fun stopped =>
    Bool.true_eq_false.mp (answer.1 stopped)
  refine ⟨refused, ?_⟩
  have there := device?_stopTrigger
    (session.modifyDevice id fun device => { device with capturing := false }) trigger id
  rw [device?_modifyDevice, found, Option.map_some] at there
  simp only [disable, found, on, own, Bool.not_true, Bool.false_eq_true, if_false] at refused ⊢
  split at refused
  · next error after stopped =>
      rw [stopped] at there
      simp only [there, Bool.not_false, if_true]
  · exact absurd rfl refused

/-! ## Triggers taken away -/

/-- Each device that is captured has its trigger attached. -/
def Connected (session : Session F H) : Prop :=
  ∀ id, session.capturing id = true →
    ∃ trigger, session.paced? id = some trigger ∧ session.attached? trigger = some id

/-- Whether some device is being captured on a trigger. -/
def occupied (session : Session F H) (trigger : TriggerId) : Bool :=
  session.devices.items.any fun device => device.capturing && device.trigger = some trigger

/-- Whether a command takes away a trigger on which some device is being captured. -/
def cutsOff [Provider F H] (session : Session F H) (command : Command F H) : Bool :=
  (session.takes? command).any session.occupied

theorem occupied_iff {session : Session F H} {trigger : TriggerId} :
    session.occupied trigger = true ↔
      ∃ id, session.capturing id = true ∧ session.paced? id = some trigger := by
  simp only [occupied, List.any_eq_true, Bool.and_eq_true, decide_eq_true_eq]
  constructor
  · rintro ⟨device, member, on, own⟩
    obtain ⟨index, found⟩ := List.mem_iff_getElem?.1 member
    have there : session.device? ⟨index⟩ = some device := found
    exact ⟨⟨index⟩, by simp [Session.capturing, there, on], by simp [paced?, there, own]⟩
  · rintro ⟨id, on, own⟩
    obtain ⟨device, found, on⟩ := (Option.any_eq_true _ _).1 on
    rw [paced?, found, Option.bind_some] at own
    exact ⟨device, List.mem_of_getElem? found, on, own⟩

/-- From a session in which every captured device is connected, one is cut off just if its trigger
is taken away. -/
theorem Connected.shift {session after : Session F H} {stopped : Option DeviceId}
    {taken : Option TriggerId} (connected : session.Connected)
    (shift : Shift session after stopped taken) :
    after.Connected ↔ taken.any session.occupied = false := by
  cases shift with
  | kept capturing paced still =>
      refine iff_of_true (fun id on => ?_) rfl
      rw [capturing] at on
      rw [paced, still]
      exact connected id on
  | @given receiver gift idle capturing paced still =>
      refine iff_of_true (fun id on => ?_) rfl
      rw [capturing] at on
      have other : id ≠ receiver := by
        rintro rfl
        exact Bool.false_ne_true (idle.symm.trans on)
      rw [paced, still, if_neg other]
      exact connected id on
  | @taken trigger holder own capturing paced moved =>
      rw [Option.any_some, Bool.eq_false_iff, ne_eq, occupied_iff]
      constructor
      · rintro still ⟨id, on, mine⟩
        obtain ⟨pacer, same, held⟩ := still id (by rw [capturing, on, Bool.or_true])
        rw [paced, mine] at same
        cases same
        rw [moved, if_pos rfl] at held
        exact Bool.false_ne_true ((own id held).1.symm.trans on)
      · intro free id on
        rw [capturing, Bool.or_eq_true, decide_eq_true_eq] at on
        rcases on with same | on
        · exact ⟨trigger, paced ▸ (own id same).2, by rw [moved, if_pos rfl, same]⟩
        · obtain ⟨pacer, mine, held⟩ := connected id on
          have other : pacer ≠ trigger := by
            rintro rfl
            exact free ⟨id, on, mine⟩
          exact ⟨pacer, paced ▸ mine, by rw [moved, if_neg other, held]⟩
  | @stopped stopped capturing paced moved =>
      refine iff_of_true (fun id on => ?_) rfl
      rw [capturing, Bool.and_eq_true, decide_eq_true_eq] at on
      obtain ⟨trigger, own, held⟩ := connected id on.2
      have kept : session.letsGo stopped trigger = false := by
        -- a trigger is attached to one device only
        refine Bool.eq_false_iff.2 fun gone => ?_
        simp only [letsGo, Bool.and_eq_true, decide_eq_true_eq] at gone
        obtain ⟨other, same, alsoHeld⟩ := connected stopped gone.1.1
        rw [gone.1.2] at same
        cases same
        exact on.1 (Option.some.inj (held.symm.trans alsoHeld))
      refine ⟨trigger, by rw [paced, own], ?_⟩
      rw [moved, kept]
      exact held

end Session

open Session

/-- **Only a trigger that clings is left behind.** As long as no device is given another trigger to
stay while it is being captured, a device that is not captured is attached to no trigger all along
a run just if no capture is ever stopped whose trigger is attached to its device and refuses. And
such a trigger is left behind for good: stopping the capture again succeeds without asking it. -/
theorem detached_unless_abandoned {F H : Type} [Provider F H] (commands : List (Command F H))
    (idle : ∀ step ∈ trace commands {}, step.before.pinsIdle step.command = true) :
    ((∀ step ∈ trace commands {}, step.after.Detached) ↔
        ∀ step ∈ trace commands {}, step.before.abandons step.command = false) ∧
      ∀ step ∈ trace commands {}, ∀ id, step.after.resists id = true →
        (step.after.disable id).1 ≠ .ok () ∧
          (step.after.disable id).2.disable id = (.ok (), (step.after.disable id).2) := by
  refine ⟨?_, fun _ _ _ => disable_refused⟩
  refine trace_exact (fun session => session.outline.Furnished ∧ session.Matched) Detached pinsIdle
    abandons (fun _ here => here.2.detached) ?_ ?_ commands {} ⟨nofun, nofun⟩ idle
  · rintro session command after performed fair ⟨furnished, matched⟩ kept
    exact ⟨session.perform_furnished furnished performed,
      matched.shift (session.perform_shift furnished fair performed) kept⟩
  · rintro session command after performed fair ⟨furnished, matched⟩ left
    exact (session.perform_shift furnished fair performed).not_detached left

/-- A capture that is refused a start, then started, not stopped while it is on, and stopped and
cleaned up in the end. -/
def wavering : List (Command Rehearsal Routine) :=
  [.makeTrigger "wavering" (.hooked (some .busy) none),
    .makeDevice "adc" [.voltage 0 "0" 12 16 0] {},
    .setup ⟨0⟩ {}, .pin ⟨0⟩ ⟨0⟩, .enable ⟨0⟩ (.ofList [0]), .rehook ⟨0⟩ none none,
    .enable ⟨0⟩ (.ofList [0]), .rehook ⟨0⟩ none (some .busy), .enable ⟨0⟩ (.ofList [0]),
    .rehook ⟨0⟩ none none, .disable ⟨0⟩, .disable ⟨0⟩, .cleanup ⟨0⟩]

theorem wavering_detached :
    (∀ step ∈ trace wavering {}, step.before.pinsIdle step.command = true) ∧
      ∀ step ∈ trace wavering {}, step.after.Detached := by
  have idle : ∀ step ∈ trace wavering {}, step.before.pinsIdle step.command = true := by
    decide +kernel
  exact ⟨idle, (detached_unless_abandoned wavering idle).1.2 (by decide +kernel)⟩

/-- A capture whose trigger refuses to stop. -/
def abandoning : List (Command Rehearsal Routine) :=
  [.makeTrigger "stubborn" (.hooked none (some .busy)),
    .makeDevice "adc" [.voltage 0 "0" 12 16 0] {},
    .setup ⟨0⟩ {}, .assign ⟨0⟩ ⟨0⟩, .enable ⟨0⟩ (.ofList [0]), .disable ⟨0⟩]

/-- The trigger is still attached to the device, whose capture is off. -/
theorem abandoning_attached : ¬ ∀ step ∈ trace abandoning {}, step.after.Detached := by
  have left : ∃ step ∈ trace abandoning {},
      step.after.capturing ⟨0⟩ = false ∧ step.after.attached? ⟨0⟩ = some ⟨0⟩ := by
    decide +kernel
  obtain ⟨step, member, idle, attached⟩ := left
  exact fun all => all step member ⟨0⟩ ⟨0⟩ idle attached

/-- **A capture is cut off only by taking its trigger away.** As long as no device is given another
trigger to stay while it is being captured, each device that is captured has its trigger attached
all along a run just if no trigger is ever taken away on which a device is being captured, be it
for another capture, which may go on to fail, or because the trigger is destroyed. -/
theorem connected_unless_shared {F H : Type} [Provider F H] (commands : List (Command F H))
    (idle : ∀ step ∈ trace commands {}, step.before.pinsIdle step.command = true) :
    (∀ step ∈ trace commands {}, step.after.Connected) ↔
      ∀ step ∈ trace commands {}, step.before.cutsOff step.command = false := by
  refine trace_exact (fun session => session.outline.Furnished ∧ session.Connected) Connected
    pinsIdle cutsOff (fun _ here => here.2) ?_ ?_ commands {} ⟨nofun, nofun⟩ idle
  · rintro session command after performed fair ⟨furnished, connected⟩ kept
    have shift := session.perform_shift furnished fair performed
    exact ⟨session.perform_furnished furnished performed, (connected.shift shift).2 kept⟩
  · rintro session command after performed fair ⟨furnished, connected⟩ cut still
    have shift := session.perform_shift furnished fair performed
    exact Bool.true_eq_false.mp (cut.symm.trans ((connected.shift shift).1 still))

/-- Two devices that are captured on one trigger, one after the other. -/
def turns : List (Command Rehearsal Routine) :=
  [.makeTrigger "shared" (.hooked none none),
    .makeDevice "first" [.voltage 0 "0" 12 16 0] {}, .makeDevice "second" [.voltage 0 "0" 12 16 0] {},
    .setup ⟨0⟩ {}, .setup ⟨1⟩ {}, .assign ⟨0⟩ ⟨0⟩, .pin ⟨1⟩ ⟨0⟩,
    .enable ⟨0⟩ (.ofList [0]), .disable ⟨0⟩, .enable ⟨1⟩ (.ofList [0]), .enable ⟨1⟩ (.ofList [0]),
    .cleanup ⟨1⟩, .enable ⟨0⟩ (.ofList [0])]

theorem turns_connected :
    (∀ step ∈ trace turns {}, step.before.pinsIdle step.command = true) ∧
      ∀ step ∈ trace turns {}, step.after.Connected := by
  have idle : ∀ step ∈ trace turns {}, step.before.pinsIdle step.command = true := by
    decide +kernel
  exact ⟨idle, (connected_unless_shared turns idle).2 (by decide +kernel)⟩

/-- Two devices that are captured on one trigger at once, until the second is stopped. -/
def crowding : List (Command Rehearsal Routine) :=
  [.makeTrigger "shared" .byHand,
    .makeDevice "first" [.voltage 0 "0" 12 16 0] {}, .makeDevice "second" [.voltage 0 "0" 12 16 0] {},
    .setup ⟨0⟩ {}, .setup ⟨1⟩ {}, .assign ⟨0⟩ ⟨0⟩, .assign ⟨1⟩ ⟨0⟩,
    .enable ⟨0⟩ (.ofList [0]), .enable ⟨1⟩ (.ofList [0]), .disable ⟨1⟩]

/-- The first device is still being captured, on a trigger that is attached to nothing. -/
theorem crowding_cuts_off : ¬ ∀ step ∈ trace crowding {}, step.after.Connected := by
  have lost : ∃ step ∈ trace crowding {}, step.after.capturing ⟨0⟩ = true ∧
      step.after.paced? ⟨0⟩ = some ⟨0⟩ ∧ step.after.attached? ⟨0⟩ = none := by
    decide +kernel
  obtain ⟨step, member, on, paced, attached⟩ := lost
  intro all
  obtain ⟨trigger, own, held⟩ := all step member ⟨0⟩ on
  rw [paced] at own
  cases own
  rw [attached] at held
  cases held

end Acquisition
