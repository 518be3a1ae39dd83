/-
# Acquisition.Proofs.Refusals — what a refused capture leaves behind

A capture that is refused before its trigger is asked leaves everything as it was that shows of
captures: which are on, of which mask, what is queued, and what each trigger is attached to.

The trigger is asked last. By then the buffer has been configured for the new capture, its mask
noted and the trigger attached. If the trigger refuses, the capture is marked as off again and
the trigger left without a consumer, and nothing else is taken back: what was queued is gone.
`enable_refused` says what shows after each refusal, and when that is a difference.
-/
import Acquisition.Proofs.BoundedQueue
import Acquisition.Proofs.Moves
import Acquisition.Rehearsal
import Mathlib.Control.Monad.Basic

namespace Acquisition

set_option autoImplicit false

/-! ## What shows of a capture -/

deriving instance DecidableEq for ScanQueue

/-- What shows of the capture of a device. -/
structure CaptureView where
  capturing : Bool
  /-- The mask last captured. -/
  mask : ScanMask
  /-- The scans that wait to be taken out. -/
  queue : ScanQueue
  deriving DecidableEq

/-- What shows of a capture that was made ready for a mask and is off. -/
def CaptureView.emptied (view : CaptureView) (mask : ScanMask) (layout : RecordLayout) :
    CaptureView where
  capturing := false
  mask
  queue := { view.queue with layout, scans := [], overruns := 0 }

/-- Configuring a buffer empties the queue it stands for. -/
theorem Buffer.queue_configure (buffer : Buffer) (layout : RecordLayout) :
    (buffer.configure layout).queue = { buffer.queue with layout, scans := [], overruns := 0 } :=
  (buffer.configure_queues layout).queue_eq

/-- What shows of the capture of a device. -/
def Device.view {F H : Type} (device : Device F H) : CaptureView where
  capturing := device.capturing
  mask := device.mask
  queue := device.buffer.queue

namespace Session

variable {F H : Type}

/-- What shows of the capture of the device under a number. -/
def view? (session : Session F H) (id : DeviceId) : Option CaptureView :=
  (session.device? id).map Device.view

/-- The layout of a capture of a mask. -/
def layout? (session : Session F H) (id : DeviceId) (mask : ScanMask) : Option RecordLayout :=
  (session.device? id).bind fun device => RecordLayout.ofMask? device.channels mask

/-- No capture shows a difference, and each trigger is attached to what it was attached to. -/
structure Undisturbed (before after : Session F H) : Prop where
  views : ∀ id, after.view? id = before.view? id
  attached : ∀ id, after.attached? id = before.attached? id

theorem Undisturbed.refl (session : Session F H) : Undisturbed session session :=
  ⟨fun _ => rfl, fun _ => rfl⟩

section View

variable (session : Session F H)

theorem view?_modifyDevice (id other : DeviceId) (change : Device F H → Device F H) :
    (session.modifyDevice id change).view? other =
      if other = id then (session.device? other).map fun device => (change device).view
      else session.view? other := by
  rw [view?, device?_modifyDevice_eq]
  split
  · rw [Option.map_map]
    rfl
  · rfl

theorem device?_startTrigger {id : TriggerId} {result : Except Error Unit} {after : Session F H}
    (asked : session.startTrigger id = some (result, after)) (device : DeviceId) :
    after.device? device = session.device? device := by
  rw [startTrigger] at asked
  split at asked
  · cases asked
    rfl
  · obtain ⟨_, _, same⟩ := Option.map_eq_some_iff.1 asked
    cases same
    rw [device?_modifyTrigger, noteSwitch]
    split <;> rfl

end View

/-! ## A trigger that is asked and refuses -/

/-- The session in which the trigger of a capture is asked to start. -/
def poised (session : Session F H) (id : DeviceId) (trigger : TriggerId)
    (change : Device F H → Device F H) : Session F H :=
  (session.modifyDevice id change).modifyTrigger trigger fun trigger => trigger.attach id

/-- What is done after the refusal: the trigger is detached and the capture marked as off. -/
def undone (asked : Session F H) (id : DeviceId) (trigger : TriggerId) : Session F H :=
  (asked.modifyTrigger trigger Trigger.detach).modifyDevice id
    fun device => { device with capturing := false }

section Asked

variable {session asked : Session F H} {id : DeviceId} {trigger : TriggerId}
  {change : Device F H → Device F H} {error : Error}
  (answered : (session.poised id trigger change).startTrigger trigger = some (.error error, asked))

include answered

theorem view?_undone (other : DeviceId) :
    (asked.undone id trigger).view? other =
      if other = id then
        (session.device? other).map fun device => { (change device).view with capturing := false }
      else session.view? other := by
  have still := device?_startTrigger _ answered other
  rw [poised, device?_modifyTrigger, device?_modifyDevice_eq] at still
  rw [undone, view?_modifyDevice, device?_modifyTrigger, still, view?, device?_modifyTrigger, still]
  split
  · rw [Option.map_map]
    rfl
  · rfl

theorem attached?_undone (other : TriggerId) :
    (asked.undone id trigger).attached? other =
      if other = trigger then none else session.attached? other := by
  have still : asked.attached? other = (session.poised id trigger change).attached? other :=
    congrFun (congrArg Outline.attached (startTrigger_outline _ answered).1) other
  have detached : (asked.undone id trigger).attached? other =
      (asked.modifyTrigger trigger Trigger.detach).attached? other := rfl
  rw [detached, attached?_modifyTrigger, still, poised, attached?_modifyTrigger]
  split
  · cases asked.trigger? other <;> rfl
  · rfl

/-- Only the hook of a trigger refuses to start it. -/
theorem source_of_refusal :
    ∃ onStop,
      (session.trigger? trigger).map Trigger.source = some (.hooked (some error) onStop) := by
  have there : (session.poised id trigger change).trigger? trigger =
      (session.trigger? trigger).map fun trigger => trigger.attach id :=
    trigger?_modifyTrigger _ trigger _
  rw [startTrigger, there] at answered
  cases found : session.trigger? trigger with
  | none =>
      rw [found] at answered
      cases answered
  | some pacer =>
      rw [found] at answered
      obtain ⟨⟨_, started⟩, refused, same⟩ := Option.map_eq_some_iff.1 answered
      cases same
      rw [Trigger.start] at refused
      split at refused
      · cases refused
      · next onStop hooked =>
          cases refused
          exact ⟨onStop, congrArg some hooked⟩
      · cases refused
      · split at refused <;> cases refused

end Asked

/-- A provider may change its mind without any capture showing it. -/
theorem undisturbed_provider (session : Session F H) (id : DeviceId) (provider : F) :
    Undisturbed session (session.modifyDevice id fun device => { device with provider }) where
  views _ := (session.view?_modifyDevice _ _ _).trans (ite_self _)
  attached _ := rfl

/-! ## Refusals -/

variable [Provider F H]

/-- **A capture is refused in one of two ways**: before its trigger is asked, when at most the
provider has been, or by the trigger. -/
theorem enable_error {session after : Session F H} {id : DeviceId} {mask : ScanMask}
    {error : Error} (refused : session.enable id mask = some (.error error, after)) :
    (session.startOn? id mask = none ∧ (after = session ∨ ∃ provider,
      after = (session.note (.program id mask)).modifyDevice id
        fun device => { device with provider })) ∨
    ∃ device trigger layout provider asked, session.device? id = some device ∧
      session.startOn? id mask = some trigger ∧
      RecordLayout.ofMask? device.channels mask = some layout ∧
      ((session.note (.program id mask)).poised id trigger
        fun device => device.begun provider layout mask).startTrigger trigger =
          some (.error error, asked) ∧
      after = asked.undone id trigger := by
  rw [enable] at refused
  split at refused
  · next absent =>
      cases refused
      exact .inl ⟨by simp [startOn?, absent], .inl rfl⟩
  next device found =>
  split at refused
  · next on =>
      cases refused
      exact .inl ⟨by simp [startOn?, found, on], .inl rfl⟩
  next idle =>
  split at refused
  · next unready =>
      cases refused
      exact .inl ⟨by simp [startOn?, found, unready], .inl rfl⟩
  next ready =>
  split at refused
  · next unpaced =>
      cases refused
      refine .inl ⟨?_, .inl rfl⟩
      simp only [startOn?, found, unpaced]
      split
      · rfl
      · split <;> rfl
  · next unfit =>
      cases refused
      exact .inl ⟨by simp [startOn?, found, unfit], .inl rfl⟩
  next trigger layout given made =>
  split at refused
  · next reason provider refuses =>
      cases refused
      exact .inl ⟨by simp [startOn?, found, made, refuses], .inr ⟨provider, rfl⟩⟩
  next provider agrees =>
  have reached : session.startOn? id mask = some trigger := by
    simp [startOn?, found, idle, ready, made, agrees, given]
  obtain ⟨⟨answer, asked⟩, started, finished⟩ := Option.map_eq_some_iff.1 refused
  cases answer with
  | ok _ => cases finished
  | error reason =>
      cases finished
      exact .inr ⟨device, trigger, layout, provider, asked, found, reached, made, started, rfl⟩

/-- **What a refused capture leaves behind.** If the trigger was not asked, no capture and no
attachment shows a difference. If it was, its hook gave the refusal, and the capture shows as one
that was made ready: off, with the new mask and layout, and with nothing queued or counted; the
trigger is attached to nothing. That is a difference unless it was so before. -/
theorem enable_refused {session after : Session F H} {id : DeviceId} {mask : ScanMask}
    {error : Error} (refused : session.enable id mask = some (.error error, after)) :
    (session.startOn? id mask = none → Undisturbed session after) ∧
    ∀ trigger, session.startOn? id mask = some trigger →
      (∃ onStop,
        (session.trigger? trigger).map Trigger.source = some (.hooked (some error) onStop)) ∧
      ∃ view layout, session.view? id = some view ∧ session.layout? id mask = some layout ∧
        (∀ other, after.view? other =
          if other = id then some (view.emptied mask layout) else session.view? other) ∧
        (∀ other, after.attached? other =
          if other = trigger then none else session.attached? other) ∧
        (Undisturbed session after ↔
          view.emptied mask layout = view ∧ session.attached? trigger = none) := by
  rcases enable_error refused with ⟨unasked, rfl | ⟨provider, rfl⟩⟩ | reached
  · exact ⟨fun _ => .refl after, fun trigger asked => by simp [unasked] at asked⟩
  · obtain ⟨views, attached⟩ := (session.note (.program id mask)).undisturbed_provider id provider
    exact ⟨fun _ => ⟨views, attached⟩, fun trigger asked => by simp [unasked] at asked⟩
  obtain ⟨device, trigger, layout, provider, asked, found, started, made, answered, rfl⟩ := reached
  refine ⟨fun unasked => by simp [unasked] at started, fun other same => ?_⟩
  cases started.symm.trans same
  have source := source_of_refusal answered
  have held := attached?_undone answered
  have attached : ∀ other, (asked.undone id trigger).attached? other =
      if other = trigger then none else session.attached? other := held
  have views : ∀ other, (asked.undone id trigger).view? other =
      if other = id then some (device.view.emptied mask layout) else session.view? other := by
    intro other
    rw [view?_undone answered]
    split
    · next same =>
        rw [same, device?_note, found, Option.map_some, Device.begun, Device.view,
          Buffer.queue_configure]
        rfl
    · rfl
  have shown : session.view? id = some device.view := by rw [view?, found, Option.map_some]
  refine ⟨source, device.view, layout, shown, ?_, views, attached, ?_, ?_⟩
  · rw [layout?, found, Option.bind_some, made]
  · rintro ⟨sameViews, sameAttached⟩
    have view := sameViews id
    have held := sameAttached trigger
    rw [views, if_pos rfl, shown] at view
    rw [attached, if_pos rfl] at held
    exact ⟨Option.some.inj view, held.symm⟩
  · rintro ⟨ready, free⟩
    refine ⟨fun other => ?_, fun other => ?_⟩
    · rw [views]
      split
      · next same => rw [same, shown, ready]
      · rfl
    · rw [attached]
      split
      · next same => exact same ▸ free.symm
      · rfl

end Session

open Session

/-- A device that is captured on one trigger until a scan is queued, and is then given another
trigger, which refuses to start. -/
def balking : List (Command Rehearsal Routine) :=
  [.makeTrigger "willing" .byHand, .makeTrigger "balking" (.hooked (some .busy) none),
    .makeDevice "adc" [.voltage 0 "0" 12 16 0, .voltage 1 "1" 12 16 1] {},
    .setup ⟨0⟩ { samples := some [7] }, .assign ⟨0⟩ ⟨0⟩, .enable ⟨0⟩ (.ofList [0]), .poll ⟨0⟩ 0,
    .disable ⟨0⟩, .assign ⟨0⟩ ⟨1⟩, .enable ⟨0⟩ (.ofList [0, 1])]

/-- The sessions in which something is asked. -/
def sessionsOf (commands : List (Command Rehearsal Routine)) : List (Session Rehearsal Routine) :=
  (trace commands {}).map Step.before

/-- The scan that was queued is gone, and the mask is that of the capture that was refused. -/
theorem balking_empties : ∃ session ∈ sessionsOf balking,
    session.view? ⟨0⟩ = some ⟨false, .ofList [0], ⟨128, { samples := 1 }, [⟨[7], none⟩], 0⟩⟩ ∧
    ∃ after, session.enable ⟨0⟩ (.ofList [0, 1]) = some (.error .busy, after) ∧
      after.view? ⟨0⟩ = some ⟨false, .ofList [0, 1], ⟨128, { samples := 2 }, [], 0⟩⟩ := by
  have asked : ∃ session ∈ sessionsOf balking,
      session.view? ⟨0⟩ = some ⟨false, .ofList [0], ⟨128, { samples := 1 }, [⟨[7], none⟩], 0⟩⟩ ∧
      (session.enable ⟨0⟩ (.ofList [0, 1])).map Prod.fst = some (.error .busy) ∧
      session.startOn? ⟨0⟩ (.ofList [0, 1]) = some ⟨1⟩ ∧
      session.layout? ⟨0⟩ (.ofList [0, 1]) = some { samples := 2 } := by
    decide +kernel
  obtain ⟨session, member, queued, answer, reached, made⟩ := asked
  obtain ⟨⟨result, after⟩, refused, same⟩ := Option.map_eq_some_iff.1 answer
  cases same
  obtain ⟨-, view, layout, shown, fits, views, -⟩ := (enable_refused refused).2 ⟨1⟩ reached
  cases queued.symm.trans shown
  cases made.symm.trans fits
  exact ⟨session, member, queued, after, refused, views ⟨0⟩⟩

/-- A refusal that is seen from outside. -/
theorem balking_disturbs : ¬ ∀ session ∈ sessionsOf balking, ∀ id mask error after,
    session.enable id mask = some (.error error, after) → Undisturbed session after := by
  have lost : ∃ session ∈ sessionsOf balking,
      ((session.enable ⟨0⟩ (.ofList [0, 1])).any fun done =>
        done.1 = .error .busy ∧ done.2.view? ⟨0⟩ ≠ session.view? ⟨0⟩) = true := by
    decide +kernel
  obtain ⟨session, member, disturbed⟩ := lost
  obtain ⟨⟨result, after⟩, refused, seen⟩ := (Option.any_eq_true _ _).1 disturbed
  obtain ⟨rfl, differs⟩ := of_decide_eq_true seen
  exact fun all => differs ((all session member _ _ _ _ refused).views ⟨0⟩)

end Acquisition
