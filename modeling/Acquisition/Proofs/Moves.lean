/-
# Acquisition.Proofs.Moves — what each command changes in the outline of a session

`Session.moves` says for each command which moves it makes in the outline of a session, from
what the session shows before it and from what its triggers are willing to do.
`perform_outline` says that a command makes these moves and no others. Most make none:
raising edges, reading, or making a device show nowhere.

What is preserved by moves is so preserved by every run, and invariants about captures and
about the registry can be proved without opening an operation.
-/
import Acquisition.Proofs.Commands
import Acquisition.Proofs.Outline

namespace Acquisition

set_option autoImplicit false

/-! ## Triggers and devices on their own -/

theorem Trigger.detach_consumer (trigger : Trigger) : trigger.detach.consumer = none := rfl

theorem Trigger.stop_consumer (trigger : Trigger) : trigger.stop.2.consumer = trigger.consumer := by
  rw [stop]
  split <;> rfl

theorem Trigger.start_consumer {trigger after : Trigger} {result : Except Error Unit}
    (asked : trigger.start = some (result, after)) : after.consumer = trigger.consumer := by
  rw [start] at asked
  split at asked
  case h_4 timer timed =>
    split at asked <;> cases asked
    rfl
  all_goals
    cases asked
    rfl

/-- What a trigger is attached to makes no difference to how it starts. -/
theorem Trigger.start_attach (trigger : Trigger) (id : DeviceId) :
    (trigger.attach id).start = trigger.start.map (Prod.map (fun result => result) (attach · id)) := by
  obtain ⟨name, source, consumer, busy, completed, missed⟩ := trigger
  cases source with
  | byHand => rfl
  | hooked onStart onStop => cases onStart <;> rfl
  | timed timer =>
      by_cases runs : timer.running || canName name <;> simp [start, attach, runs]

theorem Trigger.rehook_consumer (trigger : Trigger) (onStart onStop : Option Error) :
    (trigger.rehook onStart onStop).consumer = trigger.consumer := by
  rw [rehook]
  split <;> rfl

/-- A device whose capture is about to start. -/
def Device.begun {F H : Type} (device : Device F H) (provider : F) (layout : RecordLayout)
    (mask : ScanMask) : Device F H :=
  { device with provider, buffer := device.buffer.configure layout, mask, capturing := true }

namespace Session

variable {F H : Type}

/-! ## The moves of a command -/

/-- Whether a trigger agrees to start. -/
def willStart (session : Session F H) (id : TriggerId) : Bool :=
  (session.trigger? id).all fun trigger =>
    match trigger.start with
    | some (.ok (), _) => true
    | _ => false

/-- Whether a trigger agrees to stop. -/
def willStop (session : Session F H) (id : TriggerId) : Bool :=
  (session.trigger? id).all fun trigger =>
    match trigger.stop.1 with
    | .ok () => true
    | .error _ => false

/-- The trigger on which a capture of a mask is started, if everything agrees up to there:
none is on, there is a handler, the mask has a layout, and the provider takes it. -/
def startOn? [Provider F H] (session : Session F H) (id : DeviceId) (mask : ScanMask) :
    Option TriggerId :=
  match session.device? id with
  | none => none
  | some device =>
      if device.capturing || device.handler.isNone ||
          (RecordLayout.ofMask? device.channels mask).isNone then none
      else
        match (Provider.program mask device.provider).1 with
        | .error _ => none
        | .ok () => device.trigger

/-- Whether the capture of a device is on and its trigger refuses to stop. -/
def resists (session : Session F H) (id : DeviceId) : Bool :=
  session.capturing id && (session.paced? id).any fun trigger => !session.willStop trigger

/-- The moves of stopping a capture. A trigger that refuses to stop stays attached. -/
def halt (session : Session F H) (id : DeviceId) : List Move :=
  if session.capturing id then
    .rest id :: if session.resists id then [] else (session.paced? id).toList.map .detach
  else []

/-- What a command changes in the outline of a session. -/
def moves [Provider F H] (session : Session F H) : Command F H → List Move
  | .makeTrigger _ _ => [.appear ⟨session.triggers.size⟩]
  | .createSoftware kind name =>
      if kind ≠ timerKind || (session.software? name).isSome then []
      else [.appear ⟨session.triggers.size⟩]
  | .destroySoftware trigger => if session.software.contains trigger then [.detach trigger] else []
  | .assign id trigger =>
      if (session.trigger? trigger).isSome &&
          (session.device? id).any fun device => !(device.pinned || device.capturing) then
        [.give id trigger]
      else []
  | .pin id trigger =>
      if (session.trigger? trigger).isSome && (session.device? id).isSome then [.give id trigger]
      else []
  | .enable id mask =>
      match session.startOn? id mask with
      | none => []
      | some trigger =>
          if session.willStart trigger then [.start id trigger]
          else [.start id trigger, .detach trigger, .rest id]
  | .disable id => session.halt id
  | .cleanup id => session.halt id
  | .register id =>
      if (session.device? id).isSome && !session.listed.contains id then [.enlist id] else []
  | .unregister id =>
      if !session.listed.contains id then []
      else .strike id :: session.halt id ++ if session.resists id then [] else [.unnumber id]
  | _ => []

/-! ## Starting and stopping -/

section Outline

variable (session : Session F H)

theorem outline_switched {id : TriggerId} {before after : Trigger} (on : Bool)
    (found : session.trigger? id = some before) (same : after.consumer = before.consumer) :
    ((session.noteSwitch id before on).modifyTrigger id fun _ => after).outline =
      session.outline := by
  rw [noteSwitch]
  split
  · exact (session.note (.switch id on)).outline_setTrigger found same
  · exact session.outline_setTrigger found same

/-- Asking a trigger to stop shows nowhere, and it answers as it is willing to. -/
theorem stopTrigger_outline (id : TriggerId) :
    (session.stopTrigger id).2.outline = session.outline ∧
      (session.willStop id = true ↔ (session.stopTrigger id).1 = .ok ()) := by
  rw [stopTrigger, willStop]
  cases found : session.trigger? id with
  | none => simp
  | some trigger =>
      refine ⟨session.outline_switched false found (Trigger.stop_consumer trigger), ?_⟩
      simp only [Option.all_some]
      cases trigger.stop.1 <;> simp

/-- Asking a trigger to start shows nowhere, and it answers as it is willing to. -/
theorem startTrigger_outline {id : TriggerId} {result : Except Error Unit} {after : Session F H}
    (done : session.startTrigger id = some (result, after)) :
    after.outline = session.outline ∧ (session.willStart id = true ↔ result = .ok ()) := by
  rw [startTrigger] at done
  rw [willStart]
  split at done
  · next absent =>
      cases done
      simp [absent]
  · next trigger found =>
      obtain ⟨⟨answer, started⟩, asked, same⟩ := Option.map_eq_some_iff.1 done
      cases same
      refine ⟨session.outline_switched true found (Trigger.start_consumer asked), ?_⟩
      rw [found, Option.all_some, asked]
      cases result <;> simp

/-- What a trigger is attached to makes no difference to whether it starts. -/
theorem willStart_attach (id : DeviceId) (trigger : TriggerId) :
    (session.modifyTrigger trigger fun trigger => trigger.attach id).willStart trigger =
      session.willStart trigger := by
  rw [willStart, willStart, trigger?_modifyTrigger]
  cases session.trigger? trigger with
  | none => rfl
  | some pacer =>
      simp only [Option.map_some, Option.all_some, Trigger.start_attach]
      cases pacer.start with
      | none => rfl
      | some asked =>
          obtain ⟨result, after⟩ := asked
          cases result <;> rfl

theorem halt_idle {id : DeviceId} (idle : session.capturing id = false) : session.halt id = [] := by
  simp [halt, idle]

theorem halt_unpaced {id : DeviceId} (on : session.capturing id = true)
    (own : session.paced? id = none) : session.halt id = [.rest id] := by
  simp [halt, on, own]

theorem halt_paced {id : DeviceId} {trigger : TriggerId} (on : session.capturing id = true)
    (own : session.paced? id = some trigger) :
    session.halt id =
      if session.willStop trigger then [.rest id, .detach trigger] else [.rest id] := by
  cases willing : session.willStop trigger <;> simp [halt, resists, on, own, willing]

/-- Stopping a capture asks the trigger of the device to stop, and detaches it if it does. -/
theorem disable_paced {id : DeviceId} {device : Device F H} {trigger : TriggerId}
    (found : session.device? id = some device) (on : device.capturing = true)
    (own : device.trigger = some trigger) :
    (session.disable id).2.outline =
        (if session.willStop trigger then [.rest id, .detach trigger] else [.rest id]).foldl
          Outline.apply session.outline ∧
      ((session.disable id).1 = .ok () ↔ session.willStop trigger = true) := by
  have rested := session.outline_rest id
  obtain ⟨still, willing⟩ := stopTrigger_outline
    (session.modifyDevice id fun device => { device with capturing := false }) trigger
  have same : (session.modifyDevice id fun device =>
      { device with capturing := false }).willStop trigger = session.willStop trigger := rfl
  rw [same] at willing
  simp only [disable, found, on, own, Bool.not_true, Bool.false_eq_true, if_false]
  split
  · next error after stopped =>
      rw [stopped] at still willing
      have unwilling : session.willStop trigger = false := by simpa using willing
      simp [unwilling, still, rested]
  · next after stopped =>
      rw [stopped] at still willing
      simp [willing.2 rfl, outline_detach _ _ Trigger.detach_consumer, still, rested]

/-- **Stopping a capture makes its moves**, and is refused just if the trigger resists. -/
theorem disable_outline (id : DeviceId) :
    (session.disable id).2.outline = (session.halt id).foldl Outline.apply session.outline ∧
      ((session.device? id).isSome →
        ((session.disable id).1 = .ok () ↔ session.resists id = false)) := by
  cases found : session.device? id with
  | none =>
      rw [session.halt_idle (by simp [Session.capturing, found])]
      simp [disable, found]
  | some device =>
      cases on : device.capturing with
      | false =>
          rw [session.halt_idle (by simp [Session.capturing, found, on])]
          simp [disable, resists, Session.capturing, found, on]
      | true =>
          have capturing : session.capturing id = true := by simp [Session.capturing, found, on]
          cases own : device.trigger with
          | none =>
              have unpaced : session.paced? id = none := by simp [paced?, found, own]
              rw [session.halt_unpaced capturing unpaced]
              simp [disable, resists, unpaced, found, on, own, outline_rest]
          | some trigger =>
              have paced : session.paced? id = some trigger := by simp [paced?, found, own]
              obtain ⟨moved, answer⟩ := session.disable_paced found on own
              rw [session.halt_paced capturing paced]
              exact ⟨moved, fun _ => answer.trans (by simp [resists, capturing, paced])⟩

/-- A capture that is stopped and its handler taken away. -/
theorem cleanup_outline (id : DeviceId) :
    (session.cleanup id).outline = (session.halt id).foldl Outline.apply session.outline := by
  rw [cleanup]
  split
  · next absent => simp [halt, Session.capturing, absent]
  · next device found =>
      dsimp only
      rw [outline_modifyDevice]
      · rw [← (session.disable_outline id).1]
        split <;> rfl
      all_goals exact fun _ => rfl

/-- A session without a device in its list. -/
def strike (id : DeviceId) : Session F H :=
  { session with listed := session.listed.erase id }

/-- A device that is not there has no number to lose. -/
theorem apply_unnumber_of_unregistered {id : DeviceId} (unregistered : session.registered id = false) :
    session.outline.apply (.unnumber id) = session.outline := by
  refine Outline.ext rfl rfl rfl rfl (funext fun other => ?_) rfl
  by_cases same : other = id
  · simp [Outline.apply, outline, same, unregistered]
  · simp [Outline.apply, same]

/-- Taking a device out of the registry strikes it off and stops its capture, but leaves it
its number if the trigger resists. -/
theorem unregister_outline [Provider F H] (id : DeviceId) :
    (session.unregister id).2.outline =
      (session.moves (.unregister id : Command F H)).foldl Outline.apply session.outline := by
  have folded :
      ({ session with listed := session.listed.erase id } : Session F H) = session.strike id := rfl
  rw [unregister, folded, moves]
  split
  · rfl
  have struck : (session.strike id).outline = session.outline.apply (.strike id) := rfl
  have same : (session.strike id).resists id = session.resists id := rfl
  have moved : (session.strike id).halt id = session.halt id := rfl
  obtain ⟨halted, allowed⟩ := (session.strike id).disable_outline id
  rw [same] at allowed
  rw [struck, moved] at halted
  rw [List.cons_append, List.foldl_cons, List.foldl_append, ← halted]
  cases found : session.device? id with
  | none =>
      have absent : (session.strike id).device? id = none := found
      have unregistered : (session.strike id).registered id = false := by
        rw [registered, absent, Option.any_none]
      have idle : session.resists id = false := by simp [resists, Session.capturing, found]
      simp only [disable, absent, idle, Bool.false_eq_true, if_false, List.foldl_cons,
        List.foldl_nil]
      exact ((session.strike id).apply_unnumber_of_unregistered unregistered).symm
  | some device =>
      have there : ((session.strike id).device? id).isSome := by
        have present : (session.strike id).device? id = some device := found
        rw [present, Option.isSome_some]
      have answered := allowed there
      cases done : (session.strike id).disable id with
      | mk result after =>
          rw [done] at answered
          cases result with
          | ok _ =>
              rw [answered.1 rfl]
              exact after.outline_unnumber id
          | error error =>
              have resists : session.resists id = true := by
                rw [← Bool.not_eq_false, ← answered]
                simp
              rw [resists]
              rfl

end Outline

section Perform

variable [Provider F H] (session : Session F H)

/-- **Starting a capture makes its moves.** If something before the trigger refuses, there are
none; if the trigger refuses, it is attached to nothing afterwards. -/
theorem enable_outline (furnished : session.outline.Furnished) {id : DeviceId} {mask : ScanMask}
    {result : Except Error Unit} {after : Session F H}
    (done : session.enable id mask = some (result, after)) :
    after.outline = (session.moves (.enable id mask)).foldl Outline.apply session.outline := by
  have refused (none : session.startOn? id mask = none) :
      (session.moves (.enable id mask : Command F H)).foldl Outline.apply session.outline =
        session.outline := by
    rw [moves, none]
    rfl
  rw [enable] at done
  split at done
  · next absent =>
      cases done
      exact (refused (by simp [startOn?, absent])).symm
  next device found =>
  split at done
  · next on =>
      cases done
      exact (refused (by simp [startOn?, found, on])).symm
  next idle =>
  split at done
  · next unready =>
      cases done
      exact (refused (by simp [startOn?, found, unready])).symm
  next ready =>
  split at done
  · next nothing =>
      cases done
      refine (refused ?_).symm
      simp only [startOn?, found, nothing]
      split
      · rfl
      · split <;> rfl
  · next unfit =>
      cases done
      exact (refused (by simp [startOn?, found, unfit])).symm
  next trigger layout given made =>
  split at done
  · next error provider refuses =>
      cases done
      rw [refused (by simp [startOn?, found, made, refuses]), outline_modifyDevice]
      · rfl
      all_goals exact fun _ => rfl
  next provider agrees =>
  have started : session.startOn? id mask = some trigger := by
    simp [startOn?, found, idle, ready, made, agrees, given]
  have paced : session.outline.paced id = some trigger := by
    simp [outline, paced?, found, given]
  have known := furnished id trigger paced
  rw [moves, started]
  obtain ⟨⟨answer, asked⟩, starting, finished⟩ := Option.map_eq_some_iff.1 done
  obtain ⟨still, willing⟩ := startTrigger_outline _ starting
  have begun := outline_start (session.note (.program id mask)) found known
    (fun device => device.begun provider layout mask) rfl (fun _ => rfl) fun _ => rfl
  have same := willStart_attach
    ((session.note (.program id mask)).modifyDevice id fun device => device.begun provider layout mask)
    id trigger
  have attached : asked.outline = session.outline.apply (.start id trigger) := still.trans begun
  have willing : session.willStart trigger = true ↔ answer = .ok () :=
    (iff_of_eq (congrArg (· = true) same.symm)).trans willing
  cases answer with
  | ok _ =>
      cases finished
      simp only [willing.2 rfl, if_true, outline_report, attached]
      rfl
  | error error =>
      have unwilling : session.willStart trigger = false := by simpa using willing
      cases finished
      simp only [unwilling, Bool.false_eq_true, if_false, outline_rest,
        outline_detach _ _ Trigger.detach_consumer, attached]
      rfl

theorem createSoftware_outline (kind name : String) :
    (session.createSoftware kind name).2.outline =
      (session.moves (.createSoftware kind name : Command F H)).foldl Outline.apply
        session.outline := by
  rw [createSoftware, moves]
  by_cases unknown : kind ≠ timerKind
  · simp [unknown]
  · by_cases taken : (session.software? name).isSome
    · simp [unknown, taken]
    · simp only [unknown, taken, if_false, decide_false, Bool.or_self, Bool.false_eq_true,
        List.foldl_cons, List.foldl_nil, ← session.outline_addTrigger name (.timed {})]
      rfl

theorem destroySoftware_outline (id : TriggerId) :
    (session.destroySoftware id).2.outline =
      (session.moves (.destroySoftware id : Command F H)).foldl Outline.apply session.outline := by
  rw [destroySoftware, moves]
  cases session.software.contains id with
  | false => rfl
  | true =>
      exact outline_detach { session with software := session.software.erase id } id
        fun trigger => trigger.stop.2.detach_consumer

theorem assign_outline (id : DeviceId) (trigger : TriggerId) :
    (if (session.trigger? trigger).isSome then (session.setTrigger id trigger).2
        else session).outline =
      (session.moves (.assign id trigger : Command F H)).foldl Outline.apply session.outline := by
  rw [moves]
  cases (session.trigger? trigger).isSome with
  | false => rfl
  | true =>
      rw [setTrigger]
      cases found : session.device? id with
      | none => rfl
      | some device =>
          cases barred : device.pinned || device.capturing with
          | true => simp [barred, -Bool.not_or]
          | false =>
              simp only [barred, if_true, Bool.false_eq_true, if_false, Option.any_some,
                Bool.not_false, Bool.and_self, List.foldl_cons, List.foldl_nil]
              exact session.outline_give found trigger rfl (fun _ => rfl) fun _ => rfl

theorem pin_outline (id : DeviceId) (trigger : TriggerId) :
    (if (session.trigger? trigger).isSome then session.pinTrigger id trigger
        else session).outline =
      (session.moves (.pin id trigger : Command F H)).foldl Outline.apply session.outline := by
  rw [moves]
  cases (session.trigger? trigger).isSome with
  | false => rfl
  | true =>
      cases found : session.device? id with
      | none =>
          rw [if_pos rfl, pinTrigger, session.outline_modifyDevice_absent found]
          rfl
      | some device => exact session.outline_give found trigger rfl (fun _ => rfl) fun _ => rfl

theorem register_outline (id : DeviceId) :
    (session.register id).2.outline =
      (session.moves (.register id : Command F H)).foldl Outline.apply session.outline := by
  rw [register, moves]
  cases found : session.device? id with
  | none => rfl
  | some device =>
      cases listed : session.listed.contains id with
      | true => simp
      | false =>
          refine Outline.ext (funext fun other => ?_) (funext fun other => ?_) rfl rfl
            (funext fun other => ?_) rfl
          · exact (session.capturing_modifyDevice _ _ _).trans (ite_self _)
          · exact (session.paced?_modifyDevice _ _ _).trans (ite_self _)
          · refine (session.registered_modifyDevice _ _ _).trans ?_
            by_cases same : other = id <;> simp [same, found, Outline.apply, outline]

/-- **A command does what its moves say, and no more.** -/
theorem perform_outline (furnished : session.outline.Furnished) {command : Command F H}
    {after : Session F H} (done : session.perform command = some after) :
    after.outline = (session.moves command).foldl Outline.apply session.outline := by
  cases command with
  | makeDevice name channels provider =>
      cases done
      exact session.outline_addDevice name channels provider
  | makeTrigger name source =>
      cases done
      exact session.outline_addTrigger name source
  | createSoftware kind name =>
      cases done
      exact session.createSoftware_outline kind name
  | destroySoftware trigger =>
      cases done
      exact session.destroySoftware_outline trigger
  | setFrequency trigger hertz =>
      cases done
      exact session.setFrequency_outline trigger hertz
  | hold device =>
      cases done
      exact outline_modifyDevice _ _ (fun _ => rfl) (fun _ => rfl) fun _ => rfl
  | release device =>
      cases done
      exact outline_modifyDevice _ _ (fun _ => rfl) (fun _ => rfl) fun _ => rfl
  | reconsider id provider =>
      cases done
      exact outline_modifyDevice _ _ (fun _ => rfl) (fun _ => rfl) fun _ => rfl
  | rehook id onStart onStop =>
      cases done
      exact outline_modifyTrigger _ _ (Trigger.rehook_consumer · onStart onStop)
  | setup id handler =>
      cases done
      exact session.setup_outline id handler
  | cleanup id =>
      cases done
      exact session.cleanup_outline id
  | assign id trigger =>
      cases done
      exact session.assign_outline id trigger
  | pin id trigger =>
      cases done
      exact session.pin_outline id trigger
  | enable id mask =>
      obtain ⟨⟨result, later⟩, started, same⟩ := Option.map_eq_some_iff.1 done
      cases same
      exact session.enable_outline furnished started
  | disable id =>
      cases done
      exact (session.disable_outline id).1
  | register id =>
      cases done
      exact session.register_outline id
  | unregister id =>
      cases done
      exact session.unregister_outline id
  | read id position asked =>
      obtain ⟨⟨result, later⟩, answered, same⟩ := Option.map_eq_some_iff.1 done
      cases same
      exact session.read_outline answered
  | push id samples time =>
      cases done
      exact session.push_outline id samples time
  | readScan id =>
      cases done
      exact session.readScan_outline id
  | readBytes id size =>
      cases done
      exact session.readBytes_outline id size
  | poll id time => exact session.poll_outline done
  | tick id time => exact session.tick_outline done
  | notifyDone id =>
      cases done
      exact outline_modifyTrigger _ _ fun _ => rfl

/-- Devices are given only triggers that are there. -/
theorem known_of_give {command : Command F H} {device : DeviceId} {trigger : TriggerId}
    (given : Move.give device trigger ∈ session.moves command) :
    session.outline.known trigger = true := by
  have absent (id : DeviceId) : Move.give device trigger ∉ session.halt id := by
    rw [halt]
    split
    · split <;> simp
    · exact List.not_mem_nil
  cases command with
  | assign id pacer | pin id pacer =>
      simp only [moves] at given
      split at given
      · next allowed =>
          cases List.mem_singleton.1 given
          exact (Bool.and_eq_true_iff.1 allowed).1
      · cases given
  | disable id | cleanup id => exact absurd given (absent id)
  | unregister id =>
      simp only [moves] at given
      split at given
      · cases given
      · rw [List.cons_append, List.mem_cons, List.mem_append] at given
        rcases given with struck | halted | unnumbered
        · cases struck
        · exact absurd halted (absent id)
        · split at unnumbered <;> simp at unnumbered
  | enable id mask =>
      simp only [moves] at given
      split at given
      · cases given
      · split at given <;> simp at given
  | createSoftware kind name | destroySoftware id | register id =>
      simp only [moves] at given
      split at given <;> simp at given
  | _ => simp [moves] at given

theorem perform_furnished (furnished : session.outline.Furnished) {command : Command F H}
    {after : Session F H} (done : session.perform command = some after) :
    after.outline.Furnished := by
  rw [session.perform_outline furnished done]
  exact furnished.foldl fun _ _ given => session.known_of_give given

end Perform

end Session

end Acquisition
