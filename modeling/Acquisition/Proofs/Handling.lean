/-
# Acquisition.Proofs.Handling — whose handler an edge runs

An edge is given to the handler of the living consumer of its trigger and to no other, and only
while the capture of that device is on: an edge that reaches a device whose capture is off leaves
the device as it is and comes through (`poll_idle`, `poll_comes_through`). So do any number of
edges (`pollAll_idle`).
-/
import Acquisition.Proofs.Counters

namespace Acquisition

set_option autoImplicit false

namespace Encounter

variable {F H : Type}

/-! ## Edges -/

/-- The same consumer, and nothing noted of a handler. -/
structure Silent (before after : Encounter F H) : Prop where
  consumer : after.deviceId = before.deviceId
  handled : ∀ id, handlings id after.noted = handlings id before.noted

namespace Silent

theorem refl (encounter : Encounter F H) : Silent encounter encounter :=
  ⟨rfl, fun _ => rfl⟩

theorem trans {first second third : Encounter F H} (left : Silent first second)
    (right : Silent second third) : Silent first third :=
  ⟨right.consumer.trans left.consumer, fun id => (right.handled id).trans (left.handled id)⟩

theorem miss (encounter : Encounter F H) : Silent encounter encounter.miss :=
  ⟨rfl, fun id => handlings_lines id _ encounter.noted⟩

theorem finish (encounter : Encounter F H) : Silent encounter encounter.finish :=
  ⟨rfl, fun _ => rfl⟩

theorem pass (encounter : Encounter F H) : Silent encounter encounter.pass :=
  ⟨rfl, fun _ => rfl⟩

theorem push (encounter : Encounter F H) (record : Option (List UInt16 × Int64)) :
    Silent encounter (encounter.push record) := by
  cases record with
  | none => exact .refl encounter
  | some entry => exact ⟨rfl, fun id => handlings_lines id _ encounter.noted⟩

end Silent

/-- The same consumer, and nothing noted of a handler but its own. -/
def Private (before after : Encounter F H) : Prop :=
  after.deviceId = before.deviceId ∧ ∀ id, id ≠ before.deviceId →
    handlings id after.noted = handlings id before.noted

theorem Private.silent {first second third : Encounter F H} (left : Private first second)
    (right : Silent second third) : Private first third :=
  ⟨right.consumer.trans left.1, fun id other => (right.handled id).trans (left.2 id other)⟩

theorem lasting_private (start : Encounter F H) : Lasting (Private start) where
  miss encounter here := here.silent (.miss encounter)
  finish encounter here := here.silent (.finish encounter)
  pass encounter here := here.silent (.pass encounter)
  enter encounter time turn handler provider lines here := by
    let noted := .event (.handle encounter.deviceId encounter.triggerId time) :: encounter.noted
    have entered : Private start ({ encounter with
        trigger := encounter.trigger.take
        device := { encounter.device with handler := some handler, provider }
        noted := noted }.report lines) := by
      refine ⟨here.1, fun id other => ?_⟩
      have unnamed : (Entry.event (.handle encounter.deviceId encounter.triggerId time)).handles
          id = false := decide_eq_false fun same => other (same.symm.trans here.1)
      exact ((handlings_lines id lines noted).trans
        (List.countP_cons_of_neg (by simp [unnamed]))).trans (here.2 id other)
    exact entered.silent (.push _ turn.record)

variable [Provider F H] {time : Int64}

/-- No handler but that of the consumer is given an edge. -/
theorem play_others {acts : List Act} {encounter after : Encounter F H}
    (played : encounter.play time acts = some after) : Private encounter after :=
  (lasting_private encounter).play played ⟨rfl, fun _ _ => rfl⟩

/-- Edges that reach a device whose capture is off run no handler, and they all come through. -/
theorem play_off : ∀ (acts : List Act) {encounter : Encounter F H},
    encounter.device.capturing = false →
      ∃ after, encounter.play time acts = some after ∧ Silent encounter after ∧
        after.device = encounter.device
  | [], encounter, _ => ⟨encounter, play_nil, .refl encounter, rfl⟩
  | .report :: rest, encounter, off => by
      obtain ⟨after, played, silent, same⟩ :=
        play_off rest (show encounter.finish.device.capturing = false from off)
      exact ⟨after, play_report.trans played, .trans (.finish encounter) silent, same⟩
  | .raise :: rest, encounter, off => by
      cases held : encounter.trigger.busy with
      | true =>
          obtain ⟨after, played, silent, same⟩ :=
            play_off rest (show encounter.miss.device.capturing = false from off)
          exact ⟨after, (play_miss held).trans played, .trans (.miss encounter) silent, same⟩
      | false =>
          obtain ⟨after, played, silent, same⟩ :=
            play_off rest (show encounter.pass.device.capturing = false from off)
          have idle : encounter.handler? = none := by
            rw [handler?]
            exact if_neg (by simp [off])
          exact ⟨after, (play_pass held idle).trans played, .trans (.pass encounter) silent, same⟩

end Encounter

namespace Session

variable {F H : Type}

/-! ## Polls -/

theorem of_encounter? {session : Session F H} {trigger : TriggerId} {encounter : Encounter F H}
    (met : session.encounter? trigger = some encounter) :
    session.device? encounter.deviceId = some encounter.device ∧ encounter.noted = [] := by
  obtain ⟨pacer, _, met⟩ := Option.bind_eq_some_iff.1 met
  obtain ⟨deviceId, _, met⟩ := Option.bind_eq_some_iff.1 met
  obtain ⟨device, there, rfl⟩ := Option.map_eq_some_iff.1 met
  exact ⟨there, rfl⟩

section Poll

variable [Provider F H] {session after : Session F H} {id : DeviceId} {trigger : TriggerId}
  {time : Int64}

/-- **An edge leaves a device as it is whose capture is off**, and does not run its handler. -/
theorem poll_idle (off : session.capturing id = false)
    (polled : session.poll trigger time = some after) :
    after.device? id = session.device? id ∧ after.handled id = session.handled id := by
  rw [poll_eq] at polled
  cases met : session.encounter? trigger with
  | none =>
      rw [met] at polled
      cases polled
      exact ⟨rfl, rfl⟩
  | some encounter =>
      rw [met] at polled
      obtain ⟨there, fresh⟩ := of_encounter? met
      obtain ⟨done, played, same⟩ := Option.map_eq_some_iff.1 polled
      cases same
      have unnoted : handlings id encounter.noted = 0 := by
        rw [fresh]
        rfl
      by_cases consumer : id = encounter.deviceId
      · rw [consumer, Session.capturing, there, Option.any_some] at off
        obtain ⟨last, playedOff, silent, kept⟩ := Encounter.play_off [.raise] off
        cases played.symm.trans playedOff
        refine ⟨?_, handled_append rfl ((silent.handled id).trans unnoted)⟩
        have put := device?_modifyDevice (session.modifyTrigger trigger fun _ => done.trigger)
          encounter.deviceId fun _ => done.device
        rw [device?_modifyTrigger, there, Option.map_some] at put
        rw [consumer, there]
        exact put.trans (congrArg some kept)
      · have others := (Encounter.play_others played).2 id consumer
        exact ⟨device?_modifyDevice_other _ consumer _, handled_append rfl (others.trans unnoted)⟩

/-- An edge that reaches a device whose capture is off comes through. -/
theorem poll_comes_through (off : session.capturing id = false)
    (consumer : session.consumer? trigger = some id) (time : Int64) :
    ∃ after, session.poll trigger time = some after := by
  rw [poll_eq]
  cases met : session.encounter? trigger with
  | none => exact ⟨session, rfl⟩
  | some encounter =>
      obtain ⟨pacer, _, bound⟩ := Option.bind_eq_some_iff.1 met
      obtain ⟨deviceId, same, bound⟩ := Option.bind_eq_some_iff.1 bound
      obtain ⟨device, there, rfl⟩ := Option.map_eq_some_iff.1 bound
      cases consumer.symm.trans same
      rw [Session.capturing, there, Option.any_some] at off
      let reached : Encounter F H := { triggerId := trigger, deviceId := id, trigger := pacer, device }
      have idle : reached.device.capturing = false := off
      obtain ⟨last, played, _⟩ := Encounter.play_off [.raise] idle
      exact ⟨_, congrArg (Option.map _) played⟩

/-- Raises edges of any triggers, one after the other. -/
def pollAll : List (TriggerId × Int64) → Session F H → Option (Session F H)
  | [], session => some session
  | (trigger, time) :: rest, session =>
      match session.poll trigger time with
      | none => none
      | some after => pollAll rest after

theorem pollAll_idle : ∀ {edges : List (TriggerId × Int64)} {session after : Session F H},
    session.capturing id = false → pollAll edges session = some after →
      after.device? id = session.device? id ∧ after.handled id = session.handled id
  | [], session, after, _, polled => by
      cases polled
      exact ⟨rfl, rfl⟩
  | (trigger, time) :: rest, session, after, off, polled => by
      rw [pollAll] at polled
      split at polled
      · cases polled
      · next later first =>
          obtain ⟨device, handled⟩ := poll_idle off first
          have still : later.capturing id = false := by
            rw [Session.capturing, device]
            exact off
          obtain ⟨deviceToo, handledToo⟩ := pollAll_idle still polled
          exact ⟨deviceToo.trans device, handledToo.trans handled⟩

end Poll

end Session

end Acquisition
