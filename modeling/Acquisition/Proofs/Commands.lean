/-
# Acquisition.Proofs.Commands — a session under any commands

Everything that can be asked of a session is a `Command`: devices and triggers are made,
held and let go, hooks and providers change their minds, captures are prepared, started and
stopped, devices are registered, edges are raised, scans are taken. `Session.trace` lists
the steps of a run, each with the session before it and after it.

`trace_exact` is how an invariant with known exceptions is proved of runs: it holds all along
a run just if none of the steps is one of the exceptions.
-/
import Acquisition.Session.Edge
import Acquisition.Session.Registry
import Acquisition.Session.Software

namespace Acquisition

set_option autoImplicit false

/-! ## Commands -/

/-- Something asked of a session. -/
inductive Command (F H : Type) where
  | makeDevice (name : String) (channels : List Channel) (provider : F)
  | makeTrigger (name : String) (source : Source)
  | createSoftware (kind name : String)
  | destroySoftware (trigger : TriggerId)
  | setFrequency (trigger : TriggerId) (hertz : Nat)
  | hold (device : DeviceId)
  | release (device : DeviceId)
  /-- What stands behind a device changes, and with it what it agrees to. -/
  | reconsider (device : DeviceId) (provider : F)
  /-- A hook changes what it refuses from now on. -/
  | rehook (trigger : TriggerId) (onStart onStop : Option Error)
  | setup (device : DeviceId) (handler : H)
  | cleanup (device : DeviceId)
  | assign (device : DeviceId) (trigger : TriggerId)
  /-- A device is given a trigger, there to stay. -/
  | pin (device : DeviceId) (trigger : TriggerId)
  | enable (device : DeviceId) (mask : ScanMask)
  | disable (device : DeviceId)
  | register (device : DeviceId)
  | unregister (device : DeviceId)
  | read (device : DeviceId) (position : Nat) (asked : Attribute)
  | push (device : DeviceId) (samples : List UInt16) (time : Int64)
  | readScan (device : DeviceId)
  | readBytes (device : DeviceId) (size : Nat)
  | poll (trigger : TriggerId) (time : Int64)
  | tick (trigger : TriggerId) (time : Int64)
  | notifyDone (trigger : TriggerId)

/-- Changes what the hook of a trigger refuses, if it has one. -/
def Trigger.rehook (trigger : Trigger) (onStart onStop : Option Error) : Trigger :=
  match trigger.source with
  | .hooked _ _ => { trigger with source := .hooked onStart onStop }
  | _ => trigger

namespace Session

variable {F H : Type}

/-- What a command makes of a session; `none` if something breaks down. Only a trigger that
is there can be given to a device. -/
def perform [Provider F H] (session : Session F H) : Command F H → Option (Session F H)
  | .makeDevice name channels provider => some (session.addDevice name channels provider).2
  | .makeTrigger name source => some (session.addTrigger name source).2
  | .createSoftware kind name => some (session.createSoftware kind name).2
  | .destroySoftware trigger => some (session.destroySoftware trigger).2
  | .setFrequency trigger hertz => some (session.setFrequency trigger hertz).2
  | .hold device => some (session.hold device)
  | .release device => some (session.release device)
  | .reconsider id provider => some (session.modifyDevice id fun device => { device with provider })
  | .rehook id onStart onStop =>
      some (session.modifyTrigger id fun trigger => trigger.rehook onStart onStop)
  | .setup device handler => some (session.setup device handler).2
  | .cleanup device => some (session.cleanup device)
  | .assign device trigger =>
      some (if (session.trigger? trigger).isSome then (session.setTrigger device trigger).2
        else session)
  | .pin device trigger =>
      some (if (session.trigger? trigger).isSome then session.pinTrigger device trigger
        else session)
  | .enable device mask => (session.enable device mask).map Prod.snd
  | .disable device => some (session.disable device).2
  | .register device => some (session.register device).2
  | .unregister device => some (session.unregister device).2
  | .read device position asked => (session.read device position asked).map Prod.snd
  | .push device samples time => some (session.push device samples time)
  | .readScan device => some (session.readScan device).2
  | .readBytes device size => some (session.readBytes device size).2
  | .poll trigger time => session.poll trigger time
  | .tick trigger time => session.tick trigger time
  | .notifyDone trigger => some (session.notifyDone trigger)

/-- One command, with the session before it and after it. -/
structure Step (F H : Type) where
  before : Session F H
  command : Command F H
  after : Session F H

/-- The steps of a run, up to the first command that breaks something down. -/
def trace [Provider F H] : List (Command F H) → Session F H → List (Step F H)
  | [], _ => []
  | command :: rest, session =>
      match session.perform command with
      | none => []
      | some after => ⟨session, command, after⟩ :: trace rest after

section Trace

variable [Provider F H]

/-- What every step preserves holds all along a run. -/
theorem trace_kept {good : Session F H → Prop}
    (kept : ∀ session command after, session.perform command = some after → good session →
      good after) :
    ∀ (commands : List (Command F H)) (start : Session F H), good start →
      ∀ step ∈ trace commands start, good step.after
  | [], _, _, _, member => by simp [trace] at member
  | command :: rest, start, here, step, member => by
      rw [trace] at member
      split at member
      · simp at member
      · next after performed =>
          have next := kept start command after performed here
          rcases List.mem_cons.1 member with rfl | later
          · exact next
          · exact trace_kept kept rest after next step later

/-- What every step of the commands keeps, of the session and of the steps up to it, holds all along
their run. -/
theorem trace_past {commands : List (Command F H)} {good : List (Step F H) → Session F H → Prop}
    (kept : ∀ past session, ∀ command ∈ commands, ∀ after, session.perform command = some after →
      good past session → good (past ++ [⟨session, command, after⟩]) after)
    {start : Session F H} {past steps : List (Step F H)} {step : Step F H}
    (here : good past start) (ran : steps ++ [step] <+: trace commands start) :
    good (past ++ steps) step.before ∧ step.before.perform step.command = some step.after ∧
      good (past ++ (steps ++ [step])) step.after := by
  induction commands generalizing start past steps with
  | nil => simp [trace] at ran
  | cons command rest ih =>
      rw [trace] at ran
      split at ran
      · simp at ran
      · next after performed =>
          have next := kept past start command List.mem_cons_self after performed here
          cases steps with
          | nil =>
              rw [List.nil_append, List.cons_prefix_cons] at ran
              rw [ran.1, List.append_nil]
              exact ⟨here, performed, next⟩
          | cons first others =>
              rw [List.cons_append, List.cons_prefix_cons] at ran
              obtain ⟨rfl, remaining⟩ := ran
              have later := ih (fun past session command inside =>
                kept past session command (List.mem_cons_of_mem _ inside)) next remaining
              rwa [List.append_assoc, List.append_assoc] at later

/-- **Exactly the bad commands break it.** If every fair command but a bad one preserves what is
good, and a bad one ends what every good session shows, then a run of fair commands shows it all
along just if none of them is bad. -/
theorem trace_exact (good shown : Session F H → Prop)
    (fair bad : Session F H → Command F H → Bool)
    (shows : ∀ session, good session → shown session)
    (kept : ∀ session command after, session.perform command = some after →
      fair session command = true → good session → bad session command = false → good after)
    (broken : ∀ session command after, session.perform command = some after →
      fair session command = true → good session → bad session command = true → ¬ shown after) :
    ∀ (commands : List (Command F H)) (start : Session F H), good start →
      (∀ step ∈ trace commands start, fair step.before step.command = true) →
      ((∀ step ∈ trace commands start, shown step.after) ↔
        ∀ step ∈ trace commands start, bad step.before step.command = false)
  | [], _, _, _ => by simp [trace]
  | command :: rest, start, here, just => by
      rw [trace] at just ⊢
      split at just
      · simp
      · next after performed =>
          rw [List.forall_mem_cons] at just
          simp only [List.forall_mem_cons]
          cases worse : bad start command with
          | true =>
              have gone := broken start command after performed just.1 here worse
              exact iff_of_false (fun all => gone all.1) fun all => Bool.true_eq_false.mp all.1
          | false =>
              have next := kept start command after performed just.1 here worse
              have later := trace_exact good shown fair bad shows kept broken rest after next just.2
              exact and_congr (iff_of_true (shows after next) rfl) later

end Trace

end Session

end Acquisition
