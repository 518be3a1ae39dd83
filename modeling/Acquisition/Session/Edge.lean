/-
# Acquisition.Session.Edge — raising edges

An edge reaches the living consumer of a trigger. If the last edge is still in hand
it is dropped and counted as missed. Otherwise it is taken in hand and the handler
runs, if the consumer has one and is being captured; if not, the edge is done at
once.

A handler that runs may raise edges of the same trigger, and each is dealt with, with
all that it brings about, before the handler goes on. So `Encounter.play` keeps what
is left to be done as a list of acts, and puts the acts of a run that begins in front
of it. All of them concern one trigger and one device: they are carried out on these
two alone (`Encounter`) and put back into the session at the end. Play comes to an end
because an edge that runs a handler is either one of those still to be raised or uses
up the handler's budget (`sweep_paid`).
-/

import Acquisition.Session.Basic

namespace Acquisition

set_option autoImplicit false

/-- A trigger and its consumer while edges are handled, and what was noted, newest first. -/
structure Encounter (F H : Type) where
  triggerId : TriggerId
  deviceId : DeviceId
  trigger : Trigger
  device : Device F H
  noted : List Entry := []

namespace Encounter

variable {F H : Type}

/-- Notes log lines. -/
def report (encounter : Encounter F H) (lines : List LogLine) : Encounter F H :=
  { encounter with noted := (lines.map Entry.line).reverse ++ encounter.noted }

/-- Drops an edge. -/
def miss (encounter : Encounter F H) : Encounter F H :=
  { encounter with trigger := encounter.trigger.miss }.report [encounter.trigger.missLine]

/-- Reports the edge in hand done. -/
def finish (encounter : Encounter F H) : Encounter F H :=
  { encounter with trigger := encounter.trigger.finish }

/-- Takes an edge in hand that no handler runs for, which is done at once. -/
def pass (encounter : Encounter F H) : Encounter F H :=
  { encounter with trigger := encounter.trigger.take }.finish

/-- Pushes what a handler has to push. -/
def push (encounter : Encounter F H) : Option (List UInt16 × Int64) → Encounter F H
  | none => encounter
  | some (samples, time) =>
      let done := encounter.device.push samples time
      { encounter with device := done.1 }.report done.2

/-- The handler that runs for an edge. -/
def handler? (encounter : Encounter F H) : Option H :=
  if encounter.device.capturing then encounter.device.handler else none

/-- Takes an edge in hand and begins the run of the handler, as far as its acts. -/
def enter (encounter : Encounter F H) (time : Int64) (turn : Turn) (handler : H) (provider : F)
    (lines : List LogLine) : Encounter F H :=
  let trigger := encounter.trigger.take
  let device := { encounter.device with handler := some handler, provider }
  let noted := .event (.handle encounter.deviceId encounter.triggerId time) :: encounter.noted
  ({ encounter with trigger, device, noted }.report lines).push turn.record

theorem push_trigger (encounter : Encounter F H) (record : Option (List UInt16 × Int64)) :
    (encounter.push record).trigger = encounter.trigger := by
  cases record <;> rfl

theorem push_device (encounter : Encounter F H) (record : Option (List UInt16 × Int64)) :
    ∃ buffer, (encounter.push record).device = { encounter.device with buffer } := by
  cases record with
  | none => exact ⟨_, rfl⟩
  | some entry =>
      obtain ⟨samples, time⟩ := entry
      simp only [push, report, Device.push]
      split <;> exact ⟨_, rfl⟩

theorem enter_trigger (encounter : Encounter F H) (time : Int64) (turn : Turn) (handler : H)
    (provider : F) (lines : List LogLine) :
    (encounter.enter time turn handler provider lines).trigger = encounter.trigger.take :=
  push_trigger _ _

theorem enter_device (encounter : Encounter F H) (time : Int64) (turn : Turn) (handler : H)
    (provider : F) (lines : List LogLine) :
    ∃ buffer, (encounter.enter time turn handler provider lines).device =
      { encounter.device with handler := some handler, provider, buffer } :=
  push_device _ _

/-- The handler that runs is the one the consumer has. -/
theorem handler_of_runs {encounter : Encounter F H} {handler : H}
    (found : encounter.handler? = some handler) : encounter.device.handler = some handler := by
  rw [handler?] at found
  split at found
  · exact found
  · cases found

theorem capturing_of_runs {encounter : Encounter F H} {handler : H}
    (found : encounter.handler? = some handler) : encounter.device.capturing = true := by
  rw [handler?] at found
  split at found
  · assumption
  · cases found

/-- Carries out acts up to the first edge that runs a handler. What is left then is this
handler and the acts behind the edge. -/
def sweep : List Act → Encounter F H → Encounter F H × Option (H × List Act)
  | [], encounter => (encounter, none)
  | .report :: rest, encounter => sweep rest encounter.finish
  | .raise :: rest, encounter =>
      if encounter.trigger.busy then sweep rest encounter.miss
      else
        match encounter.handler? with
        | none => sweep rest encounter.pass
        | some handler => (encounter, some (handler, rest))

/-- A bound on the edges the consumer's handler raises itself from now on. -/
def budget [Provider F H] (encounter : Encounter F H) : Nat :=
  match encounter.device.handler with
  | some handler => Provider.budget handler encounter.device.provider
  | none => 0

/-- The edges still to be raised that may be delivered: until the next report, a trigger that is
busy drops them all. -/
def pending (encounter : Encounter F H) (acts : List Act) : Nat :=
  if encounter.trigger.busy then Act.behind acts else acts.count .raise

theorem pending_report (encounter : Encounter F H) (rest : List Act) :
    encounter.pending (.report :: rest) = rest.count .raise := by
  rw [pending, Act.behind, List.count_cons_of_ne (by simp), ite_self]

section Play

variable [Provider F H]

theorem budget_enter (encounter : Encounter F H) (time : Int64) (turn : Turn) (handler : H)
    (provider : F) (lines : List LogLine) :
    (encounter.enter time turn handler provider lines).budget =
      Provider.budget handler provider := by
  obtain ⟨buffer, same⟩ := encounter.enter_device time turn handler provider lines
  rw [budget, same]

/-- An edge that runs a handler was one of those still to be raised. -/
theorem sweep_paid {acts rest : List Act} {encounter met : Encounter F H} {handler : H}
    (swept : encounter.sweep acts = (met, some (handler, rest))) :
    rest.count .raise < encounter.pending acts ∧
      encounter.budget = Provider.budget handler met.device.provider := by
  fun_induction sweep acts encounter with
  | case1 encounter => cases swept
  | case2 rest encounter ih =>
      obtain ⟨fewer, same⟩ := ih swept
      exact ⟨by rwa [pending_report], same⟩
  | case3 rest encounter busy ih =>
      obtain ⟨fewer, same⟩ := ih swept
      have still : encounter.miss.trigger.busy = true := busy
      rw [pending, if_pos still] at fewer
      exact ⟨by rwa [pending, if_pos busy, Act.behind], same⟩
  | case4 rest encounter free idle ih =>
      obtain ⟨fewer, same⟩ := ih swept
      have done : encounter.pass.trigger.busy = false := rfl
      rw [pending, done, if_neg Bool.false_ne_true] at fewer
      exact ⟨by rw [pending, if_neg free, List.count_cons_self]; omega, same⟩
  | case5 rest encounter free handler found =>
      cases swept
      rw [pending, if_neg free, List.count_cons_self, budget, handler_of_runs found]
      exact ⟨Nat.lt_succ_self _, rfl⟩

/-- A run of the handler is paid for by its edge and out of the handler's budget. -/
theorem enter_paid {time : Int64} {acts rest : List Act} {encounter met : Encounter F H}
    {handler next : H} {turn : Turn} {provider : F} {lines : List LogLine}
    (swept : encounter.sweep acts = (met, some (handler, rest)))
    (handled : Provider.handle time handler met.device.provider =
      some (turn, next, provider, lines)) :
    let after := met.enter time turn next provider lines
    after.pending (turn.acts ++ rest) + after.budget < encounter.pending acts + encounter.budget := by
  intro after
  obtain ⟨fewer, same⟩ := sweep_paid swept
  have paid := Provider.budget_le _ _ _ _ _ _ _ handled
  have raised := Act.behind_append turn.acts rest
  have busy : after.trigger.busy = true :=
    congrArg Trigger.busy (met.enter_trigger time turn next provider lines)
  have left : after.budget = Provider.budget next provider :=
    met.budget_enter time turn next provider lines
  rw [pending, if_pos busy, left]
  omega

/-- Carries out acts in order, each together with all that it brings about; `none` if a handler
breaks down. -/
def play (time : Int64) (acts : List Act) (encounter : Encounter F H) :
    Option (Encounter F H) :=
  match _swept : encounter.sweep acts with
  | (met, none) => some met
  | (met, some (handler, rest)) =>
      match _handled : Provider.handle time handler met.device.provider with
      | none => none
      | some (turn, handler, provider, lines) =>
          play time (turn.acts ++ rest) (met.enter time turn handler provider lines)
termination_by encounter.pending acts + encounter.budget
decreasing_by exact enter_paid _swept _handled

theorem play_eq (time : Int64) (acts : List Act) (encounter : Encounter F H) :
    encounter.play time acts =
      match encounter.sweep acts with
      | (met, none) => some met
      | (met, some (handler, rest)) =>
          (Provider.handle time handler met.device.provider).bind
            fun (turn, handler, provider, lines) =>
              (met.enter time turn handler provider lines).play time (turn.acts ++ rest) := by
  rw [play]
  split
  · next met swept => rw [swept]
  · next met handler rest swept =>
      rw [swept]
      dsimp only
      split
      · next broken => rw [broken, Option.bind_none]
      · next turn next provider lines handled => rw [handled, Option.bind_some]

/-! Act by act -/

variable {time : Int64} {rest : List Act} {encounter : Encounter F H}

@[simp] theorem play_nil : encounter.play time [] = some encounter := by
  rw [play_eq, sweep]

@[simp] theorem play_report :
    encounter.play time (.report :: rest) = encounter.finish.play time rest := by
  rw [play_eq, sweep, ← play_eq]

theorem play_miss (busy : encounter.trigger.busy = true) :
    encounter.play time (.raise :: rest) = encounter.miss.play time rest := by
  rw [play_eq, sweep, if_pos busy, ← play_eq]

theorem play_pass (free : encounter.trigger.busy = false) (idle : encounter.handler? = none) :
    encounter.play time (.raise :: rest) = encounter.pass.play time rest := by
  rw [play_eq, sweep, free, if_neg Bool.false_ne_true, idle, ← play_eq]

theorem play_enter {handler : H} (free : encounter.trigger.busy = false)
    (found : encounter.handler? = some handler) :
    encounter.play time (.raise :: rest) =
      (Provider.handle time handler encounter.device.provider).bind
        fun (turn, handler, provider, lines) =>
          (encounter.enter time turn handler provider lines).play time (turn.acts ++ rest) := by
  rw [play_eq, sweep, free, if_neg Bool.false_ne_true, found]

/-- What is kept by whatever can happen while edges are handled. -/
structure Lasting (good : Encounter F H → Prop) : Prop where
  miss : ∀ encounter, good encounter → good encounter.miss
  finish : ∀ encounter, good encounter → good encounter.finish
  pass : ∀ encounter, good encounter → good encounter.pass
  enter : ∀ encounter time turn handler provider lines, good encounter →
    good (encounter.enter time turn handler provider lines)

/-- It is kept by any acts with all that they bring about. -/
theorem Lasting.play {good : Encounter F H → Prop} (lasting : Lasting good) {acts : List Act}
    {encounter last : Encounter F H} (played : encounter.play time acts = some last)
    (here : good encounter) : good last := by
  have swept : ∀ (acts : List Act) (encounter : Encounter F H), good encounter →
      good (encounter.sweep acts).1 := by
    intro acts encounter here
    fun_induction sweep acts encounter with
    | case1 encounter => exact here
    | case2 rest encounter ih => exact ih (lasting.finish encounter here)
    | case3 rest encounter busy ih => exact ih (lasting.miss encounter here)
    | case4 rest encounter free idle ih => exact ih (lasting.pass encounter here)
    | case5 rest encounter free handler found => exact here
  fun_induction Encounter.play time acts encounter with
  | case1 acts encounter met clean =>
      have kept := swept acts encounter here
      rw [clean] at kept
      exact Option.some.inj played ▸ kept
  | case2 acts encounter met handler rest reached broken => cases played
  | case3 acts encounter met handler rest reached turn next provider lines handled ih =>
      have kept := swept acts encounter here
      rw [reached] at kept
      exact ih played (lasting.enter met time turn next provider lines kept)

end Play

end Encounter

namespace Session

variable {F H : Type}

/-- Raises one edge of a trigger. -/
def poll [Provider F H] (session : Session F H) (id : TriggerId) (time : Int64) :
    Option (Session F H) :=
  match session.trigger? id, session.consumer? id with
  | some trigger, some deviceId =>
      match session.device? deviceId with
      | none => some session
      | some device =>
          (Encounter.play time [.raise] { triggerId := id, deviceId, trigger, device }).map fun met =>
            { (session.modifyTrigger id fun _ => met.trigger).modifyDevice deviceId
                fun _ => met.device with
              journal := met.noted ++ session.journal }
  | _, _ => some session

/-- Lets the timer of a trigger raise one edge, if it is running. -/
def tick [Provider F H] (session : Session F H) (id : TriggerId) (time : Int64) :
    Option (Session F H) :=
  match (session.trigger? id).map Trigger.source with
  | some (.timed timer) => if timer.running then session.poll id time else some session
  | _ => some session

/-- Raises so many edges of a trigger, one after the other. -/
def pollMany [Provider F H] (id : TriggerId) (time : Int64) :
    Nat → Session F H → Option (Session F H)
  | 0, session => some session
  | count + 1, session =>
      match session.poll id time with
      | none => none
      | some session => pollMany id time count session

/-- Reports the edge in hand done. -/
def notifyDone (session : Session F H) (id : TriggerId) : Session F H :=
  session.modifyTrigger id Trigger.finish

end Session

end Acquisition
