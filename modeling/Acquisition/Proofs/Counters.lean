/-
# Acquisition.Proofs.Counters — what a trigger counts, all along a run

Raising an edge is the only command that counts on a trigger, apart from a report from outside
(`perform_edgeless`). To `watch` a poll is to carry it out with an account of what it brings about,
which makes no difference to it (`watch_poll`). So the `history` of a trigger, which is what its
edges brought about one after the other, accounts for its counters at every moment of a run, unless
somebody reports an edge done who neither handles it nor stands in for who does.
-/
import Acquisition.Proofs.EdgeAccount
import Acquisition.Proofs.Quiet
import Acquisition.Rehearsal

namespace Acquisition

set_option autoImplicit false

namespace Session

variable {F H : Type}

/-! ## Accounts -/

/-- Something is true of each trigger and its past, and a trigger that is not there has none. -/
structure Accounted (good : Trigger → List Happening → List Task → Prop) (session : Session F H)
    (pasts : TriggerId → List Happening) : Prop where
  here : ∀ id trigger, session.trigger? id = some trigger → good trigger (pasts id) []
  absent : ∀ id, session.trigger? id = none → pasts id = []

theorem Accounted.edgeless [Provider F H] {good : Trigger → List Happening → List Task → Prop}
    (invariant : Invariant F good) {session after : Session F H}
    {pasts : TriggerId → List Happening} (accounted : session.Accounted good pasts)
    (edgeless : Edgeless session after) : after.Accounted good pasts where
  here id trigger found := by
    rcases edgeless.counters id with same | ⟨absent, fresh⟩
    · rw [counters?, found, Option.map_some, eq_comm] at same
      obtain ⟨before, there, same⟩ := Option.map_eq_some_iff.1 same
      exact invariant.congr _ _ _ same.symm (accounted.here id before there)
    · rw [accounted.absent id (Option.map_eq_none_iff.1 absent)]
      rw [counters?, found, Option.map_some, Option.some.injEq] at fresh
      exact invariant.fresh trigger fresh
  absent id gone := by
    rcases edgeless.counters id with same | ⟨absent, _⟩
    · rw [counters?, gone, Option.map_none, eq_comm] at same
      exact accounted.absent id (Option.map_eq_none_iff.1 same)
    · exact accounted.absent id (Option.map_eq_none_iff.1 absent)

/-- A trigger and its living consumer, as they are when an edge is raised. -/
def encounter? (session : Session F H) (id : TriggerId) : Option (Encounter F H) :=
  (session.trigger? id).bind fun trigger =>
    (session.consumer? id).bind fun deviceId =>
      (session.device? deviceId).map fun device =>
        { triggerId := id, deviceId, trigger, device }

theorem trigger?_of_encounter? {session : Session F H} {id : TriggerId}
    {encounter : Encounter F H} (met : session.encounter? id = some encounter) :
    session.trigger? id = some encounter.trigger := by
  obtain ⟨trigger, found, met⟩ := Option.bind_eq_some_iff.1 met
  obtain ⟨deviceId, _, met⟩ := Option.bind_eq_some_iff.1 met
  obtain ⟨device, _, rfl⟩ := Option.map_eq_some_iff.1 met
  exact found

variable [Provider F H]

/-! ## The history of a trigger -/

theorem poll_eq (session : Session F H) (id : TriggerId) (time : Int64) :
    session.poll id time =
      match session.encounter? id with
      | none => some session
      | some encounter =>
          (encounter.play time [.raise]).map fun met =>
            { (session.modifyTrigger id fun _ => met.trigger).modifyDevice encounter.deviceId
                fun _ => met.device with
              journal := met.noted ++ session.journal } := by
  rw [poll, encounter?]
  cases session.trigger? id with
  | none => rfl
  | some trigger =>
      cases session.consumer? id with
      | none => rfl
      | some deviceId =>
          rw [Option.bind_some, Option.bind_some]
          dsimp only
          cases session.device? deviceId <;> rfl

/-- Raises one edge of a trigger and adds what comes of it to the past of the trigger. Nothing
comes of an edge that reaches nobody. -/
def watch (session : Session F H) (id : TriggerId) (time : Int64) (past : List Happening) :
    Option (Session F H × List Happening) :=
  match session.encounter? id with
  | none => some (session, past)
  | some encounter =>
      (Scene.play time [.edge] ⟨encounter, past⟩).map fun scene =>
        ({ (session.modifyTrigger id fun _ => scene.encounter.trigger).modifyDevice
              encounter.deviceId fun _ => scene.encounter.device with
            journal := scene.encounter.noted ++ session.journal }, scene.past)

/-- **To watch a poll makes no difference to it.** -/
theorem watch_poll (session : Session F H) (id : TriggerId) (time : Int64)
    (past : List Happening) : (session.watch id time past).map Prod.fst = session.poll id time := by
  rw [watch, poll_eq]
  cases session.encounter? id with
  | none => rfl
  | some encounter =>
      have played := Scene.play_encounter time [.edge] ⟨encounter, past⟩
      rw [List.map_singleton, Task.edge] at played
      dsimp only
      rw [← played, Option.map_map, Option.map_map]
      rfl

/-- The past of a trigger after an edge. -/
def hear (session : Session F H) (id : TriggerId) (time : Int64) (past : List Happening) :
    List Happening :=
  ((session.watch id time past).map Prod.snd).getD past

/-- The past of a trigger with one step of a run added, newest first. -/
def follow (id : TriggerId) (past : List Happening) (step : Step F H) : List Happening :=
  match step.before.raises? step.command with
  | some (other, time) => if other = id then step.before.hear id time past else past
  | none => past

/-- What has happened to a trigger in the steps of a run, newest first. -/
def history (id : TriggerId) (steps : List (Step F H)) : List Happening :=
  steps.foldl (follow id) []

section Invariant

variable {good : Trigger → List Happening → List Task → Prop} (invariant : Invariant F good)

include invariant

/-- An edge, with all edges that the handler raises in turn. -/
theorem Accounted.poll {session after : Session F H} {pasts : TriggerId → List Happening}
    (accounted : session.Accounted good pasts) {id : TriggerId} {time : Int64}
    (polled : session.poll id time = some after) :
    after.Accounted good fun other =>
      if id = other then session.hear other time (pasts other) else pasts other := by
  rw [← session.watch_poll id time (pasts id)] at polled
  obtain ⟨⟨later, past⟩, watched, same⟩ := Option.map_eq_some_iff.1 polled
  cases same
  have heard : session.hear id time (pasts id) = past := by
    rw [hear, watched, Option.map_some, Option.getD_some]
  rw [watch] at watched
  cases met : session.encounter? id with
  | none =>
      rw [met] at watched
      cases watched
      have unheard : ∀ other,
          (if id = other then session.hear other time (pasts other) else pasts other) =
            pasts other := by
        intro other
        split
        · next same => exact same ▸ heard
        · rfl
      simpa only [unheard] using accounted
  | some encounter =>
      have found := trigger?_of_encounter? met
      rw [met] at watched
      obtain ⟨scene, played, same⟩ := Option.map_eq_some_iff.1 watched
      cases same
      have told : good scene.encounter.trigger scene.past [] :=
        invariant.toKept.play played (invariant.edge _ _ (accounted.here id _ found))
      have placed := session.trigger?_modifyTrigger_eq id
      refine ⟨fun other trigger there => ?_, fun other gone => ?_⟩
      · have there := (placed other fun _ => scene.encounter.trigger).symm.trans there
        by_cases same : other = id
        · rw [same, if_pos rfl, found, Option.map_some, Option.some.injEq] at there
          rw [same, if_pos rfl, heard, ← there]
          exact told
        · rw [if_neg same] at there
          rw [if_neg (Ne.symm same)]
          exact accounted.here other trigger there
      · have gone := (placed other fun _ => scene.encounter.trigger).symm.trans gone
        by_cases same : other = id
        · rw [same, if_pos rfl, found] at gone
          cases gone
        · rw [if_neg same] at gone
          rw [if_neg (Ne.symm same)]
          exact accounted.absent other gone

/-- **Every step keeps the accounts**, unless it reports from outside. -/
theorem Accounted.step {session after : Session F H} {pasts : TriggerId → List Happening}
    (accounted : session.Accounted good pasts) {command : Command F H}
    (own : ∀ id, command ≠ .notifyDone id) (performed : session.perform command = some after) :
    after.Accounted good fun id => follow id (pasts id) ⟨session, command, after⟩ := by
  simp only [follow]
  cases raised : session.raises? command with
  | none => exact accounted.edgeless invariant (perform_edgeless raised own performed)
  | some edge =>
      obtain ⟨id, time⟩ := edge
      rw [perform_raises raised] at performed
      exact accounted.poll invariant performed

/-- So does a run: **an invariant holds of every trigger and its history.** -/
theorem accounted_history {commands : List (Command F H)} (own : ∀ id, .notifyDone id ∉ commands)
    {steps : List (Step F H)} {step : Step F H} (ran : steps ++ [step] <+: trace commands {})
    {id : TriggerId} {trigger : Trigger} (found : step.after.trigger? id = some trigger) :
    good trigger (history id (steps ++ [step])) [] := by
  let told (past : List (Step F H)) (session : Session F H) : Prop :=
    session.Accounted good fun id => history id past
  have kept : ∀ past session, ∀ command ∈ commands, ∀ after,
      session.perform command = some after → told past session →
        told (past ++ [⟨session, command, after⟩]) after := by
    intro past session command inside after performed here
    simp only [told, history, List.foldl_append, List.foldl_cons, List.foldl_nil]
    exact here.step invariant (fun id same => own id (same ▸ inside)) performed
  have begun : told [] {} := ⟨nofun, fun _ _ => rfl⟩
  exact (trace_past kept begun ran).2.2.here id trigger found

end Invariant

/-! ## Edges that reach nobody, and edges that reach an idle device -/

/-- An edge of a trigger whose consumer is no more, or that has none, changes nothing. -/
theorem poll_unheard {session : Session F H} {id : TriggerId}
    (nobody : ∀ device, session.attached? id = some device → session.alive device = false)
    (time : Int64) : session.poll id time = some session := by
  have unheard : session.consumer? id = none := by
    rw [consumer?, Option.filter_eq_none_iff]
    intro device attached
    simpa using nobody device attached
  rw [poll, unheard]
  cases session.trigger? id <;> rfl

/-- **An edge that reaches a device whose capture is off is reported in its place**, at once, and
no handler runs. -/
theorem watch_off {session : Session F H} {id : TriggerId} {trigger : Trigger} {deviceId : DeviceId}
    (found : session.trigger? id = some trigger) (consumer : session.consumer? id = some deviceId)
    (off : session.capturing deviceId = false) (free : trigger.busy = false) (time : Int64)
    (past : List Happening) :
    ∃ later, session.watch id time past = some (later, .done none :: .passed :: .raised :: past) ∧
      later.counters? id = some (false, trigger.completed + 1, trigger.missed) := by
  have lives : session.alive deviceId = true := (Option.filter_eq_some_iff.1 consumer).2
  cases there : session.device? deviceId with
  | none => simp [Session.alive, there] at lives
  | some device =>
      rw [Session.capturing, there, Option.any_some] at off
      let met : Encounter F H := { triggerId := id, deviceId, trigger, device }
      have encounter : session.encounter? id = some met := by
        rw [encounter?, found, Option.bind_some, consumer, Option.bind_some, there,
          Option.map_some]
      have idle : met.handler? = none := by
        rw [Encounter.handler?]
        exact if_neg (by simp [met, off])
      have played : Scene.play time [.edge] ⟨met, past⟩ = some (Scene.passed ⟨met, past⟩) := by
        rw [Task.edge, Scene.play_passed free idle, Scene.play_nil]
      refine ⟨(session.modifyTrigger id fun _ => trigger.take.finish).modifyDevice deviceId
        fun _ => device, ?_, ?_⟩
      · rw [watch, encounter]
        dsimp only
        rw [played]
        rfl
      · have placed := session.trigger?_modifyTrigger id fun _ => trigger.take.finish
        rw [found, Option.map_some] at placed
        exact congrArg (Option.map Trigger.counters) placed

end Session

open Session

/-- **Edges are accounted for, and it is known which runs of a handler overlap.** Take any run of
commands in which no edge is reported done from outside, and any trigger at any moment of it. Each
edge that was raised while the trigger had a living consumer was missed or delivered, and each
report completed an edge. No run of a handler began on the trigger before all earlier runs were
reported done, just if none of them began after a run had reported over the head of a later one. No
such report has been made so far just if no run began too early and none could now, a free trigger
having had all its runs reported; and so it is if every run reports at least once, or if none goes
back to its report after raising an edge behind it. If every handler reports once, every run was
reported once; and if so, the trigger is not busy and each of these edges was completed or missed.
An edge that reaches a device whose capture is off is reported in its place, and an edge of a
trigger without a living consumer changes nothing. -/
theorem edges_accounted {F H : Type} [Provider F H] {commands : List (Command F H)}
    (own : ∀ id, .notifyDone id ∉ commands) {steps : List (Step F H)} {step : Step F H}
    (ran : steps ++ [step] <+: trace commands {}) {id : TriggerId} {trigger : Trigger}
    (found : step.after.trigger? id = some trigger) :
    let past := history id (steps ++ [step])
    ((Exclusive past ↔ AtBeginnings Orderly past) ∧
      (Orderly past ↔ Exclusive past ∧ (trigger.busy = false → AllDone past)) ∧
      (Diligent F ∨ Brisk F → Orderly past ∧ Exclusive past) ∧
      ∀ run < runs past, past.count (.begun run) = 1) ∧
    (past.count .raised = trigger.missed + deliveries past ∧ trigger.completed = reports past) ∧
    ((Prompt F → ∀ run < runs past, past.count (.done (some run)) = 1) ∧
      ((∀ run < runs past, past.count (.done (some run)) = 1) →
        trigger.busy = false ∧ past.count .raised = trigger.completed + trigger.missed)) ∧
    (∀ device, step.after.consumer? id = some device → step.after.capturing device = false →
      trigger.busy = false → ∀ time,
        ∃ later, step.after.poll id time = some later ∧
          step.after.hear id time past = .done none :: .passed :: .raised :: past ∧
          later.counters? id = some (false, trigger.completed + 1, trigger.missed)) ∧
    ((∀ device, step.after.attached? id = some device → step.after.alive device = false) →
      ∀ time, step.after.poll id time = some step.after) := by
  intro past
  have reckoned : Reckoned trigger past [] := accounted_history invariant_reckoned own ran found
  have booked := reckoned.booked
  refine ⟨⟨reckoned.exclusive_iff, reckoned.orderly_iff, fun careful => ?_, booked.counted.distinct⟩,
    ⟨booked.counted.raised, booked.counted.completed⟩, ⟨fun prompt run begun => ?_, booked.once⟩,
    fun _ consumer off free time => ?_, fun nobody time => poll_unheard nobody time⟩
  · have orderly : Orderly past := by
      rcases careful with diligent | brisk
      · exact (accounted_history (invariant_diligent diligent) own ran found).2.1
      · exact (accounted_history (invariant_brisk brisk) own ran found).2.1
    exact ⟨orderly, (reckoned.orderly_iff.1 orderly).1⟩
  · have once := accounted_history (invariant_prompt prompt) own ran found run
    exact once.trans (if_pos begun)
  · obtain ⟨later, watched, counted⟩ := watch_off found consumer off free time past
    refine ⟨later, ?_, ?_, counted⟩
    · rw [← step.after.watch_poll id time past, watched, Option.map_some]
    · rw [hear, watched, Option.map_some, Option.getD_some]

/-- Whatever a rehearsed handler is told, it makes all its reports in one go. -/
theorem Rehearsal.brisk : Brisk Rehearsal := by
  have beyond {first other : Act} (differs : first ≠ other) {rest acts : List Act} :
      ∀ count, (first :: rest).Sublist (List.replicate count other ++ acts) →
        (first :: rest).Sublist acts := by
    intro count within
    induction count with
    | zero => exact within
    | succ count ih =>
        rw [List.replicate_succ, List.cons_append] at within
        cases within with
        | cons _ within => exact ih within
        | cons_cons _ within => exact absurd rfl differs
  rintro turn ⟨time, routine, rehearsal, next, later, lines, handled⟩ again
  cases handled
  have reports := beyond (by decide) _ again
  have encore := beyond (by decide) _ ((List.sublist_cons_self _ _).trans reports)
  have back : Act.report ∈ List.replicate (min routine.encores 1) Act.raise :=
    encore.subset (by simp)
  cases List.eq_of_mem_replicate back

/-- A handler that raises two edges before each report, and one more after each of its first two.
Its trigger refuses to stop, so an edge still reaches the device when the capture is off. -/
def reentrant : List (Command Rehearsal Routine) :=
  [.makeTrigger "clinging" (.hooked none (some .busy)),
    .makeDevice "adc" [.voltage 0 "0" 12 16 0] {}, .setup ⟨0⟩ { inside := 2, encores := 2 },
    .assign ⟨0⟩ ⟨0⟩, .poll ⟨0⟩ 10, .enable ⟨0⟩ (.ofList [0]), .poll ⟨0⟩ 20, .disable ⟨0⟩,
    .poll ⟨0⟩ 30, .release ⟨0⟩, .poll ⟨0⟩ 40]

/-- Ten edges are raised while the device lives: three run the handler, six are missed, and one
comes when the capture is off. No two runs overlap. -/
theorem reentrant_accounted : ∃ steps step trigger, steps ++ [step] <+: trace reentrant {} ∧
    step.after.trigger? ⟨0⟩ = some trigger ∧ trigger.busy = false ∧
    (history ⟨0⟩ (steps ++ [step])).count .raised = 10 ∧ trigger.completed + trigger.missed = 10 ∧
    runs (history ⟨0⟩ (steps ++ [step])) = 3 ∧ Exclusive (history ⟨0⟩ (steps ++ [step])) ∧
    step.after.poll ⟨0⟩ 50 = some step.after := by
  have own : ∀ id, .notifyDone id ∉ reentrant := by
    intro id
    simp [reentrant]
  have told : let past := history ⟨0⟩ (trace reentrant {})
      past.count .raised = 10 ∧ runs past = 3 ∧
        ∀ run < runs past, past.count (.done (some run)) = 1 := by
    decide +kernel
  have left : ((trace reentrant {}).getLast?.any fun step =>
      (step.after.trigger? ⟨0⟩).isSome && step.after.attached? ⟨0⟩ = some ⟨0⟩ &&
        !step.after.alive ⟨0⟩) = true := by
    decide +kernel
  obtain ⟨step, last, left⟩ := (Option.any_eq_true _ _).1 left
  obtain ⟨steps, whole⟩ := List.getLast?_eq_some_iff.1 last
  simp only [Bool.and_eq_true, decide_eq_true_eq, Bool.not_eq_true'] at left
  obtain ⟨⟨there, attached⟩, dead⟩ := left
  obtain ⟨trigger, found⟩ := Option.isSome_iff_exists.1 there
  have ran : steps ++ [step] <+: trace reentrant {} := whole ▸ List.prefix_rfl
  obtain ⟨⟨-, -, careful, -⟩, -, ⟨-, once⟩, -, unheard⟩ := edges_accounted own ran found
  obtain ⟨-, exclusive⟩ := careful (.inr Rehearsal.brisk)
  rw [← whole] at once
  obtain ⟨free, total⟩ := once told.2.2
  refine ⟨steps, step, trigger, ran, found, free, ?_, ?_, ?_, exclusive, unheard ?_ 50⟩
  · rw [← whole, told.1]
  · rw [← total, told.1]
  · rw [← whole, told.2.1]
  · intro device held
    cases attached.symm.trans held
    exact dead

end Acquisition
