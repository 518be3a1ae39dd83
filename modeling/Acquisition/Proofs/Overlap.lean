/-
# Acquisition.Proofs.Overlap — how runs of a handler come to overlap

A run that goes back to its report after it has raised an edge frees the trigger again. If the run
that the edge began has not reported by then, it never will, and the next edge to be delivered
begins a run beside it. This is so of any handlers (`overtaken`): neither that every run reports nor that
none goes back to its report can be spared unless the other holds.

A `Recital` is a provider whose handler has its runs written down, so that any such thing can be
brought about.
-/
import Acquisition.Proofs.Counters

namespace Acquisition

set_option autoImplicit false

/-! ## Acts -/

/-- Before the first of the acts that matter there are only others. -/
theorem Act.exists_first {first other : Act} (differs : first ≠ other) {acts more : List Act}
    (within : (first :: more).Sublist acts) :
    ∃ count rest, acts = List.replicate count other ++ first :: rest ∧ more.Sublist rest := by
  induction acts with
  | nil => cases within
  | cons act acts ih =>
      by_cases same : act = first
      · refine ⟨0, acts, by rw [same]; rfl, ?_⟩
        cases within with
        | cons _ within => exact (List.sublist_cons_self _ _).trans within
        | cons_cons _ within => exact within
      · have rest : act = other := by
          cases act <;> cases first <;> cases other <;> simp_all
        cases within with
        | cons _ within =>
            obtain ⟨count, left, whole, more⟩ := ih within
            exact ⟨count + 1, left, by rw [whole, rest]; rfl, more⟩
        | cons_cons _ within => exact absurd rfl same

namespace Scene

variable {F H : Type}

/-! ## What leaves the runs alone -/

/-- The consumer is the same, and no run has begun nor has any but one been reported. -/
structure Beside (run : Nat) (before after : Scene F H) : Prop where
  device : after.encounter.device = before.encounter.device
  past : ∃ news, after.past = news ++ before.past ∧
    ∀ happening ∈ news, happening = .raised ∨ happening = .missed ∨ happening = .done (some run)

namespace Beside

variable {run : Nat}

theorem refl (scene : Scene F H) : Beside run scene scene :=
  ⟨rfl, [], rfl, nofun⟩

theorem trans {first second third : Scene F H} (left : Beside run first second)
    (right : Beside run second third) : Beside run first third := by
  obtain ⟨news, told, known⟩ := left.past
  obtain ⟨more, later, few⟩ := right.past
  refine ⟨right.device.trans left.device, more ++ news, ?_, fun happening member => ?_⟩
  · rw [later, told, List.append_assoc]
  · exact (List.mem_append.1 member).elim (few happening) (known happening)

theorem dropped (scene : Scene F H) : Beside run scene scene.dropped :=
  ⟨rfl, [.missed, .raised], rfl, by simp⟩

theorem reported (scene : Scene F H) : Beside run scene (scene.reported (some run)) :=
  ⟨rfl, [.done (some run)], rfl, by simp⟩

variable {before after : Scene F H}

theorem runs (beside : Beside run before after) :
    Acquisition.runs after.past = Acquisition.runs before.past := by
  obtain ⟨news, told, known⟩ := beside.past
  have none : Acquisition.runs news = 0 := by
    refine List.countP_eq_zero.2 fun happening member => ?_
    rcases known happening member with rfl | rfl | rfl <;> simp
  rw [told, Acquisition.runs, List.countP_append]
  exact (congrArg (· + _) none).trans (Nat.zero_add _)

theorem begun (beside : Beside run before after) {other : Nat}
    (member : .begun other ∈ before.past) : .begun other ∈ after.past := by
  obtain ⟨news, told, _⟩ := beside.past
  exact told ▸ List.mem_append_right _ member

theorem unreported (beside : Beside run before after) {other : Nat} (differs : other ≠ run)
    (unreported : .done (some other) ∉ before.past) : .done (some other) ∉ after.past := by
  obtain ⟨news, told, known⟩ := beside.past
  rw [told, List.mem_append, not_or]
  refine ⟨fun member => ?_, unreported⟩
  rcases known _ member with same | same | same <;> cases same
  exact differs rfl

end Beside

theorem busy_begun (scene : Scene F H) (time : Int64) (turn : Turn) (handler : H) (provider : F)
    (lines : List LogLine) :
    (scene.begun time turn handler provider lines).encounter.trigger.busy = true :=
  congrArg Trigger.busy (scene.encounter.enter_trigger time turn handler provider lines)

section Play

variable [Provider F H] {time : Int64}

/-- A trigger that is busy drops one edge after the other. -/
theorem play_drops (time : Int64) (run : Nat) (run? : Option Nat) : ∀ (count : Nat)
    {scene : Scene F H}, scene.encounter.trigger.busy = true →
      ∃ later, (∀ rest, scene.play time (List.replicate count ⟨run?, .raise⟩ ++ rest) =
        later.play time rest) ∧ later.encounter.trigger.busy = true ∧ Beside run scene later
  | 0, scene, busy => ⟨scene, fun _ => rfl, busy, .refl scene⟩
  | count + 1, scene, busy => by
      obtain ⟨later, played, held, beside⟩ := play_drops time run run? count
        (show scene.dropped.encounter.trigger.busy = true from busy)
      exact ⟨later, fun rest => (play_dropped busy).trans (played rest), held,
        .trans (.dropped scene) beside⟩

/-- One report after the other leaves a trigger free. -/
theorem play_reports (time : Int64) (run : Nat) : ∀ (count : Nat) {scene : Scene F H},
    scene.encounter.trigger.busy = false →
      ∃ later, (∀ rest, scene.play time (List.replicate count ⟨some run, .report⟩ ++ rest) =
        later.play time rest) ∧ later.encounter.trigger.busy = false ∧ Beside run scene later
  | 0, scene, free => ⟨scene, fun _ => rfl, free, .refl scene⟩
  | count + 1, scene, free => by
      obtain ⟨later, played, left, beside⟩ := play_reports time run count
        (show (scene.reported (some run)).encounter.trigger.busy = false from rfl)
      exact ⟨later, fun rest => play_report.trans (played rest), left,
        .trans (.reported scene) beside⟩

/-- A run that reports frees the trigger, whatever edges it has raised before. -/
theorem play_freed (time : Int64) (run before reports : Nat) {scene : Scene F H}
    (busy : scene.encounter.trigger.busy = true) :
    ∃ later, (∀ rest, scene.play time (List.replicate before ⟨some run, .raise⟩ ++
        ⟨some run, .report⟩ :: (List.replicate reports ⟨some run, .report⟩ ++ rest)) =
      later.play time rest) ∧ later.encounter.trigger.busy = false ∧ Beside run scene later := by
  obtain ⟨held, dropped, _, beside⟩ := play_drops time run (some run) before busy
  obtain ⟨later, reported, free, after⟩ := play_reports time run reports
    (show (held.reported (some run)).encounter.trigger.busy = false from rfl)
  exact ⟨later, fun rest => ((dropped _).trans play_report).trans (reported rest), free,
    (beside.trans (.reported held)).trans after⟩

/-- What has happened stays in the account. -/
theorem past_suffix {tasks : List Task} {scene last : Scene F H}
    (played : scene.play time tasks = some last) : scene.past <:+ last.past := by
  have kept : Kept F fun _ past _ => scene.past <:+ past :=
    { reported := fun _ _ _ _ here => here.trans (List.suffix_cons _ _)
      dropped := fun _ past _ _ _ here => here.trans (List.suffix_append [_, _] past)
      passed := fun _ past _ _ _ here => here.trans (List.suffix_append [_, _, _] past)
      begun := fun _ past _ _ _ _ _ here => here.trans (List.suffix_append [_, _] past) }
  exact kept.play played (List.suffix_refl _)

/-- **Whoever goes back to its report after an edge whose run does not report lets runs overlap**,
or will with the next edge that is delivered. -/
theorem overtaken {scene last : Scene F H} (booked : Booked scene.encounter.trigger scene.past [])
    (free : scene.encounter.trigger.busy = false) {handler next later : H} {loud silent : Turn}
    {provider after : F} {lines others : List LogLine}
    (found : scene.encounter.handler? = some handler)
    (first : Provider.handle time handler scene.encounter.device.provider =
      some (loud, next, provider, lines))
    (second : Provider.handle time next provider = some (silent, later, after, others))
    (again : [Act.report, .raise, .report].Sublist loud.acts) (never : .report ∉ silent.acts)
    (played : scene.play time [.edge] = some last) : ¬ Orderly last.past := by
  -- The acts of the first run, as far as its report behind the edge; the second only raises edges.
  obtain ⟨before, _, whole, behind⟩ := Act.exists_first (show Act.report ≠ .raise by decide) again
  obtain ⟨reports, _, rfl, back⟩ := Act.exists_first (show Act.raise ≠ .report by decide) behind
  obtain ⟨inside, tail, rfl, -⟩ := Act.exists_first (show Act.report ≠ .raise by decide) back
  have quiet : silent.acts = List.replicate silent.acts.length .raise := by
    refine List.eq_replicate_of_mem fun act member => ?_
    cases act with
    | raise => rfl
    | report => exact absurd member never
  rw [Task.edge, play_begun free found first, List.append_nil, Turn.tasks, whole] at played
  simp only [List.map_append, List.map_cons, List.map_replicate] at played
  generalize number : runs scene.past = run at played
  -- The first report frees the trigger, and the edge behind it begins the second run.
  obtain ⟨freed, toFreed, free, beside⟩ := play_freed time run before reports
    (scene.busy_begun time loud next provider lines)
  obtain ⟨buffer, entered⟩ := scene.encounter.enter_device time loud next provider lines
  have device : freed.encounter.device =
      { scene.encounter.device with handler := some next, provider, buffer } :=
    beside.device.trans entered
  have ready : freed.encounter.handler? = some next := by
    rw [Encounter.handler?, device]
    exact if_pos (Encounter.capturing_of_runs found)
  have second : Provider.handle time next freed.encounter.device.provider =
      some (silent, later, after, others) := by
    rw [device]
    exact second
  have count : runs freed.past = run + 1 := by
    rw [beside.runs, ← number]
    exact runs_begun _ _
  rw [toFreed, play_begun free ready second, Turn.tasks, quiet, List.map_replicate, count] at played
  -- Nothing is reported until the first run goes back to its report.
  obtain ⟨held, toHeld, busy, since⟩ := play_drops time run (some (run + 1)) silent.acts.length
    (freed.busy_begun time silent later after others)
  obtain ⟨reached, toReached, _, until_⟩ := play_drops time run (some run) inside busy
  rw [toHeld, toReached, play_report] at played
  have quietly : Beside run _ reached := since.trans until_
  have unheard : .done (some (run + 1)) ∉ reached.past := by
    have early : .done (some (run + 1)) ∉ (scene.begun time loud next provider lines).past := by
      intro member
      have known := booked.counted.known (run + 1) (by simpa [Scene.begun] using member)
      omega
    have later := beside.unreported (Nat.succ_ne_self run) early
    exact quietly.unreported (Nat.succ_ne_self run) (by simpa [Scene.begun] using later)
  have begun : .begun (run + 1) ∈ reached.past :=
    quietly.begun (count ▸ List.mem_cons_self)
  intro orderly
  have told : .done (some run) :: reached.past <:+ last.past := past_suffix played
  exact unheard (orderly run _ told _ (Nat.lt_succ_self run) begun)

end Play

end Scene

/-! ## Runs that are written down -/

/-- A provider that agrees to everything, and whose handler has its runs written down. When they are
all done, it reports each further edge. -/
structure Recital where
  deriving DecidableEq

instance : Provider Recital (List Turn) where
  read _ _ _ recital := some (.error .notSupported, recital)
  program _ recital := (.ok (), recital)
  handle _ turns recital := some (turns.headD {}, turns.tail, recital, [])
  budget turns _ := turns.foldr (fun turn left => Act.behind turn.acts + left) 0
  budget_le := by
    intro time turns recital turn next later lines handled
    cases handled
    cases turns with
    | nil => exact Nat.le_refl 0
    | cons turn rest => exact Nat.le_refl _

open Session

/-- One edge, and a handler that reports it twice and raises a further edge after each report. The
run that the first of these begins does not report. -/
def overlapping : List (Command Recital (List Turn)) :=
  [.makeTrigger "t" .byHand, .makeDevice "adc" [.voltage 0 "0" 12 16 0] {},
    .setup ⟨0⟩
      [{ acts := [.report, .raise, .report, .raise] }, { acts := [] }, { acts := [.report] }],
    .assign ⟨0⟩ ⟨0⟩, .enable ⟨0⟩ (.ofList [0]), .poll ⟨0⟩ 10]

/-- The third run begins while the second is still to be reported, though nothing is reported from
outside. -/
theorem overlapping_runs : (∀ id, .notifyDone id ∉ overlapping) ∧
    history ⟨0⟩ (trace overlapping {}) =
      [.done (some 2), .begun 2, .raised, .done (some 0), .begun 1, .raised, .done (some 0),
        .begun 0, .raised] ∧
    ¬ Exclusive (history ⟨0⟩ (trace overlapping {})) := by
  have own : ∀ id, .notifyDone id ∉ overlapping := by
    intro id
    simp [overlapping]
  have told : history ⟨0⟩ (trace overlapping {}) =
      [.done (some 2), .begun 2, .raised, .done (some 0), .begun 1, .raised, .done (some 0),
        .begun 0, .raised] := by
    decide +kernel
  refine ⟨own, told, fun exclusive => ?_⟩
  rw [told] at exclusive
  have second := exclusive 2 _ (List.suffix_cons _ _) 1 (by decide)
  exact absurd second (by decide)

end Acquisition
