/-
# Acquisition.Proofs.Nesting — edges that a handler raises while it runs

A handler may raise edges of the very trigger whose edge it handles, behind its report or before
it, and each of them may run the handler again. `Encounter.play` deals with such an edge, and with
all that it brings about, before the handler goes on (`play_append`).

`Scene.play` carries out the same acts and keeps an account of what has happened to the trigger, in
which every run of the handler has a number and every report is that of a run. It makes no
difference to the encounter (`play_encounter`). What is kept by whatever can happen is kept by all
that an edge brings about (`Kept.play`).
-/
import Acquisition.Session.Edge

namespace Acquisition

set_option autoImplicit false

namespace Encounter

variable {F H : Type} [Provider F H]

/-- **What an act brings about is done before what follows it.** -/
theorem play_append (time : Int64) (first second : List Act) (encounter : Encounter F H) :
    encounter.play time (first ++ second) =
      (encounter.play time first).bind (play time second) := by
  have swept : ∀ (first : List Act) (encounter met : Encounter F H) (left? : Option (H × List Act)),
      encounter.sweep first = (met, left?) →
        encounter.sweep (first ++ second) =
          left?.elim (met.sweep second) fun left => (met, some (left.1, left.2 ++ second)) := by
    intro first encounter met left? told
    fun_induction sweep first encounter with
    | case1 encounter =>
        cases told
        rfl
    | case2 rest encounter ih => exact ih told
    | case3 rest encounter busy ih =>
        rw [List.cons_append, sweep, if_pos busy]
        exact ih told
    | case4 rest encounter free idle ih =>
        rw [List.cons_append, sweep, if_neg free, idle]
        exact ih told
    | case5 rest encounter free handler found =>
        cases told
        rw [List.cons_append, sweep, if_neg free, found]
        rfl
  fun_induction play time first encounter with
  | case1 first encounter met clean =>
      rw [play_eq, swept _ _ _ _ clean, Option.bind_some, Option.elim_none, ← play_eq]
  | case2 first encounter met handler rest reached broken =>
      rw [play_eq, swept _ _ _ _ reached, Option.elim_some]
      simp only [broken, Option.bind_none]
  | case3 first encounter met handler rest reached turn next provider lines handled ih =>
      rw [play_eq, swept _ _ _ _ reached, Option.elim_some, ← ih]
      simp only [handled, Option.bind_some, List.append_assoc]

end Encounter

/-! ## What happens to a trigger -/

/-- Something that happens to a trigger with a consumer. -/
inductive Happening where
  /-- An edge is raised. -/
  | raised
  /-- It is dropped. -/
  | missed
  /-- It is delivered, and a run of the handler begins. Runs are numbered from zero. -/
  | begun (run : Nat)
  /-- It is delivered to a consumer whose handler does not run. -/
  | passed
  /-- The edge in hand is reported done: by a run of the handler, or, where none runs, in its
  place. -/
  | done (run? : Option Nat)
  deriving DecidableEq

/-- How many runs of the handler have begun. -/
def runs (past : List Happening) : Nat :=
  past.countP fun
    | .begun _ => true
    | _ => false

/-- Something left to be done, and the run of the handler that it is left of. An edge raised from
outside belongs to no run. -/
structure Task where
  run? : Option Nat
  act : Act
  deriving DecidableEq

/-- An edge raised from outside. -/
def Task.edge : Task :=
  ⟨none, .raise⟩

/-- What a run of the handler has to do to its trigger. -/
def Turn.tasks (turn : Turn) (run : Nat) : List Task :=
  turn.acts.map (Task.mk (some run))

theorem Turn.act_tasks (turn : Turn) (run : Nat) :
    (turn.tasks run).map Task.act = turn.acts := by
  rw [tasks, List.map_map, show Task.act ∘ Task.mk (some run) = id from rfl, List.map_id]

/-- An encounter and what has happened to its trigger, newest first. -/
structure Scene (F H : Type) where
  encounter : Encounter F H
  past : List Happening := []

namespace Scene

variable {F H : Type}

/-- An edge is raised and dropped. -/
def dropped (scene : Scene F H) : Scene F H :=
  ⟨scene.encounter.miss, .missed :: .raised :: scene.past⟩

/-- The edge in hand is reported done. -/
def reported (scene : Scene F H) (run? : Option Nat) : Scene F H :=
  ⟨scene.encounter.finish, .done run? :: scene.past⟩

/-- An edge is raised and delivered, no handler runs, and it is reported done at once. -/
def passed (scene : Scene F H) : Scene F H :=
  ⟨scene.encounter.pass, .done none :: .passed :: .raised :: scene.past⟩

/-- An edge is raised and delivered, and a run of the handler begins. -/
def begun (scene : Scene F H) (time : Int64) (turn : Turn) (handler : H) (provider : F)
    (lines : List LogLine) : Scene F H :=
  ⟨scene.encounter.enter time turn handler provider lines,
    .begun (runs scene.past) :: .raised :: scene.past⟩

/-- Carries out tasks up to the first edge that runs a handler. -/
def sweep : List Task → Scene F H → Scene F H × Option (H × List Task)
  | [], scene => (scene, none)
  | ⟨run?, .report⟩ :: rest, scene => sweep rest (scene.reported run?)
  | ⟨_, .raise⟩ :: rest, scene =>
      if scene.encounter.trigger.busy then sweep rest scene.dropped
      else
        match scene.encounter.handler? with
        | none => sweep rest scene.passed
        | some handler => (scene, some (handler, rest))

theorem sweep_encounter (tasks : List Task) (scene : Scene F H) :
    scene.encounter.sweep (tasks.map Task.act) =
      ((scene.sweep tasks).1.encounter,
        (scene.sweep tasks).2.map (Prod.map id (List.map Task.act))) := by
  fun_induction sweep tasks scene with
  | case1 scene => rfl
  | case2 run? rest scene ih => exact ih
  | case3 run? rest scene busy ih =>
      rw [List.map_cons, Encounter.sweep, if_pos busy]
      exact ih
  | case4 run? rest scene free idle ih =>
      rw [List.map_cons, Encounter.sweep, if_neg free, idle]
      exact ih
  | case5 run? rest scene free handler found =>
      rw [List.map_cons, Encounter.sweep, if_neg free, found]
      rfl

section Play

variable [Provider F H]

/-- Carries out tasks in order, each together with all that it brings about; `none` if a handler
breaks down. -/
def play (time : Int64) (tasks : List Task) (scene : Scene F H) : Option (Scene F H) :=
  match _swept : scene.sweep tasks with
  | (met, none) => some met
  | (met, some (handler, rest)) =>
      match _handled : Provider.handle time handler met.encounter.device.provider with
      | none => none
      | some (turn, handler, provider, lines) =>
          play time (turn.tasks (runs met.past) ++ rest)
            (met.begun time turn handler provider lines)
termination_by scene.encounter.pending (tasks.map Task.act) + scene.encounter.budget
decreasing_by
  have told := scene.sweep_encounter tasks
  rw [_swept] at told
  have less := Encounter.enter_paid told _handled
  rwa [List.map_append, Turn.act_tasks]

theorem play_eq (time : Int64) (tasks : List Task) (scene : Scene F H) :
    scene.play time tasks =
      match scene.sweep tasks with
      | (met, none) => some met
      | (met, some (handler, rest)) =>
          (Provider.handle time handler met.encounter.device.provider).bind
            fun (turn, handler, provider, lines) =>
              (met.begun time turn handler provider lines).play time
                (turn.tasks (runs met.past) ++ rest) := by
  rw [play]
  split
  · next met swept => rw [swept]
  · next met handler rest swept =>
      rw [swept]
      dsimp only
      split
      · next broken => rw [broken, Option.bind_none]
      · next turn next provider lines handled => rw [handled, Option.bind_some]

/-- **An account of it makes no difference to an encounter.** -/
theorem play_encounter (time : Int64) (tasks : List Task) (scene : Scene F H) :
    (scene.play time tasks).map encounter = scene.encounter.play time (tasks.map Task.act) := by
  fun_induction play time tasks scene with
  | case1 tasks scene met clean =>
      rw [Encounter.play_eq, sweep_encounter, clean]
      rfl
  | case2 tasks scene met handler rest reached broken =>
      rw [Encounter.play_eq, sweep_encounter, reached]
      simp only [Option.map_some, Option.map_none, Prod.map_apply, id_eq, broken,
        Option.bind_none]
  | case3 tasks scene met handler rest reached turn next provider lines handled ih =>
      rw [Encounter.play_eq, sweep_encounter, reached, ih, List.map_append, Turn.act_tasks]
      simp only [Option.map_some, Prod.map_apply, id_eq, handled, Option.bind_some]
      rfl

/-! Task by task -/

variable {time : Int64} {run? : Option Nat} {rest : List Task} {scene : Scene F H}

@[simp] theorem play_nil : scene.play time [] = some scene := by
  rw [play_eq, sweep]

@[simp] theorem play_report :
    scene.play time (⟨run?, .report⟩ :: rest) = (scene.reported run?).play time rest := by
  rw [play_eq, sweep, ← play_eq]

theorem play_dropped (busy : scene.encounter.trigger.busy = true) :
    scene.play time (⟨run?, .raise⟩ :: rest) = scene.dropped.play time rest := by
  rw [play_eq, sweep, if_pos busy, ← play_eq]

theorem play_passed (free : scene.encounter.trigger.busy = false)
    (idle : scene.encounter.handler? = none) :
    scene.play time (⟨run?, .raise⟩ :: rest) = scene.passed.play time rest := by
  rw [play_eq, sweep, free, if_neg Bool.false_ne_true, idle, ← play_eq]

theorem play_begun {handler next : H} {turn : Turn} {provider : F} {lines : List LogLine}
    (free : scene.encounter.trigger.busy = false)
    (found : scene.encounter.handler? = some handler)
    (handled : Provider.handle time handler scene.encounter.device.provider =
      some (turn, next, provider, lines)) :
    scene.play time (⟨run?, .raise⟩ :: rest) =
      (scene.begun time turn next provider lines).play time
        (turn.tasks (runs scene.past) ++ rest) := by
  rw [play_eq, sweep, free, if_neg Bool.false_ne_true, found]
  simp only [handled, Option.bind_some]

end Play

end Scene

/-! ## What is true of every account -/

/-- What some handler behind `F` may do in a run. -/
def Takes (F : Type) {H : Type} [Provider F H] (turn : Turn) : Prop :=
  ∃ time handler, ∃ provider : F, ∃ next later lines,
    Provider.handle time handler provider = some (turn, next, later, lines)

/-- What is kept, of a trigger, of what has happened to it and of what is left to be done, by
whatever can happen next. -/
structure Kept (F : Type) {H : Type} [Provider F H]
    (good : Trigger → List Happening → List Task → Prop) : Prop where
  reported : ∀ trigger past run? rest, good trigger past (⟨run?, .report⟩ :: rest) →
    good trigger.finish (.done run? :: past) rest
  dropped : ∀ trigger past run? rest, trigger.busy = true →
    good trigger past (⟨run?, .raise⟩ :: rest) → good trigger.miss (.missed :: .raised :: past) rest
  passed : ∀ trigger past run? rest, trigger.busy = false →
    good trigger past (⟨run?, .raise⟩ :: rest) →
      good trigger.take.finish (.done none :: .passed :: .raised :: past) rest
  begun : ∀ trigger past run? rest turn, trigger.busy = false → Takes F turn →
    good trigger past (⟨run?, .raise⟩ :: rest) →
      good trigger.take (.begun (runs past) :: .raised :: past) (turn.tasks (runs past) ++ rest)

/-- What is kept, is true of a new trigger, and depends on nothing of a trigger but its counters. -/
structure Invariant (F : Type) {H : Type} [Provider F H]
    (good : Trigger → List Happening → List Task → Prop) : Prop extends Kept F good where
  fresh : ∀ trigger, trigger.counters = (false, 0, 0) → good trigger [] []
  congr : ∀ before after past, after.counters = before.counters → good before past [] →
    good after past []
  edge : ∀ trigger past, good trigger past [] → good trigger past [.edge]

namespace Kept

variable {F H : Type} [Provider F H] {good : Trigger → List Happening → List Task → Prop}

theorem sweep (kept : Kept F good) (tasks : List Task) (scene : Scene F H)
    (here : good scene.encounter.trigger scene.past tasks) :
    match scene.sweep tasks with
    | (met, none) => good met.encounter.trigger met.past []
    | (met, some (_, rest)) => met.encounter.trigger.busy = false ∧
        ∃ run?, good met.encounter.trigger met.past (⟨run?, .raise⟩ :: rest) := by
  fun_induction Scene.sweep tasks scene with
  | case1 scene => exact here
  | case2 run? rest scene ih => exact ih (kept.reported _ _ _ _ here)
  | case3 run? rest scene busy ih => exact ih (kept.dropped _ _ _ _ busy here)
  | case4 run? rest scene free idle ih =>
      exact ih (kept.passed _ _ _ _ (Bool.eq_false_iff.2 free) here)
  | case5 run? rest scene free handler found => exact ⟨Bool.eq_false_iff.2 free, run?, here⟩

/-- **What is kept by all that can happen is true of every account.** -/
theorem play (kept : Kept F good) {time : Int64} {tasks : List Task}
    {scene last : Scene F H} (played : scene.play time tasks = some last)
    (here : good scene.encounter.trigger scene.past tasks) :
    good last.encounter.trigger last.past [] := by
  fun_induction Scene.play time tasks scene with
  | case1 tasks scene met clean =>
      have swept := kept.sweep tasks scene here
      rw [clean] at swept
      exact Option.some.inj played ▸ swept
  | case2 tasks scene met handler rest reached broken => cases played
  | case3 tasks scene met handler rest reached turn next provider lines handled ih =>
      have swept := kept.sweep tasks scene here
      rw [reached] at swept
      obtain ⟨free, run?, left⟩ := swept
      refine ih played ?_
      rw [Scene.begun, Encounter.enter_trigger]
      exact kept.begun _ _ _ _ _ free ⟨_, _, _, _, _, _, handled⟩ left

end Kept

end Acquisition
