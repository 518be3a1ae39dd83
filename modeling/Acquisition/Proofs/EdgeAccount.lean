/-
# Acquisition.Proofs.EdgeAccount — every edge is delivered or missed, and which runs overlap

A trigger is `Booked` with what has happened to it if it has counted every edge that was dropped
and every report, and each other edge was delivered; and while it is busy, the last run that has
begun is still to be reported. That much is true whatever its handlers do.

Runs of a handler overlap just if some run reports over the head of a later one, which then never
does: the report frees a trigger that the later run had taken, and the later run is `Lost`, for good
(`Reckoned`). So no run begins too early if every run reports at least once, nor if none goes back
to its report after raising an edge behind it (`invariant_diligent`, `invariant_brisk`).
-/
import Acquisition.Binding
import Acquisition.Proofs.Nesting

namespace Acquisition

set_option autoImplicit false

namespace Trigger

variable (trigger : Trigger)

@[simp] theorem take_busy : trigger.take.busy = true := rfl
@[simp] theorem take_completed : trigger.take.completed = trigger.completed := rfl
@[simp] theorem take_missed : trigger.take.missed = trigger.missed := rfl
@[simp] theorem finish_busy : trigger.finish.busy = false := rfl
@[simp] theorem finish_completed : trigger.finish.completed = trigger.completed + 1 := rfl
@[simp] theorem finish_missed : trigger.finish.missed = trigger.missed := rfl
@[simp] theorem miss_busy : trigger.miss.busy = trigger.busy := rfl
@[simp] theorem miss_completed : trigger.miss.completed = trigger.completed := rfl
@[simp] theorem miss_missed : trigger.miss.missed = trigger.missed + 1 := rfl

end Trigger

/-! ## What has happened -/

/-- How many edges were delivered. -/
def deliveries (past : List Happening) : Nat :=
  past.count .passed + runs past

/-- How often an edge was reported done. -/
def reports (past : List Happening) : Nat :=
  past.countP fun
    | .done _ => true
    | _ => false

/-- Every run that has begun was reported done. -/
def AllDone (past : List Happening) : Prop :=
  ∀ run, .begun run ∈ past → .done (some run) ∈ past

/-- Whenever a run began, what had happened before was as asked. -/
def AtBeginnings (asked : List Happening → Prop) (past : List Happening) : Prop :=
  ∀ run earlier, .begun run :: earlier <:+ past → asked earlier

/-- No run began before all earlier runs were reported done. -/
def Exclusive (past : List Happening) : Prop :=
  AtBeginnings AllDone past

/-- No run reports over the head of a later one: whenever a run reports, all later runs were
reported done. -/
def Orderly (past : List Happening) : Prop :=
  ∀ run earlier, .done (some run) :: earlier <:+ past →
    ∀ later, run < later → .begun later ∈ earlier → .done (some later) ∈ earlier

section Cons

variable (past : List Happening) (run : Nat) (run? : Option Nat)

@[simp] theorem runs_raised : runs (.raised :: past) = runs past := rfl
@[simp] theorem runs_missed : runs (.missed :: past) = runs past := rfl
@[simp] theorem runs_passed : runs (.passed :: past) = runs past := rfl
@[simp] theorem runs_done : runs (.done run? :: past) = runs past := rfl
@[simp] theorem runs_begun : runs (.begun run :: past) = runs past + 1 :=
  List.countP_cons_of_pos rfl

@[simp] theorem reports_raised : reports (.raised :: past) = reports past := rfl
@[simp] theorem reports_missed : reports (.missed :: past) = reports past := rfl
@[simp] theorem reports_passed : reports (.passed :: past) = reports past := rfl
@[simp] theorem reports_begun : reports (.begun run :: past) = reports past := rfl
@[simp] theorem reports_done : reports (.done run? :: past) = reports past + 1 :=
  List.countP_cons_of_pos rfl

end Cons

/-- What is asked of everything that has happened, in view of what had happened before. -/
theorem forall_suffix_cons {asked : Happening → List Happening → Prop} {happening : Happening}
    {past : List Happening} :
    (∀ first earlier, first :: earlier <:+ happening :: past → asked first earlier) ↔
      asked happening past ∧ ∀ first earlier, first :: earlier <:+ past → asked first earlier := by
  constructor
  · intro all
    exact ⟨all _ _ (List.suffix_refl _),
      fun first earlier suffix => all _ _ (suffix.trans (List.suffix_cons happening past))⟩
  · rintro ⟨here, later⟩ first earlier suffix
    rcases List.suffix_cons_iff.1 suffix with same | suffix
    · cases same
      exact here
    · exact later first earlier suffix

theorem atBeginnings_cons {asked : List Happening → Prop} {happening : Happening}
    {past : List Happening} :
    AtBeginnings asked (happening :: past) ↔
      (∀ run, happening = .begun run → asked past) ∧ AtBeginnings asked past := by
  have each (past : List Happening) : AtBeginnings asked past ↔ ∀ first earlier,
      first :: earlier <:+ past → ∀ run, first = .begun run → asked earlier :=
    ⟨fun all first earlier suffix run same => all run earlier (same ▸ suffix),
      fun all run earlier suffix => all _ earlier suffix run rfl⟩
  rw [each, each, forall_suffix_cons]

theorem orderly_cons {happening : Happening} {past : List Happening} :
    Orderly (happening :: past) ↔
      (∀ run, happening = .done (some run) →
        ∀ later, run < later → .begun later ∈ past → .done (some later) ∈ past) ∧ Orderly past := by
  have each (past : List Happening) : Orderly past ↔ ∀ first earlier,
      first :: earlier <:+ past → ∀ run, first = .done (some run) →
        ∀ later, run < later → .begun later ∈ earlier → .done (some later) ∈ earlier :=
    ⟨fun all first earlier suffix run same => all run earlier (same ▸ suffix),
      fun all run earlier suffix => all _ earlier suffix run rfl⟩
  rw [each, each, forall_suffix_cons]

theorem atBeginnings_nil {asked : List Happening → Prop} : AtBeginnings asked [] := by
  intro run earlier suffix
  cases List.suffix_nil.1 suffix

theorem orderly_nil : Orderly [] := by
  intro run earlier suffix
  cases List.suffix_nil.1 suffix

/-- What is orderly was so at every moment. -/
theorem Orderly.atBeginnings {past : List Happening} (orderly : Orderly past) :
    AtBeginnings Orderly past :=
  fun _ _ since _ _ suffix =>
    orderly _ _ (suffix.trans ((List.suffix_cons _ _).trans since))

/-! ## What is true whatever the handlers do -/

/-- What a trigger has counted, and how what has happened to it is numbered. -/
structure Counted (trigger : Trigger) (past : List Happening) : Prop where
  raised : past.count .raised = trigger.missed + deliveries past
  completed : trigger.completed = reports past
  passed : past.count .passed = past.count (.done none)
  numbered : ∀ run, .begun run ∈ past → run < runs past
  /-- Each run has a number of its own. -/
  distinct : ∀ run < runs past, past.count (.begun run) = 1
  known : ∀ run, .done (some run) ∈ past → run < runs past

/-- What is left to be done is that of runs that have begun, the last one first, and reports are
those of a run. -/
structure Stacked (past : List Happening) (tasks : List Task) : Prop where
  known : ∀ task ∈ tasks, task.run? < some (runs past)
  owned : ∀ task ∈ tasks, task.act = .report → task.run? ≠ none
  ordered : tasks.Pairwise fun first second => second.run? ≤ first.run?

/-- A trigger that has counted right, and is busy only until the last run is reported. -/
structure Booked (trigger : Trigger) (past : List Happening) (tasks : List Task) : Prop where
  counted : Counted trigger past
  stacked : Stacked past tasks
  held : trigger.busy = true → ∃ run, runs past = run + 1 ∧ .done (some run) ∉ past

namespace Counted

variable {trigger : Trigger} {past : List Happening}

theorem dropped (counted : Counted trigger past) :
    Counted trigger.miss (.missed :: .raised :: past) where
  raised := by simp [counted.raised, deliveries]; omega
  completed := counted.completed
  passed := by simpa using counted.passed
  numbered := by simpa using counted.numbered
  distinct := by simpa using counted.distinct
  known := by simpa using counted.known

theorem reported (counted : Counted trigger past) {run : Nat} (begun : run < runs past) :
    Counted trigger.finish (.done (some run) :: past) where
  raised := by simpa [deliveries] using counted.raised
  completed := by simpa using counted.completed
  passed := by simpa using counted.passed
  numbered := by simpa using counted.numbered
  distinct := by simpa using counted.distinct
  known := by simpa [begun] using counted.known

theorem passed_on (counted : Counted trigger past) :
    Counted trigger.take.finish (.done none :: .passed :: .raised :: past) where
  raised := by simp [counted.raised, deliveries]; omega
  completed := by simpa using counted.completed
  passed := by simpa using counted.passed
  numbered := by simpa using counted.numbered
  distinct := by simpa using counted.distinct
  known := by simpa using counted.known

theorem begun (counted : Counted trigger past) :
    Counted trigger.take (.begun (runs past) :: .raised :: past) where
  raised := by simp [counted.raised, deliveries]; omega
  completed := counted.completed
  passed := by simpa using counted.passed
  numbered := by
    have earlier : ∀ run, .begun run ∈ past → run < runs past + 1 :=
      fun run member => Nat.lt_succ_of_lt (counted.numbered run member)
    simpa using earlier
  distinct := by
    have first : past.count (.begun (runs past)) = 0 :=
      List.count_eq_zero.2 fun member => Nat.lt_irrefl _ (counted.numbered _ member)
    intro run begun
    rw [runs_begun, runs_raised, Nat.lt_succ_iff_lt_or_eq] at begun
    rcases begun with earlier | rfl
    · have other : Happening.begun (runs past) ≠ .begun run := by
        simpa using Nat.ne_of_gt earlier
      simpa [List.count_cons_of_ne other] using counted.distinct run earlier
    · simpa using first
  known := by
    have earlier : ∀ run, .done (some run) ∈ past → run < runs past + 1 :=
      fun run member => Nat.lt_succ_of_lt (counted.known run member)
    simpa using earlier

/-- The runs that have begun are those with a number below how many there are. -/
theorem begun_iff (counted : Counted trigger past) (run : Nat) :
    .begun run ∈ past ↔ run < runs past := by
  refine ⟨counted.numbered run, fun begun => ?_⟩
  rw [← List.count_pos_iff, counted.distinct run begun]
  exact Nat.one_pos

end Counted

namespace Stacked

variable {past later : List Happening} {task : Task} {rest : List Task}

/-- Something less is left to be done. -/
theorem tail (stacked : Stacked past (task :: rest)) (same : runs later = runs past) :
    Stacked later rest where
  known other member := same ▸ stacked.known other (List.mem_cons_of_mem _ member)
  owned other member := stacked.owned other (List.mem_cons_of_mem _ member)
  ordered := (List.pairwise_cons.1 stacked.ordered).2

/-- A run begins, and what it has to do comes first. -/
theorem begun (stacked : Stacked past (task :: rest)) (turn : Turn) :
    Stacked (.begun (runs past) :: .raised :: past) (turn.tasks (runs past) ++ rest) where
  known := by
    intro other member
    rw [runs_begun, runs_raised]
    rcases List.mem_append.1 member with own | left
    · obtain ⟨act, _, rfl⟩ := List.mem_map.1 own
      exact Nat.lt_succ_self _
    · have below := stacked.known other (List.mem_cons_of_mem _ left)
      cases belongs : other.run? with
      | none => trivial
      | some run =>
          rw [belongs] at below
          exact Nat.lt_succ_of_lt below
  owned := by
    intro other member report
    rcases List.mem_append.1 member with own | left
    · obtain ⟨act, _, rfl⟩ := List.mem_map.1 own
      exact Option.some_ne_none _
    · exact stacked.owned other (List.mem_cons_of_mem _ left) report
  ordered := by
    refine List.pairwise_append.2 ⟨?_, (List.pairwise_cons.1 stacked.ordered).2, ?_⟩
    · refine List.pairwise_map.2 (List.pairwise_of_forall fun _ _ => ?_)
      exact Nat.le_refl _
    · intro first own second left
      obtain ⟨act, _, rfl⟩ := List.mem_map.1 own
      have below := stacked.known second (List.mem_cons_of_mem _ left)
      cases belongs : second.run? with
      | none => trivial
      | some run =>
          rw [belongs] at below
          exact Nat.le_of_lt below

/-- Who reports next: a run that has begun, and no run that is left has begun after it. -/
theorem reporter {run? : Option Nat} (stacked : Stacked past (⟨run?, .report⟩ :: rest)) :
    ∃ run, run? = some run ∧ run < runs past ∧
      ∀ other act, ⟨some other, act⟩ ∈ rest → other ≤ run := by
  obtain ⟨run, rfl⟩ := Option.ne_none_iff_exists'.1
    (stacked.owned _ List.mem_cons_self rfl)
  refine ⟨run, rfl, stacked.known _ List.mem_cons_self, fun other act member => ?_⟩
  exact (List.pairwise_cons.1 stacked.ordered).1 _ member

end Stacked

namespace Booked

variable {trigger : Trigger} {past : List Happening} {rest : List Task} {run? : Option Nat}

theorem fresh (new : trigger.counters = (false, 0, 0)) : Booked trigger [] [] := by
  obtain ⟨free, completed, missed⟩ : trigger.busy = false ∧ trigger.completed = 0 ∧
      trigger.missed = 0 := by
    simpa [Trigger.counters] using new
  exact
    { counted := ⟨missed.symm, completed, rfl, nofun, nofun, nofun⟩
      stacked := ⟨nofun, nofun, .nil⟩
      held := fun busy => absurd (free.symm.trans busy) Bool.false_ne_true }

theorem congr {tasks : List Task} {after : Trigger} (booked : Booked trigger past tasks)
    (same : after.counters = trigger.counters) : Booked after past tasks := by
  obtain ⟨busy, completed, missed⟩ : after.busy = trigger.busy ∧
      after.completed = trigger.completed ∧ after.missed = trigger.missed := by
    simpa [Trigger.counters] using same
  exact
    { booked with
      counted :=
        { booked.counted with
          raised := missed ▸ booked.counted.raised
          completed := completed.trans booked.counted.completed }
      held := fun held => booked.held (busy ▸ held) }

theorem edge (booked : Booked trigger past []) : Booked trigger past [.edge] :=
  { booked with
    stacked :=
      { known := fun task member => by simp [List.mem_singleton.1 member, Task.edge]
        owned := fun task member report => by
          simp [List.mem_singleton.1 member, Task.edge] at report
        ordered := List.pairwise_singleton _ _ } }

theorem reported (booked : Booked trigger past (⟨run?, .report⟩ :: rest)) :
    Booked trigger.finish (.done run? :: past) rest := by
  obtain ⟨run, rfl, begun, _⟩ := booked.stacked.reporter
  exact
    { counted := booked.counted.reported begun
      stacked := booked.stacked.tail (runs_done past _)
      held := fun busy => absurd busy Bool.false_ne_true }

theorem dropped (booked : Booked trigger past (⟨run?, .raise⟩ :: rest))
    (busy : trigger.busy = true) : Booked trigger.miss (.missed :: .raised :: past) rest := by
  obtain ⟨run, last, unreported⟩ := booked.held busy
  exact
    { counted := booked.counted.dropped
      stacked := booked.stacked.tail rfl
      held := fun _ => ⟨run, last, by simpa using unreported⟩ }

theorem passed_on (booked : Booked trigger past (⟨run?, .raise⟩ :: rest)) :
    Booked trigger.take.finish (.done none :: .passed :: .raised :: past) rest where
  counted := booked.counted.passed_on
  stacked := booked.stacked.tail rfl
  held busy := absurd busy Bool.false_ne_true

theorem begun (booked : Booked trigger past (⟨run?, .raise⟩ :: rest)) (turn : Turn) :
    Booked trigger.take (.begun (runs past) :: .raised :: past)
      (turn.tasks (runs past) ++ rest) := by
  have first : .done (some (runs past)) ∉ past :=
    fun member => Nat.lt_irrefl _ (booked.counted.known _ member)
  exact
    { counted := booked.counted.begun
      stacked := booked.stacked.begun turn
      held := fun _ => ⟨runs past, runs_begun _ _, by simpa using first⟩ }

end Booked

/-! ## Which runs overlap -/

/-- A run is lost: it has begun, was not reported, and has nothing left to do. -/
def Lost (past : List Happening) (tasks : List Task) : Prop :=
  ∃ run, .begun run ∈ past ∧ .done (some run) ∉ past ∧ ∀ act, ⟨some run, act⟩ ∉ tasks

/-- What is lost stays so, unless it is reported or given something to do. -/
theorem Lost.later {past later : List Happening} {tasks rest : List Task} (lost : Lost past tasks)
    (begun : ∀ run, .begun run ∈ past → .begun run ∈ later)
    (done : ∀ run, .done (some run) ∈ later → .done (some run) ∈ past)
    (left : ∀ run act, .begun run ∈ past → ⟨some run, act⟩ ∈ rest → ⟨some run, act⟩ ∈ tasks) :
    Lost later rest := by
  obtain ⟨run, member, unreported, gone⟩ := lost
  exact ⟨run, begun run member, fun reported => unreported (done run reported),
    fun act still => gone act (left run act member still)⟩

/-- An account that is booked, and in which all runs but the one in hand were reported, unless a
run has reported over the head of a later one: that one is lost, it will never be reported. -/
structure Reckoned (trigger : Trigger) (past : List Happening) (tasks : List Task) : Prop where
  booked : Booked trigger past tasks
  orderly : Orderly past → ∀ run, .begun run ∈ past →
    .done (some run) ∈ past ∨ trigger.busy = true ∧ runs past = run + 1
  lost : ¬ Orderly past → Lost past tasks
  freed : ¬ Orderly past → AtBeginnings Orderly past → trigger.busy = false
  beginnings : AtBeginnings (fun earlier => AllDone earlier ↔ Orderly earlier) past

namespace Reckoned

variable {trigger : Trigger} {past : List Happening} {tasks rest : List Task} {run? : Option Nat}

/-- When a trigger is free, every run was reported just if none reported over the head of
another. -/
theorem allDone_iff (reckoned : Reckoned trigger past tasks) (free : trigger.busy = false) :
    AllDone past ↔ Orderly past := by
  constructor
  · intro all
    refine Classical.byContradiction fun disorderly => ?_
    obtain ⟨run, begun, unreported, _⟩ := reckoned.lost disorderly
    exact unreported (all run begun)
  · intro orderly run begun
    rcases reckoned.orderly orderly run begun with reported | ⟨busy, _⟩
    · exact reported
    · exact absurd (free.symm.trans busy) Bool.false_ne_true

/-- **No run begins too early just if none reports over the head of another.** -/
theorem exclusive_iff (reckoned : Reckoned trigger past tasks) :
    Exclusive past ↔ AtBeginnings Orderly past :=
  ⟨fun exclusive run earlier suffix =>
      (reckoned.beginnings run earlier suffix).1 (exclusive run earlier suffix),
    fun orderly run earlier suffix =>
      (reckoned.beginnings run earlier suffix).2 (orderly run earlier suffix)⟩

/-- **Nor would the next one, just if none has done so yet**: once a run has reported over the head
of another, some run has begun too early, or the trigger is free for one that would. -/
theorem orderly_iff (reckoned : Reckoned trigger past tasks) :
    Orderly past ↔ Exclusive past ∧ (trigger.busy = false → AllDone past) := by
  constructor
  · intro orderly
    exact ⟨reckoned.exclusive_iff.2 orderly.atBeginnings,
      fun free => (reckoned.allDone_iff free).2 orderly⟩
  · rintro ⟨exclusive, settled⟩
    refine Classical.byContradiction fun disorderly => ?_
    have free := reckoned.freed disorderly (reckoned.exclusive_iff.1 exclusive)
    exact disorderly ((reckoned.allDone_iff free).1 (settled free))

/-- Whoever reports over the head of a later run loses it, and nobody reports for a lost run. -/
theorem lost_reported {run : Nat} (reckoned : Reckoned trigger past (⟨some run, .report⟩ :: rest))
    (disorderly : ¬ Orderly (.done (some run) :: past)) : Lost (.done (some run) :: past) rest := by
  obtain ⟨_, same, _, newest⟩ := reckoned.booked.stacked.reporter
  cases same
  by_cases orderly : Orderly past
  · have lost : ¬ ∀ later, run < later → .begun later ∈ past → .done (some later) ∈ past := by
      intro none
      refine disorderly (orderly_cons.2 ⟨fun other same => ?_, orderly⟩)
      cases same
      exact none
    simp only [Classical.not_forall] at lost
    obtain ⟨later, above, member, unreported⟩ := lost
    refine ⟨later, by simpa using member, ?_, fun act left => ?_⟩
    · simpa [Nat.ne_of_gt above] using unreported
    · exact Nat.not_lt.2 (newest later act left) above
  · obtain ⟨other, member, unreported, gone⟩ := reckoned.lost orderly
    have different : other ≠ run := by
      rintro rfl
      exact gone .report List.mem_cons_self
    refine ⟨other, by simpa using member, ?_, fun act left => ?_⟩
    · simpa [different] using unreported
    · exact gone act (List.mem_cons_of_mem _ left)

theorem reported (reckoned : Reckoned trigger past (⟨run?, .report⟩ :: rest)) :
    Reckoned trigger.finish (.done run? :: past) rest := by
  obtain ⟨run, rfl, begun, _⟩ := reckoned.booked.stacked.reporter
  refine ⟨reckoned.booked.reported, fun tidy other member => .inl ?_, reckoned.lost_reported,
    fun _ _ => rfl, atBeginnings_cons.2 ⟨nofun, reckoned.beginnings⟩⟩
  obtain ⟨others, orderly⟩ := orderly_cons.1 tidy
  have member : .begun other ∈ past := by simpa using member
  rcases reckoned.orderly orderly other member with reported | ⟨_, last⟩
  · exact List.mem_cons_of_mem _ reported
  -- The other run is the last one, and the one that reports has not begun after it.
  rw [last, Nat.lt_succ_iff_lt_or_eq] at begun
  rcases begun with earlier | rfl
  · exact List.mem_cons_of_mem _ (others run rfl other earlier member)
  · exact List.mem_cons_self

theorem dropped (reckoned : Reckoned trigger past (⟨run?, .raise⟩ :: rest))
    (busy : trigger.busy = true) : Reckoned trigger.miss (.missed :: .raised :: past) rest := by
  have same : Orderly (.missed :: .raised :: past) ↔ Orderly past := by simp [orderly_cons]
  refine ⟨reckoned.booked.dropped busy, ?_, fun disorderly => ?_, ?_, ?_⟩
  · simpa [same] using reckoned.orderly
  · exact (reckoned.lost fun tidy => disorderly (same.2 tidy)).later (by simp) (by simp)
      fun _ _ _ => List.mem_cons_of_mem _
  · simpa [same, atBeginnings_cons] using reckoned.freed
  · simpa [atBeginnings_cons] using reckoned.beginnings

theorem passed_on (reckoned : Reckoned trigger past (⟨run?, .raise⟩ :: rest))
    (free : trigger.busy = false) :
    Reckoned trigger.take.finish (.done none :: .passed :: .raised :: past) rest := by
  have same : Orderly (.done none :: .passed :: .raised :: past) ↔ Orderly past := by
    simp [orderly_cons]
  refine ⟨reckoned.booked.passed_on, ?_, fun disorderly => ?_, fun _ _ => rfl, ?_⟩
  · have reckoned := reckoned.orderly
    simp only [free, Bool.false_eq_true, false_and, or_false] at reckoned
    simpa [same] using reckoned
  · exact (reckoned.lost fun tidy => disorderly (same.2 tidy)).later (by simp) (by simp)
      fun _ _ _ => List.mem_cons_of_mem _
  · simpa [atBeginnings_cons] using reckoned.beginnings

theorem begun (reckoned : Reckoned trigger past (⟨run?, .raise⟩ :: rest))
    (free : trigger.busy = false) (turn : Turn) :
    Reckoned trigger.take (.begun (runs past) :: .raised :: past)
      (turn.tasks (runs past) ++ rest) := by
  have same : Orderly (.begun (runs past) :: .raised :: past) ↔ Orderly past := by
    simp [orderly_cons]
  have here := reckoned.allDone_iff free
  refine ⟨reckoned.booked.begun turn, fun tidy run member => ?_, fun disorderly => ?_,
    fun disorderly since => ?_, ?_⟩
  · have allDone := here.2 (same.1 tidy)
    have member : run = runs past ∨ .begun run ∈ past := by simpa using member
    rcases member with rfl | earlier
    · exact .inr ⟨rfl, runs_begun _ _⟩
    · exact .inl (by simpa using allDone run earlier)
  · refine (reckoned.lost fun tidy => disorderly (same.2 tidy)).later ?_ (by simp) ?_
    · exact fun run member => by simp [member]
    · intro run act member left
      rcases List.mem_append.1 left with own | left
      · obtain ⟨_, _, same⟩ := List.mem_map.1 own
        cases same
        exact absurd (reckoned.booked.counted.numbered _ member) (Nat.lt_irrefl _)
      · exact List.mem_cons_of_mem _ left
  · have orderly := (atBeginnings_cons.1 since).1 (runs past) rfl
    exact absurd (same.2 (orderly_cons.1 orderly).2) disorderly
  · exact atBeginnings_cons.2 ⟨fun _ _ => by simpa [AllDone, orderly_cons] using here,
      atBeginnings_cons.2 ⟨nofun, reckoned.beginnings⟩⟩

end Reckoned

/-- **Every account is booked, and reckoned with**, whatever the handlers do. -/
theorem invariant_reckoned {F H : Type} [Provider F H] : Invariant F Reckoned where
  fresh trigger new :=
    ⟨.fresh new, fun _ => nofun, fun disorderly => absurd orderly_nil disorderly,
      fun disorderly => absurd orderly_nil disorderly, atBeginnings_nil⟩
  congr before after past same reckoned := by
    have busy : after.busy = before.busy := congrArg Prod.fst same
    exact
      { reckoned with
        booked := reckoned.booked.congr same
        orderly := fun orderly run member => busy ▸ reckoned.orderly orderly run member
        freed := fun disorderly since => busy.trans (reckoned.freed disorderly since) }
  edge trigger past reckoned :=
    { reckoned with
      booked := reckoned.booked.edge
      lost := fun disorderly => (reckoned.lost disorderly).later (fun _ => id) (fun _ => id)
        fun run act _ left => by simp [Task.edge] at left }
  reported trigger past run? rest reckoned := reckoned.reported
  dropped trigger past run? rest busy reckoned := reckoned.dropped busy
  passed trigger past run? rest free reckoned := reckoned.passed_on free
  begun trigger past run? rest turn free _ reckoned := reckoned.begun free turn

/-! ## Runs that never overlap -/

section Handlers

variable (F : Type) {H : Type} [Provider F H]

/-- Every run of a handler reports at least once. -/
def Diligent : Prop :=
  ∀ turn, Takes F turn → .report ∈ turn.acts

/-- No run of a handler goes back to its report after it has raised an edge behind it. -/
def Brisk : Prop :=
  ∀ turn, Takes F turn → ¬ [Act.report, .raise, .report].Sublist turn.acts

/-- Every run of a handler reports once. -/
def Prompt : Prop :=
  ∀ turn, Takes F turn → turn.acts.count .report = 1

end Handlers

/-- The handler of a converter reports once, whether its scan succeeds or fails. -/
theorem Frontend.prompt {σ : Type} [Spi.Device σ UInt16] : Prompt (Frontend σ) := by
  rintro turn ⟨time, _, frontend, _, later, lines, handled⟩
  obtain ⟨⟨answer, kept, printed⟩, answered, same⟩ := Option.map_eq_some_iff.1 handled
  cases same
  rw [frontend.handle_acts time _ _ _ answered]
  rfl

/-- Whoever reports once reports at least once. -/
theorem Prompt.diligent {F H : Type} [Provider F H] (prompt : Prompt F) : Diligent F := by
  intro turn takes
  rw [← List.count_pos_iff, prompt turn takes]
  exact Nat.one_pos

/-- Every run was reported or has a report left to make. -/
def Pledged (past : List Happening) (tasks : List Task) : Prop :=
  ∀ run, .begun run ∈ past → .done (some run) ∈ past ∨ ⟨some run, .report⟩ ∈ tasks

/-- Only the last run has a report left to make, and none that was reported has one left behind an
edge. -/
structure Spent (past : List Happening) (tasks : List Task) : Prop where
  sole : ∀ run, ⟨some run, .report⟩ ∈ tasks → runs past = run + 1
  spent : ∀ run, .done (some run) ∈ past →
    ¬ [Task.mk (some run) .raise, ⟨some run, .report⟩].Sublist tasks
  whole : ∀ run,
    ¬ [Task.mk (some run) .report, ⟨some run, .raise⟩, ⟨some run, .report⟩].Sublist tasks

section Invariants

variable {F H : Type} [Provider F H]

/-- **If every run reports, no run reports over the head of a later one**: before it goes on, the
later run is done with all its acts. -/
theorem invariant_diligent (diligent : Diligent F) : Invariant F fun trigger past tasks =>
    Booked trigger past tasks ∧ Orderly past ∧ Pledged past tasks where
  fresh trigger new := ⟨.fresh new, orderly_nil, fun _ => nofun⟩
  congr before after past same := by
    rintro ⟨booked, rest⟩
    exact ⟨booked.congr same, rest⟩
  edge trigger past := by
    rintro ⟨booked, orderly, pledged⟩
    exact ⟨booked.edge, orderly, fun run member =>
      (pledged run member).imp_right fun left => absurd left List.not_mem_nil⟩
  reported trigger past run? rest := by
    rintro ⟨booked, orderly, pledged⟩
    refine ⟨booked.reported, ?_, ?_⟩
    · obtain ⟨run, rfl, _, newest⟩ := booked.stacked.reporter
      refine orderly_cons.2 ⟨fun other same later above member => ?_, orderly⟩
      cases same
      rcases pledged later member with reported | left
      · exact reported
      rcases List.mem_cons.1 left with same | left
      · cases same
        exact absurd above (Nat.lt_irrefl _)
      · exact absurd above (Nat.not_lt.2 (newest later _ left))
    · intro run member
      rcases pledged run (by simpa using member) with reported | left
      · exact .inl (List.mem_cons_of_mem _ reported)
      rcases List.mem_cons.1 left with same | left
      · cases same
        exact .inl List.mem_cons_self
      · exact .inr left
  dropped trigger past run? rest busy := by
    rintro ⟨booked, orderly, pledged⟩
    exact ⟨booked.dropped busy, by simpa [orderly_cons], by simpa [Pledged] using pledged⟩
  passed trigger past run? rest free := by
    rintro ⟨booked, orderly, pledged⟩
    exact ⟨booked.passed_on, by simpa [orderly_cons], by simpa [Pledged] using pledged⟩
  begun trigger past run? rest turn free takes := by
    rintro ⟨booked, orderly, pledged⟩
    refine ⟨booked.begun turn, by simpa [orderly_cons], fun run member => ?_⟩
    have member : run = runs past ∨ .begun run ∈ past := by simpa using member
    rcases member with rfl | earlier
    · exact .inr (List.mem_append_left _ (List.mem_map_of_mem (diligent turn takes)))
    · rcases pledged run earlier with reported | left
      · exact .inl (by simpa using reported)
      · exact .inr (List.mem_append_right _ (by simpa using left))

end Invariants

namespace Spent

variable {past later : List Happening} {task : Task} {rest : List Task}

/-- Something less is left to be done. -/
theorem tail (spent : Spent past (task :: rest)) (same : runs later = runs past)
    (done : ∀ run, .done (some run) ∈ later → .done (some run) ∈ past) : Spent later rest where
  sole run member := same ▸ spent.sole run (List.mem_cons_of_mem _ member)
  spent run member again := spent.spent run (done run member) (again.cons _)
  whole run again := spent.whole run (again.cons _)

/-- A run that has reported has none left behind an edge, or it would go back to its report. -/
theorem reported {run : Nat} (spent : Spent past (⟨some run, .report⟩ :: rest)) :
    Spent (.done (some run) :: past) rest where
  sole other member := spent.sole other (List.mem_cons_of_mem _ member)
  spent other member again := by
    rcases List.mem_cons.1 member with same | earlier
    · cases same
      exact spent.whole run (again.cons_cons _)
    · exact spent.spent other earlier (again.cons _)
  whole other again := spent.whole other (again.cons _)

/-- No report is left behind an edge that a free trigger is to deliver: it would be one of the last
run, which was reported, and whose edge this is. -/
theorem notMem_report {trigger : Trigger} {run? : Option Nat} {run : Nat}
    (spent : Spent past (⟨run?, .raise⟩ :: rest))
    (reckoned : Reckoned trigger past (⟨run?, .raise⟩ :: rest)) (orderly : Orderly past)
    (free : trigger.busy = false) : ⟨some run, .report⟩ ∉ rest := by
  intro member
  have booked := reckoned.booked
  have last := spent.sole run (List.mem_cons_of_mem _ member)
  have begun : .begun run ∈ past := (booked.counted.begun_iff run).2 (by omega)
  have reported := (reckoned.allDone_iff free).2 orderly run begun
  have above := (List.pairwise_cons.1 booked.stacked.ordered).1 _ member
  cases run? with
  | none => exact above
  | some raiser =>
      have above : run ≤ raiser := above
      have below : raiser < runs past := booked.stacked.known _ List.mem_cons_self
      have same : raiser = run := by omega
      rw [same] at spent
      exact spent.spent run reported ((List.singleton_sublist.2 member).cons_cons _)

end Spent

/-- Among all that is left when a run begins, what that run has to do are its own acts. -/
theorem Stacked.filter_begun {past : List Happening} {task : Task} {rest : List Task}
    (stacked : Stacked past (task :: rest)) (turn : Turn) :
    (turn.tasks (runs past) ++ rest).filter (fun task => task.run? == some (runs past)) =
      turn.tasks (runs past) := by
  have others : rest.filter (fun task => task.run? == some (runs past)) = [] := by
    refine List.filter_eq_nil_iff.2 fun task member same => ?_
    have below := stacked.known task (List.mem_cons_of_mem _ member)
    rw [eq_of_beq same] at below
    exact Nat.lt_irrefl _ below
  rw [List.filter_append, others, List.append_nil]
  exact List.filter_eq_self.2 (by simp [Turn.tasks])

/-- A run begins that does not go back to its report, and no other report is left. -/
theorem Spent.begun {past : List Happening} {task : Task} {rest : List Task} {turn : Turn}
    (brisk : ¬ [Act.report, .raise, .report].Sublist turn.acts)
    (counted : ∀ run, .done (some run) ∈ past → run < runs past)
    (stacked : Stacked past (task :: rest)) (none : ∀ run, ⟨some run, .report⟩ ∉ rest) :
    Spent (.begun (runs past) :: .raised :: past) (turn.tasks (runs past) ++ rest) := by
  have own : ∀ run, ⟨some run, .report⟩ ∈ turn.tasks (runs past) ++ rest → run = runs past := by
    intro run member
    rcases List.mem_append.1 member with own | left
    · obtain ⟨_, _, same⟩ := List.mem_map.1 own
      cases same
      rfl
    · exact absurd left (none run)
  refine ⟨fun run member => ?_, fun run member again => ?_, fun run again => ?_⟩
  · rw [own run member, runs_begun, runs_raised]
  · have earlier := counted run (by simpa using member)
    exact Nat.ne_of_lt earlier (own run (again.subset (by simp)))
  · cases own run (again.subset (by simp))
    have mine := again.filter fun task => task.run? == some (runs past)
    rw [stacked.filter_begun turn] at mine
    exact brisk (by simpa [Turn.act_tasks] using mine.map Task.act)

section Invariants

variable {F H : Type} [Provider F H]

/-- **If no run goes back to its report, no run reports over the head of a later one**: a run that
raises an edge behind its report has none left to make. -/
theorem invariant_brisk (brisk : Brisk F) : Invariant F fun trigger past tasks =>
    Reckoned trigger past tasks ∧ Orderly past ∧ Spent past tasks where
  fresh trigger new :=
    ⟨(invariant_reckoned (F := F)).fresh trigger new, orderly_nil,
      ⟨fun _ => nofun, fun _ => nofun, fun _ => nofun⟩⟩
  congr before after past same := by
    rintro ⟨reckoned, rest⟩
    exact ⟨(invariant_reckoned (F := F)).congr _ _ _ same reckoned, rest⟩
  edge trigger past := by
    rintro ⟨reckoned, orderly, _⟩
    exact ⟨(invariant_reckoned (F := F)).edge _ _ reckoned, orderly,
      fun run left => by simp [Task.edge] at left,
      fun run _ again => by simpa using again.length_le,
      fun run again => by simpa using again.length_le⟩
  reported trigger past run? rest := by
    rintro ⟨reckoned, orderly, spent⟩
    obtain ⟨run, rfl, _⟩ := reckoned.booked.stacked.reporter
    refine ⟨reckoned.reported, orderly_cons.2 ⟨?_, orderly⟩, spent.reported⟩
    intro other same later above member
    cases same
    have last := spent.sole run List.mem_cons_self
    have begun := reckoned.booked.counted.numbered later member
    omega
  dropped trigger past run? rest busy := by
    rintro ⟨reckoned, orderly, spent⟩
    exact ⟨reckoned.dropped busy, by simpa [orderly_cons], spent.tail rfl (by simp)⟩
  passed trigger past run? rest free := by
    rintro ⟨reckoned, orderly, spent⟩
    exact ⟨reckoned.passed_on free, by simpa [orderly_cons], spent.tail rfl (by simp)⟩
  begun trigger past run? rest turn free takes := by
    rintro ⟨reckoned, orderly, spent⟩
    have booked := reckoned.booked
    exact ⟨reckoned.begun free turn, by simpa [orderly_cons],
      .begun (brisk turn takes) booked.counted.known booked.stacked fun _ =>
        spent.notMem_report reckoned orderly free⟩

theorem Turn.count_tasks (turn : Turn) (run other : Nat) :
    (turn.tasks run).count ⟨some other, .report⟩ =
      if other = run then turn.acts.count .report else 0 := by
  rw [tasks]
  induction turn.acts with
  | nil => simp
  | cons act rest ih =>
      cases act with
      | report =>
          simp [List.count_cons, ih]
          grind
      | raise => simp [ih]

/-- Every run was reported once or will be, and no run that has not begun was. -/
def ReportedOnce (past : List Happening) (tasks : List Task) : Prop :=
  ∀ run, past.count (.done (some run)) + tasks.count ⟨some run, .report⟩ =
    if run < runs past then 1 else 0

/-- **If every handler reports once, every run is reported once.** -/
theorem invariant_prompt (prompt : Prompt F) : Invariant F fun _ past tasks =>
    ReportedOnce past tasks where
  fresh _ _ _ := rfl
  congr _ _ _ _ once := once
  edge _ past once run := by simpa [Task.edge] using once run
  reported trigger past run? rest once run := by
    have here := once run
    simp only [List.count_cons, runs_done] at here ⊢
    grind
  dropped trigger past run? rest _ once run := by
    change _ = if run < runs past then 1 else 0
    simpa [List.count_cons] using once run
  passed trigger past run? rest _ once run := by
    change _ = if run < runs past then 1 else 0
    simpa [List.count_cons] using once run
  begun trigger past run? rest turn _ takes once run := by
    have here := once run
    have one := prompt turn takes
    rw [List.count_append, turn.count_tasks, one]
    simp only [List.count_cons, runs_begun, runs_raised] at here ⊢
    grind

end Invariants

/-! ## Runs that are reported once -/

/-- The runs that reports are about. -/
def reporters : List Happening → List Nat
  | [] => []
  | .done (some run) :: past => run :: reporters past
  | _ :: past => reporters past

theorem reports_eq (past : List Happening) :
    reports past = past.count (.done none) + (reporters past).length := by
  induction past with
  | nil => rfl
  | cons happening past ih =>
      cases happening with
      | done run? => cases run? <;> simp [ih, reporters] <;> omega
      | _ => simpa [reporters] using ih

theorem count_reporters (past : List Happening) (run : Nat) :
    (reporters past).count run = past.count (.done (some run)) := by
  induction past with
  | nil => rfl
  | cons happening past ih =>
      cases happening with
      | done run? => cases run? <;> simp [reporters, List.count_cons, ih]
      | _ => simpa [reporters] using ih

/-- **If every run was reported once, every delivered edge was reported**, and the trigger is
free. -/
theorem Booked.once {trigger : Trigger} {past : List Happening} {tasks : List Task}
    (booked : Booked trigger past tasks)
    (once : ∀ run < runs past, past.count (.done (some run)) = 1) :
    trigger.busy = false ∧ past.count .raised = trigger.completed + trigger.missed := by
  have perm : (reporters past).Perm (List.range (runs past)) := by
    rw [List.perm_iff_count]
    intro run
    rw [count_reporters, List.count_range]
    rcases Nat.lt_or_ge run (runs past) with begun | unknown
    · rw [once run begun, if_pos begun]
    · have unreported : .done (some run) ∉ past := fun member =>
        Nat.not_lt.2 unknown (booked.counted.known run member)
      rw [List.count_eq_zero.2 unreported, if_neg (Nat.not_lt.2 unknown)]
  have total := perm.length_eq
  rw [List.length_range] at total
  have all := booked.counted.raised
  rw [deliveries, booked.counted.passed] at all
  have reported := booked.counted.completed
  rw [reports_eq, total] at reported
  refine ⟨?_, by omega⟩
  rw [← Bool.not_eq_true]
  intro busy
  obtain ⟨run, last, unreported⟩ := booked.held busy
  have none := List.count_eq_zero.2 unreported
  have one := once run (last ▸ Nat.lt_succ_self run)
  omega

end Acquisition
