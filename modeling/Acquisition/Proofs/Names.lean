/-
# Acquisition.Proofs.Names — the names of software triggers

A software trigger is made under a name, found by it, and destroyed by its number. A destroyed
trigger leaves its name to the next one, so numbers kept from before and new triggers of the same
name are around together. Only the answers are looked at here: which triggers were `created`, and
under which names, which were `destroyed`, and so which are `live`.

No trigger is ever renamed, and nothing but making a software trigger and destroying one changes
which there are (`perform_unrenamed`). By induction over the steps a session lists exactly the live
triggers, and of two that were created under one name the earlier is destroyed (`Recalls`). From
this follows that no two live triggers have the same name, and what is answered when a trigger is
made, found or destroyed (`software_names_unique`).
-/
import Acquisition.Proofs.Probe
import Acquisition.Proofs.Quiet
import Acquisition.Rehearsal
import Mathlib.Data.List.Nodup
import Mathlib.Data.List.Pairwise

namespace Acquisition

set_option autoImplicit false

/-! ## No trigger is renamed -/

/-- Whether a command makes a software trigger or destroys one. -/
def Command.concernsSoftware {F H : Type} : Command F H → Bool
  | .createSoftware _ _ | .destroySoftware _ => true
  | _ => false

namespace Session

variable {F H : Type}

/-- The name of a trigger. -/
def name? (session : Session F H) (id : TriggerId) : Option String :=
  (session.trigger? id).map Trigger.name

/-- The software triggers are the same as before, and the triggers that were there have the names
they had. -/
structure Unrenamed (before after : Session F H) : Prop where
  software : after.software = before.software
  names : ∀ id name, before.name? id = some name → after.name? id = some name

namespace Unrenamed

theorem refl (session : Session F H) : Unrenamed session session :=
  ⟨rfl, fun _ _ => id⟩

theorem trans {first second third : Session F H} (left : Unrenamed first second)
    (right : Unrenamed second third) : Unrenamed first third :=
  ⟨right.software.trans left.software,
    fun id name here => right.names id name (left.names id name here)⟩

/-- A change beside the triggers. -/
theorem beside {before after : Session F H} (triggers : after.triggers = before.triggers)
    (software : after.software = before.software) : Unrenamed before after := by
  refine ⟨software, fun id name here => ?_⟩
  rwa [name?, trigger?, triggers]

end Unrenamed

section Functions

variable (session : Session F H)

/-- A change of a trigger that leaves it its name. -/
theorem name?_modifyTrigger (id other : TriggerId) {change : Trigger → Trigger}
    (same : ∀ trigger, session.trigger? id = some trigger → (change trigger).name = trigger.name) :
    (session.modifyTrigger id change).name? other = session.name? other := by
  rw [name?, trigger?_modifyTrigger_eq, name?]
  split
  · next here =>
      rw [here, Option.map_map]
      exact Option.map_congr same
  · rfl

theorem unrenamed_modifyTrigger (id : TriggerId) {change : Trigger → Trigger}
    (same : ∀ trigger, session.trigger? id = some trigger → (change trigger).name = trigger.name) :
    Unrenamed session (session.modifyTrigger id change) :=
  ⟨rfl, fun other _ here => (session.name?_modifyTrigger id other same).trans here⟩

/-- Minor changes rename no trigger. -/
theorem Minor.unrenamed {before after : Session F H} (minor : Minor before after) :
    Unrenamed before after := by
  induction minor with
  | refl session => exact .refl session
  | device | journal => exact .beside rfl rfl
  | @trigger session id change marks =>
      exact session.unrenamed_modifyTrigger id fun trigger here =>
        congrArg Prod.fst (marks trigger here)
  | trans _ _ left right => exact left.trans right

/-- A new trigger renames none of the others. -/
theorem unrenamed_addTrigger (name : String) (source : Source) :
    Unrenamed session (session.addTrigger name source).2 := by
  refine ⟨rfl, fun id known here => ?_⟩
  obtain ⟨trigger, found, _⟩ := Option.map_eq_some_iff.1 here
  have old : id.index ≠ session.triggers.size := Nat.ne_of_lt (index_lt_of_trigger? found)
  rwa [name?, trigger?_addTrigger, if_neg old]

theorem unrenamed_unregister (id : DeviceId) : Unrenamed session (session.unregister id).2 := by
  rw [unregister]
  split
  · exact .refl session
  · have unlisted : Unrenamed session { session with listed := session.listed.erase id } :=
      .beside rfl rfl
    have stopped := unlisted.trans (minor_disable _ id).unrenamed
    split
    · next refused => exact refused ▸ stopped
    · next agreed =>
        rw [agreed] at stopped
        exact stopped.trans (.beside rfl rfl)

theorem unrenamed_poll [Provider F H] {id : TriggerId} {time : Int64} {after : Session F H}
    (polled : session.poll id time = some after) : Unrenamed session after := by
  rw [poll] at polled
  split at polled
  · next trigger consumer found _ =>
      split at polled
      · cases polled
        exact .refl session
      · obtain ⟨met, played, same⟩ := Option.map_eq_some_iff.1 polled
        cases same
        refine (session.unrenamed_modifyTrigger id fun held here => ?_).trans (.beside rfl rfl)
        cases found.symm.trans here
        exact (Encounter.Still.play played).name
  · cases polled
    exact .refl session

end Functions

/-- **No command renames a trigger**, and nothing but making a software trigger and destroying one
changes which there are. -/
theorem perform_unrenamed [Provider F H] {session after : Session F H} {command : Command F H}
    (apart : command.concernsSoftware = false) (performed : session.perform command = some after) :
    Unrenamed session after := by
  cases command with
  | createSoftware kind name | destroySoftware trigger => cases apart
  | makeDevice name channels provider =>
      cases performed
      exact .beside rfl rfl
  | makeTrigger name source =>
      cases performed
      exact session.unrenamed_addTrigger name source
  | register device =>
      cases performed
      rw [register]
      split
      · exact .refl session
      · split <;> exact .beside rfl rfl
  | unregister device =>
      cases performed
      exact session.unrenamed_unregister device
  | poll trigger time => exact session.unrenamed_poll performed
  | tick trigger time =>
      rw [perform, tick_eq] at performed
      split at performed
      · exact session.unrenamed_poll performed
      · cases performed
        exact .refl session
  | notifyDone trigger =>
      cases performed
      exact session.unrenamed_modifyTrigger trigger fun _ _ => rfl
  | _ => exact (perform_minor rfl performed).unrenamed

/-! ## What answers tell -/

namespace Step

/-- The software trigger that is made in a step, by the answer, and its name. -/
def created? (step : Step F H) : Option (TriggerId × String) :=
  match step.command with
  | .createSoftware kind name =>
      match (step.before.createSoftware kind name).1 with
      | .ok id => some (id, name)
      | .error _ => none
  | _ => none

/-- The software trigger that is destroyed in a step, by the answer. -/
def destroyed? (step : Step F H) : Option TriggerId :=
  match step.command with
  | .destroySoftware id =>
      match (step.before.destroySoftware id).1 with
      | .ok () => some id
      | .error _ => none
  | _ => none

/-- What a step does to the software triggers: nothing, or one is made under a name that is free,
or one is destroyed. -/
inductive Naming (step : Step F H) : Prop where
  | kept (created : step.created? = none) (destroyed : step.destroyed? = none)
      (same : Unrenamed step.before step.after)
  | made {id : TriggerId} {name : String} (created : step.created? = some (id, name))
      (destroyed : step.destroyed? = none) (new : step.before.trigger? id = none)
      (free : step.before.software? name = none)
      (software : step.after.software = step.before.software ++ [id])
      (names : ∀ other, step.after.name? other =
        if other = id then some name else step.before.name? other)
  | gone {id : TriggerId} (created : step.created? = none) (destroyed : step.destroyed? = some id)
      (listed : id ∈ step.before.software)
      (software : step.after.software = step.before.software.erase id)
      (names : ∀ other, step.after.name? other = step.before.name? other)

end Step

/-- The software triggers that were made, in order, and their names. -/
def created (steps : List (Step F H)) : List (TriggerId × String) :=
  steps.filterMap Step.created?

/-- The software triggers that were destroyed, in order. -/
def destroyed (steps : List (Step F H)) : List TriggerId :=
  steps.filterMap Step.destroyed?

/-- The software triggers that were made and not destroyed, oldest first. -/
def live (steps : List (Step F H)) : List TriggerId :=
  ((created steps).map Prod.fst).filter (· ∉ destroyed steps)

/-- The software trigger made last under a name. -/
def lastCreated? (steps : List (Step F H)) (name : String) : Option TriggerId :=
  (((created steps).filter (·.2 = name)).getLast?).map Prod.fst

section Software

variable {session after : Session F H}

/-- A software trigger is refused if it is of another kind, then if its name is taken. -/
theorem createSoftware_cases (session : Session F H) (kind name : String) :
    kind ≠ timerKind ∧ session.createSoftware kind name = (.error .notSupported, session) ∨
    kind = timerKind ∧ (session.software? name).isSome = true ∧
      session.createSoftware kind name = (.error .exists, session) ∨
    kind = timerKind ∧ session.software? name = none ∧
      (session.createSoftware kind name).1 = .ok ⟨session.triggers.size⟩ ∧
      (session.createSoftware kind name).2.software =
        session.software ++ [⟨session.triggers.size⟩] ∧
      ∀ other, (session.createSoftware kind name).2.trigger? other =
        if other = ⟨session.triggers.size⟩ then some { name, source := .timed {} }
        else session.trigger? other := by
  by_cases timed : kind = timerKind
  · subst timed
    cases named : session.software? name with
    | none =>
        obtain ⟨after, answered⟩ := createSoftware_free named
        obtain ⟨_, _, software, _, _, _, _, triggers⟩ := createSoftware_ok answered
        exact .inr (.inr ⟨rfl, rfl, congrArg Prod.fst answered, answered ▸ software,
          answered ▸ triggers⟩)
    | some id =>
        refine .inr (.inl ⟨rfl, rfl, ?_⟩)
        rw [createSoftware, if_neg (not_not.2 rfl), named]
        rfl
  · exact .inl ⟨timed, if_pos timed⟩

/-- A software trigger that is destroyed is left without a consumer and no other is touched. -/
theorem destroySoftware_cases (session : Session F H) (id : TriggerId) :
    id ∉ session.software ∧ session.destroySoftware id = (.error .noDevice, session) ∨
    id ∈ session.software ∧ (session.destroySoftware id).1 = .ok () ∧
      (session.destroySoftware id).2.software = session.software.erase id ∧
      ∀ other, (session.destroySoftware id).2.trigger? other =
        if other = id then (session.trigger? other).map fun trigger => trigger.stop.2.detach
        else session.trigger? other := by
  rw [destroySoftware]
  split
  · next absent => exact .inl ⟨by simpa using absent, rfl⟩
  · next present =>
      refine .inr ⟨by simpa using present, rfl, rfl, fun other => ?_⟩
      exact trigger?_modifyTrigger_eq _ id other _

theorem perform_naming [Provider F H] {command : Command F H}
    (performed : session.perform command = some after) :
    Step.Naming ⟨session, command, after⟩ := by
  cases command with
  | createSoftware kind name =>
      cases performed
      rcases session.createSoftware_cases kind name with
        ⟨_, same⟩ | ⟨_, _, same⟩ | ⟨_, free, answer, software, triggers⟩
      · refine .kept ?_ rfl ?_ <;> simp only [Step.created?, same]
        exact .refl session
      · refine .kept ?_ rfl ?_ <;> simp only [Step.created?, same]
        exact .refl session
      · have new : session.trigger? ⟨session.triggers.size⟩ = none :=
          List.getElem?_eq_none (Nat.le_refl _)
        refine .made (by simp only [Step.created?, answer]) rfl new free software fun other => ?_
        rw [name?, triggers, apply_ite (Option.map Trigger.name)]
        rfl
  | destroySoftware id =>
      cases performed
      rcases session.destroySoftware_cases id with ⟨_, same⟩ | ⟨listed, answer, software, triggers⟩
      · refine .kept rfl ?_ ?_ <;> simp only [Step.destroyed?, same]
        exact .refl session
      · refine .gone rfl (by simp only [Step.destroyed?, answer]) listed software fun other => ?_
        rw [name?, triggers, name?]
        split
        · rw [Option.map_map]
          exact congrArg (Option.map · _) (funext fun trigger => congrArg Prod.fst trigger.stop_marks)
        · rfl
  | _ => exact .kept rfl rfl (perform_unrenamed rfl performed)

end Software

theorem created_concat (steps : List (Step F H)) (step : Step F H) :
    created (steps ++ [step]) = created steps ++ step.created?.toList := by
  simp only [created, List.filterMap_append, List.filterMap_cons, List.filterMap_nil]
  cases step.created? <;> rfl

theorem destroyed_concat (steps : List (Step F H)) (step : Step F H) :
    destroyed (steps ++ [step]) = destroyed steps ++ step.destroyed?.toList := by
  simp only [destroyed, List.filterMap_append, List.filterMap_cons, List.filterMap_nil]
  cases step.destroyed? <;> rfl

/-- Where all but the last fail, the first that passes can only be the last. -/
theorem find?_eq_getLast? {α : Type} {passes : α → Bool} : ∀ {list : List α},
    (list.Pairwise fun earlier _ => passes earlier = false) →
      list.find? passes = list.getLast?.filter passes
  | [], _ => rfl
  | [only], _ => by rw [List.find?_singleton, List.getLast?_singleton, Option.filter_some]
  | first :: second :: rest, fails => by
      obtain ⟨bad, others⟩ := List.pairwise_cons.1 fails
      have skipped : ¬ passes first = true := by
        rw [bad second List.mem_cons_self]
        exact Bool.false_ne_true
      rw [List.find?_cons_of_neg skipped, List.getLast?_cons_cons]
      exact find?_eq_getLast? others

/-! ## What a session recalls of them -/

/-- A session lists the software triggers that were made and not destroyed, and each has the name it
was made under. None was made twice, and of two that were made under one name the earlier is
destroyed. -/
structure Recalls (made : List (TriggerId × String)) (gone : List TriggerId)
    (session : Session F H) : Prop where
  software : session.software = (made.map Prod.fst).filter (· ∉ gone)
  names : ∀ id name, (id, name) ∈ made → session.name? id = some name
  known : ∀ id ∈ gone, ∃ name, (id, name) ∈ made
  superseded : made.Pairwise fun earlier later =>
    earlier.1 ≠ later.1 ∧ (earlier.2 = later.2 → earlier.1 ∈ gone)

namespace Recalls

variable {made : List (TriggerId × String)} {gone : List TriggerId} {session after : Session F H}
  {id : TriggerId} {name : String}

theorem mem_software (recalls : Recalls made gone session) :
    id ∈ session.software ↔ (∃ name, (id, name) ∈ made) ∧ id ∉ gone := by
  simp [recalls.software]

theorem nodup (recalls : Recalls made gone session) : session.software.Nodup := by
  rw [recalls.software]
  refine List.Nodup.filter _ (List.pairwise_map.2 ?_)
  exact recalls.superseded.imp And.left

/-- Listed triggers have different names: of two under one name the earlier is destroyed. -/
theorem distinct (recalls : Recalls made gone session) :
    session.software.Pairwise fun id other => session.name? id ≠ session.name? other := by
  rw [recalls.software]
  refine List.pairwise_filter.2 (List.pairwise_map.2 ?_)
  refine recalls.superseded.imp_of_mem fun {earlier later} here there apart alive _ same => ?_
  rw [recalls.names _ _ here, recalls.names _ _ there] at same
  exact of_decide_eq_true alive (apart.2 (Option.some.inj same))

/-- A trigger goes by the name it was made under. -/
theorem goesBy_eq (recalls : Recalls made gone session) {entry : TriggerId × String}
    (member : entry ∈ made) (name : String) :
    ((session.trigger? entry.1).any fun trigger => trigger.name == name) =
      decide (entry.2 = name) := by
  obtain ⟨trigger, found, named⟩ := Option.map_eq_some_iff.1 (recalls.names _ _ member)
  rw [found, Option.any_some, named, beq_eq_decide]

/-- No trigger is found under a name just if none that is listed has it. -/
theorem software?_eq_none (recalls : Recalls made gone session) :
    session.software? name = none ↔ ∀ id ∈ session.software, session.name? id ≠ some name := by
  rw [software?, List.find?_eq_none]
  refine forall₂_congr fun id listed => ?_
  obtain ⟨⟨called, member⟩, _⟩ := recalls.mem_software.1 listed
  rw [recalls.goesBy_eq member, recalls.names id called member, decide_eq_true_iff, ne_eq,
    Option.some_inj]

/-- All but the last trigger under a name are destroyed, so the one that is found is the last. -/
theorem software?_eq (recalls : Recalls made gone session) (name : String) :
    session.software? name =
      (((made.filter (·.2 = name)).getLast?).map Prod.fst).filter (· ∉ gone) := by
  have swapped : session.software? name =
      ((made.filter (·.2 = name)).find? (·.1 ∉ gone)).map Prod.fst := by
    rw [software?, recalls.software, List.filter_map, List.find?_map, List.find?_filter,
      List.find?_filter, ← List.head?_filter, ← List.head?_filter]
    refine congrArg (fun entries => (List.head? entries).map Prod.fst) ?_
    refine List.filter_congr fun entry member => decide_eq_decide.2 ?_
    rw [Function.comp_apply, Function.comp_apply, recalls.goesBy_eq member, and_comm]
  have replaced : (made.filter (·.2 = name)).Pairwise
      fun earlier _ => decide (earlier.1 ∉ gone) = false := by
    have order := recalls.superseded.sublist (List.filter_sublist (p := (·.2 = name)))
    refine order.imp_of_mem fun {earlier later} here there apart => ?_
    have same : earlier.2 = later.2 :=
      (of_decide_eq_true (List.mem_filter.1 here).2).trans
        (of_decide_eq_true (List.mem_filter.1 there).2).symm
    exact decide_eq_false (not_not.2 (apart.2 same))
  rw [swapped, find?_eq_getLast? replaced, Option.filter_map]
  rfl

theorem unrenamed (recalls : Recalls made gone session) (same : Unrenamed session after) :
    Recalls made gone after :=
  ⟨same.software.trans recalls.software,
    fun id name member => same.names id name (recalls.names id name member),
    recalls.known, recalls.superseded⟩

/-- A trigger is made under a name that is free, so the earlier ones of this name are destroyed. -/
theorem enter (recalls : Recalls made gone session) (new : session.trigger? id = none)
    (free : session.software? name = none) (software : after.software = session.software ++ [id])
    (names : ∀ other, after.name? other =
      if other = id then some name else session.name? other) :
    Recalls (made ++ [(id, name)]) gone after := by
  have fresh : ∀ entry ∈ made, entry.1 ≠ id := by
    rintro ⟨other, called⟩ member rfl
    have named := recalls.names _ _ member
    rw [name?, new] at named
    cases named
  have alive : id ∉ gone := by
    intro destroyed
    obtain ⟨called, member⟩ := recalls.known id destroyed
    exact fresh _ member rfl
  have kept : ([(id, name)].map Prod.fst).filter (· ∉ gone) = [id] :=
    List.filter_cons_of_pos (decide_eq_true alive)
  refine ⟨?_, ?_, ?_, ?_⟩
  · rw [software, recalls.software, List.map_append, List.filter_append, kept]
  · intro other called member
    rw [names]
    rcases List.mem_append.1 member with old | last
    · rw [if_neg (fresh _ old)]
      exact recalls.names _ _ old
    · cases List.mem_singleton.1 last
      exact if_pos rfl
  · intro other destroyed
    obtain ⟨called, member⟩ := recalls.known other destroyed
    exact ⟨called, List.mem_append_left _ member⟩
  · refine List.pairwise_append.2 ⟨recalls.superseded, List.pairwise_singleton _ _, ?_⟩
    intro earlier member last same
    cases List.mem_singleton.1 same
    refine ⟨fresh _ member, fun named => ?_⟩
    by_contra here
    have listed := recalls.mem_software.2 ⟨⟨earlier.2, member⟩, here⟩
    refine recalls.software?_eq_none.1 free earlier.1 listed ?_
    rw [recalls.names _ _ member, named]

/-- A trigger is destroyed. -/
theorem leave (recalls : Recalls made gone session) (listed : id ∈ session.software)
    (software : after.software = session.software.erase id)
    (names : ∀ other, after.name? other = session.name? other) :
    Recalls made (gone ++ [id]) after := by
  refine ⟨?_, fun other called member => ?_, fun other destroyed => ?_, ?_⟩
  · rw [software, recalls.nodup.erase_eq_filter, recalls.software, List.filter_filter]
    refine List.filter_congr fun other _ => Bool.eq_iff_iff.2 ?_
    simp [and_comm]
  · rw [names]
    exact recalls.names other called member
  · rcases List.mem_append.1 destroyed with before | now
    · exact recalls.known other before
    · rw [List.mem_singleton.1 now]
      exact (recalls.mem_software.1 listed).1
  · exact recalls.superseded.imp fun apart =>
      ⟨apart.1, fun same => List.mem_append_left _ (apart.2 same)⟩

end Recalls

/-- A session recalls what was made and destroyed by the answers of its past. -/
def Recalled (past : List (Step F H)) (session : Session F H) : Prop :=
  Recalls (created past) (destroyed past) session

theorem recalled_empty : Recalled [] ({} : Session F H) :=
  ⟨rfl, nofun, nofun, .nil⟩

/-- **What was answered tells a session's software triggers**, one step after the other. -/
theorem Recalled.naming {past : List (Step F H)} {step : Step F H} (naming : step.Naming)
    (recalls : Recalled past step.before) : Recalled (past ++ [step]) step.after := by
  rw [Recalled, created_concat, destroyed_concat]
  cases naming with
  | kept made gone same =>
      simp only [made, gone, Option.toList_none, List.append_nil]
      exact recalls.unrenamed same
  | made made gone new free software names =>
      simp only [made, gone, Option.toList_none, Option.toList_some, List.append_nil]
      exact recalls.enter new free software names
  | gone made gone listed software names =>
      simp only [made, gone, Option.toList_none, Option.toList_some, List.append_nil]
      exact recalls.leave listed software names

/-! ## What is answered -/

/-- How a session keeps the names of its software triggers, by the answers of its past alone. -/
structure KeepsNames (past : List (Step F H)) (session : Session F H) : Prop where
  /-- A trigger has the name it was made under. -/
  named : ∀ id name, (id, name) ∈ created past → session.name? id = some name
  /-- No two live triggers have the same name. -/
  apart : (live past).Pairwise fun id other => session.name? id ≠ session.name? other
  /-- What is found is the trigger made last under the name, unless it is destroyed. -/
  found : ∀ name,
    session.software? name = (lastCreated? past name).filter (· ∉ destroyed past)
  /-- Only one kind can be made, whether or not the name is taken. -/
  unknown : ∀ kind name, kind ≠ timerKind →
    session.createSoftware kind name = (.error .notSupported, session)
  taken : ∀ name, (∃ id ∈ live past, session.name? id = some name) →
    session.createSoftware timerKind name = (.error .exists, session)
  /-- A trigger is made under any other name, and never one that was made before. -/
  free : ∀ name, (∀ id ∈ live past, session.name? id ≠ some name) →
    ∃ id after, session.createSoftware timerKind name = (.ok id, after) ∧
      ∀ other, (id, other) ∉ created past
  /-- What is destroyed already, or was never made, cannot be destroyed. -/
  refused : ∀ id, (id ∈ destroyed past ∨ ∀ name, (id, name) ∉ created past) →
    session.destroySoftware id = (.error .noDevice, session)
  /-- A live trigger is left without a consumer, and no other is touched. -/
  detached : ∀ id ∈ live past, ∃ trigger after,
    session.destroySoftware id = (.ok (), after) ∧ after.trigger? id = some trigger ∧
      trigger.consumer = none ∧ ∀ other, other ≠ id → after.trigger? other = session.trigger? other

theorem Recalled.keepsNames {past : List (Step F H)} {session : Session F H}
    (recalls : Recalled past session) : KeepsNames past session := by
  have listed : session.software = live past := recalls.software
  constructor
  case named => exact recalls.names
  case apart => exact listed ▸ recalls.distinct
  case found => exact recalls.software?_eq
  case unknown => exact fun _ _ other => if_pos other
  case taken =>
    rintro name ⟨id, here, called⟩
    rcases session.createSoftware_cases timerKind name with
      ⟨other, _⟩ | ⟨_, _, refused⟩ | ⟨_, free, _⟩
    · exact absurd rfl other
    · exact refused
    · exact absurd called (recalls.software?_eq_none.1 free id (listed ▸ here))
  case free =>
    intro name free
    obtain ⟨after, made⟩ :=
      createSoftware_free (recalls.software?_eq_none.2 fun id here => free id (listed ▸ here))
    refine ⟨_, after, made, fun other member => ?_⟩
    obtain ⟨trigger, found, _⟩ := Option.map_eq_some_iff.1 (recalls.names _ _ member)
    exact Nat.lt_irrefl _ (index_lt_of_trigger? found)
  case refused =>
    intro id out
    rcases session.destroySoftware_cases id with ⟨_, refused⟩ | ⟨here, _⟩
    · exact refused
    · obtain ⟨⟨name, member⟩, alive⟩ := recalls.mem_software.1 here
      rcases out with gone | never
      · exact absurd gone alive
      · exact absurd member (never name)
  case detached =>
    intro id here
    rw [← listed] at here
    rcases session.destroySoftware_cases id with ⟨absent, _⟩ | ⟨_, agreed, _, triggers⟩
    · exact absurd here absent
    · obtain ⟨⟨name, member⟩, _⟩ := recalls.mem_software.1 here
      obtain ⟨trigger, found, _⟩ := Option.map_eq_some_iff.1 (recalls.names _ _ member)
      refine ⟨trigger.stop.2.detach, (session.destroySoftware id).2,
        Prod.ext agreed rfl, ?_, rfl, fun other apart => ?_⟩
      · rw [triggers, if_pos rfl, found, Option.map_some]
      · rw [triggers, if_neg apart]

end Session

open Session

/-- **Software triggers that are live have different names**, whatever happens to a session. By the
answers of the past, before and after any step: no two live triggers have the same name, what is
found under a name is the trigger made last under it unless it is destroyed, another is made just if
it is of the one kind and no live trigger has the name, and a number kept from a destroyed trigger
changes nothing, although the name may belong to another by now. -/
theorem software_names_unique {F H : Type} [Provider F H] {commands : List (Command F H)}
    {steps : List (Step F H)} {step : Step F H} (ran : steps ++ [step] <+: trace commands {}) :
    KeepsNames steps step.before ∧ KeepsNames (steps ++ [step]) step.after := by
  obtain ⟨before, _, after⟩ := trace_past
    (fun _ _ _ _ _ performed recalls => Recalled.naming (perform_naming performed) recalls)
    recalled_empty ran
  exact ⟨before.keepsNames, after.keepsNames⟩

/-- A trigger that is destroyed and one more of its name, with a capture on it when it is tried
to destroy the first again. -/
def recycled : List (Command Rehearsal Routine) :=
  [.createSoftware timerKind "spi0.0", .destroySoftware ⟨0⟩, .createSoftware timerKind "spi0.0",
    .makeDevice "adc" [.voltage 0 "0" 12 16 0] {}, .setup ⟨0⟩ {}, .assign ⟨0⟩ ⟨1⟩,
    .enable ⟨0⟩ (.ofList [0]), .destroySoftware ⟨0⟩]

/-- The number of the first trigger changes nothing any more; the second has its name, and keeps its
consumer. -/
theorem recycled_apart : ∃ steps step, steps ++ [step] <+: trace recycled {} ∧
    (step.before.attached? ⟨1⟩ = some ⟨0⟩ ∧ step.after.attached? ⟨1⟩ = some ⟨0⟩) ∧
    step.before.destroySoftware ⟨0⟩ = (.error .noDevice, step.before) ∧
    step.after.software? "spi0.0" = some ⟨1⟩ ∧
    step.after.createSoftware timerKind "spi0.0" = (.error .exists, step.after) := by
  have told : ⟨0⟩ ∈ destroyed (trace recycled {}).dropLast ∧
      (lastCreated? (trace recycled {}) "spi0.0").filter (· ∉ destroyed (trace recycled {})) =
        some ⟨1⟩ ∧
      ⟨1⟩ ∈ live (trace recycled {}) ∧ (⟨1⟩, "spi0.0") ∈ created (trace recycled {}) := by
    decide +kernel
  have left : ((trace recycled {}).getLast?.any fun step =>
      step.before.attached? ⟨1⟩ = some ⟨0⟩ ∧ step.after.attached? ⟨1⟩ = some ⟨0⟩) = true := by
    decide +kernel
  obtain ⟨step, last, left⟩ := (Option.any_eq_true _ _).1 left
  obtain ⟨steps, whole⟩ := List.getLast?_eq_some_iff.1 last
  have ran : steps ++ [step] <+: trace recycled {} := whole ▸ List.prefix_rfl
  obtain ⟨before, after⟩ := software_names_unique ran
  rw [whole, List.dropLast_concat] at told
  obtain ⟨gone, found, alive, made⟩ := told
  exact ⟨steps, step, ran, of_decide_eq_true left, before.refused ⟨0⟩ (.inl gone),
    (after.found "spi0.0").trans found,
    after.taken "spi0.0" ⟨⟨1⟩, alive, after.named ⟨1⟩ "spi0.0" made⟩⟩

end Acquisition
