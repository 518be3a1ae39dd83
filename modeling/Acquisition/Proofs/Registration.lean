/-
# Acquisition.Proofs.Registration — the list of the registry and the numbers of the devices

That a device is registered is kept twice: it is in the list of the registry, and it has a
number. Whatever is asked of a session, every listed device has a number. The converse fails
in one case only: taking a device out of the registry strikes it off the list first, and if
its trigger then refuses to stop the capture, the device keeps its number.
`registration_consistent` says so of every run.
-/
import Acquisition.Proofs.Moves
import Acquisition.Rehearsal

namespace Acquisition

set_option autoImplicit false

/-! ## What changes the registry -/

/-- Whether a move changes the registry. -/
def Move.enrols : Move → Bool
  | .enlist _ | .strike _ | .unnumber _ => true
  | _ => false

/-- Whether a command is about the registry. -/
def Command.enrols {F H : Type} : Command F H → Bool
  | .register _ | .unregister _ => true
  | _ => false

theorem Outline.registry_kept : ∀ {moves : List Move} {outline : Outline},
    (∀ move ∈ moves, move.enrols = false) →
      (moves.foldl apply outline).listed = outline.listed ∧
        (moves.foldl apply outline).numbered = outline.numbered
  | [], _, _ => ⟨rfl, rfl⟩
  | move :: rest, outline, apart => by
      obtain ⟨first, later⟩ := List.forall_mem_cons.1 apart
      obtain ⟨listed, numbered⟩ := @registry_kept rest (outline.apply move) later
      rw [List.foldl_cons, listed, numbered]
      cases move with
      | enlist id | strike id | unnumber id => cases first
      | _ => exact ⟨rfl, rfl⟩

namespace Session

variable {F H : Type}

theorem halt_enrols (session : Session F H) (id : DeviceId) :
    ∀ move ∈ session.halt id, move.enrols = false := by
  intro move member
  rw [halt] at member
  split at member
  · rcases List.mem_cons.1 member with rfl | detached
    · rfl
    · split at detached
      · cases detached
      · obtain ⟨trigger, _, rfl⟩ := List.mem_map.1 detached
        rfl
  · cases member

section Registry

variable [Provider F H]

/-- Only registering a device and taking it out change the registry. -/
theorem moves_enrols (session : Session F H) {command : Command F H}
    (apart : command.enrols = false) : ∀ move ∈ session.moves command, move.enrols = false := by
  intro move member
  cases command with
  | register id | unregister id => cases apart
  | disable id | cleanup id => exact session.halt_enrols id move member
  | enable id mask =>
      simp only [moves] at member
      split at member
      · cases member
      · split at member <;> simp at member <;> rcases member with rfl | rfl | rfl <;> rfl
  | makeTrigger name source =>
      cases List.mem_singleton.1 member
      rfl
  | createSoftware kind name | destroySoftware id | assign id trigger | pin id trigger =>
      simp only [moves] at member
      split at member <;> simp at member
      cases member
      rfl
  | _ => cases member

/-- What a command does to the registry: nothing, or a device enters the list and gets a number,
or a device leaves the list and loses its number unless its trigger resists. -/
inductive Enrolment (before after : Session F H) : Command F H → Prop where
  | kept {command : Command F H} (listed : after.listed = before.listed)
      (numbered : after.registered = before.registered)
      (stays : ∀ id, command = .unregister id → id ∉ before.listed) : Enrolment before after command
  | entered {id : DeviceId} (new : id ∉ before.listed) (listed : after.listed = before.listed ++ [id])
      (numbered : ∀ other, after.registered other = (other = id || before.registered other)) :
      Enrolment before after (.register id)
  | left {id : DeviceId} (old : id ∈ before.listed) (listed : after.listed = before.listed.erase id)
      (numbered : ∀ other, after.registered other =
        ((before.resists id || other ≠ id) && before.registered other)) :
      Enrolment before after (.unregister id)

theorem register_enrolment {session after : Session F H} {id : DeviceId}
    (moved : after.outline =
      (session.moves (.register id : Command F H)).foldl Outline.apply session.outline) :
    Enrolment session after (.register id) := by
  by_cases new : (session.device? id).isSome && !session.listed.contains id
  · rw [moves, if_pos new] at moved
    have outside : id ∉ session.listed := by simpa using (Bool.and_eq_true_iff.1 new).2
    exact .entered outside (congrArg Outline.listed moved)
      fun other => congrFun (congrArg Outline.numbered moved) other
  · rw [moves, if_neg new] at moved
    exact .kept (congrArg Outline.listed moved) (congrArg Outline.numbered moved)
      fun _ same => by cases same

theorem unregister_enrolment {session after : Session F H} {id : DeviceId}
    (moved : after.outline =
      (session.moves (.unregister id : Command F H)).foldl Outline.apply session.outline) :
    Enrolment session after (.unregister id) := by
  by_cases old : session.listed.contains id
  · simp only [moves, old, Bool.not_true, Bool.false_eq_true, if_false, List.cons_append,
      List.foldl_cons, List.foldl_append] at moved
    -- stopping the capture leaves the registry as it is after the strike
    obtain ⟨listed, numbered⟩ :=
      @Outline.registry_kept _ (session.outline.apply (.strike id)) (session.halt_enrols id)
    have struck : after.listed = session.listed.erase id := by
      refine (congrArg Outline.listed moved).trans (Eq.trans ?_ listed)
      split <;> rfl
    refine .left (List.contains_iff_mem.1 old) struck fun other => ?_
    refine (congrFun (congrArg Outline.numbered moved) other).trans ?_
    cases session.resists id with
    | true => exact congrFun numbered other
    | false => exact congrArg (decide (other ≠ id) && ·) (congrFun numbered other)
  · rw [moves, if_pos (by simpa using old)] at moved
    refine .kept (congrArg Outline.listed moved) (congrArg Outline.numbered moved) ?_
    rintro other same
    cases same
    exact fun member => old (List.contains_iff_mem.2 member)

/-- **Only registering a device and taking it out change the registry**, and how. -/
theorem perform_enrolment {session after : Session F H} {command : Command F H}
    (furnished : session.outline.Furnished) (done : session.perform command = some after) :
    Enrolment session after command := by
  have moved := session.perform_outline furnished done
  cases enrols : command.enrols with
  | false =>
      obtain ⟨listed, numbered⟩ := Outline.registry_kept (session.moves_enrols enrols)
      rw [← moved] at listed numbered
      refine .kept listed numbered fun id same => ?_
      subst same
      cases enrols
  | true =>
      cases command with
      | register id => exact register_enrolment moved
      | unregister id => exact unregister_enrolment moved
      | _ => cases enrols

/-! ## Whoever is listed has a number -/

/-- A device is in the list of the registry just if it has a number. -/
def Consistent (session : Session F H) : Prop :=
  ∀ id, id ∈ session.listed ↔ session.registered id = true

/-- Every device is listed once at most, and a listed one has a number. (That triggers which were
given are there is what the moves of a command rest on.) -/
structure Enrolled (session : Session F H) : Prop where
  furnished : session.outline.Furnished
  nodup : session.listed.Nodup
  numbered : ∀ id ∈ session.listed, session.registered id = true

/-- Whether a command takes a device out of the registry while the trigger of its capture refuses
to stop. -/
def strands (session : Session F H) : Command F H → Bool
  | .unregister id => session.listed.contains id && session.resists id
  | _ => false

omit [Provider F H] in
theorem enrolled_empty : ({} : Session F H).Enrolled :=
  ⟨nofun, .nil, nofun⟩

theorem Enrolled.perform {session after : Session F H} {command : Command F H}
    (enrolled : session.Enrolled) (performed : session.perform command = some after) :
    after.Enrolled := by
  have furnished := session.perform_furnished enrolled.furnished performed
  cases perform_enrolment enrolled.furnished performed with
  | kept listed numbered _ =>
      refine ⟨furnished, ?_, ?_⟩ <;> rw [listed]
      · exact enrolled.nodup
      · rw [numbered]
        exact enrolled.numbered
  | entered new listed numbered =>
      refine ⟨furnished, ?_, ?_⟩ <;> rw [listed]
      · refine List.nodup_append.2 ⟨enrolled.nodup, List.pairwise_singleton _ _, ?_⟩
        intro other member same found
        rw [List.mem_singleton.1 found]
        exact fun equal => new (equal ▸ member)
      · intro other member
        rw [numbered]
        rcases List.mem_append.1 member with old | same
        · simp [enrolled.numbered other old]
        · simp [List.mem_singleton.1 same]
  | left _ listed numbered =>
      refine ⟨furnished, ?_, ?_⟩ <;> rw [listed]
      · exact enrolled.nodup.erase _
      · intro other member
        obtain ⟨differs, stays⟩ := enrolled.nodup.mem_erase_iff.1 member
        simp [numbered, differs, enrolled.numbered other stays]

/-- From agreement, the two views come to differ by a device that is stranded, and by nothing
else. -/
theorem Consistent.perform {session after : Session F H} {command : Command F H}
    (enrolled : session.Enrolled) (consistent : session.Consistent)
    (performed : session.perform command = some after) :
    after.Consistent ↔ session.strands command = false := by
  cases perform_enrolment enrolled.furnished performed with
  | kept listed numbered stays =>
      refine iff_of_true ?_ ?_
      · intro id
        rw [listed, numbered]
        exact consistent id
      · cases command with
        | unregister id => simp [strands, stays id rfl]
        | _ => rfl
  | entered new listed numbered =>
      refine iff_of_true ?_ rfl
      intro other
      rw [listed, numbered, List.mem_append, List.mem_singleton, consistent other]
      simp [or_comm]
  | @left id old listed numbered =>
      have known := (consistent id).1 old
      simp only [strands, List.contains_iff_mem.2 old, Bool.true_and]
      cases resists : session.resists id with
      | true =>
          -- struck off, but still numbered
          refine iff_of_false (fun all => ?_) Bool.true_eq_false.mp
          have listedStill := (all id).2 (by rw [numbered, resists, known]; rfl)
          rw [listed] at listedStill
          exact enrolled.nodup.not_mem_erase listedStill
      | false =>
          refine iff_of_true (fun other => ?_) rfl
          rw [listed, numbered, resists, enrolled.nodup.mem_erase_iff, consistent other]
          simp

end Registry

end Session

open Session

/-- **The list and the numbers part only over a trigger that does not stop.** Along every run
each listed device has a number; and the list and the numbers agree all along just if no device
is ever taken out of the registry while the trigger of its capture refuses to stop. A device
taken out then is gone from the list and keeps its number. -/
theorem registration_consistent {F H : Type} [Provider F H] (commands : List (Command F H)) :
    (∀ step ∈ trace commands {}, ∀ id ∈ step.after.listed, step.after.registered id = true) ∧
      ((∀ step ∈ trace commands {}, step.after.Consistent) ↔
        ∀ step ∈ trace commands {}, step.before.strands step.command = false) := by
  constructor
  · intro step member
    exact (trace_kept (fun _ _ _ performed here => here.perform performed) commands {}
      enrolled_empty step member).numbered
  · exact trace_exact (fun session => session.Enrolled ∧ session.Consistent) Consistent
      (fun _ _ => true) strands (fun _ here => here.2)
      (fun _ _ _ performed _ here calm =>
        ⟨here.1.perform performed, (here.2.perform here.1 performed).2 calm⟩)
      (fun _ _ _ performed _ here worse all =>
        Bool.true_eq_false.mp (worse.symm.trans ((here.2.perform here.1 performed).1 all)))
      commands {} ⟨enrolled_empty, fun _ => iff_of_false nofun nofun⟩ fun _ _ => rfl

/-- A device that is captured on a trigger which refuses to stop, and then taken out of the
registry. -/
def stranding : List (Command Rehearsal Routine) :=
  [.makeTrigger "stubborn" (.hooked none (some .busy)),
    .makeDevice "adc" [.voltage 0 "0" 12 16 0] {},
    .setup ⟨0⟩ {}, .assign ⟨0⟩ ⟨0⟩, .register ⟨0⟩, .enable ⟨0⟩ (.ofList [0]), .unregister ⟨0⟩]

/-- The device is not listed any more, but has its number still. -/
theorem stranding_inconsistent : ¬ ∀ step ∈ trace stranding {}, step.after.Consistent := by
  have parted : ∃ step ∈ trace stranding {},
      ⟨0⟩ ∉ step.after.listed ∧ step.after.registered ⟨0⟩ = true := by
    decide +kernel
  obtain ⟨step, member, struck, numbered⟩ := parted
  exact fun all => struck ((all step member ⟨0⟩).2 numbered)

end Acquisition
