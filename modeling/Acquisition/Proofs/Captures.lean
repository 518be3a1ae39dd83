/-
# Acquisition.Proofs.Captures — how commands change captures

What a session shows of captures is which devices are being captured, which trigger each device
was given, and which device each trigger is attached to. `Shift` lists the ways in which a
command changes these, and `perform_shift` says that there are no others: most commands leave
captures alone, some give an idle device a trigger, and the rest start a capture, stop one, or
take a trigger away from whatever it is attached to.
-/
import Acquisition.Proofs.Moves

namespace Acquisition

set_option autoImplicit false

/-! ## What a command does to captures -/

/-- Whether a move has nothing to do with captures. -/
def Move.quiet : Move → Bool
  | .appear _ | .enlist _ | .strike _ | .unnumber _ => true
  | _ => false

theorem Outline.captures_kept : ∀ {moves : List Move} {outline : Outline},
    (∀ move ∈ moves, move.quiet = true) →
      (moves.foldl apply outline).capturing = outline.capturing ∧
        (moves.foldl apply outline).paced = outline.paced ∧
          (moves.foldl apply outline).attached = outline.attached
  | [], _, _ => ⟨rfl, rfl, rfl⟩
  | move :: rest, outline, quiet => by
      obtain ⟨first, later⟩ := List.forall_mem_cons.1 quiet
      obtain ⟨capturing, paced, attached⟩ := @captures_kept rest (outline.apply move) later
      rw [List.foldl_cons, capturing, paced, attached]
      cases move with
      | give | start | rest | detach => cases first
      | _ => exact ⟨rfl, rfl, rfl⟩

namespace Session

variable {F H : Type}

/-- The device whose capture a command stops. -/
def stops? (session : Session F H) : Command F H → Option DeviceId
  | .disable id | .cleanup id => some id
  | .unregister id => if session.listed.contains id then some id else none
  | _ => none

/-- The trigger that a command takes away from whatever it is attached to. -/
def takes? [Provider F H] (session : Session F H) : Command F H → Option TriggerId
  | .enable id mask => session.startOn? id mask
  | .destroySoftware trigger => if session.software.contains trigger then some trigger else none
  | _ => none

/-- Whether a command pins a trigger, if it pins one, to a device that is not being captured. -/
def pinsIdle (session : Session F H) : Command F H → Bool
  | .pin id _ => !session.capturing id
  | _ => true

/-- Whether stopping the capture of a device detaches a trigger. -/
def letsGo (session : Session F H) (id : DeviceId) (trigger : TriggerId) : Bool :=
  session.capturing id && session.paced? id = some trigger && session.willStop trigger

/-- What happens to captures, when the capture of a device is stopped or a trigger taken away, if
at all. A trigger is taken for an idle device, whose capture starts on it, or for none. -/
inductive Shift (before after : Session F H) : Option DeviceId → Option TriggerId → Prop where
  | kept (capturing : after.capturing = before.capturing) (paced : after.paced? = before.paced?)
      (attached : after.attached? = before.attached?) : Shift before after none none
  | given {id : DeviceId} {trigger : TriggerId} (idle : before.capturing id = false)
      (capturing : after.capturing = before.capturing)
      (paced : ∀ other, after.paced? other =
        if other = id then some trigger else before.paced? other)
      (attached : after.attached? = before.attached?) : Shift before after none none
  | taken {trigger : TriggerId} (holder : Option DeviceId)
      (own : ∀ id, holder = some id →
        before.capturing id = false ∧ before.paced? id = some trigger)
      (capturing : ∀ other, after.capturing other =
        (decide (holder = some other) || before.capturing other))
      (paced : after.paced? = before.paced?)
      (attached : ∀ pacer, after.attached? pacer =
        if pacer = trigger then holder else before.attached? pacer) :
      Shift before after none (some trigger)
  | stopped {id : DeviceId}
      (capturing : ∀ other, after.capturing other = (other ≠ id && before.capturing other))
      (paced : after.paced? = before.paced?)
      (attached : ∀ pacer, after.attached? pacer =
        if before.letsGo id pacer then none else before.attached? pacer) :
      Shift before after (some id) none

/-- What stopping a capture does to an outline that shows of it what the session does. -/
theorem halt_captures (session : Session F H) {id : DeviceId} {outline : Outline}
    (same : outline.capturing id = session.capturing id) :
    let halted := (session.halt id).foldl Outline.apply outline
    (∀ other, halted.capturing other = (other ≠ id && outline.capturing other)) ∧
      halted.paced = outline.paced ∧
        ∀ pacer, halted.attached pacer =
          if session.letsGo id pacer then none else outline.attached pacer := by
  dsimp only
  cases on : session.capturing id with
  | false =>
      rw [session.halt_idle on]
      refine ⟨fun other => ?_, rfl, fun pacer => by simp [letsGo, on]⟩
      by_cases self : other = id <;> simp [self, same, on]
  | true =>
      cases own : session.paced? id with
      | none =>
          rw [session.halt_unpaced on own]
          exact ⟨fun _ => rfl, rfl, fun pacer => by simp [letsGo, own, Outline.apply]⟩
      | some trigger =>
          have yields (pacer : TriggerId) :
              session.letsGo id pacer = (decide (pacer = trigger) && session.willStop trigger) := by
            by_cases self : pacer = trigger
            · simp [letsGo, on, own, self]
            · simp [letsGo, own, self, Ne.symm self]
          rw [session.halt_paced on own]
          cases willing : session.willStop trigger <;>
            exact ⟨fun _ => rfl, rfl, fun pacer => by simp [yields, willing, Outline.apply]⟩

theorem Shift.of_quiet {session after : Session F H} {moves : List Move}
    (moved : after.outline = moves.foldl Outline.apply session.outline)
    (quiet : ∀ move ∈ moves, move.quiet = true) : Shift session after none none := by
  obtain ⟨capturing, paced, attached⟩ := @Outline.captures_kept _ session.outline quiet
  rw [← moved] at capturing paced attached
  exact .kept capturing paced attached

theorem Shift.of_give {session after : Session F H} {id : DeviceId} {trigger : TriggerId}
    (moved : after.outline = session.outline.apply (.give id trigger))
    (idle : session.capturing id = false) : Shift session after none none :=
  .given idle (congrArg Outline.capturing moved)
    (fun other => congrFun (congrArg Outline.paced moved) other) (congrArg Outline.attached moved)

/-- A capture that starts on the trigger of an idle device, and ends at once if it does not. -/
theorem Shift.of_start {session after : Session F H} {id : DeviceId} {trigger : TriggerId}
    (idle : session.capturing id = false) (own : session.paced? id = some trigger) (agrees : Bool)
    (moved : after.outline =
      (if agrees then [.start id trigger] else [.start id trigger, .detach trigger, .rest id]).foldl
        Outline.apply session.outline) :
    Shift session after none (some trigger) := by
  have capturing := congrFun (congrArg Outline.capturing moved)
  have attached := congrFun (congrArg Outline.attached moved)
  cases agrees with
  | true =>
      refine .taken (some id) ?_ (fun other => (capturing other).trans ?_)
        (congrArg Outline.paced moved) attached
      · rintro _ ⟨⟩
        exact ⟨idle, own⟩
      · simp [Outline.apply, outline, eq_comm]
  | false =>
      refine .taken none (fun _ same => by cases same) (fun other => (capturing other).trans ?_)
        (congrArg Outline.paced moved) fun pacer => (attached pacer).trans ?_
      · by_cases self : other = id <;> simp [Outline.apply, outline, self, idle]
      · by_cases self : pacer = trigger <;> simp [Outline.apply, outline, self]

theorem Shift.of_halt {session after : Session F H} {id : DeviceId} {first last : List Move}
    (before : ∀ move ∈ first, move.quiet = true) (later : ∀ move ∈ last, move.quiet = true)
    (moved : after.outline =
      (first ++ session.halt id ++ last).foldl Outline.apply session.outline) :
    Shift session after (some id) none := by
  rw [List.foldl_append, List.foldl_append] at moved
  obtain ⟨capturing, paced, attached⟩ := @Outline.captures_kept _ session.outline before
  obtain ⟨stopped, stays, released⟩ := session.halt_captures (congrFun capturing id)
  obtain ⟨lastCapturing, lastPaced, lastAttached⟩ := @Outline.captures_kept _
    ((session.halt id).foldl Outline.apply (first.foldl Outline.apply session.outline)) later
  rw [← moved] at lastCapturing lastPaced lastAttached
  rw [← lastCapturing, capturing] at stopped
  rw [← lastPaced, paced] at stays
  rw [← lastAttached, attached] at released
  exact .stopped stopped stays released

section Perform

variable [Provider F H] (session : Session F H)

/-- A capture starts on the trigger of a device that is idle. -/
theorem startOn?_eq_some {id : DeviceId} {mask : ScanMask} {trigger : TriggerId}
    (starts : session.startOn? id mask = some trigger) :
    session.capturing id = false ∧ session.paced? id = some trigger := by
  rw [startOn?] at starts
  split at starts
  · cases starts
  next device found =>
  split at starts
  · cases starts
  next ready =>
  split at starts
  · cases starts
  · simp only [Bool.or_eq_true, not_or, Bool.not_eq_true] at ready
    simp [Session.capturing, paced?, found, ready.1.1, starts]

/-- **A command shifts captures by what it stops and what it takes away**, and else at most gives
an idle device a trigger. -/
theorem perform_shift {after : Session F H} {command : Command F H}
    (furnished : session.outline.Furnished) (idle : session.pinsIdle command = true)
    (done : session.perform command = some after) :
    Shift session after (session.stops? command) (session.takes? command) := by
  have moved := session.perform_outline furnished done
  cases command with
  | makeTrigger name source => exact .of_quiet moved (by simp [moves, Move.quiet])
  | createSoftware kind name | register id =>
      refine .of_quiet moved ?_
      simp only [moves]
      split <;> simp [Move.quiet]
  | destroySoftware trigger =>
      simp only [moves, takes?] at moved ⊢
      cases listed : session.software.contains trigger with
      | false =>
          rw [listed] at moved
          exact .of_quiet moved (List.forall_mem_nil _)
      | true =>
          rw [listed] at moved
          exact .taken none (fun _ same => by cases same) (congrFun (congrArg Outline.capturing moved))
            (congrArg Outline.paced moved) (congrFun (congrArg Outline.attached moved))
  | assign id trigger =>
      simp only [moves] at moved
      split at moved
      · next allowed =>
          have free := (Bool.and_eq_true_iff.1 allowed).2
          refine .of_give moved ?_
          cases found : session.device? id with
          | none => simp [found] at free
          | some device =>
              rw [Session.capturing, found]
              simp only [found, Option.any_some, Bool.not_eq_true', Bool.or_eq_false_iff] at free
              exact free.2
      · exact .of_quiet moved (List.forall_mem_nil _)
  | pin id trigger =>
      simp only [moves] at moved
      split at moved
      · exact .of_give moved (by simpa [pinsIdle] using idle)
      · exact .of_quiet moved (List.forall_mem_nil _)
  | enable id mask =>
      simp only [moves, takes?] at moved ⊢
      cases starts : session.startOn? id mask with
      | none =>
          rw [starts] at moved
          exact .of_quiet moved (List.forall_mem_nil _)
      | some trigger =>
          obtain ⟨resting, own⟩ := session.startOn?_eq_some starts
          rw [starts] at moved
          exact .of_start resting own (session.willStart trigger) moved
  | disable id | cleanup id =>
      refine @Shift.of_halt F H session after id [] [] (List.forall_mem_nil _) (List.forall_mem_nil _) ?_
      simpa [moves] using moved
  | unregister id =>
      simp only [moves, stops?] at moved ⊢
      cases listed : session.listed.contains id with
      | false =>
          rw [listed] at moved
          exact .of_quiet moved (List.forall_mem_nil _)
      | true =>
          rw [listed] at moved
          refine @Shift.of_halt F H session after id [.strike id] _ (by simp [Move.quiet]) ?_ moved
          split <;> simp [Move.quiet]
  | _ => exact .of_quiet moved (List.forall_mem_nil _)

end Perform

end Session

end Acquisition
