/-
# Acquisition.Proofs.Windows — no capture outside a window

A capture that starts opens a window for its device: a capture is `Opened` when enabling it is
answered with success, and closed when it is stopped, cleaned up, or taken out of the registry it is
in, also if its trigger refuses to stop (`stops?`). Between the two the window is open
(`InWindow`), and the flag of the device says so (`capturing_iff`), whatever else happens: triggers
that refuse, triggers that are swapped while a capture is on, edges at any time.

A handler is given edges inside the windows of its device only, and by nothing but an edge. Outside
of them edges of any triggers leave the device as it is, also of one that is still attached to it
because it refused to stop (`captures_windowed`).
-/
import Acquisition.Proofs.Captures
import Acquisition.Proofs.Handling

namespace Acquisition

set_option autoImplicit false

/-! ## Moves that start or stop no capture -/

/-- Whether a move leaves every capture on or off. -/
def Move.still : Move → Bool
  | .start _ _ | .rest _ => false
  | _ => true

theorem Outline.capturing_still : ∀ {moves : List Move} {outline : Outline},
    (∀ move ∈ moves, move.still = true) → (moves.foldl apply outline).capturing = outline.capturing
  | [], _, _ => rfl
  | move :: rest, outline, still => by
      obtain ⟨first, later⟩ := List.forall_mem_cons.1 still
      rw [List.foldl_cons, @capturing_still rest _ later]
      cases move with
      | start | rest => cases first
      | _ => rfl

namespace Session

variable {F H : Type} [Provider F H] (session : Session F H)

/-- Only enabling and stopping a capture move it. -/
theorem moves_still {command : Command F H} (starts : ∀ id mask, command ≠ .enable id mask)
    (stops : session.stops? command = none) : ∀ move ∈ session.moves command, move.still = true := by
  cases command with
  | enable id mask => exact absurd rfl (starts id mask)
  | disable id | cleanup id => cases stops
  | unregister id =>
      rw [stops?] at stops
      split at stops
      · cases stops
      · next unlisted =>
          rw [moves, if_pos (by simpa using unlisted)]
          exact List.forall_mem_nil _
  | makeTrigger name source => simp [moves, Move.still]
  | createSoftware kind name | destroySoftware id | assign id trigger | pin id trigger
  | register id =>
      rw [moves]
      split <;> simp [Move.still]
  | _ => exact List.forall_mem_nil _

/-- A capture that is stopped is off afterwards, whatever its trigger says, and no other is. -/
theorem capturing_stopped (furnished : session.outline.Furnished) {command : Command F H}
    {after : Session F H} {id : DeviceId} (stops : session.stops? command = some id)
    (done : session.perform command = some after) (other : DeviceId) :
    after.capturing other = (other ≠ id && session.capturing other) := by
  have idle : session.pinsIdle command = true := by
    cases command with
    | pin device trigger => cases stops
    | _ => rfl
  have shift := session.perform_shift furnished idle done
  rw [stops] at shift
  generalize session.takes? command = taken at shift
  cases shift with
  | stopped capturing paced attached => exact capturing other

/-- **Enabling turns a capture on just if it is answered with success**, and no other on or off. -/
theorem enable_capturing {id : DeviceId} {mask : ScanMask} {result : Except Error Unit}
    {after : Session F H} (done : session.enable id mask = some (result, after))
    (other : DeviceId) :
    after.capturing other = true ↔
      result = .ok () ∧ other = id ∨ session.capturing other = true := by
  have refused {error : Error} :
      (Except.error error = Except.ok () ∧ other = id ∨ session.capturing other = true) ↔
        session.capturing other = true := by simp
  rw [enable] at done
  split at done
  · cases done
    exact refused.symm
  next device found =>
  split at done
  · cases done
    exact refused.symm
  next idle =>
  have off : session.capturing id = false := by
    rw [Session.capturing, found, Option.any_some]
    exact Bool.eq_false_iff.2 idle
  split at done
  · cases done
    exact refused.symm
  split at done
  · cases done
    exact refused.symm
  · cases done
    exact refused.symm
  next trigger layout given made =>
  split at done
  · next reason provider refuses =>
      cases done
      have same := (session.note (.program id mask)).capturing_modifyDevice id other
        fun device => { device with provider }
      rw [same, refused]
      split
      · next here => exact here ▸ Iff.rfl
      · exact Iff.rfl
  next provider agrees =>
  obtain ⟨⟨answer, asked⟩, started, finished⟩ := Option.map_eq_some_iff.1 done
  have begun := (session.note (.program id mask)).capturing_modifyDevice id other
    fun device => device.begun provider layout mask
  have still : asked.capturing other =
      ((session.note (.program id mask)).modifyDevice id fun device =>
        device.begun provider layout mask).capturing other :=
    congrFun (congrArg Outline.capturing (startTrigger_outline _ started).1) other
  rw [begun] at still
  cases answer with
  | ok _ =>
      cases finished
      show asked.capturing other = true ↔ _
      rw [still]
      by_cases here : other = id
      · rw [if_pos here, here, device?_note, found]
        exact iff_of_true rfl (.inl ⟨rfl, rfl⟩)
      · rw [if_neg here]
        simp [here]
        rfl
  | error error =>
      cases finished
      have ended := (asked.modifyTrigger trigger Trigger.detach).capturing_modifyDevice id other
        fun device => { device with capturing := false }
      rw [ended, refused]
      by_cases here : other = id
      · rw [if_pos here, here, off]
        simp
      · rw [if_neg here]
        show asked.capturing other = true ↔ _
        rw [still, if_neg here]
        rfl

end Session

/-! ## Windows -/

namespace Session.Step

variable {F H : Type}

/-- The step enables the capture of a device, with success. -/
def Opens [Provider F H] (step : Step F H) (id : DeviceId) : Prop :=
  ∃ mask, step.command = .enable id mask ∧
    step.before.enable id mask = some (.ok (), step.after)

/-- The step stops the capture of a device, cleans it up, or takes it out of the registry in which
it is listed, whatever comes of it. -/
def Closes (step : Step F H) (id : DeviceId) : Prop :=
  step.command = .disable id ∨ step.command = .cleanup id ∨
    step.command = .unregister id ∧ id ∈ step.before.listed

end Session.Step

namespace Session

variable {F H : Type} [Provider F H]

/-- The last success in enabling the capture of a device has not been followed by a stop. -/
def InWindow (id : DeviceId) (steps : List (Step F H)) : Prop :=
  ∃ earlier opening later, steps = earlier ++ opening :: later ∧ opening.Opens id ∧
    ∀ step ∈ later, ¬ step.Closes id

theorem inWindow_concat {id : DeviceId} {steps : List (Step F H)} {step : Step F H} :
    InWindow id (steps ++ [step]) ↔ step.Opens id ∨ InWindow id steps ∧ ¬ step.Closes id := by
  constructor
  · rintro ⟨earlier, opening, later, split, opens, unclosed⟩
    rcases List.eq_nil_or_concat later with rfl | ⟨middle, last, rfl⟩
    · obtain ⟨_, same⟩ := List.append_inj' split rfl
      cases same
      exact .inl opens
    · rw [List.concat_eq_append, ← List.cons_append, ← List.append_assoc] at split
      rw [List.concat_eq_append] at unclosed
      obtain ⟨same, lasts⟩ := List.append_inj' split rfl
      cases lasts
      refine .inr ⟨⟨earlier, opening, middle, same, opens, fun other member => ?_⟩, ?_⟩
      · exact unclosed other (List.mem_append_left _ member)
      · exact unclosed step (List.mem_append_right _ List.mem_cons_self)
  · rintro (opens | ⟨⟨earlier, opening, later, rfl, opens, unclosed⟩, stays⟩)
    · exact ⟨steps, step, [], rfl, opens, List.forall_mem_nil _⟩
    · refine ⟨earlier, opening, later ++ [step], by simp, opens, fun other member => ?_⟩
      rcases List.mem_append.1 member with inside | last
      · exact unclosed other inside
      · rw [List.mem_singleton.1 last]
        exact stays

omit [Provider F H] in
theorem closes_iff {session after : Session F H} {command : Command F H} {id : DeviceId} :
    (Step.mk session command after).Closes id ↔ session.stops? command = some id := by
  cases command with
  | unregister other =>
      have found : session.listed.contains other = true ↔ other ∈ session.listed :=
        List.contains_iff_mem
      rw [Step.Closes, stops?]
      split
      · next listed =>
          have inside := found.1 listed
          constructor
          · rintro (same | same | ⟨same, -⟩)
            · cases same
            · cases same
            · cases same
              rfl
          · rintro ⟨⟩
            exact .inr (.inr ⟨rfl, inside⟩)
      · next unlisted =>
          constructor
          · rintro (same | same | ⟨same, inside⟩)
            · cases same
            · cases same
            · cases same
              exact absurd (found.2 inside) unlisted
          · rintro ⟨⟩
  | disable other | cleanup other => simp [Step.Closes, stops?]
  | _ => simp [Step.Closes, stops?]

/-- A step opens and closes windows as the flags of the devices say. -/
theorem capturing_step {session after : Session F H} (furnished : session.outline.Furnished)
    {command : Command F H} (done : session.perform command = some after) (id : DeviceId) :
    after.capturing id = true ↔ (Step.mk session command after).Opens id ∨
      session.capturing id = true ∧ ¬ (Step.mk session command after).Closes id := by
  rw [closes_iff]
  by_cases starts : ∃ other mask, command = .enable other mask
  · obtain ⟨other, mask, rfl⟩ := starts
    obtain ⟨⟨result, later⟩, enabled, same⟩ := Option.map_eq_some_iff.1 done
    cases same
    rw [session.enable_capturing enabled id]
    refine or_congr ⟨?_, ?_⟩ (iff_self_and.2 fun _ => nofun)
    · rintro ⟨rfl, rfl⟩
      exact ⟨mask, rfl, enabled⟩
    · rintro ⟨asked, same, answered⟩
      cases same
      cases enabled.symm.trans answered
      exact ⟨rfl, rfl⟩
  · have unopened : ¬ (Step.mk session command after).Opens id := by
      rintro ⟨mask, same, _⟩
      exact starts ⟨id, mask, same⟩
    rw [or_iff_right unopened]
    cases stops : session.stops? command with
    | some other =>
        rw [session.capturing_stopped furnished stops done id]
        rw [Bool.and_eq_true, decide_eq_true_eq, and_comm]
        refine and_congr_right fun _ => not_congr ⟨fun same => congrArg some same.symm, ?_⟩
        exact fun same => (Option.some.inj same).symm
    | none =>
        have still : ((session.moves command).foldl Outline.apply session.outline).capturing =
            session.outline.capturing := Outline.capturing_still
          (session.moves_still (fun id mask same => starts ⟨id, mask, same⟩) stops)
        rw [← session.perform_outline furnished done] at still
        have same : after.capturing id = session.capturing id := congrFun still id
        rw [same]
        simp

end Session

open Session

/-- **No capture outside a window.** Take any run of commands, any moment of it, and any device. Its
capture is on just if its window is open: the last success in enabling it has not been followed by
a command that stops it, cleans it up, or takes it out of the registry it is in, whatever its
trigger said to that. Its handler was given an edge by the last step only if that raised one, and
came while the window was open. And while the window is not open, edges of any triggers leave the
device as it is, its buffer included, and do not run its handler; one that still reaches it comes
through. -/
theorem captures_windowed {F H : Type} [Provider F H] {commands : List (Command F H)}
    {steps : List (Step F H)} {step : Step F H} (ran : steps ++ [step] <+: trace commands {})
    (id : DeviceId) :
    (step.after.capturing id = true ↔ InWindow id (steps ++ [step])) ∧
    (step.after.handled id ≠ step.before.handled id →
      (∃ trigger time, step.command = .poll trigger time ∨ step.command = .tick trigger time) ∧
        InWindow id steps) ∧
    (¬ InWindow id (steps ++ [step]) →
      (∀ edges later, pollAll edges step.after = some later →
        later.device? id = step.after.device? id ∧ later.handled id = step.after.handled id) ∧
      ∀ trigger time, step.after.consumer? trigger = some id →
        ∃ later, step.after.poll trigger time = some later) := by
  have kept (past : List (Step F H)) (session : Session F H) (command : Command F H)
      (_ : command ∈ commands) (after : Session F H)
      (performed : session.perform command = some after)
      (good : session.outline.Furnished ∧ (session.capturing id = true ↔ InWindow id past)) :
      after.outline.Furnished ∧
        (after.capturing id = true ↔ InWindow id (past ++ [⟨session, command, after⟩])) := by
    obtain ⟨furnished, shown⟩ := good
    refine ⟨session.perform_furnished furnished performed, ?_⟩
    rw [inWindow_concat, ← shown]
    exact capturing_step furnished performed id
  have start : ({} : Session F H).outline.Furnished ∧
      (({} : Session F H).capturing id = true ↔ InWindow id ([] : List (Step F H))) := by
    refine ⟨nofun, iff_of_false nofun ?_⟩
    rintro ⟨earlier, opening, later, split, _⟩
    exact absurd split.symm (List.append_ne_nil_of_right_ne_nil _ (List.cons_ne_nil _ _))
  obtain ⟨before, performed, -, shown⟩ := trace_past kept start ran
  rw [List.nil_append] at before shown
  refine ⟨shown, fun more => ?_, fun closed => ?_⟩
  · cases raised : step.before.raises? step.command with
    | none => exact absurd (perform_unhandled raised performed id) more
    | some edge =>
        rw [perform_raises raised] at performed
        refine ⟨?_, before.2.1 ?_⟩
        · generalize step.command = command at raised
          cases command with
          | poll trigger time => exact ⟨trigger, time, .inl rfl⟩
          | tick trigger time => exact ⟨trigger, time, .inr rfl⟩
          | _ => cases raised
        · rw [← Bool.not_eq_false]
          exact fun off => more (poll_idle off performed).2
  · have off : step.after.capturing id = false := Bool.eq_false_iff.2 fun on => closed (shown.1 on)
    exact ⟨fun edges later polled => pollAll_idle off polled,
      fun trigger time consumer => poll_comes_through off consumer time⟩

/-- A device that is given another trigger while it is captured, so that stopping the capture leaves
the one attached that it started on. -/
def swapped : List (Command Rehearsal Routine) :=
  [.makeTrigger "first" (.hooked none (some .busy)), .makeTrigger "second" .byHand,
    .makeDevice "adc" [.voltage 0 "0" 12 16 0] {}, .setup ⟨0⟩ { samples := some [7] },
    .assign ⟨0⟩ ⟨0⟩, .poll ⟨0⟩ 10, .enable ⟨0⟩ (.ofList [0]), .pin ⟨0⟩ ⟨1⟩, .poll ⟨0⟩ 20,
    .disable ⟨0⟩, .poll ⟨0⟩ 30]

/-- The edge between the start and the stop runs the handler; the one before and the one after do
not, and no more of them will, though the first trigger is still attached to the device. -/
theorem swapped_windowed :
    (∃ steps step, steps ++ [step] <+: trace swapped {} ∧
      step.after.handled ⟨0⟩ ≠ step.before.handled ⟨0⟩ ∧ InWindow ⟨0⟩ steps) ∧
    ∃ steps step, steps ++ [step] <+: trace swapped {} ∧ step.after.consumer? ⟨0⟩ = some ⟨0⟩ ∧
      ¬ InWindow ⟨0⟩ (steps ++ [step]) ∧ ∀ edges later, pollAll edges step.after = some later →
        later.device? ⟨0⟩ = step.after.device? ⟨0⟩ ∧ later.handled ⟨0⟩ = 1 := by
  have during : (((trace swapped {}).take 9).getLast?.any fun step =>
      step.after.handled ⟨0⟩ ≠ step.before.handled ⟨0⟩) = true := by decide +kernel
  have final : ((trace swapped {}).getLast?.any fun step =>
      step.after.consumer? ⟨0⟩ = some ⟨0⟩ && !step.after.capturing ⟨0⟩ &&
        step.after.handled ⟨0⟩ = 1) = true := by
    decide +kernel
  constructor
  · obtain ⟨step, last, handled⟩ := (Option.any_eq_true _ _).1 during
    obtain ⟨steps, whole⟩ := List.getLast?_eq_some_iff.1 last
    have ran : steps ++ [step] <+: trace swapped {} := whole ▸ List.take_prefix 9 _
    have more := of_decide_eq_true handled
    exact ⟨steps, step, ran, more, ((captures_windowed ran ⟨0⟩).2.1 more).2⟩
  · obtain ⟨step, last, left⟩ := (Option.any_eq_true _ _).1 final
    obtain ⟨steps, whole⟩ := List.getLast?_eq_some_iff.1 last
    have ran : steps ++ [step] <+: trace swapped {} := whole ▸ List.prefix_rfl
    simp only [Bool.and_eq_true, decide_eq_true_eq, Bool.not_eq_true'] at left
    obtain ⟨⟨consumer, off⟩, once⟩ := left
    obtain ⟨shown, -, outside⟩ := captures_windowed ran ⟨0⟩
    have closed : ¬ InWindow ⟨0⟩ (steps ++ [step]) :=
      fun opened => Bool.false_ne_true (off.symm.trans (shown.2 opened))
    refine ⟨steps, step, ran, consumer, closed, fun edges later polled => ?_⟩
    obtain ⟨device, handled⟩ := (outside closed).1 edges later polled
    exact ⟨device, handled.trans once⟩

end Acquisition
