/-
# Acquisition.Proofs.Numbers — the numbers of registered devices

The `Roll` of a session is what it shows of its registry: the number of each device, the next
number to be given, and the list. Nothing but registering a device and taking it out changes it
(`perform_roll`), and those two change it in one of three ways: a device enters, leaves, or is
struck off the list but keeps its number (`Step.Rolls`). From these all the rest follows. Numbers
are given in order and none twice, two devices never have the same, and the list is in the order
of the numbers, so that the device of a name that is found is the one registered first.

A device that has a number counts as registered. Then the list tells the truth about registered
devices just as long as none is struck off it without losing its number, which takes a trigger
that refuses to stop. `numbers_handed_out` says so of every run.
-/
import Acquisition.Proofs.Quiet
import Acquisition.Proofs.Registration
import Mathlib.Data.List.Nodup

namespace Acquisition

set_option autoImplicit false

/-! ## The roll of a session -/

/-- What a session shows of its registry. -/
structure Roll where
  /-- The number of a device. -/
  number : DeviceId → Option Nat
  /-- The number of the next device to be registered. -/
  next : Nat
  /-- The listed devices, oldest first. -/
  listed : List DeviceId

namespace Roll

/-- A device is listed and gets the next number. -/
def enter (roll : Roll) (id : DeviceId) : Roll where
  number := fun other => if other = id then some roll.next else roll.number other
  next := roll.next + 1
  listed := roll.listed ++ [id]

/-- A device is no longer listed. -/
def strike (roll : Roll) (id : DeviceId) : Roll :=
  { roll with listed := roll.listed.erase id }

/-- A device is no longer listed and has no number any more. -/
def leave (roll : Roll) (id : DeviceId) : Roll :=
  { roll.strike id with number := fun other => if other = id then none else roll.number other }

/-- No two devices have the same number, all are below the next one, and the listed devices are in
the order of their numbers. -/
structure Sound (roll : Roll) : Prop where
  below : ∀ id number, roll.number id = some number → number < roll.next
  distinct : ∀ id other number, roll.number id = some number → roll.number other = some number →
    id = other
  numbered : ∀ id ∈ roll.listed, (roll.number id).isSome = true
  ordered : roll.listed.Pairwise fun first second =>
    ∃ low high, roll.number first = some low ∧ roll.number second = some high ∧ low < high

namespace Sound

variable {roll : Roll} {id : DeviceId}

theorem nodup (sound : roll.Sound) : roll.listed.Nodup := by
  refine sound.ordered.imp ?_
  rintro first second ⟨low, high, here, there, less⟩ rfl
  cases here.symm.trans there
  exact Nat.lt_irrefl _ less

theorem enter (sound : roll.Sound) (new : id ∉ roll.listed) : (roll.enter id).Sound := by
  have others : ∀ other ∈ roll.listed, (roll.enter id).number other = roll.number other :=
    fun other member => if_neg (ne_of_mem_of_not_mem member new)
  have fresh : (roll.enter id).number id = some roll.next := if_pos rfl
  constructor
  · intro other number given
    rw [Roll.enter] at given ⊢
    dsimp only at given ⊢
    split at given
    · cases given
      exact Nat.lt_succ_self _
    · exact Nat.lt_succ_of_lt (sound.below other number given)
  · intro first second number one two
    simp only [Roll.enter] at one two
    split at one <;> split at two
    · next here there => rw [here, there]
    · cases one
      exact absurd (sound.below _ _ two) (Nat.lt_irrefl _)
    · cases two
      exact absurd (sound.below _ _ one) (Nat.lt_irrefl _)
    · exact sound.distinct _ _ _ one two
  · intro other member
    rcases List.mem_append.1 member with old | same
    · rw [others other old]
      exact sound.numbered other old
    · rw [List.mem_singleton.1 same, fresh]
      rfl
  · refine List.pairwise_append.2 ⟨?_, List.pairwise_singleton _ _, ?_⟩
    · refine sound.ordered.imp_of_mem fun {first second} one two => ?_
      rw [others first one, others second two]
      exact fun less => less
    · intro other member last same
      obtain ⟨number, given⟩ := Option.isSome_iff_exists.1 (sound.numbered other member)
      rw [List.mem_singleton.1 same, others other member, fresh]
      exact ⟨number, roll.next, given, rfl, sound.below other number given⟩

theorem strike (sound : roll.Sound) (id : DeviceId) : (roll.strike id).Sound where
  below := sound.below
  distinct := sound.distinct
  numbered other member := sound.numbered other (List.mem_of_mem_erase member)
  ordered := sound.ordered.sublist List.erase_sublist

theorem leave (sound : roll.Sound) (id : DeviceId) : (roll.leave id).Sound := by
  have struck := sound.strike id
  have kept : ∀ other ∈ (roll.strike id).listed, (roll.leave id).number other = roll.number other :=
    fun other member => if_neg (ne_of_mem_of_not_mem member sound.nodup.not_mem_erase)
  have held : ∀ other number, (roll.leave id).number other = some number →
      roll.number other = some number := by
    intro other number given
    simp only [Roll.leave] at given
    split at given
    · cases given
    · exact given
  refine ⟨fun other number given => sound.below other number (held other number given),
    fun first second number one two => sound.distinct _ _ _ (held _ _ one) (held _ _ two), ?_, ?_⟩
  · intro other member
    rw [kept other member]
    exact struck.numbered other member
  · refine struck.ordered.imp_of_mem fun {first second} one two => ?_
    rw [kept first one, kept second two]
    exact fun less => less

end Sound

end Roll

/-! ## What leaves the roll as it is -/

namespace Session

variable {F H : Type}

/-- The number of a device. -/
def number? (session : Session F H) (id : DeviceId) : Option Nat :=
  (session.device? id).bind Device.number

/-- What a session shows of its registry. -/
def roll (session : Session F H) : Roll :=
  ⟨session.number?, session.nextNumber, session.listed⟩

section Functions

variable (session : Session F H)

theorem number?_modifyDevice (id other : DeviceId) (change : Device F H → Device F H) :
    (session.modifyDevice id change).number? other =
      if other = id then (session.device? other).bind fun device => (change device).number
      else session.number? other := by
  rw [number?, device?_modifyDevice_eq]
  split
  · cases session.device? other <;> rfl
  · rfl

/-- A change of a device that leaves it its number. -/
theorem roll_modifyDevice (id : DeviceId) {change : Device F H → Device F H}
    (same : ∀ device, session.device? id = some device → (change device).number = device.number) :
    (session.modifyDevice id change).roll = session.roll := by
  have numbers : (session.modifyDevice id change).number? = session.number? := by
    funext other
    rw [number?_modifyDevice]
    split
    · next here =>
        rw [number?, here]
        exact Option.bind_congr same
    · rfl
  rw [roll, numbers]
  rfl

/-- A new device has no number. -/
theorem roll_addDevice (name : String) (channels : List Channel) (provider : F) :
    (session.addDevice name channels provider).2.roll = session.roll := by
  have numbers : (session.addDevice name channels provider).2.number? = session.number? := by
    funext id
    rw [number?, device?_addDevice, number?]
    split
    · next last =>
        have nobody : session.device? id = none := List.getElem?_eq_none (Nat.le_of_eq last.symm)
        rw [nobody]
        rfl
    · rfl
  rw [roll, numbers]
  rfl

/-- Minor changes leave the roll as it is. -/
theorem Minor.roll {before after : Session F H} (minor : Minor before after) :
    after.roll = before.roll := by
  induction minor with
  | refl => rfl
  | @device session id change number => exact session.roll_modifyDevice id number
  | trigger | journal => rfl
  | trans _ _ left right => exact right.trans left

theorem roll_poll [Provider F H] {id : TriggerId} {time : Int64} {after : Session F H}
    (polled : session.poll id time = some after) : after.roll = session.roll := by
  rw [poll] at polled
  split at polled
  · split at polled
    · cases polled
      rfl
    · next device there =>
        obtain ⟨met, played, same⟩ := Option.map_eq_some_iff.1 polled
        cases same
        refine roll_modifyDevice (session.modifyTrigger id fun _ => met.trigger) _
          fun held here => ?_
        cases there.symm.trans here
        exact (Encounter.Still.play played).number
  · cases polled
    rfl

theorem roll_createSoftware (kind name : String) :
    (session.createSoftware kind name).2.roll = session.roll := by
  rw [createSoftware]
  split
  · rfl
  · split <;> rfl

theorem roll_destroySoftware (id : TriggerId) :
    (session.destroySoftware id).2.roll = session.roll := by
  rw [destroySoftware]
  split <;> rfl

/-- **Nothing but registering a device and taking it out changes the roll.** -/
theorem perform_roll [Provider F H] {command : Command F H} {after : Session F H}
    (apart : command.enrols = false) (performed : session.perform command = some after) :
    after.roll = session.roll := by
  cases command with
  | register id | unregister id => cases apart
  | makeDevice name channels provider =>
      cases performed
      exact session.roll_addDevice name channels provider
  | makeTrigger | notifyDone =>
      cases performed
      rfl
  | createSoftware kind name =>
      cases performed
      exact session.roll_createSoftware kind name
  | destroySoftware trigger =>
      cases performed
      exact session.roll_destroySoftware trigger
  | poll trigger time => exact session.roll_poll performed
  | tick trigger time =>
      rw [perform, tick_eq] at performed
      split at performed
      · exact session.roll_poll performed
      · cases performed
        rfl
  | _ => exact (perform_minor rfl performed).roll

/-! ## What changes it -/

/-- A device is refused registration if it is listed, and gets the next number otherwise. -/
theorem register_cases (id : DeviceId) :
    session.device? id = none ∧ session.register id = (.error .noDevice, session) ∨
    id ∈ session.listed ∧ session.register id = (.error .exists, session) ∨
    id ∉ session.listed ∧ (session.register id).1 = .ok session.nextNumber ∧
      (session.register id).2.roll = session.roll.enter id := by
  rw [register]
  cases found : session.device? id with
  | none => exact .inl ⟨rfl, rfl⟩
  | some device =>
      dsimp only
      split
      · next listed => exact .inr (.inl ⟨List.contains_iff_mem.1 listed, rfl⟩)
      · next unlisted =>
          refine .inr (.inr ⟨fun listed => unlisted (List.contains_iff_mem.2 listed), rfl, ?_⟩)
          have numbers : (session.modifyDevice id fun device =>
              { device with number := some session.nextNumber }).number? =
                (session.roll.enter id).number := by
            funext other
            rw [number?_modifyDevice]
            split
            · next same =>
                rw [same, found]
                exact (if_pos rfl).symm
            · next differs => exact (if_neg differs).symm
          exact congrArg (Roll.mk · (session.nextNumber + 1) (session.listed ++ [id])) numbers

/-- A device that is listed is struck off, and loses its number unless its trigger resists. -/
theorem unregister_cases (id : DeviceId) :
    id ∉ session.listed ∧ session.unregister id = (.error .noDevice, session) ∨
    id ∈ session.listed ∧ (session.unregister id).1 = .ok () ∧
      (session.unregister id).2.roll = session.roll.leave id ∨
    id ∈ session.listed ∧ (∃ error, (session.unregister id).1 = .error error) ∧
      (session.unregister id).2.roll = session.roll.strike id := by
  rw [unregister]
  split
  · next unlisted =>
      exact .inl ⟨by simpa using unlisted, rfl⟩
  next listed =>
  have member : id ∈ session.listed := by simpa using listed
  have stopped : ({ session with listed := session.listed.erase id }.disable id).2.roll =
      session.roll.strike id := (minor_disable _ id).roll
  refine .inr ?_
  split
  · next error after refused =>
      rw [refused] at stopped
      exact .inr ⟨member, ⟨error, rfl⟩, stopped⟩
  · next after agreed =>
      rw [agreed] at stopped
      refine .inl ⟨member, rfl, ?_⟩
      have numbers : (after.modifyDevice id fun device => { device with number := none }).number? =
          (session.roll.leave id).number := by
        funext other
        rw [number?_modifyDevice]
        split
        · next same =>
            rw [Option.bind_fun_none]
            exact (if_pos same).symm
        · next differs =>
            have kept : after.number? other = session.number? other :=
              congrFun (congrArg Roll.number stopped) other
            exact kept.trans (if_neg differs).symm
      have rest : after.nextNumber = session.nextNumber ∧
          after.listed = session.listed.erase id :=
        ⟨congrArg Roll.next stopped, congrArg Roll.listed stopped⟩
      exact (Roll.mk.injEq ..).mpr ⟨numbers, rest⟩

end Functions

/-! ## Runs -/

namespace Step

/-- The device that is registered in a step, and the number that is answered. -/
def given? (step : Step F H) : Option (DeviceId × Nat) :=
  match step.command with
  | .register id =>
      match (step.before.register id).1 with
      | .ok number => some (id, number)
      | .error _ => none
  | _ => none

/-- The device that is taken out of the registry in a step, if the answer is that it was. -/
def freed? (step : Step F H) : Option DeviceId :=
  match step.command with
  | .unregister id =>
      match (step.before.unregister id).1 with
      | .ok () => some id
      | .error _ => none
  | _ => none

/-- The number a device holds after a step, going by the answers. -/
def hold (id : DeviceId) (number : Option Nat) (step : Step F H) : Option Nat :=
  match step.given? with
  | some (other, next) => if id = other then some next else number
  | none => if step.freed? = some id then none else number

/-- What a step does to the roll: nothing, or a device enters it and gets the next number, or a
device leaves it, or a device is struck off although the answer is a refusal. -/
inductive Rolls (step : Step F H) : Prop where
  | kept (given : step.given? = none) (freed : step.freed? = none)
      (roll : step.after.roll = step.before.roll)
  | entered {id : DeviceId} (given : step.given? = some (id, step.before.nextNumber))
      (new : id ∉ step.before.listed) (roll : step.after.roll = step.before.roll.enter id)
  | left {id : DeviceId} (given : step.given? = none) (freed : step.freed? = some id)
      (roll : step.after.roll = step.before.roll.leave id)
  | struck {id : DeviceId} (given : step.given? = none) (freed : step.freed? = none)
      (roll : step.after.roll = step.before.roll.strike id)

theorem Rolls.sound {step : Step F H} (rolls : step.Rolls) (sound : step.before.roll.Sound) :
    step.after.roll.Sound := by
  cases rolls with
  | kept _ _ roll => exact roll ▸ sound
  | entered _ new roll => exact roll ▸ sound.enter new
  | left _ _ roll => exact roll ▸ sound.leave _
  | struck _ _ roll => exact roll ▸ sound.strike _

end Step

/-- The numbers that were handed out, in order. -/
def handedOut (steps : List (Step F H)) : List Nat :=
  steps.filterMap fun step => step.given?.map Prod.snd

/-- The number a device holds, going by the answers: that of its last registration, unless it was
taken out since. -/
def held (id : DeviceId) (steps : List (Step F H)) : Option Nat :=
  steps.foldl (Step.hold id) none

theorem held_concat (id : DeviceId) (steps : List (Step F H)) (step : Step F H) :
    held id (steps ++ [step]) = step.hold id (held id steps) :=
  List.foldl_append ..

theorem handedOut_concat (steps : List (Step F H)) (step : Step F H) :
    handedOut (steps ++ [step]) = handedOut steps ++ (step.given?.map Prod.snd).toList := by
  simp only [handedOut, List.filterMap_append, List.filterMap_cons, List.filterMap_nil]
  cases step.given? <;> rfl

section Registry

variable [Provider F H] {session after : Session F H} {command : Command F H}

theorem perform_rolls (performed : session.perform command = some after) :
    Step.Rolls ⟨session, command, after⟩ := by
  cases command with
  | register id =>
      cases performed
      rcases session.register_cases id with ⟨_, same⟩ | ⟨_, same⟩ | ⟨new, answer, moved⟩
      · refine .kept ?_ rfl ?_ <;> simp only [Step.given?, same]
      · refine .kept ?_ rfl ?_ <;> simp only [Step.given?, same]
      · exact .entered (by simp only [Step.given?, answer]) new moved
  | unregister id =>
      cases performed
      rcases session.unregister_cases id with
        ⟨_, same⟩ | ⟨_, answer, moved⟩ | ⟨_, ⟨error, answer⟩, moved⟩
      · refine .kept rfl ?_ ?_ <;> simp only [Step.freed?, same]
      · exact .left rfl (by simp only [Step.freed?, answer]) moved
      · exact .struck rfl (by simp only [Step.freed?, answer]) moved
  | _ => exact .kept rfl rfl (session.perform_roll rfl performed)

/-- The answers of the past tell the numbers of the devices, and the roll is sound. -/
structure Recorded (past : List (Step F H)) (session : Session F H) : Prop where
  given : handedOut past = List.range session.nextNumber
  numbers : ∀ id, session.number? id = held id past
  sound : session.roll.Sound

omit [Provider F H] in
theorem recorded_empty : Recorded [] ({} : Session F H) :=
  ⟨rfl, fun _ => rfl, ⟨nofun, nofun, nofun, .nil⟩⟩

omit [Provider F H] in
theorem Recorded.rolls {past : List (Step F H)} {step : Step F H} (rolls : step.Rolls)
    (recorded : Recorded past step.before) : Recorded (past ++ [step]) step.after := by
  obtain ⟨given, numbers, sound⟩ := recorded
  have later := rolls.sound sound
  have next {roll : Roll} (same : step.after.roll = roll) : step.after.nextNumber = roll.next :=
    congrArg Roll.next same
  have number {roll : Roll} (same : step.after.roll = roll) (id : DeviceId) :
      step.after.number? id = roll.number id :=
    congrFun (congrArg Roll.number same) id
  cases rolls with
  | kept none kept roll =>
      refine ⟨?_, fun id => ?_, later⟩
      · rw [handedOut_concat, none, given, next roll]
        exact List.append_nil _
      · rw [number roll, held_concat, Step.hold, none, kept, ← numbers]
        rfl
  | entered some new roll =>
      refine ⟨?_, fun id => ?_, later⟩
      · rw [handedOut_concat, some, given, next roll]
        exact List.range_succ.symm
      · rw [number roll, held_concat, Step.hold, some, ← numbers]
        rfl
  | left none some roll =>
      refine ⟨?_, fun id => ?_, later⟩
      · rw [handedOut_concat, none, given, next roll]
        exact List.append_nil _
      · rw [number roll, held_concat, Step.hold, none, some, ← numbers]
        simp only [Roll.leave, Option.some_inj, eq_comm]
        rfl
  | struck none kept roll =>
      refine ⟨?_, fun id => ?_, later⟩
      · rw [handedOut_concat, none, given, next roll]
        exact List.append_nil _
      · rw [number roll, held_concat, Step.hold, none, kept, ← numbers]
        rfl

end Registry

/-! ## What the list tells -/

/-- Whether a device goes by a name. -/
def goesBy (session : Session F H) (id : DeviceId) (name : String) : Bool :=
  (session.device? id).any fun device => device.name == name

/-- Of two devices with numbers, the one was registered no later than the other. -/
def NoLater (session : Session F H) (id other : DeviceId) : Prop :=
  ∀ low high, session.number? id = some low → session.number? other = some high → low ≤ high

/-- The registry answers for a group of devices: they are refused when they are registered again,
the others when they are taken out, both without any change; it counts them, and of those with a
name it finds the one registered first. -/
structure AnswersFor (session : Session F H) (group : DeviceId → Bool) : Prop where
  taken : ∀ id, group id = true → session.register id = (.error .exists, session)
  free : ∀ id, group id = false → session.unregister id = (.error .noDevice, session)
  count : session.listed.length =
    (List.range session.devices.size).countP fun index => group ⟨index⟩
  found : ∀ name id, session.find? name = some id ↔
    group id = true ∧ session.goesBy id name = true ∧
      ∀ other, group other = true → session.goesBy other name = true → session.NoLater id other
  missing : ∀ name, session.find? name = none ↔
    ∀ id, group id = true → session.goesBy id name = false

section Answers

variable {session : Session F H} {id : DeviceId}

theorem registered_eq (session : Session F H) (id : DeviceId) :
    session.registered id = (session.number? id).isSome := by
  rw [registered, number?]
  cases session.device? id <;> rfl

/-- Going by the list, the device that is found is the first of its name. -/
theorem find?_eq_some (sound : session.roll.Sound) {name : String} :
    session.find? name = some id ↔ id ∈ session.listed ∧ session.goesBy id name = true ∧
      ∀ other ∈ session.listed, session.goesBy other name = true → session.NoLater id other := by
  have first {id : DeviceId} (found : session.find? name = some id) :
      id ∈ session.listed ∧ session.goesBy id name = true ∧
        ∀ other ∈ session.listed, session.goesBy other name = true → session.NoLater id other := by
    have named := List.find?_some (p := fun id => session.goesBy id name) found
    refine ⟨List.mem_of_find?_eq_some found, named, ?_⟩
    obtain ⟨_, earlier, later, split, none⟩ := List.find?_eq_some_iff_append.1 found
    have ordered := sound.ordered
    have parts : session.roll.listed = earlier ++ id :: later := split
    rw [parts, List.pairwise_append, List.pairwise_cons] at ordered
    intro other member called low high one two
    rw [split, List.mem_append, List.mem_cons] at member
    rcases member with before | rfl | after
    · have unnamed : (!session.goesBy other name) = true := none other before
      rw [called] at unnamed
      cases unnamed
    · cases one.symm.trans two
      exact Nat.le_refl _
    · obtain ⟨small, large, here, there, less⟩ := ordered.2.1.1 other after
      cases one.symm.trans here
      cases two.symm.trans there
      exact Nat.le_of_lt less
  refine ⟨first, fun ⟨member, named, least⟩ => ?_⟩
  have some : (session.find? name).isSome = true := List.find?_isSome.2 ⟨id, member, named⟩
  obtain ⟨other, found⟩ := Option.isSome_iff_exists.1 some
  obtain ⟨listed, called, lowest⟩ := first found
  obtain ⟨low, here⟩ := Option.isSome_iff_exists.1 (sound.numbered id member)
  obtain ⟨high, there⟩ := Option.isSome_iff_exists.1 (sound.numbered other listed)
  have same : low = high := Nat.le_antisymm (least other listed called low high here there)
    (lowest id member named high low there here)
  rw [found, sound.distinct other id high there (same ▸ here)]

theorem device?_of_listed (sound : session.roll.Sound) (listed : id ∈ session.listed) :
    ∃ device, session.device? id = some device := by
  obtain ⟨number, given⟩ := Option.isSome_iff_exists.1 (sound.numbered id listed)
  obtain ⟨device, found, _⟩ := Option.bind_eq_some_iff.1 given
  exact ⟨device, found⟩

theorem length_listed (sound : session.roll.Sound) : session.listed.length =
    (List.range session.devices.size).countP fun index => session.listed.contains ⟨index⟩ := by
  have injective : Function.Injective DeviceId.index := by
    rintro ⟨one⟩ ⟨two⟩ same
    exact congrArg DeviceId.mk same
  have indices : (session.listed.map DeviceId.index).Perm
      ((List.range session.devices.size).filter fun index => session.listed.contains ⟨index⟩) := by
    refine (List.perm_ext_iff_of_nodup (List.Nodup.map injective sound.nodup)
      (List.nodup_range.filter _)).2 fun index => ?_
    rw [List.mem_map, List.mem_filter, List.mem_range, List.contains_iff_mem]
    constructor
    · rintro ⟨id, listed, rfl⟩
      obtain ⟨device, found⟩ := device?_of_listed sound listed
      exact ⟨index_lt_of_device? found, listed⟩
    · rintro ⟨_, listed⟩
      exact ⟨⟨index⟩, listed, rfl⟩
  rw [List.countP_eq_length_filter, ← indices.length_eq, List.length_map]

/-- **The registry answers for the devices in its list**, whatever happened. -/
theorem answersFor_listed (sound : session.roll.Sound) :
    session.AnswersFor fun id => session.listed.contains id where
  taken id listed := by
    have member := List.contains_iff_mem.1 listed
    rcases session.register_cases id with ⟨absent, _⟩ | ⟨_, same⟩ | ⟨new, _⟩
    · obtain ⟨device, found⟩ := device?_of_listed sound member
      cases absent.symm.trans found
    · exact same
    · exact absurd member new
  free id unlisted := by
    have outside : id ∉ session.listed := by simpa using unlisted
    rcases session.unregister_cases id with ⟨_, same⟩ | ⟨member, _⟩ | ⟨member, _⟩
    · exact same
    · exact absurd member outside
    · exact absurd member outside
  count := length_listed sound
  found name id := by
    simp only [find?_eq_some sound, List.contains_iff_mem]
  missing name := by
    simp only [Session.find?, List.find?_eq_none, List.contains_iff_mem, Bool.not_eq_true]
    rfl

/-- It answers for the devices that have a number just if those are the listed ones. -/
theorem answersFor_registered_iff (sound : session.roll.Sound) :
    session.AnswersFor session.registered ↔ session.Consistent := by
  constructor
  · intro answers id
    rw [registered_eq]
    refine ⟨sound.numbered id, fun here => ?_⟩
    rw [← registered_eq] at here
    have refused := answers.taken id here
    rcases session.register_cases id with ⟨_, other⟩ | ⟨listed, _⟩ | ⟨_, answer, _⟩
    · cases refused.symm.trans other
    · exact listed
    · rw [refused] at answer
      cases answer
  · intro consistent
    have same : session.registered = fun id => session.listed.contains id := by
      funext id
      rw [Bool.eq_iff_iff, List.contains_iff_mem, consistent id]
    rw [same]
    exact answersFor_listed sound

end Answers

end Session

open Session

/-- The name a registered device is known by tells its number. -/
theorem registeredName_inj {number other : Nat}
    (same : s!"iio:device{number}" = s!"iio:device{other}") : number = other := by
  have digits : Nat.toDigits 10 number = Nat.toDigits 10 other := by
    have chars := congrArg String.toList same
    simpa [toString] using chars
  have read := congrArg (Nat.ofDigitChars 10 · 0) digits
  simpa using read

/-- No two devices are known by the same name. -/
theorem registeredName_unique {F H : Type} {session : Session F H} (sound : session.roll.Sound)
    {id other : DeviceId} {name : String}
    (one : (session.device? id).bind Device.registeredName? = some name)
    (two : (session.device? other).bind Device.registeredName? = some name) : id = other := by
  have numbered {id : DeviceId}
      (known : (session.device? id).bind Device.registeredName? = some name) :
      ∃ number, session.number? id = some number ∧ s!"iio:device{number}" = name := by
    obtain ⟨device, found, named⟩ := Option.bind_eq_some_iff.1 known
    obtain ⟨number, given, same⟩ := Option.map_eq_some_iff.1 named
    exact ⟨number, Option.bind_eq_some_iff.2 ⟨device, found, given⟩, same⟩
  obtain ⟨low, here, first⟩ := numbered one
  obtain ⟨high, there, second⟩ := numbered two
  cases registeredName_inj (first.trans second.symm)
  exact sound.distinct id other low here there

/-- **Numbers are handed out in order and never again.** After any steps the numbers answered to
successful registrations are those from zero on; the number of a device is the one answered to its
last registration, if it was not taken out since; no two devices have the same name to be known by;
none is listed twice, and the registry answers for those that are listed. It answers for those that
have a number all along just if no device is ever taken out while the trigger of its capture refuses
to stop. -/
theorem numbers_handed_out {F H : Type} [Provider F H] (commands : List (Command F H)) :
    (∀ steps step, steps ++ [step] <+: trace commands {} →
      handedOut (steps ++ [step]) = List.range (handedOut (steps ++ [step])).length ∧
      (∀ id, step.after.number? id = held id (steps ++ [step])) ∧
      (∀ id other name, (step.after.device? id).bind Device.registeredName? = some name →
        (step.after.device? other).bind Device.registeredName? = some name → id = other) ∧
      step.after.listed.Nodup ∧
      step.after.AnswersFor fun id => step.after.listed.contains id) ∧
    ((∀ step ∈ trace commands {}, step.after.AnswersFor step.after.registered) ↔
      ∀ step ∈ trace commands {}, step.before.strands step.command = false) := by
  constructor
  · intro steps step ran
    obtain ⟨_, _, given, numbers, sound⟩ := trace_past
      (fun past session command _ after performed recorded =>
        recorded.rolls (perform_rolls performed)) recorded_empty ran
    rw [List.nil_append] at given numbers
    refine ⟨?_, numbers, fun _ _ _ => registeredName_unique sound, sound.nodup,
      answersFor_listed sound⟩
    rw [given, List.length_range]
  · exact trace_exact
      (fun session => session.Enrolled ∧ session.roll.Sound ∧ session.Consistent)
      (fun session => session.AnswersFor session.registered) (fun _ _ => true) strands
      (fun _ here => (answersFor_registered_iff here.2.1).2 here.2.2)
      (fun _ _ _ performed _ here calm =>
        ⟨here.1.perform performed, (perform_rolls performed).sound here.2.1,
          (here.2.2.perform here.1 performed).2 calm⟩)
      (fun _ _ _ performed _ here worse answers => by
        have still := (perform_rolls performed).sound here.2.1
        have agree := (answersFor_registered_iff still).1 answers
        have calm := (here.2.2.perform here.1 performed).1 agree
        exact Bool.true_eq_false.mp (worse.symm.trans calm))
      commands {} ⟨enrolled_empty, recorded_empty.sound, fun _ => iff_of_false nofun nofun⟩
      fun _ _ => rfl

/-- A device that is captured on a trigger which refuses to stop, taken out of the registry, and
registered once more. -/
def readmitted : List (Command Rehearsal Routine) :=
  [.makeTrigger "stubborn" (.hooked none (some .busy)),
    .makeDevice "adc" [.voltage 0 "0" 12 16 0] {},
    .setup ⟨0⟩ {}, .assign ⟨0⟩ ⟨0⟩, .enable ⟨0⟩ (.ofList [0]), .register ⟨0⟩, .unregister ⟨0⟩,
    .register ⟨0⟩]

/-- The device has its number still, but is not refused: it gets a second one. -/
theorem readmitted_renumbered : ¬ ∀ step ∈ trace readmitted {},
    step.after.AnswersFor step.after.registered := by
  have renumbered : ∃ step ∈ trace readmitted {}, step.after.number? ⟨0⟩ = some 0 ∧
      step.after.registered ⟨0⟩ = true ∧ (step.after.register ⟨0⟩).1 = .ok 1 := by
    decide +kernel
  obtain ⟨step, member, _, here, answer⟩ := renumbered
  intro all
  rw [(all step member).taken ⟨0⟩ here] at answer
  cases answer

end Acquisition
