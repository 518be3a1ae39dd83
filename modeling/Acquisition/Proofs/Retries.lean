/-
# Acquisition.Proofs.Retries — a converter bound at last

Binding a converter may fail for a time: its supply is not there yet, or somebody else has the
name of its bus. So it is tried again, each time with the device that was handed back. Between
two attempts others go on with the same session (`Meanwhile`): supplies come, go and change, and
software triggers are made and destroyed. `retry` lets any number of such moments pass.

`spared` is what the same moments come to without the attempts. What a converter to be bound
comes upon is the same after both (`Session.Surroundings`), because every attempt leaves it as it
is and the others go by nothing else. All that the attempts did to the device was to set its word
size (`retry_spared`).

`retried_eq_first` draws the conclusion. Whoever binds a converter after all these attempts fares
like someone who never tried before: refused for the same reason, or bound to a converter that
gives the same answers to the same uses, with the same words on the wire.
-/
import Acquisition.Proofs.Attempts
import Acquisition.Spi.Logged
import Acquisition.Spi.Script

namespace Acquisition

set_option autoImplicit false

/-! ## What happens in between -/

/-- Something that others do to a session. -/
inductive Meanwhile where
  /-- Supplies are added, taken away, changed, or switched on and off. -/
  | resupplied (change : Supplies → Supplies)
  /-- Somebody makes a software trigger. -/
  | taken (name : String)
  /-- Somebody destroys the software trigger of a name. -/
  | freed (name : String)

/-- A moment in the life of a converter that is to be bound. -/
inductive Moment where
  /-- Somebody tries to bind it, and gives it up again if that succeeds. -/
  | attempt (id bus : String)
  /-- Others do something. -/
  | meanwhile (what : Meanwhile)

namespace Session

variable {F H : Type}

/-- The session after others did something. -/
def meanwhile (session : Session F H) : Meanwhile → Session F H
  | .resupplied change => { session with supplies := change session.supplies }
  | .taken name => (session.createSoftware timerKind name).2
  | .freed name =>
      match session.software? name with
      | none => session
      | some id => (session.destroySoftware id).2

/-- The session after moments without the attempts among them. -/
def spared (session : Session F H) : List Moment → Session F H
  | [] => session
  | .attempt _ _ :: rest => session.spared rest
  | .meanwhile what :: rest => (session.meanwhile what).spared rest

/-- The device and the session after moments; `none` if the device was not handed back. -/
def retry {σ : Type} [Spi.WordSize σ] (session : Session (Frontend σ) Unit) :
    List Moment → σ → Option (σ × Session (Frontend σ) Unit)
  | [], device => some (device, session)
  | .attempt id bus :: rest, device =>
      match session.attempt device id bus with
      | (none, _) => none
      | (some device, after) => after.retry rest device
  | .meanwhile what :: rest, device => (session.meanwhile what).retry rest device

/-! ## The software triggers -/

/-- The software triggers as they are, oldest first. -/
def timers (session : Session F H) : List (Option Trigger) :=
  session.software.map session.trigger?

/-- Whether a trigger is there and has a name. -/
def bears (name : String) (trigger : Option Trigger) : Bool :=
  trigger.any fun trigger => trigger.name == name

theorem isSome_software? (session : Session F H) (name : String) :
    (session.software? name).isSome = session.timers.any (bears name) := by
  rw [Bool.eq_iff_iff, software?, List.find?_isSome, timers, List.any_map, List.any_eq_true]
  rfl

/-- Sessions with the same software triggers in them have the same triggers. -/
theorem timers_congr {before after : Session F H} (software : after.software = before.software)
    (triggers : ∀ id ∈ before.software, after.trigger? id = before.trigger? id) :
    after.timers = before.timers := by
  rw [timers, software, timers]
  exact List.map_congr_left triggers

/-- A trigger that is made comes last. -/
theorem timers_taken {session : Session F H}
    (bounded : ∀ id ∈ session.software, id.index < session.triggers.size) (name : String) :
    (session.meanwhile (.taken name)).timers =
      if session.timers.any (bears name) then session.timers
      else session.timers ++ [some { name, source := .timed {} }] := by
  rw [meanwhile, ← isSome_software?]
  rcases made : session.createSoftware timerKind name with ⟨result, after⟩
  cases result with
  | error error =>
      obtain ⟨taken, _, rfl⟩ := createSoftware_error made
      rw [if_pos taken]
  | ok id =>
      obtain ⟨free, rfl, software, _, _, _, _, triggers⟩ := createSoftware_ok made
      rw [if_neg (by simp [free]), timers, software, List.map_append, List.map_singleton, triggers,
        if_pos rfl, timers]
      refine congrArg (· ++ _) (List.map_congr_left fun id member => ?_)
      rw [triggers, if_neg]
      rintro rfl
      exact Nat.lt_irrefl _ (bounded _ member)

/-- To erase what is found is to erase the first of its kind. -/
theorem erase_of_find? {α : Type} [DecidableEq α] {list : List α} {p : α → Bool} {found : α}
    (here : list.find? p = some found) : list.erase found = list.eraseP p := by
  induction list with
  | nil => cases here
  | cons first rest ih =>
      by_cases holds : p first = true
      · rw [List.find?_cons_of_pos holds] at here
        cases here
        rw [List.erase_cons_head, List.eraseP_cons_of_pos holds]
      · rw [List.find?_cons_of_neg holds] at here
        have differs : first ≠ found := by
          rintro rfl
          exact holds (List.find?_some here)
        rw [List.erase_cons_tail (by simpa using differs), List.eraseP_cons_of_neg holds, ih here]

/-- A trigger that is destroyed is gone, and no other is touched. -/
theorem timers_freed {session : Session F H} (distinct : session.software.Nodup) (name : String) :
    (session.meanwhile (.freed name)).timers = session.timers.eraseP (bears name) := by
  rw [meanwhile]
  split
  · next free =>
      have nobody : session.timers.any (bears name) = false := by
        rw [← isSome_software?, free]
        rfl
      rw [List.eraseP_of_forall_not]
      simpa using nobody
  · next id found =>
      have member : session.software.contains id = true :=
        List.contains_iff_mem.2 (List.mem_of_find?_eq_some found)
      simp only [destroySoftware, member, Bool.not_true, Bool.false_eq_true, if_false]
      have others : ∀ other ∈ session.software.erase id,
          (({ session with software := session.software.erase id }.modifyTrigger id
            fun trigger => trigger.stop.2.detach).trigger? other) = session.trigger? other := by
        intro other left
        exact trigger?_modifyTrigger_other _ (distinct.mem_erase_iff.1 left).1 _
      show (session.software.erase id).map _ = _
      rw [List.map_congr_left others, erase_of_find? found, timers, List.eraseP_map]
      rfl

/-- Whoever makes a software trigger leaves the supplies alone. -/
theorem supplies_taken (session : Session F H) (name : String) :
    (session.meanwhile (.taken name)).supplies = session.supplies := by
  rw [meanwhile]
  rcases made : session.createSoftware timerKind name with ⟨result, after⟩
  cases result with
  | error error => rw [(createSoftware_error made).2.2]
  | ok id => exact (createSoftware_ok made).2.2.2.2.2.1

/-- So does whoever destroys one. -/
theorem supplies_freed (session : Session F H) (name : String) :
    (session.meanwhile (.freed name)).supplies = session.supplies := by
  rw [meanwhile]
  split
  · rfl
  · rw [destroySoftware]
    split
    · rfl
    · rfl

/-! ## What the others leave alone -/

/-- What stays as it was since a session began, whatever others do and however often a converter
is tried. Triggers that are registered as software may come and go. -/
structure Since (start session : Session F H) : Prop where
  listed : session.listed = start.listed
  devices : ∀ id : DeviceId, id.index < start.devices.size →
    session.device? id = start.device? id
  triggers : ∀ id : TriggerId, id.index < start.triggers.size → id ∉ start.software →
    session.trigger? id = start.trigger? id
  deviceCount : start.devices.size ≤ session.devices.size
  triggerCount : start.triggers.size ≤ session.triggers.size
  bounded : ∀ id ∈ session.software, id.index < session.triggers.size
  distinct : session.software.Nodup
  /-- A software trigger is new, or has been one all along. -/
  software : ∀ id ∈ session.software, id ∈ start.software ∨ start.triggers.size ≤ id.index

namespace Since

variable {start session : Session F H}

theorem refl (sound : start.Sound) (distinct : start.software.Nodup) : Since start start :=
  ⟨rfl, fun _ _ => rfl, fun _ _ _ => rfl, Nat.le_refl _, Nat.le_refl _, sound.software, distinct,
    fun _ member => .inl member⟩

theorem sound (since : Since start session) (sound : start.Sound) : session.Sound where
  listed id member :=
    Nat.lt_of_lt_of_le (sound.listed id (since.listed ▸ member)) since.deviceCount
  software := since.bounded

theorem undone (since : Since start session) {after : Session F H}
    (undone : Undone session after) : Since start after where
  listed := undone.listed.trans since.listed
  devices id old :=
    (undone.devices id (Nat.lt_of_lt_of_le old since.deviceCount)).trans (since.devices id old)
  triggers id old foreign :=
    (undone.triggers id (Nat.lt_of_lt_of_le old since.triggerCount)).trans
      (since.triggers id old foreign)
  deviceCount := Nat.le_trans since.deviceCount undone.deviceCount
  triggerCount := Nat.le_trans since.triggerCount undone.triggerCount
  bounded id member :=
    Nat.lt_of_lt_of_le (since.bounded id (undone.software ▸ member)) undone.triggerCount
  distinct := undone.software ▸ since.distinct
  software id member := since.software id (undone.software ▸ member)

theorem taken (since : Since start session) (name : String) :
    Since start (session.meanwhile (.taken name)) := by
  rw [meanwhile]
  rcases made : session.createSoftware timerKind name with ⟨result, after⟩
  cases result with
  | error error =>
      obtain ⟨_, _, rfl⟩ := createSoftware_error made
      exact since
  | ok id =>
      obtain ⟨_, rfl, software, devices, listed, _, count, triggers⟩ := createSoftware_ok made
      have fresh : (⟨session.triggers.size⟩ : TriggerId) ∉ session.software := fun member =>
        Nat.lt_irrefl _ (since.bounded _ member)
      have known : ∀ id ∈ after.software, id ∈ session.software ∨ id = ⟨session.triggers.size⟩ := by
        simp [software]
      exact
        { listed := listed.trans since.listed
          devices := fun id old => by rw [device?, devices]; exact since.devices id old
          triggers := fun id old foreign => by
            rw [triggers, if_neg]
            · exact since.triggers id old foreign
            · rintro rfl
              exact Nat.not_lt.2 since.triggerCount old
          deviceCount := devices ▸ since.deviceCount
          triggerCount := by rw [count]; exact Nat.le_succ_of_le since.triggerCount
          bounded := fun id member => by
            rw [count]
            rcases known id member with old | rfl
            · exact Nat.lt_succ_of_lt (since.bounded id old)
            · exact Nat.lt_succ_self _
          distinct := by
            rw [software, List.nodup_append]
            refine ⟨since.distinct, by simp, fun id member other last same => ?_⟩
            rw [List.mem_singleton.1 last] at same
            exact fresh (same ▸ member)
          software := fun id member => by
            rcases known id member with old | rfl
            · exact since.software id old
            · exact .inr since.triggerCount }

theorem freed (since : Since start session) (name : String) :
    Since start (session.meanwhile (.freed name)) := by
  rw [meanwhile]
  split
  · exact since
  · next id found =>
      have here := List.mem_of_find?_eq_some found
      have member : session.software.contains id = true := List.contains_iff_mem.2 here
      simp only [destroySoftware, member, Bool.not_true, Bool.false_eq_true, if_false]
      exact
        { since with
          triggers := fun other old foreign => by
            refine (trigger?_modifyTrigger_other _ ?_ _).trans (since.triggers other old foreign)
            rintro rfl
            rcases since.software other here with listed | young
            · exact foreign listed
            · exact Nat.not_lt.2 young old
          triggerCount := by
            rw [modifyTrigger, Table.size_modify]
            exact since.triggerCount
          bounded := fun other left => by
            rw [modifyTrigger, Table.size_modify]
            exact since.bounded other (List.mem_of_mem_erase left)
          distinct := since.distinct.erase _
          software := fun other left => since.software other (List.mem_of_mem_erase left) }

theorem meanwhile (since : Since start session) (what : Meanwhile) :
    Since start (session.meanwhile what) := by
  cases what with
  | resupplied change => exact { since with }
  | taken name => exact since.taken name
  | freed name => exact since.freed name

end Since

/-! ## What a converter comes upon -/

/-- Two sessions in which a converter that is to be bound comes upon the same. -/
structure Surroundings (spared tried : Session F H) : Prop where
  timers : tried.timers = spared.timers
  supplies : tried.supplies = spared.supplies

namespace Surroundings

variable {start spared tried : Session F H}

/-- An attempt changes nothing about it. -/
theorem undone (same : Surroundings spared tried) (since : Since start tried)
    {after : Session F H} (undone : Undone tried after) : Surroundings spared after where
  timers := by
    rw [timers_congr undone.software fun id member => undone.triggers id (since.bounded id member)]
    exact same.timers
  supplies := undone.supplies.trans same.supplies

/-- What others do goes by nothing else. -/
theorem meanwhile (same : Surroundings spared tried) (since : Since start tried)
    (sinceSpared : Since start spared) (what : Meanwhile) :
    Surroundings (spared.meanwhile what) (tried.meanwhile what) := by
  cases what with
  | resupplied change => exact ⟨same.timers, congrArg change same.supplies⟩
  | taken name =>
      refine ⟨?_, by rw [supplies_taken, supplies_taken, same.supplies]⟩
      rw [timers_taken since.bounded, timers_taken sinceSpared.bounded, same.timers]
  | freed name =>
      refine ⟨?_, by rw [supplies_freed, supplies_freed, same.supplies]⟩
      rw [timers_freed since.distinct, timers_freed sinceSpared.distinct, same.timers]

end Surroundings

/-! ## Any number of attempts -/

section Attempts

variable {σ : Type} [Spi.WordSize σ]

/-- **Attempts might as well not have been made**: the device is handed back every time, and
nothing happened to it but that its word size was set, while the session is as it was but for what
others did. -/
theorem retry_spared {start : Session (Frontend σ) Unit} (sound : start.Sound)
    (moments : List Moment) {spared tried : Session (Frontend σ) Unit} (since : Since start tried)
    (sinceSpared : Since start spared) (same : Surroundings spared tried) (device : σ) :
    ∃ again after, tried.retry moments device = some (again, after) ∧ Since start after ∧
      Since start (spared.spared moments) ∧ Surroundings (spared.spared moments) after ∧
      ∀ holds : σ → Prop, holds device →
        (∀ now, holds now → holds (Spi.WordSize.setWordSize now wordBits).2) → holds again := by
  induction moments generalizing spared tried device with
  | nil => exact ⟨device, tried, rfl, since, sinceSpared, same, fun _ here _ => here⟩
  | cons moment rest ih =>
      cases moment with
      | attempt id bus =>
          obtain ⟨after, handed, undone⟩ := attempt_undone (since.sound sound) device id bus
          obtain ⟨again, last, retried, kept⟩ :=
            ih (since.undone undone) sinceSpared (same.undone since undone)
              (Spi.WordSize.setWordSize device wordBits).2
          refine ⟨again, last, ?_, kept.1, kept.2.1, kept.2.2.1, fun holds here set => ?_⟩
          · rw [retry, handed]
            exact retried
          · exact kept.2.2.2 holds (set device here) set
      | meanwhile what =>
          exact ih (since.meanwhile what) (sinceSpared.meanwhile what)
            (same.meanwhile since sinceSpared what) device

end Attempts

end Session

/-! ## The converter that was bound in the end -/

/-- Setting the word size twice is setting it once. -/
def Spi.Settles {σ : Type} [Spi.WordSize σ] (device : σ) : Prop :=
  Spi.WordSize.setWordSize (Spi.WordSize.setWordSize device wordBits).2 wordBits =
    Spi.WordSize.setWordSize device wordBits

namespace Spi.Logged

variable {τ : Type} [Spi.WordSize τ]

/-- The record of a device does not say that its word size was set. -/
theorem log_setWordSize (logged : Spi.Logged τ) (bits : Nat) :
    (Spi.WordSize.setWordSize logged bits).2.log = logged.log :=
  rfl

/-- With a record a device settles as it does without. -/
theorem settles {logged : Spi.Logged τ} (settles : Spi.Settles logged.device) :
    Spi.Settles logged := by
  have fault := congrArg Prod.fst settles
  have device := congrArg Prod.snd settles
  exact Prod.ext fault (congrArg (Spi.Logged.mk · logged.log) device)

end Spi.Logged

/-- Two attempts with a device that come to the same: both fail for one reason and hand the device
back, or both bind a converter, and then whatever the two are used for, the answers are the same
and so are the devices on the bus afterwards. -/
inductive SameOutcome {σ : Type} [Spi.Device σ UInt16] (ready : σ) :
    Except (ProbeFailure σ) Binding × Session (Frontend σ) Unit →
    Except (ProbeFailure σ) Binding × Session (Frontend σ) Unit → Prop where
  | refused {first last : Session (Frontend σ) Unit} (error : Error) :
      SameOutcome ready (.error ⟨error, some ready⟩, first) (.error ⟨error, some ready⟩, last)
  | bound {first last : Session (Frontend σ) Unit} {binding binding' : Binding}
      (before : binding.spi? first = some ready) (after : binding'.spi? last = some ready)
      (seen : ∀ uses, binding'.seen uses last = binding.seen uses first) :
      SameOutcome ready (.ok binding, first) (.ok binding', last)

namespace Session.Surroundings

variable {σ : Type} [Spi.WordSize σ] {spared tried : Session (Frontend σ) Unit} {device again : σ}

/-- What stands in the way of binding a converter is what it comes upon. -/
theorem refusal?_eq (same : Surroundings spared tried)
    (settled : Spi.WordSize.setWordSize again wordBits =
      Spi.WordSize.setWordSize device wordBits) (id bus : String) :
    tried.refusal? again id bus = spared.refusal? device id bus := by
  rw [refusal?, refusal?, settled, same.supplies, isSome_software?, isSome_software?, same.timers]

/-- **An attempt comes to the same wherever the converter comes upon the same.** -/
theorem outcome [Spi.Device σ UInt16] (same : Surroundings spared tried)
    (soundSpared : spared.Sound) (soundTried : tried.Sound)
    (settled : Spi.WordSize.setWordSize again wordBits =
      Spi.WordSize.setWordSize device wordBits) (id bus : String) :
    SameOutcome (Spi.WordSize.setWordSize device wordBits).2 (spared.probe device id bus)
      (tried.probe again id bus) := by
  have why := same.refusal?_eq settled id bus
  rw [Session.refusal?_eq, Session.refusal?_eq] at why
  rcases probed : spared.probe device id bus with ⟨result, first⟩
  rcases reprobed : tried.probe again id bus with ⟨result', last⟩
  rw [probed, reprobed] at why
  have absent {session : Session (Frontend σ) Unit} (sound : session.Sound) :
      (⟨session.devices.size⟩ : DeviceId) ∉ session.listed := fun member =>
    Nat.lt_irrefl _ (sound.listed _ member)
  cases result with
  | error failure =>
      cases result' with
      | ok binding => cases why
      | error failure' =>
          obtain ⟨error, handed⟩ := failure
          obtain ⟨error', handed'⟩ := failure'
          cases Option.some.inj why
          cases (probe_error (absent soundSpared) probed).1
          cases (probe_error (absent soundTried) reprobed).1.trans (by rw [settled])
          exact .refused error
  | ok binding =>
      cases result' with
      | error failure => cases why
      | ok binding' =>
          have before := probe_ok probed
          have after := probe_ok reprobed
          have part : binding'.part = binding.part :=
            Option.some.inj (after.part.symm.trans before.part)
          obtain ⟨_, _, presents⟩ := before.presents
          obtain ⟨_, _, too⟩ := after.presents
          -- The word size was set the same way on both sides, so both present one aspect.
          rw [settled, part, same.supplies] at too
          exact .bound presents.spi?_eq too.spi?_eq fun uses => by
            rw [too.seen_eq, presents.seen_eq]

end Session.Surroundings

/-- **A converter that was bound in the end is as good as one that was bound at first.** Take any
device on the bus for which setting the word size twice is setting it once, with a record of its
transactions, and any session in which everything registered exists and no software trigger is
registered twice. Let any moments pass, each an attempt to bind a converter under any identifier
and bus, or something that others do, and compare with the same moments without the attempts.

Every attempt hands the device back, and none puts a transaction on record. The registered devices
and all devices there were before are as they were, and so are the triggers that are not software;
the software triggers, and with every supply its name, its voltage and how often it is in use, are
what they are without the attempts.

Another attempt, under any identifier and bus, comes to the same as a first one where there were no
attempts: it fails for the same reason, or it succeeds too. It succeeds just if the word size can be
set, the identifier is known, the supply of the reference can be switched on and no software trigger
has the name of the bus, all as without the attempts. Both converters then have the same device
behind them, with nothing put on record. Whatever the two are used for, the answers are the same,
and so are the device and its record afterwards; and whenever a converter is given up, its device is
left alone and handed back as it is, if at all. -/
theorem retried_eq_first {τ : Type} [Spi.Device τ UInt16] [Spi.WordSize τ] {device : Spi.Logged τ}
    (settles : Spi.Settles device.device) {start : Session (Frontend (Spi.Logged τ)) Unit}
    (sound : start.Sound) (distinct : start.software.Nodup) (moments : List Moment) :
    let spared := start.spared moments
    ∃ again tried ready, start.retry moments device = some (again, tried) ∧
      (again.log = device.log ∧ ready.log = device.log) ∧
      (tried.listed = start.listed ∧
        (∀ id : DeviceId, id.index < start.devices.size →
          tried.device? id = start.device? id) ∧
        (∀ id : TriggerId, id.index < start.triggers.size → id ∉ start.software →
          tried.trigger? id = start.trigger? id) ∧
        tried.software.map tried.trigger? = spared.software.map spared.trigger? ∧
        tried.supplies = spared.supplies) ∧
      (∀ id bus, SameOutcome ready (spared.probe device id bus) (tried.probe again id bus) ∧
        ((∃ binding last, tried.probe again id bus = (.ok binding, last)) ↔
          spared.refusal? device id bus = none)) ∧
      ∀ (later : Session (Frontend (Spi.Logged τ)) Unit) (binding : Binding),
        binding.spi? (later.remove binding).2 = binding.spi? later ∧
          ∀ handed, (later.remove binding).1 = some handed → binding.spi? later = some handed := by
  intro spared
  have since := Session.Since.refl sound distinct
  obtain ⟨again, tried, retried, sinceTried, sinceSpared, same, kept⟩ :=
    Session.retry_spared sound moments since since ⟨rfl, rfl⟩ device
  have log : again.log = device.log :=
    kept (fun now => now.log = device.log) rfl fun now same =>
      (now.log_setWordSize wordBits).trans same
  have settled : Spi.WordSize.setWordSize again wordBits =
      Spi.WordSize.setWordSize device wordBits := by
    refine kept (fun now => Spi.WordSize.setWordSize now wordBits =
      Spi.WordSize.setWordSize device wordBits) rfl fun now same => ?_
    rw [same]
    exact Spi.Logged.settles settles
  refine ⟨again, tried, (Spi.WordSize.setWordSize device wordBits).2, retried,
    ⟨log, device.log_setWordSize wordBits⟩, ?_, ?_, fun later binding => later.remove_spi? binding⟩
  · exact ⟨sinceTried.listed, sinceTried.devices, sinceTried.triggers, same.timers, same.supplies⟩
  · intro id bus
    refine ⟨same.outcome (sinceSpared.sound sound) (sinceTried.sound sound) settled id bus, ?_⟩
    rw [← same.refusal?_eq settled, tried.bound_iff]

/-! ## Four attempts before the last -/

/-- A device that answers with three words in turn. -/
def parrot : Spi.Logged (Spi.Script UInt16) where
  device := { replies := [0x1111, 0x2222, 0x3333] }

/-- A session with a regulator that no name stands for, in which somebody has the name of a
bus. -/
def squatted : Session (Frontend (Spi.Logged (Spi.Script UInt16))) Unit where
  triggers := ⟨[{ name := "spi0.1", source := .timed {} }]⟩
  software := [⟨0⟩]
  supplies := { regulators := ⟨[{ microvolts := 2500000 }]⟩ }

/-- There is no supply; then there is one, but no such part; the name of the bus is taken; when it
is free, a converter is bound and given up. -/
def obstacles : List Moment :=
  [.attempt "ti-ads7950" "spi0.1",
    .meanwhile (.resupplied fun supplies => supplies.add referenceSupply ⟨0⟩),
    .attempt "ti-ads7999" "spi0.1",
    .attempt "ti-ads7950" "spi0.1",
    .meanwhile (.freed "spi0.1"),
    .attempt "ti-ads7950" "spi0.1"]

/-- A converter that is bound where none was bound before. -/
def original : Binding :=
  ⟨⟨0⟩, ⟨1⟩, ⟨0⟩, "spi0.1", .ads7950⟩

/-- The same converter bound after two others were given up. -/
def retried : Binding :=
  ⟨⟨2⟩, ⟨2⟩, ⟨0⟩, "spi0.1", .ads7950⟩

/-- The converter that is bound in the end has other numbers, and reads the same. -/
theorem parrot_eq_first :
    squatted.refusal? parrot "ti-ads7950" "spi0.1" = some .probeDefer ∧
    (squatted.spared (obstacles.take 2)).refusal? parrot "ti-ads7999" "spi0.1" = some .noDevice ∧
    (squatted.spared (obstacles.take 3)).refusal? parrot "ti-ads7950" "spi0.1" = some .exists ∧
    (squatted.spared obstacles).refusal? parrot "ti-ads7950" "spi0.1" = none ∧
    ∃ again tried first last, squatted.retry obstacles parrot = some (again, tried) ∧
      tried.listed = [] ∧ tried.software.map tried.trigger? = [] ∧
      tried.supplies.uses ⟨0⟩ = some 0 ∧
      (squatted.spared obstacles).probe parrot "ti-ads7950" "spi0.1" = (.ok original, first) ∧
      tried.probe again "ti-ads7950" "spi0.1" = (.ok retried, last) ∧
      ∀ uses, retried.seen uses last = original.seen uses first := by
  have settles : Spi.Settles parrot.device := rfl
  have sound : squatted.Sound := ⟨fun _ => nofun, by decide⟩
  obtain ⟨again, tried, ready, attempted, _, ⟨listed, _, _, timers, supplies⟩, same, _⟩ :=
    retried_eq_first settles sound (by decide) obstacles
  have bound : (squatted.spared obstacles).probe parrot "ti-ads7950" "spi0.1" = (.ok original, _) :=
    Session.probe_of_toOption (by decide +kernel)
  have made : (tried.probe again "ti-ads7950" "spi0.1").1.toOption = some retried := by
    have last : (squatted.retry obstacles parrot).bind (fun done =>
        (done.2.probe done.1 "ti-ads7950" "spi0.1").1.toOption) = some retried := by
      decide +kernel
    rw [attempted] at last
    exact last
  have rebound := Session.probe_of_toOption made
  have outcome := (same "ti-ads7950" "spi0.1").1
  rw [bound, rebound] at outcome
  cases outcome with
  | bound _ _ seen =>
      refine ⟨by decide +kernel, by decide +kernel, by decide +kernel, by decide +kernel, again,
        tried, _, _, attempted, listed, ?_, ?_, bound, rebound, seen⟩
      · rw [timers]
        decide +kernel
      · rw [supplies]
        decide +kernel

end Acquisition
