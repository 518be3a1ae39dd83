/-
# Acquisition.Proofs.Attempts — one attempt to bind a converter

An attempt either fails or binds a converter, which is then given up at once (`attempt`). Either
way it hands back the device it was given, with its word size set, and leaves the session as it
was but for devices and triggers that nobody can reach any more (`attempt_undone`).

Giving a converter up says nothing to its device, whatever has become of the session meanwhile
(`remove_spi?`). A converter that stays bound presents a fresh aspect (`Probed.presents`).
-/
import Acquisition.Proofs.Aspect
import Acquisition.Proofs.Probe

namespace Acquisition

open Acquisition.Converter (Part)

set_option autoImplicit false

/-! ## What stands behind a device -/

namespace Session

variable {F H : Type}

/-- What stands behind the device under a number. -/
def provider? (session : Session F H) (id : DeviceId) : Option F :=
  (session.device? id).map Device.provider

/-- Nothing that stands behind a device differs. -/
def SameProviders (before after : Session F H) : Prop :=
  ∀ id, after.provider? id = before.provider? id

namespace SameProviders

theorem refl (session : Session F H) : SameProviders session session :=
  fun _ => rfl

theorem trans {first second third : Session F H} (left : SameProviders first second)
    (right : SameProviders second third) : SameProviders first third :=
  fun id => (right id).trans (left id)

theorem of_device? {before after : Session F H}
    (same : ∀ id, after.device? id = before.device? id) : SameProviders before after :=
  fun id => congrArg (Option.map Device.provider) (same id)

end SameProviders

variable (session : Session F H)

theorem sameProviders_modifyDevice (id : DeviceId) (change : Device F H → Device F H)
    (keeps : ∀ device, (change device).provider = device.provider) :
    SameProviders session (session.modifyDevice id change) := by
  intro other
  by_cases same : other = id
  · subst same
    rw [provider?, device?_modifyDevice, Option.map_map, provider?]
    exact congrArg (Option.map · _) (funext keeps)
  · rw [provider?, device?_modifyDevice_other _ same, provider?]

theorem sameProviders_disable (id : DeviceId) : SameProviders session (session.disable id).2 := by
  have off := session.sameProviders_modifyDevice id
    (fun device => { device with capturing := false }) fun _ => rfl
  rw [disable]
  split
  · exact .refl session
  split
  · exact .refl session
  dsimp only
  split
  · exact off
  · next trigger _ =>
      have stopped := off.trans (.of_device? (device?_stopTrigger _ trigger))
      split
      · next refused => exact refused ▸ stopped
      · next agreed =>
          rw [agreed] at stopped
          exact stopped

theorem sameProviders_cleanup (id : DeviceId) : SameProviders session (session.cleanup id) := by
  have stopped := session.sameProviders_disable id
  rw [cleanup]
  split
  · exact .refl session
  · refine SameProviders.trans ?_ (sameProviders_modifyDevice _ id _ fun _ => rfl)
    split
    · exact stopped
    · exact stopped

theorem sameProviders_withdraw (bus : String) (id : DeviceId) :
    SameProviders session (session.withdraw bus id) := by
  have stopped := sameProviders_disable { session with listed := session.listed.erase id } id
  have unregistered : SameProviders session (session.unregister id).2 := by
    rw [unregister]
    split
    · exact .refl session
    · split
      · next refused => exact refused ▸ stopped
      · next agreed =>
          rw [agreed] at stopped
          exact stopped.trans (sameProviders_modifyDevice _ id _ fun _ => rfl)
  rw [withdraw]
  split
  · next agreed =>
      rw [agreed] at unregistered
      exact unregistered
  · next refused =>
      rw [refused] at unregistered
      exact unregistered

theorem sameProviders_destroySoftware (id : TriggerId) :
    SameProviders session (session.destroySoftware id).2 := by
  rw [destroySoftware]
  split
  · exact .refl session
  · exact .refl session

theorem sameProviders_switchOff (bus : String) (supply : RegulatorId) :
    SameProviders session (session.switchOff bus supply) := by
  rw [switchOff]
  split
  · exact .refl session
  · exact .refl session

/-! ## What is handed back -/

variable {σ : Type}

/-- A device that is handed back is the one behind the device that was let go. -/
theorem reclaim_provider (session : Session (Frontend σ) H) (id : DeviceId) :
    SameProviders session (session.reclaim id).2 ∧
      ∀ device, (session.reclaim id).1 = some device →
        ∃ frontend, session.provider? id = some frontend ∧ frontend.converter.device = device := by
  have released : SameProviders session (session.release id) :=
    session.sameProviders_modifyDevice id _ fun _ => rfl
  rw [reclaim]
  split
  · refine ⟨released, fun device handed => ?_⟩
    cases handed
  · refine ⟨released, fun device handed => ?_⟩
    obtain ⟨found, there, same⟩ := Option.map_eq_some_iff.1 handed
    exact ⟨found.provider, by rw [← released, provider?, there, Option.map_some], same⟩

theorem spi?_provider (session : Session (Frontend σ) H) (binding : Binding) :
    binding.spi? session =
      (session.provider? binding.device).map fun frontend => frontend.converter.device := by
  rw [provider?, Option.map_map]
  rfl

/-- **Giving a converter up leaves its device alone**, and hands back no other. -/
theorem remove_spi? (session : Session (Frontend σ) Unit) (binding : Binding) :
    binding.spi? (session.remove binding).2 = binding.spi? session ∧
      ∀ device, (session.remove binding).1 = some device → binding.spi? session = some device := by
  let hidden := session.withdraw binding.bus binding.device
  have withdrawn : SameProviders session hidden :=
    session.sameProviders_withdraw binding.bus binding.device
  have destroyed := withdrawn.trans (hidden.sameProviders_destroySoftware binding.trigger)
  have rest (left : Session (Frontend σ) Unit) (kept : SameProviders session left) :
      let bare := (left.cleanup binding.device).switchOff binding.bus binding.supply
      binding.spi? (bare.reclaim binding.device).2 = binding.spi? session ∧
        ∀ device, (bare.reclaim binding.device).1 = some device →
          binding.spi? session = some device := by
    intro bare
    have same : SameProviders session bare :=
      (kept.trans (left.sameProviders_cleanup binding.device)).trans
        (sameProviders_switchOff _ binding.bus binding.supply)
    obtain ⟨gone, handed⟩ := bare.reclaim_provider binding.device
    refine ⟨by rw [spi?_provider, same.trans gone, spi?_provider], fun device back => ?_⟩
    obtain ⟨frontend, there, own⟩ := handed device back
    rw [same] at there
    rw [spi?_provider, there, Option.map_some, own]
  rw [remove]
  apply rest
  split
  · next agreed =>
      rw [agreed] at destroyed
      exact destroyed
  · next refused =>
      rw [refused] at destroyed
      exact destroyed

end Session

/-! ## What is left of an attempt -/

namespace Session

variable {σ : Type} [Spi.WordSize σ]

/-- Binds a converter and gives it up at once, and says what was handed back, by the failure or
on giving up. -/
def attempt (session : Session (Frontend σ) Unit) (device : σ) (id bus : String) :
    Option σ × Session (Frontend σ) Unit :=
  match session.probe device id bus with
  | (.error failure, after) => (failure.device, after)
  | (.ok binding, fresh) => fresh.remove binding

/-- **A converter that is given up as soon as it is bound** hands its device back and leaves no
trace. -/
theorem remove_undone {session fresh : Session (Frontend σ) Unit} {device : σ} {id bus : String}
    {binding : Binding} (sound : session.Sound)
    (probed : Probed device id bus binding session fresh) :
    ∃ after, fresh.remove binding = (some (Spi.WordSize.setWordSize device wordBits).2, after) ∧
      Undone session after := by
  obtain ⟨device', trigger, here, _, alone, behind⟩ := probed.bound
  have newDevice : binding.device ∉ session.listed := fun member =>
    Nat.lt_irrefl _ (probed.device_new ▸ sound.listed _ member)
  have newTrigger : binding.trigger ∉ session.software := fun member =>
    Nat.lt_irrefl _ (probed.trigger_new ▸ sound.software _ member)
  have listed := probed.listed newDevice
  have unlisted : fresh.listed.erase binding.device = session.listed := by
    rw [listed, List.erase_append_right _ newDevice, List.erase_cons_head, List.append_nil]
  have unnamed : fresh.software.erase binding.trigger = session.software := by
    rw [probed.software, List.erase_append_right _ newTrigger, List.erase_cons_head,
      List.append_nil]
  obtain ⟨after, gone, apart, lastListed, lastSoftware, lit⟩ :=
    remove_bound here (by simp [listed]) (unlisted ▸ newDevice) (by simp [probed.software])
      (Supplies.disable_enable probed.enabled)
  refine ⟨after, by rw [gone, if_pos (by rw [alone]), behind], ?_⟩
  exact
    { listed := lastListed.trans unlisted
      software := lastSoftware.trans unnamed
      supplies := lit
      devices := fun other inside => by
        have old : other ≠ binding.device := by
          rintro rfl
          exact Nat.lt_irrefl _ (probed.device_new ▸ inside)
        exact (apart.devices other old).trans (probed.devices other old)
      triggers := fun other inside => by
        have old : other ≠ binding.trigger := by
          rintro rfl
          exact Nat.lt_irrefl _ (probed.trigger_new ▸ inside)
        exact (apart.triggers other old).trans (probed.triggers other old)
      deviceCount := by
        rw [apart.deviceCount, probed.deviceCount]
        exact Nat.le_succ _
      triggerCount := by
        rw [apart.triggerCount, probed.triggerCount]
        exact Nat.le_succ _ }

/-- **Where everything registered exists, every attempt hands the device back**, with its word
size set, and leaves no trace. -/
theorem attempt_undone {session : Session (Frontend σ) Unit} (sound : session.Sound) (device : σ)
    (id bus : String) :
    ∃ after, session.attempt device id bus =
        (some (Spi.WordSize.setWordSize device wordBits).2, after) ∧ Undone session after := by
  have absent : ⟨session.devices.size⟩ ∉ session.listed := fun member =>
    Nat.lt_irrefl _ (sound.listed _ member)
  rw [attempt]
  split
  · next failure after failed =>
      obtain ⟨handed, undone⟩ := probe_error absent failed
      exact ⟨after, Prod.ext handed rfl, undone⟩
  · next binding fresh bound => exact remove_undone sound (probe_ok bound)

end Session

/-! ## What a converter that was bound shows -/

namespace Supplies

/-- The voltage of the supply that the range is derived from. -/
def reference (supplies : Supplies) : Except Error Int :=
  (supplies.get referenceSupply).bind supplies.voltage

/-- Switching a regulator on changes no voltage. -/
theorem voltage_enable {supplies after : Supplies} {id : RegulatorId}
    (enabled : supplies.enable id = (.ok (), after)) (other : RegulatorId) :
    after.voltage other = supplies.voltage other := by
  rw [enable] at enabled
  split at enabled
  · cases enabled
  next regulator found =>
  simp only [Regulator.enable] at enabled
  split at enabled
  · cases enabled
  · cases enabled
    rw [voltage, regulator?_modify, voltage]
    by_cases same : other = id
    · rw [if_pos same, same, found, Option.map_some]
      rfl
    · rw [if_neg same]

end Supplies

/-- A converter that was just bound presents a fresh aspect. -/
theorem Session.Probed.presents {σ : Type} [Spi.WordSize σ] {device : σ} {id bus : String}
    {binding : Binding} {before after : Session (Frontend σ) Unit}
    (probed : Probed device id bus binding before after) :
    ∃ fresh trigger, Presents binding after
      (.fresh (Spi.WordSize.setWordSize device wordBits).2 binding.part bus
        before.supplies.reference) fresh trigger := by
  obtain ⟨number, made⟩ := probed.made
  obtain ⟨fresh, trigger, bound, _⟩ := probed.bound
  cases bound.device_at.symm.trans made
  let opened := newDevice binding (Spi.WordSize.setWordSize device wordBits).2 id number
  refine ⟨opened, trigger, ?_⟩
  exact
    { bound := bound
      converter := rfl
      bus := probed.named
      reference := by
        rw [Supplies.voltage_enable probed.enabled, Supplies.reference, Supplies.get, probed.supply]
        rfl
      capturing := rfl
      layout := rfl
      queues := Buffer.ofLength_queues 128 }

end Acquisition
