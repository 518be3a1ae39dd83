/-
# Acquisition.Proofs.Lifecycle — what converters that come and go leave behind

A `Fleet` is a session shared by converters that are bound and given up in any order, while
others hold on to their devices and the name of the supply is passed from regulator to
regulator. It keeps what each converter was bound under, seen from outside: the bus, and
the regulator the name of the supply stood for at that moment.

`books_balanced` says that the books are right after any number of steps: the registries hold
what was there before and one entry for each live converter, and each regulator is in use
once more for each live converter that was bound while it was the supply. A converter that
could not be bound left no trace, and one that is given up hands its device back unless
somebody holds on.
-/
import Acquisition.Proofs.Probe
import Acquisition.Spi.Script
import Mathlib.Data.List.Nodup

namespace Acquisition

set_option autoImplicit false

/-- What is told apart by its image is erased with it. -/
theorem map_erase_of_nodup {α β : Type} [DecidableEq α] [DecidableEq β] {f : α → β}
    {list : List α} (distinct : (list.map f).Nodup) {a : α} (member : a ∈ list) :
    (list.erase a).map f = (list.map f).erase (f a) := by
  induction list with
  | nil => simp at member
  | cons first rest ih =>
      by_cases here : first = a
      · subst here
        rw [List.erase_cons_head, List.map_cons, List.erase_cons_head]
      · have differs : f first ≠ f a := by
          intro same
          exact here (List.inj_on_of_nodup_map distinct List.mem_cons_self member same)
        rw [List.map_cons, List.nodup_cons] at distinct
        have later : a ∈ rest := by
          rcases List.mem_cons.1 member with rfl | later
          · exact absurd rfl here
          · exact later
        rw [List.erase_cons_tail (by simpa using here), List.map_cons, List.map_cons,
          List.erase_cons_tail (by simpa using differs), ih distinct.2 later]

/-! ## Fleets -/

/-- A converter that is bound, as whoever bound it knows it. -/
structure Tenant where
  binding : Binding
  /-- The bus it was bound under. -/
  bus : String
  /-- What the name of the supply stood for at that moment. -/
  supply : Option RegulatorId
  deriving DecidableEq

/-- A session shared by converters that come and go. -/
structure Fleet (σ : Type) where
  session : Session (Frontend σ) Unit
  /-- The converters that are bound, in the order they were bound. -/
  live : List Tenant := []
  /-- The devices somebody else holds on to, once for each time. -/
  held : List DeviceId := []

namespace Fleet

variable {σ : Type}

/-- The devices of the live converters. -/
def devices (fleet : Fleet σ) : List DeviceId :=
  fleet.live.map fun tenant => tenant.binding.device

/-- The triggers of the live converters. -/
def triggers (fleet : Fleet σ) : List TriggerId :=
  fleet.live.map fun tenant => tenant.binding.trigger

/-- How many live converters were bound while a regulator was the supply. -/
def supplied (fleet : Fleet σ) (id : RegulatorId) : Nat :=
  fleet.live.countP fun tenant => tenant.supply == some id

/-- One thing that happens to a fleet. -/
inductive Step [Spi.Device σ UInt16] [Spi.WordSize σ] : Fleet σ → Fleet σ → Prop where
  /-- A converter is bound. -/
  | bound {fleet : Fleet σ} {device : σ} {id bus : String} {binding : Binding}
      {after : Session (Frontend σ) Unit}
      (probed : fleet.session.probe device id bus = (.ok binding, after)) :
      Step fleet
        { fleet with
          session := after
          live := fleet.live ++ [⟨binding, bus, fleet.session.supplies.find? referenceSupply⟩] }
  /-- A converter could not be bound. -/
  | failed {fleet : Fleet σ} {device : σ} {id bus : String} {failure : ProbeFailure σ}
      {after : Session (Frontend σ) Unit}
      (refused : fleet.session.probe device id bus = (.error failure, after)) :
      Step fleet { fleet with session := after }
  /-- A converter is given up. -/
  | removed {fleet : Fleet σ} {tenant : Tenant} (live : tenant ∈ fleet.live) :
      Step fleet
        { fleet with
          session := (fleet.session.remove tenant.binding).2
          live := fleet.live.erase tenant }
  /-- A converter is used. -/
  | used {fleet : Fleet σ} {tenant : Tenant} {use : Use} {answer : Answer}
      {after : Session (Frontend σ) Unit} (live : tenant ∈ fleet.live)
      (done : tenant.binding.use fleet.session use = some (answer, after)) :
      Step fleet { fleet with session := after }
  /-- Somebody takes hold of the device of a converter. -/
  | taken {fleet : Fleet σ} {tenant : Tenant} (live : tenant ∈ fleet.live) :
      Step fleet
        { fleet with
          session := fleet.session.hold tenant.binding.device
          held := tenant.binding.device :: fleet.held }
  /-- Somebody lets go of a device. -/
  | dropped {fleet : Fleet σ} {id : DeviceId} (held : id ∈ fleet.held) :
      Step fleet
        { fleet with
          session := fleet.session.release id
          held := fleet.held.erase id }
  /-- A name is given to a regulator. -/
  | named {fleet : Fleet σ} (name : String) (id : RegulatorId) :
      Step fleet
        { fleet with
          session := { fleet.session with supplies := fleet.session.supplies.add name id } }
  /-- A name is taken away. -/
  | unnamed {fleet : Fleet σ} (name : String) :
      Step fleet
        { fleet with
          session := { fleet.session with supplies := (fleet.session.supplies.remove name).2 } }
  /-- A regulator changes, but is neither switched on nor off. -/
  | adjusted {fleet : Fleet σ} (id : RegulatorId) {change : Regulator → Regulator}
      (steady : ∀ regulator, (change regulator).useCount = regulator.useCount) :
      Step fleet
        { fleet with
          session := { fleet.session with supplies := fleet.session.supplies.modify id change } }

/-- Any number of steps. -/
inductive Reaches [Spi.Device σ UInt16] [Spi.WordSize σ] : Fleet σ → Fleet σ → Prop where
  | refl (fleet : Fleet σ) : Reaches fleet fleet
  | tail {first before after : Fleet σ} (reached : Reaches first before)
      (step : Step before after) : Reaches first after

/-- The books of a fleet that began with a session. -/
structure Balanced (foreign : Session (Frontend σ) Unit) (fleet : Fleet σ) : Prop where
  listed : fleet.session.listed = foreign.listed ++ fleet.devices
  software : fleet.session.software = foreign.software ++ fleet.triggers
  uses : ∀ id, fleet.session.supplies.uses id =
    (foreign.supplies.uses id).map (· + fleet.supplied id)
  /-- Every live converter is bound, and held once by itself and once by each holder. -/
  tenants : ∀ tenant ∈ fleet.live, ∃ device trigger,
    Bound tenant.binding fleet.session device trigger ∧
      device.holders = 1 + fleet.held.count tenant.binding.device
  buses : ∀ tenant ∈ fleet.live, tenant.binding.bus = tenant.bus
  supplies : ∀ tenant ∈ fleet.live, tenant.supply = some tenant.binding.supply ∧
    (foreign.supplies.uses tenant.binding.supply).isSome
  /-- Live converters have devices and triggers of their own. -/
  newDevices : ∀ id ∈ fleet.devices, foreign.devices.size ≤ id.index
  newTriggers : ∀ id ∈ fleet.triggers, foreign.triggers.size ≤ id.index
  distinctDevices : fleet.devices.Nodup
  distinctTriggers : fleet.triggers.Nodup
  holds : ∀ id ∈ fleet.held, foreign.devices.size ≤ id.index ∧
    id.index < fleet.session.devices.size
  /-- What was there before is untouched. -/
  devices : ∀ id : DeviceId, id.index < foreign.devices.size →
    fleet.session.device? id = foreign.device? id
  triggers : ∀ id : TriggerId, id.index < foreign.triggers.size →
    fleet.session.trigger? id = foreign.trigger? id
  deviceCount : foreign.devices.size ≤ fleet.session.devices.size
  triggerCount : foreign.triggers.size ≤ fleet.session.triggers.size

namespace Balanced

variable {foreign : Session (Frontend σ) Unit} {fleet : Fleet σ}

/-- At the beginning there are no live converters. -/
theorem start (foreign : Session (Frontend σ) Unit) : Balanced foreign { session := foreign } where
  listed := (List.append_nil _).symm
  software := (List.append_nil _).symm
  uses id := by
    have none : ({ session := foreign } : Fleet σ).supplied id = 0 := rfl
    simp [none]
  tenants := by simp
  buses := by simp
  supplies := by simp
  newDevices := by simp [Fleet.devices]
  newTriggers := by simp [Fleet.triggers]
  distinctDevices := List.nodup_nil
  distinctTriggers := List.nodup_nil
  holds := by simp
  devices _ _ := rfl
  triggers _ _ := rfl
  deviceCount := Nat.le_refl _
  triggerCount := Nat.le_refl _

/-- A step that binds nothing and gives nothing up has only the converters to look after. -/
theorem moved (balanced : Balanced foreign fleet) {after : Session (Frontend σ) Unit}
    {held : List DeviceId} (listed : after.listed = fleet.session.listed)
    (software : after.software = fleet.session.software)
    (uses : ∀ id, after.supplies.uses id = fleet.session.supplies.uses id)
    (tenants : ∀ tenant ∈ fleet.live, ∃ device trigger,
      Bound tenant.binding after device trigger ∧
        device.holders = 1 + held.count tenant.binding.device)
    (holds : ∀ id ∈ held, foreign.devices.size ≤ id.index ∧ id.index < after.devices.size)
    (devices : ∀ id : DeviceId, id.index < foreign.devices.size →
      after.device? id = fleet.session.device? id)
    (triggers : ∀ id : TriggerId, id.index < foreign.triggers.size →
      after.trigger? id = fleet.session.trigger? id)
    (deviceCount : fleet.session.devices.size ≤ after.devices.size)
    (triggerCount : fleet.session.triggers.size ≤ after.triggers.size) :
    Balanced foreign { fleet with session := after, held } :=
  { balanced with
    listed := listed.trans balanced.listed
    software := software.trans balanced.software
    uses := fun id => (uses id).trans (balanced.uses id)
    tenants := tenants
    holds := holds
    devices := fun id old => (devices id old).trans (balanced.devices id old)
    triggers := fun id old => (triggers id old).trans (balanced.triggers id old)
    deviceCount := Nat.le_trans balanced.deviceCount deviceCount
    triggerCount := Nat.le_trans balanced.triggerCount triggerCount }

theorem device_mem {tenant : Tenant} (live : tenant ∈ fleet.live) :
    tenant.binding.device ∈ fleet.devices :=
  List.mem_map_of_mem live

theorem trigger_mem {tenant : Tenant} (live : tenant ∈ fleet.live) :
    tenant.binding.trigger ∈ fleet.triggers :=
  List.mem_map_of_mem live

/-- The devices of live converters are there, and so are their triggers. -/
theorem device_lt (balanced : Balanced foreign fleet) :
    ∀ id ∈ fleet.devices, id.index < fleet.session.devices.size := by
  intro id member
  obtain ⟨tenant, live, rfl⟩ := List.mem_map.1 member
  obtain ⟨device, trigger, bound, _⟩ := balanced.tenants tenant live
  exact Session.index_lt_of_device? bound.device_at

theorem trigger_lt (balanced : Balanced foreign fleet) :
    ∀ id ∈ fleet.triggers, id.index < fleet.session.triggers.size := by
  intro id member
  obtain ⟨tenant, live, rfl⟩ := List.mem_map.1 member
  obtain ⟨device, trigger, bound, _⟩ := balanced.tenants tenant live
  exact Session.index_lt_of_trigger? bound.trigger_at

/-- Two live converters have different devices. -/
theorem device_ne (balanced : Balanced foreign fleet) {tenant other : Tenant}
    (live : tenant ∈ fleet.live) (alive : other ∈ fleet.live) (differs : other ≠ tenant) :
    other.binding.device ≠ tenant.binding.device :=
  fun same => differs (List.inj_on_of_nodup_map balanced.distinctDevices alive live same)

theorem trigger_ne (balanced : Balanced foreign fleet) {tenant other : Tenant}
    (live : tenant ∈ fleet.live) (alive : other ∈ fleet.live) (differs : other ≠ tenant) :
    other.binding.trigger ≠ tenant.binding.trigger :=
  fun same => differs (List.inj_on_of_nodup_map balanced.distinctTriggers alive live same)

/-- Changing the supplies concerns no device and no trigger. -/
theorem resupplied (balanced : Balanced foreign fleet) {supplies : Supplies}
    (uses : ∀ id, supplies.uses id = fleet.session.supplies.uses id) :
    Balanced foreign { fleet with session := { fleet.session with supplies } } := by
  refine balanced.moved rfl rfl uses ?_ balanced.holds (fun _ _ => rfl) (fun _ _ => rfl)
    (Nat.le_refl _) (Nat.le_refl _)
  intro tenant live
  obtain ⟨device, trigger, bound, holders⟩ := balanced.tenants tenant live
  exact ⟨device, trigger, bound.moved rfl rfl, holders⟩

/-- A failed attempt to bind a converter leaves the books as they are. -/
theorem undone (balanced : Balanced foreign fleet) {after : Session (Frontend σ) Unit}
    (undone : Session.Undone fleet.session after) :
    Balanced foreign { fleet with session := after } := by
  have old {bound total index : Nat} (low : bound ≤ total) (inside : index < bound) :
      index < total := Nat.lt_of_lt_of_le inside low
  refine balanced.moved undone.listed undone.software (fun id => by rw [undone.supplies]) ?_ ?_
    (fun id inside => undone.devices id (old balanced.deviceCount inside))
    (fun id inside => undone.triggers id (old balanced.triggerCount inside)) undone.deviceCount
    undone.triggerCount
  · intro tenant live
    obtain ⟨device, trigger, bound, holders⟩ := balanced.tenants tenant live
    refine ⟨device, trigger, bound.moved ?_ ?_, holders⟩
    · exact undone.devices _ (Session.index_lt_of_device? bound.device_at)
    · exact undone.triggers _ (Session.index_lt_of_trigger? bound.trigger_at)
  · intro id held
    obtain ⟨low, high⟩ := balanced.holds id held
    exact ⟨low, Nat.lt_of_lt_of_le high undone.deviceCount⟩

/-- A step that concerns one live converter leaves the others alone. -/
theorem touched (balanced : Balanced foreign fleet) {tenant : Tenant} (live : tenant ∈ fleet.live)
    {after : Session (Frontend σ) Unit} {held : List DeviceId}
    (keeps : fleet.session.Keeps tenant.binding.device tenant.binding.trigger after)
    (own : ∃ device trigger, Bound tenant.binding after device trigger ∧
      device.holders = 1 + held.count tenant.binding.device)
    (same : ∀ id, id ≠ tenant.binding.device → held.count id = fleet.held.count id)
    (known : ∀ id ∈ held, id = tenant.binding.device ∨ id ∈ fleet.held) :
    Balanced foreign { fleet with session := after, held } := by
  have newDevice := balanced.newDevices _ (device_mem live)
  have newTrigger := balanced.newTriggers _ (trigger_mem live)
  refine balanced.moved keeps.listed keeps.software (fun id => by rw [keeps.supplies]) ?_ ?_ ?_ ?_
    (Nat.le_of_eq keeps.deviceCount.symm) (Nat.le_of_eq keeps.triggerCount.symm)
  · intro other alive
    by_cases here : other = tenant
    · exact here ▸ own
    · obtain ⟨device, trigger, bound, holders⟩ := balanced.tenants other alive
      have apart := balanced.device_ne live alive here
      refine ⟨device, trigger, bound.moved (keeps.devices _ apart)
        (keeps.triggers _ (balanced.trigger_ne live alive here)), ?_⟩
      rw [holders, same _ apart]
  · intro id member
    rw [keeps.deviceCount]
    rcases known id member with rfl | old
    · obtain ⟨device, trigger, bound, _⟩ := balanced.tenants tenant live
      exact ⟨newDevice, Session.index_lt_of_device? bound.device_at⟩
    · exact balanced.holds id old
  · intro id inside
    apply keeps.devices
    rintro rfl
    exact absurd inside (Nat.not_lt.2 newDevice)
  · intro id inside
    apply keeps.triggers
    rintro rfl
    exact absurd inside (Nat.not_lt.2 newTrigger)

/-- Using a converter leaves the books as they are. -/
theorem used [Spi.Device σ UInt16] (balanced : Balanced foreign fleet) {tenant : Tenant}
    (live : tenant ∈ fleet.live) {use : Use} {answer : Answer}
    {after : Session (Frontend σ) Unit}
    (done : tenant.binding.use fleet.session use = some (answer, after)) :
    Balanced foreign { fleet with session := after } := by
  obtain ⟨device, trigger, bound, holders⟩ := balanced.tenants tenant live
  obtain ⟨keeps, device', trigger', still, follows⟩ := bound.use done
  exact balanced.touched live keeps ⟨device', trigger', still, follows.holders.trans holders⟩
    (fun _ _ => rfl) (fun _ member => .inr member)

/-- One more holder is one more entry. -/
theorem taken (balanced : Balanced foreign fleet) {tenant : Tenant} (live : tenant ∈ fleet.live) :
    Balanced foreign
      { fleet with
        session := fleet.session.hold tenant.binding.device
        held := tenant.binding.device :: fleet.held } := by
  obtain ⟨device, trigger, bound, holders⟩ := balanced.tenants tenant live
  obtain ⟨keeps, still⟩ := bound.modifyDevice
    (fun device => { device with holders := device.holders + 1 })
    (bound.intact.withHolders (Nat.succ_ne_zero _))
  refine balanced.touched live keeps ⟨_, trigger, still, ?_⟩ ?_ ?_
  · rw [List.count_cons_self, holders, Nat.add_assoc]
  · intro id differs
    exact List.count_cons_of_ne (Ne.symm differs)
  · intro id member
    exact List.mem_cons.1 member

/-- One holder less is one entry less. -/
theorem dropped (balanced : Balanced foreign fleet) {id : DeviceId} (held : id ∈ fleet.held) :
    Balanced foreign
      { fleet with session := fleet.session.release id, held := fleet.held.erase id } := by
  have some : 0 < fleet.held.count id := List.count_pos_iff.2 held
  by_cases owned : ∃ tenant ∈ fleet.live, tenant.binding.device = id
  · obtain ⟨tenant, live, rfl⟩ := owned
    obtain ⟨device, trigger, bound, holders⟩ := balanced.tenants tenant live
    obtain ⟨keeps, still⟩ := bound.modifyDevice
      (fun device => { device with holders := device.holders - 1 })
      (bound.intact.withHolders (by omega))
    refine balanced.touched live keeps ⟨_, trigger, still, ?_⟩ ?_ ?_
    · rw [List.count_erase_self]
      show device.holders - 1 = _
      omega
    · intro other differs
      exact List.count_erase_of_ne differs
    · intro other member
      exact .inr (List.mem_of_mem_erase member)
  · have free : ∀ tenant ∈ fleet.live, tenant.binding.device ≠ id :=
      fun tenant live same => owned ⟨tenant, live, same⟩
    have keeps : fleet.session.Keeps id ⟨0⟩ (fleet.session.release id) := .modifyDevice _ _
    have new := (balanced.holds id held).1
    refine balanced.moved rfl rfl (fun _ => rfl) ?_ ?_ ?_ (fun _ _ => rfl)
      (Nat.le_of_eq keeps.deviceCount.symm) (Nat.le_refl _)
    · intro tenant live
      obtain ⟨device, trigger, bound, holders⟩ := balanced.tenants tenant live
      refine ⟨device, trigger, bound.moved (keeps.devices _ (free tenant live)) rfl, ?_⟩
      rw [holders, List.count_erase_of_ne (free tenant live)]
    · intro other member
      rw [keeps.deviceCount]
      exact balanced.holds other (List.mem_of_mem_erase member)
    · intro other inside
      apply keeps.devices
      rintro rfl
      exact absurd inside (Nat.not_lt.2 new)

/-! ### Binding and giving up -/

/-- The number of the next device is not registered. -/
theorem fresh_device (sound : foreign.Sound) (balanced : Balanced foreign fleet) :
    ⟨fleet.session.devices.size⟩ ∉ fleet.session.listed := by
  intro member
  rw [balanced.listed] at member
  rcases List.mem_append.1 member with old | new
  · exact Nat.not_lt.2 balanced.deviceCount (sound.listed _ old)
  · exact Nat.lt_irrefl _ (balanced.device_lt _ new)

/-- **Binding a converter** is one more entry in each book. -/
theorem bound [Spi.WordSize σ] (sound : foreign.Sound) (balanced : Balanced foreign fleet)
    {device : σ} {id bus : String} {binding : Binding} {after : Session (Frontend σ) Unit}
    (probed : fleet.session.probe device id bus = (.ok binding, after)) :
    Balanced foreign
      { fleet with
        session := after
        live := fleet.live ++ [⟨binding, bus, fleet.session.supplies.find? referenceSupply⟩] } := by
  have done := Session.probe_ok probed
  obtain ⟨fresh, trigger, here, _, holders, _⟩ := done.bound
  obtain ⟨count, before, _, uses⟩ := Supplies.uses_enable done.enabled
  have newDevice : binding.device ∉ fleet.devices := by
    rw [done.device_new]
    exact fun member => Nat.lt_irrefl _ (balanced.device_lt _ member)
  have newTrigger : binding.trigger ∉ fleet.triggers := by
    rw [done.trigger_new]
    exact fun member => Nat.lt_irrefl _ (balanced.trigger_lt _ member)
  have unheld : fleet.held.count binding.device = 0 := by
    apply List.count_eq_zero.2
    intro member
    have inside := (balanced.holds _ member).2
    rw [done.device_new] at inside
    exact Nat.lt_irrefl _ inside
  let last : Tenant := ⟨binding, bus, fleet.session.supplies.find? referenceSupply⟩
  have devices : ({ fleet with session := after, live := fleet.live ++ [last] } : Fleet σ).devices =
      fleet.devices ++ [binding.device] := by simp [Fleet.devices, last]
  have triggers :
      ({ fleet with session := after, live := fleet.live ++ [last] } : Fleet σ).triggers =
        fleet.triggers ++ [binding.trigger] := by simp [Fleet.triggers, last]
  have supplied (id : RegulatorId) :
      ({ fleet with session := after, live := fleet.live ++ [last] } : Fleet σ).supplied id =
        fleet.supplied id + if id = binding.supply then 1 else 0 := by
    rw [Fleet.supplied, List.countP_append, List.countP_singleton, Fleet.supplied]
    by_cases same : id = binding.supply
    · simp [last, done.supply, same]
    · simp [last, done.supply, same, Ne.symm same]
  have absent : binding.device ∉ fleet.session.listed :=
    done.device_new ▸ balanced.fresh_device sound
  exact
    { listed := by rw [done.listed absent, balanced.listed, devices, List.append_assoc]
      software := by rw [done.software, balanced.software, triggers, List.append_assoc]
      uses := by
        intro id
        rw [uses, supplied]
        split
        · next same =>
            have booked := balanced.uses id
            rw [same, before] at booked
            obtain ⟨initial, found, counted⟩ := Option.map_eq_some_iff.1 booked.symm
            rw [same, found, Option.map_some, ← Nat.add_assoc, counted]
        · exact balanced.uses id
      tenants := by
        refine List.forall_mem_append.2 ⟨fun tenant live => ?_, List.forall_mem_singleton.2 ?_⟩
        · obtain ⟨device, trigger, bound, holders⟩ := balanced.tenants tenant live
          have otherDevice : tenant.binding.device ≠ binding.device :=
            fun same => newDevice (same ▸ device_mem live)
          have otherTrigger : tenant.binding.trigger ≠ binding.trigger :=
            fun same => newTrigger (same ▸ trigger_mem live)
          exact ⟨device, trigger, bound.moved (done.devices _ otherDevice)
            (done.triggers _ otherTrigger), holders⟩
        · exact ⟨fresh, trigger, here, by rw [holders, unheld]⟩
      buses := List.forall_mem_append.2
        ⟨balanced.buses, List.forall_mem_singleton.2 done.named⟩
      supplies := by
        refine List.forall_mem_append.2
          ⟨balanced.supplies, List.forall_mem_singleton.2 ⟨done.supply, ?_⟩⟩
        have booked := balanced.uses binding.supply
        rw [before] at booked
        obtain ⟨initial, found, _⟩ := Option.map_eq_some_iff.1 booked.symm
        rw [found, Option.isSome_some]
      newDevices := by
        rw [devices]
        refine List.forall_mem_append.2 ⟨balanced.newDevices, List.forall_mem_singleton.2 ?_⟩
        rw [done.device_new]
        exact balanced.deviceCount
      newTriggers := by
        rw [triggers]
        refine List.forall_mem_append.2 ⟨balanced.newTriggers, List.forall_mem_singleton.2 ?_⟩
        rw [done.trigger_new]
        exact balanced.triggerCount
      distinctDevices := by
        rw [devices, ← List.concat_eq_append]
        exact balanced.distinctDevices.concat newDevice
      distinctTriggers := by
        rw [triggers, ← List.concat_eq_append]
        exact balanced.distinctTriggers.concat newTrigger
      holds := by
        intro id held
        obtain ⟨low, high⟩ := balanced.holds id held
        refine ⟨low, ?_⟩
        rw [done.deviceCount]
        exact Nat.lt_succ_of_lt high
      devices := by
        intro id old
        rw [done.devices, balanced.devices id old]
        rintro rfl
        rw [done.device_new] at old
        exact absurd balanced.deviceCount (Nat.not_le.2 old)
      triggers := by
        intro id old
        rw [done.triggers, balanced.triggers id old]
        rintro rfl
        rw [done.trigger_new] at old
        exact absurd balanced.triggerCount (Nat.not_le.2 old)
      deviceCount := by
        rw [done.deviceCount]
        exact Nat.le_succ_of_le balanced.deviceCount
      triggerCount := by
        rw [done.triggerCount]
        exact Nat.le_succ_of_le balanced.triggerCount }

/-- What giving up a live converter does to the session. -/
theorem remove (sound : foreign.Sound) (balanced : Balanced foreign fleet) {tenant : Tenant}
    (live : tenant ∈ fleet.live) :
    ∃ count device trigger after, Bound tenant.binding fleet.session device trigger ∧
      fleet.session.supplies.uses tenant.binding.supply = some (count + 1) ∧
      fleet.session.remove tenant.binding =
        (if tenant.binding.device ∈ fleet.held then none
          else some device.provider.converter.device, after) ∧
      fleet.session.Apart tenant.binding.device tenant.binding.trigger after ∧
      after.listed = foreign.listed ++ fleet.devices.erase tenant.binding.device ∧
      after.software = foreign.software ++ fleet.triggers.erase tenant.binding.trigger ∧
      ∀ other, after.supplies.uses other =
        if other = tenant.binding.supply then some count
        else fleet.session.supplies.uses other := by
  obtain ⟨device, trigger, bound, holders⟩ := balanced.tenants tenant live
  obtain ⟨supplied, known⟩ := balanced.supplies tenant live
  have used : 0 < fleet.supplied tenant.binding.supply :=
    List.countP_pos_iff.2 ⟨tenant, live, by simp [supplied]⟩
  obtain ⟨initial, found⟩ := Option.isSome_iff_exists.1 known
  have booked : fleet.session.supplies.uses tenant.binding.supply =
      some (initial + fleet.supplied tenant.binding.supply - 1 + 1) := by
    rw [balanced.uses, found, Option.map_some, Nat.sub_add_cancel (by omega)]
  have mine := device_mem live
  have foreignDevice : tenant.binding.device ∉ foreign.listed := fun member =>
    Nat.not_lt.2 (balanced.newDevices _ mine) (sound.listed _ member)
  have foreignTrigger : tenant.binding.trigger ∉ foreign.software := fun member =>
    Nat.not_lt.2 (balanced.newTriggers _ (trigger_mem live)) (sound.software _ member)
  have listed : fleet.session.listed.erase tenant.binding.device =
      foreign.listed ++ fleet.devices.erase tenant.binding.device := by
    rw [balanced.listed, List.erase_append_right _ foreignDevice]
  have software : fleet.session.software.erase tenant.binding.trigger =
      foreign.software ++ fleet.triggers.erase tenant.binding.trigger := by
    rw [balanced.software, List.erase_append_right _ foreignTrigger]
  have once : tenant.binding.device ∉ fleet.session.listed.erase tenant.binding.device := by
    rw [listed, List.mem_append, not_or]
    exact ⟨foreignDevice, balanced.distinctDevices.not_mem_erase⟩
  obtain ⟨off, switched, _, uses⟩ := Supplies.uses_disable booked
  obtain ⟨after, gone, apart, lastListed, lastSoftware, rfl⟩ := Session.remove_bound bound
    (by rw [balanced.listed]; exact List.mem_append_right _ mine) once
    (by rw [balanced.software]; exact List.mem_append_right _ (trigger_mem live)) switched
  refine ⟨_, device, trigger, after, bound, booked, ?_, apart, lastListed.trans listed,
    lastSoftware.trans software, uses⟩
  simp only [gone, holders, Nat.add_sub_cancel_left, List.count_eq_zero, ite_not]

/-- **Giving a converter up** is one entry less in each book. -/
theorem removed (sound : foreign.Sound) (balanced : Balanced foreign fleet) {tenant : Tenant}
    (live : tenant ∈ fleet.live) :
    Balanced foreign
      { fleet with
        session := (fleet.session.remove tenant.binding).2
        live := fleet.live.erase tenant } := by
  obtain ⟨count, device, trigger, after, bound, used, gone, apart, listed, software, uses⟩ :=
    balanced.remove sound live
  let left : Fleet σ := { fleet with session := after, live := fleet.live.erase tenant }
  have devices : left.devices = fleet.devices.erase tenant.binding.device :=
    map_erase_of_nodup balanced.distinctDevices live
  have triggers : left.triggers = fleet.triggers.erase tenant.binding.trigger :=
    map_erase_of_nodup balanced.distinctTriggers live
  have supplied (id : RegulatorId) : fleet.supplied id =
      left.supplied id + if id = tenant.binding.supply then 1 else 0 := by
    rw [Fleet.supplied, (List.perm_cons_erase live).countP_eq, List.countP_cons,
      (balanced.supplies tenant live).1]
    by_cases same : id = tenant.binding.supply
    · simp [same, left, Fleet.supplied]
    · simp [same, Ne.symm same, left, Fleet.supplied]
  have own := balanced.newDevices _ (device_mem live)
  have ownTrigger := balanced.newTriggers _ (trigger_mem live)
  have others {other : Tenant} (member : other ∈ left.live) :
      other ∈ fleet.live ∧ other ≠ tenant := by
    have distinct : fleet.live.Nodup := balanced.distinctDevices.of_map _
    have apart := distinct.mem_erase_iff.1 member
    exact ⟨apart.2, apart.1⟩
  rw [gone]
  show Balanced foreign left
  exact
    { balanced with
      listed := by rw [devices]; exact listed
      software := by rw [triggers]; exact software
      uses := by
        intro id
        have booked := balanced.uses id
        rw [supplied] at booked
        show after.supplies.uses id = _
        rw [uses]
        split
        · next same =>
            rw [if_pos same, same, used] at booked
            obtain ⟨initial, found, counted⟩ := Option.map_eq_some_iff.1 booked.symm
            rw [← Nat.add_assoc] at counted
            rw [same, found, Option.map_some, Nat.succ.inj counted]
        · next differs =>
            rw [if_neg differs, Nat.add_zero] at booked
            exact booked
      tenants := by
        intro other member
        obtain ⟨alive, differs⟩ := others member
        obtain ⟨device', trigger', still, holders⟩ := balanced.tenants other alive
        have sameDevice := apart.devices _ (balanced.device_ne live alive differs)
        have sameTrigger := apart.triggers _ (balanced.trigger_ne live alive differs)
        exact ⟨device', trigger', still.moved sameDevice sameTrigger, holders⟩
      buses := fun other member => balanced.buses other (others member).1
      supplies := fun other member => balanced.supplies other (others member).1
      newDevices := by
        rw [devices]
        exact fun id member => balanced.newDevices id (List.mem_of_mem_erase member)
      newTriggers := by
        rw [triggers]
        exact fun id member => balanced.newTriggers id (List.mem_of_mem_erase member)
      distinctDevices := by
        rw [devices]
        exact balanced.distinctDevices.erase _
      distinctTriggers := by
        rw [triggers]
        exact balanced.distinctTriggers.erase _
      holds := fun id held =>
        ⟨(balanced.holds id held).1, apart.deviceCount ▸ (balanced.holds id held).2⟩
      devices := by
        intro id old
        refine (apart.devices id ?_).trans (balanced.devices id old)
        rintro rfl
        exact Nat.not_lt.2 own old
      triggers := by
        intro id old
        refine (apart.triggers id ?_).trans (balanced.triggers id old)
        rintro rfl
        exact Nat.not_lt.2 ownTrigger old
      deviceCount := Nat.le_trans balanced.deviceCount (Nat.le_of_eq apart.deviceCount.symm)
      triggerCount := Nat.le_trans balanced.triggerCount (Nat.le_of_eq apart.triggerCount.symm) }

/-- **One step keeps the books right.** -/
theorem step [Spi.Device σ UInt16] [Spi.WordSize σ] (sound : foreign.Sound) {after : Fleet σ}
    (balanced : Balanced foreign fleet) (step : Step fleet after) : Balanced foreign after := by
  cases step with
  | bound probed => exact balanced.bound sound probed
  | failed refused =>
      exact balanced.undone (Session.probe_error (balanced.fresh_device sound) refused).2
  | removed live => exact balanced.removed sound live
  | used live done => exact balanced.used live done
  | taken live => exact balanced.taken live
  | dropped held => exact balanced.dropped held
  | named name id => exact balanced.resupplied fun _ => rfl
  | unnamed name => exact balanced.resupplied fun _ => rfl
  | adjusted id steady =>
      refine balanced.resupplied fun other => ?_
      rw [Supplies.uses, Supplies.regulator?_modify]
      split
      · next same =>
          rw [Option.map_map]
          exact congrArg (Option.map · _) (funext steady)
      · rfl

/-- So do any number of steps. -/
theorem reaches [Spi.Device σ UInt16] [Spi.WordSize σ] (sound : foreign.Sound)
    (reached : Reaches { session := foreign } fleet) : Balanced foreign fleet := by
  induction reached with
  | refl => exact .start foreign
  | tail _ step ih => exact ih.step sound step

end Balanced

/-- **The books of a fleet.** After any number of steps, from a session with any devices and
software triggers in it: one device and one software trigger is registered for each live
converter besides those that were there before, the trigger under the name of the bus, and
each regulator is in use once more for each live converter that was bound while it was the
supply. An attempt to bind a converter that fails changes none of this and hands the device
back; giving one up hands its device back unless somebody holds on. -/
theorem books_balanced [Spi.Device σ UInt16] [Spi.WordSize σ] {foreign : Session (Frontend σ) Unit}
    (sound : foreign.Sound) {fleet : Fleet σ} (reached : Reaches { session := foreign } fleet) :
    (fleet.session.listed = foreign.listed ++ fleet.devices ∧ fleet.devices.Nodup ∧
      ∀ id ∈ fleet.devices, id ∉ foreign.listed) ∧
    (fleet.session.software = foreign.software ++ fleet.triggers ∧ fleet.triggers.Nodup ∧
      (∀ id ∈ fleet.triggers, id ∉ foreign.software) ∧
      (∀ id ∈ foreign.software, fleet.session.trigger? id = foreign.trigger? id) ∧
      ∀ tenant ∈ fleet.live,
        (fleet.session.trigger? tenant.binding.trigger).map Trigger.name = some tenant.bus) ∧
    (∀ id, fleet.session.supplies.uses id =
      (foreign.supplies.uses id).map (· + fleet.supplied id)) ∧
    (∀ (device : σ) (id bus : String) (failure : ProbeFailure σ)
      (after : Session (Frontend σ) Unit),
      fleet.session.probe device id bus = (.error failure, after) →
        failure.device = some (Spi.WordSize.setWordSize device wordBits).2 ∧
        after.listed = fleet.session.listed ∧ after.software = fleet.session.software ∧
        ∀ id, after.supplies.uses id = fleet.session.supplies.uses id) ∧
    ∀ tenant ∈ fleet.live, ∃ device, tenant.binding.spi? fleet.session = some device ∧
      (fleet.session.remove tenant.binding).1 =
        if tenant.binding.device ∈ fleet.held then none else some device := by
  have books := Balanced.reaches sound reached
  refine ⟨⟨books.listed, books.distinctDevices, ?_⟩,
    ⟨books.software, books.distinctTriggers, ?_, ?_, ?_⟩, books.uses, ?_, ?_⟩
  · intro id member listed
    exact Nat.not_lt.2 (books.newDevices id member) (sound.listed id listed)
  · intro id member software
    exact Nat.not_lt.2 (books.newTriggers id member) (sound.software id software)
  · intro id software
    exact books.triggers id (sound.software id software)
  · intro tenant live
    obtain ⟨device, trigger, bound, _⟩ := books.tenants tenant live
    rw [bound.trigger_at, Option.map_some, bound.intact.named, books.buses tenant live]
  · intro device id bus failure after failed
    obtain ⟨back, undone⟩ := Session.probe_error (books.fresh_device sound) failed
    exact ⟨back, undone.listed, undone.software, fun id => by rw [undone.supplies]⟩
  · intro tenant live
    obtain ⟨_, device, trigger, after, bound, _, gone, _⟩ := books.remove sound live
    refine ⟨device.provider.converter.device, ?_, congrArg Prod.fst gone⟩
    rw [Binding.spi?, bound.device_at, Option.map_some]

/-- A session with a device and a software trigger of somebody else, and two regulators. -/
def crowded : Session (Frontend (Spi.Script UInt16)) Unit where
  devices :=
    ⟨[{ name := "ti-ads7950"
        channels := []
        provider := ⟨{ device := {}, part := .ads7950 }, ⟨0⟩, "spi0.0"⟩ }]⟩
  triggers := ⟨[{ name := "spi0.0", source := .timed {} }]⟩
  listed := [⟨0⟩]
  software := [⟨0⟩]
  supplies :=
    { regulators := ⟨[{ microvolts := 2500000, useCount := 3 }, { microvolts := 5000000 }]⟩
      named := [(referenceSupply, ⟨0⟩)] }

/-- The converter bound first, and the one bound after the supply was replaced. -/
def earlier : Tenant :=
  ⟨⟨⟨1⟩, ⟨1⟩, ⟨0⟩, "spi0.1", .ads7953⟩, "spi0.1", some ⟨0⟩⟩

def later : Tenant :=
  ⟨⟨⟨2⟩, ⟨2⟩, ⟨1⟩, "spi0.2", .ads7961⟩, "spi0.2", some ⟨1⟩⟩

theorem supply_replaced :
    ∃ fleet : Fleet (Spi.Script UInt16), Reaches { session := crowded } fleet ∧
      fleet.session.listed = [⟨0⟩, ⟨2⟩] ∧ fleet.session.software = [⟨0⟩, ⟨2⟩] ∧
      fleet.session.supplies.uses ⟨0⟩ = some 3 ∧ fleet.session.supplies.uses ⟨1⟩ = some 1 ∧
      (fleet.session.remove later.binding).1 = none := by
  let first := (crowded.probe {} "ti-ads7953" "spi0.1").2
  let second := { first with supplies := first.supplies.add referenceSupply ⟨1⟩ }
  let third := (second.probe {} "ti-ads7961" "spi0.2").2
  have one : crowded.probe {} "ti-ads7953" "spi0.1" = (.ok earlier.binding, first) :=
    Session.probe_of_toOption (by decide +kernel)
  have two : second.probe {} "ti-ads7961" "spi0.2" = (.ok later.binding, third) :=
    Session.probe_of_toOption (by decide +kernel)
  have bound : Reaches { session := crowded } { session := first, live := [earlier] } := by
    have step : Step { session := crowded } _ := .bound one
    rw [show crowded.supplies.find? referenceSupply = some ⟨0⟩ by decide +kernel] at step
    exact (Reaches.refl _).tail step
  have replaced : Reaches { session := crowded } { session := second, live := [earlier] } :=
    bound.tail (.named referenceSupply ⟨1⟩)
  have both : Reaches { session := crowded } { session := third, live := [earlier, later] } := by
    have step : Step { session := second, live := [earlier] } _ := .bound two
    rw [show second.supplies.find? referenceSupply = some ⟨1⟩ from
      Supplies.find?_add_self _ _ _] at step
    exact replaced.tail step
  have taken : Reaches { session := crowded } _ :=
    both.tail (.taken (List.mem_cons_of_mem _ List.mem_cons_self))
  have reached : Reaches { session := crowded } _ := taken.tail (.removed List.mem_cons_self)
  have sound : crowded.Sound := ⟨by decide, by decide⟩
  obtain ⟨⟨listed, _⟩, ⟨software, _⟩, uses, _, removed⟩ := books_balanced sound reached
  obtain ⟨device, _, kept⟩ := removed later (by decide)
  refine ⟨_, reached, listed, software, ?_, ?_, kept.trans ?_⟩
  · rw [uses]
    decide
  · rw [uses]
    decide
  · exact if_pos List.mem_cons_self

end Fleet

end Acquisition
