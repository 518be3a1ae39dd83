/-
# Acquisition.Proofs.Aspect — all that a bound converter's answers depend on

What comes back from a bound converter is worked out in a session, which holds other devices,
triggers and registries. None of these matter: an `Aspect` is the converter, the bus it was
bound under, the voltage of its supply, and what is queued of a capture, and it is used
without a session. A session presents an aspect (`Presents`) if that is what it holds for a
binding.

`Presents.useAll` says that a bound converter is used as its aspect is, with the same answers,
and goes on presenting what is left of it. All that is seen of a bound converter is therefore a
function of its aspect (`Presents.seen_eq`): two that present the same one cannot be told apart,
wherever their sessions come from.
-/
import Acquisition.Proofs.Bound

namespace Acquisition

open Acquisition.Converter (Part Problem)

set_option autoImplicit false

/-- What the answers of a bound converter depend on. -/
structure Aspect (σ : Type) where
  converter : Converter σ
  bus : String
  /-- The voltage of its supply. -/
  reference : Except Error Int
  capturing : Bool := false
  layout : RecordLayout := {}
  queued : List Scan := []

variable {σ : Type}

namespace Aspect

/-- A converter that was just bound. -/
def fresh (device : σ) (part : Part) (bus : String) (reference : Except Error Int) : Aspect σ :=
  { converter := { device, part }, bus, reference }

/-- What is queued once an edge has brought a result: a scan more, if it succeeded and there is
room for it. -/
def queue (aspect : Aspect σ) (result : Except Problem (List UInt16)) (time : Int64) : List Scan :=
  match result with
  | .ok payload =>
      if aspect.queued.length < 128 then
        aspect.queued ++ [⟨payload, if aspect.layout.timestamp then some time else none⟩]
      else aspect.queued
  | .error _ => aspect.queued

/-- Starts a capture; `none` if the timer breaks down over the name of the bus. -/
def start (aspect : Aspect σ) (mask : ScanMask) : Option (Except Error Unit × Aspect σ) :=
  let converter := aspect.converter
  if aspect.capturing then some (.error .busy, aspect)
  else
    match RecordLayout.ofMask? (channelsOf converter.part) mask with
    | none => some (.error .invalid, aspect)
    | some layout =>
        if Trigger.canName aspect.bus then
          let inputs := Frontend.inputsOf converter.part mask
          let converter :=
            { converter with scan := converter.scan.prepare inputs converter.settings }
          some (.ok (), { aspect with converter, capturing := true, layout, queued := [] })
        else none

section Traffic

variable [Spi.Device σ UInt16]

/-- An edge is a scan while a capture is on, and nothing otherwise. -/
def edge (aspect : Aspect σ) (time : Int64) : Option (Aspect σ) :=
  if aspect.capturing then
    aspect.converter.scanInputs.map fun (result, converter, _) =>
      { aspect with converter, queued := aspect.queue result time }
  else some aspect

/-- Reads an attribute of an input. -/
def read (aspect : Aspect σ) (input : Nat) (asked : Attribute) :
    Option (Except Error Value × Aspect σ) :=
  let part := aspect.converter.part
  if asked = .raw ∧ input < part.inputs then
    (aspect.converter.single (UInt8.ofNat input)).map fun (result, converter) =>
      (rawOf part result, { aspect with converter })
  else some (valueOf part input aspect.reference asked, aspect)

/-- Uses an aspect; `none` if its device or its timer broke down. -/
def use (aspect : Aspect σ) : Use → Option (Answer × Aspect σ)
  | .edge time | .tick time => (aspect.edge time).map fun next => (.done, next)
  | .read input asked =>
      (aspect.read input asked).map fun (result, next) => (.value result, next)
  | .enable inputs stamped =>
      if inputs.any fun input => aspect.converter.part.inputs ≤ input then
        some (.switched (.error .invalid), aspect)
      else
        (aspect.start (Binding.maskOf aspect.converter.part inputs stamped)).map
          fun (result, next) => (.switched result, next)
  | .capture mask => (aspect.start mask).map fun (result, next) => (.switched result, next)
  | .disable => some (.switched (.ok ()), { aspect with capturing := false })
  | .takeScan => some (.scan aspect.queued.head?, { aspect with queued := aspect.queued.tail })
  | .takeBytes size =>
      let count := size / aspect.layout.bytes
      some (.bytes ((aspect.queued.take count).flatMap aspect.layout.record),
        { aspect with queued := aspect.queued.drop count })

/-- Uses an aspect several times, one after the other. -/
def useAll : List Use → Aspect σ → Option (List Answer × Aspect σ)
  | [], aspect => some ([], aspect)
  | use :: rest, aspect =>
      (aspect.use use).bind fun (answer, aspect) =>
        (useAll rest aspect).map fun (answers, aspect) => (answer :: answers, aspect)

end Traffic

end Aspect

/-- All that is seen of a bound converter that is used: its answers, and the device on the bus
afterwards. -/
def Binding.seen [Spi.Device σ UInt16] (binding : Binding) (uses : List Use)
    (session : Session (Frontend σ) Unit) : Option (List Answer × Option σ) :=
  (binding.useAll uses session).map fun (answers, after) => (answers, binding.spi? after)

/-- A session that holds an aspect for a binding. -/
structure Presents (binding : Binding) (session : Session (Frontend σ) Unit) (aspect : Aspect σ)
    (device : Device (Frontend σ) Unit) (trigger : Trigger) : Prop where
  bound : Bound binding session device trigger
  converter : device.provider.converter = aspect.converter
  bus : binding.bus = aspect.bus
  reference : session.supplies.voltage device.provider.supply = aspect.reference
  capturing : device.capturing = aspect.capturing
  layout : device.buffer.layout = aspect.layout
  queues : device.buffer.Queues aspect.queued

/-- The same answer twice: once with a session, once with what that session presents. -/
def Binding.Matches {α : Type} (binding : Binding) (done : α × Session (Frontend σ) Unit)
    (seen : α × Aspect σ) : Prop :=
  done.1 = seen.1 ∧ ∃ device trigger, Presents binding done.2 seen.2 device trigger

/-- Answers that match go on matching when they are written down in the same way. -/
theorem Binding.matches_map {α β : Type} (binding : Binding) (write : α → β)
    {done : Option (α × Session (Frontend σ) Unit)} {seen : Option (α × Aspect σ)}
    (rel : Option.Rel binding.Matches done seen) :
    Option.Rel binding.Matches (done.map fun (answer, after) => (write answer, after))
      (seen.map fun (answer, next) => (write answer, next)) := by
  cases rel with
  | none => exact .none
  | some both => exact .some ⟨congrArg write both.1, both.2⟩

namespace Presents

variable {binding : Binding} {session : Session (Frontend σ) Unit} {aspect : Aspect σ}
  {device : Device (Frontend σ) Unit} {trigger : Trigger}

theorem part (presents : Presents binding session aspect device trigger) :
    aspect.converter.part = binding.part := by
  rw [← presents.converter]
  exact presents.bound.intact.part

/-- The voltage of the supply stays what it is while the supplies are kept. -/
theorem voltage (presents : Presents binding session aspect device trigger)
    {later : Session (Frontend σ) Unit}
    (kept : session.Keeps binding.device binding.trigger later) :
    later.supplies.voltage device.provider.supply = aspect.reference := by
  rw [kept.supplies]
  exact presents.reference

/-- A session that kept everything but its journal goes on presenting the aspect. -/
theorem moved (presents : Presents binding session aspect device trigger)
    {later : Session (Frontend σ) Unit}
    (kept : session.Keeps binding.device binding.trigger later)
    (bound : Bound binding later device trigger) :
    Presents binding later aspect device trigger :=
  { presents with
    bound
    reference := presents.voltage kept }

/-- **Starting a capture** does to the session what it does to the aspect. -/
theorem start [Spi.Device σ UInt16]
    (presents : Presents binding session aspect device trigger) (mask : ScanMask) :
    Option.Rel binding.Matches (session.enable binding.device mask) (aspect.start mask) := by
  rw [Aspect.start, presents.part]
  cases on : aspect.capturing with
  | true =>
      rw [presents.bound.enable_capturing (presents.capturing.trans on) mask]
      exact .some ⟨rfl, device, trigger, presents⟩
  | false =>
      have idle := presents.capturing.trans on
      simp only [Bool.false_eq_true, if_false]
      cases made : RecordLayout.ofMask? (channelsOf binding.part) mask with
      | none =>
          rw [presents.bound.enable_invalid idle made]
          exact .some ⟨rfl, device, trigger, presents⟩
      | some layout =>
          have enabled := presents.bound.enable_idle idle made
          rw [presents.bus] at enabled
          dsimp only
          split at enabled
          · next named =>
              obtain ⟨after, still, started, kept, running, _⟩ := enabled
              rw [started, if_pos named]
              refine .some ⟨rfl, device.started mask layout, still, ?_⟩
              exact
                { bound := running
                  converter := by
                    show (device.started mask layout).provider.converter = _
                    rw [← presents.bound.intact.part, ← presents.converter]
                    rfl
                  bus := presents.bus
                  reference := presents.voltage kept
                  capturing := rfl
                  layout := rfl
                  queues := device.buffer.configure_queues layout }
          · next unnamed =>
              rw [enabled, if_neg unnamed]
              exact .none

/-- What is queued after an edge that brought a result. -/
theorem queue [Spi.Device σ UInt16] (presents : Presents binding session aspect device trigger)
    (on : device.capturing = true) {result : Except Problem (List UInt16)}
    {converter : Converter σ} {lines : List LogLine}
    (scanned : device.provider.converter.scanInputs = some (result, converter, lines))
    (time : Int64) :
    (device.answered converter result time).buffer.layout = aspect.layout ∧
      (device.answered converter result time).buffer.Queues (aspect.queue result time) := by
  cases result with
  | error problem => exact ⟨presents.layout, presents.queues⟩
  | ok payload =>
      obtain ⟨queues, layout, _⟩ :=
        presents.bound.intact.pushed on scanned presents.queues time
      rw [presents.layout] at queues
      exact ⟨layout.trans presents.layout, queues⟩

/-- **An edge** does to the session what it does to the aspect. -/
theorem edge [Spi.Device σ UInt16] (presents : Presents binding session aspect device trigger)
    (time : Int64) :
    Option.Rel binding.Matches
      ((session.poll binding.trigger time).map fun after => (Answer.done, after))
      ((aspect.edge time).map fun next => (Answer.done, next)) := by
  rw [Aspect.edge]
  cases on : aspect.capturing with
  | false =>
      rw [presents.bound.poll_idle (presents.capturing.trans on) time]
      exact .some ⟨rfl, device, trigger, presents⟩
  | true =>
      have capturing := presents.capturing.trans on
      simp only [if_true]
      rw [← presents.converter]
      cases scanned : device.provider.converter.scanInputs with
      | none =>
          rw [presents.bound.poll_broken capturing time scanned]
          exact .none
      | some done =>
          obtain ⟨result, converter, lines⟩ := done
          obtain ⟨after, polled, kept, still⟩ := presents.bound.poll capturing time scanned
          obtain ⟨layout, queues⟩ := presents.queue capturing scanned time
          rw [polled]
          refine .some ⟨rfl, device.answered converter result time, trigger.handled, ?_⟩
          exact
            { bound := still
              converter := Device.answered_converter _ _ _ _
              bus := presents.bus
              reference := by
                rw [Device.answered_eq]
                exact presents.voltage kept
              capturing := (Device.answered_capturing _ _ _ _).trans capturing
              layout := layout
              queues := queues }

/-- **Reading** does to the session what it does to the aspect. -/
theorem read [Spi.Device σ UInt16] (presents : Presents binding session aspect device trigger)
    (input : Nat) (asked : Attribute) :
    Option.Rel binding.Matches (binding.read session input asked) (aspect.read input asked) := by
  rw [Aspect.read, presents.part]
  by_cases raw : asked = .raw ∧ input < binding.part.inputs
  · simp only [if_pos raw]
    obtain ⟨rfl, existing⟩ := raw
    rw [← presents.converter]
    cases single : device.provider.converter.single (UInt8.ofNat input) with
    | none =>
        rw [presents.bound.read_broken existing single]
        exact .none
    | some done =>
        obtain ⟨result, converter⟩ := done
        obtain ⟨after, answered, kept, still⟩ := presents.bound.read_raw existing single
        rw [answered]
        refine .some ⟨rfl, device.withConverter converter, trigger, ?_⟩
        exact
          { presents with
            bound := still
            converter := rfl
            reference := presents.voltage kept }
  · obtain ⟨after, answered, kept, still⟩ := presents.bound.read_other raw
    rw [answered, presents.reference]
    simp only [if_neg raw]
    exact .some ⟨rfl, device, trigger, presents.moved kept still⟩

/-- Scans that are taken leave the rest. -/
theorem taken (presents : Presents binding session aspect device trigger)
    {later : Session (Frontend σ) Unit} {ring : RingBuffer UInt8} {rest : List Scan}
    (kept : session.Keeps binding.device binding.trigger later)
    (bound : Bound binding later (device.withRing ring) trigger)
    (left : (device.withRing ring).buffer.Queues rest) :
    Presents binding later { aspect with queued := rest } (device.withRing ring) trigger :=
  { presents with
    bound := bound
    reference := presents.voltage kept
    queues := left }

/-- **One use of a bound converter is one use of its aspect**, with the same answer. -/
theorem use [Spi.Device σ UInt16] (presents : Presents binding session aspect device trigger)
    (use : Use) : Option.Rel binding.Matches (binding.use session use) (aspect.use use) := by
  cases use with
  | edge time => exact presents.edge time
  | tick time =>
      rw [Binding.use, presents.bound.tick_eq]
      exact presents.edge time
  | read input asked => exact binding.matches_map Answer.value (presents.read input asked)
  | enable inputs stamped =>
      rw [Binding.use, Binding.enable, Aspect.use, presents.part]
      split
      · exact .some ⟨rfl, device, trigger, presents⟩
      · exact binding.matches_map Answer.switched (presents.start _)
  | capture mask => exact binding.matches_map Answer.switched (presents.start mask)
  | disable =>
      obtain ⟨after, still, stopped, kept, off, _⟩ := presents.bound.disable
      rw [Binding.use, stopped]
      refine .some ⟨rfl, { device with capturing := false }, still, ?_⟩
      exact
        { presents with
          bound := off
          reference := presents.voltage kept
          capturing := rfl }
  | takeScan =>
      obtain ⟨ring, after, given, kept, still, left⟩ := presents.bound.readScan presents.queues
      rw [Binding.use, given]
      exact .some ⟨rfl, _, trigger, presents.taken kept still left⟩
  | takeBytes size =>
      obtain ⟨ring, after, given, kept, still, left⟩ :=
        presents.bound.readBytes presents.queues size
      rw [presents.layout] at given left
      rw [Binding.use, given]
      exact .some ⟨rfl, _, trigger, presents.taken kept still left⟩

/-- So it is for any number of uses. -/
theorem useAll [Spi.Device σ UInt16] (presents : Presents binding session aspect device trigger)
    (uses : List Use) :
    Option.Rel binding.Matches (binding.useAll uses session) (aspect.useAll uses) := by
  induction uses generalizing session aspect device trigger with
  | nil => exact .some ⟨rfl, device, trigger, presents⟩
  | cons first rest ih =>
      have once := presents.use first
      rw [Binding.useAll, Aspect.useAll]
      generalize binding.use session first = done at once ⊢
      generalize aspect.use first = seen at once ⊢
      cases once with
      | none => exact .none
      | @some done seen both =>
          obtain ⟨answer, after⟩ := done
          obtain ⟨seenAnswer, next⟩ := seen
          obtain ⟨same, device', trigger', still⟩ := both
          cases same
          exact binding.matches_map (answer :: ·) (ih still)

/-- The device on the bus is the one the aspect holds. -/
theorem spi?_eq (presents : Presents binding session aspect device trigger) :
    binding.spi? session = some aspect.converter.device := by
  rw [Binding.spi?, presents.bound.device_at, Option.map_some, presents.converter]

/-- **All that is seen of a bound converter is seen of its aspect.** -/
theorem seen_eq [Spi.Device σ UInt16] (presents : Presents binding session aspect device trigger)
    (uses : List Use) :
    binding.seen uses session =
      (aspect.useAll uses).map fun (answers, next) => (answers, some next.converter.device) := by
  have used := presents.useAll uses
  rw [Binding.seen]
  generalize binding.useAll uses session = done at used ⊢
  generalize aspect.useAll uses = seen at used ⊢
  cases used with
  | none => rfl
  | @some done seen both =>
      obtain ⟨same, device', trigger', still⟩ := both
      exact congrArg some (Prod.ext same still.spi?_eq)

end Presents

end Acquisition
