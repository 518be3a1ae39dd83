/-
# Acquisition.Proofs.Programming — what is programmed is what is recorded

The number of samples in a record is worked out twice: from the channel table, when the buffer
is configured, and from the part, when the scan is prepared. `captures_exactly` says that the two
agree for every mask and every list of inputs: a bound converter either turns the request down and
nothing changes, or it scans exactly the inputs asked for, and each record has one sample for each
of them. This goes on being so, whatever the converter is used for, until the capture is stopped.
-/
import Acquisition.Proofs.Conservation
import Acquisition.Proofs.Outline
import Acquisition.Spi.Logged
import Mathlib.Data.List.Sort

namespace Acquisition

open Acquisition.Converter (Part Problem command pipelineWords)

set_option autoImplicit false

/-! ## Masks a part can capture -/

namespace Converter.Part

/-- Whether a part can capture a mask: each index is an input of the part or the time, and at
least one is an input. -/
def CanCapture (part : Part) (mask : ScanMask) : Prop :=
  (∀ index ∈ mask.toList, index ≤ part.inputs) ∧ ∃ index ∈ mask.toList, index < part.inputs

instance (part : Part) (mask : ScanMask) : Decidable (part.CanCapture mask) :=
  inferInstanceAs (Decidable (_ ∧ _))

/-- The inputs of a part that are asked for, lowest first. -/
def chosen (part : Part) (asked : Nat → Bool) : List Nat :=
  (List.range part.inputs).filter asked

theorem mem_chosen {part : Part} {asked : Nat → Bool} {input : Nat} :
    input ∈ part.chosen asked ↔ input < part.inputs ∧ asked input = true := by
  rw [chosen, List.mem_filter, List.mem_range]

/-- The inputs in a mask, counted up from the first input or taken out of the mask. -/
theorem filter_toList (part : Part) (mask : ScanMask) :
    (mask.toList.filter fun index => index < part.inputs) = part.chosen mask.contains := by
  refine List.Pairwise.eq_of_mem_iff (mask.toList_sorted.filter _)
    (List.pairwise_lt_range.filter _) fun index => ?_
  rw [List.mem_filter, ScanMask.mem_toList, decide_eq_true_iff, and_comm]
  exact mem_chosen.symm

/-- Inputs of a part in ascending order are chosen as they are listed. -/
theorem chosen_contains {part : Part} {inputs : List Nat}
    (sorted : inputs.Pairwise (· < ·)) (inside : ∀ input ∈ inputs, input < part.inputs) :
    part.chosen inputs.contains = inputs := by
  refine List.Pairwise.eq_of_mem_iff (List.pairwise_lt_range.filter _) sorted fun input => ?_
  refine mem_chosen.trans ?_
  rw [List.contains_iff_mem]
  exact and_iff_right_of_imp (inside input)

end Converter.Part

namespace RecordLayout

/-- **A mask has a layout just if the part can capture it.** -/
theorem isSome_ofMask?_channelsOf (part : Part) (mask : ScanMask) :
    (ofMask? (channelsOf part) mask).isSome ↔ part.CanCapture mask := by
  have placed := isSome_foldlM_extend (channelsOf part) mask.toList {}
  simp only [isSome_kindAt?] at placed
  rw [ofMask?, Part.CanCapture, ← placed]
  cases folded : mask.toList.foldlM (extend (channelsOf part)) {} with
  | none => simp
  | some layout =>
      have samples := (foldlM_extend folded).1
      simp only [kindAt?_eq_voltage, Nat.zero_add] at samples
      rw [Option.isSome_filter, Option.any_some, bne_iff_ne, samples, Option.isSome_some,
        ← Nat.pos_iff_ne_zero, List.countP_pos_iff]
      simp

end RecordLayout

/-! ## What a capture records -/

section Records

variable {σ : Type} [Spi.Device σ UInt16]

/-- A device whose capture takes the listed inputs, with the time if it is wanted: the scan sends
their commands and no other, and each record has a sample for each. -/
structure Device.Records (device : Device (Frontend σ) Unit) (inputs : List Nat) (stamped : Bool) :
    Prop where
  capturing : device.capturing = true
  listed : inputs ≠ []
  programmed : device.provider.converter.scan.inputs.toList = inputs.map UInt8.ofNat
  commands : device.provider.converter.scan.commands =
    (inputs.map fun input => command (UInt8.ofNat input) .standard) ++
      List.replicate pipelineWords 0
  samples : device.buffer.layout.samples = inputs.length
  timestamp : device.buffer.layout.timestamp = stamped
  /-- Every scan that succeeds brings as many words as a record has samples. -/
  scanned : ∀ payload converter lines,
    device.provider.converter.scanInputs = some (.ok payload, converter, lines) →
      payload.length = device.buffer.layout.samples

/-- A session in which the capture of a binding takes the listed inputs, and goes on doing so
until it is stopped. -/
def Binding.Records (binding : Binding) (inputs : List Nat) (stamped : Bool)
    (session : Session (Frontend σ) Unit) : Prop :=
  ∀ uses answers later, .disable ∉ uses → binding.useAll uses session = some (answers, later) →
    ∃ device, later.device? binding.device = some device ∧ device.Records inputs stamped

variable {binding : Binding} {session : Session (Frontend σ) Unit}
  {device : Device (Frontend σ) Unit} {trigger : Trigger}

/-- While a capture is on, what was prepared for its mask is what its mask says. -/
theorem Intact.records (intact : Intact binding device trigger)
    (capturing : device.capturing = true) :
    device.Records (binding.part.chosen device.mask.contains)
      (device.mask.contains binding.part.inputs) := by
  obtain ⟨programmed, inputs, layout⟩ := intact.prepared capturing
  rw [intact.channels] at layout
  obtain ⟨samples, positive, timestamp⟩ := RecordLayout.ofMask?_channelsOf layout
  rw [intact.part] at inputs
  rw [Frontend.count_inputsOf, binding.part.filter_toList] at samples
  have listed : device.provider.converter.scan.inputs.toList =
      (binding.part.chosen device.mask.contains).map UInt8.ofNat := by
    rw [inputs, Frontend.toList_inputsOf, binding.part.filter_toList]
  refine ⟨capturing, ?_, listed, ?_, samples, ?_, ?_⟩
  · rw [← List.length_pos_iff, ← samples]
    exact positive
  · rw [programmed, listed, List.map_map]
    rfl
  · rw [timestamp, Bool.eq_iff_iff, List.contains_iff_mem, ScanMask.mem_toList]
  · exact fun payload converter lines scanned => intact.length_payload capturing scanned

/-- No use but stopping it ends a capture or changes its mask. -/
theorem Bound.use_capturing (bound : Bound binding session device trigger)
    (capturing : device.capturing = true) {use : Use} (going : use ≠ .disable) {answer : Answer}
    {later : Session (Frontend σ) Unit} (used : binding.use session use = some (answer, later)) :
    ∃ device' trigger', Bound binding later device' trigger' ∧ device'.capturing = true ∧
      device'.mask = device.mask := by
  have polled (time : Int64) (raised : session.poll binding.trigger time = some later) :
      ∃ device' trigger', Bound binding later device' trigger' ∧ device'.capturing = true ∧
        device'.mask = device.mask := by
    cases scanned : device.provider.converter.scanInputs with
    | none =>
        rw [bound.poll_broken capturing time scanned] at raised
        cases raised
    | some done =>
        obtain ⟨result, converter, lines⟩ := done
        obtain ⟨after, handled, _, still⟩ := bound.poll capturing time scanned
        cases handled.symm.trans raised
        exact ⟨_, _, still, (device.answered_capturing converter result time).trans capturing,
          device.answered_mask converter result time⟩
  have unchanged (same : later = session) :
      ∃ device' trigger', Bound binding later device' trigger' ∧ device'.capturing = true ∧
        device'.mask = device.mask :=
    ⟨device, trigger, same ▸ bound, capturing, rfl⟩
  cases use with
  | edge time =>
      obtain ⟨after, raised, same⟩ := Option.map_eq_some_iff.1 used
      cases same
      exact polled time raised
  | tick time =>
      obtain ⟨after, raised, same⟩ := Option.map_eq_some_iff.1 used
      cases same
      exact polled time ((bound.tick_eq time).symm.trans raised)
  | read input asked =>
      obtain ⟨⟨result, after⟩, answered, same⟩ := Option.map_eq_some_iff.1 used
      cases same
      by_cases raw : asked = .raw ∧ input < binding.part.inputs
      · obtain ⟨rfl, existing⟩ := raw
        cases single : device.provider.converter.single (UInt8.ofNat input) with
        | none =>
            rw [bound.read_broken existing single] at answered
            cases answered
        | some done =>
            obtain ⟨outcome, converter⟩ := done
            obtain ⟨after, read, _, still⟩ := bound.read_raw existing single
            cases read.symm.trans answered
            exact ⟨_, _, still, capturing, rfl⟩
      · obtain ⟨after, read, _, still⟩ := bound.read_other raw
        cases read.symm.trans answered
        exact ⟨device, trigger, still, capturing, rfl⟩
  | enable inputs timestamp =>
      obtain ⟨⟨result, after⟩, asked, same⟩ := Option.map_eq_some_iff.1 used
      cases same
      rw [Binding.enable, bound.enable_capturing capturing] at asked
      split at asked
      · cases asked
        exact unchanged rfl
      · cases asked
        exact unchanged rfl
  | capture mask =>
      obtain ⟨⟨result, after⟩, asked, same⟩ := Option.map_eq_some_iff.1 used
      cases same
      cases (bound.enable_capturing capturing mask).symm.trans asked
      exact unchanged rfl
  | disable => exact absurd rfl going
  | takeScan =>
      obtain ⟨scans, queues⟩ := bound.intact.queued
      obtain ⟨ring, after, taken, _, still, _⟩ := bound.readScan queues
      simp only [Binding.use, taken] at used
      cases used
      exact ⟨_, trigger, still, capturing, rfl⟩
  | takeBytes size =>
      obtain ⟨scans, queues⟩ := bound.intact.queued
      obtain ⟨ring, after, taken, _, still, _⟩ := bound.readBytes queues size
      simp only [Binding.use, taken] at used
      cases used
      exact ⟨_, trigger, still, capturing, rfl⟩

/-- **A capture goes on recording what it was started for**, until it is stopped. -/
theorem Bound.records (bound : Bound binding session device trigger)
    (capturing : device.capturing = true) :
    binding.Records (binding.part.chosen device.mask.contains)
      (device.mask.contains binding.part.inputs) session := by
  intro uses
  induction uses generalizing session device trigger with
  | nil =>
      intro answers later _ used
      cases used
      exact ⟨device, bound.device_at, bound.intact.records capturing⟩
  | cons use rest ih =>
      intro answers later going used
      rw [Binding.useAll] at used
      split at used
      · cases used
      · next answer middle first =>
          have here : use ≠ .disable := fun same => going (same ▸ List.mem_cons_self)
          have others : .disable ∉ rest := fun member => going (List.mem_cons_of_mem _ member)
          obtain ⟨device', trigger', still, on, mask⟩ := bound.use_capturing capturing here first
          obtain ⟨⟨replies, ended⟩, remaining, same⟩ := Option.map_eq_some_iff.1 used
          cases same
          rw [← mask]
          exact ih still on replies _ others remaining

/-! ## Starting a capture -/

/-- A bound converter that is idle takes every mask that its part can capture, and no other. -/
theorem Bound.enable_mask (bound : Bound binding session device trigger)
    (idle : device.capturing = false) (named : Trigger.canName binding.bus = true)
    (mask : ScanMask) :
    (binding.part.CanCapture mask → ∃ started,
      session.enable binding.device mask = some (.ok (), started) ∧
      binding.Records (binding.part.chosen mask.contains) (mask.contains binding.part.inputs)
        started) ∧
    (¬ binding.part.CanCapture mask →
      session.enable binding.device mask = some (.error .invalid, session)) := by
  rw [← RecordLayout.isSome_ofMask?_channelsOf]
  cases made : RecordLayout.ofMask? (channelsOf binding.part) mask with
  | none => exact ⟨nofun, fun _ => bound.enable_invalid idle made⟩
  | some layout =>
      have switched := bound.enable_idle idle made
      rw [if_pos named] at switched
      obtain ⟨started, still, asked, _, running, _⟩ := switched
      exact ⟨fun _ => ⟨started, asked, running.records rfl⟩, fun none => absurd rfl none⟩

/-- Listed inputs are those of the mask made of them. -/
theorem Binding.chosen_maskOf {part : Part} {inputs : List Nat}
    (inside : ∀ input ∈ inputs, input < part.inputs) (stamped : Bool) :
    part.chosen (maskOf part inputs stamped).contains = part.chosen inputs.contains := by
  refine List.filter_congr fun input member => ?_
  have below := List.mem_range.1 member
  rw [Bool.eq_iff_iff, ← ScanMask.mem_toList, mem_maskOf inside, List.contains_iff_mem]
  exact or_iff_left fun last => Nat.ne_of_lt below last.2

/-- A part can capture the mask of its inputs just if there are any. -/
theorem Binding.canCapture_maskOf {part : Part} {inputs : List Nat}
    (inside : ∀ input ∈ inputs, input < part.inputs) (stamped : Bool) :
    part.CanCapture (maskOf part inputs stamped) ↔ inputs ≠ [] := by
  constructor
  · rintro ⟨_, input, member, below⟩ rfl
    rw [mem_maskOf inside] at member
    rcases member with listed | ⟨_, last⟩
    · cases listed
    · exact Nat.ne_of_lt below last
  · intro some
    obtain ⟨input, member⟩ := List.exists_mem_of_ne_nil inputs some
    refine ⟨fun index listed => ?_, input, (mem_maskOf inside _ _).2 (.inl member),
      inside input member⟩
    rcases (mem_maskOf inside _ _).1 listed with asked | ⟨_, last⟩
    · exact Nat.le_of_lt (inside index asked)
    · exact Nat.le_of_eq last

/-- It takes every list of its inputs that is not empty, and no other. -/
theorem Bound.enable_inputs (bound : Bound binding session device trigger)
    (idle : device.capturing = false) (named : Trigger.canName binding.bus = true)
    (inputs : List Nat) (stamped : Bool) :
    (inputs ≠ [] ∧ (∀ input ∈ inputs, input < binding.part.inputs) → ∃ started,
      binding.enable session inputs stamped = some (.ok (), started) ∧
      binding.Records (binding.part.chosen inputs.contains) stamped started) ∧
    (¬ (inputs ≠ [] ∧ ∀ input ∈ inputs, input < binding.part.inputs) →
      binding.enable session inputs stamped = some (.error .invalid, session)) := by
  obtain ⟨taken, refused⟩ :=
    bound.enable_mask idle named (Binding.maskOf binding.part inputs stamped)
  by_cases inside : ∀ input ∈ inputs, input < binding.part.inputs
  · have asked : binding.enable session inputs stamped =
        session.enable binding.device (Binding.maskOf binding.part inputs stamped) :=
      if_neg (by simpa using inside)
    have stamp : (Binding.maskOf binding.part inputs stamped).contains binding.part.inputs =
        stamped := by
      refine Eq.trans ?_ (Binding.contains_maskOf inside stamped)
      rw [Bool.eq_iff_iff, List.contains_iff_mem, ScanMask.mem_toList]
    rw [Binding.canCapture_maskOf inside, Binding.chosen_maskOf inside, stamp, ← asked] at taken
    rw [Binding.canCapture_maskOf inside, ← asked] at refused
    exact ⟨fun both => taken both.1, fun none => refused fun some => none ⟨some, inside⟩⟩
  · refine ⟨fun both => absurd both.2 inside, fun _ => if_pos ?_⟩
    simpa using inside

end Records

/-- **What is programmed is what is recorded.** Take a converter that was bound, was used in any
way and is idle, on a bus whose name a timer can run under. It captures every mask with an input
of the part in it and nothing but inputs and the time: with one command for each of the inputs,
and records with a sample for each and the time just if it is in the mask. Every other mask is
turned down and leaves the session as it was. The same goes for a list of inputs, in any order
and with any repeated, if it is not empty and names no input that is not there. -/
theorem captures_exactly {σ : Type} [Spi.Device σ UInt16] [Spi.WordSize σ]
    {session fresh idle : Session (Frontend σ) Unit} {device : σ} {id bus : String}
    {binding : Binding} (probed : session.probe device id bus = (.ok binding, fresh))
    {earlier : List Use} {answered : List Answer}
    (used : binding.useAll earlier fresh = some (answered, idle))
    (resting : idle.capturing binding.device = false)
    (named : Trigger.canName binding.bus = true) :
    (∀ mask,
      (binding.part.CanCapture mask → ∃ started,
        idle.enable binding.device mask = some (.ok (), started) ∧
        binding.Records (binding.part.chosen mask.contains) (mask.contains binding.part.inputs)
          started) ∧
      (¬ binding.part.CanCapture mask →
        idle.enable binding.device mask = some (.error .invalid, idle))) ∧
    ∀ inputs stamped,
      (inputs ≠ [] ∧ (∀ input ∈ inputs, input < binding.part.inputs) → ∃ started,
        binding.enable idle inputs stamped = some (.ok (), started) ∧
        binding.Records (binding.part.chosen inputs.contains) stamped started) ∧
      (¬ (inputs ≠ [] ∧ ∀ input ∈ inputs, input < binding.part.inputs) →
        binding.enable idle inputs stamped = some (.error .invalid, idle)) := by
  obtain ⟨_, _, bound, _⟩ := (Session.probe_ok probed).bound
  obtain ⟨paused, trigger, ready, _⟩ := bound.useAll used
  rw [Session.capturing, ready.device_at, Option.any_some] at resting
  exact ⟨ready.enable_mask resting named, ready.enable_inputs resting named⟩

/-- The words that an edge sends while the inputs 1 and 3 are captured. -/
example :
    let lit : Session (Frontend (Spi.Logged (Spi.Script UInt16))) Unit :=
      { supplies := bench.supplies }
    let fresh := (lit.probe { device := { replies := [0x1111] } } "ti-ads7950" "spi0.1").2
    (onBench.useAll [.enable [3, 1, 3] false, .edge 10] fresh).bind (fun done =>
      (onBench.spi? done.2).map fun device => device.log.map Spi.Transaction.operations) =
      some [[.transfer 1 [0x18C0]], [.transfer 1 [0x19C0]], [.transfer 1 [0]],
        [.transfer 1 [0]]] := by
  decide +kernel

/-- A capture with a failure in it, stopped, and one that was turned down. -/
def restless : List Use :=
  [.enable [2] false, .edge 10, .edge 20, .edge 30, .disable, .capture (.ofList [4])]

/-- A part of four inputs: inputs 0 and 2 are captured with the time, or inputs 1 and 3; a mask
of the time alone and an input far outside are turned down. -/
theorem restless_captures : ∃ idle : Session (Frontend (Spi.Script UInt16)) Unit,
    (∃ started, idle.enable onBench.device (.ofList [4, 2, 0]) = some (.ok (), started) ∧
      onBench.Records [0, 2] true started) ∧
    (∃ started, onBench.enable idle [3, 1, 3] false = some (.ok (), started) ∧
      onBench.Records [1, 3] false started) ∧
    idle.enable onBench.device (.ofList [4]) = some (.error .invalid, idle) ∧
    onBench.enable idle [1, 4294967295] false = some (.error .invalid, idle) := by
  let fresh := (bench.probe faltering "ti-ads7950" "spi0.1").2
  have probed : bench.probe faltering "ti-ads7950" "spi0.1" = (.ok onBench, fresh) :=
    Session.probe_of_toOption (by decide +kernel)
  have ran : ((onBench.useAll restless fresh).any fun done =>
      done.2.capturing onBench.device = false) = true := by
    decide +kernel
  obtain ⟨⟨answered, idle⟩, used, resting⟩ := (Option.any_eq_true _ _).1 ran
  obtain ⟨masks, lists⟩ :=
    captures_exactly probed used (of_decide_eq_true resting) (by decide +kernel)
  exact ⟨idle, (masks (.ofList [4, 2, 0])).1 (by decide +kernel),
    (lists [3, 1, 3] false).1 (by decide +kernel), (masks (.ofList [4])).2 (by decide +kernel),
    (lists [1, 4294967295] false).2 (by decide +kernel)⟩

end Acquisition
