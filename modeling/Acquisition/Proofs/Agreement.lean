/-
# Acquisition.Proofs.Agreement — reading an input and capturing it come to the same

An input is read with an exchange of its own, three frames long, and what comes back is cut
out of the received word by masking the tag and shifting. A capture receives it with the
other inputs in one long exchange, and its sample is taken apart by the format of its channel.
`code_eq_decode` says that the two ways of taking a word apart agree for every word;
`direct_eq_buffered` says that the two ways of receiving it do, whatever was done with the
converter before, as long as the voltages at its inputs stay what they are.

The channel of the time is listed among the channels too. Its format is that of a whole
number with nothing beside it, so `code_eq_decode` is not about it (`stamp_decode`).
-/
import Acquisition.Proofs.Steady

namespace Acquisition

open Acquisition.Converter (Part Response SimulatedPart)

set_option autoImplicit false

/-! ## Taking a word apart -/

theorem toNat_decode (format : SampleFormat) (word : UInt16) :
    (format.decode word).toNat = word.toNat / 2 ^ format.shift % 2 ^ format.realBits := by
  have small : word.toNat / 2 ^ format.shift % 2 ^ format.realBits < 2 ^ 16 := by
    have less := Nat.mod_le (word.toNat / 2 ^ format.shift) (2 ^ format.realBits)
    have fewer := Nat.div_le_self word.toNat (2 ^ format.shift)
    have least := word.toNat_lt
    omega
  exact UInt16.toNat_ofNat_of_lt' small

/-- What a word is decoded to has no more bits than its format says. -/
theorem decode_le (format : SampleFormat) (word : UInt16) :
    (format.decode word).toNat ≤ 2 ^ format.realBits - 1 := by
  rw [toNat_decode]
  exact Nat.le_pred_of_lt (Nat.mod_lt _ (Nat.two_pow_pos _))

/-- **Both ways of taking a word apart give the same number** for the channel of an input. -/
theorem code_eq_decode (part : Part) (index : Nat) (word : UInt16) :
    (Response.mk word).code.toNat / 2 ^ part.profile.shift =
      ((channelOf (part.input index)).format.decode word).toNat := by
  have width : 2 ^ part.profile.shift * 2 ^ part.profile.resolution = 2 ^ 12 := by
    have bounds := part.resolution_bounds.2
    rw [← Nat.pow_add]
    congr 1
    exact Nat.sub_add_cancel bounds
  rw [toNat_decode, Response.toNat_code, ← width]
  exact Nat.mod_mul_right_div_self _ _ _

/-- What is sent for an input is decoded to its conversion. -/
theorem decode_reading (chip : SimulatedPart) (range : 0 ≤ chip.reference) {input : Nat}
    (existing : input < chip.part.inputs) :
    ((channelOf (chip.part.input input)).format.decode (chip.reading .double input)).toNat =
      chip.code .double input := by
  have small := Part.lt_maxInputs existing
  rw [← code_eq_decode, chip.toNat_code_reading .double range small]
  exact Nat.mul_div_cancel _ (Nat.two_pow_pos _)

/-- Taking the word of a time apart leaves it whole. -/
theorem stamp_decode (scanIndex : Nat) (word : UInt16) :
    (Channel.timestamp scanIndex).format.decode word = word := by
  have small := word.toNat_lt
  apply UInt16.toNat_inj.1
  rw [toNat_decode]
  show word.toNat / 1 % 2 ^ 64 = word.toNat
  omega

/-- A word with a tag in it, read as a time, keeps the tag. -/
theorem tag_kept :
    ¬ ∀ (part : Part), ∀ channel ∈ channelsOf part, ∀ word : UInt16,
      (Response.mk word).code.toNat / 2 ^ channel.format.shift =
        (channel.format.decode word).toNat := by
  intro same
  have stamp : Channel.timestamp 4 ∈ channelsOf .ads7950 := by decide
  exact absurd (same .ads7950 (Channel.timestamp 4) stamp 0xBEEF) (by decide)

/-! ## Histories -/

/-- The sessions a bound converter on a simulated part can get to: it is used, and now and
then the voltage at an input changes. -/
inductive History (binding : Binding) (fresh : Session (Frontend SimulatedPart) Unit) :
    Session (Frontend SimulatedPart) Unit → Prop where
  | start : History binding fresh fresh
  | used {before after : Session (Frontend SimulatedPart) Unit} {use : Use} {answer : Answer} :
      History binding fresh before → binding.use before use = some (answer, after) →
        History binding fresh after
  | wired {before : Session (Frontend SimulatedPart) Unit} (input : Nat) (microvolts : Int) :
      History binding fresh before →
        History binding fresh
          (binding.modifySpi before fun chip => chip.setVoltage input microvolts)

/-- A device on the bus that was changed is as good. -/
theorem Bound.modifySpi {σ : Type} {binding : Binding} {session : Session (Frontend σ) Unit}
    {device : Device (Frontend σ) Unit} {trigger : Trigger}
    (bound : Bound binding session device trigger) (change : σ → σ) :
    let converter := device.provider.converter
    Bound binding (binding.modifySpi session change)
      (device.withConverter { converter with device := change converter.device }) trigger := by
  intro converter
  have intact : Intact binding
      (device.withConverter { converter with device := change converter.device }) trigger :=
    { bound.intact with
      prepared := fun capturing =>
        have prepared := bound.intact.prepared capturing
        ⟨prepared.programmed, prepared.inputs, prepared.layout⟩ }
  exact (bound.modifyDevice (fun device => device.withConverter
    { device.provider.converter with device := change device.provider.converter.device }) intact).2

/-- **Whatever happened, the converter is bound**, and its device has every property that
neither a use nor another voltage takes away. -/
theorem History.device {binding : Binding} {fresh base : Session (Frontend SimulatedPart) Unit}
    (history : History binding fresh base) (holds : Device (Frontend SimulatedPart) Unit → Prop)
    (used : ∀ before after, before.Follows after → holds before → holds after)
    (wired : ∀ (device : Device (Frontend SimulatedPart) Unit) (input : Nat) (microvolts : Int),
      let converter := device.provider.converter
      holds device → holds (device.withConverter
        { converter with device := converter.device.setVoltage input microvolts }))
    (first : ∃ device trigger, Bound binding fresh device trigger ∧ holds device) :
    ∃ device trigger, Bound binding base device trigger ∧ holds device := by
  induction history with
  | start => exact first
  | used _ use ih =>
      obtain ⟨device, trigger, bound, here⟩ := ih
      obtain ⟨_, device', trigger', still, follows⟩ := bound.use use
      exact ⟨device', trigger', still, used device device' follows here⟩
  | wired input microvolts _ ih =>
      obtain ⟨device, trigger, bound, here⟩ := ih
      exact ⟨_, trigger, bound.modifySpi _, wired device input microvolts here⟩

/-- Its part is the one it was bound with, but for the voltages. -/
theorem History.bound {binding : Binding} {fresh base : Session (Frontend SimulatedPart) Unit}
    (history : History binding fresh base) {chip : SimulatedPart}
    (first : ∃ device trigger, Bound binding fresh device trigger ∧
      chip.Alike device.provider.converter.device) :
    ∃ device trigger voltages, Bound binding base device trigger ∧
      ({ chip with voltages } : SimulatedPart).Alike device.provider.converter.device := by
  let holds (device : Device (Frontend SimulatedPart) Unit) : Prop :=
    ∃ voltages, ({ chip with voltages } : SimulatedPart).Alike device.provider.converter.device
  have kept : ∃ device trigger, Bound binding base device trigger ∧ holds device := by
    apply history.device holds
    · rintro before after follows ⟨voltages, alike⟩
      exact ⟨voltages, follows.stable _ (SimulatedPart.alike_stable _) alike⟩
    · intro device input microvolts converter here
      obtain ⟨voltages, alike⟩ := here
      exact ⟨voltages.set input microvolts, alike.part,
        congrArg (List.set · input microvolts) alike.voltages, alike.reference, alike.wordReady⟩
    · obtain ⟨device, trigger, bound, alike⟩ := first
      exact ⟨device, trigger, bound, chip.voltages, alike⟩
  obtain ⟨device, trigger, bound, voltages, near⟩ := kept
  exact ⟨device, trigger, voltages, bound, near⟩

/-! ## Agreement -/

/-- The scans queued in the buffer of a bound converter. -/
def Binding.queued {σ : Type} (binding : Binding) (session : Session (Frontend σ) Unit) :
    Option (List Scan) :=
  (session.device? binding.device).map fun device => device.buffer.popAll.1

/-- A scan that agrees with what the inputs of a part are read as: the word of each input
captured, lowest input first, carries the input, and decoded by the format of its channel it is
the conversion of that input. -/
structure Agrees {σ : Type} (device : Device (Frontend σ) Unit) (chip : SimulatedPart)
    (scan : Scan) : Prop where
  sorted : (device.mask.inputs chip.part).Pairwise (· < ·)
  length : scan.samples.length = (device.mask.inputs chip.part).length
  sample : ∀ (place input : Nat), (device.mask.inputs chip.part)[place]? = some input →
    ∃ channel sample, device.channels[input]? = some channel ∧
      scan.samples[place]? = some sample ∧
      (channel.format.decode sample).toNat = chip.code .double input ∧
      (sample >>> 12).toNat = input

/-- A session in which both ways of measuring the inputs of a part agree. -/
structure Consistent (binding : Binding) (chip : SimulatedPart)
    (session : Session (Frontend SimulatedPart) Unit) : Prop where
  /-- Reading an input brings its conversion. -/
  direct : ∀ input < binding.part.inputs, ∃ after,
    binding.read session input .raw = some (.ok (.whole (chip.code .double input)), after)
  /-- A capture that starts scans just the inputs it was asked for. -/
  started : ∀ (inputs : List Nat) (stamped : Bool) (after : Session (Frontend SimulatedPart) Unit),
    binding.enable session inputs stamped = some (.ok (), after) →
      ∃ device, after.device? binding.device = some device ∧ device.capturing = true ∧
        binding.queued after = some [] ∧
        ∀ input, input ∈ device.mask.inputs chip.part ↔ input ∈ inputs
  /-- While a capture is on, every scan captured agrees with the readings of the inputs; what
  is taken and what stays queued are those scans behind the ones queued before. -/
  buffered : ∀ (device : Device (Frontend SimulatedPart) Unit) (before : List Scan)
    (uses : List Use), session.device? binding.device = some device → device.capturing = true →
      binding.queued session = some before → .disable ∉ uses →
        ∃ answers after left captured, binding.useAll uses session = some (answers, after) ∧
          binding.queued after = some left ∧
          answers.flatMap (·.scans device.buffer.layout) ++ left = before ++ captured ∧
          ∀ scan ∈ captured, Agrees device chip scan
  /-- Uses that differ only in what is read in between give the same answers and leave the same
  scans queued. -/
  undisturbed : ∀ (uses others : List Use) (answers : List Answer)
    (after : Session (Frontend SimulatedPart) Unit), Use.others uses = Use.others others →
      binding.useAll uses session = some (answers, after) →
        ∃ answers' after', binding.useAll others session = some (answers', after') ∧
          Answer.others answers' = Answer.others answers ∧
          binding.queued after' = binding.queued after

namespace Shows

variable {binding : Binding} {chip : SimulatedPart}
  {session : Session (Frontend SimulatedPart) Unit} {picture : Picture}
  {device : Device (Frontend SimulatedPart) Unit} {trigger : Trigger}

theorem queued (shows : Shows binding chip session picture device trigger) :
    binding.queued session = some picture.queued := by
  obtain ⟨ring, all, _⟩ := Buffer.popAll_queues shows.queues
  rw [Binding.queued, shows.bound.device_at, Option.map_some, all]

/-- A scan with the readings of the inputs captured agrees with them. -/
theorem agrees (shows : Shows binding chip session picture device trigger) (ready : chip.Ready)
    (matched : chip.part = binding.part) {scan : Scan}
    (readings : scan.samples = picture.samples chip) : Agrees device chip scan := by
  rw [Picture.samples, ← shows.mask] at readings
  refine ⟨device.mask.toList_sorted.filter _, by rw [readings, List.length_map], ?_⟩
  intro place input captured
  have existing : input < chip.part.inputs := by
    simpa using (List.mem_filter.1 (List.mem_of_getElem? captured)).2
  have small := Part.lt_maxInputs existing
  have channel := channelsOf_input existing
  rw [matched, ← shows.bound.intact.channels] at channel
  have moved := SimulatedPart.moved_lt chip.part (chip.code_le .double input ready.range)
  refine ⟨_, chip.reading .double input, channel, ?_, ?_, ?_⟩
  · rw [readings, List.getElem?_map, captured, Option.map_some]
  · rw [← matched]
    exact decode_reading chip ready.range existing
  · rw [UInt16.toNat_shiftRight, chip.toNat_reading .double ready.range small,
      show UInt16.toNat 12 % 16 = 12 from rfl, Nat.shiftRight_eq_div_pow]
    omega

/-- **A converter with steady inputs is consistent.** -/
theorem consistent (shows : Shows binding chip session picture device trigger) (ready : chip.Ready)
    (matched : chip.part = binding.part) : Consistent binding chip session where
  direct input existing := by
    obtain ⟨after, _, given, _⟩ := shows.read_raw ready matched existing
    exact ⟨after, given⟩
  started inputs stamped after enabled := by
    obtain ⟨existing, layout, still, made, running, _⟩ := shows.bound.enabled enabled
    obtain ⟨ring, all, _⟩ := Buffer.popAll_queues (device.buffer.configure_queues layout)
    refine ⟨_, running.device_at, rfl, ?_, ?_⟩
    · rw [Binding.queued, running.device_at]
      exact congrArg (fun popped => some (Prod.fst popped)) all
    · intro input
      show input ∈ List.filter _ (Binding.maskOf binding.part inputs stamped).toList ↔ _
      rw [List.mem_filter, Binding.mem_maskOf existing, decide_eq_true_iff, matched]
      constructor
      · rintro ⟨asked | ⟨_, time⟩, inside⟩
        · exact asked
        · exact absurd inside (by omega)
      · exact fun asked => ⟨.inl asked, existing input asked⟩
  buffered other before uses found on queued going := by
    cases shows.bound.device_at.symm.trans found
    cases shows.queued.symm.trans queued
    obtain ⟨answers, after, next, _, _, captured, used, still, kept, readings⟩ :=
      shows.useAll_capturing ready matched (shows.capturing.symm.trans on) going
    rw [← shows.layout] at kept
    exact ⟨answers, after, next.queued, captured, used, still.queued, kept,
      fun scan member => shows.agrees ready matched (readings scan member)⟩
  undisturbed uses others answers after same used := by
    have first := shows.useAll ready matched uses
    have second := shows.useAll ready matched others
    have unread : picture.useAll chip binding others = picture.useAll chip binding uses := by
      rw [Picture.useAll_unread, ← same, ← Picture.useAll_unread]
    rw [unread] at second
    cases seen : picture.useAll chip binding uses with
    | none =>
        rw [seen] at first
        exact absurd (first.symm.trans used) (by simp)
    | some done =>
        obtain ⟨heard, next⟩ := done
        rw [seen] at first second
        obtain ⟨_, _, _, _, given, said, still⟩ := first
        obtain ⟨answers', after', _, _, given', said', still'⟩ := second
        cases given.symm.trans used
        exact ⟨answers', after', given', said'.trans said.symm,
          still'.queued.trans still.queued.symm⟩

end Shows

/-- **The direct and the buffered path agree.** Bind a converter behind the simulation of its
own part, with any reference and any voltages, use it in any way and change voltages in between.
From then on, for as long as the voltages stay what they are, and whatever the converter is used
for in the meantime, reading an input and capturing it bring the same number, which is the
conversion of its voltage; and reads in between change nothing that is captured. For every word
and every channel listed, decoding gives no more bits than the channel says: for an input, the
number that masking the tag and shifting gives, and for the time, the whole word. -/
theorem direct_eq_buffered {chip : SimulatedPart} (range : 0 ≤ chip.reference)
    {session fresh base : Session (Frontend SimulatedPart) Unit} {bus : String} {binding : Binding}
    (probed : session.probe chip chip.part.deviceId bus = (.ok binding, fresh))
    (history : History binding fresh base) :
    (∃ now, binding.spi? base = some now ∧ now.part = chip.part ∧ now.reference = chip.reference ∧
      ∀ (uses : List Use) (answers : List Answer) (there : Session (Frontend SimulatedPart) Unit),
        binding.useAll uses base = some (answers, there) → Consistent binding now there) ∧
    ∀ (part : Part), ∀ channel ∈ channelsOf part, ∀ word : UInt16,
      (channel.format.decode word).toNat ≤ 2 ^ channel.format.realBits - 1 ∧
        match channel.kind with
        | .voltage => (Response.mk word).code.toNat / 2 ^ channel.format.shift =
            (channel.format.decode word).toNat
        | .timestamp => channel.format.decode word = word := by
  have made := Session.probe_ok probed
  have part : chip.part = binding.part :=
    Option.some.inj ((Part.ofDeviceId?_deviceId chip.part).symm.trans made.part)
  obtain ⟨first, paced, bound, _, _, woken⟩ := made.bound
  have alike : ({ chip with wordReady := true } : SimulatedPart).Alike
      first.provider.converter.device := by
    rw [woken]
    exact .refl _
  obtain ⟨device, trigger, voltages, still, near⟩ := history.bound ⟨first, paced, bound, alike⟩
  let now := device.provider.converter.device
  have ready : now.Ready := ⟨near.wordReady, by rw [near.reference]; exact range⟩
  have matched : now.part = binding.part := near.part.trans part
  refine ⟨⟨now, ?_, near.part, near.reference, ?_⟩, ?_⟩
  · rw [Binding.spi?, still.device_at, Option.map_some]
  · intro uses answers there used
    obtain ⟨picture, shows⟩ := Shows.of_bound still
    have later := shows.useAll ready matched uses
    cases seen : picture.useAll now binding uses with
    | none =>
        rw [seen] at later
        exact absurd (later.symm.trans used) (by simp)
    | some done =>
        obtain ⟨heard, next⟩ := done
        rw [seen] at later
        obtain ⟨_, _, _, _, given, _, showsNext⟩ := later
        cases given.symm.trans used
        exact showsNext.consistent ready matched
  · intro part channel listed word
    refine ⟨decode_le _ _, ?_⟩
    rw [channelsOf_eq] at listed
    rcases List.mem_append.1 listed with input | time
    · obtain ⟨index, _, rfl⟩ := List.mem_map.1 input
      exact code_eq_decode part index word
    · rw [List.mem_singleton.1 time]
      exact stamp_decode _ word

/-! ## A voltage that changes in the middle of a capture -/

def rig : Session (Frontend SimulatedPart) Unit where
  supplies := { regulators := ⟨[{ microvolts := 2500000 }]⟩, named := [(referenceSupply, ⟨0⟩)] }

def wiredPart : SimulatedPart where
  part := .ads7955
  voltages := [0, 1250000, 5000000, 9, -3, 0, 7, 2500000]
  reference := 2500000

def onRig : Binding :=
  ⟨⟨0⟩, ⟨0⟩, ⟨0⟩, "spi0.1", .ads7955⟩

theorem rewired_agrees :
    ∃ (base there : Session (Frontend SimulatedPart) Unit) (now : SimulatedPart),
      History onRig (rig.probe wiredPart wiredPart.part.deviceId "spi0.1").2 base ∧
      onRig.spi? base = some now ∧ Consistent onRig now there ∧ now.code .double 1 = 511 ∧
      onRig.queued there = some [⟨[0x13FC, 0x2FFC], none⟩, ⟨[0x17FC, 0x2FFC], none⟩] := by
  let fresh := (rig.probe wiredPart wiredPart.part.deviceId "spi0.1").2
  let rewire (session : Session (Frontend SimulatedPart) Unit) :=
    onRig.modifySpi session fun chip => chip.setVoltage 1 2500000
  have probed : rig.probe wiredPart wiredPart.part.deviceId "spi0.1" = (.ok onRig, fresh) :=
    Session.probe_of_toOption (by decide +kernel)
  have range : 0 ≤ wiredPart.reference := by decide
  have ran : ((onRig.use fresh (.enable [2, 1] false)).bind fun started =>
      (onRig.use started.2 (.edge 10)).bind fun caught =>
        (onRig.spi? (rewire caught.2)).bind fun now =>
          (onRig.useAll [.read 1 .raw, .edge 20] (rewire caught.2)).map fun done =>
            (now.code .double 1, onRig.queued done.2)) =
      some (511, some [⟨[0x13FC, 0x2FFC], none⟩, ⟨[0x17FC, 0x2FFC], none⟩]) := by
    decide +kernel
  obtain ⟨⟨answer, started⟩, enabled, ran⟩ := Option.bind_eq_some_iff.1 ran
  obtain ⟨⟨nothing, caught⟩, raised, ran⟩ := Option.bind_eq_some_iff.1 ran
  obtain ⟨now, found, ran⟩ := Option.bind_eq_some_iff.1 ran
  obtain ⟨⟨answers, there⟩, used, same⟩ := Option.map_eq_some_iff.1 ran
  obtain ⟨code, queued⟩ := Prod.mk.inj same
  have history : History onRig fresh (rewire caught) :=
    .wired 1 2500000 ((History.start.used enabled).used raised)
  obtain ⟨⟨chip, here, _, _, consistent⟩, _⟩ := direct_eq_buffered range probed history
  cases here.symm.trans found
  exact ⟨rewire caught, there, now, history, here, consistent _ _ _ used, code, queued⟩

end Acquisition
