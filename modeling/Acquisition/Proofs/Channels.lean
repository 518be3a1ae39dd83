/-
# Acquisition.Proofs.Channels — the channels of a part, and the records they make

The channel table of a part holds its inputs at their own positions and the time behind
them (`find?_channelsOf`, `voltageChannel?_channelsOf`). A mask with a layout is therefore
a set of inputs with or without the time, and the layout has one sample for each input
that is scanned for the mask (`ofMask?_channelsOf`): what a scan brings fills a record
exactly, with nothing cut off and nothing filled up.

That is a case of `ofMask?_eq_some`, which says what the layout of a mask is for any list of
channels, also with gaps between their scan indices, with an index that several have, and with
any number of times.
-/
import Acquisition.Binding
import Acquisition.Proofs.Pipeline

namespace Acquisition

open Acquisition.Converter (Part Input InputSet)

set_option autoImplicit false

/-! ## Listed inputs -/

namespace Converter

namespace InputSet

/-- Insertions add the inputs that fit, and no others. -/
theorem contains_foldl_insert (inputs : List UInt8) (set : InputSet) (input : UInt8) :
    (inputs.foldl insert set).contains input =
      (set.contains input || decide (input < 16 ∧ input ∈ inputs)) :=
  Bits.foldl_insert contains_insert inputs set input

theorem contains_ofList (inputs : List UInt8) (input : UInt8) :
    (ofList inputs).contains input = decide (input < 16 ∧ input ∈ inputs) := by
  rw [ofList, contains_foldl_insert]
  simp [contains]

/-- The first input that does not fit is remembered, unless one was before. -/
theorem stray_foldl_insert (inputs : List UInt8) (set : InputSet) :
    (inputs.foldl insert set).stray = set.stray.or (inputs.find? fun input => 16 ≤ input) := by
  induction inputs generalizing set with
  | nil => exact Option.or_none.symm
  | cons first rest ih =>
      rw [List.foldl_cons, ih, stray_insert, List.find?_cons]
      by_cases fits : first < 16
      · have small : ¬16 ≤ first := UInt8.not_le.2 fits
        simp only [if_pos fits, small, decide_false]
      · have large : 16 ≤ first := UInt8.not_lt.1 fits
        simp only [if_neg fits, large, decide_true]
        cases set.stray <;> rfl

/-- A set remembers the first of the inputs that does not fit. -/
theorem stray_ofList_eq (inputs : List UInt8) :
    (ofList inputs).stray = inputs.find? fun input => 16 ≤ input := by
  rw [ofList, stray_foldl_insert]
  exact Option.none_or

/-- A set of inputs that fit remembers none as stray. -/
theorem stray_ofList {inputs : List UInt8} (small : ∀ input ∈ inputs, input.toNat < 16) :
    (ofList inputs).stray = none := by
  rw [stray_ofList_eq, List.find?_eq_none]
  intro input member
  have fits : input < 16 := UInt8.lt_iff_toNat_lt.2 (small input member)
  simpa using fits

/-- **Inputs in ascending order are listed as they were given.** -/
theorem toList_ofList {inputs : List UInt8} (sorted : inputs.Pairwise (· < ·))
    (small : ∀ input ∈ inputs, input.toNat < 16) : (ofList inputs).toList = inputs := by
  have distinct {list : List UInt8} (ascending : list.Pairwise (· < ·)) : list.Nodup :=
    ascending.imp fun below => UInt8.ne_of_lt below
  have same : (ofList inputs).toList.Perm inputs := by
    refine (List.perm_ext_iff_of_nodup (distinct (toList_sorted _)) (distinct sorted)).2 ?_
    intro input
    rw [mem_toList, contains_ofList, decide_eq_true_iff]
    constructor
    · exact fun found => found.2
    · exact fun member => ⟨UInt8.lt_iff_toNat_lt.2 (small input member), member⟩
  refine same.eq_of_pairwise ?_ (toList_sorted _) sorted
  intro low high _ _ below above
  exact absurd (UInt8.lt_trans below above) (UInt8.lt_irrefl low)

end InputSet

namespace Part

theorem lt_maxInputs {part : Part} {input : Nat} (existing : input < part.inputs) : input < 16 :=
  Nat.lt_of_lt_of_le existing part.inputs_bounds.2

/-- The number of an input fits a byte. -/
theorem toNat_ofNat {part : Part} {input : Nat} (existing : input < part.inputs) :
    (UInt8.ofNat input).toNat = input := by
  have small := lt_maxInputs existing
  rw [UInt8.toNat_ofNat', Nat.mod_eq_of_lt (by omega)]

end Part

/-- An input of a part. -/
def Part.input (part : Part) (index : Nat) : Input where
  index := index
  resolution := part.profile.resolution
  storage := storageBits
  shift := part.profile.shift

end Converter

namespace Frontend

/-- The inputs of a mask, lowest first. -/
theorem toList_inputsOf (part : Part) (mask : ScanMask) :
    (inputsOf part mask).toList =
      (mask.toList.filter fun index => index < part.inputs).map UInt8.ofNat := by
  have small : ∀ index ∈ mask.toList.filter (fun index => index < part.inputs), index < 16 := by
    intro index member
    have inside := (List.mem_filter.1 member).2
    rw [decide_eq_true_iff] at inside
    exact Part.lt_maxInputs inside
  apply InputSet.toList_ofList
  · rw [List.pairwise_map]
    refine (mask.toList_sorted.filter _).imp_of_mem ?_
    intro low high lowMember highMember below
    have lowSmall := small low lowMember
    have highSmall := small high highMember
    rw [UInt8.lt_iff_toNat_lt, UInt8.toNat_ofNat', UInt8.toNat_ofNat']
    omega
  · intro input member
    obtain ⟨index, listed, rfl⟩ := List.mem_map.1 member
    have indexSmall := small index listed
    rw [UInt8.toNat_ofNat']
    omega

theorem count_inputsOf (part : Part) (mask : ScanMask) :
    (inputsOf part mask).count =
      (mask.toList.filter fun index => index < part.inputs).length := by
  rw [← InputSet.length_toList, toList_inputsOf, List.length_map]

/-- The inputs of a mask are inputs of the part. -/
theorem within_inputsOf (part : Part) (mask : ScanMask) : (inputsOf part mask).Within part := by
  have inside : ∀ index ∈ mask.toList.filter (fun index => index < part.inputs),
      index < part.inputs := by
    intro index member
    simpa using (List.mem_filter.1 member).2
  constructor
  · apply InputSet.stray_ofList
    intro input member
    obtain ⟨index, listed, rfl⟩ := List.mem_map.1 member
    have below := inside index listed
    rw [Part.toNat_ofNat below]
    exact Part.lt_maxInputs below
  · intro input member
    rw [toList_inputsOf] at member
    obtain ⟨index, listed, rfl⟩ := List.mem_map.1 member
    have below := inside index listed
    rw [Part.toNat_ofNat below]
    exact below

end Frontend

/-! ## Masks of inputs -/

/-- Insertions add the indices that fit, and no others. -/
theorem ScanMask.contains_foldl_insert (indices : List Nat) (mask : ScanMask) (index : Nat) :
    (indices.foldl insert mask).contains index =
      (mask.contains index || decide (index < 64 ∧ index ∈ indices)) :=
  Bits.foldl_insert contains_insert indices mask index

theorem ScanMask.contains_ofList (indices : List Nat) (index : Nat) :
    (ScanMask.ofList indices).contains index = decide (index < 64 ∧ index ∈ indices) := by
  rw [ofList, contains_foldl_insert]
  simp [contains]

namespace Binding

/-- What is in the mask of some inputs: these, and the time if it is wanted. -/
theorem mem_maskOf {part : Part} {inputs : List Nat}
    (inside : ∀ input ∈ inputs, input < part.inputs) (stamped : Bool) (index : Nat) :
    index ∈ (maskOf part inputs stamped).toList ↔
      index ∈ inputs ∨ stamped = true ∧ index = part.inputs := by
  have bound := part.inputs_bounds.2
  simp only [Converter.maxInputs] at bound
  have listed : index < 64 ∧ index ∈ inputs ↔ index ∈ inputs := by
    constructor
    · exact fun both => both.2
    · intro member
      have := inside index member
      exact ⟨by omega, member⟩
  rw [ScanMask.mem_toList, maskOf]
  cases stamped with
  | false => simp [ScanMask.contains_ofList, listed]
  | true =>
      have fits : part.inputs < 64 := by omega
      simp only [if_true, ScanMask.contains_insert, ScanMask.contains_ofList, listed, fits,
        Bool.or_eq_true, decide_eq_true_iff, true_and]
      exact or_congr_right eq_comm

/-- The time is in the mask of some inputs just if it is wanted. -/
theorem contains_maskOf {part : Part} {inputs : List Nat}
    (inside : ∀ input ∈ inputs, input < part.inputs) (stamped : Bool) :
    (maskOf part inputs stamped).toList.contains part.inputs = stamped := by
  have absent : part.inputs ∉ inputs := fun member => Nat.lt_irrefl _ (inside _ member)
  rw [Bool.eq_iff_iff, List.contains_iff_mem, mem_maskOf inside]
  simp [absent]

end Binding

/-! ## The channel table -/

theorem channelsOf_eq (part : Part) :
    channelsOf part =
      (List.range part.inputs).map (fun index => channelOf (part.input index)) ++
        [.timestamp part.inputs] := by
  rw [channelsOf, Converter.Profile.inputList, List.map_map]
  rfl

theorem channelsOf_input {part : Part} {index : Nat} (existing : index < part.inputs) :
    (channelsOf part)[index]? = some (channelOf (part.input index)) := by
  rw [channelsOf_eq, List.getElem?_append_left (by simpa using existing), List.getElem?_map,
    List.getElem?_range existing, Option.map_some]

/-- The channel with a scan index: an input under its own number, the time under the next. -/
theorem find?_channelsOf (part : Part) (index : Nat) :
    ((channelsOf part).find? fun channel => channel.scanIndex == index) =
      if index < part.inputs then some (channelOf (part.input index))
      else if index = part.inputs then some (.timestamp part.inputs) else none := by
  have index_of (number : Nat) : (channelOf (part.input number)).scanIndex = number := rfl
  rw [channelsOf_eq, List.find?_append, List.find?_map]
  split
  · next inside =>
      have found : (List.range part.inputs).find?
          ((fun channel => channel.scanIndex == index) ∘
            fun number => channelOf (part.input number)) = some index := by
        rw [List.find?_range_eq_some]
        simp only [Function.comp_apply, index_of, beq_self_eq_true, List.mem_range, inside,
          Bool.not_eq_true', beq_eq_false_iff_ne, true_and]
        intro other below
        omega
      rw [found, Option.map_some, Option.some_or]
  · next outside =>
      have missing : (List.range part.inputs).find?
          ((fun channel => channel.scanIndex == index) ∘
            fun number => channelOf (part.input number)) = none := by
        rw [List.find?_range_eq_none]
        simp only [Function.comp_apply, index_of, Bool.not_eq_true', beq_eq_false_iff_ne]
        intro number below
        omega
      rw [missing, Option.map_none, Option.none_or, List.find?_singleton]
      by_cases last : index = part.inputs
      · simp [Channel.timestamp, last]
      · simp [Channel.timestamp, last, Ne.symm last]

/-- The voltage channel of a number stands at that position. -/
theorem voltageChannel?_channelsOf {F H : Type} {device : Device F H} {part : Part}
    (channels : device.channels = channelsOf part) (number : Nat) :
    device.voltageChannel? number = if number < part.inputs then some number else none := by
  have voltage_of (index : Nat) : (channelOf (part.input index)).kind = .voltage ∧
      (channelOf (part.input index)).number = index := ⟨rfl, rfl⟩
  rw [Device.voltageChannel?, channels, channelsOf_eq, List.findIdx?_append, List.findIdx?_map]
  have time : [Channel.timestamp part.inputs].findIdx?
      (fun channel => channel.kind == .voltage && channel.number == number) = none := by
    simp [Channel.timestamp]
  rw [time, Option.map_none, Option.or_none]
  split
  · next inside =>
      rw [List.findIdx?_eq_some_iff_getElem]
      refine ⟨by simpa using inside, by simp [voltage_of], ?_⟩
      intro other below
      simp only [List.getElem_range, Function.comp_apply, voltage_of, beq_self_eq_true,
        Bool.true_and, Bool.not_eq_true, beq_eq_false_iff_ne]
      omega
  · next outside =>
      rw [List.findIdx?_eq_none_iff]
      intro index member
      have inside := List.mem_range.1 member
      simp only [Function.comp_apply, voltage_of, beq_self_eq_true, Bool.true_and,
        beq_eq_false_iff_ne]
      omega

/-! ## Layouts -/

/-- The kind of the channel that an index stands for: the first that has it. -/
def kindAt? (channels : List Channel) (index : Nat) : Option ChannelKind :=
  (channels.find? fun channel => channel.scanIndex == index).map Channel.kind

section Part

variable (part : Part) (index : Nat)

theorem kindAt?_channelsOf :
    kindAt? (channelsOf part) index =
      if index < part.inputs then some .voltage
      else if index = part.inputs then some .timestamp else none := by
  rw [kindAt?, find?_channelsOf]
  split
  · rfl
  · split <;> rfl

theorem kindAt?_eq_voltage : kindAt? (channelsOf part) index = some .voltage ↔
    index < part.inputs := by
  rw [kindAt?_channelsOf]
  split
  · next inside => simp [inside]
  · next outside => split <;> simp [outside]

theorem kindAt?_eq_timestamp : kindAt? (channelsOf part) index = some .timestamp ↔
    index = part.inputs := by
  rw [kindAt?_channelsOf]
  split
  · next inside => simp [Nat.ne_of_lt inside]
  · split
    · next last => simp [last]
    · next other => simp [other]

theorem isSome_kindAt? : (kindAt? (channelsOf part) index).isSome = true ↔
    index ≤ part.inputs := by
  rw [kindAt?_channelsOf]
  split
  · next inside => simp [Nat.le_of_lt inside]
  · next outside =>
      split
      · next last => simp [last]
      · next other =>
          simp only [Option.isSome_none, Bool.false_eq_true, false_iff]
          omega

end Part

namespace RecordLayout

variable {channels : List Channel} {before after : RecordLayout}

/-- An index adds a sample, or the time, or has no place. -/
theorem extend_eq (channels : List Channel) (layout : RecordLayout) (index : Nat) :
    extend channels layout index =
      (kindAt? channels index).map fun kind =>
        match kind with
        | .voltage => { layout with samples := layout.samples + 1 }
        | .timestamp => { layout with timestamp := true } := by
  rw [extend, kindAt?, Option.map_map]
  rfl

/-- Indices have their places in a record just if each of them has a channel. -/
theorem isSome_foldlM_extend (channels : List Channel) (indices : List Nat)
    (before : RecordLayout) :
    (indices.foldlM (extend channels) before).isSome ↔
      ∀ index ∈ indices, (kindAt? channels index).isSome = true := by
  induction indices generalizing before with
  | nil => simp
  | cons index rest ih =>
      rw [List.foldlM_cons, extend_eq, List.forall_mem_cons]
      cases kindAt? channels index with
      | none => simp
      | some kind => exact (ih _).trans (and_iff_right rfl).symm

/-- Indices add as many samples as voltages are among them, and the time if any is. -/
theorem foldlM_extend {indices : List Nat}
    (made : indices.foldlM (extend channels) before = some after) :
    after.samples = before.samples +
        indices.countP (fun index => kindAt? channels index = some .voltage) ∧
      (after.timestamp = true ↔ before.timestamp = true ∨
        ∃ index ∈ indices, kindAt? channels index = some .timestamp) := by
  induction indices generalizing before with
  | nil =>
      cases made
      simp
  | cons index rest ih =>
      obtain ⟨middle, first, later⟩ := Option.bind_eq_some_iff.1 made
      obtain ⟨samples, timestamp⟩ := ih later
      rw [extend_eq] at first
      obtain ⟨kind, found, rfl⟩ := Option.map_eq_some_iff.1 first
      constructor
      · rw [samples, List.countP_cons]
        cases kind <;> simp [found]
        omega
      · rw [timestamp]
        cases kind <;> simp [found]

/-- **The layout of a mask, whatever the channels.** Every index of the mask has a channel, there
is one sample for each that stands for a voltage, of which there is at least one, and the time is
there just if an index stands for it. -/
theorem ofMask?_eq_some {mask : ScanMask} (made : ofMask? channels mask = some after) :
    (∀ index ∈ mask.toList, ∃ channel ∈ channels, channel.scanIndex = index) ∧
      after.samples = mask.toList.countP (fun index => kindAt? channels index = some .voltage) ∧
      0 < after.samples ∧
      (after.timestamp = true ↔
        ∃ index ∈ mask.toList, kindAt? channels index = some .timestamp) := by
  obtain ⟨folded, some⟩ := Option.filter_eq_some_iff.1 made
  have named := (isSome_foldlM_extend channels mask.toList {}).1 (by rw [folded, Option.isSome_some])
  obtain ⟨samples, timestamp⟩ := foldlM_extend folded
  rw [bne_iff_ne] at some
  refine ⟨fun index member => ?_, ?_, Nat.pos_of_ne_zero some, by simpa using timestamp⟩
  · have found := named index member
    rw [kindAt?, Option.isSome_map, List.find?_isSome] at found
    obtain ⟨channel, listed, same⟩ := found
    exact ⟨channel, listed, by simpa using same⟩
  · rw [samples, Nat.zero_add]

/-- **A record of a capture has room for one sample per input scanned**, of which there is
at least one, and for the time just if the mask asks for it. -/
theorem ofMask?_channelsOf {part : Part} {mask : ScanMask} {layout : RecordLayout}
    (made : ofMask? (channelsOf part) mask = some layout) :
    layout.samples = (Frontend.inputsOf part mask).count ∧ 0 < layout.samples ∧
      layout.timestamp = mask.toList.contains part.inputs := by
  obtain ⟨_, samples, positive, timestamp⟩ := ofMask?_eq_some made
  simp only [kindAt?_eq_voltage, kindAt?_eq_timestamp] at samples timestamp
  refine ⟨?_, positive, ?_⟩
  · rw [samples, Frontend.count_inputsOf, List.countP_eq_length_filter]
  · rw [Bool.eq_iff_iff, timestamp, List.contains_iff_mem, exists_eq_right]

/-- A layout with a sample has bytes. -/
theorem bytes_pos {layout : RecordLayout} (sampled : 0 < layout.samples) : 0 < layout.bytes := by
  simp only [bytes, sampleBytes]
  split <;> omega

end RecordLayout

end Acquisition
