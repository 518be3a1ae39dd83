/-
# Acquisition.Proofs.Pipeline — results line up with the commands that asked for them

A part answers a word two frames late, so what a scan receives first belongs to
whatever came before it, and the padding at its end is there to bring out the last
two results. On a part that understands words of sixteen bits and has a range to
convert over (`Ready`), a frame always succeeds (`frame_ready`), and the words a list
of commands receives are: the result that was pending, the conversion of the input
that was chosen, and then one reading per command (`answers_commands`). Nothing the
part held before a scan reaches its payload.

`scanInputs_simulated` says this of a scan of any set of inputs, `single_simulated` of
the three words that read one input.
-/
import Acquisition.Converter.Core
import Acquisition.Converter.Simulated

namespace Acquisition

set_option autoImplicit false

namespace Converter

/-- The voltage that gives the largest conversion over a range. -/
def Range.fullScale : Range → Int → Int
  | .single, reference => reference
  | .double, reference => reference * 2

/-! ## Words -/

/-- A control word for an input below sixteen is taken over, and carries the input and
the range it was made from. -/
theorem command_fields {input : UInt8} (small : input.toNat < 16) (settings : Settings) :
    SimulatedPart.latches (command input settings) = true ∧
      ((command input settings >>> 7) &&& 0xF).toNat = input.toNat ∧
      (command input settings &&& rangeBit != 0) = settings.doubled := by
  have each : ∀ number < 16, ∀ manual doubled : Bool,
      let word := command (UInt8.ofNat number) ⟨manual, doubled⟩
      SimulatedPart.latches word = true ∧ ((word >>> 7) &&& 0xF).toNat = number ∧
        (word &&& rangeBit != 0) = doubled := by decide +kernel
  have fields := each input.toNat small settings.manual settings.doubled
  rwa [UInt8.ofNat_toNat] at fields

/-- The input a word belongs to is what its upper four bits say. -/
theorem Response.toNat_tag (word : UInt16) :
    (Response.mk word).tag.toNat = word.toNat / 2 ^ (12 : Nat) := by
  have shifted : (word >>> 12).toNat = word.toNat / 2 ^ (12 : Nat) := by
    rw [UInt16.toNat_shiftRight, show UInt16.toNat 12 % 16 = 12 from rfl, Nat.shiftRight_eq_div_pow]
  have small := word.toNat_lt
  rw [Response.tag, UInt16.toNat_toUInt8, shifted]
  omega

/-- The conversion is what the lower twelve say. -/
theorem Response.toNat_code (word : UInt16) :
    (Response.mk word).code.toNat = word.toNat % 2 ^ (12 : Nat) := by
  rw [Response.code, UInt16.toNat_and, show UInt16.toNat 0x0FFF = 2 ^ 12 - 1 from rfl,
    Nat.and_two_pow_sub_one_eq_mod]

namespace SimulatedPart

/-- The conversion of the voltage at an input over a range. -/
def code (chip : SimulatedPart) (range : Range) (input : Nat) : Nat :=
  convert chip.part.profile (range.fullScale chip.reference) (chip.voltage input)

/-- What is sent for an input over a range: the input in the highest four bits, and
below it the conversion of its voltage, moved up to fill twelve bits. -/
def reading (chip : SimulatedPart) (range : Range) (input : Nat) : UInt16 :=
  tagged chip.part.profile input (chip.code range input)

/-- A conversion is at most the largest the part has. -/
theorem convert_le (profile : Profile) {fullScale : Int} (nonneg : 0 ≤ fullScale)
    (voltage : Int) : convert profile fullScale voltage ≤ profile.maxCode := by
  unfold convert
  split
  · exact Nat.zero_le _
  · next range =>
      have positive : 0 < fullScale := by omega
      have top : max 0 (min voltage fullScale) * profile.maxCode ≤ profile.maxCode * fullScale := by
        rw [Int.mul_comm]
        exact Int.mul_le_mul_of_nonneg_left (by omega) (Int.natCast_nonneg _)
      have bounded := Int.ediv_le_ediv positive top
      rw [Int.mul_ediv_cancel _ range] at bounded
      omega

/-- A conversion fills at most twelve bits once it is moved up. -/
theorem moved_lt (part : Part) {code : Nat} (bounded : code ≤ part.profile.maxCode) :
    code * 2 ^ part.profile.shift < 4096 := by
  cases part <;> simp only [Part.profile, Profile.maxCode, Profile.shift, codeBits] at * <;> omega

theorem toNat_tagged (part : Part) {input code : Nat} (small : input < 16)
    (bounded : code ≤ part.profile.maxCode) :
    (tagged part.profile input code).toNat = input * 4096 + code * 2 ^ part.profile.shift := by
  have moved := moved_lt part bounded
  have shift : part.profile.shift < 16 := by cases part <;> decide
  have room : code < 4096 :=
    Nat.lt_of_le_of_lt (Nat.le_mul_of_pos_right _ (Nat.two_pow_pos _)) moved
  have above : input * 4096 = 2 ^ 12 * input := by omega
  rw [above]
  simp only [tagged, UInt16.toNat_or, UInt16.toNat_shiftLeft, UInt16.toNat_ofNat']
  rw [Nat.mod_eq_of_lt (show input < 2 ^ 16 by omega),
    Nat.mod_eq_of_lt (show code < 2 ^ 16 by omega)]
  rw [Nat.mod_eq_of_lt (show part.profile.shift < 2 ^ 16 by omega), Nat.mod_eq_of_lt shift,
    show UInt16.toNat 12 % 16 = 12 from rfl, Nat.shiftLeft_eq, Nat.shiftLeft_eq,
    Nat.mod_eq_of_lt (show input * 2 ^ 12 < 2 ^ 16 by omega), Nat.mod_eq_of_lt (by omega),
    Nat.mul_comm input (2 ^ 12), ← Nat.two_pow_add_eq_or_of_lt (i := 12) moved]

theorem code_le (chip : SimulatedPart) (range : Range) (input : Nat)
    (nonneg : 0 ≤ chip.reference) : chip.code range input ≤ chip.part.profile.maxCode := by
  apply convert_le
  cases range <;> simp only [Range.fullScale] <;> omega

/-- A reading as a number: the input above twelve bits of left-aligned conversion. -/
theorem toNat_reading (chip : SimulatedPart) (range : Range) {input : Nat}
    (nonneg : 0 ≤ chip.reference) (small : input < 16) :
    (chip.reading range input).toNat =
      input * 4096 + chip.code range input * 2 ^ chip.part.profile.shift :=
  toNat_tagged chip.part small (chip.code_le range input nonneg)

/-- A reading carries the input it was asked for. -/
theorem tag_reading (chip : SimulatedPart) (range : Range) {input : UInt8}
    (nonneg : 0 ≤ chip.reference) (small : input.toNat < 16) :
    (Response.mk (chip.reading range input.toNat)).tag = input := by
  have moved := moved_lt chip.part (chip.code_le range input.toNat nonneg)
  apply UInt8.toNat_inj.1
  rw [Response.toNat_tag, chip.toNat_reading range nonneg small]
  omega

/-- What is left of a reading without the input it carries. -/
theorem toNat_code_reading (chip : SimulatedPart) (range : Range) {input : Nat}
    (nonneg : 0 ≤ chip.reference) (small : input < 16) :
    (Response.mk (chip.reading range input)).code.toNat =
      chip.code range input * 2 ^ chip.part.profile.shift := by
  have moved := moved_lt chip.part (chip.code_le range input nonneg)
  rw [Response.toNat_code, chip.toNat_reading range nonneg small]
  omega

/-! ## Frames -/

/-- A part that understands words of sixteen bits and has a range to convert over. -/
structure Ready (chip : SimulatedPart) : Prop where
  words : chip.wordReady = true
  range : 0 ≤ chip.reference

/-- The part after one frame. -/
def step (chip : SimulatedPart) (word : UInt16) : SimulatedPart :=
  { chip with pending := chip.conversion, frames := chip.frames + 1 }.latch word

/-- What nothing on the bus changes: the part, its inputs, its reference and the size of
its words. -/
structure Alike (chip other : SimulatedPart) : Prop where
  part : other.part = chip.part
  voltages : other.voltages = chip.voltages
  reference : other.reference = chip.reference
  wordReady : other.wordReady = chip.wordReady

theorem Alike.trans {first second third : SimulatedPart} (left : first.Alike second)
    (right : second.Alike third) : first.Alike third :=
  ⟨right.part.trans left.part, right.voltages.trans left.voltages,
    right.reference.trans left.reference, right.wordReady.trans left.wordReady⟩

theorem Alike.ready {chip other : SimulatedPart} (alike : chip.Alike other) (ready : chip.Ready) :
    other.Ready :=
  ⟨alike.wordReady.trans ready.words, alike.reference ▸ ready.range⟩

/-- Parts with the same inputs and reference give the same readings. -/
theorem Alike.reading {chip other : SimulatedPart} (alike : chip.Alike other) (range : Range)
    (input : Nat) : other.reading range input = chip.reading range input := by
  simp only [SimulatedPart.reading, code, voltage, alike.part, alike.voltages, alike.reference]

theorem step_alike (chip : SimulatedPart) (word : UInt16) : chip.Alike (chip.step word) := by
  unfold step latch
  split <;> exact ⟨rfl, rfl, rfl, rfl⟩

@[simp] theorem step_pending (chip : SimulatedPart) (word : UInt16) :
    (chip.step word).pending = chip.conversion := by
  unfold step latch
  split <;> rfl

@[simp] theorem step_frames (chip : SimulatedPart) (word : UInt16) :
    (chip.step word).frames = chip.frames + 1 := by
  unfold step latch
  split <;> rfl

/-- After a command for one of its inputs a part converts that input, over the range of
the command, whatever it was converting before. -/
theorem conversion_step (chip : SimulatedPart) {input : UInt8} (settings : Settings)
    (existing : input.toNat < chip.part.inputs) :
    (chip.step (command input settings)).conversion =
      chip.reading settings.range input.toNat := by
  have bounds := chip.part.inputs_bounds
  have small : input.toNat < 16 := Nat.lt_of_lt_of_le existing bounds.2
  obtain ⟨taken, chosen, doubled⟩ := command_fields small settings
  simp only [step, latch, taken, if_true, conversion, chosen, doubled, Nat.mod_eq_of_lt existing,
    reading, code, fullScale, Settings.range, voltage]
  cases settings.doubled <;> rfl

/-- **A frame of a part that is ready succeeds.** -/
theorem frame_ready {chip : SimulatedPart} (ready : chip.Ready) (word : UInt16) :
    chip.frame word = some (chip.pending, chip.step word) := by
  have range : ¬ chip.fullScale < 0 := by
    have nonneg := ready.range
    unfold fullScale
    split <;> omega
  simp only [frame, range, if_false, step]

/-- An operation of one word is one frame. -/
theorem perform_ready {chip after : SimulatedPart} (ready : chip.Ready)
    {operation : Spi.Operation UInt16} (single : operation.width = 1) {received : List UInt16}
    (done : chip.operate operation = some (received, after)) (buffer : List UInt16) :
    Spi.perform chip operation buffer = some ⟨none, Spi.overlay buffer received, after⟩ := by
  simp [Spi.perform, Spi.Device.transact, transact, ready.words, Spi.width, single, operateAll,
    done]

theorem perform_transfer {chip : SimulatedPart} (ready : chip.Ready) (word place : UInt16) :
    Spi.perform chip (.transfer 1 [word]) [place] =
      some ⟨none, [chip.pending], chip.step word⟩ := by
  have done : chip.operate (.transfer 1 [word]) = some ([chip.pending], chip.step word) := by
    simp [operate, frame_ready ready]
  exact perform_ready ready rfl done [place]

theorem perform_write {chip : SimulatedPart} (ready : chip.Ready) (word : UInt16) :
    Spi.perform chip (.write [word]) [] = some ⟨none, [], chip.step word⟩ := by
  have done : chip.operate (.write [word]) = some ([], chip.step word) := by
    simp [operate, frame_ready ready]
  exact perform_ready ready rfl done []

theorem perform_read {chip : SimulatedPart} (ready : chip.Ready) (place : UInt16) :
    Spi.perform chip (.read 1) [place] = some ⟨none, [chip.pending], chip.step 0⟩ := by
  have done : chip.operate (.read 1) = some ([chip.pending], chip.step 0) := by
    simp [operate, frame_ready ready]
  exact perform_ready ready rfl done [place]

/-! ## Scans -/

/-- The part after a list of words. -/
def run (chip : SimulatedPart) (words : List UInt16) : SimulatedPart :=
  words.foldl step chip

/-- What is received while a list of words is sent. -/
def answers : SimulatedPart → List UInt16 → List UInt16
  | _, [] => []
  | chip, word :: rest => chip.pending :: (chip.step word).answers rest

@[simp] theorem length_answers (chip : SimulatedPart) (words : List UInt16) :
    (chip.answers words).length = words.length := by
  induction words generalizing chip with
  | nil => rfl
  | cons word rest ih => simp [answers, ih]

@[simp] theorem run_frames (chip : SimulatedPart) (words : List UInt16) :
    (chip.run words).frames = chip.frames + words.length := by
  induction words generalizing chip with
  | nil => rfl
  | cons word rest ih =>
      show ((chip.step word).run rest).frames = _
      rw [ih, step_frames, List.length_cons]
      omega

/-- **The pipeline.** Whatever the part held before, each command brings the reading of
its own input two words later. -/
theorem answers_commands (chip : SimulatedPart) (settings : Settings) (inputs : List UInt8)
    (first second : UInt16) (existing : ∀ input ∈ inputs, input.toNat < chip.part.inputs) :
    chip.answers (inputs.map (command · settings) ++ [first, second]) =
      chip.pending :: chip.conversion ::
        inputs.map fun input => chip.reading settings.range input.toNat := by
  induction inputs generalizing chip with
  | nil => simp [answers]
  | cons input rest ih =>
      have alike := chip.step_alike (command input settings)
      have here := existing input (by simp)
      have later := ih (chip.step (command input settings)) (by
        intro other member
        rw [alike.part]
        exact existing other (by simp [member]))
      simp only [List.map_cons, List.cons_append, answers, later, step_pending,
        conversion_step chip settings here, alike.reading]

/-- An exchange with a part that is ready clocks every word. -/
theorem clock_ready (commands store : List UInt16) {chip : SimulatedPart} (ready : chip.Ready)
    (room : commands.length ≤ store.length) :
    PreparedScan.clock commands store chip =
      some ⟨none, chip.answers commands ++ store.drop commands.length, chip.run commands⟩ := by
  induction commands generalizing store chip with
  | nil => rfl
  | cons word rest ih =>
      cases store with
      | nil => simp at room
      | cons place store =>
          have after := ih store ((chip.step_alike word).ready ready) (by simpa using room)
          simp only [PreparedScan.clock, perform_transfer ready, after]
          rfl

end SimulatedPart

/-- A set of inputs that a part has, with no input that did not fit the set. -/
structure InputSet.Within (set : InputSet) (part : Part) : Prop where
  fitting : set.stray = none
  existing : ∀ input ∈ set.toList, input.toNat < part.inputs

namespace PreparedScan

/-- A scan that sends the commands of its inputs, in order, and then the padding. -/
def Programmed (scan : PreparedScan) (settings : Settings) : Prop :=
  scan.commands = (scan.inputs.toList.map (command · settings)) ++ List.replicate pipelineWords 0

theorem programmed_prepare (scan : PreparedScan) (inputs : InputSet) (settings : Settings) :
    (scan.prepare inputs settings).Programmed settings :=
  scan.commands_prepare inputs settings

namespace Programmed

variable {scan : PreparedScan} {settings : Settings}

theorem words (programmed : scan.Programmed settings) :
    scan.words = scan.inputs.count + pipelineWords := by
  rw [← length_commands, programmed, length_laid]

end Programmed

end PreparedScan

end Converter

open Converter

namespace Converter

/-- A set of inputs the part has is prepared. -/
theorem program_within {σ : Type} (converter : Converter σ) {inputs : InputSet}
    (within : inputs.Within converter.part) :
    converter.program inputs =
      (.ok (), { converter with scan := converter.scan.prepare inputs converter.settings }) := by
  have none : (inputs.last.filter fun input => converter.part.inputs ≤ input.toNat) = none := by
    rw [Option.filter_eq_none_iff]
    intro top found
    have small := within.existing top (InputSet.mem_of_last found)
    simpa using small
  simp only [program, within.fitting, none]

/-- An exchange with a part that is ready brings one reading per input, whatever the part
and the words set aside held before. -/
theorem exchange_programmed {scan : PreparedScan} {chip : SimulatedPart} {settings : Settings}
    (ready : chip.Ready) (within : scan.inputs.Within chip.part)
    (programmed : scan.Programmed settings) :
    ∃ after : PreparedScan, scan.exchange chip = some (none, after, chip.run scan.commands) ∧
      after.inputs = scan.inputs ∧ after.commands = scan.commands ∧
      after.payload = scan.inputs.toList.map fun input =>
        chip.reading settings.range input.toNat := by
  have room : scan.commands.length ≤ scan.store.length := by
    rw [PreparedScan.length_commands]
    exact scan.words_le
  have clocked := SimulatedPart.clock_ready scan.commands scan.store ready room
  obtain ⟨after, exchanged, inputs, commands, store⟩ := PreparedScan.exchange_of_clock clocked
  refine ⟨after, exchanged, inputs, commands, ?_⟩
  have answered := chip.answers_commands settings _ 0 0 within.existing
  rw [PreparedScan.payload, PreparedScan.received, ← PreparedScan.length_commands, commands, store,
    List.take_left' (SimulatedPart.length_answers _ _), programmed]
  -- the first two words received belong to what came before the scan
  exact congrArg (List.drop pipelineWords) answered

/-- A scan of a part that is ready brings one reading per input and reports nothing. -/
theorem scanInputs_programmed {converter : Converter SimulatedPart} {settings : Settings}
    (ready : converter.device.Ready) (within : converter.scan.inputs.Within converter.device.part)
    (programmed : converter.scan.Programmed settings) :
    ∃ scan : PreparedScan,
      converter.scanInputs =
        some (.ok (converter.scan.inputs.toList.map fun input =>
            converter.device.reading settings.range input.toNat),
          { converter with scan, device := converter.device.run converter.scan.commands }, []) ∧
      scan.inputs = converter.scan.inputs ∧ scan.commands = converter.scan.commands ∧
        scan.mismatch? = none := by
  obtain ⟨scan, exchanged, inputs, commands, payload⟩ :=
    exchange_programmed ready within programmed
  have tags : scan.payload.map (fun word => (Response.mk word).tag) = scan.inputs.toList := by
    rw [payload, inputs, List.map_map]
    refine (List.map_congr_left fun input member => ?_).trans (List.map_id _)
    have small := Nat.lt_of_lt_of_le (within.existing input member)
      converter.device.part.inputs_bounds.2
    exact converter.device.tag_reading settings.range ready.range small
  have aligned := PreparedScan.mismatch?_eq_none tags
  refine ⟨scan, ?_, inputs, commands, aligned⟩
  simp only [scanInputs, exchanged, Option.map_some, payload, aligned, Option.map_none,
    Option.toList_none]

/-- **A scan lines up with the pipeline of the part.** For every part and range, every
set of its inputs and everything the part may hold before, preparing a scan of the set
and carrying it out brings exactly one word per input, lowest input first: the reading
of that input over the range of the converter. No tag is wrong, and the part has seen
one frame per input and two more. -/
theorem scanInputs_simulated (converter : Converter SimulatedPart) (inputs : InputSet)
    (matched : converter.device.part = converter.part) (ready : converter.device.Ready)
    (within : inputs.Within converter.part) :
    ∃ prepared scanned : Converter SimulatedPart,
      converter.program inputs = (.ok (), prepared) ∧
      prepared.scanInputs = some
        (.ok (inputs.toList.map fun input =>
          converter.device.reading converter.settings.range input.toNat), scanned, []) ∧
      inputs.toList.Pairwise (· < ·) ∧ scanned.scan.mismatch? = none ∧
      scanned.device.frames = converter.device.frames + inputs.count + 2 := by
  have programmed := converter.scan.programmed_prepare inputs converter.settings
  let prepared := { converter with scan := converter.scan.prepare inputs converter.settings }
  have fits : prepared.scan.inputs.Within prepared.device.part := matched ▸ within
  have steady : prepared.device.Ready := ready
  obtain ⟨scan, scanned, _, _, aligned⟩ := scanInputs_programmed steady fits programmed
  refine ⟨prepared, _, converter.program_within within, scanned, inputs.toList_sorted, aligned, ?_⟩
  rw [SimulatedPart.run_frames, Nat.add_assoc, PreparedScan.length_commands]
  exact congrArg _ programmed.words

/-- **Reading one input of a part that is ready brings its reading**, whatever the part
held before. -/
theorem single_ready {converter : Converter SimulatedPart} {input : UInt8}
    (ready : converter.device.Ready) (matched : converter.device.part = converter.part)
    (existing : input.toNat < converter.part.inputs) :
    let word := command input converter.settings
    converter.single input =
      some (.ok (Response.mk (converter.device.reading converter.settings.range input.toNat)).code,
        { converter with device := converter.device.run [word, word, 0] }) := by
  intro word
  have chosen : input.toNat < converter.device.part.inputs := matched ▸ existing
  have first := converter.device.step_alike word
  have second := first.trans ((converter.device.step word).step_alike word)
  have small := Nat.lt_of_lt_of_le chosen converter.device.part.inputs_bounds.2
  have tag := converter.device.tag_reading converter.settings.range ready.range small
  -- the second command keeps the part clocked while it converts for the first
  have pending : ((converter.device.step word).step word).pending =
      converter.device.reading converter.settings.range input.toNat := by
    rw [SimulatedPart.step_pending, SimulatedPart.conversion_step _ _ chosen]
  simp only [single, Nat.not_le.2 existing, if_false, send,
    SimulatedPart.perform_write ready, SimulatedPart.perform_write (first.ready ready),
    SimulatedPart.perform_read (second.ready ready), Option.map_some, List.headD_cons, word,
    pending, tag, if_true]
  rfl

/-- A converter over the single range whose part has been left in the middle of
something else. -/
def interrupted : Converter SimulatedPart where
  part := .ads7955
  settings := .ofRange .single
  device :=
    { part := .ads7955, voltages := [0, 5000000, 0, 9, 1250000, 7, 0, -3], reference := 2500000,
      wordReady := true, selected := 3, doubled := true, pending := 0xBEEF, frames := 41 }

theorem interrupted_scan :
    ∃ prepared scanned : Converter SimulatedPart,
      interrupted.program (.ofList [7, 1, 4]) = (.ok (), prepared) ∧
      prepared.scanInputs = some (.ok [0x1FFC, 0x47FC, 0x7000], scanned, []) ∧
      scanned.scan.mismatch? = none ∧ scanned.device.frames = 46 := by
  have within : (InputSet.ofList [7, 1, 4]).Within interrupted.part :=
    ⟨by decide, by decide +kernel⟩
  obtain ⟨prepared, scanned, programmed, answered, _, aligned, frames⟩ :=
    scanInputs_simulated interrupted (.ofList [7, 1, 4]) rfl ⟨rfl, by decide⟩ within
  exact ⟨prepared, scanned, programmed, answered, aligned, frames⟩

end Converter

end Acquisition
