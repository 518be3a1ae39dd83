/-
# Acquisition.Proofs.Printout — which input a printed column belongs to

The program prints the code of every input, and then rows with a value for each input that is
wanted. The inputs are sorted and rid of repetitions by the program itself (`wanted`), while the
samples it puts beside them come in the order of a scan, which the mask, the set of inputs and the
layout of the records have settled between them. `columns_eq` is where the two orders meet: each
value is worked out from the code of its own input.

`run_eq` takes a run apart: up to the last code everything is the same for all lists of inputs, and
what is left is `capture`. `columns_labelled` says what the whole run prints, character by
character but for the first line and the times.
-/
import Acquisition.Program.Run
import Acquisition.Proofs.Rounding
import Acquisition.Proofs.Standing

namespace Acquisition.Program

open Acquisition.Converter (Part SimulatedPart)

set_option autoImplicit false

/-! ## Distinct numbers in ascending order -/

theorem mem_insertDistinct (number other : Nat) (numbers : List Nat) :
    other ∈ insertDistinct number numbers ↔ other = number ∨ other ∈ numbers := by
  induction numbers with
  | nil => simp [insertDistinct]
  | cons head rest ih =>
      rw [insertDistinct]
      split
      · rw [List.mem_cons]
      · split
        · next same => simp [same]
        · rw [List.mem_cons, ih, List.mem_cons, or_left_comm]

theorem insertDistinct_sorted (number : Nat) {numbers : List Nat}
    (sorted : numbers.Pairwise (· < ·)) : (insertDistinct number numbers).Pairwise (· < ·) := by
  induction numbers with
  | nil => exact List.pairwise_singleton _ _
  | cons head rest ih =>
      obtain ⟨above, ascending⟩ := List.pairwise_cons.1 sorted
      rw [insertDistinct]
      split
      · next below =>
          refine List.pairwise_cons.2 ⟨fun other member => ?_, sorted⟩
          rcases List.mem_cons.1 member with rfl | behind
          · exact below
          · exact Nat.lt_trans below (above other behind)
      · split
        · exact sorted
        · refine List.pairwise_cons.2 ⟨fun other member => ?_, ih ascending⟩
          rcases (mem_insertDistinct _ _ _).1 member with rfl | behind
          · omega
          · exact above other behind

theorem mem_sortDistinct (numbers : List Nat) (number : Nat) :
    number ∈ sortDistinct numbers ↔ number ∈ numbers := by
  induction numbers with
  | nil => rfl
  | cons head rest ih =>
      rw [sortDistinct, List.foldr_cons, mem_insertDistinct, List.mem_cons]
      exact or_congr_right ih

theorem sortDistinct_sorted (numbers : List Nat) : (sortDistinct numbers).Pairwise (· < ·) := by
  induction numbers with
  | nil => exact List.Pairwise.nil
  | cons head rest ih => exact insertDistinct_sorted head ih

/-- **The inputs to capture** are those that were named, or all if none was. -/
theorem mem_wanted (part : Part) (channels : List Nat) (input : Nat) :
    input ∈ wanted part channels ↔
      if channels = [] then input < part.inputs else input ∈ channels := by
  rw [wanted, mem_sortDistinct]
  cases channels with
  | nil => simp
  | cons first rest => simp

theorem wanted_ne_nil (part : Part) (channels : List Nat) : wanted part channels ≠ [] := by
  cases channels with
  | nil =>
      have first : 0 ∈ wanted part [] := by
        rw [mem_wanted, if_pos rfl]
        exact part.inputs_bounds.1
      exact List.ne_nil_of_mem first
  | cons named rest =>
      have first : named ∈ wanted part (named :: rest) := by
        rw [mem_wanted, if_neg (by simp)]
        exact List.mem_cons_self
      exact List.ne_nil_of_mem first

/-! ## The codes -/

/-- The line about the code of an input. -/
def rawLine (input code : Nat) : String :=
  "in_voltage" ++ toString input ++ "_raw (CH" ++ toString input ++ "): " ++ toString code

theorem voltages_eq (part : Part) :
    voltages part = (List.range part.inputs).map fun input => channelOf (part.input input) := by
  rw [voltages, channelsOf_eq, List.filter_append, List.filter_eq_self.2, List.filter_cons_of_neg,
    List.filter_nil, List.append_nil]
  · exact Bool.false_ne_true
  · intro channel member
    obtain ⟨input, _, rfl⟩ := List.mem_map.1 member
    rfl

/-- An input that a part has goes by its number in the datasheet. -/
theorem rawLine_eq {part : Part} {input : Nat} (existing : input < part.inputs) (code : Nat) :
    let channel := channelOf (part.input input)
    s!"{channel.text}_raw ({channel.name}): {(Value.whole code).text}" = rawLine input code := by
  have named : (part.input input).datasheetName? = some s!"CH{input}" :=
    if_pos (Part.lt_maxInputs existing)
  have name : (channelOf (part.input input)).name = s!"CH{input}" := by
    show (part.input input).datasheetName?.getD "" = _
    rw [named, Option.getD_some]
  have written : (channelOf (part.input input)).text = "in_voltage" ++ toString input := rfl
  have merged : "_raw (CH" = "_raw (" ++ "CH" := rfl
  simp only [name, written]
  show "in_voltage" ++ toString input ++ "_raw (" ++ ("CH" ++ toString input) ++ "): " ++
    toString code = _
  simp only [rawLine, merged, String.append_assoc]

section Bench

variable {bench : Bench} {chip : SimulatedPart} {picture : Picture}

/-- **Each input is printed with its conversion.** -/
theorem printRaw_eq (stands : bench.Stands chip picture) {inputs : List Nat}
    (inside : ∀ input ∈ inputs, input < chip.part.inputs) (lines : List String) :
    ∃ after, printRaw (inputs.map fun input => channelOf (chip.part.input input)) bench
        lines.toArray =
          .ok ((lines ++ inputs.map fun input => rawLine input (chip.code .double input)).toArray,
            after) ∧
      after.Stands chip picture := by
  induction inputs generalizing bench lines with
  | nil =>
      rw [List.map_nil, List.map_nil, List.append_nil]
      exact ⟨bench, rfl, stands⟩
  | cons input rest ih =>
      have existing := inside input List.mem_cons_self
      obtain ⟨session, given, still⟩ := stands.read_raw existing
      obtain ⟨after, printed, last⟩ := ih still
        (fun other member => inside other (List.mem_cons_of_mem _ member))
        (lines ++ [rawLine input (chip.code .double input)])
      refine ⟨after, ?_, last⟩
      have number : (channelOf (chip.part.input input)).number = input := rfl
      rw [List.map_cons, printRaw, number, given]
      simp only [rawLine_eq existing, List.push_toArray]
      rw [printed, List.map_cons, List.append_assoc, List.singleton_append]

end Bench

/-! ## The rows -/

/-- What stands in a row for a code. -/
def cell (scale : Value) (code : Nat) : String :=
  Decimal.ofFloat 1 (Float.ofNat code * scale.toFloat)

/-- **The values of a scan stand in the order of the inputs**, each worked out from the code of its
input. -/
theorem columns_eq (scale : Value) {chip : SimulatedPart} (range : 0 ≤ chip.reference)
    {inputs : List Nat} (inside : ∀ input ∈ inputs, input < chip.part.inputs)
    (timestamp : Option Int64) :
    columns scale (channelsOf chip.part) inputs ⟨inputs.map (chip.reading .double), timestamp⟩ =
      inputs.map fun input => cell scale (chip.code .double input) := by
  rw [columns, ← List.map_prod_left_eq_zip, List.filterMap_map, ← List.filterMap_eq_map]
  refine List.filterMap_congr fun input member => ?_
  have existing := inside input member
  simp only [Function.comp_apply, channelAt?, channelsOf_input existing, Option.map_some,
    millivolts, decode_reading chip range existing, cell]

/-- A row: the time of the scan, filled up with blanks in front to fourteen characters, and a value
for each input, with one blank between two values. -/
def row (scale : Value) (code : Nat → Nat) (inputs : List Nat) (scan : Scan) : String :=
  let time := toString (scan.timestamp.getD 0).toInt
  String.ofList (List.replicate (14 - time.length) ' ') ++ time ++ " ns: " ++
    " ".intercalate (inputs.map fun input => cell scale (code input))

theorem scanLine_eq (scale : Value) (code : Nat → Nat) (inputs : List Nat) (scan : Scan) :
    scanLine scan (inputs.map fun input => cell scale (code input)) =
      row scale code inputs scan :=
  rfl

section Bench

variable {bench : Bench} {chip : SimulatedPart} {picture : Picture} {inputs : List Nat}

/-- While a capture is on, so many rows are printed as were asked for. -/
theorem printScans_eq (stands : bench.Stands chip picture) (on : picture.capturing = true)
    (empty : picture.queued = []) (stamped : picture.layout.timestamp = true)
    (samples : picture.samples chip = inputs.map (chip.reading .double))
    (inside : ∀ input ∈ inputs, input < chip.part.inputs) (scale : Value) (edge count : Nat)
    (lines : List String) :
    ∃ (scans : List Scan) (after : Bench),
      printScans scale (channelsOf chip.part) inputs edge count bench lines.toArray =
        .ok ((lines ++ scans.map (row scale (chip.code .double) inputs)).toArray, after) ∧
      after.Stands chip picture ∧ scans.length = count ∧
      ∀ scan ∈ scans, scan.samples.length = inputs.length ∧ scan.timestamp.isSome := by
  -- the bench stands as it did after each edge, while the lines and the edges run on
  induction count generalizing bench edge lines with
  | zero =>
      refine ⟨[], bench, ?_, stands, rfl, by simp⟩
      rw [List.map_nil, List.append_nil, printScans]
  | succ count ih =>
      obtain ⟨time, after, brought, still⟩ := stands.next on empty edge
      let scan := picture.scan chip time
      have taken : scan = ⟨inputs.map (chip.reading .double), some time⟩ := by
        simp only [scan, Picture.scan, stamped, if_true, samples]
      have line : scanLine scan (columns scale (channelsOf chip.part) inputs scan) =
          row scale (chip.code .double) inputs scan := by
        rw [taken, columns_eq scale stands.ready.range inside, scanLine_eq]
      obtain ⟨scans, last, printed, standing, length, full⟩ :=
        ih still (edge + 1) (lines ++ [row scale (chip.code .double) inputs scan])
      refine ⟨scan :: scans, last, ?_, standing, congrArg (· + 1) length, ?_⟩
      · rw [printScans, brought]
        show printScans scale (channelsOf chip.part) inputs (edge + 1) count after
          (lines.toArray.push
            (scanLine scan (columns scale (channelsOf chip.part) inputs scan))) = _
        rw [line, List.push_toArray, printed, List.map_cons, List.append_assoc,
          List.singleton_append]
      · intro other member
        rcases List.mem_cons.1 member with rfl | behind
        · rw [taken]
          exact ⟨List.length_map _, rfl⟩
        · exact full other behind

/-! ## The capture -/

/-- **Inputs that the part has are captured and printed.** -/
theorem capture_eq {options : Options} (stands : bench.Stands chip picture)
    (off : picture.capturing = false)
    (inside : ∀ input ∈ wanted chip.part options.channels, input < chip.part.inputs)
    (some : 0 < options.frequency) (few : options.frequency ≤ nanosecondsPerSecond) (scale : Value)
    (lines : List String) :
    ∃ scans : List Scan, scans.length = options.scans ∧
      (∀ scan ∈ scans, scan.samples.length = (wanted chip.part options.channels).length ∧
        scan.timestamp.isSome) ∧
      capture options chip.part scale bench lines.toArray =
        .ok { lines := lines ++
          scans.map (row scale (chip.code .double) (wanted chip.part options.channels)) } := by
  have all : ((wanted chip.part options.channels).find? fun input => chip.part.inputs ≤ input) =
      none := by
    rw [List.find?_eq_none]
    intro input member
    have existing := inside input member
    rw [decide_eq_true_iff]
    omega
  obtain ⟨tuned, set, still⟩ := stands.setFrequency some few
  obtain ⟨started, next, enabled, capturing, on, empty, stamped, samples⟩ :=
    still.enable off (wanted_ne_nil _ _) inside (sortDistinct_sorted _)
  obtain ⟨scans, last, printed, standing, length, full⟩ :=
    printScans_eq capturing on empty stamped samples inside scale 1 options.scans lines
  refine ⟨scans, length, full, ?_⟩
  simp only [capture, all, set, enabled, Except.mapError, bind, Except.bind, printed,
    standing.finish]

end Bench

/-- **An input that the part has not is turned down** whatever the bench, which is not asked for
anything. -/
theorem capture_missing {options : Options} {part : Part} {input : Nat}
    (listed : input ∈ wanted part options.channels) (outside : part.inputs ≤ input) :
    ∃ missing ∈ wanted part options.channels, part.inputs ≤ missing ∧
      ∀ scale bench lines, capture options part scale bench lines =
        .error (.failed lines s!"{part.deviceId} has no input {missing}") := by
  have any : ((wanted part options.channels).find? fun input => part.inputs ≤ input).isSome := by
    rw [List.find?_isSome]
    exact ⟨input, listed, decide_eq_true outside⟩
  obtain ⟨missing, found⟩ := Option.isSome_iff_exists.1 any
  refine ⟨missing, List.mem_of_find?_eq_some found, by simpa using List.find?_some found, ?_⟩
  intro scale bench lines
  simp only [capture, found]

/-! ## The run -/

/-- The lines before the rows: what is measured, and the code of every input. -/
def opening (part : Part) (reference : Int) (title : String) : List String :=
  title :: (List.range part.inputs).map fun input =>
    rawLine input ((simulated part reference).code .double input)

/-- The report of a run, however it ended. -/
def ending : Except Report Report → Report
  | .ok report => report
  | .error report => report

/-- **A run prints the code of every input, and then does nothing but capture.** -/
theorem run_eq {options : Options} {part : Part}
    (found : Part.ofDeviceId? options.part = some part) (range : 0 ≤ options.reference) :
    ∃ title bench, bench.Stands (Bench.woken (simulated part options.reference)) Bench.idle ∧
      run options =
        ending (capture options part (Bench.stepSize part options.reference) bench
          (opening part options.reference title).toArray) := by
  let chip := simulated part options.reference
  obtain ⟨bench, session, started, sized, still⟩ :=
    Bench.start_stands (show 0 ≤ chip.reference from range)
  let title := header { bench with session } part (Bench.stepSize part options.reference)
  obtain ⟨after, printed, last⟩ := printRaw_eq still
    (fun input member => List.mem_range.1 member : ∀ input ∈ List.range part.inputs,
      input < (Bench.woken chip).part.inputs) [title]
  refine ⟨title, after, last, ?_⟩
  have first : printRaw (voltages part) { bench with session } #[title] =
      .ok ((opening part options.reference title).toArray, after) := by
    rw [voltages_eq]
    exact printed
  simp only [run, found]
  rw [started]
  simp only [sized]
  change ending ((printRaw (voltages part) { bench with session } #[title]).bind _) = _
  rw [first]
  rfl

/-- What is to be seen in a value of a row: no blank, so that the values in a row can be counted,
and a number that is within half a tenth of the double it is made from. -/
structure Shown (text : String) (number : Float) : Prop where
  whole : ' ' ∉ text.toList
  near : ∀ value, Decimal.number? number.toBits = some value →
    ∃ shown, Decimal.reading? text.toList = some shown ∧ |shown - value| ≤ 1 / 20

theorem shown_cell (scale : Value) (code : Nat) :
    Shown (cell scale code) (Float.ofNat code * scale.toFloat) where
  whole := Decimal.blank_notMem_ofBits _ _
  near value exact := by
    obtain ⟨shown, read, near⟩ := Decimal.reading_ofBits Nat.one_pos exact
    refine ⟨shown, read, near.trans (by norm_num)⟩

/-- **The columns are labelled correctly.** Take any part, any reference from zero up, and any list
of inputs. What is captured is the sorted list of the distinct inputs in it, or all inputs if it is
empty. After a first line the code of every input is printed. If the part has all inputs that are
wanted and the timer can have the frequency, every scan brings one sample for each of them, and its
row is the time of the scan, filled up with blanks in front to fourteen characters, and one value
for each wanted input in ascending order, with one blank between two values. The value in the column
of an input is the product, to one decimal place, of the code that was printed for this input and of
the size of a step. If the part lacks a wanted input, the run ends with the codes and says which,
and does so before it asks anything of the bench. -/
theorem columns_labelled {options : Options} {part : Part}
    (found : Part.ofDeviceId? options.part = some part) (range : 0 ≤ options.reference) :
    let scale := Bench.stepSize part options.reference
    let code := (simulated part options.reference).code .double
    let millivolts := fun input => Float.ofNat (code input) * scale.toFloat
    let cell := fun input => Decimal.ofFloat 1 (millivolts input)
    let inputs := wanted part options.channels
    inputs.Pairwise (· < ·) ∧
    (∀ input, input ∈ inputs ↔
      if options.channels = [] then input < part.inputs else input ∈ options.channels) ∧
    (∀ input, Shown (cell input) (millivolts input)) ∧
    ∃ title : String,
      let codes := title :: (List.range part.inputs).map fun input =>
        "in_voltage" ++ toString input ++ "_raw (CH" ++ toString input ++ "): " ++
          toString (code input)
      ((∀ input ∈ inputs, input < part.inputs) →
        0 < options.frequency → options.frequency ≤ nanosecondsPerSecond →
        ∃ scans : List Scan, scans.length = options.scans ∧
          (∀ scan ∈ scans, scan.samples.length = inputs.length ∧ scan.timestamp.isSome) ∧
          run options =
            { lines := codes ++ scans.map fun scan =>
                let time := toString (scan.timestamp.getD 0).toInt
                String.ofList (List.replicate (14 - time.length) ' ') ++ time ++ " ns: " ++
                  " ".intercalate (inputs.map cell) }) ∧
      ((∃ input ∈ inputs, part.inputs ≤ input) →
        ∃ missing ∈ options.channels, part.inputs ≤ missing ∧
          run options = .failed codes.toArray s!"{part.deviceId} has no input {missing}" ∧
          ∀ scale bench lines, capture options part scale bench lines =
            .error (.failed lines s!"{part.deviceId} has no input {missing}")) := by
  intro scale code millivolts cell inputs
  refine ⟨sortDistinct_sorted _, mem_wanted part options.channels,
    fun input => shown_cell scale (code input), ?_⟩
  obtain ⟨title, bench, stands, ran⟩ := run_eq found range
  refine ⟨title, fun inside some few => ?_, fun ⟨input, listed, outside⟩ => ?_⟩
  · obtain ⟨scans, length, full, captured⟩ := capture_eq stands rfl inside some few scale
      (opening part options.reference title)
    refine ⟨scans, length, full, ?_⟩
    exact ran.trans (congrArg ending captured)
  · obtain ⟨missing, asked, beyond, refused⟩ := capture_missing listed outside
    have named : missing ∈ options.channels := by
      rw [mem_wanted] at asked
      split at asked
      · omega
      · exact asked
    exact ⟨missing, named, beyond, ran.trans (congrArg ending (refused _ _ _)), refused⟩

/-- A run with inputs out of order and one of them twice. -/
def shuffled : Options where
  part := "ti-ads7955"
  channels := [2, 0, 2]
  frequency := 1000
  scans := 3

/-- Its rows have two columns, for the inputs 0 and 2. -/
theorem shuffled_labelled : ∃ (title : String) (scans : List Scan), scans.length = 3 ∧
    run shuffled =
      { lines := title ::
          ["in_voltage0_raw (CH0): 113", "in_voltage1_raw (CH1): 227",
            "in_voltage2_raw (CH2): 340", "in_voltage3_raw (CH3): 454",
            "in_voltage4_raw (CH4): 568", "in_voltage5_raw (CH5): 681",
            "in_voltage6_raw (CH6): 795", "in_voltage7_raw (CH7): 909"] ++
          scans.map fun scan =>
            let time := toString (scan.timestamp.getD 0).toInt
            String.ofList (List.replicate (14 - time.length) ' ') ++ time ++ " ns: " ++
              (Decimal.ofFloat 1 (Float.ofNat 113 * (Value.fraction 5000 1023).toFloat) ++ " " ++
                Decimal.ofFloat 1 (Float.ofNat 340 * (Value.fraction 5000 1023).toFloat)) } := by
  have found : Part.ofDeviceId? shuffled.part = some .ads7955 := by decide
  obtain ⟨_, _, _, title, printed, _⟩ := columns_labelled found (by decide)
  obtain ⟨scans, length, _, ran⟩ := printed (by decide) (by decide) (by decide)
  exact ⟨title, scans, length, ran⟩

end Acquisition.Program
