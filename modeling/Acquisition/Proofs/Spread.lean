/-
# Acquisition.Proofs.Spread — the codes of evenly spread inputs

The program spreads its inputs in equal steps over twice the reference, and prints their codes. The
step is worked out in numbers of any size, but the voltage of an input is kept in thirty-two bits:
one of 2³¹ microvolts or more comes out below zero (`toInt_ofInt_wrapped`) and is converted to
nothing. A reference that fits into thirty-two bits itself can be large enough for that, and then
the codes of the highest inputs fall back to zero. `codes_spread` says for which references they do.
-/
import Acquisition.Proofs.Printout

namespace Acquisition.Program

open Acquisition.Converter (Part SimulatedPart withinRange)

set_option autoImplicit false

/-! ## Even steps -/

section Steps

variable (part : Part) {reference : Int}

/-- From one input to the next. -/
def step (reference : Int) : Int :=
  2 * reference / (part.inputs + 1)

/-- The code of an input that is as many steps up as there are inputs up to it; none if there is no
range at all. -/
def evenCode (reference : Int) (input : Nat) : Int :=
  step part reference * (input + 1) * part.profile.maxCode / (2 * reference)

theorem step_nonneg (range : 0 ≤ reference) : 0 ≤ step part reference :=
  Int.ediv_nonneg (by omega) (by omega)

/-- There is room for one step more than there are inputs. -/
theorem step_mul_le (reference : Int) : step part reference * (part.inputs + 1) ≤ 2 * reference :=
  Int.ediv_mul_le _ (by omega)

/-- The last input is the highest. -/
theorem height_le (range : 0 ≤ reference) {input : Nat} (existing : input < part.inputs) :
    step part reference * (input + 1) ≤ step part reference * part.inputs :=
  Int.mul_le_mul_of_nonneg_left (by omega) (step_nonneg part range)

theorem height_bounds (range : 0 ≤ reference) {input : Nat} (existing : input < part.inputs) :
    0 ≤ step part reference * (input + 1) ∧ step part reference * (input + 1) ≤ 2 * reference := by
  have nonneg := step_nonneg part range
  have below := height_le part range existing
  have whole := step_mul_le part reference
  rw [Int.mul_add, Int.mul_one] at whole
  exact ⟨Int.mul_nonneg nonneg (by omega), by omega⟩

theorem evenCode_zero (input : Nat) : evenCode part 0 input = 0 := by
  rw [evenCode, Int.mul_zero, Int.ediv_zero]

theorem evenCode_mono (range : 0 ≤ reference) {low high : Nat} (ordered : low ≤ high) :
    evenCode part reference low ≤ evenCode part reference high := by
  rcases Int.lt_or_eq_of_le range with positive | zero
  · have higher : step part reference * (low + 1) ≤ step part reference * (high + 1) :=
      Int.mul_le_mul_of_nonneg_left (by omega) (step_nonneg part range)
    exact Int.ediv_le_ediv (by omega) (Int.mul_le_mul_of_nonneg_right higher (by omega))
  · rw [← zero, evenCode_zero, evenCode_zero]

theorem maxCode_large : 255 ≤ part.profile.maxCode := by
  cases part <;> decide

/-- A step that is at least a microvolt is not lost in the conversion: a part has many more codes
than inputs. -/
theorem evenCode_pos (positive : 0 < step part reference) : 0 < evenCode part reference 0 := by
  have bound := part.inputs_bounds.2
  simp only [Converter.maxInputs] at bound
  have large := maxCode_large part
  have room : 0 < 2 * reference :=
    Int.lt_of_lt_of_le (Int.mul_pos positive (by omega)) (step_mul_le part reference)
  have converted : 1 * (2 * reference) ≤ step part reference * part.profile.maxCode := by
    calc 1 * (2 * reference)
        = 2 * reference := Int.one_mul _
      _ ≤ (step part reference + 1) * (part.inputs + 1) :=
          Int.le_of_lt (Int.lt_ediv_add_one_mul_self _ (by omega))
      _ ≤ (step part reference + 1) * 17 := Int.mul_le_mul_of_nonneg_left (by omega) (by omega)
      _ ≤ step part reference * 255 := by omega
      _ ≤ step part reference * part.profile.maxCode :=
          Int.mul_le_mul_of_nonneg_left (by omega) (Int.le_of_lt positive)
  rw [evenCode, Int.natCast_zero, Int.zero_add, Int.mul_one]
  exact Int.lt_of_lt_of_le Int.zero_lt_one ((Int.le_ediv_iff_mul_le room).2 converted)

end Steps

/-! ## Voltages in thirty-two bits -/

theorem toInt_ofInt_wrapped {value : Int} (low : 2 ^ (31 : Nat) ≤ value)
    (high : value < 2 ^ (32 : Nat)) : (Int32.ofInt value).toInt < 0 := by
  rw [Int32.toInt_ofInt, Int.bmod_def, show Int32.size = 2 ^ 32 from rfl]
  split <;> omega

section Codes

variable {part : Part} {reference : Int}

theorem voltage_simulated (range : 0 ≤ reference) {input : Nat} (existing : input < part.inputs) :
    (simulated part reference).voltage input =
      (Int32.ofInt (step part reference * (input + 1))).toInt := by
  have even : (reference * 2).tdiv (part.inputs + 1) = step part reference := by
    rw [Int.tdiv_eq_ediv_of_nonneg (by omega), Int.mul_comm, step]
  show (spread part.inputs reference).getD input 0 = _
  rw [spread, even, List.getD_eq_getElem?_getD, List.getElem?_map, List.getElem?_range existing,
    Option.map_some, Option.getD_some]

/-- **The code of an input is even as long as its voltage fits**, and zero from there on. -/
theorem code_eq (range : 0 ≤ reference) (fits : reference < 2 ^ (31 : Nat)) {input : Nat}
    (existing : input < part.inputs) :
    ((simulated part reference).code .double input : Int) =
      if step part reference * (input + 1) < 2 ^ (31 : Nat) then evenCode part reference input
      else 0 := by
  have code : (simulated part reference).code .double input =
      part.measured reference ((simulated part reference).voltage input) := rfl
  obtain ⟨low, high⟩ := height_bounds part range existing
  rw [code, voltage_simulated range existing]
  split
  · next kept =>
      rw [Int32.toInt_ofInt_of_le (by omega) kept]
      rcases Int.lt_or_eq_of_le range with positive | zero
      · have whole : withinRange reference (step part reference * (input + 1)) =
            step part reference * (input + 1) := by
          unfold withinRange
          omega
        rw [part.measured_eq positive, part.steps_eq, whole, evenCode]
      · rw [← zero, part.measured_zero, evenCode_zero, Int.natCast_zero]
  -- a voltage below zero is cut off at the lower end of the range
  · next wrapped =>
      have negative := toInt_ofInt_wrapped (Int.not_lt.1 wrapped) (by omega)
      rw [part.measured_low range (Int.le_of_lt negative), Int.natCast_zero]

/-- If the highest voltage does not fit, the last code is zero and the first is not. -/
theorem codes_fall (range : 0 ≤ reference) (fits : reference < 2 ^ (31 : Nat))
    (wrapped : 2 ^ (31 : Nat) ≤ step part reference * part.inputs) :
    ((simulated part reference).code .double (part.inputs - 1) : Int) = 0 ∧
      0 < ((simulated part reference).code .double 0 : Int) ∧
      0 < evenCode part reference (part.inputs - 1) := by
  have some := part.inputs_bounds.1
  have last : ((part.inputs - 1 : Nat) : Int) + 1 = part.inputs := by omega
  have positive : 0 < step part reference := by
    rcases Int.lt_or_eq_of_le (step_nonneg part range) with positive | zero
    · exact positive
    · rw [← zero, Int.zero_mul] at wrapped
      omega
  have first := evenCode_pos part positive
  have low : step part reference * ((0 : Nat) + 1) < 2 ^ (31 : Nat) := by
    have whole := step_mul_le part reference
    have twice : step part reference * 2 ≤ step part reference * (part.inputs + 1) :=
      Int.mul_le_mul_of_nonneg_left (by omega) (Int.le_of_lt positive)
    omega
  refine ⟨?_, ?_, Int.lt_of_lt_of_le first (evenCode_mono part range (Nat.zero_le _))⟩
  · rw [code_eq range fits (by omega), last, if_neg (Int.not_lt.2 wrapped)]
  · rw [code_eq range fits some, if_pos low]
    exact first

end Codes

/-! ## What the program prints -/

/-- The lines printed so far. -/
def printed : Except Report (Array String × Bench) → List String
  | .ok (lines, _) => lines.toList
  | .error report => report.lines

/-- What was printed stays printed, whichever way the rows end. -/
theorem printScans_lines (scale : Value) (channels : List Channel) (inputs : List Nat)
    (edge count : Nat) (bench : Bench) (lines : Array String) :
    lines.toList <+: printed (printScans scale channels inputs edge count bench lines) := by
  induction count generalizing bench edge lines with
  | zero => exact List.prefix_refl _
  | succ count ih =>
      rw [printScans]
      split
      · exact List.prefix_refl _
      · exact List.prefix_refl _
      · refine List.IsPrefix.trans ?_ (ih _ _ _)
        rw [Array.toList_push]
        exact List.prefix_append _ _

/-- A step keeps lines if its failures do and what follows it does. -/
theorem prefix_ending_bind {α : Type} {lines : List String} {outcome : Except Report α}
    {rest : α → Except Report Report}
    (failed : ∀ report, outcome = .error report → lines <+: report.lines)
    (done : ∀ value, outcome = .ok value → lines <+: (ending (rest value)).lines) :
    lines <+: (ending (outcome >>= rest)).lines := by
  cases outcome with
  | error report => exact failed report rfl
  | ok value => exact done value rfl

/-- What was printed stays printed, whatever comes of the capture. -/
theorem capture_lines (options : Options) (part : Part) (scale : Value) (bench : Bench)
    (lines : Array String) :
    lines.toList <+: (ending (capture options part scale bench lines)).lines := by
  have refused {α : Type} (result : Except Error α) (report : Report)
      (failed : result.mapError (fun error => Report.failed lines error.message) =
        .error report) : lines.toList <+: report.lines := by
    cases result with
    | error error =>
        cases failed
        exact List.prefix_refl _
    | ok value => cases failed
  rw [capture]
  split
  · exact List.prefix_refl _
  · refine prefix_ending_bind (refused _) fun tuned _ => ?_
    dsimp only
    split
    · exact List.prefix_refl _
    · refine prefix_ending_bind (refused _) fun started _ => ?_
      have rows := printScans_lines scale (channelsOf part) (wanted part options.channels) 1
        options.scans started lines
      refine prefix_ending_bind (fun report failed => ?_) fun last finished => ?_
      · rw [failed] at rows
        exact rows
      · rw [finished] at rows
        split
        · exact rows
        · exact rows

/-- So a run prints the code of every input, whatever else is asked of it. -/
theorem run_opening {options : Options} {part : Part}
    (found : Part.ofDeviceId? options.part = some part) (range : 0 ≤ options.reference) :
    ∃ title rest, (run options).lines = opening part options.reference title ++ rest := by
  obtain ⟨title, bench, _, ran⟩ := run_eq found range
  obtain ⟨rest, kept⟩ := capture_lines options part (Bench.stepSize part options.reference) bench
    (opening part options.reference title).toArray
  exact ⟨title, rest, (congrArg Report.lines ran).trans kept.symm⟩

/-- **How evenly the codes are spread.** Take any part and any reference from zero up that fits into
thirty-two bits. Whatever else is asked of the program, it prints a code for each input. The code is
that of equal steps over twice the reference (none if the reference is zero) as long as the voltage
fits into thirty-two bits, and zero if it does not. So all codes are those of equal steps just if
the voltage of the last input fits, and just then the codes never decrease from one input to a
higher one. -/
theorem codes_spread {options : Options} {part : Part}
    (found : Part.ofDeviceId? options.part = some part) (range : 0 ≤ options.reference)
    (fits : options.reference < 2 ^ (31 : Nat)) :
    let full := 2 * options.reference
    let step := full / (part.inputs + 1)
    let even (input : Nat) := step * (input + 1) * part.profile.maxCode / full
    ∃ (title : String) (code : Nat → Nat) (rest : List String),
      (run options).lines =
        title :: (List.range part.inputs).map (fun input => rawLine input (code input)) ++ rest ∧
      (∀ input < part.inputs, (code input : Int) =
        if step * (input + 1) < 2 ^ (31 : Nat) then even input else 0) ∧
      ((∀ input < part.inputs, (code input : Int) = even input) ↔
        step * part.inputs < 2 ^ (31 : Nat)) ∧
      ((∀ low high, low ≤ high → high < part.inputs → code low ≤ code high) ↔
        step * part.inputs < 2 ^ (31 : Nat)) := by
  intro full step even
  obtain ⟨title, rest, printed⟩ := run_opening found range
  let code := (simulated part options.reference).code .double
  have exactly (input : Nat) (existing : input < part.inputs) : (code input : Int) =
      if step * (input + 1) < 2 ^ (31 : Nat) then even input else 0 :=
    code_eq range fits existing
  have spread (fit : step * part.inputs < 2 ^ (31 : Nat)) (input : Nat)
      (existing : input < part.inputs) : (code input : Int) = even input := by
    rw [exactly input existing]
    exact if_pos (Int.lt_of_le_of_lt (height_le part range existing) fit)
  have some := part.inputs_bounds.1
  have last : part.inputs - 1 < part.inputs := Nat.sub_lt some Nat.one_pos
  refine ⟨title, code, rest, printed, exactly, ⟨fun same => ?_, spread⟩, fun ordered => ?_, ?_⟩
  · by_contra wrapped
    obtain ⟨fallen, _, above⟩ := codes_fall range fits (Int.not_lt.1 wrapped)
    exact Int.ne_of_lt above (fallen.symm.trans (same _ last))
  · by_contra wrapped
    obtain ⟨fallen, above, _⟩ := codes_fall range fits (Int.not_lt.1 wrapped)
    have kept := Int.ofNat_le.2 (ordered 0 _ (Nat.zero_le _) last)
    exact absurd (Int.lt_of_lt_of_le above (kept.trans_eq fallen)) (Int.lt_irrefl 0)
  · intro fit low high ordered existing
    apply Int.ofNat_le.1
    rw [spread fit low (Nat.lt_of_le_of_lt ordered existing), spread fit high existing]
    exact evenCode_mono part range ordered

/-- A run with the highest reference of thirty-two bits. -/
def topped : Options where
  part := "ti-ads7950"
  reference := 2147483647

/-- The codes of its two lower inputs are even, and those of the two higher ones are zero. -/
theorem topped_spread : ∃ (title : String) (rest : List String),
    (run topped).lines =
      title :: ["in_voltage0_raw (CH0): 818", "in_voltage1_raw (CH1): 1637",
        "in_voltage2_raw (CH2): 0", "in_voltage3_raw (CH3): 0"] ++ rest := by
  have found : Part.ofDeviceId? topped.part = some .ads7950 := by decide
  obtain ⟨title, code, rest, printed, exactly, _⟩ := codes_spread found (by decide) (by decide)
  have first : code 0 = 818 := Int.ofNat_inj.1 (exactly 0 (by decide))
  have second : code 1 = 1637 := Int.ofNat_inj.1 (exactly 1 (by decide))
  have third : code 2 = 0 := Int.ofNat_inj.1 (exactly 2 (by decide))
  have fourth : code 3 = 0 := Int.ofNat_inj.1 (exactly 3 (by decide))
  have codes : (List.range Part.ads7950.inputs).map (fun input => rawLine input (code input)) =
      [rawLine 0 (code 0), rawLine 1 (code 1), rawLine 2 (code 2), rawLine 3 (code 3)] := rfl
  rw [codes, first, second, third, fourth] at printed
  exact ⟨title, rest, printed⟩

/-- The code of its third input is not that of three even steps, which would be 2456. -/
theorem topped_uneven : ¬ ∃ (title : String) (code : Nat → Nat) (rest : List String),
    (run topped).lines =
      title :: (List.range Part.ads7950.inputs).map (fun input => rawLine input (code input)) ++
        rest ∧
    ∀ input < Part.ads7950.inputs, (code input : Int) =
      2 * topped.reference / (Part.ads7950.inputs + 1) * (input + 1) *
        Part.ads7950.profile.maxCode / (2 * topped.reference) := by
  rintro ⟨title, code, rest, claimed, even⟩
  have found : Part.ofDeviceId? topped.part = some .ads7950 := by decide
  obtain ⟨title', rest', printed⟩ := run_opening found (by decide)
  have third : code 2 = 2456 := Int.ofNat_inj.1 (even 2 (by decide))
  have asked : (run topped).lines[3]? = some (rawLine 2 (code 2)) := by
    rw [claimed]
    rfl
  have given : (run topped).lines[3]? =
      some (rawLine 2 ((simulated .ads7950 2147483647).code .double 2)) := by
    rw [printed]
    rfl
  rw [third, given] at asked
  exact absurd asked (by decide)

end Acquisition.Program
