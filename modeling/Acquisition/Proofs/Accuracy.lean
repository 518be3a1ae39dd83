/-
# Acquisition.Proofs.Accuracy — how far a measurement is from the voltage

A voltage is measured by cutting it off to the range and rounding it down to a whole step,
and the size of a step is derived from the reference, of which only the whole millivolts are
counted. `measured` is the number that comes out. Multiplied by the size of a step it falls
short of the voltage by at most one step and twice the part of the reference that is less
than a millivolt, and it never goes beyond (`measured_error`).

`measurement_error` says this of a converter that is bound: for every part and reference,
whatever the converter was used for before, the two attributes of an input bring back its
voltage that exactly.
-/
import Acquisition.Proofs.Agreement
import Mathlib.Data.Rat.Cast.Order
import Mathlib.Tactic.FieldSimp
import Mathlib.Tactic.Linarith
import Mathlib.Tactic.Ring

namespace Acquisition

open Acquisition.Converter (Part Range Settings SimulatedPart)

set_option autoImplicit false

/-! ## The number that is measured -/

namespace Converter

variable {reference : Int}

/-- The size of all steps together, in whole millivolts of the reference. -/
def span (reference : Int) : Int :=
  Settings.standard.fullScale reference

/-- The voltage as far as the range goes. -/
def withinRange (reference voltage : Int) : Int :=
  max 0 (min voltage (2 * reference))

/-- The whole millivolts leave less than two millivolts of the range out. -/
theorem span_eq (range : 0 ≤ reference) :
    span reference * 1000 = 2 * reference - 2 * (reference % 1000) := by
  have whole : span reference = reference.tdiv 1000 * 2 := rfl
  rw [whole, Int.tdiv_eq_ediv_of_nonneg range]
  omega

theorem span_nonneg (range : 0 ≤ reference) : 0 ≤ span reference := by
  have whole := span_eq range
  omega

theorem withinRange_bounds (range : 0 ≤ reference) (voltage : Int) :
    0 ≤ withinRange reference voltage ∧ withinRange reference voltage ≤ 2 * reference := by
  unfold withinRange
  omega

namespace Part

/-- What a voltage is measured as over twice the reference, both in microvolts. -/
def measured (part : Part) (reference voltage : Int) : Nat :=
  SimulatedPart.convert part.profile (Range.double.fullScale reference) voltage

/-- The largest number that is measured, as the denominator of a step. -/
def steps (part : Part) : Int :=
  2 ^ part.profile.resolution - 1

theorem steps_eq (part : Part) : part.steps = part.profile.maxCode := by
  cases part <;> rfl

theorem steps_pos (part : Part) : 0 < part.steps := by
  cases part <;> decide

theorem measured_zero (part : Part) (voltage : Int) : part.measured 0 voltage = 0 :=
  rfl

theorem measured_eq (part : Part) (positive : 0 < reference) (voltage : Int) :
    (part.measured reference voltage : Int) =
      withinRange reference voltage * part.steps / (2 * reference) := by
  have room : reference * 2 ≠ 0 := by omega
  have cut := (withinRange_bounds (Int.le_of_lt positive) voltage).1
  have nonneg : 0 ≤ withinRange reference voltage * part.steps / (2 * reference) :=
    Int.ediv_nonneg (Int.mul_nonneg cut (Int.le_of_lt part.steps_pos)) (by omega)
  rw [measured, SimulatedPart.convert, Range.fullScale, if_neg room, ← steps_eq,
    Int.mul_comm reference 2]
  exact Int.toNat_of_nonneg nonneg

/-- A whole step further would be beyond the voltage. -/
theorem measured_bounds (part : Part) (positive : 0 < reference) (voltage : Int) :
    part.measured reference voltage * (2 * reference) ≤
        withinRange reference voltage * part.steps ∧
      withinRange reference voltage * part.steps <
        (part.measured reference voltage + 1) * (2 * reference) := by
  rw [measured_eq part positive]
  exact ⟨Int.ediv_mul_le _ (by omega), Int.lt_ediv_add_one_mul_self _ (by omega)⟩

theorem measured_le (part : Part) (range : 0 ≤ reference) (voltage : Int) :
    (part.measured reference voltage : Int) ≤ part.steps := by
  rw [steps_eq]
  apply Int.ofNat_le.2
  apply SimulatedPart.convert_le
  rw [Range.fullScale]
  omega

/-- A higher voltage is not measured as less. -/
theorem measured_mono (part : Part) (range : 0 ≤ reference) {low high : Int}
    (ordered : low ≤ high) : part.measured reference low ≤ part.measured reference high := by
  rcases Int.lt_or_eq_of_le range with positive | zero
  · have cut : withinRange reference low ≤ withinRange reference high := by
      unfold withinRange
      omega
    have scaled := Int.mul_le_mul_of_nonneg_right cut (Int.le_of_lt part.steps_pos)
    apply Int.ofNat_le.1
    rw [measured_eq part positive, measured_eq part positive]
    exact Int.ediv_le_ediv (by omega) scaled
  · rw [← zero, measured_zero, measured_zero]

theorem measured_low (part : Part) (range : 0 ≤ reference) {voltage : Int} (low : voltage ≤ 0) :
    part.measured reference voltage = 0 := by
  rcases Int.lt_or_eq_of_le range with positive | zero
  · have cut : withinRange reference voltage = 0 := by
      unfold withinRange
      omega
    apply Int.ofNat_inj.1
    rw [measured_eq part positive, cut, Int.zero_mul, Int.zero_ediv]
    rfl
  · rw [← zero, measured_zero]

theorem measured_high (part : Part) (positive : 0 < reference) {voltage : Int}
    (high : 2 * reference ≤ voltage) : (part.measured reference voltage : Int) = part.steps := by
  have cut : withinRange reference voltage = 2 * reference := by
    unfold withinRange
    omega
  rw [measured_eq part positive, cut]
  exact Int.mul_ediv_cancel_left _ (by omega)

/-! ## What it says about the voltage -/

/-- In whole numbers: what is measured never goes beyond the voltage, and falls short of it by
at most one step and what the reference has beside its whole millivolts. -/
theorem measured_span (part : Part) (range : 0 ≤ reference) (voltage : Int) :
    let code : Int := part.measured reference voltage
    code * (span reference * 1000) ≤ withinRange reference voltage * part.steps ∧
      withinRange reference voltage * part.steps ≤
        (code + 1) * (span reference * 1000) + 2 * (reference % 1000) * part.steps := by
  intro code
  have whole := span_eq range
  have spanned := span_nonneg range
  have rest := Int.emod_nonneg reference (by decide : (1000 : Int) ≠ 0)
  have cut := withinRange_bounds range voltage
  have nonneg : 0 ≤ code := Int.natCast_nonneg _
  have top : code ≤ part.steps := part.measured_le range voltage
  rcases Int.lt_or_eq_of_le range with positive | zero
  · obtain ⟨below, above⟩ := part.measured_bounds positive voltage
    have split : 2 * reference = span reference * 1000 + 2 * (reference % 1000) := by omega
    constructor
    · calc code * (span reference * 1000)
          ≤ code * (2 * reference) := Int.mul_le_mul_of_nonneg_left (by omega) nonneg
        _ ≤ _ := below
    · rcases Int.lt_or_eq_of_le top with short | full
      · calc withinRange reference voltage * part.steps
            ≤ (code + 1) * (2 * reference) := Int.le_of_lt above
          _ = (code + 1) * (span reference * 1000) + 2 * (reference % 1000) * (code + 1) := by
              rw [split, Int.mul_add, Int.mul_comm (2 * (reference % 1000))]
          _ ≤ (code + 1) * (span reference * 1000) + 2 * (reference % 1000) * part.steps :=
              Int.add_le_add_left (Int.mul_le_mul_of_nonneg_left (by omega) (by omega)) _
      -- the largest number stands for the end of the range, with no step to follow
      · calc withinRange reference voltage * part.steps
            ≤ 2 * reference * part.steps :=
              Int.mul_le_mul_of_nonneg_right cut.2 (Int.le_of_lt part.steps_pos)
          _ = code * (span reference * 1000) + 2 * (reference % 1000) * part.steps := by
              rw [split, full]
              ring
          _ ≤ (code + 1) * (span reference * 1000) + 2 * (reference % 1000) * part.steps := by
              linarith
  · have nothing : withinRange reference voltage = 0 := by omega
    have none : span reference * 1000 = 0 := by omega
    rw [nothing, none]
    constructor
    · simp
    · have positive := part.steps_pos
      have kept : 0 ≤ 2 * (reference % 1000) * part.steps :=
        Int.mul_nonneg (by omega) (Int.le_of_lt positive)
      simpa using kept

/-- **What is measured, times the size of a step, is the voltage up to one step and twice the
part of the reference that is less than a millivolt.** -/
theorem measured_error (part : Part) (range : 0 ≤ reference) (voltage : Int) :
    let raw : ℚ := part.measured reference voltage
    let numerator : ℚ := span reference
    let denominator : ℚ := part.steps
    let actual : ℚ := withinRange reference voltage
    raw * numerator * 1000 / denominator ≤ actual ∧
      actual ≤ raw * numerator * 1000 / denominator + numerator * 1000 / denominator +
        2 * (reference % 1000 : Int) := by
  intro raw numerator denominator actual
  have positive : 0 < denominator := Int.cast_pos.2 part.steps_pos
  obtain ⟨below, above⟩ := part.measured_span range voltage
  have below' : raw * (numerator * 1000) ≤ actual * denominator := by
    simp only [raw, numerator, actual, denominator]
    exact_mod_cast below
  have above' : actual * denominator ≤
      (raw + 1) * (numerator * 1000) + 2 * (reference % 1000 : Int) * denominator := by
    simp only [raw, numerator, actual, denominator]
    exact_mod_cast above
  constructor
  · rw [div_le_iff₀ positive]
    linarith
  · have together : raw * numerator * 1000 / denominator + numerator * 1000 / denominator +
          2 * (reference % 1000 : Int) =
        ((raw + 1) * (numerator * 1000) + 2 * (reference % 1000 : Int) * denominator) /
          denominator := by
      field_simp
    rw [together, le_div_iff₀ positive]
    exact above'

end Part

end Converter

/-! ## A bound converter -/

/-- The supply of a device is the one its binding names, whatever happened since. -/
theorem History.supply {binding : Binding} {fresh base : Session (Frontend SimulatedPart) Unit}
    (history : History binding fresh base)
    (first : ∃ device trigger, Bound binding fresh device trigger ∧
      device.provider.supply = binding.supply)
    {device : Device (Frontend SimulatedPart) Unit} {trigger : Trigger}
    (bound : Bound binding base device trigger) : device.provider.supply = binding.supply := by
  obtain ⟨found, _, here, supplied⟩ := history.device
    (fun device => device.provider.supply = binding.supply)
    (fun _ _ follows same => follows.supply.trans same) (fun _ _ _ same => same) first
  cases here.device_at.symm.trans bound.device_at
  exact supplied

/-- **The two attributes of an input bring back its voltage.** Bind a converter behind the
simulation of its own part, use it in any way and change voltages in between. As long as its
supply gives the reference of the part, the conversion of an input and the size of a step, each
read at any time, multiply to its voltage within the range, rounded down by at most one step and
twice the part of the reference below a millivolt. What is read depends on nothing but the part,
the reference and the voltage, and is monotone in the voltage from zero up to the number of
steps. -/
theorem measurement_error (part : Part) {reference : Int} (range : 0 ≤ reference) :
    ∃ measured : Int → Nat,
      (∀ {chip : SimulatedPart} {session fresh base : Session (Frontend SimulatedPart) Unit}
          {bus : String} {binding : Binding},
        chip.part = part → chip.reference = reference →
        session.probe chip part.deviceId bus = (.ok binding, fresh) →
        History binding fresh base →
        base.supplies.voltage binding.supply = .ok reference →
        ∃ now, binding.spi? base = some now ∧ now.part = part ∧
          ∀ input < part.inputs, ∃ (raw numerator denominator : Int)
              (read scaled : Session (Frontend SimulatedPart) Unit),
            binding.read base input .raw = some (.ok (.whole raw), read) ∧
            binding.read base input .scale =
              some (.ok (.fraction numerator denominator), scaled) ∧
            raw = measured (now.voltage input) ∧
            denominator = 2 ^ part.profile.resolution - 1 ∧
            let actual := max 0 (min (now.voltage input) (2 * reference))
            (raw * numerator * 1000 / denominator : ℚ) ≤ actual ∧
            (actual : ℚ) ≤ raw * numerator * 1000 / denominator +
              numerator * 1000 / denominator + 2 * (reference % 1000 : Int)) ∧
      (∀ voltage, (measured voltage : Int) ≤ 2 ^ part.profile.resolution - 1) ∧
      (∀ low high, low ≤ high → measured low ≤ measured high) ∧
      (∀ voltage ≤ 0, measured voltage = 0) ∧
      (0 < reference → ∀ voltage, 2 * reference ≤ voltage →
        (measured voltage : Int) = 2 ^ part.profile.resolution - 1) := by
  refine ⟨part.measured reference, ?_, part.measured_le range,
    fun low high ordered => part.measured_mono range ordered,
    fun voltage low => part.measured_low range low,
    fun positive voltage high => part.measured_high positive high⟩
  rintro chip session fresh base bus binding rfl rfl probed history supplied
  have made := Session.probe_ok probed
  have matched : chip.part = binding.part :=
    Option.some.inj ((Part.ofDeviceId?_deviceId chip.part).symm.trans made.part)
  obtain ⟨first, paced, bound, _, _, woken⟩ := made.bound
  have supply : first.provider.supply = binding.supply := by
    obtain ⟨number, placed⟩ := made.made
    cases bound.device_at.symm.trans placed
    rfl
  have alike : ({ chip with wordReady := true } : SimulatedPart).Alike
      first.provider.converter.device := by
    rw [woken]
    exact .refl _
  obtain ⟨device, trigger, voltages, still, near⟩ := history.bound ⟨first, paced, bound, alike⟩
  have kept := history.supply ⟨first, paced, bound, supply⟩ still
  let now := device.provider.converter.device
  have ready : now.Ready := ⟨near.wordReady, by rw [near.reference]; exact range⟩
  have same : now.part = binding.part := near.part.trans matched
  refine ⟨now, ?_, near.part, fun input existing => ?_⟩
  · rw [Binding.spi?, still.device_at, Option.map_some]
  rw [matched] at existing
  obtain ⟨picture, shows⟩ := Shows.of_bound still
  obtain ⟨read, _, converted, _⟩ := shows.read_raw ready same existing
  have other : ¬(Attribute.scale = .raw ∧ input < binding.part.inputs) := by simp
  obtain ⟨scaled, sized, _, _⟩ := still.read_other other
  have code : now.code .double input = chip.part.measured chip.reference (now.voltage input) := by
    rw [Part.measured, SimulatedPart.code, near.part, near.reference]
  have value : valueOf binding.part input (base.supplies.voltage device.provider.supply) .scale =
      .ok (.fraction (Converter.span chip.reference) chip.part.steps) := by
    rw [valueOf, if_pos existing, kept, supplied, matched]
    rfl
  rw [value] at sized
  refine ⟨_, _, _, read, scaled, converted, sized, congrArg Nat.cast code, rfl, ?_⟩
  rw [code]
  exact chip.part.measured_error range (now.voltage input)

/-! ## A reference that is no whole number of millivolts -/

/-- A session whose supply gives almost one millivolt more than two and a half volts. -/
def oddRig : Session (Frontend SimulatedPart) Unit where
  supplies := { regulators := ⟨[{ microvolts := 2500999 }]⟩, named := [(referenceSupply, ⟨0⟩)] }

/-- A part with that reference. -/
def oddPart : SimulatedPart :=
  { wiredPart with reference := 2500999 }

/-- The number measured at its input of 1.25 volts stands for less than that, by less than a step
of 4887 microvolts and twice 999 microvolts. -/
theorem odd_reference_error :
    ∃ (numerator denominator : Int) (read scaled : Session (Frontend SimulatedPart) Unit),
      let fresh := (oddRig.probe oddPart Part.ads7955.deviceId "spi0.1").2
      onRig.read fresh 1 .raw = some (.ok (.whole 255), read) ∧
      onRig.read fresh 1 .scale = some (.ok (.fraction numerator denominator), scaled) ∧
      ((255 : Int) * numerator * 1000 / denominator : ℚ) ≤ (1250000 : Int) ∧
      ((1250000 : Int) : ℚ) ≤ (255 : Int) * numerator * 1000 / denominator +
        numerator * 1000 / denominator + 2 * (999 : Int) := by
  let fresh := (oddRig.probe oddPart Part.ads7955.deviceId "spi0.1").2
  have probed : oddRig.probe oddPart Part.ads7955.deviceId "spi0.1" = (.ok onRig, fresh) :=
    Session.probe_of_toOption (by decide +kernel)
  obtain ⟨measured, exact, _⟩ := measurement_error .ads7955 (by decide : (0 : Int) ≤ 2500999)
  obtain ⟨now, found, _, reads⟩ := exact (by rfl) (by rfl) probed .start (by decide +kernel)
  obtain ⟨raw, numerator, denominator, read, scaled, converted, sized, _, _, below, above⟩ :=
    reads 1 (by decide)
  have voltage : (onRig.spi? fresh).map (·.voltage 1) = some 1250000 := by decide +kernel
  have code : (onRig.read fresh 1 .raw).map (·.1.toOption) = some (some (.whole 255)) := by
    decide +kernel
  rw [converted] at code
  cases code
  have exactly : now.voltage 1 = 1250000 := by simpa [found] using voltage
  rw [exactly] at below above
  exact ⟨numerator, denominator, read, scaled, converted, sized, below, above⟩

end Acquisition
