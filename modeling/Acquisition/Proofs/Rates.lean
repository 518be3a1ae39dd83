/-
# Acquisition.Proofs.Rates — the frequency that is read back

A timer keeps its period in whole nanoseconds, and both setting a frequency and reading it back
divide a second and drop the rest. The two divisions are two sides of one exchange: a period is at
most that of a frequency just if the frequency is at most that of the period (`le_div_exchange`). So
what is read back is never less than what was set, and is the highest frequency with the same
period, which is why setting it again changes nothing.

Nothing is lost as long as the period is at least the frequency (`div_div_eq_self`), which is up to
the square root of the nanoseconds in a second. `frequency_read_back` says this of a timer after any
calls.
-/
import Acquisition.Power
import Acquisition.Trigger

namespace Acquisition

set_option autoImplicit false

/-! ## Dividing twice -/

section Dividing

variable {total first second : Nat}

/-- A number is at most a quotient just if the divisor is at most the quotient by that number. -/
theorem le_div_exchange (one : 0 < first) (two : 0 < second) :
    first ≤ total / second ↔ second ≤ total / first := by
  rw [Nat.le_div_iff_mul_le two, Nat.le_div_iff_mul_le one, Nat.mul_comm]

theorem le_div_div (one : 0 < first) (fits : first ≤ total) : first ≤ total / (total / first) :=
  (le_div_exchange one (Nat.div_pos fits one)).2 (Nat.le_refl _)

/-- The third division undoes the second. -/
theorem div_div_div_eq (one : 0 < first) (fits : first ≤ total) :
    total / (total / (total / first)) = total / first := by
  have positive : 0 < total / first := Nat.div_pos fits one
  refine Nat.le_antisymm ?_ (le_div_div positive (Nat.div_le_self _ _))
  exact Nat.div_le_div_left (le_div_div one fits) one

theorem div_div_mono (two : 0 < second) (ordered : first ≤ second) (one : 0 < first)
    (fits : second ≤ total) : total / (total / first) ≤ total / (total / second) :=
  Nat.div_le_div_left (Nat.div_le_div_left ordered one) (Nat.div_pos fits two)

/-- Nothing is lost as long as the quotient is not less than the divisor. -/
theorem div_div_eq_self (one : 0 < first) (small : first * first ≤ total) :
    total / (total / first) = first := by
  have large : first ≤ total / first := (Nat.le_div_iff_mul_le one).2 small
  have fits : first ≤ total := Nat.le_trans (Nat.le_mul_self first) small
  refine Nat.le_antisymm (Nat.le_of_lt_succ ?_) (le_div_div one fits)
  rw [Nat.div_lt_iff_lt_mul (Nat.lt_of_lt_of_le one large)]
  calc total < total / first * first + first := Nat.lt_div_mul_add one
    _ ≤ total / first * first + total / first := Nat.add_le_add_left large _
    _ = (first + 1) * (total / first) := by rw [Nat.add_mul, Nat.one_mul, Nat.mul_comm]

end Dividing

/-! ## Timers -/

namespace Timer

/-- A timer whose period is from a nanosecond to a second. -/
def InRange (timer : Timer) : Prop :=
  1 ≤ timer.period ∧ timer.period ≤ nanosecondsPerSecond

variable {timer : Timer} {hertz : Nat}

theorem InRange.frequency (range : timer.InRange) :
    1 ≤ timer.frequency ∧ timer.frequency ≤ nanosecondsPerSecond :=
  ⟨Nat.div_pos range.2 range.1, Nat.div_le_self _ _⟩

/-- A frequency is turned down just if there is no such period, and then nothing changes. -/
theorem setFrequency_refused (outside : hertz = 0 ∨ nanosecondsPerSecond < hertz) :
    timer.setFrequency hertz = (.error .invalid, timer) := by
  rw [setFrequency, if_pos (by simpa using outside)]

theorem setFrequency_done (positive : 0 < hertz) (fits : hertz ≤ nanosecondsPerSecond) :
    timer.setFrequency hertz =
      (.ok (), { timer with period := nanosecondsPerSecond / hertz }) := by
  rw [setFrequency, if_neg]
  simp only [Bool.or_eq_true, decide_eq_true_eq]
  omega

/-- A call leaves a period in range, whether it is refused or not. -/
theorem InRange.setFrequency (range : timer.InRange) (hertz : Nat) :
    (timer.setFrequency hertz).2.InRange := by
  by_cases outside : hertz = 0 ∨ nanosecondsPerSecond < hertz
  · rw [setFrequency_refused outside]
    exact range
  · have positive : 0 < hertz := by omega
    have fits : hertz ≤ nanosecondsPerSecond := by omega
    rw [setFrequency_done positive fits]
    exact ⟨Nat.div_pos fits positive, Nat.div_le_self _ _⟩

/-- A new timer after calls that set its frequency, of which some may have been refused. -/
def afterCalls (calls : List Nat) : Timer :=
  calls.foldl (fun timer hertz => (timer.setFrequency hertz).2) {}

theorem inRange_afterCalls (calls : List Nat) : (afterCalls calls).InRange := by
  have kept : ∀ (calls : List Nat) {timer : Timer}, timer.InRange →
      (calls.foldl (fun timer hertz => (timer.setFrequency hertz).2) timer).InRange := by
    intro calls
    induction calls with
    | nil => exact id
    | cons hertz rest ih => exact fun range => ih (range.setFrequency hertz)
  exact kept calls ⟨by decide, by decide⟩

/-- **What is read back of a frequency.** After any calls the period is from a nanosecond to a
second, so that the frequency can be read. A frequency that no such period has is refused and
changes nothing. Any other is taken, and what is read back then is the highest frequency with the
same period: not less than what was asked for, the same up to the square root of the nanoseconds in
a second, not less for a higher frequency, and not changed by setting it again. -/
theorem frequency_read_back (calls : List Nat) :
    let timer : Timer := afterCalls calls
    (1 ≤ timer.period ∧ timer.period ≤ 10 ^ (9 : Nat)) ∧
    (1 ≤ timer.frequency ∧ timer.frequency ≤ 10 ^ (9 : Nat)) ∧
    ∀ hertz : Nat,
      ((timer.setFrequency hertz).1 = .error .invalid ↔ hertz = 0 ∨ 10 ^ (9 : Nat) < hertz) ∧
      (hertz = 0 ∨ 10 ^ (9 : Nat) < hertz → timer.setFrequency hertz = (.error .invalid, timer)) ∧
      (0 < hertz → hertz ≤ 10 ^ (9 : Nat) → ∃ tuned, timer.setFrequency hertz = (.ok (), tuned) ∧
        tuned.running = timer.running ∧
        hertz ≤ tuned.frequency ∧
        (hertz * hertz ≤ 10 ^ (9 : Nat) → tuned.frequency = hertz) ∧
        timer.setFrequency tuned.frequency = (.ok (), tuned) ∧
        (∀ other, timer.setFrequency other = (.ok (), tuned) → other ≤ tuned.frequency) ∧
        (∀ others higher, hertz ≤ higher → higher ≤ 10 ^ (9 : Nat) →
          tuned.frequency ≤ ((afterCalls others).setFrequency higher).2.frequency) ∧
        tuned.setFrequency tuned.frequency = (.ok (), tuned)) := by
  have second : nanosecondsPerSecond = 10 ^ (9 : Nat) := rfl
  rw [← second]
  intro timer
  have range : timer.InRange := inRange_afterCalls calls
  refine ⟨range, range.frequency, fun hertz => ⟨?_, setFrequency_refused, ?_⟩⟩
  · by_cases outside : hertz = 0 ∨ nanosecondsPerSecond < hertz
    · rw [setFrequency_refused outside]
      exact iff_of_true rfl outside
    · rw [setFrequency_done (by omega) (by omega)]
      exact iff_of_false (by simp) outside
  intro positive fits
  have period : 0 < nanosecondsPerSecond / hertz := Nat.div_pos fits positive
  let tuned : Timer := { timer with period := nanosecondsPerSecond / hertz }
  have readable : tuned.InRange := ⟨period, Nat.div_le_self _ _⟩
  -- setting what is read back gives the period that is there already
  have again (other : Timer) : other.setFrequency tuned.frequency =
      (.ok (), { other with period := nanosecondsPerSecond / hertz }) := by
    have same : nanosecondsPerSecond / tuned.frequency = nanosecondsPerSecond / hertz :=
      div_div_div_eq positive fits
    rw [setFrequency_done readable.frequency.1 readable.frequency.2, same]
  refine ⟨tuned, setFrequency_done positive fits, rfl, le_div_div positive fits,
    fun small => div_div_eq_self positive small, again timer, ?_, ?_, again tuned⟩
  · intro other (taken : timer.setFrequency other = (.ok (), tuned))
    by_cases outside : other = 0 ∨ nanosecondsPerSecond < other
    · rw [setFrequency_refused outside] at taken
      cases (Prod.mk.inj taken).1
    · rw [setFrequency_done (by omega) (by omega)] at taken
      have same : nanosecondsPerSecond / other = nanosecondsPerSecond / hertz :=
        congrArg Timer.period (Prod.mk.inj taken).2
      calc other ≤ nanosecondsPerSecond / (nanosecondsPerSecond / other) :=
            le_div_div (by omega) (by omega)
        _ = tuned.frequency := by rw [same]; rfl
  · intro others higher ordered limit
    rw [setFrequency_done (Nat.lt_of_lt_of_le positive ordered) limit]
    exact div_div_mono (Nat.lt_of_lt_of_le positive ordered) ordered positive limit

/-- A frequency beyond the square root is read back higher than it was set. -/
example : ((afterCalls [0, 40000]).setFrequency 300000001).2.frequency = 333333333 := by decide

end Timer

end Acquisition
