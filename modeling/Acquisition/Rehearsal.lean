/-
# Acquisition.Rehearsal — a provider that does what it is told

A `Rehearsal` stands behind a device in place of anything real: it is told what to
answer for each attribute and whether to agree to a capture. Its handler follows a
`Routine`: what to push, how many edges to raise while an edge is in hand, how often
to report it done, and for how many of its first runs to raise one more edge after
that.
-/

import Acquisition.Device

namespace Acquisition

set_option autoImplicit false

/-- What to answer for an attribute. -/
inductive Reading where
  /-- The address of the channel counted up from a number, in thirty-two bits. -/
  | countedFrom (number : Int)
  | fraction (numerator denominator : Int)
  | refused (error : Error)
  deriving DecidableEq

/-- The answer for a channel. -/
def Reading.answer (channel : Channel) : Reading → Except Error Value
  | .countedFrom number => .ok (.whole (Int32.ofInt (number + channel.address)).toInt)
  | .fraction numerator denominator => .ok (.fraction numerator denominator)
  | .refused error => .error error

/-- What a provider is told to do. -/
structure Rehearsal where
  readings : List (Attribute × Reading) := []
  /-- Why to turn down every capture. -/
  refusal : Option Error := none
  /-- Whether to agree to every capture without taking notice of it. -/
  indifferent : Bool := false
  deriving DecidableEq

/-- What a handler is told to do. -/
structure Routine where
  samples : Option (List UInt16) := none
  /-- The time pushed with the samples. -/
  stamp : Int64 := 0
  /-- Edges raised while an edge is in hand. -/
  inside : Nat := 0
  notifications : Nat := 1
  /-- Runs still to come that raise one more edge when they are done. -/
  encores : Nat := 0
  deriving DecidableEq

/-- What the next run of the handler does. -/
def Routine.turn (routine : Routine) : Turn where
  record := routine.samples.map fun samples => (samples, routine.stamp)
  acts := List.replicate routine.inside .raise ++
    (List.replicate routine.notifications .report ++
      List.replicate (min routine.encores 1) .raise)

/-- Of what a run does, only the encore may be delivered. -/
theorem Routine.behind_turn (routine : Routine) :
    Act.behind routine.turn.acts ≤ min routine.encores 1 := by
  rw [turn, Act.behind_raises]
  cases routine.notifications with
  | zero =>
      have none := Act.behind_raises (min routine.encores 1) []
      rw [List.append_nil] at none
      exact Nat.le_trans (Nat.le_of_eq none) (Nat.zero_le _)
  | succ further =>
      rw [List.replicate_succ, List.cons_append, Act.behind]
      simp [List.count_replicate]

instance : Provider Rehearsal Routine where
  read _ channel asked rehearsal :=
    some
      (match rehearsal.readings.lookup asked with
        | some reading => reading.answer channel
        | none => .error .notSupported,
        rehearsal)
  program _ rehearsal :=
    (match if rehearsal.indifferent then none else rehearsal.refusal with
      | some error => .error error
      | none => .ok (),
      rehearsal)
  handle _ routine rehearsal :=
    some (routine.turn, { routine with encores := routine.encores - 1 }, rehearsal, [])
  budget routine _ := routine.encores
  budget_le := by
    intro time routine rehearsal turn next later lines handled
    simp only [Option.some.injEq, Prod.mk.injEq] at handled
    obtain ⟨rfl, rfl, _, _⟩ := handled
    have raised := routine.behind_turn
    simp only
    omega

end Acquisition
