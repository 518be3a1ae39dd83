/-
# Acquisition.Proofs.Responses — what a part answers to any stream of words

Whatever words a part is sent, commands, padding or garbage, each as a frame of its own, the
answer to a word was settled two words earlier. It is the conversion of the input, over the
range, that the part had taken over by then (`lastTaken`): those of the last word in control
mode with its write bit set, or what the part had chosen at the start if there was none. Input
and range are both delayed by the same two words. The first answer is whatever was pending, and
the second the conversion that was due at the start.
-/
import Acquisition.Proofs.Pipeline
import Mathlib.Data.List.Induction
import Mathlib.Data.List.TakeDrop
import Mathlib.Data.Nat.Bitwise

namespace Acquisition

set_option autoImplicit false

/-! ## One word at a time -/

namespace Spi

/-- The word that an operation of one word sends; what only reads sends zero. -/
def Operation.sent : Operation UInt16 → UInt16
  | .write words | .transfer _ words | .inPlace words => words.headD 0
  | .read _ | .delay _ => 0

/-- What the reader of an operation of one word gets to see of an answer: nothing, if the
operation reads nothing. -/
def Operation.seen (operation : Operation UInt16) (answer : UInt16) : List UInt16 :=
  [answer].take (operation.buffer 0).length

/-- Carries out operations in order, each as a transaction of its own, and collects for each
whether it failed and what was read. -/
def performEach {σ : Type} [Device σ UInt16] :
    List (Operation UInt16) → σ → Option (List (Option Fault × List UInt16) × σ)
  | [], device => some ([], device)
  | operation :: rest, device =>
      match perform device operation (operation.buffer 0) with
      | none => none
      | some done =>
          (performEach rest done.device).map fun (others, device) =>
            ((done.fault, done.buffer) :: others, device)

/-- An answer laid over the buffer of an operation of one word. -/
theorem Operation.overlay_buffer {operation : Operation UInt16} (single : operation.width = 1)
    (answer : UInt16) : overlay (operation.buffer 0) [answer] = operation.seen answer := by
  have short : (operation.buffer 0).length ≤ 1 := by
    cases operation with
    | transfer count words =>
        simp only [width] at single
        simp only [buffer, List.length_replicate]
        omega
    | _ => simp_all [width, buffer]
  rw [overlay, seen, List.drop_eq_nil_of_le (by simpa using short), List.append_nil]

end Spi

namespace Converter

/-! ## What a word makes a part take over -/

/-- The input and the range that a word makes a part take over: bits 10 to 7, wrapped round at
the number of inputs, and bit 6. A word does so if its bits 15 to 12 are 0001 and bit 11 is set,
and otherwise not. -/
def taken? (part : Part) (word : UInt16) : Option (Nat × Range) :=
  if word.toNat / 2 ^ 12 = 1 ∧ word.toNat.testBit 11 then
    some (word.toNat / 2 ^ 7 % 2 ^ 4 % part.inputs,
      if word.toNat.testBit 6 then .double else .single)
  else none

/-- The input and the range last taken over from a stream of words. -/
def lastTaken (part : Part) (start : Nat × Range) (words : List UInt16) : Nat × Range :=
  (words.filterMap (taken? part)).getLast?.getD start

theorem lastTaken_concat (part : Part) (start : Nat × Range) (words : List UInt16)
    (word : UInt16) :
    lastTaken part start (words ++ [word]) =
      (taken? part word).getD (lastTaken part start words) := by
  rw [lastTaken, lastTaken, List.filterMap_append, List.getLast?_append]
  cases taken : taken? part word <;> simp [taken]

/-- A mask of one bit asks for that bit. -/
theorem and_bit_ne_zero (word mask : UInt16) {position : Nat}
    (bit : mask.toNat = 2 ^ position) : (word &&& mask != 0) = word.toNat.testBit position := by
  have masked : (word &&& mask).toNat = (word.toNat.testBit position).toNat * 2 ^ position := by
    rw [UInt16.toNat_and, bit, Nat.and_two_pow]
  rw [Bool.eq_iff_iff, bne_iff_ne, Ne, ← UInt16.toNat_inj, masked]
  cases word.toNat.testBit position with
  | false => simp
  | true => simp

/-- The highest four bits of a word are those of a control word just if they are 0001. -/
theorem mode_eq_manual (word : UInt16) :
    (word &&& 0xF000 == manualBit) = decide (word.toNat / 2 ^ 12 = 1) := by
  have small := word.toNat_lt
  have high : (word.toNat &&& 0xF000) / 2 ^ 12 = word.toNat / 2 ^ 12 := by
    rw [Nat.and_div_two_pow, show (0xF000 : Nat) / 2 ^ 12 = 2 ^ 4 - 1 from rfl,
      Nat.and_two_pow_sub_one_eq_mod, Nat.mod_eq_of_lt (by omega)]
  have low : (word.toNat &&& 0xF000) % 2 ^ 12 = 0 := by
    rw [Nat.and_mod_two_pow, show (0xF000 : Nat) % 2 ^ 12 = 0 from rfl, Nat.and_zero]
  rw [Bool.eq_iff_iff, beq_iff_eq, decide_eq_true_iff, ← UInt16.toNat_inj, UInt16.toNat_and,
    show UInt16.toNat 0xF000 = 0xF000 from rfl, show manualBit.toNat = 2 ^ 12 from rfl]
  omega

namespace SimulatedPart

/-- The range a part converts over. -/
def range (chip : SimulatedPart) : Range :=
  if chip.doubled then .double else .single

theorem conversion_eq (chip : SimulatedPart) :
    chip.conversion = chip.reading chip.range chip.selected := by
  rw [conversion, reading, code, fullScale, range]
  split <;> rfl

theorem latches_eq (word : UInt16) :
    latches word = decide (word.toNat / 2 ^ 12 = 1 ∧ word.toNat.testBit 11) := by
  rw [latches, mode_eq_manual, and_bit_ne_zero word writeBit (show writeBit.toNat = 2 ^ 11 from rfl)]
  simp

/-- **After one frame** a part has taken over what the word of the frame says, if it says
anything, and has kept its input and range otherwise. -/
theorem step_taken (chip : SimulatedPart) (word : UInt16) :
    ((chip.step word).selected, (chip.step word).range) =
      (taken? chip.part word).getD (chip.selected, chip.range) := by
  have input : ((word >>> 7) &&& 0xF).toNat = word.toNat / 2 ^ 7 % 2 ^ 4 := by
    rw [UInt16.toNat_and, UInt16.toNat_shiftRight, show UInt16.toNat 7 % 16 = 7 from rfl,
      Nat.shiftRight_eq_div_pow, show UInt16.toNat 0xF = 2 ^ 4 - 1 from rfl,
      Nat.and_two_pow_sub_one_eq_mod]
  have doubled := and_bit_ne_zero word rangeBit (show rangeBit.toNat = 2 ^ 6 from rfl)
  by_cases takes : word.toNat / 2 ^ 12 = 1 ∧ word.toNat.testBit 11
  · simp only [step, latch, latches_eq, takes, and_self, decide_true, if_true, range, input,
      doubled, taken?, Option.getD_some]
  · simp only [step, latch, latches_eq, takes, decide_false, Bool.false_eq_true, if_false, taken?,
      Option.getD_none, range]

/-! ## What was taken over after any words -/

theorem run_concat (chip : SimulatedPart) (words : List UInt16) (word : UInt16) :
    chip.run (words ++ [word]) = (chip.run words).step word := by
  simp [run]

/-- No words change what a part is made of. -/
theorem run_alike (chip : SimulatedPart) (words : List UInt16) : chip.Alike (chip.run words) := by
  induction words generalizing chip with
  | nil => exact ⟨rfl, rfl, rfl, rfl⟩
  | cons word rest ih => exact (chip.step_alike word).trans (ih (chip.step word))

/-- **After any words** a part has taken over what the last of them says that says anything. -/
theorem run_taken (chip : SimulatedPart) (words : List UInt16) :
    ((chip.run words).selected, (chip.run words).range) =
      lastTaken chip.part (chip.selected, chip.range) words := by
  induction words using List.reverseRecOn with
  | nil => rfl
  | append_singleton words word ih =>
      rw [run_concat, step_taken, ih, (chip.run_alike words).part, lastTaken_concat]

/-- The conversion that is due after any words is a reading of the part as it was at first. -/
theorem run_conversion (chip : SimulatedPart) (words : List UInt16) :
    (chip.run words).conversion =
      let taken := lastTaken chip.part (chip.selected, chip.range) words
      chip.reading taken.2 taken.1 := by
  rw [conversion_eq, (chip.run_alike words).reading, ← run_taken]

/-- The answer to a word is what is pending after the words before it. -/
theorem answers_eq_pending (chip : SimulatedPart) {words : List UInt16} {place : Nat}
    (inside : place < words.length) :
    (chip.answers words)[place]? = some (chip.run (words.take place)).pending := by
  induction words generalizing chip place with
  | nil => simp at inside
  | cons word rest ih =>
      cases place with
      | zero => rfl
      | succ place => exact ih (chip.step word) (by simpa using inside)

/-- **Two words late.** The answer to each word but the first is the conversion that was due
after the words before the one before it. -/
theorem answers_eq_reading (chip : SimulatedPart) {words : List UInt16} {place : Nat}
    (inside : place + 1 < words.length) :
    (chip.answers words)[place + 1]? =
      let taken := lastTaken chip.part (chip.selected, chip.range) (words.take place)
      some (chip.reading taken.2 taken.1) := by
  have here : place < words.length := by omega
  rw [answers_eq_pending chip inside, ← List.take_concat_get' words place here, run_concat,
    step_pending, run_conversion]

/-! ## Transactions -/

/-- An operation of one word is one frame of the word it sends. -/
theorem operate_ready {chip : SimulatedPart} (ready : chip.Ready)
    {operation : Spi.Operation UInt16} (single : operation.width = 1) :
    ∃ received, chip.operate operation = some (received, chip.step operation.sent) ∧
      Spi.overlay (operation.buffer 0) received = operation.seen chip.pending := by
  have framed := frame_ready ready operation.sent
  cases operation with
  | write words =>
      cases words with
      | nil => simp [Spi.Operation.width] at single
      | cons word rest =>
          refine ⟨[], ?_, rfl⟩
          exact congrArg (Option.map fun done => ([], done.2)) framed
  | read count =>
      cases count with
      | zero => simp [Spi.Operation.width] at single
      | succ count =>
          refine ⟨[chip.pending], ?_, Spi.Operation.overlay_buffer single _⟩
          exact congrArg (Option.map fun done => ([done.1], done.2)) framed
  | transfer count words =>
      refine ⟨[chip.pending].take count, ?_, ?_⟩
      · exact congrArg (Option.map fun done => ([done.1].take count, done.2)) framed
      · cases count with
        | zero => rfl
        | succ count =>
            rw [List.take_of_length_le (by simp)]
            exact Spi.Operation.overlay_buffer single _
  | inPlace words =>
      cases words with
      | nil => simp [Spi.Operation.width] at single
      | cons word rest =>
          refine ⟨[chip.pending], ?_, Spi.Operation.overlay_buffer single _⟩
          exact congrArg (Option.map fun done => ([done.1], done.2)) framed
  | delay nanoseconds => simp [Spi.Operation.width] at single

/-- Operations of one word each are answered as the words they send are. -/
theorem performEach_ready (operations : List (Spi.Operation UInt16)) {chip : SimulatedPart}
    (ready : chip.Ready) (single : ∀ operation ∈ operations, operation.width = 1) :
    let words := operations.map Spi.Operation.sent
    Spi.performEach operations chip =
      some (List.zipWith (fun operation answer => (none, operation.seen answer)) operations
        (chip.answers words), chip.run words) := by
  induction operations generalizing chip with
  | nil => rfl
  | cons operation rest ih =>
      obtain ⟨here, later⟩ := List.forall_mem_cons.1 single
      obtain ⟨received, operated, seen⟩ := operate_ready ready here
      have sent := perform_ready ready here operated (operation.buffer 0)
      rw [seen] at sent
      have others := ih ((chip.step_alike operation.sent).ready ready) later
      simp only [Spi.performEach, sent, others, Option.map_some]
      rfl

/-- **A part answers every stream of words two words late.** Let a part that understands words
of sixteen bits and has a range to convert over, in whatever state it is, be sent any words, each
as a frame of its own. Then every frame succeeds, and the answers are, in order: what was
pending; the conversion of the input chosen at the start; and for each later word the conversion
of the input, over the range, last taken over from the words up to two before it. -/
theorem answers_two_late (chip : SimulatedPart) (ready : chip.Ready)
    (operations : List (Spi.Operation UInt16))
    (single : ∀ operation ∈ operations, operation.width = 1) :
    let words := operations.map Spi.Operation.sent
    let start := (chip.selected, chip.range)
    ∃ (answers : List UInt16) (after : SimulatedPart),
      Spi.performEach operations chip =
        some (List.zipWith (fun operation answer => (none, operation.seen answer)) operations
          answers, after) ∧
      answers.length = words.length ∧
      (0 < words.length → answers[0]? = some chip.pending) ∧
      (1 < words.length → answers[1]? = some (chip.reading chip.range chip.selected)) ∧
      ∀ place, place + 2 < words.length →
        let taken := lastTaken chip.part start (words.take (place + 1))
        answers[place + 2]? = some (chip.reading taken.2 taken.1) := by
  intro words start
  refine ⟨chip.answers words, chip.run words, performEach_ready operations ready single,
    length_answers chip words, ?_, ?_, ?_⟩
  · exact fun inside => chip.answers_eq_pending inside
  · exact fun inside => chip.answers_eq_reading inside
  · exact fun place inside => chip.answers_eq_reading inside

/-- A part of eight inputs that was left over the doubled range with a result pending. -/
def leftOver : SimulatedPart where
  part := .ads7955
  voltages := [0, 5000000, 0, 9, 1250000, 7, 0, -3]
  reference := 2500000
  wordReady := true
  selected := 4
  doubled := true
  pending := 0xBEEF

/-- A command for input 1 over the doubled range, one for input 12, of which there is none, over
the single range, and words around them that say nothing: no write bit, another mode, zero. -/
def stream : List (Spi.Operation UInt16) :=
  [.inPlace [0x10C0], .transfer 1 [0x18C0], .write [0x28C0], .read 1, .inPlace [0x1E00],
    .transfer 1 [0xFFFF], .read 1]

/-- The two conversions of input 4 differ by the range they were taken over. -/
theorem leftOver_answers :
    ∃ after, Spi.performEach stream leftOver =
      some ([(none, [0xBEEF]), (none, [0x43FC]), (none, []), (none, [0x1FFC]), (none, [0x1FFC]),
        (none, [0x1FFC]), (none, [0x47FC])], after) := by
  have ready : leftOver.Ready := ⟨rfl, by decide⟩
  obtain ⟨answers, after, performed, length, first, second, later⟩ :=
    answers_two_late leftOver ready stream (by decide)
  have found : answers = [0xBEEF, 0x43FC, 0x43FC, 0x1FFC, 0x1FFC, 0x1FFC, 0x47FC] := by
    refine List.ext_getElem? fun place => ?_
    match place with
    | 0 => exact first (by decide)
    | 1 => exact (second (by decide)).trans (by decide +kernel)
    | 2 => exact (later 0 (by decide)).trans (by decide +kernel)
    | 3 => exact (later 1 (by decide)).trans (by decide +kernel)
    | 4 => exact (later 2 (by decide)).trans (by decide +kernel)
    | 5 => exact (later 3 (by decide)).trans (by decide +kernel)
    | 6 => exact (later 4 (by decide)).trans (by decide +kernel)
    | place + 7 =>
        rw [List.getElem?_eq_none (by rw [length]; simp [stream]), List.getElem?_eq_none (by simp)]
  rw [found] at performed
  exact ⟨after, performed⟩

end SimulatedPart

end Converter

end Acquisition
