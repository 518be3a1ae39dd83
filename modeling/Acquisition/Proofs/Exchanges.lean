/-
# Acquisition.Proofs.Exchanges — what exchanges change, and what they cannot

An exchange is a number of transactions of one word each. It changes the device on the bus
and the words received last; the part, the settings and the scan prepared stay (`Keeps`).
So does every property of the device that single transactions respect (`Spi.Stable`), and a
device that always answers carries every exchange through (`Spi.Answering`), whatever it
answers. Reading one input is a `chain` of three exchanges, of which each has these properties.
-/
import Acquisition.Proofs.Pipeline

namespace Acquisition

open Acquisition.Converter (Problem Settings PreparedScan Response command)

set_option autoImplicit false

/-! ## Properties that transactions respect -/

namespace Spi

variable {σ : Type} [Device σ UInt16]

/-- A property of devices that no transaction of one word ends. -/
def Stable (holds : σ → Prop) : Prop :=
  ∀ (device : σ) (operation : Operation UInt16) (reply : Reply UInt16 σ),
    operation.width = 1 → Device.transact device [operation] = some reply →
      holds device → holds reply.device

/-- Devices that answer every transaction of one word, each in its own way, and go on doing so. -/
structure Answering (answers : σ → Prop) : Prop where
  stable : Stable answers
  total : ∀ (device : σ) (operation : Operation UInt16), operation.width = 1 → answers device →
    ∃ reply, Device.transact device [operation] = some reply

theorem Stable.perform {holds : σ → Prop} (stable : Stable holds) {device : σ}
    {operation : Operation UInt16} {buffer : List UInt16} {done : Exchange UInt16 σ}
    (single : operation.width = 1) (performed : perform device operation buffer = some done)
    (here : holds device) : holds done.device := by
  obtain ⟨reply, answered, rfl⟩ := Option.map_eq_some_iff.1 performed
  exact stable device operation reply single answered here

theorem Answering.perform {answers : σ → Prop} (answering : Answering answers) {device : σ}
    {operation : Operation UInt16} (single : operation.width = 1) (here : answers device)
    (buffer : List UInt16) : ∃ done, perform device operation buffer = some done := by
  obtain ⟨reply, answered⟩ := answering.total device operation single here
  exact ⟨_, by rw [Spi.perform, answered, Option.map_some]⟩

end Spi

/-! ## Exchanges -/

namespace Converter

variable {σ : Type} [Spi.Device σ UInt16]

/-- What no exchange changes: the part, the settings, the scan prepared, and whatever
single transactions respect of the device. -/
structure Keeps (before after : Converter σ) : Prop where
  part : after.part = before.part
  settings : after.settings = before.settings
  inputs : after.scan.inputs = before.scan.inputs
  commands : after.scan.commands = before.scan.commands
  stable : ∀ holds, Spi.Stable holds → holds before.device → holds after.device

theorem Keeps.refl (converter : Converter σ) : converter.Keeps converter :=
  ⟨rfl, rfl, rfl, rfl, fun _ _ here => here⟩

theorem Keeps.trans {first second third : Converter σ} (left : first.Keeps second)
    (right : second.Keeps third) : first.Keeps third :=
  ⟨right.part.trans left.part, right.settings.trans left.settings,
    right.inputs.trans left.inputs, right.commands.trans left.commands,
    fun holds stable here => right.stable holds stable (left.stable holds stable here)⟩

theorem Keeps.programmed {before after : Converter σ} (keeps : before.Keeps after)
    {settings : Settings} (programmed : before.scan.Programmed settings) :
    after.scan.Programmed settings := by
  rw [PreparedScan.Programmed, keeps.commands, keeps.inputs]
  exact programmed

/-! ### One input -/

theorem send_keeps {converter after : Converter σ} {operation : Spi.Operation UInt16}
    {buffer : List UInt16} {result : Except Problem (List UInt16)} (single : operation.width = 1)
    (sent : converter.send operation buffer = some (result, after)) : converter.Keeps after := by
  obtain ⟨done, performed, same⟩ := Option.map_eq_some_iff.1 sent
  have keeps : converter.Keeps { converter with device := done.device } :=
    ⟨rfl, rfl, rfl, rfl, fun _ stable here => stable.perform single performed here⟩
  cases fault : done.fault with
  | none =>
      simp only [fault] at same
      cases same
      exact keeps
  | some reason =>
      simp only [fault] at same
      cases same
      exact keeps

theorem send_answers {answers : σ → Prop} (answering : Spi.Answering answers)
    {converter : Converter σ} (here : answers converter.device)
    (operation : Spi.Operation UInt16) (single : operation.width = 1) (buffer : List UInt16) :
    ∃ result after, converter.send operation buffer = some (result, after) ∧
      answers after.device := by
  obtain ⟨done, performed⟩ := answering.perform single here buffer
  have sent : converter.send operation buffer = some _ := congrArg (Option.map _) performed
  exact ⟨_, _, sent, (send_keeps single sent).stable answers answering.stable here⟩

section Chain

variable {α β : Type} {first : Option (Except Problem α × Converter σ)}
  {second : α → Converter σ → Option (Except Problem β × Converter σ)}

/-- One exchange after another: the second begins with what the first brought, and not at all after
a breakdown or a problem. -/
def chain (first : Option (Except Problem α × Converter σ))
    (second : α → Converter σ → Option (Except Problem β × Converter σ)) :
    Option (Except Problem β × Converter σ) :=
  match first with
  | none => none
  | some (.error problem, converter) => some (.error problem, converter)
  | some (.ok brought, converter) => second brought converter

omit [Spi.Device σ UInt16] in
theorem chain_cases {result : Except Problem β} {after : Converter σ}
    (answered : chain first second = some (result, after)) :
    (∃ problem, first = some (.error problem, after) ∧ result = .error problem) ∨
      ∃ brought between, first = some (.ok brought, between) ∧
        second brought between = some (result, after) := by
  unfold chain at answered
  split at answered
  · cases answered
  · cases answered
    exact .inl ⟨_, rfl, rfl⟩
  · exact .inr ⟨_, _, rfl, answered⟩

theorem chain_keeps {converter after : Converter σ} {result : Except Problem β}
    (kept : ∀ {result between}, first = some (result, between) → converter.Keeps between)
    (keeps : ∀ {brought between result after}, second brought between = some (result, after) →
      between.Keeps after)
    (answered : chain first second = some (result, after)) : converter.Keeps after := by
  rcases chain_cases answered with ⟨problem, began, _⟩ | ⟨brought, between, began, went⟩
  · exact kept began
  · exact (kept began).trans (keeps went)

omit [Spi.Device σ UInt16] in
theorem chain_answers {good : Converter σ → Prop}
    (began : ∃ result between, first = some (result, between) ∧ good between)
    (goes : ∀ brought between, good between → ∃ done, second brought between = some done) :
    ∃ done, chain first second = some done := by
  obtain ⟨result, between, rfl, here⟩ := began
  cases result with
  | error problem => exact ⟨_, rfl⟩
  | ok brought => exact goes brought between here

end Chain

/-- What the words received say about an input. -/
def heard (input : UInt8) (words : List UInt16) (converter : Converter σ) :
    Option (Except Problem UInt16 × Converter σ) :=
  let response : Response := ⟨words.headD 0⟩
  if response.tag = input then
    some (.ok response.code, converter)
  else
    some (.error (.otherInput input response.tag), converter)

omit [Spi.Device σ UInt16] in
theorem heard_eq (input : UInt8) (words : List UInt16) (converter : Converter σ) :
    ∃ result, heard input words converter = some (result, converter) := by
  rw [heard]
  split
  · exact ⟨_, rfl⟩
  · exact ⟨_, rfl⟩

/-- Reading an input sends its command twice and then receives a word. -/
theorem single_eq (converter : Converter σ) (input : UInt8) :
    converter.single input =
      if converter.part.inputs ≤ input.toNat then some (.error (.noInput input), converter)
      else
        chain (converter.send (.write [command input converter.settings]) []) fun _ asked =>
        chain (asked.send (.write [command input converter.settings]) []) fun _ waited =>
        chain (waited.send (.read 1) [0]) (heard input) := by
  rw [single]
  split
  · rfl
  dsimp only
  rcases converter.send (.write [command input converter.settings]) [] with
    _ | ⟨_ | nothing, asked⟩
  · rfl
  · rfl
  dsimp only [chain]
  rcases asked.send (.write [command input converter.settings]) [] with
    _ | ⟨_ | nothing, waited⟩
  · rfl
  · rfl
  dsimp only [chain]
  rcases waited.send (.read 1) [0] with _ | ⟨_ | words, after⟩
  · rfl
  · rfl
  · rfl

/-- Reading an input changes nothing but the device on the bus. -/
theorem single_keeps {converter after : Converter σ} {input : UInt8}
    {result : Except Problem UInt16} (answered : converter.single input = some (result, after)) :
    converter.Keeps after := by
  rw [single_eq] at answered
  split at answered
  · cases answered
    exact .refl _
  refine chain_keeps (send_keeps rfl) (chain_keeps (send_keeps rfl)
    (chain_keeps (send_keeps rfl) ?_)) answered
  intro words between result after told
  obtain ⟨_, same⟩ := heard_eq input words between
  cases told.symm.trans same
  exact .refl _

/-- A device that answers carries the reading of an input through. -/
theorem single_answers {answers : σ → Prop} (answering : Spi.Answering answers)
    {converter : Converter σ} (here : answers converter.device) (input : UInt8) :
    ∃ done, converter.single input = some done := by
  rw [single_eq]
  split
  · exact ⟨_, rfl⟩
  refine chain_answers (send_answers answering here _ rfl _) fun _ asked still => ?_
  refine chain_answers (send_answers answering still _ rfl _) fun _ waited still => ?_
  refine chain_answers (send_answers answering still _ rfl _) fun words after _ => ?_
  obtain ⟨_, told⟩ := heard_eq input words after
  exact ⟨_, told⟩

/-! ### Scans -/

theorem clock_stable {holds : σ → Prop} (stable : Spi.Stable holds) (commands : List UInt16) :
    ∀ {store : List UInt16} {device : σ} {done : Spi.Exchange UInt16 σ},
      PreparedScan.clock commands store device = some done → holds device →
        holds done.device := by
  induction commands with
  | nil =>
      intro store device done clocked here
      cases clocked
      exact here
  | cons word rest ih =>
      intro store device done clocked here
      cases store with
      | nil =>
          cases clocked
          exact here
      | cons place store =>
          rw [PreparedScan.clock] at clocked
          split at clocked
          · exact absurd clocked (by simp)
          · next fault words after sent =>
              have still := stable.perform rfl sent here
              cases clocked
              exact still
          · next words after sent =>
              have still := stable.perform rfl sent here
              obtain ⟨others, clockedRest, rfl⟩ := Option.map_eq_some_iff.1 clocked
              have last := ih clockedRest still
              exact last

theorem clock_answers {answers : σ → Prop} (answering : Spi.Answering answers)
    (commands : List UInt16) : ∀ {store : List UInt16} {device : σ}, answers device →
      ∃ done, PreparedScan.clock commands store device = some done := by
  induction commands with
  | nil => exact fun _ => ⟨_, rfl⟩
  | cons word rest ih =>
      intro store device here
      cases store with
      | nil => exact ⟨_, rfl⟩
      | cons place store =>
          have single : (Spi.Operation.transfer 1 [word]).width = 1 := rfl
          obtain ⟨⟨fault, words, after⟩, sent⟩ := answering.perform single here [place]
          have still := answering.stable.perform rfl sent here
          rw [PreparedScan.clock, sent]
          cases fault with
          | some reason => exact ⟨_, rfl⟩
          | none =>
              obtain ⟨others, clocked⟩ : ∃ others,
                  PreparedScan.clock rest store after = some others := ih still
              exact ⟨_, congrArg (Option.map _) clocked⟩

theorem exchange_keeps {scan after : PreparedScan} {device later : σ} {fault : Option Spi.Fault}
    (exchanged : scan.exchange device = some (fault, after, later)) :
    after.inputs = scan.inputs ∧ after.commands = scan.commands ∧
      ∀ holds, Spi.Stable holds → holds device → holds later := by
  unfold PreparedScan.exchange at exchanged
  split at exchanged
  · exact absurd exchanged (by simp)
  · next done clocked =>
      cases exchanged
      exact ⟨rfl, rfl, fun holds stable here => clock_stable stable _ clocked here⟩

/-- **A scan brings one word per input it was prepared for**, or a problem, and stays
prepared. -/
theorem scanInputs_keeps {converter after : Converter σ} {result : Except Problem (List UInt16)}
    {lines : List LogLine} (scanned : converter.scanInputs = some (result, after, lines)) :
    converter.Keeps after ∧ ∀ payload settings, result = .ok payload →
      converter.scan.Programmed settings → payload.length = converter.scan.inputs.count := by
  obtain ⟨⟨fault, scan, device⟩, exchanged, same⟩ := Option.map_eq_some_iff.1 scanned
  obtain ⟨inputs, commands, stable⟩ := exchange_keeps exchanged
  have keeps : converter.Keeps { converter with scan, device } :=
    ⟨rfl, rfl, inputs, commands, stable⟩
  cases fault with
  | some fault =>
      cases same
      refine ⟨keeps, ?_⟩
      intro payload settings ok
      exact absurd ok (by simp)
  | none =>
      cases same
      refine ⟨keeps, ?_⟩
      intro payload settings ok programmed
      cases ok
      have later : scan.Programmed settings := keeps.programmed programmed
      rw [PreparedScan.payload, PreparedScan.received, List.length_drop, List.length_take,
        Nat.min_eq_left scan.words_le, later.words, inputs, Nat.add_sub_cancel]

/-- A device that answers carries a scan through. -/
theorem scanInputs_answers {answers : σ → Prop} (answering : Spi.Answering answers)
    {converter : Converter σ} (here : answers converter.device) :
    ∃ done, converter.scanInputs = some done := by
  let scan := converter.scan
  obtain ⟨done, clocked⟩ : ∃ done,
      PreparedScan.clock scan.commands scan.store converter.device = some done :=
    clock_answers answering _ here
  obtain ⟨after, exchanged, _⟩ := PreparedScan.exchange_of_clock clocked
  exact ⟨_, congrArg (Option.map _) exchanged⟩

end Converter

end Acquisition
