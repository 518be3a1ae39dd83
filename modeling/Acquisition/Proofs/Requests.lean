/-
# Acquisition.Proofs.Requests — a converter under any requests

A converter can be asked to read an input, to prepare a scan and to carry it out, in any order and
over any device. A request changes no more than an exchange changes, or it prepares a scan of inputs
that the part has (`ask_cases`). So every operation that a converter sends is of one kind, whatever
it is asked and however its device answers (`Sends`).

Two devices that answer the operations of that kind alike (`Spi.Mirrors`) cannot be told apart by
requests: `askAll_alike` says that a converter over one gives the same answers as over the other.
The words set aside for what is received may differ after a failed transaction, unless the two
devices agree on those as well; no answer depends on them.
-/
import Acquisition.Proofs.Exchanges

namespace Acquisition

open Acquisition.Converter (InputSet PreparedScan Problem command)

set_option autoImplicit false

/-! ## Requests -/

namespace Converter

/-- A set that is not turned down holds inputs of the part. -/
theorem InputSet.within_of_last {set : InputSet} {part : Part} (fitting : set.stray = none)
    (last : (set.last.filter fun input => part.inputs ≤ input.toNat) = none) : set.Within part := by
  refine ⟨fitting, fun input member => ?_⟩
  rw [InputSet.mem_toList, InputSet.contains] at member
  cases found : Bits.highest set.bits.toNat with
  | none =>
      rw [Bits.highest] at found
      split at found
      · next zero => simp [zero] at member
      · cases found
  | some top =>
      have below := Bits.le_highest found member
      have small : top < 16 :=
        Bits.lt_of_testBit set.bits.toNat_lt (Bits.testBit_highest found)
      simp only [InputSet.last, found, Option.map_some, Option.filter_eq_none_iff,
        Option.some.injEq, forall_eq', decide_eq_true_eq, UInt8.toNat_ofNat'] at last
      omega

/-- Something asked of a converter. -/
inductive Request where
  /-- Reads one input; the conversion is left-aligned. -/
  | single (input : UInt8)
  /-- Reads one input; the conversion is right-aligned. -/
  | read (input : UInt8)
  | program (inputs : InputSet)
  | scan

/-- What a converter says to a request. -/
inductive Outcome where
  | code (result : Except Problem UInt16)
  | programmed (result : Except Problem Unit)
  | scanned (result : Except Problem (List UInt16)) (lines : List LogLine)

section Ask

variable {σ : Type} [Spi.Device σ UInt16] {converter after : Converter σ}

/-- What a converter says to a request, and the converter afterwards; `none` if its device broke
down. -/
def ask (converter : Converter σ) : Request → Option (Outcome × Converter σ)
  | .single input => (converter.single input).map (Prod.map .code id)
  | .read input => (converter.read input).map (Prod.map .code id)
  | .program inputs => some (Prod.map .programmed id (converter.program inputs))
  | .scan => converter.scanInputs.map fun (result, after, lines) => (.scanned result lines, after)

/-- What a converter says to requests, one after the other, and the converter after them. -/
def askAll : List Request → Converter σ → Option (List Outcome × Converter σ)
  | [], converter => some ([], converter)
  | request :: rest, converter =>
      match converter.ask request with
      | none => none
      | some (outcome, after) =>
          (askAll rest after).map fun (others, last) => (outcome :: others, last)

/-- **A request changes no more than an exchange does, or prepares a scan** of inputs that the part
has. -/
theorem ask_cases {request : Request} {outcome : Outcome}
    (asked : converter.ask request = some (outcome, after)) :
    converter.Keeps after ∨ ∃ inputs : InputSet, inputs.Within converter.part ∧
      after = { converter with scan := converter.scan.prepare inputs converter.settings } := by
  cases request with
  | single input =>
      obtain ⟨⟨result, later⟩, answered, same⟩ := Option.map_eq_some_iff.1 asked
      cases same
      exact .inl (single_keeps answered)
  | read input =>
      obtain ⟨⟨result, later⟩, answered, same⟩ := Option.map_eq_some_iff.1 asked
      cases same
      obtain ⟨⟨code, later⟩, read, same⟩ := Option.map_eq_some_iff.1 answered
      cases same
      exact .inl (single_keeps read)
  | scan =>
      obtain ⟨⟨result, later, lines⟩, answered, same⟩ := Option.map_eq_some_iff.1 asked
      cases same
      exact .inl (scanInputs_keeps answered).1
  | program inputs =>
      simp only [ask, program, Option.some.injEq] at asked
      split at asked
      · cases asked
        exact .inl (.refl _)
      next fitting =>
      split at asked
      · cases asked
        exact .inl (.refl _)
      next last =>
      cases asked
      exact .inr ⟨inputs, InputSet.within_of_last fitting last, rfl⟩

/-- What every request keeps is kept by any number of them. -/
theorem askAll_kept (good : Converter σ → Prop)
    (kept : ∀ {converter after : Converter σ} {request : Request} {outcome : Outcome},
      good converter → converter.ask request = some (outcome, after) → good after) :
    ∀ {requests : List Request} {converter last : Converter σ} {outcomes : List Outcome},
      good converter → askAll requests converter = some (outcomes, last) → good last
  | [], _, _, _, here, asked => by
      cases asked
      exact here
  | request :: rest, converter, last, outcomes, here, asked => by
      rw [askAll] at asked
      split at asked
      · cases asked
      · next outcome after answered =>
          obtain ⟨⟨others, final⟩, askedRest, same⟩ := Option.map_eq_some_iff.1 asked
          cases same
          exact askAll_kept good kept (kept here answered) askedRest

/-- A device that answers carries a request through, and goes on answering. -/
theorem ask_answers {answers : σ → Prop} (answering : Spi.Answering answers)
    (here : answers converter.device) (request : Request) :
    ∃ outcome after, converter.ask request = some (outcome, after) ∧ answers after.device := by
  have carried : ∃ done, converter.ask request = some done := by
    cases request with
    | single input =>
        obtain ⟨done, answered⟩ := single_answers answering here input
        exact ⟨_, congrArg (Option.map _) answered⟩
    | read input =>
        obtain ⟨done, answered⟩ := single_answers answering here input
        have read : converter.read input = some _ := congrArg (Option.map _) answered
        exact ⟨_, congrArg (Option.map _) read⟩
    | program inputs => exact ⟨_, rfl⟩
    | scan =>
        obtain ⟨done, answered⟩ := scanInputs_answers answering here
        exact ⟨_, congrArg (Option.map _) answered⟩
  obtain ⟨⟨outcome, after⟩, asked⟩ := carried
  refine ⟨outcome, after, asked, ?_⟩
  rcases ask_cases asked with keeps | ⟨inputs, _, rfl⟩
  · exact keeps.stable answers answering.stable here
  · exact here

/-- A device that answers carries any requests through. -/
theorem askAll_answers {answers : σ → Prop} (answering : Spi.Answering answers) :
    ∀ (requests : List Request) {converter : Converter σ}, answers converter.device →
      ∃ outcomes last, askAll requests converter = some (outcomes, last)
  | [], _, _ => ⟨_, _, rfl⟩
  | request :: rest, converter, here => by
      obtain ⟨outcome, after, asked, still⟩ := ask_answers answering here request
      obtain ⟨others, last, askedRest⟩ := askAll_answers answering rest still
      refine ⟨outcome :: others, last, ?_⟩
      rw [askAll, asked]
      dsimp only
      rw [askedRest, Option.map_some]

/-! ## What a converter sends -/

/-- A converter that sends operations of a kind only, whatever it is asked. -/
structure Sends (allowed : Spi.Operation UInt16 → Prop) (converter : Converter σ) : Prop where
  read : allowed (.read 1)
  padding : allowed (.transfer 1 [0])
  asked : ∀ input : UInt8, input.toNat < converter.part.inputs →
    allowed (.write [command input converter.settings]) ∧
      allowed (.transfer 1 [command input converter.settings])
  prepared : ∀ word ∈ converter.scan.commands, allowed (.transfer 1 [word])

theorem Sends.ask {allowed : Spi.Operation UInt16 → Prop} (sends : converter.Sends allowed)
    {request : Request} {outcome : Outcome}
    (asked : converter.ask request = some (outcome, after)) : after.Sends allowed := by
  rcases ask_cases asked with keeps | ⟨inputs, within, rfl⟩
  · refine ⟨sends.read, sends.padding, ?_, ?_⟩
    · rw [keeps.part, keeps.settings]
      exact sends.asked
    · rw [keeps.commands]
      exact sends.prepared
  · refine ⟨sends.read, sends.padding, sends.asked, fun word member => ?_⟩
    rw [PreparedScan.commands_prepare] at member
    rcases List.mem_append.1 member with inside | last
    · obtain ⟨input, listed, rfl⟩ := List.mem_map.1 inside
      exact (sends.asked input (within.existing input listed)).2
    · rw [List.eq_of_mem_replicate last]
      exact sends.padding

end Ask

end Converter

/-! ## Devices that cannot be told apart -/

/-- Two calls that both break down, or both come back. -/
theorem rel_cases {α β : Type} {related : α → β → Prop} {left : Option α} {right : Option β}
    (rel : Option.Rel related left right) :
    (left = none ∧ right = none) ∨ ∃ a b, left = some a ∧ right = some b ∧ related a b := by
  cases rel with
  | none => exact .inl ⟨rfl, rfl⟩
  | some here => exact .inr ⟨_, _, rfl, rfl, here⟩

variable {σ τ : Type} [Spi.Device σ UInt16] [Spi.Device τ UInt16] {related : σ → τ → Prop}
  {exact : Prop}

namespace Spi

/-- Two exchanges that went alike: neither failed, or both for the same reason. The first words
received are the same if the exchanges succeeded, and all words of the buffers in any case if they
are to agree exactly. -/
structure Exchange.Alike (related : σ → τ → Prop) (exact : Prop) (count : Nat)
    (left : Exchange UInt16 σ) (right : Exchange UInt16 τ) : Prop where
  fault : right.fault = left.fault
  device : related left.device right.device
  same : exact → right.buffer = left.buffer
  words : left.fault = none → right.buffer.take count = left.buffer.take count

/-- Related devices answer every operation of a kind alike, over readers' buffers of the right
length, and stay related. -/
def Mirrors (related : σ → τ → Prop) (allowed : Operation UInt16 → Prop) (exact : Prop) : Prop :=
  ∀ {left : σ} {right : τ} {operation : Operation UInt16} (buffer other : List UInt16),
    related left right → allowed operation → buffer.length = (operation.buffer 0).length →
      other.length = buffer.length → (exact → other = buffer) →
        Option.Rel (Exchange.Alike related exact buffer.length) (perform left operation buffer)
          (perform right operation other)

end Spi

namespace Converter

/-- Converters that differ at most in their devices, which are related, and unless they agree
exactly in the words set aside for what is received. -/
structure Alike (related : σ → τ → Prop) (exact : Prop) (left : Converter σ)
    (right : Converter τ) : Prop where
  part : right.part = left.part
  settings : right.settings = left.settings
  inputs : right.scan.inputs = left.scan.inputs
  commands : right.scan.commands = left.scan.commands
  store : exact → right.scan.store = left.scan.store
  device : related left.device right.device

/-- The same answer, and converters that are alike after it. -/
def Agree {α : Type} (related : σ → τ → Prop) (exact : Prop) (left : α × Converter σ)
    (right : α × Converter τ) : Prop :=
  right.1 = left.1 ∧ left.2.Alike related exact right.2

omit [Spi.Device σ UInt16] [Spi.Device τ UInt16] in
theorem agree_cases {α : Type} {left : Option (α × Converter σ)} {right : Option (α × Converter τ)}
    (rel : Option.Rel (Agree related exact) left right) :
    (left = none ∧ right = none) ∨ ∃ result after after', left = some (result, after) ∧
      right = some (result, after') ∧ after.Alike related exact after' := by
  rcases rel_cases rel with
    broken | ⟨⟨result, after⟩, ⟨result', after'⟩, answered, answered', same, alike⟩
  · exact .inl broken
  · cases same
    exact .inr ⟨result, after, after', answered, answered', alike⟩

omit [Spi.Device σ UInt16] [Spi.Device τ UInt16] in
theorem agree_map {α β : Type} (f : α → β) {left : Option (α × Converter σ)}
    {right : Option (α × Converter τ)} (rel : Option.Rel (Agree related exact) left right) :
    Option.Rel (Agree related exact) (left.map (Prod.map f id)) (right.map (Prod.map f id)) := by
  rcases agree_cases rel with ⟨rfl, rfl⟩ | ⟨result, after, after', rfl, rfl, alike⟩
  · exact .none
  · exact .some ⟨rfl, alike⟩

section Alike

variable {allowed : Spi.Operation UInt16 → Prop} {left : Converter σ} {right : Converter τ}

theorem send_alike (mirrors : Spi.Mirrors related allowed exact)
    (alike : left.Alike related exact right) {operation : Spi.Operation UInt16}
    (may : allowed operation) (buffer : List UInt16)
    (room : buffer.length = (operation.buffer 0).length) :
    Option.Rel (Agree related exact) (left.send operation buffer)
      (right.send operation buffer) := by
  rw [send, send]
  rcases rel_cases (mirrors buffer buffer alike.device may room rfl fun _ => rfl) with
    ⟨broken, broken'⟩ | ⟨done, done', performed, performed', same⟩
  · rw [broken, broken']
    exact .none
  have length := Spi.length_perform _ _ _ _ performed
  have length' := Spi.length_perform _ _ _ _ performed'
  have moved : ({ left with device := done.device } : Converter σ).Alike related exact
      { right with device := done'.device } :=
    ⟨alike.part, alike.settings, alike.inputs, alike.commands, alike.store, same.device⟩
  rw [performed, performed', Option.map_some, Option.map_some, same.fault]
  cases fault : done.fault with
  | some reason => exact .some ⟨rfl, moved⟩
  | none =>
      have words := same.words fault
      rw [List.take_of_length_le (Nat.le_of_eq length'),
        List.take_of_length_le (Nat.le_of_eq length)] at words
      exact .some ⟨congrArg Except.ok words, moved⟩

omit [Spi.Device σ UInt16] [Spi.Device τ UInt16] in
theorem chain_alike {α β : Type} {first : Option (Except Problem α × Converter σ)}
    {first' : Option (Except Problem α × Converter τ)}
    {second : α → Converter σ → Option (Except Problem β × Converter σ)}
    {second' : α → Converter τ → Option (Except Problem β × Converter τ)}
    (began : Option.Rel (Agree related exact) first first')
    (goes : ∀ {brought left right}, left.Alike related exact right →
      Option.Rel (Agree related exact) (second brought left) (second' brought right)) :
    Option.Rel (Agree related exact) (chain first second) (chain first' second') := by
  rcases agree_cases began with ⟨rfl, rfl⟩ | ⟨result, left, right, rfl, rfl, alike⟩
  · exact .none
  cases result with
  | error problem => exact .some ⟨rfl, alike⟩
  | ok brought => exact goes alike

/-- Reading one input over devices that cannot be told apart. -/
theorem single_alike (mirrors : Spi.Mirrors related allowed exact)
    (alike : left.Alike related exact right) (sends : left.Sends allowed) (input : UInt8) :
    Option.Rel (Agree related exact) (left.single input) (right.single input) := by
  rw [single_eq, single_eq, alike.part, alike.settings]
  split
  · exact .some ⟨rfl, alike⟩
  next existing =>
  have may := (sends.asked input (by omega)).1
  refine chain_alike (send_alike mirrors alike may [] rfl) fun alike => ?_
  refine chain_alike (send_alike mirrors alike may [] rfl) fun alike => ?_
  refine chain_alike (send_alike mirrors alike sends.read [0] rfl) fun {words left right} alike => ?_
  rw [heard, heard]
  split
  · exact .some ⟨rfl, alike⟩
  · exact .some ⟨rfl, alike⟩

theorem read_alike (mirrors : Spi.Mirrors related allowed exact)
    (alike : left.Alike related exact right) (sends : left.Sends allowed) (input : UInt8) :
    Option.Rel (Agree related exact) (left.read input) (right.read input) := by
  rw [read, read]
  rcases agree_cases (single_alike mirrors alike sends input) with
    ⟨broken, broken'⟩ | ⟨code, left, right, answered, answered', alike⟩
  · rw [broken, broken']
    exact .none
  · rw [answered, answered', Option.map_some, Option.map_some]
    dsimp only
    rw [alike.part]
    exact .some ⟨rfl, alike⟩

/-- Clocking words over devices that cannot be told apart. -/
theorem clock_alike (mirrors : Spi.Mirrors related allowed exact) (commands : List UInt16) :
    ∀ {store other : List UInt16} {left : σ} {right : τ}, related left right →
      (∀ word ∈ commands, allowed (.transfer 1 [word])) → other.length = store.length →
        (exact → other = store) →
          Option.Rel (Spi.Exchange.Alike related exact commands.length)
            (PreparedScan.clock commands store left) (PreparedScan.clock commands other right) := by
  induction commands with
  | nil => exact fun here _ _ same => .some ⟨rfl, here, same, fun _ => rfl⟩
  | cons word rest ih =>
      intro store other left right here may room same
      obtain ⟨mayFirst, mayRest⟩ := List.forall_mem_cons.1 may
      cases store with
      | nil =>
          cases List.length_eq_zero_iff.1 room
          exact .some ⟨rfl, here, fun _ => rfl, fun _ => rfl⟩
      | cons place store =>
      cases other with
      | nil => cases room
      | cons place' other =>
      have roomRest : other.length = store.length := Nat.succ.inj room
      have samePlace : exact → [place'] = [place] := fun so => by rw [(List.cons.inj (same so)).1]
      have sameRest : exact → other = store := fun so => (List.cons.inj (same so)).2
      rw [PreparedScan.clock, PreparedScan.clock]
      rcases rel_cases (mirrors [place] [place'] here mayFirst rfl rfl samePlace) with
        ⟨broken, broken'⟩ | ⟨⟨fault, words, left⟩, ⟨fault', words', right⟩, sent, sent', first⟩
      · rw [broken, broken']
        exact .none
      have length : words.length = 1 := Spi.length_perform _ _ _ _ sent
      have length' : words'.length = 1 := Spi.length_perform _ _ _ _ sent'
      cases first.fault
      rw [sent, sent']
      cases fault with
      | some reason =>
          refine .some ⟨rfl, first.device, fun so => ?_, fun none => by cases none⟩
          have sameFirst : words' = words := first.same so
          show words' ++ other = words ++ store
          rw [sameFirst, sameRest so]
      | none =>
          have brought : words' = words := by
            have heads : words'.take 1 = words.take 1 := first.words rfl
            rwa [List.take_of_length_le (Nat.le_of_eq length'),
              List.take_of_length_le (Nat.le_of_eq length)] at heads
          dsimp only
          rcases rel_cases (ih first.device mayRest roomRest sameRest) with
            ⟨broken, broken'⟩ | ⟨others, others', clocked, clocked', same⟩
          · rw [broken, broken']
            exact .none
          · rw [clocked, clocked', brought]
            refine .some ⟨same.fault, same.device, fun so => ?_, fun none => ?_⟩
            · exact congrArg (words ++ ·) (same.same so)
            · show (words ++ others'.buffer).take (rest.length + 1) =
                (words ++ others.buffer).take (rest.length + 1)
              rw [Nat.add_comm, ← length, List.take_length_add_append,
                List.take_length_add_append, same.words none]

/-- A scan over devices that cannot be told apart. -/
theorem scanInputs_alike (mirrors : Spi.Mirrors related allowed exact)
    (alike : left.Alike related exact right) (sends : left.Sends allowed) :
    Option.Rel (fun l r => r.1 = l.1 ∧ r.2.2 = l.2.2 ∧ l.2.1.Alike related exact r.2.1)
      left.scanInputs right.scanInputs := by
  have room : right.scan.store.length = left.scan.store.length :=
    right.scan.store_length.trans left.scan.store_length.symm
  have commands := alike.commands
  have clocks := clock_alike mirrors left.scan.commands alike.device sends.prepared room alike.store
  rw [← commands] at clocks
  rw [scanInputs, scanInputs]
  rcases rel_cases clocks with ⟨broken, broken'⟩ | ⟨done, done', clocked, clocked', same⟩
  · rw [commands] at broken
    rw [PreparedScan.exchange_eq_none broken, PreparedScan.exchange_eq_none broken',
      Option.map_none, Option.map_none]
    exact .none
  · rw [commands] at clocked same
    obtain ⟨after, exchanged, inputs, kept, store⟩ := PreparedScan.exchange_of_clock clocked
    obtain ⟨after', exchanged', inputs', kept', store'⟩ := PreparedScan.exchange_of_clock clocked'
    rw [exchanged, exchanged', Option.map_some, Option.map_some, same.fault]
    have moved : ({ left with scan := after, device := done.device } : Converter σ).Alike related
        exact { right with scan := after', device := done'.device } := by
      refine ⟨alike.part, alike.settings, ?_, ?_, fun so => ?_, same.device⟩
      · exact inputs'.trans (alike.inputs.trans inputs.symm)
      · exact kept'.trans (commands.trans kept.symm)
      · exact store'.trans ((same.same so).trans store.symm)
    cases fault : done.fault with
    | some reason => exact .some ⟨rfl, rfl, moved⟩
    | none =>
        have received : after'.received = after.received := by
          rw [PreparedScan.received, PreparedScan.received, ← PreparedScan.length_commands,
            ← PreparedScan.length_commands, moved.commands, kept, store, store']
          exact same.words fault
        have payload : after'.payload = after.payload :=
          congrArg (List.drop pipelineWords) received
        refine .some ⟨congrArg Except.ok payload, ?_, moved⟩
        dsimp only
        rw [PreparedScan.mismatch?_eq moved.inputs payload]
        congr 2
        funext mismatch
        rw [mismatchLine, mismatchLine, alike.part]

omit [Spi.Device σ UInt16] [Spi.Device τ UInt16] in
theorem program_alike (alike : left.Alike related exact right) (inputs : InputSet) :
    Agree related exact (left.program inputs) (right.program inputs) := by
  rw [program, program, alike.part, alike.settings]
  split
  · exact ⟨rfl, alike⟩
  split
  · exact ⟨rfl, alike⟩
  · have commands : (right.scan.prepare inputs left.settings).commands =
        (left.scan.prepare inputs left.settings).commands := by
      rw [PreparedScan.commands_prepare, PreparedScan.commands_prepare]
    exact ⟨rfl, rfl, rfl, rfl, commands, alike.store, alike.device⟩

/-- The same answer to a request over devices that cannot be told apart. -/
theorem ask_alike (mirrors : Spi.Mirrors related allowed exact)
    (alike : left.Alike related exact right) (sends : left.Sends allowed) (request : Request) :
    Option.Rel (Agree related exact) (left.ask request) (right.ask request) := by
  cases request with
  | single input =>
      exact agree_map Outcome.code (single_alike mirrors alike sends input)
  | read input =>
      exact agree_map Outcome.code (read_alike mirrors alike sends input)
  | program inputs =>
      obtain ⟨same, alike⟩ := program_alike alike inputs
      exact .some ⟨congrArg Outcome.programmed same, alike⟩
  | scan =>
      rw [ask, ask]
      rcases rel_cases (scanInputs_alike mirrors alike sends) with
        ⟨broken, broken'⟩ | ⟨⟨result, left, lines⟩, ⟨result', right, lines'⟩, scanned, scanned',
          same, sameLines, alike⟩
      · rw [broken, broken']
        exact .none
      · cases same
        cases sameLines
        rw [scanned, scanned']
        exact .some ⟨rfl, alike⟩

/-- **Devices that answer the operations of a converter alike cannot be told apart by any
requests**: the same answers come over either. -/
theorem askAll_alike (mirrors : Spi.Mirrors related allowed exact) :
    ∀ (requests : List Request) {left : Converter σ} {right : Converter τ},
      left.Alike related exact right → left.Sends allowed →
        Option.Rel (Agree related exact) (askAll requests left) (askAll requests right)
  | [], _, _, alike, _ => .some ⟨rfl, alike⟩
  | request :: rest, left, right, alike, sends => by
      rw [askAll, askAll]
      rcases agree_cases (ask_alike mirrors alike sends request) with
        ⟨broken, broken'⟩ | ⟨outcome, left, right, asked, asked', alike⟩
      · rw [broken, broken']
        exact .none
      rw [asked, asked']
      dsimp only
      rcases agree_cases (askAll_alike mirrors rest alike (sends.ask asked)) with
        ⟨broken, broken'⟩ | ⟨outcomes, left, right, asked, asked', alike⟩
      · rw [broken, broken']
        exact .none
      · rw [asked, asked']
        exact .some ⟨rfl, alike⟩

end Alike

end Converter

end Acquisition
