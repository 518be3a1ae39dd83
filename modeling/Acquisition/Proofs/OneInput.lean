/-
# Acquisition.Proofs.OneInput — reading one input

What is asked of a device on the bus is a list of operations, each a transaction of its own, and
`Spi.inTurn` carries them out one after the other up to the first that fails. Reading an input is
that for three operations (`single_eq_inTurn`), and a scan is that for its words, one operation
each (`scanInputs_device`). So all that is said here is said of every device there can be.

What was read is told by the transactions made: which of them failed and why, or else the word that
the last one brought (`Converter.Tells`). Nothing of the converter changes but its device, so that
a capture that is on goes on sending the same words. `one_input_read` puts this together, for a
converter on its own and for one that is the device of a session.
-/
import Acquisition.Proofs.Agreement
import Acquisition.Proofs.Conservation
import Acquisition.Spi.Logged

namespace Acquisition

open Acquisition.Converter (Part PreparedScan Problem Response command)

set_option autoImplicit false

/-! ## Operations in turn -/

namespace Spi

variable {σ : Type} [Device σ UInt16]

/-- Carries out operations one after the other, each as a transaction of its own, up to the first
that fails: the transactions made, and the device afterwards. -/
def inTurn : List (Operation UInt16) → σ → Option (List Transaction × σ)
  | [], device => some ([], device)
  | operation :: rest, device =>
      match Device.transact device [operation] with
      | none => none
      | some ⟨some fault, received, device⟩ =>
          some ([⟨[operation], some fault, received⟩], device)
      | some ⟨none, received, device⟩ =>
          (inTurn rest device).map fun (others, device) =>
            (⟨[operation], none, received⟩ :: others, device)

/-- Does so a number of times, whether or not a transaction fails. -/
def rounds (plan : List (Operation UInt16)) : Nat → σ → Option (List (List Transaction) × σ)
  | 0, device => some ([], device)
  | count + 1, device =>
      match inTurn plan device with
      | none => none
      | some (made, device) =>
          (rounds plan count device).map fun (others, device) => (made :: others, device)

/-- Why the last of some transactions failed, if it did. -/
def fault? (made : List Transaction) : Option Fault :=
  made.getLast?.bind Transaction.fault

/-- The word that the last of some transactions brought, or zero. -/
def lastWord (made : List Transaction) : UInt16 :=
  ((made.getLast?.map Transaction.received).getD [] |>.headD []).headD 0

/-- The transactions made of operations: they are in order, only the last can have failed, and
if it did not, none is left out. -/
structure Tried (plan : List (Operation UInt16)) (made : List Transaction) : Prop where
  order : made.map Transaction.operations <+: plan.map fun operation => [operation]
  stops : ∀ transaction ∈ made.dropLast, transaction.fault = none
  whole : fault? made = none → made.length = plan.length

theorem fault?_cons {first : Transaction} (done : first.fault = none) (rest : List Transaction) :
    fault? (first :: rest) = fault? rest := by
  cases rest with
  | nil => exact done
  | cons second others => rfl

theorem inTurn_tried {plan : List (Operation UInt16)} {device after : σ}
    {made : List Transaction} (tried : inTurn plan device = some (made, after)) :
    Tried plan made := by
  induction plan generalizing device made with
  | nil =>
      cases tried
      exact ⟨List.prefix_rfl, nofun, fun _ => rfl⟩
  | cons operation rest ih =>
      rw [inTurn] at tried
      split at tried
      · cases tried
      · next fault received next _ =>
          cases tried
          exact ⟨by simp, nofun, nofun⟩
      · next received next _ =>
          obtain ⟨⟨others, last⟩, went, same⟩ := Option.map_eq_some_iff.1 tried
          cases same
          obtain ⟨order, stops, whole⟩ := ih went
          refine ⟨?_, ?_, fun done => ?_⟩
          · rw [List.map_cons, List.map_cons, List.cons_prefix_cons]
            exact ⟨rfl, order⟩
          · intro transaction member
            cases others with
            | nil => cases member
            | cons second others =>
                rcases List.mem_cons.1 member with rfl | later
                · rfl
                · exact stops transaction later
          · rw [fault?_cons rfl] at done
            rw [List.length_cons, List.length_cons, whole done]

/-- A device that keeps a record writes down just the transactions made. -/
theorem inTurn_logged {τ : Type} [Device τ UInt16] (plan : List (Operation UInt16))
    (device : Logged τ) :
    inTurn plan device = (inTurn plan device.device).map fun (made, after) =>
      (made, ⟨after, device.log ++ made⟩) := by
  induction plan generalizing device with
  | nil => simp [inTurn]
  | cons operation rest ih =>
      have written : Device.transact device [operation] =
          (Device.transact device.device [operation]).map fun reply =>
            { reply with device :=
                ⟨reply.device, device.log ++ [⟨[operation], reply.fault, reply.received⟩]⟩ } := rfl
      rw [inTurn, inTurn, written]
      rcases Device.transact device.device [operation] with _ | ⟨_ | fault, received, next⟩
      · rfl
      · simp only [Option.map_some, ih, Option.map_map]
        congr 1
        funext ⟨made, after⟩
        simp
      · rfl

/-- So it does each time. -/
theorem rounds_logged {τ : Type} [Device τ UInt16] (plan : List (Operation UInt16)) (count : Nat)
    (device : Logged τ) :
    rounds plan count device = (rounds plan count device.device).map fun (made, after) =>
      (made, ⟨after, device.log ++ made.flatten⟩) := by
  induction count generalizing device with
  | zero => simp [rounds]
  | succ count ih =>
      rw [rounds, rounds, inTurn_logged]
      rcases inTurn plan device.device with _ | ⟨made, next⟩
      · rfl
      · simp only [Option.map_some, ih, Option.map_map]
        congr 1
        funext ⟨others, after⟩
        simp

end Spi

open Spi (Tried fault? inTurn lastWord rounds)

/-! ## A converter on its own -/

namespace Converter

variable {σ : Type} [Spi.Device σ UInt16]

/-- What is asked of the device to read an input: its command twice, then a word. -/
def questions (converter : Converter σ) (input : UInt8) : List (Spi.Operation UInt16) :=
  let word := command input converter.settings
  [.write [word], .write [word], .read 1]

/-- What is asked of the device for a scan: one word at a time. -/
def frames (converter : Converter σ) : List (Spi.Operation UInt16) :=
  converter.scan.commands.map fun word => .transfer 1 [word]

/-- What a word says about an input. -/
def told (input : UInt8) (word : UInt16) : Except Problem UInt16 :=
  if (Response.mk word).tag = input then .ok (Response.mk word).code
  else .error (.otherInput input (Response.mk word).tag)

/-- What the transactions made for an input say about it. -/
def verdict (input : UInt8) (made : List Spi.Transaction) : Except Problem UInt16 :=
  match fault? made with
  | some fault => .error (.spi fault)
  | none => told input (lastWord made)

/-- After an operation that was carried out goes what comes next; a failed one is the answer. -/
theorem chain_send {α : Type} (converter : Converter σ) (operation : Spi.Operation UInt16)
    (buffer : List UInt16)
    (next : List UInt16 → Converter σ → Option (Except Problem α × Converter σ)) :
    chain (converter.send operation buffer) next =
      match Spi.Device.transact converter.device [operation] with
      | none => none
      | some ⟨some fault, _, device⟩ => some (.error (.spi fault), { converter with device })
      | some ⟨none, received, device⟩ =>
          next (Spi.overlay buffer (received.headD [])) { converter with device } := by
  rw [send, Spi.perform]
  rcases Spi.Device.transact converter.device [operation] with _ | ⟨_ | fault, received, device⟩
  · rfl
  · rfl
  · rfl

omit [Spi.Device σ UInt16] in
/-- What is heard is the first word received, or zero if there is none. -/
theorem heard_overlay (input : UInt8) (received : List UInt16) (converter : Converter σ) :
    heard input (Spi.overlay [0] received) converter =
      some (told input (received.headD 0), converter) := by
  have first : (Spi.overlay [0] received).headD 0 = received.headD 0 := by
    cases received <;> rfl
  rw [heard, told, first]
  split <;> rfl

/-- **Reading an input is three operations in turn**, and then nothing but the device differs. -/
theorem single_eq_inTurn {converter : Converter σ} {input : UInt8}
    (existing : input.toNat < converter.part.inputs) :
    converter.single input =
      (inTurn (converter.questions input) converter.device).map fun (made, device) =>
        (verdict input made, { converter with device }) := by
  rw [single_eq, if_neg (Nat.not_le.2 existing), chain_send, questions, inTurn]
  rcases Spi.Device.transact converter.device [.write [command input converter.settings]] with
    _ | ⟨_ | fault, received, asked⟩
  · rfl
  · dsimp only
    rw [chain_send, inTurn]
    dsimp only
    rcases Spi.Device.transact asked [.write [command input converter.settings]] with
      _ | ⟨_ | fault, received, waited⟩
    · rfl
    · dsimp only
      rw [chain_send, inTurn]
      dsimp only
      rcases Spi.Device.transact waited [.read 1] with _ | ⟨_ | fault, received, after⟩
      · rfl
      · dsimp only
        rw [heard_overlay]
        rfl
      · rfl
    · rfl
  · rfl

/-- What is answered for an input, as told by the transactions made for it. -/
structure Tells (input : UInt8) (made : List Spi.Transaction) (result : Except Problem UInt16) :
    Prop where
  failed : ∀ fault, result = .error (.spi fault) ↔ fault? made = some fault
  code : ∀ code, result = .ok code ↔
    fault? made = none ∧ (lastWord made).toNat / 2 ^ (12 : Nat) = input.toNat ∧
      code.toNat = (lastWord made).toNat % 2 ^ (12 : Nat)
  other : ∀ expected found, result = .error (.otherInput expected found) ↔
    fault? made = none ∧ expected = input ∧ found.toNat = (lastWord made).toNat / 2 ^ (12 : Nat) ∧
      found ≠ input
  existing : ∀ missing, result ≠ .error (.noInput missing)

theorem tag_eq_iff {input : UInt8} {word : UInt16} :
    (Response.mk word).tag = input ↔ word.toNat / 2 ^ (12 : Nat) = input.toNat := by
  rw [← UInt8.toNat_inj, Response.toNat_tag]

theorem told_eq_ok_iff {input : UInt8} {word code : UInt16} :
    told input word = .ok code ↔
      word.toNat / 2 ^ (12 : Nat) = input.toNat ∧ code.toNat = word.toNat % 2 ^ (12 : Nat) := by
  rw [told, ← tag_eq_iff, ← Response.toNat_code, UInt16.toNat_inj]
  split
  · next same => simp [same, eq_comm]
  · next differs => simp [differs]

theorem told_eq_other_iff {input expected found : UInt8} {word : UInt16} :
    told input word = .error (.otherInput expected found) ↔
      expected = input ∧ found.toNat = word.toNat / 2 ^ (12 : Nat) ∧ found ≠ input := by
  rw [told, ← Response.toNat_tag, UInt8.toNat_inj]
  split
  · next same => simp [same]
  · next differs => grind

theorem other_of_told_eq_error {input : UInt8} {word : UInt16} {problem : Problem}
    (refused : told input word = .error problem) :
    problem = .otherInput input (Response.mk word).tag := by
  rw [told] at refused
  split at refused
  · cases refused
  · cases refused
    rfl

/-- **What is answered for an input is told by the transactions made**: that the last of them
failed, or which input the word belongs to that it brought. -/
theorem verdict_tells (input : UInt8) (made : List Spi.Transaction) :
    Tells input made (verdict input made) := by
  rw [verdict]
  cases failed : fault? made with
  | some fault => exact ⟨by simp [failed], by simp [failed], by simp [failed], by simp⟩
  | none =>
      refine ⟨fun fault => ⟨fun refused => ?_, fun stopped => ?_⟩, fun code => ?_,
        fun expected found => ?_, fun missing refused => ?_⟩
      · cases other_of_told_eq_error refused
      · cases failed.symm.trans stopped
      · exact told_eq_ok_iff.trans (and_iff_right failed).symm
      · exact told_eq_other_iff.trans (and_iff_right failed).symm
      · cases other_of_told_eq_error refused

/-! ## Scans -/

/-- **An exchange asks for its words in turn**, if there is room for what they bring. -/
theorem clock_eq_inTurn (commands : List UInt16) : ∀ (store : List UInt16) (device : σ),
    commands.length ≤ store.length →
      (PreparedScan.clock commands store device).map (fun done => (done.fault, done.device)) =
        (inTurn (commands.map fun word => .transfer 1 [word]) device).map
          fun (made, after) => (fault? made, after) := by
  induction commands with
  | nil => exact fun _ _ _ => rfl
  | cons word commands ih =>
      intro store device room
      cases store with
      | nil => simp at room
      | cons place store =>
      rw [PreparedScan.clock, List.map_cons, inTurn, Spi.perform]
      rcases Spi.Device.transact device [.transfer 1 [word]] with _ | ⟨_ | fault, received, next⟩
      · rfl
      · have rest := ih store next (Nat.le_of_succ_le_succ room)
        dsimp only [Option.map_some]
        rw [Option.map_map, Option.map_map]
        refine rest.trans (congrArg (Option.map · _) ?_)
        funext rest
        exact Prod.ext (Spi.fault?_cons rfl rest.1).symm rfl
      · rfl

/-- **A scan is its words in turn.** -/
theorem scanInputs_device (converter : Converter σ) :
    converter.scanInputs.map (fun (_, after, _) => after.device) =
      (inTurn converter.frames converter.device).map Prod.snd := by
  have room : converter.scan.commands.length ≤ converter.scan.store.length := by
    rw [PreparedScan.length_commands]
    exact converter.scan.words_le
  have asked : (PreparedScan.clock converter.scan.commands converter.scan.store
      converter.device).map Spi.Exchange.device =
        (inTurn converter.frames converter.device).map Prod.snd := by
    have both := congrArg (Option.map Prod.snd) (clock_eq_inTurn _ _ converter.device room)
    rwa [Option.map_map, Option.map_map] at both
  rw [scanInputs, Option.map_map, ← asked]
  cases clocked : PreparedScan.clock converter.scan.commands converter.scan.store
      converter.device with
  | none =>
      rw [PreparedScan.exchange_eq_none clocked]
      rfl
  | some done =>
      obtain ⟨after, exchanged, _⟩ := PreparedScan.exchange_of_clock clocked
      rw [exchanged]
      rcases done with ⟨_ | fault, words, device⟩
      · rfl
      · rfl

/-- What reading an input comes to. An input that the part does not have is turned down and the
device is asked nothing. Otherwise its operations are carried out in turn, and nothing of the
converter but the device differs afterwards. -/
structure ReadsInput (converter : Converter σ) (input : UInt8) : Prop where
  missing : converter.part.inputs ≤ input.toNat →
    converter.single input = some (.error (.noInput input), converter)
  broken : input.toNat < converter.part.inputs →
    inTurn (converter.questions input) converter.device = none → converter.single input = none
  answered : input.toNat < converter.part.inputs → ∀ made spi,
    inTurn (converter.questions input) converter.device = some (made, spi) →
      Tried (converter.questions input) made ∧ ∃ result,
        converter.single input = some (result, { converter with device := spi }) ∧
        Tells input made result

theorem readsInput (converter : Converter σ) (input : UInt8) : converter.ReadsInput input where
  missing absent := by rw [single, if_pos absent]
  broken existing stuck := by rw [single_eq_inTurn existing, stuck, Option.map_none]
  answered existing made spi went := by
    refine ⟨Spi.inTurn_tried went, verdict input made, ?_, verdict_tells input made⟩
    rw [single_eq_inTurn existing, went, Option.map_some]

end Converter

/-! ## The device of a session -/

section Driver

variable {σ : Type} [Spi.Device σ UInt16] {binding : Binding}
  {session : Session (Frontend σ) Unit} {device : Device (Frontend σ) Unit} {trigger : Trigger}

/-- What an input of a session is read as, as told by the transactions made for it. -/
structure ReadsAs (part : Part) (input : Nat) (made : List Spi.Transaction)
    (result : Except Error Value) : Prop where
  value : ∀ value, result = .ok value ↔
    fault? made = none ∧ (lastWord made).toNat / 2 ^ (12 : Nat) = input ∧
      value = .whole ((lastWord made).toNat % 2 ^ (12 : Nat) / 2 ^ part.profile.shift : Nat)
  bounded : ∀ value, result = .ok value → ∃ code : Nat, value = .whole code ∧
    code ≤ 2 ^ (channelOf (part.input input)).format.realBits - 1
  again : result = .error .again ↔
    fault? made = none ∧ (lastWord made).toNat / 2 ^ (12 : Nat) ≠ input
  transport : ∀ fault, result = .error (.transport fault) ↔ fault? made = some fault
  only : ∀ error, result = .error error → error = .again ∨ ∃ fault, error = .transport fault

/-- A code of twelve bits, moved down, is one of the channel. -/
theorem code_le_realBits (part : Part) (input : Nat) (word : UInt16) :
    word.toNat % 2 ^ (12 : Nat) / 2 ^ part.profile.shift ≤
      2 ^ (channelOf (part.input input)).format.realBits - 1 := by
  rw [← Response.toNat_code, code_eq_decode part input word]
  exact decode_le _ word

theorem rawOf_readsAs {part : Part} {input : Nat} (existing : input < part.inputs)
    {made : List Spi.Transaction} {result : Except Problem UInt16}
    (tells : Converter.Tells (UInt8.ofNat input) made result) :
    ReadsAs part input made (rawOf part result) := by
  have number := Part.toNat_ofNat existing
  cases result with
  | ok code =>
      obtain ⟨went, tagged, same⟩ := (tells.code code).1 rfl
      rw [number] at tagged
      have brought : rawOf part (.ok code) =
          .ok (.whole ((lastWord made).toNat % 2 ^ (12 : Nat) / 2 ^ part.profile.shift : Nat)) := by
        rw [rawOf, same]
      rw [brought]
      refine ⟨fun value => ⟨fun told => ?_, fun told => ?_⟩, fun value told => ?_, ?_,
        fun fault => ?_, fun error told => ?_⟩
      · exact ⟨went, tagged, (Except.ok.inj told).symm⟩
      · rw [told.2.2]
      · cases told
        exact ⟨_, rfl, code_le_realBits part input _⟩
      · exact iff_of_false (by simp) fun told => told.2 tagged
      · exact iff_of_false (by simp) (by simp [went])
      · cases told
  | error problem =>
      cases problem with
      | spi fault =>
          have stopped := (tells.failed fault).1 rfl
          refine ⟨fun value => ?_, fun value told => ?_, ?_, fun reason => ?_, fun error told => ?_⟩
          · exact iff_of_false (by simp [rawOf]) (by simp [stopped])
          · cases told
          · exact iff_of_false (by simp [rawOf, refusalOf]) (by simp [stopped])
          · simp [rawOf, refusalOf, stopped]
          · cases told
            exact .inr ⟨fault, rfl⟩
      | otherInput expected found =>
          obtain ⟨went, _, tagged, differs⟩ := (tells.other expected found).1 rfl
          have apart : (lastWord made).toNat / 2 ^ (12 : Nat) ≠ input := by
            intro same
            apply differs
            rw [← UInt8.toNat_inj, tagged, number, same]
          refine ⟨fun value => ?_, fun value told => ?_, ?_, fun fault => ?_, fun error told => ?_⟩
          · exact iff_of_false (by simp [rawOf]) fun told => apart told.2.1
          · cases told
          · exact iff_of_true rfl ⟨went, apart⟩
          · exact iff_of_false (by simp [rawOf, refusalOf]) (by simp [went])
          · cases told
            exact .inl rfl
      | noInput missing => exact absurd rfl (tells.existing missing)

/-- **Reading an input of a session is three operations in turn**, and then nothing of the device
of the session but the device on the bus differs. -/
theorem Fronts.read_raw_inTurn (fronts : Fronts binding session device) {input : Nat}
    (existing : input < binding.part.inputs) :
    let converter := device.provider.converter
    let asked := Event.read binding.device (channelOf (binding.part.input input)) .raw
    binding.read session input .raw =
      (inTurn (converter.questions (UInt8.ofNat input)) converter.device).map fun (made, spi) =>
        (rawOf binding.part (Converter.verdict (UInt8.ofNat input) made),
          binding.modifySpi (session.note asked) fun _ => spi) := by
  intro converter asked
  have within : (UInt8.ofNat input).toNat < converter.part.inputs := by
    rw [Part.toNat_ofNat existing, fronts.part]
    exact existing
  rw [fronts.read_raw_eq existing, Converter.single_eq_inTurn within, Option.map_map]
  refine congrArg (Option.map · _) ?_
  funext ⟨made, spi⟩
  have there : (session.note asked).device? binding.device = some device := fronts.device_at
  exact Prod.ext rfl (Session.modifyDevice_congr _ there rfl)

/-- A session whose capture asks for the same words at each edge, whatever becomes of them. -/
def Binding.Repeats (binding : Binding) (session : Session (Frontend σ) Unit)
    (plan : List (Spi.Operation UInt16)) : Prop :=
  ∃ spi, binding.spi? session = some spi ∧ ∀ times : List Int64,
    (binding.useAll (times.map .edge) session).map (fun done => binding.spi? done.2) =
      (rounds plan times.length spi).map fun done => some done.2

/-- **A capture that is on asks for the words of its scan at each edge.** -/
theorem Bound.repeats (bound : Bound binding session device trigger)
    (capturing : device.capturing = true) :
    binding.Repeats session device.provider.converter.frames := by
  have here {session : Session (Frontend σ) Unit} {device : Device (Frontend σ) Unit}
      {trigger : Trigger} (bound : Bound binding session device trigger) :
      binding.spi? session = some device.provider.converter.device := by
    rw [Binding.spi?, bound.device_at, Option.map_some]
  refine ⟨_, here bound, fun times => ?_⟩
  induction times generalizing session device trigger with
  | nil => exact congrArg some (here bound)
  | cons time times ih =>
      have sent := device.provider.converter.scanInputs_device
      rw [List.map_cons, Binding.useAll, Binding.use, List.length_cons, rounds]
      cases scanned : device.provider.converter.scanInputs with
      | none =>
          rw [scanned] at sent
          have broken := Option.map_eq_none_iff.1 sent.symm
          rw [bound.poll_broken capturing time scanned, broken]
          rfl
      | some done =>
          obtain ⟨result, after, lines⟩ := done
          obtain ⟨later, raised, _, still⟩ := bound.poll capturing time scanned
          have kept : after.frames = device.provider.converter.frames := by
            rw [Converter.frames, (Converter.scanInputs_keeps scanned).1.commands, Converter.frames]
          rw [scanned] at sent
          obtain ⟨⟨made, spi⟩, went, same⟩ := Option.map_eq_some_iff.1 sent.symm
          have rest := ih still (by rw [Device.answered_capturing, capturing])
          cases same
          rw [Device.answered_converter, kept] at rest
          rw [raised, went]
          dsimp only [Option.map_some]
          rw [Option.map_map, Option.map_map]
          exact rest

/-- What reading an input of a session comes to. The operations are those of its converter, nothing
of the session but the device on the bus and the journal differs afterwards, and a capture that is
on asks for the words it would have asked for. -/
structure Binding.ReadsInput (binding : Binding) (session : Session (Frontend σ) Unit)
    (device : Device (Frontend σ) Unit) (input : Nat) : Prop where
  missing : binding.part.inputs ≤ input →
    binding.read session input .raw = some (.error .invalid, session)
  broken : input < binding.part.inputs →
    inTurn (device.provider.converter.questions (UInt8.ofNat input))
      device.provider.converter.device = none → binding.read session input .raw = none
  answered : input < binding.part.inputs → ∀ made spi,
    inTurn (device.provider.converter.questions (UInt8.ofNat input))
      device.provider.converter.device = some (made, spi) →
        let asked := Event.read binding.device (channelOf (binding.part.input input)) .raw
        let after := binding.modifySpi (session.note asked) fun _ => spi
        (∃ result, binding.read session input .raw = some (result, after) ∧
          ReadsAs binding.part input made result) ∧
        ∀ trigger, Bound binding session device trigger → device.capturing = true →
          binding.Repeats session device.provider.converter.frames ∧
          binding.Repeats after device.provider.converter.frames

theorem Fronts.readsInput (fronts : Fronts binding session device) (input : Nat) :
    binding.ReadsInput session device input where
  missing absent := by rw [fronts.read_eq, if_neg (Nat.not_lt.2 absent)]
  broken existing stuck := by rw [fronts.read_raw_inTurn existing, stuck, Option.map_none]
  answered existing made spi went := by
    intro asked after
    refine ⟨⟨_, ?_, rawOf_readsAs existing (Converter.verdict_tells _ made)⟩, ?_⟩
    · rw [fronts.read_raw_inTurn existing, went, Option.map_some]
    · intro trigger bound capturing
      have noted : Bound binding (session.note asked) device trigger := bound.moved rfl rfl
      exact ⟨bound.repeats capturing, (noted.modifySpi fun _ => spi).repeats capturing⟩

/-- **Reading one input.** On every device, `inTurn` and `rounds` are what the device is asked: one
that keeps a record writes down just the transactions made. Over any part, settings and device, an
input that the part does not have is turned down with nothing asked. Any other is asked for by its
command, sent twice, and by a word that is read; this stops at the first transaction that fails,
whose reason is the answer, and otherwise the word read is the answer if it carries the input, and a
mismatch if it carries another. The device of a session reads that as a number within the width of
the channel, as a call to try again, or as the reason why the bus failed; and a capture that is on
goes on asking for the same words. -/
theorem one_input_read {σ : Type} [Spi.Device σ UInt16] :
    (∀ (plan : List (Spi.Operation UInt16)) (device : Spi.Logged σ),
      inTurn plan device = (inTurn plan device.device).map fun (made, after) =>
        (made, ⟨after, device.log ++ made⟩)) ∧
    (∀ (plan : List (Spi.Operation UInt16)) (count : Nat) (device : Spi.Logged σ),
      rounds plan count device = (rounds plan count device.device).map fun (made, after) =>
        (made, ⟨after, device.log ++ made.flatten⟩)) ∧
    (∀ (converter : Converter σ) (input : UInt8), converter.ReadsInput input) ∧
    ∀ (binding : Binding) (session : Session (Frontend σ) Unit)
      (device : Device (Frontend σ) Unit), Fronts binding session device →
        ∀ input, binding.ReadsInput session device input :=
  ⟨Spi.inTurn_logged, Spi.rounds_logged, Converter.readsInput,
    fun _ _ _ fronts => fronts.readsInput⟩

end Driver

/-! ## Reading in the middle of a capture -/

/-- The words of a scan of the inputs one and three, whatever is read before it. -/
def oddFrames : List (Spi.Operation UInt16) :=
  [.transfer 1 [0x18C0], .transfer 1 [0x19C0], .transfer 1 [0], .transfer 1 [0]]

/-- The third word of the script carries input three. There is no input four. -/
theorem faltering_read :
    ∃ started after : Session (Frontend (Spi.Script UInt16)) Unit,
      onBench.enable (bench.probe faltering "ti-ads7950" "spi0.1").2 [1, 3] true =
        some (.ok (), started) ∧
      onBench.read started 4 .raw = some (.error .invalid, started) ∧
      onBench.read started 3 .raw = some (.ok (.whole 0x333), after) ∧
      onBench.Repeats started oddFrames ∧ onBench.Repeats after oddFrames := by
  let fresh := (bench.probe faltering "ti-ads7950" "spi0.1").2
  have probed : bench.probe faltering "ti-ads7950" "spi0.1" = (.ok onBench, fresh) :=
    Session.probe_of_toOption (by decide +kernel)
  obtain ⟨first, _, bound, _⟩ := (Session.probe_ok probed).bound
  have ran : ((onBench.enable fresh [1, 3] true).bind fun (result, started) =>
      (started.device? onBench.device).bind fun device =>
        let converter := device.provider.converter
        (inTurn (converter.questions 3) converter.device).map fun (made, _) =>
          (result.toOption, converter.frames, fault? made, lastWord made)) =
      some (some (), oddFrames, none, 0x3333) := by
    decide +kernel
  obtain ⟨⟨result, started⟩, enabled, ran⟩ := Option.bind_eq_some_iff.1 ran
  obtain ⟨device, found, ran⟩ := Option.bind_eq_some_iff.1 ran
  obtain ⟨⟨made, spi⟩, went, same⟩ := Option.map_eq_some_iff.1 ran
  obtain ⟨switched, frames, whole, word⟩ : result.toOption = some () ∧
      device.provider.converter.frames = oddFrames ∧ fault? made = none ∧
      lastWord made = 0x3333 := by simpa using same
  cases result with
  | error error => cases switched
  | ok nothing =>
      obtain ⟨_, layout, still, _, running, _⟩ := bound.enabled enabled
      cases running.device_at.symm.trans found
      have reads := one_input_read.2.2.2 onBench started _ running.fronts
      obtain ⟨⟨result, answered, told⟩, scans⟩ := (reads 3).answered (by decide) made spi went
      obtain ⟨before, afterwards⟩ := scans still running rfl
      rw [frames] at before afterwards
      have three : (lastWord made).toNat = 0x3333 := congrArg UInt16.toNat word
      have value := (told.value (.whole 0x333)).2 ⟨whole, by rw [three]; rfl, by rw [three]; rfl⟩
      rw [value] at answered
      exact ⟨started, _, enabled, (reads 4).missing (by decide), answered, before, afterwards⟩

end Acquisition
