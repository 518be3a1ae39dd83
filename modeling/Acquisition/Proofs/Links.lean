/-
# Acquisition.Proofs.Links — words over a byte-wide device

A link makes one transaction of bytes out of a transaction of words. What the bytes are is said
without its own conversions: two bytes spell a word if its value is 256 times the first and the
second (`Spells`), and an operation is carried by one on the bytes that spell its words
(`Operation.Carried`), padded with zeros where a transfer is uneven.

`transact_line` says what a link does over a line of which nothing is known. A device of bytes
serialises a device of words if it answers what carries a word each way, or one way, with the bytes
that spell the answer of the other (`Serialises`); more than a word is nothing a converter asks for
in one transaction. Over a link to the one a converter gives the same answers as over the other
(`askAll_link`). Every device of words that fills its reader's buffers is serialised by itself
taking bytes (`serialises_octets`), a simulated part among them; and so is a script by one of bytes
(`serialises_script`).
-/
import Mathlib.Data.List.Forall2
import Acquisition.Converter.Simulated
import Acquisition.Proofs.Wire
import Acquisition.Spi.Script
import Acquisition.Spi.WordLink

namespace Acquisition

open Acquisition.Converter (Range)

set_option autoImplicit false

namespace Spi

/-! ## Bytes that spell words -/

/-- Bytes that spell words: two for each, the most significant first. -/
inductive Spells : List UInt16 → List UInt8 → Prop where
  | nil : Spells [] []
  | cons {word : UInt16} {high low : UInt8} {words : List UInt16} {bytes : List UInt8}
      (value : word.toNat = high.toNat * 256 + low.toNat) (rest : Spells words bytes) :
      Spells (word :: words) (high :: low :: bytes)

theorem Spells.length {words : List UInt16} {bytes : List UInt8} (spells : Spells words bytes) :
    bytes.length = words.length * 2 := by
  induction spells with
  | nil => rfl
  | cons value rest ih =>
      simp only [List.length_cons]
      omega

/-- Bytes spell one list of words only. -/
theorem Spells.unique {words : List UInt16} {bytes : List UInt8} (spells : Spells words bytes) :
    ∀ {others : List UInt16}, Spells others bytes → others = words := by
  induction spells with
  | nil =>
      intro others same
      cases same
      rfl
  | cons value rest ih =>
      intro others same
      cases same with
      | cons value' rest' => rw [ih rest', UInt16.toNat_inj.1 (value'.trans value.symm)]

theorem spells_bytesOfWords (words : List UInt16) : Spells words (bytesOfWords words) := by
  induction words with
  | nil => exact .nil
  | cons word rest ih =>
      have small := word.toNat_lt
      refine .cons ?_ ih
      rw [UInt8.toNat_ofNat', UInt16.toNat_toUInt8]
      omega

theorem toNat_wordOfBytes (high low : UInt8) :
    (wordOfBytes high low).toNat = high.toNat * 256 + low.toNat := by
  have highSmall := high.toNat_lt
  have lowSmall := low.toNat_lt
  rw [wordOfBytes, UInt16.toNat_ofNat', Nat.mod_eq_of_lt]
  omega

/-- An even number of bytes spells the words put together from them. -/
theorem spells_wordsOfBytes : ∀ (count : Nat) {bytes : List UInt8}, bytes.length = count * 2 →
    Spells (wordsOfBytes bytes) bytes
  | 0, bytes, even => by
      cases List.length_eq_zero_iff.1 (even.trans (Nat.zero_mul 2))
      exact .nil
  | count + 1, [], even => by
      rw [List.length_nil] at even
      omega
  | count + 1, [_], even => by
      rw [List.length_singleton] at even
      omega
  | count + 1, high :: low :: rest, even => by
      simp only [List.length_cons] at even
      exact .cons (toNat_wordOfBytes high low) (spells_wordsOfBytes count (by omega))

theorem take_wordsOfBytes : ∀ (count : Nat) (bytes : List UInt8),
    (wordsOfBytes bytes).take count = wordsOfBytes (bytes.take (count * 2))
  | 0, bytes => by simp [wordsOfBytes]
  | count + 1, [] => by simp [wordsOfBytes]
  | count + 1, [single] => by
      have all : [single].take ((count + 1) * 2) = [single] := by
        apply List.take_of_length_le
        rw [List.length_singleton]
        omega
      rw [all]
      rfl
  | count + 1, high :: low :: rest => by
      rw [Nat.add_mul, Nat.one_mul, List.take_succ_cons, List.take_succ_cons, wordsOfBytes,
        wordsOfBytes, List.take_succ_cons, take_wordsOfBytes count rest]

/-! ## Operations on bytes -/

/-- An operation on words and the one on bytes that carries it. -/
inductive Operation.Carried : Operation UInt16 → Operation UInt8 → Prop where
  | write {words : List UInt16} {bytes : List UInt8} (spelled : Spells words bytes) :
      Carried (.write words) (.write bytes)
  | read {count : Nat} : Carried (.read count) (.read (2 * count))
  /-- A transfer is of as many bytes both ways; those that spell no word are zero. -/
  | transfer {count length : Nat} {words : List UInt16} {bytes : List UInt8}
      (spelled : Spells words bytes) (longest : length = 2 * max count words.length) :
      Carried (.transfer count words)
        (.transfer length (bytes ++ List.replicate (length - bytes.length) 0))
  | inPlace {words : List UInt16} {bytes : List UInt8} (spelled : Spells words bytes) :
      Carried (.inPlace words) (.transfer (2 * words.length) bytes)
  | delay {nanoseconds : Nat} : Carried (.delay nanoseconds) (.delay nanoseconds)

theorem carried_bytes (operation : Operation UInt16) : operation.Carried operation.bytes := by
  cases operation with
  | write words => exact .write (spells_bytesOfWords words)
  | read count =>
      rw [Operation.bytes, Nat.mul_comm]
      exact .read
  | transfer count words =>
      have spelled := spells_bytesOfWords words
      have padding : (max count words.length - words.length) * 2 =
          2 * max count words.length - (bytesOfWords words).length := by
        rw [spelled.length]
        omega
      simp only [Operation.bytes, padding]
      rw [Nat.mul_comm]
      exact .transfer spelled rfl
  | inPlace words =>
      rw [Operation.bytes, Nat.mul_comm]
      exact .inPlace (spells_bytesOfWords words)
  | delay nanoseconds => exact .delay

/-- The bytes received leave room for the words. -/
theorem Operation.Carried.room {operation : Operation UInt16} {issued : Operation UInt8}
    (carried : operation.Carried issued) :
    2 * (operation.buffer 0).length ≤ (issued.buffer 0).length := by
  cases carried with
  | write spelled => exact Nat.le_refl _
  | read => simp [Operation.buffer]
  | transfer spelled longest =>
      simp only [Operation.buffer, List.length_replicate]
      omega
  | inPlace spelled => simp [Operation.buffer]
  | delay => exact Nat.le_refl _

theorem Operation.Carried.width {operation : Operation UInt16} {issued : Operation UInt8}
    (carried : operation.Carried issued) : issued.width = 2 * operation.width := by
  cases carried with
  | write spelled => exact spelled.length.trans (Nat.mul_comm ..)
  | read => rfl
  | transfer spelled longest =>
      have length := spelled.length
      simp only [Operation.width, List.length_append, List.length_replicate]
      omega
  | inPlace spelled =>
      have length := spelled.length
      simp only [Operation.width]
      omega
  | delay => rfl

/-- The words read are those that the bytes received spell, and fill the reader's buffer. -/
theorem spells_wordsReceived (operation : Operation UInt16) (received : List UInt8) :
    Spells (operation.wordsReceived received)
      ((overlay (operation.bytes.buffer 0) received).take (2 * (operation.buffer 0).length)) := by
  have room := (carried_bytes operation).room
  rw [Operation.wordsReceived, take_wordsOfBytes, Nat.mul_comm]
  apply spells_wordsOfBytes (operation.buffer 0).length
  rw [List.length_take, length_overlay]
  omega

theorem length_wordsReceived (operation : Operation UInt16) (received : List UInt8) :
    (operation.wordsReceived received).length = (operation.buffer 0).length := by
  have room := (carried_bytes operation).room
  have length := (spells_wordsReceived operation received).length
  rw [List.length_take, length_overlay] at length
  omega

/-! ## Transactions -/

/-- Lays the words received for each operation over the buffers of the operations. -/
def overlayAll {α : Type} : List (List α) → List (List α) → List (List α)
  | [], _ => []
  | buffer :: buffers, received =>
      overlay buffer (received.headD []) :: overlayAll buffers received.tail

theorem overlayAll_nil {α : Type} (buffers : List (List α)) : overlayAll buffers [] = buffers := by
  induction buffers with
  | nil => rfl
  | cons buffer buffers ih =>
      show overlay buffer [] :: overlayAll buffers [] = _
      rw [overlay_nil, ih]

theorem map_length_overlayAll {α : Type} (buffers : List (List α)) :
    ∀ received : List (List α),
      (overlayAll buffers received).map List.length = buffers.map List.length := by
  induction buffers with
  | nil => exact fun _ => rfl
  | cons buffer buffers ih =>
      intro received
      rw [overlayAll, List.map_cons, List.map_cons, length_overlay, ih]

/-- Operations and buffers for what they read, as long as the operations say. -/
abbrev Buffered (operations : List (Operation UInt16)) (buffers : List (List UInt16)) : Prop :=
  List.Forall₂ (fun operation buffer => buffer.length = (operation.buffer 0).length)
    operations buffers

/-- Bytes in a link's buffers, and words that their first bytes spell. -/
abbrev Spelled (arrived : List (List UInt8)) (words : List (List UInt16)) : Prop :=
  List.Forall₂ (fun bytes words => Spells words (bytes.take (2 * words.length))) arrived words

/-- What a link hands back are the words that the bytes in its own buffers spell, operation by
operation. -/
theorem spelled_wordsReceived {operations : List (Operation UInt16)}
    {buffers : List (List UInt16)} (buffered : Buffered operations buffers) :
    ∀ received : List (List UInt8),
      Spelled (overlayAll (operations.map fun operation => operation.bytes.buffer 0) received)
        (overlayAll buffers (wordsReceived operations received)) := by
  induction buffered with
  | nil => exact fun _ => .nil
  | @cons operation buffer operations buffers room rest ih =>
      intro received
      have length := length_wordsReceived operation (received.headD [])
      have spells := spells_wordsReceived operation (received.headD [])
      rw [wordsReceived, List.map_cons, overlayAll, overlayAll, List.headD_cons, List.tail_cons,
        overlay_full _ _ (length.trans room.symm)]
      refine .cons ?_ (ih received.tail)
      rw [length]
      exact spells

section Transact

variable {δ : Type} [Device δ UInt8] {inner : δ} {operations : List (Operation UInt16)}
  {reply : Reply UInt8 δ}

theorem transact_broken
    (broken : Device.transact inner (operations.map Operation.bytes) = none) :
    Device.transact (WordLink.mk inner) operations = none := by
  show (Device.transact inner _).map _ = none
  rw [broken, Option.map_none]

theorem transact_failed {fault : Fault}
    (answered : Device.transact inner (operations.map Operation.bytes) = some reply)
    (failed : reply.fault = some fault) :
    Device.transact (WordLink.mk inner) operations = some ⟨some fault, [], ⟨reply.device⟩⟩ := by
  show (Device.transact inner _).map _ = _
  rw [answered, Option.map_some]
  simp only [failed]

theorem transact_done
    (answered : Device.transact inner (operations.map Operation.bytes) = some reply)
    (done : reply.fault = none) :
    Device.transact (WordLink.mk inner) operations =
      some ⟨none, wordsReceived operations reply.received, ⟨reply.device⟩⟩ := by
  show (Device.transact inner _).map _ = _
  rw [answered, Option.map_some]
  simp only [done]

end Transact

theorem carried_map_bytes (operations : List (Operation UInt16)) :
    List.Forall₂ Operation.Carried operations (operations.map Operation.bytes) :=
  List.forall₂_map_right_iff.2 (List.forall₂_same.2 fun operation _ => carried_bytes operation)

/-- **A link over a line of which nothing is known.** -/
theorem transact_line (line : Line UInt8) (operations : List (Operation UInt16)) :
    ∃ issued reply, Device.transact (WordLink.mk line) operations = some reply ∧
      List.Forall₂ Operation.Carried operations issued ∧
      reply.device.inner = { line with asked := line.asked ++ [issued] } ∧
      reply.fault = (line.behaviour line.asked issued).1 ∧
      ∀ buffers, Buffered operations buffers →
        (overlayAll buffers reply.received).map List.length = buffers.map List.length ∧
        (reply.fault ≠ none → overlayAll buffers reply.received = buffers) ∧
        (reply.fault = none →
          Spelled (overlayAll (issued.map (·.buffer 0)) (line.behaviour line.asked issued).2)
            (overlayAll buffers reply.received)) := by
  have answered : Device.transact line (operations.map Operation.bytes) =
      some (line.answer (operations.map Operation.bytes)) := rfl
  refine ⟨operations.map Operation.bytes, ?_⟩
  cases fault : (line.behaviour line.asked (operations.map Operation.bytes)).1 with
  | some reason =>
      refine ⟨_, transact_failed answered fault, carried_map_bytes operations, rfl, rfl, ?_⟩
      intro buffers buffered
      refine ⟨map_length_overlayAll buffers [], fun _ => overlayAll_nil buffers, fun done => ?_⟩
      cases done
  | none =>
      refine ⟨_, transact_done answered fault, carried_map_bytes operations, rfl, rfl, ?_⟩
      intro buffers buffered
      refine ⟨map_length_overlayAll buffers _, fun failed => absurd rfl failed, fun _ => ?_⟩
      rw [List.map_map]
      exact spelled_wordsReceived buffered _

/-! ## Devices of bytes that serialise devices of words -/

section Serialises

variable {σ τ : Type} [Device σ UInt16] [Device τ UInt8] {related : σ → τ → Prop}

/-- An operation that a converter makes a transaction of: one word is sent, or read, or both. -/
inductive Operation.Single : Operation UInt16 → Prop where
  | write (word : UInt16) : Single (.write [word])
  | read : Single (.read 1)
  | transfer (word : UInt16) : Single (.transfer 1 [word])

/-- Devices of bytes that answer what carries a single operation as their devices of words answer
the operation itself: with the same failure or none, and if there is none with bytes that spell the
words, which fill the buffer they are read into. -/
def Serialises (related : σ → τ → Prop) : Prop :=
  ∀ {word : σ} {byte : τ} {operation : Operation UInt16} {issued : Operation UInt8},
    related word byte → operation.Single → operation.Carried issued →
      Option.Rel (fun said told => told.fault = said.fault ∧ related said.device told.device ∧
          (said.fault = none → Buffered [operation] said.received ∧
            Spelled told.received said.received))
        (Device.transact word [operation]) (Device.transact byte [issued])

/-- Devices that bring no words with a failure. -/
def Quiet (related : σ → τ → Prop) : Prop :=
  ∀ {word : σ} {byte : τ} {operations : List (Operation UInt16)} {reply : Reply UInt16 σ},
    related word byte → Device.transact word operations = some reply → reply.fault ≠ none →
      reply.received = []

/-- The words of one operation, out of the bytes that spell them. -/
theorem wordsReceived_of_spells {operation : Operation UInt16} {words : List UInt16}
    {bytes : List UInt8} (room : words.length = (operation.buffer 0).length)
    (spells : Spells words (bytes.take (2 * words.length))) :
    operation.wordsReceived bytes = words := by
  have leave := (carried_bytes operation).room
  have enough := spells.length
  rw [List.length_take] at enough
  have arrived := spells_wordsReceived operation bytes
  have start : (overlay (operation.bytes.buffer 0) bytes).take (2 * (operation.buffer 0).length) =
      bytes.take (2 * words.length) := by
    rw [overlay, room, List.take_append_of_le_length]
    · rw [List.take_take, Nat.min_eq_left leave]
    · rw [List.length_take]
      omega
  rw [start] at arrived
  exact spells.unique arrived

/-- A link to a device of bytes cannot be told apart from the device of words it serialises. -/
theorem Serialises.mirrors (serialises : Serialises related) :
    Mirrors (fun word link => related word (WordLink.inner link)) Operation.Single
      (Quiet related) := by
  intro word link operation buffer other here single room length same
  rcases rel_cases (serialises here single (carried_bytes operation)) with
    ⟨broken, broken'⟩ | ⟨said, told, answered, answered', fault, still, filled⟩
  · rw [perform, perform, broken, transact_broken broken']
    exact .none
  cases failed : said.fault with
  | some reason =>
      rw [perform, perform, answered, transact_failed answered' (fault.trans failed)]
      refine .some ⟨failed.symm, still, fun quiet => ?_, fun done => ?_⟩
      · have nothing : said.received = [] := quiet here answered (by rw [failed]; simp)
        show overlay other [] = overlay buffer (said.received.headD [])
        rw [nothing, same quiet]
        rfl
      · have failedToo : said.fault = none := done
        rw [failed] at failedToo
        cases failedToo
  | none =>
      obtain ⟨received, arrived⟩ := filled failed
      obtain ⟨words, _, roomWords, last, held⟩ := List.forall₂_cons_left_iff.1 received
      cases last
      rw [held] at arrived
      obtain ⟨bytes, _, spells, last, brought⟩ := List.forall₂_cons_right_iff.1 arrived
      cases last
      have read : operation.wordsReceived bytes = words := wordsReceived_of_spells roomWords spells
      have full : overlay buffer words = words := overlay_full _ _ (roomWords.trans room.symm)
      have fullOther : overlay other words = words :=
        overlay_full _ _ ((roomWords.trans room.symm).trans length.symm)
      rw [perform, perform, answered, transact_done answered' (fault.trans failed), Option.map_some,
        Option.map_some, held, brought]
      simp only [wordsReceived, List.headD_cons, read, full, fullOther]
      exact .some ⟨failed.symm, still, fun _ => rfl, fun _ => rfl⟩

end Serialises

/-! ### Devices of words that take bytes -/

/-- A device of words that takes bytes instead, two for each word, and answers in bytes. -/
structure Octets (σ : Type) where
  inner : σ

/-- The operation on the words that the bytes of an operation spell. -/
def Operation.words : Operation UInt8 → Operation UInt16
  | .write bytes => .write (wordsOfBytes bytes)
  | .read count => .read (count / 2)
  | .transfer count bytes => .transfer (count / 2) (wordsOfBytes bytes)
  | .inPlace bytes => .inPlace (wordsOfBytes bytes)
  | .delay nanoseconds => .delay nanoseconds

instance {σ : Type} [Device σ UInt16] : Device (Octets σ) UInt8 where
  transact octets operations :=
    (Device.transact octets.inner (operations.map Operation.words)).map fun reply =>
      ⟨reply.fault, reply.received.map bytesOfWords, ⟨reply.device⟩⟩

theorem Spells.wordsOfBytes_eq {words : List UInt16} {bytes : List UInt8}
    (spells : Spells words bytes) : wordsOfBytes bytes = words :=
  spells.unique (spells_wordsOfBytes words.length spells.length)

/-- What carries a single operation is taken for that operation. -/
theorem Operation.Single.words_eq {operation : Operation UInt16} {issued : Operation UInt8}
    (single : operation.Single) (carried : operation.Carried issued) : issued.words = operation := by
  cases single with
  | write word =>
      cases carried with
      | write spelled => rw [words, spelled.wordsOfBytes_eq]
  | read =>
      cases carried with
      | read => rfl
  | transfer word =>
      cases carried with
      | @transfer _ length _ bytes spelled longest =>
          have two : length = 2 := longest
          have full : length - bytes.length = 0 := by
            rw [spelled.length, two]
            rfl
          rw [words, full, List.replicate_zero, List.append_nil, spelled.wordsOfBytes_eq, two]

/-- **Every device of words is serialised by itself taking bytes**, if it fills the buffer of each
single operation that succeeds. -/
theorem serialises_octets {σ : Type} [Device σ UInt16]
    (fills : ∀ {word : σ} {operation : Operation UInt16} {reply : Reply UInt16 σ},
      operation.Single → Device.transact word [operation] = some reply → reply.fault = none →
        Buffered [operation] reply.received) :
    Serialises fun (word : σ) (octets : Octets σ) => octets.inner = word := by
  rintro word octets operation issued rfl single carried
  show Option.Rel _ _ ((Device.transact octets.inner ([issued].map Operation.words)).map _)
  rw [List.map_singleton, single.words_eq carried]
  cases answered : Device.transact octets.inner [operation] with
  | none => exact .none
  | some reply =>
      refine .some ⟨rfl, rfl, fun done => ⟨fills single answered done, ?_⟩⟩
      refine List.forall₂_map_left_iff.2 (List.forall₂_same.2 fun words _ => ?_)
      have spells := spells_bytesOfWords words
      rw [List.take_of_length_le (Nat.le_of_eq (spells.length.trans (Nat.mul_comm ..)))]
      exact spells

/-- A simulated part hands back one word where one is read, and none where none is. -/
theorem length_operate {chip after : Converter.SimulatedPart} {operation : Operation UInt16}
    {words : List UInt16} (single : operation.Single)
    (operated : chip.operate operation = some (words, after)) :
    words.length = (operation.buffer 0).length := by
  cases single with
  | _ =>
      obtain ⟨done, _, same⟩ := Option.map_eq_some_iff.1 operated
      cases same
      rfl

/-- So a simulated part is serialised by itself taking bytes. -/
theorem serialises_simulated :
    Serialises fun (chip : Converter.SimulatedPart) (octets : Octets Converter.SimulatedPart) =>
      octets.inner = chip := by
  refine serialises_octets fun {chip operation reply} single answered done => ?_
  change chip.transact [operation] = some reply at answered
  rw [Converter.SimulatedPart.transact] at answered
  split at answered
  · cases answered
    cases done
  split at answered
  · cases answered
    cases done
  obtain ⟨⟨received, after⟩, operated, rfl⟩ := Option.map_eq_some_iff.1 answered
  rw [Converter.SimulatedPart.operateAll] at operated
  split at operated
  · cases operated
  · next here =>
      cases operated
      exact .cons (length_operate single here) .nil

/-! ### Scripts -/

theorem Spells.at_position {words : List UInt16} {bytes : List UInt8} (spells : Spells words bytes) :
    ∀ position : Nat, (words[position]?.getD 0).toNat =
      (bytes[2 * position]?.getD 0).toNat * 256 + (bytes[2 * position + 1]?.getD 0).toNat := by
  induction spells with
  | nil => simp
  | cons value rest ih =>
      intro position
      cases position with
      | zero => exact value
      | succ position => exact ih position

theorem draw_succ {α : Type} [Inhabited α] (script : Script α) (position count : Nat) :
    script.draw position (count + 1) =
      script.replyAt position :: script.draw (position + 1) count := by
  rw [Script.draw, Script.draw, List.range_succ_eq_map, List.map_cons, List.map_map]
  congr 1
  apply List.map_congr_left
  intro offset _
  show script.replyAt (position + (offset + 1)) = script.replyAt (position + 1 + offset)
  rw [Nat.add_assoc, Nat.add_comm 1]

/-- A script of bytes that answers with the bytes of the words of a script of words, and fails when
it fails. -/
structure Bytewise (word : Script UInt16) (byte : Script UInt8) : Prop where
  replies : Spells word.replies byte.replies
  used : byte.used = 2 * word.used
  failAt : byte.failAt = word.failAt
  fault : byte.fault = word.fault
  failing : byte.failing = word.failing
  count : byte.count = word.count

namespace Bytewise

variable {word : Script UInt16} {byte : Script UInt8}

theorem replyAt (bytewise : Bytewise word byte) (position : Nat) :
    (word.replyAt position).toNat =
      (byte.replyAt (2 * position)).toNat * 256 + (byte.replyAt (2 * position + 1)).toNat := by
  have length : byte.replies.length = 2 * word.replies.length :=
    bytewise.replies.length.trans (Nat.mul_comm ..)
  have even : 2 * position % (2 * word.replies.length) = 2 * (position % word.replies.length) :=
    Nat.mul_mod_mul_left ..
  have odd : (2 * position + 1) % (2 * word.replies.length) =
      2 * (position % word.replies.length) + 1 := by
    have half : (2 * position + 1) / 2 = position := by omega
    rw [Nat.mod_mul, half]
    omega
  rw [Script.replyAt, Script.replyAt, Script.replyAt, length, even, odd]
  exact bytewise.replies.at_position _

theorem draw (bytewise : Bytewise word byte) (count : Nat) : ∀ position : Nat,
    Spells (word.draw position count) (byte.draw (2 * position) (2 * count)) := by
  induction count with
  | zero => exact fun _ => .nil
  | succ count ih =>
      intro position
      have later : 2 * (count + 1) = 2 * count + 1 + 1 := by omega
      rw [draw_succ, later, draw_succ, draw_succ]
      exact .cons (bytewise.replyAt position) (ih (position + 1))

/-- What two such scripts bring for one operation. -/
theorem drawn (bytewise : Bytewise word byte) {operation : Operation UInt16}
    {issued : Operation UInt8} (carried : operation.Carried issued) (position : Nat) :
    Spells (word.draw position (operation.buffer 0).length)
      ((byte.draw (2 * position) (issued.buffer 0).length).take
        (2 * (operation.buffer 0).length)) := by
  have room := carried.room
  have cut : (byte.draw (2 * position) (issued.buffer 0).length).take
      (2 * (operation.buffer 0).length) =
        byte.draw (2 * position) (2 * (operation.buffer 0).length) := by
    rw [Script.draw, Script.draw, ← List.map_take, List.take_range, Nat.min_eq_left room]
  rw [cut]
  exact bytewise.draw _ position

theorem serve (bytewise : Bytewise word byte) {operations : List (Operation UInt16)}
    {issued : List (Operation UInt8)} (carried : List.Forall₂ Operation.Carried operations issued) :
    ∀ position : Nat,
      Buffered operations (word.serve position operations).1 ∧
      Spelled (byte.serve (2 * position) issued).1 (word.serve position operations).1 ∧
      (byte.serve (2 * position) issued).2 = 2 * (word.serve position operations).2 := by
  induction carried with
  | nil => exact fun _ => ⟨.nil, .nil, rfl⟩
  | @cons operation issued operations others first rest ih =>
      intro position
      have width := first.width
      have next : 2 * position + issued.width = 2 * (position + operation.width) := by omega
      obtain ⟨buffered, spelled, last⟩ := ih (position + operation.width)
      have length : (word.draw position (operation.buffer 0).length).length =
          (operation.buffer 0).length := by
        rw [Script.draw, List.length_map, List.length_range]
      rw [Script.serve, Script.serve, next]
      refine ⟨.cons length buffered, .cons ?_ spelled, last⟩
      show Spells (word.draw position (operation.buffer 0).length)
        (List.take (2 * (word.draw position (operation.buffer 0).length).length) _)
      rw [length]
      exact bytewise.drawn first position

/-- What two such scripts answer, to any transaction. -/
theorem transact (bytewise : Bytewise word byte) {operations : List (Operation UInt16)}
    {issued : List (Operation UInt8)} (carried : List.Forall₂ Operation.Carried operations issued) :
    Option.Rel (fun said told => told.fault = said.fault ∧ Bytewise said.device told.device ∧
        (said.fault = none → Buffered operations said.received ∧
          Spelled told.received said.received))
      (Device.transact word operations) (Device.transact byte issued) := by
  refine .some ?_
  have refuses : byte.refuses = word.refuses := by
    rw [Script.refuses, Script.refuses, bytewise.failing, bytewise.failAt, bytewise.count]
  have count : byte.count + 1 = word.count + 1 := congrArg (· + 1) bytewise.count
  rw [Script.answer, Script.answer, refuses]
  split
  · refine ⟨congrArg some bytewise.fault, ?_, fun done => by cases done⟩
    exact ⟨bytewise.replies, bytewise.used, bytewise.failAt, bytewise.fault, bytewise.failing, count⟩
  · obtain ⟨buffered, spelled, last⟩ := bytewise.serve carried word.used
    rw [bytewise.used]
    refine ⟨rfl, ?_, fun _ => ⟨buffered, spelled⟩⟩
    exact ⟨bytewise.replies, last, bytewise.failAt, bytewise.fault, bytewise.failing, count⟩

end Bytewise

/-- **A script of bytes serialises the script of words that they spell.** -/
theorem serialises_script : Serialises Bytewise :=
  fun bytewise _ carried => bytewise.transact (.cons carried .nil)

end Spi

namespace Converter

/-! ## Converters over links -/

/-- A converter over a link to a device of bytes gives the same answers as over the device of words
that it serialises. -/
theorem askAll_link {σ τ : Type} [Spi.Device σ UInt16] [Spi.Device τ UInt8] {related : σ → τ → Prop}
    (serialises : Spi.Serialises related) {word : σ} {byte : τ} (start : related word byte)
    (part : Part) (range : Range) (requests : List Request) :
    Option.Rel (Agree (fun word link => related word (Spi.WordLink.inner link))
        (Spi.Quiet related))
      (askAll requests (fresh word part range))
      (askAll requests (fresh (Spi.WordLink.mk byte) part range)) := by
  have alike : (fresh word part range).Alike (fun word link => related word (Spi.WordLink.inner link))
      (Spi.Quiet related) (fresh (Spi.WordLink.mk byte) part range) :=
    ⟨rfl, rfl, rfl, rfl, fun _ => rfl, start⟩
  refine askAll_alike serialises.mirrors requests alike ⟨.read, .transfer 0, ?_, ?_⟩
  · exact fun _ _ => ⟨.write _, .transfer _⟩
  · intro _ member
    rw [show (fresh word part range).scan.commands = [] from PreparedScan.commands_blank] at member
    cases member

/-- **A link is a faithful view of a byte-wide device in words of sixteen bits.** Once its word size
is set, a transaction of words is one transaction of the bytes that carry it, whatever the device
does; when that fails the failure is handed on and no word changes, and when it succeeds every word
read is the one that its two bytes spell. So a converter over a link to a device that serialises a
device of words gives the same answers, and stays in the same state, as over that device. -/
theorem word_link_faithful {line : Spi.Line UInt8} {bits : Nat}
    {link : Spi.WordLink (Spi.Line UInt8)}
    (ready : Spi.WordSize.setWordSize (Spi.WordLink.mk line) bits = (none, link)) :
    (∀ operations : List (Spi.Operation UInt16), ∃ issued reply,
      Spi.Device.transact link operations = some reply ∧
      List.Forall₂ Spi.Operation.Carried operations issued ∧
      reply.device.inner = { line with asked := line.asked ++ [issued] } ∧
      reply.fault = (line.behaviour line.asked issued).1 ∧
      ∀ buffers, Spi.Buffered operations buffers →
        (Spi.overlayAll buffers reply.received).map List.length = buffers.map List.length ∧
        (reply.fault ≠ none → Spi.overlayAll buffers reply.received = buffers) ∧
        (reply.fault = none →
          Spi.Spelled
            (Spi.overlayAll (issued.map (·.buffer 0)) (line.behaviour line.asked issued).2)
            (Spi.overlayAll buffers reply.received))) ∧
    ∀ {σ τ : Type} [Spi.Device σ UInt16] [Spi.Device τ UInt8] {related : σ → τ → Prop} {word : σ}
      {byte : τ} {linked : Spi.WordLink τ}, Spi.Serialises related → related word byte →
        Spi.WordSize.setWordSize (Spi.WordLink.mk byte) bits = (none, linked) →
          ∀ (part : Part) (range : Range) (requests : List Request),
            Option.Rel (Agree (fun word link => related word (Spi.WordLink.inner link))
                (Spi.Quiet related))
              (askAll requests (fresh word part range))
              (askAll requests (fresh linked part range)) := by
  refine ⟨fun operations => ?_, fun serialises start readyToo part range requests => ?_⟩
  · cases congrArg Prod.snd ready
    exact Spi.transact_line line operations
  · cases congrArg Prod.snd readyToo
    exact askAll_link serialises start part range requests

/-- A device that answers every byte it is sent with the byte one higher. -/
def loopback : Spi.Line UInt8 where
  behaviour _ operations := (none, operations.map fun operation => operation.outgoing.map (· + 1))

/-- An uneven transfer and words read in place, over a link to a device that answers each byte it
gets; and a scan of two inputs over a script and over a link to the script of its bytes. -/
theorem word_link_faithful_loopback :
    Spi.WordSize.setWordSize (Spi.WordLink.mk loopback) 16 = (none, Spi.WordLink.mk loopback) ∧
    (∃ issued reply,
      Spi.Device.transact (Spi.WordLink.mk loopback)
        [.write [0x1840], .transfer 2 [0x0102], .inPlace [0x1BC0], .delay 5] = some reply ∧
      reply.device.inner.asked = [issued] ∧
      reply.received = [[], [0x0203, 0x0101], [0x1CC1], []] ∧
      Spi.Spelled
        (Spi.overlayAll (issued.map (·.buffer 0)) (loopback.behaviour [] issued).2)
        (Spi.overlayAll [[], [7, 7], [0x1BC0], []] reply.received)) ∧
    ∃ direct through,
      askAll [.program (.ofList [1, 4]), .scan]
        (fresh ({ replies := [0x1102, 0x4304] } : Spi.Script UInt16) .ads7950 .double) =
          some direct ∧
      askAll [.program (.ofList [1, 4]), .scan]
        (fresh (Spi.WordLink.mk ({ replies := [0x11, 0x02, 0x43, 0x04] } : Spi.Script UInt8))
          .ads7950 .double) = some through ∧
      through.1 = direct.1 := by
  have ready : Spi.WordSize.setWordSize (Spi.WordLink.mk loopback) 16 =
    (none, Spi.WordLink.mk loopback) := rfl
  refine ⟨ready, ?_, ?_⟩
  · obtain ⟨issued, reply, done, carried, record, fault, words⟩ := (word_link_faithful ready).1
      [.write [0x1840], .transfer 2 [0x0102], .inPlace [0x1BC0], .delay 5]
    have buffered : Spi.Buffered [.write [0x1840], .transfer 2 [0x0102], .inPlace [0x1BC0], .delay 5]
      [[], [7, 7], [0x1BC0], []] := .cons rfl (.cons rfl (.cons rfl (.cons rfl .nil)))
    have spelled := (words _ buffered).2.2 (fault.trans rfl)
    have asked := congrArg Spi.Line.asked record
    have received : reply.received = [[], [0x0203, 0x0101], [0x1CC1], []] := by
      cases done
      rfl
    exact ⟨issued, reply, done, asked, received, spelled⟩
  · have bytewise : Spi.Bytewise { replies := [0x1102, 0x4304] }
        { replies := [0x11, 0x02, 0x43, 0x04] } :=
      ⟨.cons rfl (.cons rfl .nil), rfl, rfl, rfl, rfl, rfl⟩
    have rel := (word_link_faithful ready).2 Spi.serialises_script bytewise rfl .ads7950 .double
      [.program (.ofList [1, 4]), .scan]
    rcases rel_cases rel with ⟨broken, _⟩ | ⟨direct, through, answered, answered', same, _⟩
    · cases broken
    · exact ⟨direct, through, answered, answered', same⟩

end Converter

end Acquisition
