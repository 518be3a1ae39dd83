/-
# Acquisition.Proofs.Freshness — a scan brings what was received for it

The words set aside for what is received are never cleared, and there are more of them than any scan
needs: after scans of larger and smaller sets, some of them cut short, they hold words of several
exchanges. `clock_delivers` says what one exchange does to them. It sends its words in order, each
in a transaction of its own, until one fails or none is left; the words received take the first
places, and the rest stays what it was.

`scan_fresh` follows. A scan that succeeds hands back what its own transactions brought, from the
third on, whichever inputs the words carry, so nothing of an earlier exchange is ever taken for a
result. A scan that fails says why the last transaction failed. The report about a result of
another input names the first there is (`mismatch?_eq_some_iff`).
-/
import Acquisition.Proofs.Pipeline
import Acquisition.Spi.Logged
import Acquisition.Spi.Script

namespace Acquisition

open Acquisition.Converter (InputSet Mismatch PreparedScan Problem Response command)

set_option autoImplicit false

/-! ## Frames -/

namespace Spi

/-- The frame of a word: a transaction of its own. -/
def frame (word : UInt16) : List (Operation UInt16) :=
  [.transfer 1 [word]]

/-- Devices of a kind that answer every frame, with a word if it succeeds and without one if it
fails, and stay of the kind. -/
def WordForWord {τ : Type} [Device τ UInt16] (kind : τ → Prop) : Prop :=
  ∀ (device : τ) (word : UInt16), kind device → ∃ reply : Reply UInt16 τ,
    Device.transact device (frame word) = some reply ∧
      (reply.received.headD [] = [] ↔ reply.fault.isSome = true) ∧ kind reply.device

/-- The word a frame brought, if it brought one. -/
def Transaction.reply? (sent : Transaction) : Option UInt16 :=
  (sent.received.headD []).head?

/-- Frames that carry the listed words, none of which failed, and the words they brought. -/
structure Delivered (words replies : List UInt16) (frames : List Transaction) : Prop where
  operations : frames.map Transaction.operations = words.map frame
  succeeded : ∀ sent ∈ frames, sent.fault = none
  replies : frames.map Transaction.reply? = replies.map some

theorem Delivered.length {words replies : List UInt16} {frames : List Transaction}
    (delivered : Delivered words replies frames) : replies.length = words.length := by
  have sent := congrArg List.length delivered.operations
  have brought := congrArg List.length delivered.replies
  simp only [List.length_map] at sent brought
  omega

theorem Delivered.nil : Delivered [] [] [] :=
  ⟨rfl, fun _ member => absurd member List.not_mem_nil, rfl⟩

/-- One more frame in front. -/
theorem Delivered.cons {words replies : List UInt16} {frames : List Transaction}
    {sent : Transaction} {word reply : UInt16} (operations : sent.operations = frame word)
    (succeeded : sent.fault = none) (brought : sent.reply? = some reply)
    (rest : Delivered words replies frames) :
    Delivered (word :: words) (reply :: replies) (sent :: frames) := by
  refine ⟨?_, ?_, ?_⟩
  · rw [List.map_cons, List.map_cons, operations, rest.operations]
  · intro other member
    rcases List.mem_cons.1 member with rfl | later
    · exact succeeded
    · exact rest.succeeded other later
  · rw [List.map_cons, List.map_cons, brought, rest.replies]

variable {τ : Type} [Device τ UInt16] {kind : τ → Prop}

/-- A frame is written down, and leaves the word it brought in its place, or what was there. -/
theorem perform_frame (answers : WordForWord kind) {device : Logged τ} (here : kind device.device)
    (word place : UInt16) :
    ∃ (sent : Transaction) (after : τ), sent.operations = frame word ∧
      (sent.reply? = none ↔ sent.fault.isSome = true) ∧ kind after ∧
      perform device (.transfer 1 [word]) [place] =
        some ⟨sent.fault, [sent.reply?.getD place], ⟨after, device.log ++ [sent]⟩⟩ := by
  obtain ⟨reply, answered, bare, still⟩ := answers device.device word here
  let sent : Transaction := ⟨frame word, reply.fault, reply.received⟩
  refine ⟨sent, reply.device, rfl, List.head?_eq_none_iff.trans bare, still, ?_⟩
  have laid : overlay [place] (reply.received.headD []) = [sent.reply?.getD place] := by
    show _ = [(reply.received.headD []).head?.getD place]
    cases reply.received.headD [] with
    | nil => rfl
    | cons word rest => simp [overlay]
  have written : Device.transact device (frame word) =
      some { reply with device := ⟨reply.device, device.log ++ [sent]⟩ } := by
    show Option.map _ (Device.transact device.device (frame word)) = _
    rw [answered]
    rfl
  show Option.map _ (Device.transact device (frame word)) = _
  rw [written, Option.map_some, laid]

end Spi

open Spi (Delivered Logged Transaction WordForWord frame)

namespace Converter

/-! ## Exchanges -/

section Exchanges

variable {τ : Type} [Spi.Device τ UInt16] {kind : τ → Prop} (answers : WordForWord kind)

include answers

/-- **An exchange sends its words in order**, each in a frame of its own, until one fails or none
is left. The words received take the first places; the other places stay. -/
theorem clock_delivers (commands : List UInt16) : ∀ (store : List UInt16) (device : Logged τ),
    kind device.device → commands.length ≤ store.length →
      (∃ replies frames after, Delivered commands replies frames ∧
        PreparedScan.clock commands store device = some
          ⟨none, replies ++ store.drop replies.length, ⟨after, device.log ++ frames⟩⟩) ∨
      ∃ (sent : List UInt16) (word : UInt16) (rest replies : List UInt16)
          (frames : List Transaction) (last : Transaction) (fault : Spi.Fault) (after : τ),
        commands = sent ++ word :: rest ∧ Delivered sent replies frames ∧
        last.operations = frame word ∧ last.fault = some fault ∧
        PreparedScan.clock commands store device = some
          ⟨some fault, replies ++ store.drop replies.length,
            ⟨after, device.log ++ (frames ++ [last])⟩⟩ := by
  induction commands with
  | nil =>
      intro store device _ _
      refine .inl ⟨[], [], device.device, .nil, ?_⟩
      simp [PreparedScan.clock]
  | cons word commands ih =>
      intro store device here room
      cases store with
      | nil => simp at room
      | cons place store =>
      obtain ⟨sent, middle, operations, bare, still, performed⟩ :=
        Spi.perform_frame answers here word place
      cases failed : sent.fault with
      | some fault =>
          have nothing : sent.reply? = none := bare.2 (by rw [failed]; rfl)
          rw [failed, nothing] at performed
          refine .inr ⟨[], word, commands, [], [], sent, fault, middle, rfl, .nil, operations,
            failed, ?_⟩
          simp [PreparedScan.clock, performed]
      | none =>
          obtain ⟨reply, brought⟩ : ∃ reply, sent.reply? = some reply := by
            rw [← Option.ne_none_iff_exists', ne_eq, bare, failed]
            exact Bool.false_ne_true
          rw [failed, brought] at performed
          rcases ih store ⟨middle, device.log ++ [sent]⟩ still (by simpa using room) with
            ⟨replies, frames, after, delivered, clocked⟩ |
              ⟨before, stuck, rest, replies, frames, last, fault, after, split, delivered, tried,
                refused, clocked⟩
          · refine .inl ⟨reply :: replies, sent :: frames, after,
              delivered.cons operations failed brought, ?_⟩
            simp [PreparedScan.clock, performed, clocked]
          · refine .inr ⟨word :: before, stuck, rest, reply :: replies, sent :: frames, last, fault,
              after, congrArg (word :: ·) split, delivered.cons operations failed brought, tried,
              refused, ?_⟩
            simp [PreparedScan.clock, performed, clocked]

end Exchanges

/-! ## Results of other inputs -/

/-- The result at a position carries the input at that position in its upper four bits. -/
def TaggedAt (inputs : List UInt8) (payload : List UInt16) (position : Nat) : Prop :=
  ∀ input word, inputs[position]? = some input → payload[position]? = some word →
    word.toNat / 2 ^ (12 : Nat) = input.toNat

/-- The first result that carries another input than the one at its position. -/
structure FirstMismatch (inputs : List UInt8) (payload : List UInt16) (mismatch : Mismatch) :
    Prop where
  expected : inputs[mismatch.position]? = some mismatch.expected
  found : ∃ word, payload[mismatch.position]? = some word ∧
    mismatch.found.toNat = word.toNat / 2 ^ (12 : Nat)
  differs : mismatch.found ≠ mismatch.expected
  least : ∀ position < mismatch.position, TaggedAt inputs payload position

namespace FirstMismatch

variable {inputs : List UInt8} {payload : List UInt16} {mismatch other : Mismatch}

theorem not_taggedAt (first : FirstMismatch inputs payload mismatch) :
    ¬TaggedAt inputs payload mismatch.position := by
  intro tagged
  obtain ⟨word, brought, found⟩ := first.found
  apply first.differs
  rw [← UInt8.toNat_inj, found]
  exact tagged _ _ first.expected brought

/-- There is only one first mismatch. -/
theorem unique (first : FirstMismatch inputs payload mismatch)
    (second : FirstMismatch inputs payload other) : mismatch = other := by
  have position : mismatch.position = other.position := by
    rcases Nat.lt_trichotomy mismatch.position other.position with before | same | behind
    · exact absurd (second.least _ before) first.not_taggedAt
    · exact same
    · exact absurd (first.least _ behind) second.not_taggedAt
  obtain ⟨word, brought, found⟩ := first.found
  obtain ⟨word', brought', found'⟩ := second.found
  obtain ⟨place, expected, tag⟩ := mismatch
  obtain ⟨place', expected', tag'⟩ := other
  cases position
  cases brought.symm.trans brought'
  cases first.expected.symm.trans second.expected
  cases UInt8.toNat_inj.1 (found.trans found'.symm)
  rfl

end FirstMismatch

namespace PreparedScan

/-- What is said about the result at a position. -/
def mismatchAt? (expected : UInt8) (word : UInt16) (position : Nat) : Option Mismatch :=
  let found := (Response.mk word).tag
  if found = expected then none else some ⟨position, expected, found⟩

theorem mismatchAt?_eq_none_iff {expected : UInt8} {word : UInt16} {position : Nat} :
    mismatchAt? expected word position = none ↔ word.toNat / 2 ^ (12 : Nat) = expected.toNat := by
  rw [← Response.toNat_tag, UInt8.toNat_inj, mismatchAt?]
  by_cases same : (Response.mk word).tag = expected <;> simp [same]

theorem mismatch?_eq_findSome? (scan : PreparedScan) :
    scan.mismatch? = (scan.inputs.toList.zip scan.payload).zipIdx.findSome?
      fun result => mismatchAt? result.1.1 result.1.2 result.2 :=
  rfl

/-- **There is nothing to report just if every result carries its input.** -/
theorem mismatch?_eq_none_iff (scan : PreparedScan) :
    scan.mismatch? = none ↔
      ∀ position, TaggedAt scan.inputs.toList scan.payload position := by
  rw [mismatch?_eq_findSome?, List.findSome?_eq_none_iff]
  constructor
  · intro silent position input word here brought
    have paired : (scan.inputs.toList.zip scan.payload)[position]? = some (input, word) :=
      List.getElem?_zip_eq_some.2 ⟨here, brought⟩
    have listed : ((input, word), position) ∈ (scan.inputs.toList.zip scan.payload).zipIdx :=
      List.mem_zipIdx_iff_getElem?.2 paired
    have nothing := silent _ listed
    exact mismatchAt?_eq_none_iff.1 nothing
  · rintro tagged ⟨⟨input, word⟩, position⟩ listed
    obtain ⟨here, brought⟩ := List.getElem?_zip_eq_some.1 (List.mem_zipIdx_iff_getElem?.1 listed)
    exact mismatchAt?_eq_none_iff.2 (tagged position input word here brought)

/-- What is reported is the first mismatch. -/
theorem firstMismatch {scan : PreparedScan} {mismatch : Mismatch}
    (reported : scan.mismatch? = some mismatch) :
    FirstMismatch scan.inputs.toList scan.payload mismatch := by
  rw [mismatch?_eq_findSome?] at reported
  obtain ⟨before, ⟨⟨expected, word⟩, position⟩, after, split, here, silent⟩ :=
    List.findSome?_eq_some_iff.1 reported
  -- each result is numbered by the place at which it stands
  have stands (place : Nat) : (before ++ ((expected, word), position) :: after)[place]? =
      ((scan.inputs.toList.zip scan.payload)[place]?).map fun pair => (pair, place) := by
    rw [← split, List.getElem?_zipIdx, Nat.zero_add]
  have last := stands before.length
  rw [List.getElem?_append_right (Nat.le_refl _), Nat.sub_self, List.getElem?_cons_zero] at last
  obtain ⟨pair, paired, same⟩ := Option.map_eq_some_iff.1 last.symm
  cases same
  obtain ⟨listed, brought⟩ := List.getElem?_zip_eq_some.1 paired
  rw [mismatchAt?] at here
  split at here
  · cases here
  next differs =>
  cases here
  refine ⟨listed, ⟨word, brought, Response.toNat_tag word⟩, differs, ?_⟩
  intro place earlier input word' listed' brought'
  have paired' : (scan.inputs.toList.zip scan.payload)[place]? = some (input, word') :=
    List.getElem?_zip_eq_some.2 ⟨listed', brought'⟩
  have found := stands place
  rw [List.getElem?_append_left earlier, paired', Option.map_some] at found
  have nothing := silent _ (List.mem_of_getElem? found)
  exact mismatchAt?_eq_none_iff.1 nothing

/-- **The report names the first mismatch, if there is any.** -/
theorem mismatch?_eq_some_iff (scan : PreparedScan) (mismatch : Mismatch) :
    scan.mismatch? = some mismatch ↔
      FirstMismatch scan.inputs.toList scan.payload mismatch := by
  constructor
  · exact firstMismatch
  · intro first
    cases reported : scan.mismatch? with
    | none => exact absurd ((mismatch?_eq_none_iff scan).1 reported _) first.not_taggedAt
    | some other => rw [(firstMismatch reported).unique first]

/-- An exchange leaves everything about a scan but the words received. -/
theorem exchange_kept {σ : Type} [Spi.Device σ UInt16] {scan after : PreparedScan}
    {device later : σ} {fault : Option Spi.Fault}
    (exchanged : scan.exchange device = some (fault, after, later)) :
    after.inputs = scan.inputs ∧ after.outbox = scan.outbox ∧ after.bytes = scan.bytes := by
  unfold exchange at exchanged
  split at exchanged
  · cases exchanged
  · cases exchanged
    exact ⟨rfl, rfl, rfl⟩

end PreparedScan

/-! ## Scans -/

variable {τ : Type} [Spi.Device τ UInt16] {kind : τ → Prop} {converter : Converter (Logged τ)}

/-- **A scan brings what was received for it**, whatever was received before. Its words are sent in
order, one frame each. If a frame fails it is the last, the scan fails for its reason, and the words
of the frames before it have taken the first places of what is received. If none fails, the results
are the words that the frames brought from the third on, one for each input, whichever inputs they
carry; and the first that carries another input than its own, if there is any, is reported. Nothing
else that is set aside for the scan changes. -/
theorem scan_fresh (answers : WordForWord kind) (here : kind converter.device.device)
    (programmed : converter.scan.Programmed converter.settings) :
    ∃ result scanned lines, converter.scanInputs = some (result, scanned, lines) ∧
      scanned.part = converter.part ∧ scanned.settings = converter.settings ∧
      scanned.scan.inputs = converter.scan.inputs ∧
      scanned.scan.outbox = converter.scan.outbox ∧ scanned.scan.bytes = converter.scan.bytes ∧
      match result with
      | .ok payload => ∃ first second frames,
          Delivered converter.scan.commands (first :: second :: payload) frames ∧
          scanned.device.log = converter.device.log ++ frames ∧
          scanned.scan.store =
            first :: second :: payload ++ converter.scan.store.drop (payload.length + 2) ∧
          payload.length = converter.scan.inputs.count ∧
          lines = (scanned.scan.mismatch?.map converter.mismatchLine).toList ∧
          (∀ mismatch, scanned.scan.mismatch? = some mismatch ↔
            FirstMismatch converter.scan.inputs.toList payload mismatch) ∧
          (scanned.scan.mismatch? = none ↔
            ∀ position, TaggedAt converter.scan.inputs.toList payload position)
      | .error problem => ∃ sent word rest replies frames last fault,
          converter.scan.commands = sent ++ word :: rest ∧ Delivered sent replies frames ∧
          last.operations = frame word ∧ last.fault = some fault ∧ problem = .spi fault ∧
          scanned.device.log = converter.device.log ++ (frames ++ [last]) ∧
          scanned.scan.store = replies ++ converter.scan.store.drop sent.length ∧ lines = [] := by
  have length : converter.scan.commands.length = converter.scan.inputs.count + 2 :=
    (PreparedScan.length_commands _).trans programmed.words
  have room : converter.scan.commands.length ≤ converter.scan.store.length := by
    rw [PreparedScan.length_commands]
    exact converter.scan.words_le
  rcases clock_delivers answers converter.scan.commands converter.scan.store converter.device
      here room with ⟨replies, frames, device, delivered, clocked⟩ |
      ⟨sent, word, rest, replies, frames, last, fault, device, split, delivered, tried, refused,
        clocked⟩
  · obtain ⟨scan, exchanged, inputs, commands, store⟩ := PreparedScan.exchange_of_clock clocked
    obtain ⟨_, outbox, bytes⟩ := PreparedScan.exchange_kept exchanged
    have count := delivered.length.trans length
    obtain ⟨first, second, payload, rfl⟩ : ∃ first second payload,
        replies = first :: second :: payload := by
      match replies, count with
      | first :: second :: payload, _ => exact ⟨first, second, payload, rfl⟩
    have results : scan.payload = payload := by
      rw [PreparedScan.payload, PreparedScan.received, ← PreparedScan.length_commands, commands,
        store, ← delivered.length, List.take_left]
      rfl
    have reported := scan.mismatch?_eq_some_iff
    have silent := scan.mismatch?_eq_none_iff
    rw [inputs, results] at reported silent
    refine ⟨.ok payload,
      { converter with scan, device := ⟨device, converter.device.log ++ frames⟩ },
      (scan.mismatch?.map converter.mismatchLine).toList, ?_, rfl, rfl, inputs, outbox, bytes,
      first, second, frames, delivered, rfl, store, ?_, rfl, reported, silent⟩
    · rw [scanInputs, exchanged, Option.map_some, ← results]
      rfl
    · simpa using count
  · obtain ⟨scan, exchanged, inputs, _, store⟩ := PreparedScan.exchange_of_clock clocked
    obtain ⟨_, outbox, bytes⟩ := PreparedScan.exchange_kept exchanged
    rw [delivered.length] at store
    refine ⟨.error (.spi fault), { converter with
        scan, device := ⟨device, converter.device.log ++ (frames ++ [last])⟩ }, [], ?_, rfl, rfl,
      inputs, outbox, bytes, sent, word, rest, replies, frames, last, fault, split, delivered,
      tried, refused, rfl, rfl, store, rfl⟩
    rw [scanInputs, exchanged, Option.map_some]

/-! ## A scan after one that was cut short -/

/-- A script answers every frame with its next word, unless it fails. -/
theorem wordForWord_script : WordForWord fun _ : Spi.Script UInt16 => True := by
  intro script word _
  refine ⟨_, rfl, ?_, trivial⟩
  rw [Spi.Script.answer]
  split
  · simp
  · have served : (script.serve script.used (frame word)).1 = [script.draw script.used 1] := rfl
    simp [served, Spi.Script.draw]

/-- A converter whose device fails at the fifth transaction. -/
def balky : Converter (Logged (Spi.Script UInt16)) where
  part := .ads7950
  device :=
    { device :=
        { replies := [0x0AAA, 0x1BBB, 0x2CCC, 0x3DDD, 0x4000, 0x0FFF, 0x1234, 0x2345]
          failAt := [4] } }

/-- The converter after a scan of all its inputs that was cut short, prepared for two of them. -/
def cutShort : Converter (Logged (Spi.Script UInt16)) :=
  let begun := (balky.program (.ofList [0, 1, 2, 3])).2
  let stopped := (begun.scanInputs.map fun done => done.2.1).getD begun
  (stopped.program (.ofList [3, 1])).2

theorem cutShort_fresh :
    cutShort.scan.store.take 6 = [0x0AAA, 0x1BBB, 0x2CCC, 0x3DDD, 0, 0] ∧
      ∃ scanned lines frames, cutShort.scanInputs = some (.ok [0x1234, 0x2345], scanned, lines) ∧
        Delivered cutShort.scan.commands [0x4000, 0x0FFF, 0x1234, 0x2345] frames ∧
        scanned.device.log = cutShort.device.log ++ frames ∧
        FirstMismatch [1, 3] [0x1234, 0x2345] ⟨1, 3, 2⟩ := by
  have programmed : cutShort.scan.Programmed cutShort.settings := by
    unfold PreparedScan.Programmed
    decide +kernel
  have inputs : cutShort.scan.inputs.toList = [1, 3] := by decide +kernel
  have ran : (cutShort.scanInputs.map fun done =>
      (done.1.toOption, done.2.1.scan.store.take 2, done.2.1.scan.mismatch?)) =
        some (some [0x1234, 0x2345], [0x4000, 0x0FFF], some ⟨1, 3, 2⟩) := by
    decide +kernel
  refine ⟨by decide +kernel, ?_⟩
  obtain ⟨result, scanned, lines, answered, _, _, _, _, _, brought⟩ :=
    scan_fresh wordForWord_script trivial programmed
  rw [answered, Option.map_some, Option.some.injEq] at ran
  obtain ⟨outcome, others⟩ := Prod.mk.inj ran
  obtain ⟨leading, reported⟩ := Prod.mk.inj others
  cases result with
  | error problem => cases outcome
  | ok payload =>
      cases outcome
      obtain ⟨first, second, frames, delivered, log, store, _, _, named, _⟩ := brought
      rw [store] at leading
      cases leading
      rw [inputs] at named
      exact ⟨scanned, lines, frames, answered, delivered, log, (named _).1 reported⟩

end Converter

end Acquisition
