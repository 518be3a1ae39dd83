/-
# Acquisition.Spi.Device — devices that answer transactions

A transaction is a list of operations carried out while the device stays
selected. A `Device` is anything that answers transactions: it says whether the
transaction failed, hands back words for the operations that read, and goes on
from a new state. Nothing else is asked of it, so a statement about an arbitrary
`Device` is a statement about every bus, faulty ones included. The answer `none`
means that the device broke down in the middle of the transaction: there is no
device to go on with.

The words handed back are laid over the reader's buffer (`overlay`): a device
that hands back too few leaves the rest of the buffer as it was, one that hands
back too many is cut off. A buffer therefore never changes its length
(`length_overlay`).
-/

import Acquisition.Bytes
import Acquisition.Spi.Fault

namespace Acquisition.Spi

set_option autoImplicit false

/-- One operation of a transaction, over words of type `α`. -/
inductive Operation (α : Type) where
  /-- Sends words and drops what comes back. -/
  | write (words : List α)
  /-- Reads so many words. -/
  | read (count : Nat)
  /-- Sends words while reading so many. -/
  | transfer (count : Nat) (words : List α)
  /-- Sends words and reads as many into their place. -/
  | inPlace (words : List α)
  /-- Waits. -/
  | delay (nanoseconds : Nat)
  deriving DecidableEq

namespace Operation

variable {α : Type}

/-- How many words the operation has on the wire. -/
def width : Operation α → Nat
  | .write words => words.length
  | .read count => count
  | .transfer count words => max count words.length
  | .inPlace words => words.length
  | .delay _ => 0

/-- The reader's buffer before the operation, when reads start from `blank`. -/
def buffer (blank : α) : Operation α → List α
  | .write _ => []
  | .read count => List.replicate count blank
  | .transfer count _ => List.replicate count blank
  | .inPlace words => words
  | .delay _ => []

/-- Whether memory can hold the words of the operation, two bytes each. -/
def fits (operation : Operation α) : Bool :=
  operation.width * 2 ≤ Bytes.largestBlock

end Operation

/-- How many words a transaction has on the wire. -/
def width {α : Type} (operations : List (Operation α)) : Nat :=
  operations.foldr (fun operation words => operation.width + words) 0

/-- Lays received words over a buffer, which keeps its length. -/
def overlay {α : Type} (buffer received : List α) : List α :=
  received.take buffer.length ++ buffer.drop received.length

/-- What a device says to a transaction: whether it failed, the words received for
each operation in order, and the device afterwards. -/
structure Reply (α σ : Type) where
  fault : Option Fault
  received : List (List α)
  device : σ

/-- Devices that answer transactions of words of type `α`. -/
class Device (σ : Type) (α : outParam Type) where
  transact : σ → List (Operation α) → Option (Reply α σ)

/-- Devices whose word size can be set. -/
class WordSize (σ : Type) where
  setWordSize : σ → Nat → Option Fault × σ

/-- The outcome of one operation on its own: the failure if there was one, the
reader's buffer afterwards, and the device. -/
structure Exchange (α σ : Type) where
  fault : Option Fault
  buffer : List α
  device : σ

/-- Carries out one operation as a transaction of its own over a reader's buffer. -/
def perform {α σ : Type} [Device σ α] (device : σ) (operation : Operation α)
    (buffer : List α) : Option (Exchange α σ) :=
  (Device.transact device [operation]).map fun reply =>
    ⟨reply.fault, overlay buffer (reply.received.headD []), reply.device⟩

theorem length_overlay {α : Type} (buffer received : List α) :
    (overlay buffer received).length = buffer.length := by
  simp only [overlay, List.length_append, List.length_take, List.length_drop]
  omega

/-- Laying nothing over a buffer leaves it alone. -/
theorem overlay_nil {α : Type} (buffer : List α) : overlay buffer [] = buffer := by
  simp [overlay]

/-- Words that fill the buffer replace it. -/
theorem overlay_full {α : Type} (buffer received : List α)
    (full : received.length = buffer.length) : overlay buffer received = received := by
  rw [overlay, full, List.drop_length, List.append_nil, ← full, List.take_length]

/-- The words laid over a buffer that has room for them are its first. -/
theorem take_overlay {α : Type} {buffer received : List α}
    (room : received.length ≤ buffer.length) :
    (overlay buffer received).take received.length = received := by
  rw [overlay, List.take_of_length_le room, List.take_left]

theorem length_perform {α σ : Type} [Device σ α] (device : σ) (operation : Operation α)
    (buffer : List α) (exchange : Exchange α σ)
    (answered : perform device operation buffer = some exchange) :
    exchange.buffer.length = buffer.length := by
  simp only [perform, Option.map_eq_some_iff] at answered
  obtain ⟨reply, _, rfl⟩ := answered
  exact length_overlay _ _

end Acquisition.Spi
