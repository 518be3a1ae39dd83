/-
# Acquisition.Spi.Script — a device that answers from a script

A `Script` answers every word it is asked for with the next word of a list, over
and over, and keeps a record of the transactions it was sent. It can be told to
fail: at given transactions, counted from the first, or from now on. A failed
transaction is counted, but it is not recorded and uses up no answer.
-/

import Acquisition.Spi.Device

namespace Acquisition.Spi

set_option autoImplicit false

/-- A device that answers from a list of words. -/
structure Script (α : Type) where
  /-- The answers, used in order and then again from the start. -/
  replies : List α := []
  /-- The transactions that fail, counted from zero. -/
  failAt : List Nat := []
  /-- The kind of failure. -/
  fault : Fault := .other
  /-- The answer to setting the word size. -/
  setupFault : Option Fault := none
  /-- Whether every transaction fails from now on. -/
  failing : Bool := false
  /-- Transactions seen, the failed ones included. -/
  count : Nat := 0
  /-- Answers used. -/
  used : Nat := 0
  /-- The transactions carried out, newest first. -/
  sent : List (List (Operation α)) := []

namespace Script

variable {α : Type} [Inhabited α]

/-- The answer at a position; a script without answers gives the default word. -/
def replyAt (script : Script α) (position : Nat) : α :=
  (script.replies[position % script.replies.length]?).getD default

/-- A run of answers. -/
def draw (script : Script α) (position count : Nat) : List α :=
  (List.range count).map fun offset => script.replyAt (position + offset)

/-- The words received for each operation when answers start at a position, and the
position after the last operation. -/
def serve (script : Script α) : Nat → List (Operation α) → List (List α) × Nat
  | position, [] => ([], position)
  | position, operation :: rest =>
      let served := script.serve (position + operation.width) rest
      let words := script.draw position (operation.buffer default).length
      (words :: served.1, served.2)

/-- Whether the next transaction fails. -/
def refuses (script : Script α) : Bool :=
  script.failing || script.failAt.contains script.count

/-- The script's answer to a transaction. -/
def answer (script : Script α) (operations : List (Operation α)) : Reply α (Script α) :=
  if script.refuses then
    ⟨some script.fault, [], { script with count := script.count + 1 }⟩
  else
    let served := script.serve script.used operations
    ⟨none, served.1,
      { script with
        count := script.count + 1
        used := served.2
        sent := operations :: script.sent }⟩

instance : Device (Script α) α where
  transact script operations := some (script.answer operations)

instance : WordSize (Script α) where
  setWordSize script _ := (script.setupFault, script)

/-- Hands over the record of transactions, oldest first, and starts a new one. -/
def takeSent (script : Script α) : List (List (Operation α)) × Script α :=
  (script.sent.reverse, { script with sent := [] })

end Script

end Acquisition.Spi
