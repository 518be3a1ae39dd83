/-
# Acquisition.Proofs.RingQueue — a ring is a bounded queue

A ring keeps its elements in cells that it goes round, with one cell to spare, and a block of
elements may be written across the end. `BoundedList` says what this is meant to be: a list of at
most `capacity` elements that is added to at the end and taken from at the front. `ring_eq_list`
says that a ring is just that under any commands, whatever its elements and its capacity, and that
what it says of its length is true of the list.

A command breaks down if it touches a cell that is not there. Which cells can be read depends on
which have been written: the elements of a ring lie in cells up to the next free one, which have
all been written, unless they go round the end, and they only do so after every cell has been
written (`Filled`). So no command ever breaks down.
-/
import Acquisition.Proofs.BoundedQueue

namespace Acquisition

set_option autoImplicit false

/-! ## What a ring can be asked -/

/-- Something asked of a ring. -/
inductive RingCommand (α : Type) where
  | enqueue (value : α)
  /-- All elements of a block are queued, or none. -/
  | enqueueAll (values : List α)
  | dequeue
  | clear

/-- What comes back. -/
inductive RingReply (α : Type) where
  | queued (fitted : Bool)
  | taken (value : Option α)
  | done

namespace RingBuffer

variable {α : Type}

/-- The cells that a command writes, in order. -/
def writes (ring : RingBuffer α) : RingCommand α → List Nat
  | .enqueue _ => if ring.isFull then [] else [ring.tail]
  | .enqueueAll values =>
      if ring.available < values.length then []
      else (List.range values.length).map fun count => ((values.take count).foldl put ring).tail
  | _ => []

/-- The cells that a command reads. -/
def reads (ring : RingBuffer α) : RingCommand α → List Nat
  | .dequeue => if ring.isEmpty then [] else [ring.head]
  | _ => []

/-- What a command does to a ring. -/
def answer [Inhabited α] (ring : RingBuffer α) : RingCommand α → RingReply α × RingBuffer α
  | .enqueue value => (ring.enqueue value).map .queued id
  | .enqueueAll values => (ring.enqueueAll values).map .queued id
  | .dequeue =>
      match ring.dequeue with
      | none => (.taken none, ring)
      | some (value, ring) => (.taken (some value), ring)
  | .clear => (.done, ring.clear)

/-- Carries out a command; `none` if it touches a cell that is not there, which is one past the end
of the ring, or one that was never written and is read. -/
def perform [Inhabited α] (command : RingCommand α) (ring : RingBuffer α) :
    Option (RingReply α × RingBuffer α) :=
  if (∀ cell ∈ ring.writes command, cell < ring.size) ∧
      ∀ cell ∈ ring.reads command, cell < ring.size ∧ cell < ring.written.size then
    some (ring.answer command)
  else none

end RingBuffer

/-! ## What it is to answer -/

/-- At most so many elements, oldest first. -/
structure BoundedList (α : Type) where
  capacity : Nat
  items : List α := []

/-- What a command does to a list. -/
def BoundedList.perform {α : Type} (command : RingCommand α) (list : BoundedList α) :
    Option (RingReply α × BoundedList α) :=
  match command with
  | .enqueue value =>
      if list.items.length < list.capacity then
        some (.queued true, { list with items := list.items ++ [value] })
      else some (.queued false, list)
  | .enqueueAll values =>
      if values.length ≤ list.capacity - list.items.length then
        some (.queued true, { list with items := list.items ++ values })
      else some (.queued false, list)
  | .dequeue => some (.taken list.items.head?, { list with items := list.items.tail })
  | .clear => some (.done, { list with items := [] })

/-- A list never breaks down. -/
theorem BoundedList.perform_total {α : Type} (command : RingCommand α) (list : BoundedList α) :
    ∃ done, list.perform command = some done := by
  cases command with
  | enqueue value | enqueueAll values =>
      rw [perform]
      split
      · exact ⟨_, rfl⟩
      · exact ⟨_, rfl⟩
  | dequeue | clear => exact ⟨_, rfl⟩

/-! ## Cells that have been written -/

namespace RingBuffer

variable {α : Type}

/-- The cells from the oldest element on have been written: up to the next free one, or all there
are if the elements go round the end. -/
structure Filled (ring : RingBuffer α) : Prop where
  within : ring.written.size ≤ ring.size
  around : ring.tail < ring.head → ring.written.size = ring.size

namespace Filled

variable {ring : RingBuffer α}

theorem ofCapacity (capacity : Nat) : (ofCapacity capacity : RingBuffer α).Filled :=
  ⟨Nat.zero_le _, fun before => absurd before (Nat.lt_irrefl 0)⟩

theorem put (filled : ring.Filled) (value : α) : (ring.put value).Filled := by
  have tail := ring.tail_lt
  have grown := size_write ring.written value ring.tail_le
  have within := filled.within
  constructor
  · show (write ring.written ring.tail value).size ≤ ring.size
    omega
  · show (ring.tail + 1) % ring.size < ring.head →
      (write ring.written ring.tail value).size = ring.size
    intro before
    rcases Nat.lt_or_ge (ring.tail + 1) ring.size with inside | past
    · rw [Nat.mod_eq_of_lt inside] at before
      have all := filled.around (Nat.lt_of_succ_lt before)
      omega
    · -- the last cell has been written just now, if not before
      omega

theorem foldl_put (filled : ring.Filled) (values : List α) : (values.foldl .put ring).Filled := by
  induction values generalizing ring with
  | nil => exact filled
  | cons value rest ih => exact ih (filled.put value)

theorem advance (filled : ring.Filled) (queued : 0 < ring.length) : ring.advance.Filled := by
  have head := ring.head_lt
  have order := ring.length_cases
  refine ⟨filled.within, ?_⟩
  show ring.tail < (ring.head + 1) % ring.size → ring.written.size = ring.size
  intro before
  rcases Nat.lt_or_ge (ring.head + 1) ring.size with inside | past
  · rw [Nat.mod_eq_of_lt inside] at before
    exact filled.around (by omega)
  · have last : ring.head + 1 = ring.size := by omega
    rw [last, Nat.mod_self] at before
    exact absurd before (Nat.not_lt_zero _)

theorem clear (filled : ring.Filled) : ring.clear.Filled :=
  ⟨filled.within, fun before => absurd before (Nat.lt_irrefl 0)⟩

/-- The oldest element lies in a cell that has been written. -/
theorem head_lt (filled : ring.Filled) (queued : 0 < ring.length) :
    ring.head < ring.written.size := by
  have head := ring.head_lt
  have tail := ring.tail_le
  rcases ring.length_cases with ⟨straight, length⟩ | ⟨round, _⟩
  · omega
  · have all := filled.around round
    omega

end Filled

/-! ## One command -/

theorem size_foldl_put (values : List α) (ring : RingBuffer α) :
    (values.foldl put ring).size = ring.size := by
  induction values generalizing ring with
  | nil => rfl
  | cons value rest ih => exact ih (ring.put value)

/-- A command writes cells of the ring only, also in the middle of a block. -/
theorem writes_lt (ring : RingBuffer α) (command : RingCommand α) :
    ∀ cell ∈ ring.writes command, cell < ring.size := by
  intro cell written
  cases command with
  | enqueue value =>
      rw [writes] at written
      split at written
      · cases written
      · rw [List.mem_singleton.1 written]
        exact ring.tail_lt
  | enqueueAll values =>
      rw [writes] at written
      split at written
      · cases written
      · obtain ⟨count, _, rfl⟩ := List.mem_map.1 written
        rw [← size_foldl_put (values.take count) ring]
        exact RingBuffer.tail_lt _
  | dequeue | clear => cases written

/-- A command reads cells that have been written only. -/
theorem reads_lt {ring : RingBuffer α} (filled : ring.Filled) (command : RingCommand α) :
    ∀ cell ∈ ring.reads command, cell < ring.size ∧ cell < ring.written.size := by
  intro cell read
  cases command with
  | dequeue =>
      rw [reads] at read
      split at read
      · cases read
      · next holds =>
          rw [List.mem_singleton.1 read]
          have queued : 0 < ring.length :=
            Nat.pos_of_ne_zero fun none => holds (ring.isEmpty_iff.2 none)
          exact ⟨ring.head_lt, filled.head_lt queued⟩
  | enqueue | enqueueAll | clear => cases read

theorem enqueue_eq (ring : RingBuffer α) (value : α) :
    ring.enqueue value =
      if ring.length < ring.capacity then (true, ring.put value) else (false, ring) := by
  have most := ring.length_le_capacity
  have whether := ring.isFull_iff
  rw [enqueue]
  split
  · next full => rw [if_neg (Nat.not_lt.2 (Nat.le_of_eq (whether.1 full).symm))]
  · next room => rw [if_pos (Nat.lt_of_le_of_ne most fun same => room (whether.2 same))]

theorem Filled.answer [Inhabited α] {ring : RingBuffer α} (filled : ring.Filled)
    (command : RingCommand α) : (ring.answer command).2.Filled := by
  cases command with
  | enqueue value =>
      rw [RingBuffer.answer, enqueue_eq]
      split
      · exact filled.put value
      · exact filled
  | enqueueAll values =>
      rw [RingBuffer.answer, enqueueAll]
      split
      · exact filled
      · exact filled.foldl_put values
  | dequeue =>
      rw [RingBuffer.answer, dequeue]
      split
      · exact filled
      · next value after taken =>
          split at taken
          · cases taken
          · next holds =>
              cases taken
              exact filled.advance (Nat.pos_of_ne_zero fun none => holds (ring.isEmpty_iff.2 none))
  | clear => exact filled.clear

section Answer

variable [Inhabited α] {ring : RingBuffer α}

/-- **No command touches a cell that is not there.** -/
theorem perform_eq (filled : ring.Filled) (command : RingCommand α) :
    ring.perform command = some (ring.answer command) :=
  if_pos ⟨ring.writes_lt command, reads_lt filled command⟩

/-- The list a ring stands for. -/
def list (ring : RingBuffer α) : BoundedList α :=
  ⟨ring.capacity, ring.toList⟩

/-- **A ring answers as the list it stands for.** -/
theorem answer_list (ring : RingBuffer α) (command : RingCommand α) :
    ring.list.perform command = some ((ring.answer command).map id list) := by
  cases command with
  | enqueue value =>
      have kept : (ring.put value).capacity = ring.capacity := rfl
      simp only [answer, enqueue_eq, BoundedList.perform, list, length_toList]
      split
      · next room => simp only [Prod.map, id_eq, list, toList_put ring value room, kept]
      · rfl
  | enqueueAll values =>
      simp only [answer, enqueueAll, BoundedList.perform, list, length_toList]
      split
      · next room =>
          have fits : ¬ring.available < values.length := Nat.not_lt.2 room
          obtain ⟨items, kept⟩ := toList_foldl_put values ring room
          simp only [if_neg fits, Prod.map, id_eq, list, items, kept]
      · next full =>
          have short : ring.available < values.length := Nat.not_le.1 full
          rw [if_pos short]
          rfl
  | dequeue =>
      have taken := ring.dequeue_eq
      simp only [answer, BoundedList.perform, list]
      cases queued : ring.toList with
      | nil =>
          rw [queued, Option.map_eq_none_iff] at taken
          simp only [taken, Prod.map, id_eq, list, queued, List.head?_nil, List.tail_nil]
      | cons value rest =>
          obtain ⟨after, dequeued, items, kept⟩ := dequeue_cons queued
          simp only [dequeued, Prod.map, id_eq, list, items, kept, List.head?_cons, List.tail_cons]
  | clear =>
      simp only [answer, BoundedList.perform, list, Prod.map, id_eq, toList_clear]
      rfl

end Answer

end RingBuffer

/-! ## Any number of commands -/

section CarryOut

variable {State Command Reply : Type}

/-- Commands of which none breaks down do not break down one after the other. -/
theorem carryOut_total {perform : Command → State → Option (Reply × State)}
    (total : ∀ command state, ∃ done, perform command state = some done)
    (commands : List Command) (state : State) :
    ∃ done, carryOut perform commands state = some done := by
  induction commands generalizing state with
  | nil => exact ⟨_, rfl⟩
  | cons command rest ih =>
      obtain ⟨done, performed⟩ := total command state
      obtain ⟨later, last⟩ := ih done.2
      exact ⟨(done.1 :: later.1, later.2), by simp only [carryOut, performed, Option.bind_some, last,
        Option.map_some]⟩

end CarryOut

/-- **What one command does to the list, any number of commands do.** -/
theorem RingBuffer.Filled.carryOut_list {α : Type} [Inhabited α] {ring : RingBuffer α}
    (filled : ring.Filled) (commands : List (RingCommand α)) :
    (carryOut RingBuffer.perform commands ring).map (Prod.map id RingBuffer.list) =
      carryOut BoundedList.perform commands ring.list := by
  refine carryOut_view RingBuffer.list RingBuffer.Filled ?_ ?_ commands ring filled
  · intro command ring filled
    rw [RingBuffer.perform_eq filled, ring.answer_list, Option.map_some]
  · intro command ring done filled performed
    rw [RingBuffer.perform_eq filled] at performed
    exact Option.some.inj performed ▸ filled.answer command

/-- What a ring says of the list it holds, and where its ends are. -/
structure RingBuffer.Holds {α : Type} [Inhabited α] (ring : RingBuffer α) (list : BoundedList α) :
    Prop where
  items : ring.toList = list.items
  capacity : ring.capacity = list.capacity
  bounded : list.items.length ≤ list.capacity
  length : ring.length = list.items.length
  available : ring.available = list.capacity - list.items.length
  empty : ring.isEmpty = true ↔ list.items.length = 0
  full : ring.isFull = true ↔ list.items.length = list.capacity
  head : ring.head < list.capacity + 1
  tail : ring.tail < list.capacity + 1

theorem RingBuffer.holds_list {α : Type} [Inhabited α] (ring : RingBuffer α) :
    ring.Holds ring.list := by
  have cells : ring.capacity + 1 = ring.size := Nat.sub_add_cancel ring.size_pos
  have length : ring.length = ring.list.items.length := ring.length_toList.symm
  exact
    { items := rfl
      capacity := rfl
      bounded := length ▸ ring.length_le_capacity
      length := length
      available := congrArg (ring.capacity - ·) length
      empty := length ▸ ring.isEmpty_iff
      full := length ▸ ring.isFull_iff
      head := cells ▸ ring.head_lt
      tail := cells ▸ ring.tail_lt }

/-- **A ring is a bounded queue.** Let a ring have any elements and any capacity that memory can
hold. Under any commands it does what a list of at most so many elements does, and gives the same
answers; it breaks down at no cell; and what it says of its length is true of the list. -/
theorem ring_eq_list {α : Type} [Inhabited α] (width capacity : Nat) :
    match (RingBuffer.ofCapacity? width capacity : Option (RingBuffer α)) with
    | none => Bytes.largestBlock < width * (capacity + 1)
    | some ring => ∀ commands : List (RingCommand α), ∃ replies after list,
        carryOut RingBuffer.perform commands ring = some (replies, after) ∧
        carryOut BoundedList.perform commands { capacity } = some (replies, list) ∧
        after.Holds list := by
  cases made : (RingBuffer.ofCapacity? width capacity : Option (RingBuffer α)) with
  | none => exact (RingBuffer.ofCapacity?_eq_none_iff width capacity).1 made
  | some ring =>
      intro commands
      have new : ring = .ofCapacity capacity := by
        rw [RingBuffer.ofCapacity?] at made
        split at made
        · exact (Option.some.inj made).symm
        · cases made
      subst new
      have same := (RingBuffer.Filled.ofCapacity capacity : RingBuffer.Filled _).carryOut_list
        commands
      have empty : (.ofCapacity capacity : RingBuffer α).list = { capacity } :=
        congrArg (BoundedList.mk capacity) (RingBuffer.toList_ofCapacity capacity)
      obtain ⟨⟨replies, list⟩, meant⟩ :=
        carryOut_total BoundedList.perform_total commands { capacity }
      rw [empty, meant] at same
      obtain ⟨⟨answers, after⟩, ran, seen⟩ := Option.map_eq_some_iff.1 same
      cases seen
      exact ⟨answers, after, after.list, ran, meant, after.holds_list⟩

/-- The second block goes round the end of the ring, and a third does not fit. -/
example : (carryOut RingBuffer.perform
    [.enqueueAll [1, 2, 3], .dequeue, .dequeue, .enqueueAll [4, 5], .enqueueAll [6], .enqueue 7,
      .dequeue, .dequeue, .dequeue, .dequeue] (.ofCapacity 3 : RingBuffer Nat)).map Prod.fst =
    some [.queued true, .taken (some 1), .taken (some 2), .queued true, .queued false,
      .queued false, .taken (some 3), .taken (some 4), .taken (some 5), .taken none] := rfl

end Acquisition
