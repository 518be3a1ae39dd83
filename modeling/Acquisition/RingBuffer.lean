/-
# Acquisition.RingBuffer — a bounded queue in a ring of cells

A `RingBuffer` keeps its elements in a ring of `size` cells between `head`, the oldest,
and `tail`, the next free cell. The two being equal means that it is empty, so a ring of
`capacity + 1` cells holds `capacity` elements. Cells come into being when they are first
written; until then they hold the default. The first are written in order, and both
positions carry a proof that they are cells of the ring, so no access can miss.

`toList` is the queue itself, oldest first. `length_toList` ties it to the length
computed from the two positions, `toList_put`, `enqueueAll_eq` and `dequeue_eq` say what
queueing and taking do to it. `ofCapacity?` refuses a ring that memory cannot hold.
-/

import Acquisition.Bytes

namespace Acquisition

set_option autoImplicit false

/-- A ring of cells; the elements lie between `head` and `tail`. -/
structure RingBuffer (α : Type) where
  /-- How many cells there are. -/
  size : Nat
  /-- The cells written so far, from the first. -/
  written : Array α
  head : Nat
  tail : Nat
  head_lt : head < size
  tail_lt : tail < size
  tail_le : tail ≤ written.size

namespace RingBuffer

variable {α : Type}

/-- An empty ring for so many elements. -/
def ofCapacity (capacity : Nat) : RingBuffer α where
  size := capacity + 1
  written := #[]
  head := 0
  tail := 0
  head_lt := by simp
  tail_lt := by simp
  tail_le := by simp

/-- An empty ring for so many elements of so many bytes each, unless its cells are more
than a block of memory can have. -/
def ofCapacity? (width capacity : Nat) : Option (RingBuffer α) :=
  if width * (capacity + 1) ≤ Bytes.largestBlock then some (ofCapacity capacity) else none

/-- A ring is refused exactly when its cells are more than a block of memory can have. -/
theorem ofCapacity?_eq_none_iff (width capacity : Nat) :
    (ofCapacity? width capacity : Option (RingBuffer α)) = none ↔
      Bytes.largestBlock < width * (capacity + 1) := by
  simp [ofCapacity?]

theorem size_pos (ring : RingBuffer α) : 0 < ring.size :=
  Nat.zero_lt_of_lt ring.head_lt

/-- How many elements fit. -/
def capacity (ring : RingBuffer α) : Nat :=
  ring.size - 1

/-- How many elements are queued. -/
def length (ring : RingBuffer α) : Nat :=
  if ring.head ≤ ring.tail then ring.tail - ring.head
  else ring.size - ring.head + ring.tail

/-- Whether nothing is queued. -/
def isEmpty (ring : RingBuffer α) : Bool :=
  ring.head == ring.tail

/-- Whether nothing more fits. -/
def isFull (ring : RingBuffer α) : Bool :=
  ring.head == (ring.tail + 1) % ring.size

/-- How many more elements fit. -/
def available (ring : RingBuffer α) : Nat :=
  ring.capacity - ring.length

/-- Writes a cell: one that was written before, or the first that was not. -/
def write (written : Array α) (position : Nat) (value : α) : Array α :=
  if inside : position < written.size then written.set position value inside
  else written.push value

theorem size_write (written : Array α) {position : Nat} (value : α)
    (reached : position ≤ written.size) :
    (write written position value).size = max written.size (position + 1) := by
  rw [write]
  split
  · rw [Array.size_set]
    omega
  · rw [Array.size_push]
    omega

theorem lt_size_write (written : Array α) {position : Nat} (value : α)
    (reached : position ≤ written.size) : position < (write written position value).size := by
  rw [size_write written value reached]
  exact Nat.le_max_right _ _

theorem getD_write (written : Array α) {position : Nat} (value other : α)
    (reached : position ≤ written.size) (place : Nat) :
    (write written position value).getD place other =
      if place = position then value else written.getD place other := by
  simp only [write, Array.getD_eq_getD_getElem?]
  split
  case isTrue inside =>
    rw [Array.getElem?_set]
    by_cases same : position = place
    · simp [same]
    · simp [same, Ne.symm same]
  case isFalse past =>
    have last : position = written.size := by omega
    rw [Array.getElem?_push, last]
    split <;> rfl

/-- Writes the next free cell and moves on, whether or not the ring is full. The positions
are worked out first, so that a ring nobody else holds is written in place. -/
def put (ring : RingBuffer α) (value : α) : RingBuffer α :=
  let head := ring.head
  let size := ring.size
  let next := (ring.tail + 1) % size
  { size
    written := write ring.written ring.tail value
    head
    tail := next
    head_lt := ring.head_lt
    tail_lt := Nat.mod_lt _ ring.size_pos
    tail_le := Nat.le_trans (Nat.mod_le _ _) (lt_size_write ring.written value ring.tail_le) }

/-- Queues one element if it fits, and says whether it did. -/
def enqueue (ring : RingBuffer α) (value : α) : Bool × RingBuffer α :=
  if ring.isFull then (false, ring) else (true, ring.put value)

/-- Queues all elements if they fit together, and says whether they did. -/
def enqueueAll (ring : RingBuffer α) (values : List α) : Bool × RingBuffer α :=
  if ring.available < values.length then (false, ring) else (true, values.foldl put ring)

/-- The element so many places behind the oldest. -/
def cell [Inhabited α] (ring : RingBuffer α) (offset : Nat) : α :=
  ring.written.getD ((ring.head + offset) % ring.size) default

/-- The ring without its oldest element. -/
def advance (ring : RingBuffer α) : RingBuffer α :=
  { ring with
    head := (ring.head + 1) % ring.size
    head_lt := Nat.mod_lt _ ring.size_pos }

/-- Takes the oldest element. -/
def dequeue [Inhabited α] (ring : RingBuffer α) : Option (α × RingBuffer α) :=
  if ring.isEmpty then none else some (ring.cell 0, ring.advance)

/-- Takes up to so many of the oldest elements, oldest first. -/
def dequeueMany [Inhabited α] : Nat → RingBuffer α → List α × RingBuffer α
  | 0, ring => ([], ring)
  | count + 1, ring =>
      match ring.dequeue with
      | none => ([], ring)
      | some (value, ring) =>
          let rest := dequeueMany count ring
          (value :: rest.1, rest.2)

/-- Forgets everything queued. -/
def clear (ring : RingBuffer α) : RingBuffer α :=
  { ring with
    head := 0
    tail := 0
    head_lt := ring.size_pos
    tail_lt := ring.size_pos
    tail_le := Nat.zero_le _ }

/-- The queued elements, oldest first. -/
def toList [Inhabited α] (ring : RingBuffer α) : List α :=
  (List.range ring.length).map ring.cell

theorem length_lt_size (ring : RingBuffer α) : ring.length < ring.size := by
  have head := ring.head_lt
  have tail := ring.tail_lt
  simp only [length]
  split <;> omega

theorem length_le_capacity (ring : RingBuffer α) : ring.length ≤ ring.capacity :=
  Nat.le_pred_of_lt ring.length_lt_size

theorem length_toList [Inhabited α] (ring : RingBuffer α) : ring.toList.length = ring.length := by
  simp [toList]

/-- Nothing is queued exactly when the length is zero. -/
theorem isEmpty_iff (ring : RingBuffer α) : ring.isEmpty = true ↔ ring.length = 0 := by
  have head := ring.head_lt
  have tail := ring.tail_lt
  simp only [isEmpty, length, beq_iff_eq]
  split <;> omega

/-- Nothing more fits exactly when the length is the capacity. -/
theorem isFull_iff (ring : RingBuffer α) : ring.isFull = true ↔ ring.length = ring.capacity := by
  have head := ring.head_lt
  have tail := ring.tail_lt
  simp only [isFull, length, capacity, beq_iff_eq]
  rcases Nat.lt_or_ge (ring.tail + 1) ring.size with inside | wrapped
  · rw [Nat.mod_eq_of_lt inside]
    split <;> omega
  · have last : ring.tail + 1 = ring.size := by omega
    rw [last, Nat.mod_self]
    split <;> omega

/-- A position of a ring passes its end at most once. -/
theorem wrap {size position offset : Nat} (inside : position < size) (short : offset < size) :
    position + offset < size ∧ (position + offset) % size = position + offset ∨
      size ≤ position + offset ∧ (position + offset) % size = position + offset - size := by
  rcases Nat.lt_or_ge (position + offset) size with below | past
  · exact .inl ⟨below, Nat.mod_eq_of_lt below⟩
  · exact .inr ⟨past, by rw [Nat.mod_eq_sub_mod past, Nat.mod_eq_of_lt (by omega)]⟩

/-- The length by the order of the two positions. -/
theorem length_cases (ring : RingBuffer α) :
    ring.head ≤ ring.tail ∧ ring.length = ring.tail - ring.head ∨
      ring.tail < ring.head ∧ ring.length = ring.size - ring.head + ring.tail := by
  simp only [length]
  split <;> omega

/-- The next free cell lies just behind the queued elements. -/
theorem tail_eq (ring : RingBuffer α) :
    ring.tail = (ring.head + ring.length) % ring.size := by
  have head := ring.head_lt
  have tail := ring.tail_lt
  have short : ring.length < ring.size := ring.length_lt_size
  have order := ring.length_cases
  rcases wrap head short with place | place <;> omega

/-- Nothing but the length leads from the oldest element to the next free cell. -/
theorem length_eq_of_tail (ring : RingBuffer α) {count : Nat} (short : count < ring.size)
    (tail : ring.tail = (ring.head + count) % ring.size) : ring.length = count := by
  have head := ring.head_lt
  have last := ring.tail_lt
  have order := ring.length_cases
  rcases wrap head short with place | place <;> omega

theorem length_put (ring : RingBuffer α) (value : α) (fits : ring.length < ring.capacity) :
    (ring.put value).length = ring.length + 1 := by
  have positive := ring.size_pos
  simp only [capacity] at fits
  apply length_eq_of_tail
  · show ring.length + 1 < ring.size
    omega
  · show (ring.tail + 1) % ring.size = (ring.head + (ring.length + 1)) % ring.size
    rw [ring.tail_eq, Nat.mod_add_mod, Nat.add_assoc]

theorem cell_put [Inhabited α] (ring : RingBuffer α) (value : α) {offset : Nat} (queued : offset < ring.length) :
    (ring.put value).cell offset = ring.cell offset := by
  have head := ring.head_lt
  have short : ring.length < ring.size := ring.length_lt_size
  have apart : ring.tail ≠ (ring.head + offset) % ring.size := by
    rw [ring.tail_eq]
    rcases wrap head short with place | place <;>
      rcases wrap head (Nat.lt_trans queued short) with other | other <;> omega
  simp only [cell, put, getD_write _ _ _ ring.tail_le, if_neg apart.symm]

theorem cell_put_length [Inhabited α] (ring : RingBuffer α) (value : α) :
    (ring.put value).cell ring.length = value := by
  simp only [cell, put, ← ring.tail_eq, getD_write _ _ _ ring.tail_le, if_true]

/-- **Writing the next free cell queues an element, if it fits.** -/
theorem toList_put [Inhabited α] (ring : RingBuffer α) (value : α) (fits : ring.length < ring.capacity) :
    (ring.put value).toList = ring.toList ++ [value] := by
  simp only [toList, length_put ring value fits, List.range_succ, List.map_append, List.map_cons,
    List.map_nil, cell_put_length]
  congr 1
  apply List.map_congr_left
  intro offset queued
  exact cell_put ring value (List.mem_range.1 queued)

/-- A block that fits is queued whole. -/
theorem toList_foldl_put [Inhabited α] : ∀ (values : List α) (ring : RingBuffer α),
    values.length ≤ ring.available →
      (values.foldl put ring).toList = ring.toList ++ values ∧
        (values.foldl put ring).capacity = ring.capacity
  | [], ring, _ => by simp
  | value :: rest, ring, fits => by
      simp only [List.length_cons, available] at fits
      have room : ring.length < ring.capacity := by omega
      have same : (ring.put value).capacity = ring.capacity := rfl
      have longer := length_put ring value room
      have later := toList_foldl_put rest (ring.put value) (by simp only [available]; omega)
      rw [List.foldl_cons, later.1, later.2, toList_put ring value room, same]
      simp

theorem toList_ofCapacity [Inhabited α] (count : Nat) :
    (ofCapacity count : RingBuffer α).toList = [] := by
  simp [toList, ofCapacity, length]

theorem toList_clear [Inhabited α] (ring : RingBuffer α) : ring.clear.toList = [] := by
  simp [toList, clear, length]

/-- **Queueing a block adds all of it or nothing.** -/
theorem enqueueAll_eq [Inhabited α] (ring : RingBuffer α) (values : List α) :
    (ring.enqueueAll values).1 = decide (ring.length + values.length ≤ ring.capacity) ∧
      (ring.enqueueAll values).2.toList =
        if ring.length + values.length ≤ ring.capacity then ring.toList ++ values
        else ring.toList := by
  have bounded := ring.length_le_capacity
  by_cases fits : ring.length + values.length ≤ ring.capacity
  · have room : values.length ≤ ring.available := by simp only [available]; omega
    simp [enqueueAll, fits, Nat.not_lt.2 room, (toList_foldl_put values ring room).1]
  · have full : ring.available < values.length := by simp only [available]; omega
    simp [enqueueAll, fits, full]

theorem length_advance (ring : RingBuffer α) (queued : 0 < ring.length) :
    ring.advance.length + 1 = ring.length := by
  have head := ring.head_lt
  have short : ring.length < ring.size := ring.length_lt_size
  have order := ring.length_cases
  have less : ring.advance.length = ring.length - 1 := by
    apply length_eq_of_tail
    · show ring.length - 1 < ring.size
      omega
    · show ring.tail = ((ring.head + 1) % ring.size + (ring.length - 1)) % ring.size
      rw [Nat.mod_add_mod, ring.tail_eq]
      congr 1
      omega
  omega

theorem cell_advance [Inhabited α] (ring : RingBuffer α) (offset : Nat) :
    ring.advance.cell offset = ring.cell (offset + 1) := by
  have place : ((ring.head + 1) % ring.size + offset) % ring.size =
      (ring.head + (offset + 1)) % ring.size := by
    rw [Nat.mod_add_mod, Nat.add_assoc, Nat.add_comm 1 offset]
  simp only [cell, advance, place]

/-- The oldest element stands in front of the rest. -/
theorem toList_eq_cons [Inhabited α] (ring : RingBuffer α) (queued : 0 < ring.length) :
    ring.toList = ring.cell 0 :: ring.advance.toList := by
  simp only [toList, ← length_advance ring queued, List.range_succ_eq_map, List.map_cons,
    List.map_map]
  congr 1
  apply List.map_congr_left
  intro offset _
  exact (cell_advance ring offset).symm

/-- **Taking an element takes the oldest.** -/
theorem dequeue_eq [Inhabited α] (ring : RingBuffer α) :
    (ring.dequeue.map fun taken => (taken.1, taken.2.toList)) =
      match ring.toList with
      | [] => none
      | value :: rest => some (value, rest) := by
  have whether := ring.isEmpty_iff
  rcases Nat.eq_zero_or_pos ring.length with none | some
  · simp [dequeue, whether.2 none, toList, none]
  · have holds : ring.isEmpty = false := by
      rw [Bool.eq_false_iff]
      intro empty
      have := whether.1 empty
      omega
    have split := toList_eq_cons ring some
    simp only [split, dequeue, holds]
    rfl

end RingBuffer

end Acquisition
