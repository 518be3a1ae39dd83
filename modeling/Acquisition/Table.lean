/-
# Acquisition.Table — things that are numbered as they come

A `Table` hands each thing put into it the next number and never forgets one, so a
number keeps naming the same thing. Things can be changed in place. `get?_push` and
`get?_modify` say what each operation does to each number.
-/

namespace Acquisition

set_option autoImplicit false

/-- Things under numbers from zero. -/
structure Table (α : Type) where
  items : List α := []

namespace Table

variable {α : Type}

/-- How many things there are. -/
def size (table : Table α) : Nat :=
  table.items.length

/-- The thing under a number. -/
def get? (table : Table α) (number : Nat) : Option α :=
  table.items[number]?

/-- Puts a thing under the next number. -/
def push (table : Table α) (item : α) : Table α :=
  ⟨table.items ++ [item]⟩

/-- Changes the thing under a number. -/
def modify (table : Table α) (number : Nat) (change : α → α) : Table α :=
  ⟨table.items.modify number change⟩

/-- Replaces the thing under a number. -/
def set (table : Table α) (number : Nat) (item : α) : Table α :=
  table.modify number fun _ => item

theorem get?_push (table : Table α) (item : α) (number : Nat) :
    (table.push item).get? number =
      if number = table.size then some item else table.get? number := by
  simp only [push, get?, size, List.getElem?_append]
  rcases Nat.lt_trichotomy number table.items.length with inside | last | outside
  · simp [inside, Nat.ne_of_lt inside]
  · simp [last]
  · have beyond : number - table.items.length ≠ 0 := by omega
    simp [Nat.ne_of_gt outside, Nat.not_lt_of_gt outside, beyond]

theorem get?_modify (table : Table α) (changed number : Nat) (change : α → α) :
    (table.modify changed change).get? number =
      if changed = number then (table.get? number).map change else table.get? number := by
  simp only [modify, get?, List.getElem?_modify]
  split <;> simp

/-- Changes that come to the same for the thing that is there come to the same. -/
theorem modify_congr {table : Table α} {number : Nat} {item : α}
    (there : table.get? number = some item) {change other : α → α}
    (same : change item = other item) : table.modify number change = table.modify number other := by
  rw [modify, modify, mk.injEq]
  apply List.ext_getElem?
  intro place
  rw [List.getElem?_modify, List.getElem?_modify]
  split
  · next here =>
      have found : table.items[place]? = some item := here ▸ there
      rw [found, Option.map_eq_map, Option.map_eq_map, Option.map_some, Option.map_some, same]
  · rfl

/-- Putting a thing where it is changes nothing. -/
theorem set_get? {table : Table α} {number : Nat} {item : α}
    (there : table.get? number = some item) : table.set number item = table := by
  have same : table.modify number (fun _ => item) = table.modify number id :=
    modify_congr there rfl
  rw [set, same, modify, List.modify_id]

/-- Of two things put in one place the second stays. -/
theorem set_set (table : Table α) (number : Nat) (first second : α) :
    (table.set number first).set number second = table.set number second := by
  simp only [set, modify, List.modify_modify_eq]
  rfl

theorem size_modify (table : Table α) (number : Nat) (change : α → α) :
    (table.modify number change).size = table.size := by
  simp [modify, size]

theorem size_push (table : Table α) (item : α) : (table.push item).size = table.size + 1 := by
  simp [push, size]

end Table

end Acquisition
