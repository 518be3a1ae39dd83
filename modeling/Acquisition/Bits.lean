/-
# Acquisition.Bits — a machine word as a set of small numbers

The members of a word are the positions of its set bits. `members` lists them
lowest first, `population` counts them without listing them, and `highest` finds
the last of them from the size of the word alone. `mem_members` and
`members_sorted` tie the list to the bits; `length_members`, `testBit_highest` and
`le_highest` tie the two shortcuts to the list.
-/

import Acquisition.Power

namespace Acquisition.Bits

set_option autoImplicit false

/-- The set positions below `width`, lowest first. -/
def members (width word : Nat) : List Nat :=
  (List.range width).filter word.testBit

/-- How many of the lowest `width` positions are set. -/
def population : Nat → Nat → Nat
  | 0, _ => 0
  | width + 1, word => word % 2 + population width (word / 2)

/-- The highest set position; none is set in zero. -/
def highest (word : Nat) : Option Nat :=
  if word = 0 then none else some word.log2

/-- Sets one position. -/
def insert (word position : Nat) : Nat :=
  word ||| 2 ^ position

theorem mem_members (width word position : Nat) :
    position ∈ members width word ↔ position < width ∧ word.testBit position = true := by
  simp [members, List.mem_filter]

theorem members_sorted (width word : Nat) :
    (members width word).Pairwise (· < ·) :=
  List.Pairwise.filter _ List.pairwise_lt_range

/-- Setting a position adds it and nothing else. -/
theorem testBit_insert (word position other : Nat) :
    (insert word position).testBit other = (word.testBit other || decide (position = other)) := by
  simp [insert, Nat.testBit_or, Nat.testBit_two_pow]

/-- Positions at and above the width of a word are not set in it. -/
theorem testBit_of_lt {width word position : Nat} (small : word < 2 ^ width)
    (outside : width ≤ position) : word.testBit position = false :=
  Nat.testBit_lt_two_pow (Nat.lt_of_lt_of_le small (Nat.pow_le_pow_right (by decide) outside))

theorem lt_of_testBit {width word position : Nat} (small : word < 2 ^ width)
    (member : word.testBit position = true) : position < width := by
  rcases Nat.lt_or_ge position width with inside | outside
  · exact inside
  · rw [testBit_of_lt small outside] at member
    cases member

/-- What one insertion adds, any number of them add: the elements that fit, and no others. -/
theorem foldl_insert {σ α : Type} [DecidableEq α] {insert : σ → α → σ} {contains : σ → α → Bool}
    {fits : α → Prop} [DecidablePred fits]
    (one : ∀ set element other, contains (insert set element) other =
      (contains set other || decide (fits element ∧ element = other)))
    (elements : List α) (set : σ) (other : α) :
    contains (elements.foldl insert set) other =
      (contains set other || decide (fits other ∧ other ∈ elements)) := by
  induction elements generalizing set with
  | nil => simp
  | cons first rest ih =>
      rw [List.foldl_cons, ih, one, Bool.or_assoc]
      congr 1
      rw [← Bool.decide_or, decide_eq_decide, List.mem_cons]
      constructor
      · rintro (⟨small, rfl⟩ | ⟨small, member⟩)
        · exact ⟨small, .inl rfl⟩
        · exact ⟨small, .inr member⟩
      · rintro ⟨small, rfl | member⟩
        · exact .inl ⟨small, rfl⟩
        · exact .inr ⟨small, member⟩

/-- **Counting agrees with listing.** -/
theorem length_members : ∀ width word : Nat, (members width word).length = population width word
  | 0, _ => rfl
  | width + 1, word => by
      have rest := length_members width (word / 2)
      have shifted : (List.range width).filter (fun position => word.testBit (position + 1)) =
          members width (word / 2) := by
        simp only [members]
        congr 1
        funext position
        rw [Nat.testBit_succ]
      have lifted : ((List.range width).map Nat.succ).filter word.testBit =
          ((List.range width).filter fun position => word.testBit (position + 1)).map Nat.succ := by
        rw [List.filter_map]
        rfl
      simp only [members, List.range_succ_eq_map, population]
      rw [List.filter_cons, lifted, shifted]
      by_cases odd : word % 2 = 1
      · have lowest : word.testBit 0 = true := by simp [Nat.testBit_zero, odd]
        simp [lowest, rest, odd, Nat.add_comm]
      · have even : word % 2 = 0 := by omega
        have lowest : word.testBit 0 = false := by simp [Nat.testBit_zero, odd]
        simp [lowest, rest, even]

/-- The highest set position is set. -/
theorem testBit_highest {word top : Nat} (found : highest word = some top) :
    word.testBit top = true := by
  by_cases zero : word = 0
  · simp [highest, zero] at found
  · simp only [highest, zero, if_false, Option.some.injEq] at found
    subst found
    exact Nat.testBit_log2 zero

/-- No set position is above the highest. -/
theorem le_highest {word top position : Nat} (found : highest word = some top)
    (member : word.testBit position = true) : position ≤ top := by
  by_cases zero : word = 0
  · simp [highest, zero] at found
  · simp only [highest, zero, if_false, Option.some.injEq] at found
    subst found
    exact (Nat.le_log2 zero).2 (Nat.ge_two_pow_of_testBit member)

end Acquisition.Bits
