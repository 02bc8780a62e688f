import Mathlib.Algebra.Group.Nat.Defs
import Mathlib.Data.Option.Basic
import Mathlib.Tactic.SplitIfs

/-!
# Exact arithmetic on machine words

Unsigned words wrap when a result does not fit.  The operations here compute
the result in the natural numbers and refuse it when it does not fit, when a
subtraction goes below zero or when a divisor is zero.  A computation made of
them therefore succeeds exactly when nothing in it goes wrong; where nothing
does, each of them agrees with the operation that wraps.
-/

namespace Word

/-- An unsigned machine word of a fixed width. -/
class Unsigned (α : Type) where
  width : Nat
  toNat : α → Nat
  ofNat : Nat → α
  toNat_lt : ∀ word, toNat word < 2 ^ width
  ofNat_toNat : ∀ word, ofNat (toNat word) = word
  toNat_ofNat : ∀ {number}, number < 2 ^ width → toNat (ofNat number) = number

instance : Unsigned UInt16 where
  width := 16
  toNat := UInt16.toNat
  ofNat := UInt16.ofNat
  toNat_lt := UInt16.toNat_lt
  ofNat_toNat _ := UInt16.ofNat_toNat
  toNat_ofNat small := UInt16.toNat_ofNat_of_lt' small

instance : Unsigned UInt32 where
  width := 32
  toNat := UInt32.toNat
  ofNat := UInt32.ofNat
  toNat_lt := UInt32.toNat_lt
  ofNat_toNat _ := UInt32.ofNat_toNat
  toNat_ofNat small := UInt32.toNat_ofNat_of_lt' small

instance : Unsigned UInt64 where
  width := 64
  toNat := UInt64.toNat
  ofNat := UInt64.ofNat
  toNat_lt := UInt64.toNat_lt
  ofNat_toNat _ := UInt64.ofNat_toNat
  toNat_ofNat small := UInt64.toNat_ofNat_of_lt' small

open Unsigned

section Operations

variable {α β : Type} [Unsigned α] [Unsigned β]

/-- The word that stands for a number, if there is one. -/
def exactly (number : Nat) : Option α :=
  if number < 2 ^ width α then some (ofNat number) else none

/-- Sum, if it fits. -/
def add (left right : α) : Option α :=
  exactly (toNat left + toNat right)

/-- Difference, if it is not negative. -/
def sub (left right : α) : Option α :=
  if toNat right ≤ toNat left then exactly (toNat left - toNat right) else none

/-- Product, if it fits. -/
def mul (left right : α) : Option α :=
  exactly (toNat left * toNat right)

/-- Quotient, unless the divisor is zero. -/
def div (left right : α) : Option α :=
  if toNat right = 0 then none else exactly (toNat left / toNat right)

/-- Remainder, unless the divisor is zero. -/
def rem (left right : α) : Option α :=
  if toNat right = 0 then none else exactly (toNat left % toNat right)

/-- Shift to the left without losing a bit. -/
def shiftLeft (word : α) (count : Nat) : Option α :=
  exactly (toNat word * 2 ^ count)

/-- Convert to another width without losing a bit. -/
def convert (word : α) : Option β :=
  exactly (toNat word)

theorem exactly_eq_some_iff {number : Nat} {word : α} :
    exactly number = some word ↔ toNat word = number := by
  unfold exactly
  constructor
  · intro found
    split_ifs at found with small
    cases found
    exact toNat_ofNat small
  · rintro rfl
    rw [if_pos (toNat_lt word), ofNat_toNat]

theorem add_eq_some_iff {left right word : α} :
    add left right = some word ↔ toNat word = toNat left + toNat right :=
  exactly_eq_some_iff

theorem sub_eq_some_iff {left right word : α} :
    sub left right = some word ↔
      toNat right ≤ toNat left ∧ toNat word = toNat left - toNat right := by
  unfold sub
  split_ifs with above
  · rw [exactly_eq_some_iff, and_iff_right above]
  · simp [above]

theorem mul_eq_some_iff {left right word : α} :
    mul left right = some word ↔ toNat word = toNat left * toNat right :=
  exactly_eq_some_iff

theorem div_eq_some_iff {left right word : α} :
    div left right = some word ↔
      toNat right ≠ 0 ∧ toNat word = toNat left / toNat right := by
  unfold div
  split_ifs with zero
  · simp [zero]
  · rw [exactly_eq_some_iff, and_iff_right zero]

theorem rem_eq_some_iff {left right word : α} :
    rem left right = some word ↔
      toNat right ≠ 0 ∧ toNat word = toNat left % toNat right := by
  unfold rem
  split_ifs with zero
  · simp [zero]
  · rw [exactly_eq_some_iff, and_iff_right zero]

theorem shiftLeft_eq_some_iff {word shifted : α} {count : Nat} :
    shiftLeft word count = some shifted ↔ toNat shifted = toNat word * 2 ^ count :=
  exactly_eq_some_iff

theorem convert_eq_some_iff {word : α} {converted : β} :
    convert word = some converted ↔ toNat converted = toNat word :=
  exactly_eq_some_iff

end Operations

/-! ## Agreement with the operations that wrap -/

section Wrapping

variable {left right : UInt64}

theorem add_eq_some (fits : left.toNat + right.toNat < 2 ^ 64) :
    add left right = some (left + right) := by
  apply add_eq_some_iff.mpr
  exact (UInt64.toNat_add left right).trans (Nat.mod_eq_of_lt fits)

theorem sub_eq_some (above : right ≤ left) : sub left right = some (left - right) := by
  apply sub_eq_some_iff.mpr
  exact ⟨UInt64.le_iff_toNat_le.mp above, UInt64.toNat_sub_of_le left right above⟩

theorem mul_eq_some (fits : left.toNat * right.toNat < 2 ^ 64) :
    mul left right = some (left * right) := by
  apply mul_eq_some_iff.mpr
  exact (UInt64.toNat_mul left right).trans (Nat.mod_eq_of_lt fits)

theorem div_eq_some (nonzero : right.toNat ≠ 0) : div left right = some (left / right) :=
  div_eq_some_iff.mpr ⟨nonzero, UInt64.toNat_div left right⟩

theorem rem_eq_some (nonzero : right.toNat ≠ 0) : rem left right = some (left % right) :=
  rem_eq_some_iff.mpr ⟨nonzero, UInt64.toNat_mod left right⟩

theorem shiftLeft_eq_some {word count : UInt64} (small : count.toNat < 64)
    (fits : word.toNat * 2 ^ count.toNat < 2 ^ 64) :
    shiftLeft word count.toNat = some (word <<< count) := by
  apply shiftLeft_eq_some_iff.mpr
  change (word <<< count).toNat = word.toNat * 2 ^ count.toNat
  rw [UInt64.toNat_shiftLeft, Nat.mod_eq_of_lt small, Nat.shiftLeft_eq, Nat.mod_eq_of_lt fits]

theorem sub_eq_some_uint32 {left right : UInt32} (above : right ≤ left) :
    sub left right = some (left - right) := by
  apply sub_eq_some_iff.mpr
  exact ⟨UInt32.le_iff_toNat_le.mp above, UInt32.toNat_sub_of_le left right above⟩

theorem convert_eq_some {word : UInt64} (fits : word.toNat < 2 ^ 16) :
    convert word = some word.toUInt16 := by
  apply convert_eq_some_iff.mpr
  exact (UInt64.toNat_toUInt16 word).trans (Nat.mod_eq_of_lt fits)

theorem convert_eq_some_uint32 {word : UInt32} (fits : word.toNat < 2 ^ 16) :
    convert word = some word.toUInt16 := by
  apply convert_eq_some_iff.mpr
  exact (UInt32.toNat_toUInt16 word).trans (Nat.mod_eq_of_lt fits)

end Wrapping

end Word
