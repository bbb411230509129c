/-
**Blocks of memory.**

A block is the list of what its cells hold. `realloc` gives one or not, `memcpy` and `load` stay inside or not; a
program over them stops at the first `Fault`. `Yields property` says that nothing but memory can run short, and that the
result has the property; `Yields.bind` takes a program apart.

* `realloc_yields`: a larger block keeps what the old one held.
* `memcpy_yields`: a copy puts its cells behind those that precede them.
-/

import Mathlib.Data.List.Basic

namespace MaOdbc

open List

inductive Fault
  | noMemory
  | overrun
  | divisionByZero
  deriving DecidableEq, Repr

section

variable {α β : Type}

/-- `realloc`, or `malloc` for no old block: `fresh` is what the new cells hold, if there is memory. -/
def realloc (fresh : Option (Nat → α)) (old : List α) (size : Nat) : Except Fault (List α) :=
  match fresh with
  | some fresh => .ok (old.take size ++ (range (size - old.length)).map fresh)
  | none => .error .noMemory

/-- `memcpy` or `memset` into a block. -/
def memcpy (block : List α) (start : Nat) (cells : List α) : Except Fault (List α) :=
  if start + cells.length ≤ block.length then
    .ok (block.take start ++ cells ++ block.drop (start + cells.length))
  else .error .overrun

def load (block : List α) (start count : Nat) : Except Fault (List α) :=
  if start + count ≤ block.length then .ok ((block.drop start).take count) else .error .overrun

/-- Only memory can run short, and a result has the property. -/
def Yields (property : α → Prop) : Except Fault α → Prop
  | .error fault => fault = .noMemory
  | .ok result => property result

variable {first second : α → Prop} {third : β → Prop} {result : Except Fault α}

theorem Yields.mono (yields : Yields first result) (follows : ∀ value, first value → second value) :
    Yields second result := by
  cases result with
  | error => exact yields
  | ok value => exact follows value yields

theorem Yields.bind {next : α → Except Fault β} (yields : Yields first result)
    (follows : ∀ value, first value → Yields third (next value)) : Yields third (result >>= next) := by
  cases result with
  | error => exact yields
  | ok value => exact follows value yields

theorem realloc_yields (fresh : Option (Nat → α)) {old : List α} {size : Nat} (larger : old.length ≤ size) :
    Yields (fun block => old <+: block ∧ block.length = size) (realloc fresh old size) := by
  cases fresh with
  | none => rfl
  | some fresh =>
    rw [realloc, take_of_length_le larger]
    exact ⟨prefix_append .., by simp; omega⟩

theorem memcpy_yields {block before cells : List α} {start : Nat} (starts : before <+: block)
    (place : start = before.length) (fits : start + cells.length ≤ block.length) :
    Yields (fun copied => before ++ cells <+: copied ∧ copied.length = block.length) (memcpy block start cells) := by
  rw [memcpy, if_pos fits, place, ← prefix_iff_eq_take.mp starts]
  exact ⟨prefix_append .., by simp; omega⟩

end

theorem lt_roundUp {length increment modulus : Nat} (small : length < modulus) (grows : 0 < increment)
    (asked : (length + increment) % modulus / increment * increment ≠ 0) :
    length < (length + increment) % modulus / increment * increment := by
  by_cases wraps : length + increment < modulus
  · rw [Nat.mod_eq_of_lt wraps, Nat.add_div_right _ grows, Nat.mul_comm]
    exact Nat.lt_mul_div_succ _ grows
  · have less := Nat.mod_le (length + increment - modulus) modulus
    rw [Nat.mod_eq_sub_mod (Nat.le_of_not_lt wraps), Nat.div_eq_of_lt (show _ < increment by omega)] at asked
    omega

end MaOdbc
