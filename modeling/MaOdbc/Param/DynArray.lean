/-
**Dynamic arrays.**

`MADB_DynArray` keeps its elements in a block that `MADB_InsertDynamic` and `MADB_SetDynamic` enlarge, each by a rule
of its own. A cell of the block is an element, as every offset is a multiple of `size_of_element`. Sizes of `2 ^ 32`
bytes or more, which the source would cut, count as memory that is not there.

`MADB_GetDynamic` changes nothing: `Represents` asks for every index what it gets.

* `apply`: what a call does to the list that the array stands for.
* `Sound`: the elements start the block, and the block can grow. `step_yields`: every call keeps it.
* **`run_refines_iff`**: the array behaves as a list exactly if `MADB_InitDynamicArray` neither divides by zero nor
  leaves an increment of zero, which it does for `init_alloc * 2 == 0` modulo `2 ^ 32`.
-/

import Mathlib.Data.UInt
import MaOdbc.Library.Memory

namespace MaOdbc

open List

structure DynArray (α : Type) where
  buffer : List α
  elements : Nat
  maxElement : Nat
  allocIncrement : Nat
  sizeOfElement : Nat
  deriving DecidableEq, Repr

namespace DynArray

/-- A call that changes the array, with the index as `unsigned int` where it counts. -/
inductive Call (α : Type)
  | insert (element : α)
  | set (element : α) (idx : UInt32)
  | delete (idx : Nat)
  deriving DecidableEq, Repr

section Model

variable {α : Type}

/-- The increment that `MADB_InitDynamicArray` settles on. -/
def increment (elementSize initAlloc allocIncrement : Nat) : Except Fault Nat :=
  if allocIncrement ≠ 0 then .ok allocIncrement
  else if elementSize = 0 then .error .divisionByZero
  else
    let increment := max ((8192 - 8) / elementSize) 16
    .ok (if initAlloc > 8 ∧ increment > initAlloc * 2 % 2 ^ 32 then initAlloc * 2 % 2 ^ 32 else increment)

def allocate (fresh : Option (Nat → α)) (old : List α) (elementSize count : Nat) : Except Fault (List α) :=
  if elementSize * count < 2 ^ 32 then realloc fresh old count else .error .noMemory

/-- `MADB_InitDynamicArray`. -/
def init (elementSize initAlloc allocIncrement : Nat) (fresh : Option (Nat → α)) : Except Fault (DynArray α) := do
  let increment ← increment elementSize initAlloc allocIncrement
  let initAlloc := if initAlloc = 0 then increment else initAlloc
  let buffer ← allocate fresh [] elementSize initAlloc
  return ⟨buffer, 0, initAlloc, increment, elementSize⟩

/-- The call of `realloc` for `count` elements; it gives no block of size 0. -/
def grow (array : DynArray α) (count : Nat) (fresh : Option (Nat → α)) : Except Fault (DynArray α) :=
  if array.sizeOfElement * count = 0 then .error .noMemory
  else do
    let buffer ← allocate fresh array.buffer array.sizeOfElement count
    return { array with buffer := buffer, maxElement := count }

/-- The part of `MADB_AllocDynamic` and of `MADB_InsertDynamic` that finds the place for an element. -/
def allocDynamic (array : DynArray α) (fresh : Option (Nat → α)) : Except Fault (DynArray α) :=
  if array.elements = array.maxElement then array.grow (array.maxElement + array.allocIncrement) fresh
  else .ok array

def insertDynamic (array : DynArray α) (element : α) (fresh : Option (Nat → α)) : Except Fault (DynArray α) := do
  let array ← array.allocDynamic fresh
  let buffer ← memcpy array.buffer array.elements [element]
  return { array with buffer := buffer, elements := array.elements + 1 }

/-- The part of `MADB_SetDynamic` that makes room for an index. -/
def extend (array : DynArray α) (idx : Nat) (fresh : Option (Nat → α)) : Except Fault (DynArray α) :=
  if idx < array.maxElement then .ok array
  else if array.allocIncrement = 0 then .error .divisionByZero
  else array.grow ((idx + array.allocIncrement) % 2 ^ 32 / array.allocIncrement * array.allocIncrement) fresh

def setDynamic [Zero α] (array : DynArray α) (element : α) (idx : Nat) (fresh : Option (Nat → α)) :
    Except Fault (DynArray α) :=
  if idx < array.elements then do
    let buffer ← memcpy array.buffer idx [element]
    return { array with buffer := buffer }
  else do
    let array ← array.extend idx fresh
    let buffer ← memcpy array.buffer array.elements (replicate (idx - array.elements) 0)
    let buffer ← memcpy buffer idx [element]
    return { array with buffer := buffer, elements := idx + 1 }

/-- `MADB_DeleteDynamicElement`. -/
def deleteDynamicElement (array : DynArray α) (idx : Nat) : Except Fault (DynArray α) := do
  let elements := array.elements - 1
  let moved ← load array.buffer (idx + 1) (elements - idx)
  let buffer ← memcpy array.buffer idx moved
  return { array with buffer := buffer, elements := elements }

/-- `MADB_GetDynamic`, with the element in a list. -/
def getDynamic [Zero α] (array : DynArray α) (idx : Nat) : Except Fault (List α) :=
  if array.elements ≤ idx then .ok [0] else load array.buffer idx 1

def step [Zero α] (array : DynArray α) (fresh : Option (Nat → α)) : Call α → Except Fault (DynArray α)
  | .insert element => array.insertDynamic element fresh
  | .set element idx => array.setDynamic element idx.toNat fresh
  | .delete idx => array.deleteDynamicElement idx

/-- An array and the calls that follow, each with the memory it may get. -/
def run [Zero α] (elementSize initAlloc allocIncrement : Nat) (fresh : Option (Nat → α))
    (calls : List (Call α × Option (Nat → α))) : Except Fault (DynArray α) := do
  calls.foldlM (fun array call => array.step call.2 call.1) (← init elementSize initAlloc allocIncrement fresh)

/-! ### The list -/

/-- What a call does to a list. Only what is there can be deleted. -/
def apply [Zero α] (items : List α) : Call α → Option (List α)
  | .insert element => some (items ++ [element])
  | .set element idx =>
    if idx.toNat < items.length then some (items.set idx.toNat element)
    else some (items ++ replicate (idx.toNat - items.length) 0 ++ [element])
  | .delete idx => if idx < items.length then some (items.eraseIdx idx) else none

structure Represents [Zero α] (items : List α) (array : DynArray α) : Prop where
  count : array.elements = items.length
  get : ∀ idx, array.getDynamic idx = .ok [items.getD idx 0]
  fits : array.elements ≤ array.maxElement

/-- The elements start the block, and the block can grow. -/
structure Sound (items : List α) (array : DynArray α) : Prop where
  starts : items <+: array.buffer
  count : array.elements = items.length
  fits : array.elements ≤ array.maxElement
  block : array.buffer.length = array.maxElement
  grows : 0 < array.allocIncrement

variable {items : List α} {array : DynArray α} {fresh : Option (Nat → α)}

theorem allocate_yields {old : List α} {elementSize count : Nat} (larger : old.length ≤ count) :
    Yields (fun block => old <+: block ∧ block.length = count) (allocate fresh old elementSize count) := by
  unfold allocate
  split
  · exact realloc_yields fresh larger
  · rfl

theorem grow_yields {count : Nat} (sound : Sound items array) (larger : count ≠ 0 → array.maxElement ≤ count) :
    Yields (fun array' => Sound items array' ∧ array'.maxElement = count ∧ count ≠ 0) (array.grow count fresh) := by
  unfold grow
  split
  · rfl
  · rename_i some
    have nonzero : count ≠ 0 := fun zero => some (by rw [zero, Nat.mul_zero])
    refine (allocate_yields (sound.block ▸ larger nonzero)).bind ?_
    rintro block ⟨kept, size⟩
    exact ⟨⟨sound.starts.trans kept, sound.count, sound.fits.trans (larger nonzero), size, sound.grows⟩, rfl,
      nonzero⟩

theorem allocDynamic_yields (sound : Sound items array) :
    Yields (fun array' => Sound items array' ∧ array'.elements < array'.maxElement) (array.allocDynamic fresh) := by
  have grows := sound.grows
  unfold allocDynamic
  split
  · rename_i full
    refine (grow_yields sound fun _ => Nat.le_add_right _ _).mono ?_
    rintro array' ⟨kept, size, -⟩
    refine ⟨kept, ?_⟩
    rw [kept.count, ← sound.count, size]
    omega
  · exact ⟨sound, by have := sound.fits; omega⟩

theorem insertDynamic_yields (sound : Sound items array) (element : α) :
    Yields (Sound (items ++ [element])) (array.insertDynamic element fresh) := by
  refine (allocDynamic_yields sound).bind ?_
  rintro array' ⟨kept, room⟩
  refine (memcpy_yields kept.starts kept.count (kept.block ▸ room)).bind ?_
  rintro block ⟨starts, same⟩
  exact ⟨starts, by simp [kept.count], room, same.trans kept.block, kept.grows⟩

theorem extend_yields {idx : Nat} (sound : Sound items array) (small : idx < 2 ^ 32) :
    Yields (fun array' => Sound items array' ∧ idx < array'.maxElement) (array.extend idx fresh) := by
  unfold extend
  split
  · exact ⟨sound, ‹_›⟩
  · rw [if_neg sound.grows.ne']
    have room := lt_roundUp small sound.grows
    refine (grow_yields sound fun asked => ?_).mono ?_
    · have := room asked
      omega
    · rintro array' ⟨kept, size, asked⟩
      exact ⟨kept, size ▸ room asked⟩

theorem Sound.split {idx : Nat} (sound : Sound items array) (below : idx < items.length) :
    ∃ before element behind rest, items = before ++ element :: behind ∧ before.length = idx ∧
      array.buffer = before ++ element :: (behind ++ rest) := by
  obtain ⟨rest, buffer⟩ := sound.starts
  have whole : items = items.take idx ++ items.get ⟨idx, below⟩ :: items.drop (idx + 1) := by simp
  refine ⟨_, _, _, rest, whole, by simp; omega, ?_⟩
  rw [← cons_append, ← append_assoc, ← whole, buffer]

theorem Sound.represents [Zero α] (sound : Sound items array) : Represents items array := by
  refine ⟨sound.count, fun idx => ?_, sound.fits⟩
  rw [getDynamic, sound.count]
  split
  · rw [getD_eq_getElem?_getD, getElem?_eq_none ‹_›]
    rfl
  · obtain ⟨before, element, behind, rest, rfl, rfl, buffer⟩ := sound.split (Nat.lt_of_not_le ‹_›)
    rw [load, buffer]
    simp

theorem setDynamic_yields [Zero α] (sound : Sound items array) (element : α) {idx : UInt32} {items' : List α}
    (applied : apply items (.set element idx) = some items') :
    Yields (Sound items') (array.setDynamic element idx.toNat fresh) := by
  have count := sound.count
  rw [apply] at applied
  rw [setDynamic]
  split at applied
  · rename_i below
    cases applied
    obtain ⟨before, old, behind, rest, rfl, place, buffer⟩ := sound.split below
    have copied : memcpy array.buffer idx.toNat [element] = .ok (before ++ element :: (behind ++ rest)) := by
      rw [memcpy, buffer, ← place]
      simp
    have same := sound.block
    rw [buffer] at same
    rw [if_pos (count ▸ below), copied, ← place]
    exact ⟨⟨rest, by simp⟩, by simp [count], sound.fits, by simpa using same, sound.grows⟩
  · rename_i beyond
    cases applied
    rw [if_neg (count ▸ beyond)]
    refine (extend_yields sound idx.toNat_lt).bind ?_
    rintro array' ⟨kept, room⟩
    rw [kept.count]
    refine (memcpy_yields kept.starts rfl ?_).bind ?_
    · rw [kept.block, length_replicate]
      omega
    rintro block ⟨starts, same⟩
    rw [kept.block] at same
    refine (memcpy_yields starts (by simp; omega) (same ▸ room)).bind ?_
    rintro block' ⟨starts, same'⟩
    exact ⟨starts, by simp; omega, room, same'.trans same, kept.grows⟩

theorem deleteDynamicElement_yields {idx : Nat} (sound : Sound items array) (below : idx < items.length) :
    Yields (Sound (items.eraseIdx idx)) (array.deleteDynamicElement idx) := by
  obtain ⟨before, old, behind, rest, rfl, rfl, buffer⟩ := sound.split below
  have count : array.elements - 1 = before.length + behind.length := by simp [sound.count]
  have moved : load array.buffer (before.length + 1) (array.elements - 1 - before.length) = .ok behind := by
    rw [load, buffer, count, if_pos (by simp; omega)]
    simp
  rw [deleteDynamicElement, moved, eraseIdx_append_of_length_le (le_refl _), Nat.sub_self, eraseIdx_cons_zero]
  refine (memcpy_yields ⟨_, buffer.symm⟩ rfl (by simp [buffer]; omega)).bind ?_
  rintro block ⟨starts, same⟩
  exact ⟨starts, by simp [count], (Nat.sub_le _ _).trans sound.fits, same.trans sound.block, sound.grows⟩

/-- **A call** does to the array what it does to the list. -/
theorem step_yields [Zero α] {call : Call α} {items' : List α} (sound : Sound items array)
    (applied : apply items call = some items') : Yields (Sound items') (array.step fresh call) := by
  cases call with
  | insert element =>
    cases applied
    exact insertDynamic_yields sound element
  | set element idx => exact setDynamic_yields sound element applied
  | delete idx =>
    rw [apply] at applied
    split at applied
    · cases applied
      exact deleteDynamicElement_yields sound ‹_›
    · cases applied

theorem steps_yield [Zero α] {calls : List (Call α × Option (Nat → α))} {items' : List α}
    (sound : Sound items array) (applied : (calls.map (·.1)).foldlM apply items = some items') :
    Yields (Sound items') (calls.foldlM (fun array call => array.step call.2 call.1) array) := by
  induction calls generalizing items array with
  | nil =>
    cases applied
    exact sound
  | cons call calls ih =>
    obtain ⟨items₁, first, later⟩ := Option.bind_eq_some_iff.mp applied
    exact (step_yields sound first).bind fun array' kept => ih kept later

theorem increment_yields {elementSize initAlloc allocIncrement : Nat}
    (good : ¬(allocIncrement = 0 ∧ (elementSize = 0 ∨ elementSize = 1 ∧ initAlloc = 2 ^ 31))) :
    Yields (fun increment => 0 < increment ∨ initAlloc ≠ 0 ∧ 2 ^ 32 ≤ elementSize * initAlloc)
      (increment elementSize initAlloc allocIncrement) := by
  unfold increment
  split
  · exact .inl (Nat.pos_of_ne_zero ‹_›)
  · rename_i none
    have sized : elementSize ≠ 0 := fun zero => good ⟨by omega, .inl zero⟩
    have other : ¬(elementSize = 1 ∧ initAlloc = 2 ^ 31) := fun one => good ⟨by omega, .inr one⟩
    rw [if_neg sized]
    by_cases wraps : 0 < initAlloc * 2 % 2 ^ 32
    · refine .inl ?_
      split <;> omega
    · by_cases few : initAlloc = 0
      · exact .inl (by simp [few])
      · refine .inr ⟨few, ?_⟩
        by_cases one : elementSize = 1
        · rw [one]
          omega
        · have := Nat.mul_le_mul (show 2 ≤ elementSize by omega) (show 2 ^ 31 ≤ initAlloc by omega)
          omega

theorem init_yields {elementSize initAlloc allocIncrement : Nat}
    (good : ¬(allocIncrement = 0 ∧ (elementSize = 0 ∨ elementSize = 1 ∧ initAlloc = 2 ^ 31))) :
    Yields (Sound ([] : List α)) (init elementSize initAlloc allocIncrement fresh) := by
  refine (increment_yields good).bind ?_
  rintro increment (grows | ⟨some, large⟩)
  · refine (allocate_yields (Nat.zero_le _)).bind ?_
    rintro block ⟨starts, size⟩
    exact ⟨starts, rfl, Nat.zero_le _, size, grows⟩
  · have refused : Yields (fun _ => False) (allocate fresh [] elementSize initAlloc) := by
      rw [allocate, if_neg large.not_gt]
      rfl
    rw [if_neg some]
    exact refused.bind fun _ none => none.elim

/-- **The array behaves as a list** exactly if the increment is given, or found without a division by zero and not
zero for a block of `2 ^ 31` bytes. -/
theorem run_refines_iff (α : Type) [Zero α] (elementSize initAlloc allocIncrement : Nat) :
    (∀ (fresh : Option (Nat → α)) calls items, (calls.map (·.1)).foldlM apply [] = some items →
      Yields (Represents items) (run elementSize initAlloc allocIncrement fresh calls)) ↔
      ¬(allocIncrement = 0 ∧ (elementSize = 0 ∨ elementSize = 1 ∧ initAlloc = 2 ^ 31)) := by
  constructor
  · rintro refines ⟨rfl, rfl | ⟨rfl, rfl⟩⟩
    · cases refines none [] [] rfl
    · cases refines (some fun _ => 0) [(.set 0 2147483648, none)] _ rfl
  · intro good fresh calls items applied
    refine (init_yields good).bind fun array sound => ?_
    exact (steps_yield sound applied).mono fun array' kept => kept.represents

/-- The element behind a block of `2 ^ 31` bytes is not set: the size to grow to is divided by zero. -/
theorem run_divides : (∃ items, [.set (7 : UInt8) 2147483648].foldlM apply [] = some items) ∧
    run 1 (2 ^ 31) 0 (some fun _ => (0 : UInt8)) [(.set 7 2147483648, some fun _ => 0)] =
      .error .divisionByZero :=
  ⟨⟨_, rfl⟩, rfl⟩

end Model
end DynArray
end MaOdbc
