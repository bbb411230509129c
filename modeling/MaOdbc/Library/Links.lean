/-
**Doubly linked lists** whose links are kept by their elements.

`Links` has the root and the two links of every element, as they stand in memory; elements that are in no list
have links, too.

* `Segment`: elements that are linked to each other, with what stands before and behind them.
* `Contains`: the elements of the list in their order, each once. `contains_unique`: there is one such order.
* `contains_add`, `contains_delete`: what adding an element to the front and deleting one does.
-/

import Mathlib.Data.List.Nodup
import Mathlib.Logic.Function.Basic

namespace MaOdbc

open List Function Option

structure Links (ι : Type*) where
  root : Option ι := none
  prev : ι → Option ι := fun _ => none
  next : ι → Option ι := fun _ => none

namespace Links

variable {ι : Type*} (l : Links ι)

section Operations

variable [DecidableEq ι]

def add (element : ι) : Links ι :=
  match l.root with
  | none =>
    { root := some element
      prev := update l.prev element none
      next := update l.next element none }
  | some root =>
    let next := match l.prev root with
      | none => l.next
      | some before => update l.next before (some element)
    { root := some element
      prev := update (update l.prev element (l.prev root)) root (some element)
      next := update next element (some root) }

def delete (element : ι) : Links ι :=
  let l := match l.prev element with
    | none => { l with root := l.next element }
    | some before => { l with next := update l.next before (l.next element) }
  match l.next element with
  | none => l
  | some behind => { l with prev := update l.prev behind (l.prev element) }

end Operations

def Segment (after : Option ι) : Option ι → List ι → Prop
  | _, [] => True
  | before, x :: xs => l.prev x = before ∧ l.next x = xs.head?.or after ∧ Segment after (some x) xs

/-- **The elements of the list.** -/
structure Contains (xs : List ι) : Prop where
  root : l.root = xs.head?
  nodup : xs.Nodup
  linked : l.Segment none none xs

variable {l} {l' : Links ι} {before after : Option ι} {xs ys : List ι}

theorem segment_append :
    l.Segment after before (xs ++ ys) ↔
      l.Segment (ys.head?.or after) before xs ∧ l.Segment after (xs.getLast?.or before) ys := by
  induction xs generalizing before with
  | nil => exact (and_iff_right trivial).symm
  | cons x xs ih =>
    have head : (xs ++ ys).head?.or after = xs.head?.or (ys.head?.or after) := by
      rw [head?_append, Option.or_assoc]
    have last : (x :: xs).getLast?.or before = xs.getLast?.or (some x) := by
      rw [getLast?_cons]
      cases xs.getLast? <;> rfl
    rw [cons_append, Segment, Segment, ih, head, last]
    tauto

theorem Segment.congr (linked : l.Segment after before xs)
    (same : ∀ x ∈ xs, l'.prev x = l.prev x ∧ l'.next x = l.next x) : l'.Segment after before xs := by
  induction xs generalizing before with
  | nil => exact linked
  | cons x xs ih =>
    obtain ⟨prev, next, rest⟩ := linked
    obtain ⟨prev', next'⟩ := same x mem_cons_self
    exact ⟨prev'.trans prev, next'.trans next, ih rest fun y member => same y (mem_cons_of_mem x member)⟩

theorem Segment.unique {before' : Option ι} (first : l.Segment none before xs) (second : l.Segment none before' ys)
    (heads : xs.head? = ys.head?) : xs = ys := by
  induction xs generalizing ys before before' with
  | nil =>
    cases ys with
    | nil => rfl
    | cons y ys => cases heads
  | cons x xs ih =>
    cases ys with
    | nil => cases heads
    | cons y ys =>
      obtain rfl : x = y := some.inj heads
      obtain ⟨-, next, rest⟩ := first
      obtain ⟨-, next', rest'⟩ := second
      rw [or_none] at next next'
      rw [ih rest rest' (next.symm.trans next')]

theorem contains_unique (first : l.Contains xs) (second : l.Contains ys) : xs = ys :=
  first.linked.unique second.linked (first.root.symm.trans second.root)

variable [DecidableEq ι] {element : ι}

/-- **An element is added.** -/
theorem contains_add (contains : l.Contains xs) (fresh : element ∉ xs) : (l.add element).Contains (element :: xs) := by
  refine ⟨?_, nodup_cons.mpr ⟨fresh, contains.nodup⟩, ?_⟩
  · rw [add]
    split
    · rfl
    · rfl
  · cases xs with
    | nil =>
      have empty : l.root = none := contains.root
      rw [add, empty]
      exact ⟨update_self _ _ _, update_self _ _ _, trivial⟩
    | cons root xs =>
      have first : l.root = some root := contains.root
      obtain ⟨front, next, rest⟩ := contains.linked
      obtain ⟨other, fresh'⟩ := ne_and_not_mem_of_not_mem_cons fresh
      have once : root ∉ xs := (nodup_cons.mp contains.nodup).1
      rw [add, first]
      dsimp only
      rw [front]
      refine ⟨?_, update_self _ _ _, update_self _ _ _, ?_, rest.congr fun x member => ?_⟩
      · show update (update l.prev element none) root (some element) element = none
        rw [update_of_ne other, update_self]
      · show update l.next element (some root) root = _
        rw [update_of_ne (Ne.symm other), next]
      · have apart : x ≠ root := ne_of_mem_of_not_mem member once
        have apart' : x ≠ element := ne_of_mem_of_not_mem member fresh'
        constructor
        · show update (update l.prev element none) root (some element) x = _
          rw [update_of_ne apart, update_of_ne apart']
        · show update l.next element (some root) x = _
          rw [update_of_ne apart']

theorem delete_fields (element : ι) (apart : l.prev element ≠ some element) :
    (l.delete element).root = (if l.prev element = none then l.next element else l.root) ∧
      (∀ x, (l.delete element).next x = if l.prev element = some x then l.next element else l.next x) ∧
      ∀ x, (l.delete element).prev x = if l.next element = some x then l.prev element else l.prev x := by
  have kept : ∀ before, l.prev element = some before →
      update l.next before (l.next element) element = l.next element := by
    intro before found
    refine update_of_ne (fun same => apart ?_) _ _
    rw [found, same]
  rw [delete]
  cases found : l.prev element with
  | none =>
    dsimp only
    cases l.next element with
    | none => simp
    | some behind => simp [found, update_apply, eq_comm]
  | some before =>
    dsimp only
    rw [kept _ found]
    cases l.next element with
    | none => simp [update_apply, eq_comm]
    | some behind => simp [found, update_apply, eq_comm]

/-- **An element is deleted.** -/
theorem contains_delete (contains : l.Contains xs) (member : element ∈ xs) :
    (l.delete element).Contains (xs.erase element) := by
  obtain ⟨front, back, missing, split, erased⟩ := exists_erase_eq member
  rw [erased]
  have once : element ∉ front ++ back ∧ (front ++ back).Nodup := by
    rw [← nodup_cons]
    refine List.Perm.nodup ?_ contains.nodup
    rw [split]
    exact perm_middle
  have linked := contains.linked
  rw [split, segment_append] at linked
  obtain ⟨linkedFront, prev, next, linkedBack⟩ := linked
  rw [or_none] at prev next
  have apart : l.prev element ≠ some element := by
    intro same
    rw [prev] at same
    exact missing (mem_of_getLast? same)
  obtain ⟨root, nexts, prevs⟩ := delete_fields element apart
  rw [prev] at nexts prevs root
  rw [next] at nexts prevs root
  have disjoint : ∀ x ∈ front, x ∉ back := fun x => disjoint_of_nodup_append once.2 (a := x)
  have last : ∀ x ∈ back, front.getLast? ≠ some x :=
    fun x here there => disjoint x (mem_of_getLast? there) here
  refine ⟨?_, once.2, segment_append.mpr ⟨?_, ?_⟩⟩
  · rw [root, contains.root, split]
    cases front with
    | nil => rfl
    | cons x front => exact if_neg (by rw [getLast?_cons]; exact some_ne_none _)
  · rw [or_none]
    have first : ∀ x ∈ front, back.head? ≠ some x :=
      fun x here there => disjoint x here (mem_of_head? there)
    rcases eq_nil_or_concat front with nothing | ⟨init, x, ends⟩
    · rw [nothing]
      trivial
    · -- only the last element before the deleted one gets another successor
      rw [concat_eq_append] at ends
      have final : front.getLast? = some x := by
        rw [ends, getLast?_append]
        rfl
      have nodup : front.Nodup := (nodup_append.mp once.2).1
      rw [ends] at nodup linkedFront first ⊢
      rw [segment_append] at linkedFront ⊢
      obtain ⟨linkedInit, prev', -, -⟩ := linkedFront
      have alone : x ∉ init := fun here => disjoint_of_nodup_append nodup here mem_cons_self
      refine ⟨linkedInit.congr fun y member => ⟨?_, ?_⟩, ?_, ?_, trivial⟩
      · rw [prevs, if_neg (first y (mem_append_left [x] member))]
      · rw [nexts, final, if_neg]
        intro same
        exact alone (some.inj same ▸ member)
      · rw [prevs, if_neg (first x (mem_append_right init mem_cons_self)), prev']
      · rw [nexts, if_pos final]
        rfl
  · rw [or_none]
    cases back with
    | nil => trivial
    | cons x back =>
      obtain ⟨-, next', linkedBack'⟩ := linkedBack
      have alone : x ∉ back := (nodup_cons.mp (nodup_append.mp once.2).2.1).1
      refine ⟨?_, ?_, linkedBack'.congr fun y member => ⟨?_, ?_⟩⟩
      · exact (prevs x).trans (if_pos rfl)
      · rw [nexts, if_neg (last x mem_cons_self), next']
      · rw [prevs, if_neg]
        intro same
        exact alone (some.inj same ▸ member)
      · rw [nexts, if_neg (last y (mem_cons_of_mem x member))]

end Links

end MaOdbc
