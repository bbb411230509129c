/-
**Texts with marks.**

`fill positions literal` puts a literal in the place of every byte that stands at one of the positions,
and keeps the other bytes. Positions are a rising list of offsets; cutting the offsets at rising bounds
cuts such a list into consecutive parts.
-/

import MaOdbc.Library.CText
import Mathlib.Data.List.GetD

namespace MaOdbc

open List

/-! ### Rising lists -/

section Rising

variable {positions : List Nat} {bound : Nat}

section

variable (rising : positions.Pairwise (· < ·))

include rising

theorem rising_split (bound : Nat) :
    positions = positions.filter (· < bound) ++ positions.filter (bound ≤ ·) := by
  induction positions with
  | nil => rfl
  | cons first rest ih =>
    obtain ⟨least, restRising⟩ := pairwise_cons.mp rising
    by_cases below : first < bound
    · rw [filter_cons_of_pos (by simpa using below),
        filter_cons_of_neg (by simpa using below), cons_append, ← ih restRising]
    · have all : ∀ position ∈ rest, bound ≤ position := fun position member =>
        (Nat.not_lt.mp below).trans (least position member).le
      have none : rest.filter (· < bound) = [] := by
        rw [filter_eq_nil_iff]
        intro position member
        simpa using all position member
      have whole : rest.filter (bound ≤ ·) = rest := by
        rw [filter_eq_self]
        intro position member
        simpa using all position member
      rw [filter_cons_of_neg (by simpa using below),
        filter_cons_of_pos (by simpa using below), none, whole]
      rfl

theorem takeWhile_rising (bound : Nat) :
    positions.takeWhile (· < bound) = positions.filter (· < bound) := by
  conv_lhs => rw [rising_split rising bound]
  rw [takeWhile_append_of_pos fun position member => (mem_filter.mp member).2]
  have stops : (positions.filter (bound ≤ ·)).takeWhile (· < bound) = [] := by
    cases later : positions.filter (bound ≤ ·) with
    | nil => rfl
    | cons first rest =>
      have member : first ∈ positions.filter (bound ≤ ·) := later ▸ mem_cons_self
      have above : bound ≤ first := by simpa using (mem_filter.mp member).2
      rw [takeWhile_cons_of_neg (by simpa using above)]
  rw [stops, append_nil]

theorem drop_rising (bound : Nat) :
    positions.drop (positions.filter (· < bound)).length = positions.filter (bound ≤ ·) := by
  conv_lhs => rw [rising_split rising bound]
  simp

theorem filter_rising {lower upper : Nat} (le : lower ≤ upper) :
    positions.filter (· < upper) =
      positions.filter (· < lower) ++ positions.filter fun position =>
        decide (lower ≤ position) && decide (position < upper) := by
  conv_lhs => rw [rising_split (rising.filter (p := fun position => decide (position < upper))) lower]
  rw [filter_filter, filter_filter]
  congr 1
  refine filter_congr fun position _ => ?_
  by_cases below : position < lower
  · simp [below, Nat.lt_of_lt_of_le below le]
  · simp [below]

end

end Rising

/-! ### Filling -/

/-- The text at an offset, with the literals in the place of the marks. -/
def fill (positions : List Nat) (literal : Nat → Text) : Nat → Text → Text
  | _, [] => []
  | offset, byte :: text =>
    (match positions.idxOf? offset with
      | some k => literal k
      | none => [byte]) ++ fill positions literal (offset + 1) text

section Fill

variable {positions : List Nat} {literal : Nat → Text}

theorem fill_append (offset : Nat) (first second : Text) :
    fill positions literal offset (first ++ second) =
      fill positions literal offset first ++
        fill positions literal (offset + first.length) second := by
  induction first generalizing offset with
  | nil => rfl
  | cons byte first ih =>
    rw [cons_append, fill, fill, ih, append_assoc, length_cons]
    congr 3
    omega

theorem fill_of_not_mem {offset : Nat} {text : Text}
    (free : ∀ position ∈ positions, ¬ (offset ≤ position ∧ position < offset + text.length)) :
    fill positions literal offset text = text := by
  induction text generalizing offset with
  | nil => rfl
  | cons byte text ih =>
    have here : positions.idxOf? offset = none := by
      rw [idxOf?_eq_none_iff]
      intro member
      exact free offset member ⟨le_rfl, by simp⟩
    rw [fill, here, ih fun position member inside => free position member ?_]
    · rfl
    · rw [length_cons]
      omega

theorem fill_at (rising : positions.Pairwise (· < ·)) {k : Nat} (inside : k < positions.length)
    (byte : Byte) (text : Text) :
    fill positions literal (positions.getD k 0) (byte :: text) =
      literal k ++ fill positions literal (positions.getD k 0 + 1) text := by
  have found : positions.idxOf? (positions.getD k 0) = some k := by
    rw [getD_eq_getElem _ _ inside, List.idxOf?, findIdx?_eq_some_iff_getElem]
    refine ⟨inside, by simp, fun j before same => ?_⟩
    have less := pairwise_iff_getElem.mp rising j k (by omega) inside before
    rw [beq_iff_eq.mp same] at less
    exact lt_irrefl _ less
  rw [fill, found]

end Fill

end MaOdbc
