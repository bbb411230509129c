/-
**The statements of a query and their marks.**

The NUL-separated segments of the refined text are the statements of a batch. A question mark is no NUL,
so every recorded position lies in one of them, and the statements part the positions among them, in
order. The executor finds the same parts by counting: what it counts from the number of marks before a
statement is the number of marks inside.
-/

import MaOdbc.Library.Fill
import MaOdbc.Parse.Entries
import MaOdbc.Parse.Marks

namespace MaOdbc

open List

namespace Query

variable (query : Query)

def texts : List Text := segments query.refinedText

def start (k : Nat) : Nat := segmentStart query.texts k

def text (k : Nat) : Text := query.texts.getD k []

def marks (k : Nat) : List Nat :=
  query.paramPositions.filter fun position =>
    decide (query.start k ≤ position) && decide (position < query.start (k + 1))

def markOffset (k : Nat) : Nat := (query.paramPositions.filter (· < query.start k)).length

structure Marked : Prop where
  rising : query.paramPositions.Pairwise (· < ·)
  marks : ∀ position ∈ query.paramPositions, query.refinedText[position]? = some (ch '?')

variable {query} {k : Nat}

theorem start_succ (inside : k < query.texts.length) :
    query.start (k + 1) = query.start k + (query.text k).length + 1 :=
  segmentStart_succ inside

theorem cstr_start (inside : k < query.texts.length) :
    cstr (query.refinedText.drop (query.start k)) = query.text k :=
  cstr_segmentStart inside

@[simp] theorem start_zero : query.start 0 = 0 := rfl

@[simp] theorem markOffset_zero : query.markOffset 0 = 0 := by
  simp [markOffset]

theorem start_add_length_le (inside : k < query.texts.length) :
    query.start k + (query.text k).length ≤ query.refinedText.length := by
  have all : query.start query.texts.length = query.refinedText.length + 1 := segmentStart_length
  have le : query.start (k + 1) ≤ query.start query.texts.length := segmentStart_le _ _
  rw [all, start_succ inside] at le
  omega

namespace Marked

variable (marked : query.Marked)
include marked

section

variable (inside : k < query.texts.length)

include inside

theorem ne_end {position : Nat} (member : position ∈ query.paramPositions) :
    position ≠ query.start k + (query.text k).length := by
  rintro rfl
  have mark := marked.marks _ member
  by_cases more : k + 1 < query.texts.length
  · have nul : query.refinedText[query.start k + (query.text k).length]? = some 0 :=
      nul_at_segmentEnd more
    rw [nul] at mark
    exact absurd (Option.some.inj mark) (by decide)
  · have last : k + 1 = query.texts.length := by omega
    have all : query.start query.texts.length = query.refinedText.length + 1 := segmentStart_length
    have ends := start_succ inside
    rw [last, all] at ends
    have := (List.getElem?_eq_some_iff.mp mark).1
    omega

theorem marks_eq :
    query.marks k = query.paramPositions.filter fun position =>
      decide (query.start k ≤ position) && decide (position < query.start k + (query.text k).length) := by
  refine filter_congr fun position member => ?_
  have := marked.ne_end inside member
  rw [start_succ inside]
  congr 1
  exact decide_eq_decide.mpr (by omega)

theorem markOffset_succ :
    query.markOffset (k + 1) = query.markOffset k + (query.marks k).length := by
  have le : query.start k ≤ query.start (k + 1) := by
    rw [start_succ inside]
    omega
  rw [markOffset, filter_rising marked.rising le, length_append]
  rfl

theorem takeWhile_drop :
    (query.paramPositions.drop (query.markOffset k)).takeWhile
      (· < query.start k + (query.text k).length) = query.marks k := by
  rw [markOffset, drop_rising marked.rising, takeWhile_rising (marked.rising.filter _), filter_filter,
    marked.marks_eq inside]
  exact filter_congr fun position _ => Bool.and_comm _ _

end

/-- **Parting**: the statements take the positions among them, in order. -/
theorem flatMap_marks : (range query.texts.length).flatMap query.marks = query.paramPositions := by
  have first : ∀ count ≤ query.texts.length,
      (range count).flatMap query.marks = query.paramPositions.filter (· < query.start count) := by
    intro count le
    induction count with
    | zero => simp
    | succ count ih =>
      have inside : count < query.texts.length := by omega
      have before : query.start count ≤ query.start (count + 1) := by
        rw [start_succ inside]
        omega
      rw [range_succ, flatMap_append, flatMap_singleton, ih (by omega),
        filter_rising marked.rising before]
      rfl
  rw [first _ le_rfl, filter_eq_self]
  intro position member
  have all : query.start query.texts.length = query.refinedText.length + 1 := segmentStart_length
  have := (List.getElem?_eq_some_iff.mp (marked.marks _ member)).1
  rw [all, decide_eq_true_eq]
  omega

theorem getD_lt_start {i : Nat} (before : i < query.markOffset k) :
    query.paramPositions.getD i 0 < query.start k := by
  rw [rising_split marked.rising (query.start k), getD_append _ _ _ _ before,
    getD_eq_getElem _ _ before]
  simpa using (mem_filter.mp (getElem_mem before)).2

theorem start_le_getD {i : Nat} (behind : query.markOffset k ≤ i)
    (inside : i < query.paramPositions.length) : query.start k ≤ query.paramPositions.getD i 0 := by
  have whole := congrArg length (rising_split marked.rising (query.start k))
  rw [length_append] at whole
  rw [markOffset] at behind
  have short : i - (query.paramPositions.filter (· < query.start k)).length <
      (query.paramPositions.filter (query.start k ≤ ·)).length := by omega
  rw [rising_split marked.rising (query.start k), getD_append_right _ _ _ _ behind,
    getD_eq_getElem _ _ short]
  simpa using (mem_filter.mp (getElem_mem short)).2

theorem getD_bounds (inside : k < query.texts.length) {i : Nat} (lower : query.markOffset k ≤ i)
    (upper : i < query.markOffset k + (query.marks k).length) :
    query.start k ≤ query.paramPositions.getD i 0 ∧
      query.paramPositions.getD i 0 < query.start k + (query.text k).length ∧
      i < query.paramPositions.length := by
  rw [← marked.markOffset_succ inside] at upper
  have recorded : i < query.paramPositions.length :=
    upper.trans_le (length_filter_le _ _)
  have member : query.paramPositions.getD i 0 ∈ query.paramPositions := by
    rw [getD_eq_getElem _ _ recorded]
    exact getElem_mem recorded
  have before := marked.getD_lt_start upper
  have notEnd := marked.ne_end inside member
  rw [start_succ inside] at before
  exact ⟨marked.start_le_getD lower recorded, by omega, recorded⟩

end Marked

theorem length_texts (corresponds : Corresponds query.refinedText (query.subQuery.map (·.queryText))) :
    query.texts.length = query.stmtCount := by
  have same := congrArg length corresponds.1
  rw [length_map, length_map, length_segmentTokens] at same
  exact same.symm

end Query

theorem madbParseQuery_marked (query : Query) (replace : Bool) :
    (madbParseQuery query replace).Marked := by
  let scan := Scan.run replace query.batchAllowed { rest := (handedText query.refinedText).2 }
  have marked : Scan.Marked scan := Scan.run_marked replace query.batchAllowed _
  have finished : scan.rest = [] := Scan.run_rest _ _ rfl
  have text : (madbParseQuery query replace).refinedText = scan.done := by
    show scan.buffer = _
    rw [Scan.buffer, finished, append_nil]
  refine ⟨marked.rising, ?_⟩
  rw [text]
  exact marked.marks

end MaOdbc
