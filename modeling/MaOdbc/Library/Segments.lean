/-
**Texts cut by NULs.**

A buffer that holds several C strings one after another: `joinSegments finished current` is a row of
finished strings, each with its NUL, and one that is still open. `firstStrings` walks over such a
buffer by `strlen + 1`. `segmentTokens` gives for every segment the offset of its first byte that is
no blank.
-/

import MaOdbc.Library.CText

namespace MaOdbc

open List

def segments (text : Text) : List Text := text.splitOnP (· == 0)

def joinSegments (finished : List Text) (current : Text) : Text :=
  finished.flatMap (· ++ [0]) ++ current

/-- The first `count` C strings of a buffer, each found behind the terminator of the one before. -/
def firstStrings : Nat → Text → List Text
  | 0, _ => []
  | count + 1, text => cstr text :: firstStrings count (text.drop ((cstr text).length + 1))

def isBlank (segment : Text) : Bool := segment.all isSpace

/-- The offset of the first byte of each segment that is no blank, the first segment standing at
`offset`. -/
def segmentTokens : Nat → List Text → List (Option Nat)
  | _, [] => []
  | offset, segment :: more =>
    (if isBlank segment then none else some (offset + (segment.takeWhile isSpace).length)) ::
      segmentTokens (offset + segment.length + 1) more

theorem isBlank_append (first second : Text) :
    isBlank (first ++ second) = (isBlank first && isBlank second) :=
  all_append

theorem nulFree_of_isBlank {text : Text} (blank : isBlank text = true) : 0 ∉ text := by
  intro member
  exact absurd (all_eq_true.mp blank 0 member) (by decide)

theorem takeWhile_append_of_not_isBlank {text : Text} (token : isBlank text = false) (more : Text) :
    (text ++ more).takeWhile isSpace = text.takeWhile isSpace := by
  induction text with
  | nil => cases token
  | cons byte text ih =>
    by_cases blank : isSpace byte = true
    · rw [isBlank, all_cons, blank, Bool.true_and] at token
      rw [cons_append, takeWhile_cons_of_pos blank, takeWhile_cons_of_pos blank, ih token]
    · rw [cons_append, takeWhile_cons_of_neg blank, takeWhile_cons_of_neg blank]

theorem joinSegments_cons (segment : Text) (finished : List Text) (current : Text) :
    joinSegments (segment :: finished) current = segment ++ 0 :: joinSegments finished current := by
  rw [joinSegments, joinSegments, flatMap_cons, append_assoc, append_assoc]
  rfl

theorem joinSegments_append (finished : List Text) (current text : Text) :
    joinSegments finished current ++ text = joinSegments finished (current ++ text) :=
  append_assoc _ _ _

theorem joinSegments_close (finished : List Text) (current : Text) :
    joinSegments finished current ++ [0] = joinSegments (finished ++ [current]) [] := by
  rw [joinSegments, joinSegments, flatMap_append, append_assoc, append_nil]
  simp

theorem segments_of_nulFree {text : Text} (nulFree : 0 ∉ text) : segments text = [text] := by
  refine splitOnP_eq_singleton fun byte member => ?_
  rw [beq_eq_false_iff_ne]
  rintro rfl
  exact nulFree member

variable {finished texts before after : List Text} {current segment : Text} {offsets : List Nat}
  {start : Nat}

theorem segments_joinSegments {finished : List Text} {current : Text}
    (nulFree : ∀ segment ∈ finished, 0 ∉ segment) (openFree : 0 ∉ current) :
    segments (joinSegments finished current) = finished ++ [current] := by
  induction finished with
  | nil => exact segments_of_nulFree openFree
  | cons segment finished ih =>
    have head := segments_of_nulFree (nulFree segment mem_cons_self)
    rw [segments] at head
    rw [joinSegments_cons, segments, splitOnP_append_cons _ _ (by rfl), head,
      ← segments, ih fun segment member => nulFree segment (mem_cons_of_mem _ member)]
    rfl

theorem firstStrings_joinSegments (nulFree : ∀ segment ∈ finished, 0 ∉ segment)
    (openFree : 0 ∉ current) :
    firstStrings (finished.length + 1) (joinSegments finished current) = finished ++ [current] := by
  induction finished with
  | nil =>
    rw [show joinSegments [] current = current from rfl, length_nil, firstStrings,
      cstr_of_nulFree openFree]
    rfl
  | cons segment finished ih =>
    have head := nulFree segment mem_cons_self
    rw [joinSegments_cons, length_cons, firstStrings, cstr_append_nul head,
      drop_length_add_append, drop_succ_cons, drop_zero,
      ih fun segment member => nulFree segment (mem_cons_of_mem _ member)]
    rfl

theorem segmentTokens_append (offset : Nat) (finished more : List Text) :
    segmentTokens offset (finished ++ more) =
      segmentTokens offset finished ++ segmentTokens (offset + (joinSegments finished []).length) more := by
  induction finished generalizing offset with
  | nil => rfl
  | cons segment finished ih =>
    rw [cons_append, segmentTokens, segmentTokens, ih, joinSegments_cons, length_append,
      length_cons]
    congr 3
    omega

theorem length_segmentTokens (offset : Nat) (texts : List Text) :
    (segmentTokens offset texts).length = texts.length := by
  induction texts generalizing offset with
  | nil => rfl
  | cons segment more ih => rw [segmentTokens, length_cons, ih, length_cons]

theorem none_mem_segmentTokens (offset : Nat) (member : segment ∈ texts)
    (blank : isBlank segment = true) : none ∈ segmentTokens offset texts := by
  induction texts generalizing offset with
  | nil => cases member
  | cons head more ih =>
    rw [segmentTokens]
    rcases mem_cons.mp member with rfl | later
    · rw [blank]
      exact mem_cons_self
    · exact mem_cons_of_mem _ (ih _ later)

theorem bounds_segmentTokens {offset token : Nat} {texts : List Text} (member : some token ∈ segmentTokens offset texts) :
    offset ≤ token ∧ token < offset + (joinSegments texts []).length := by
  induction texts generalizing offset with
  | nil => cases member
  | cons segment more ih =>
    rw [joinSegments_cons, length_append, length_cons]
    rw [segmentTokens] at member
    rcases mem_cons.mp member with here | later
    · split at here
      · cases here
      · rw [Option.some.inj here]
        have inside := ( takeWhile_prefix isSpace (l := segment)).length_le
        omega
    · have bounds := ih later
      omega

/-- **One token each**: a segment that starts at `start` holds one of the tokens. -/
theorem countP_segmentTokens
    (tokens : offsets.map some = segmentTokens 0 (before ++ segment :: after))
    (starts : start = (joinSegments before []).length) :
    (offsets.countP fun offset => start ≤ offset && offset < start + segment.length) = 1 := by
  rw [segmentTokens_append, Nat.zero_add, ← starts, segmentTokens] at tokens
  obtain ⟨earlier, rest, rfl, first, second⟩ := map_eq_append_iff.mp tokens
  obtain ⟨here, later, rfl, head, tail⟩ := map_eq_cons_iff.mp second
  have inside : start ≤ here ∧ here < start + segment.length := by
    split at head
    · cases head
    · rename_i solid
      have short : (segment.takeWhile isSpace).length ≠ segment.length := by
        intro full
        refine solid (all_eq_true.mpr (takeWhile_eq_self_iff.mp ?_))
        exact ( takeWhile_prefix _).eq_of_length full
      have most := ( takeWhile_prefix isSpace (l := segment)).length_le
      rw [Option.some.inj head]
      omega
  have none_before : (earlier.countP fun offset => start ≤ offset && offset < start + segment.length) = 0 := by
    rw [countP_eq_zero]
    intro offset member
    have bounds := bounds_segmentTokens (first ▸ mem_map_of_mem (f := some) member)
    simp only [Bool.and_eq_true, decide_eq_true_eq]
    omega
  have none_after : (later.countP fun offset => start ≤ offset && offset < start + segment.length) = 0 := by
    rw [countP_eq_zero]
    intro offset member
    have bounds := bounds_segmentTokens (tail ▸ mem_map_of_mem (f := some) member)
    simp only [Bool.and_eq_true, decide_eq_true_eq]
    omega
  rw [countP_append, none_before, countP_cons, none_after, if_pos (by simpa using inside)]

theorem countP_segmentTokens_behind (tokens : offsets.map some = segmentTokens 0 texts)
    {length : Nat} (behind : (joinSegments texts []).length ≤ start) :
    (offsets.countP fun offset => start ≤ offset && offset < start + length) = 0 := by
  rw [countP_eq_zero]
  intro offset member
  have bounds := bounds_segmentTokens (tokens ▸ mem_map_of_mem (f := some) member)
  simp only [Bool.and_eq_true, decide_eq_true_eq]
  omega

/-! ### Where segments start -/

theorem exists_joinSegments (text : Text) :
    ∃ finished current, text = joinSegments finished current ∧
      segments text = finished ++ [current] ∧ (∀ segment ∈ finished, 0 ∉ segment) ∧ 0 ∉ current := by
  induction text with
  | nil => exact ⟨[], [], rfl, rfl, by simp, by simp⟩
  | cons byte text ih =>
    obtain ⟨finished, current, same, -, finishedFree, currentFree⟩ := ih
    by_cases nul : byte = 0
    · subst nul
      have joined : 0 :: text = joinSegments ([] :: finished) current := by
        rw [joinSegments_cons, ← same]
        rfl
      have free : ∀ segment ∈ [] :: finished, (0 : Byte) ∉ segment := by
        intro segment member
        rcases mem_cons.mp member with rfl | later
        · simp
        · exact finishedFree segment later
      exact ⟨[] :: finished, current, joined, joined ▸ segments_joinSegments free currentFree, free,
        currentFree⟩
    · have nonzero : ∀ segment : Text, 0 ∉ segment → 0 ∉ byte :: segment := by
        intro segment free member
        rcases mem_cons.mp member with same | later
        · exact nul same.symm
        · exact free later
      cases finished with
      | nil =>
        have joined : byte :: text = joinSegments [] (byte :: current) := by rw [same]; rfl
        exact ⟨[], byte :: current, joined,
          joined ▸ segments_joinSegments (by simp) (nonzero _ currentFree), by simp,
          nonzero _ currentFree⟩
      | cons segment finished =>
        have joined : byte :: text = joinSegments ((byte :: segment) :: finished) current := by
          rw [same, joinSegments_cons, joinSegments_cons]
          rfl
        have free : ∀ other ∈ (byte :: segment) :: finished, 0 ∉ other := by
          intro other member
          rcases mem_cons.mp member with rfl | later
          · exact nonzero _ (finishedFree segment mem_cons_self)
          · exact finishedFree other (mem_cons_of_mem _ later)
        exact ⟨(byte :: segment) :: finished, current, joined,
          joined ▸ segments_joinSegments free currentFree, free, currentFree⟩

/-- The offset at which a segment starts. -/
def segmentStart (texts : List Text) (k : Nat) : Nat := ((texts.take k).map (·.length + 1)).sum

theorem segmentStart_succ {k : Nat} (inside : k < texts.length) :
    segmentStart texts (k + 1) = segmentStart texts k + (texts.getD k []).length + 1 := by
  rw [segmentStart, take_add_one, getElem?_eq_getElem inside, map_append, sum_append,
    ← segmentStart, getD_eq_getElem?_getD, getElem?_eq_getElem inside]
  simp [Nat.add_assoc]

theorem segmentStart_le (texts : List Text) (k : Nat) :
    segmentStart texts k ≤ segmentStart texts texts.length := by
  rw [segmentStart, segmentStart, take_length]
  conv_rhs => rw [← take_append_drop k texts, map_append, sum_append]
  exact Nat.le_add_right _ _

theorem drop_segmentStart {k : Nat} (inside : k ≤ finished.length) :
    (joinSegments finished current).drop (segmentStart (finished ++ [current]) k) =
      joinSegments (finished.drop k) current := by
  induction finished generalizing k with
  | nil =>
    obtain rfl : k = 0 := by simpa using inside
    rfl
  | cons segment finished ih =>
    cases k with
    | zero => rfl
    | succ k =>
      have start : segmentStart (segment :: finished ++ [current]) (k + 1) =
          segment.length + 1 + segmentStart (finished ++ [current]) k := by
        simp [segmentStart]
      rw [start, joinSegments_cons, Nat.add_assoc, drop_length_add_append, Nat.add_comm 1,
        drop_succ_cons, ih (by simpa using inside)]
      rfl

section Walk

variable {text : Text} {k : Nat}

theorem cstr_segmentStart (inside : k < (segments text).length) :
    cstr (text.drop (segmentStart (segments text) k)) = (segments text).getD k [] := by
  obtain ⟨finished, current, same, cut, finishedFree, currentFree⟩ := exists_joinSegments text
  rw [cut, length_append, length_singleton] at inside
  rw [cut, same, drop_segmentStart (by omega)]
  by_cases last : k = finished.length
  · rw [last, drop_length]
    rw [show joinSegments [] current = current from rfl, cstr_of_nulFree currentFree]
    simp
  · have before : k < finished.length := by omega
    rw [drop_eq_getElem_cons before, joinSegments_cons,
      cstr_append_nul (finishedFree _ (getElem_mem before))]
    simp [getElem?_append_left before, getElem?_eq_getElem before]

theorem nul_at_segmentEnd (more : k + 1 < (segments text).length) :
    text[segmentStart (segments text) k + ((segments text).getD k []).length]? = some 0 := by
  obtain ⟨finished, current, same, cut, finishedFree, currentFree⟩ := exists_joinSegments text
  rw [cut, length_append, length_singleton] at more
  have before : k < finished.length := by omega
  have segment : (finished ++ [current]).getD k [] = finished[k] := by
    simp [getElem?_append_left before, getElem?_eq_getElem before]
  rw [cut, segment, same, ← getElem?_drop, drop_segmentStart (by omega),
    drop_eq_getElem_cons before, joinSegments_cons, getElem?_append_right (le_refl _)]
  simp

theorem segmentStart_length :
    segmentStart (segments text) (segments text).length = text.length + 1 := by
  obtain ⟨finished, current, same, cut, -, -⟩ := exists_joinSegments text
  rw [cut, same, segmentStart, take_length, map_append, sum_append, joinSegments,
    length_append, length_flatMap]
  simp [Nat.add_assoc]

end Walk

theorem intercalate_split {α : Type} (x : α) (before : List (List α)) (part : List α) (after : List (List α)) :
    [x].intercalate (before ++ part :: after) =
      before.flatMap (· ++ [x]) ++ (part ++ after.flatMap (x :: ·)) := by
  induction before with
  | nil =>
    induction after generalizing part with
    | nil => simp
    | cons next after ih =>
      have tail := ih next
      rw [nil_append, flatMap_nil, nil_append] at tail ⊢
      rw [intercalate_cons_cons, tail, flatMap_cons, append_assoc]
      rfl
  | cons head before ih =>
    rw [cons_append, intercalate_cons_of_ne_nil (by simp), ih, flatMap_cons, append_assoc,
      append_assoc, append_assoc]

theorem joinSegments_eq_intercalate (finished : List Text) (current : Text) :
    joinSegments finished current = [0].intercalate (finished ++ [current]) := by
  induction finished with
  | nil => simp [joinSegments]
  | cons segment finished ih =>
    rw [joinSegments_cons, ih, cons_append, intercalate_cons_of_ne_nil (by simp), append_assoc]
    rfl

theorem joinSegments_split (parts : finished ++ [current] = before ++ segment :: after) :
    joinSegments finished current = joinSegments before [] ++ (segment ++ after.flatMap (0 :: ·)) := by
  rw [joinSegments_eq_intercalate, parts, intercalate_split, joinSegments, append_nil]

theorem length_joinSegments_nil (texts : List Text) :
    (joinSegments texts []).length = (texts.map fun text => text.length + 1).sum := by
  rw [joinSegments, append_nil, length_flatMap]
  simp

end MaOdbc
