/-
**The statements of a batch and the segments of its text.**

Segments of the refined text end at every semicolon, while an entry of the statement list is made only
when a statement's second token is met. `Entered` is the invariant that relates the two along the
scan: as long as no finished segment is blank, the entries point at the first tokens of the finished
segments, and at that of the open one from its second token on. There are never more entries than
segments.
-/

import MaOdbc.Library.Segments
import MaOdbc.Parse.Moves

namespace MaOdbc

open List

open Scan

/-! ### What a token's number in its statement asks for -/

namespace Scan

variable {s : Scan}

theorem saveToken_first (first : s.stmtTokensCount = 0) :
    s.saveToken = { s.countToken with curQuery := s.offset } := by
  rw [saveToken, enterToken, if_pos (by simp [countToken, first])]
  rfl

theorem saveToken_second (second : s.stmtTokensCount = 1) : s.saveToken = s.countToken.addSubQuery := by
  rw [saveToken, enterToken, if_neg (by simp [countToken, second]),
    if_pos (by simp [countToken, second])]

theorem saveToken_later (later : 2 ≤ s.stmtTokensCount) :
    s.saveToken = s.countToken ∨
      s.countToken.atSelectInto = true ∧ s.saveToken = s.countToken.changeToSelectInto := by
  have count : s.countToken.stmtTokensCount = s.stmtTokensCount + 1 := rfl
  rw [saveToken, enterToken, if_neg (by omega), if_neg (by omega)]
  split
  · rename_i into
    exact .inr ⟨into, rfl⟩
  · exact .inl rfl

def entries (s : Scan) : List Nat := s.subQuery.map SubQuery.queryText

theorem entries_saveToken_first (first : s.stmtTokensCount = 0) : s.saveToken.entries = s.entries := by
  rw [saveToken_first first]
  rfl

theorem entries_saveToken_second (second : s.stmtTokensCount = 1) :
    s.saveToken.entries = s.entries ++ [s.curQuery] := by
  rw [saveToken_second second, entries, entries]
  simp [addSubQuery, countToken]

theorem entries_saveToken_later (later : 2 ≤ s.stmtTokensCount) :
    s.saveToken.entries = s.entries := by
  rcases saveToken_later later with same | ⟨-, changed⟩
  · rw [same]
    rfl
  · rw [changed, entries, entries, changeToSelectInto]
    refine ext_getElem? fun i => ?_
    rw [getElem?_map, getElem?_map, getElem?_modify,
      show s.countToken.subQuery = s.subQuery from rfl]
    split
    · cases s.subQuery[i]? <;> rfl
    · cases s.subQuery[i]? <;> rfl

theorem curQuery_saveToken (later : s.stmtTokensCount ≠ 0) : s.saveToken.curQuery = s.curQuery := by
  rcases Nat.lt_or_ge s.stmtTokensCount 2 with second | many
  · rw [saveToken_second (by omega)]
    rfl
  · rcases saveToken_later many with same | ⟨-, changed⟩
    · rw [same]
      rfl
    · rw [changed]
      rfl

end Scan

/-! ### Bytes that scanning adds -/

variable {gaps : List Lexeme} {text rest bytes after : Text}

theorem isBlank_blankedOf (reads : Reads driverDash text gaps rest)
    (allGaps : ∀ gap ∈ gaps, gap.isGap) : isBlank (blankedOf gaps) = true := by
  induction reads with
  | nil => rfl
  | @cons text next rest lexeme more first later ih =>
    have tail := ih fun gap member => allGaps gap (mem_cons_of_mem _ member)
    have head := allGaps lexeme mem_cons_self
    rw [blankedOf, flatMap_cons, ← blankedOf, isBlank_append, tail, Bool.and_true]
    cases lexeme with
    | blank byte => simp [isBlank, Lexeme.blanked, Lexeme.bytes, isSpace_of_blank first]
    | comment bytes =>
      refine all_eq_true.mpr fun byte member => ?_
      rw [eq_of_mem_replicate member]
      decide
    | _ => cases head

/-- **Entries and segments.** -/
structure Entered (s : Scan) (finished : List Text) (current : Text) : Prop where
  done : s.done = joinSegments finished current
  finishedFree : ∀ segment ∈ finished, 0 ∉ segment
  currentFree : 0 ∉ current
  aheadFree : 0 ∉ s.rest
  bound : s.entries.length + (if 2 ≤ s.stmtTokensCount then 0 else 1) ≤ finished.length + 1
  entered : (∃ segment ∈ finished, isBlank segment = true) ∨
    s.entries.map some = segmentTokens 0 finished ++
      (if 2 ≤ s.stmtTokensCount then [some s.curQuery] else [])
  untouched : s.stmtTokensCount = 0 → isBlank current = true
  started : 0 < s.stmtTokensCount →
    s.curQuery = (joinSegments finished []).length + (current.takeWhile isSpace).length
  solid : 0 < s.stmtTokensCount → isBlank current = false ∨ s.rest = [] ∧ s.stmtTokensCount = 1
  procedural : s.queryType.isProcedural = true → 2 ≤ s.stmtTokensCount
  counted : s.readingToken = true → 0 < s.stmtTokensCount

theorem entered_start (nulFree : 0 ∉ text) : Entered { rest := text } [] [] where
  done := rfl
  finishedFree := fun _ member => absurd member not_mem_nil
  currentFree := not_mem_nil
  aheadFree := nulFree
  bound := le_rfl
  entered := .inr rfl
  untouched := fun _ => rfl
  started := fun zero => absurd zero (Nat.lt_irrefl 0)
  solid := fun zero => absurd zero (Nat.lt_irrefl 0)
  procedural := fun procedural => by cases procedural
  counted := fun reading => by cases reading

namespace Entered

variable {s s' : Scan} {finished : List Text} {current : Text}

section

variable (entered : Entered s finished current)

include entered

theorem saveToken_entered {t : Scan} (count : t.stmtTokensCount = s.stmtTokensCount)
    (entries : t.entries = s.entries) (curQuery : t.curQuery = s.curQuery) :
    t.saveToken.entries.length + (if 2 ≤ s.stmtTokensCount + 1 then 0 else 1) ≤
        finished.length + 1 ∧
      ((∃ segment ∈ finished, isBlank segment = true) ∨
        t.saveToken.entries.map some = segmentTokens 0 finished ++
          (if 2 ≤ s.stmtTokensCount + 1 then [some t.saveToken.curQuery] else [])) := by
  have bound := entered.bound
  rcases Nat.lt_trichotomy s.stmtTokensCount 1 with first | second | later
  · have zero : s.stmtTokensCount = 0 := by omega
    rw [entries_saveToken_first (count.trans zero), entries]
    rw [zero] at bound ⊢
    refine ⟨bound, entered.entered.imp_right fun same => ?_⟩
    rw [same, zero]
    rfl
  · rw [entries_saveToken_second (count.trans second), entries,
      curQuery_saveToken (by omega), curQuery]
    rw [second] at bound ⊢
    refine ⟨by simpa using bound, entered.entered.imp_right fun same => ?_⟩
    rw [map_append, same, second]
    simp
  · have many : 2 ≤ s.stmtTokensCount := later
    have more : 2 ≤ s.stmtTokensCount + 1 := by omega
    rw [entries_saveToken_later (count ▸ many), entries, curQuery_saveToken (by omega), curQuery,
      if_pos more, if_pos more]
    rw [if_pos many] at bound
    refine ⟨bound, entered.entered.imp_right fun same => ?_⟩
    rw [same, if_pos many]

theorem current_solid (more : s.rest ≠ []) (counted : 0 < s.stmtTokensCount) :
    isBlank current = false := by
  rcases entered.solid counted with solid | ⟨empty, -⟩
  · exact solid
  · exact absurd empty more

theorem continues (reading : s.readingToken = true) (rest : s.rest = bytes ++ after)
    (nonempty : bytes ≠ []) :
    Entered { s with done := s.done ++ bytes, rest := after } finished (current ++ bytes) := by
  have counted := entered.counted reading
  have more : s.rest ≠ [] := by
    rw [rest]
    exact append_ne_nil_of_left_ne_nil nonempty _
  have solid := entered.current_solid more counted
  have free := entered.aheadFree
  rw [rest, mem_append, not_or] at free
  exact {
    done := by rw [entered.done, joinSegments_append]
    finishedFree := entered.finishedFree
    currentFree := by
      exact not_mem_append entered.currentFree free.1
    aheadFree := free.2
    bound := entered.bound
    entered := entered.entered
    untouched := fun zero => absurd zero (Nat.pos_iff_ne_zero.mp counted)
    started := fun _ => by
      rw [takeWhile_append_of_not_isBlank solid]
      exact entered.started counted
    solid := fun _ => .inl (by rw [isBlank_append, solid, Bool.false_and])
    procedural := entered.procedural
    counted := entered.counted }

theorem saveToken_started (unfinished : s.rest ≠ []) (blank : isBlank (blankedOf gaps) = true)
    (head : bytes.takeWhile isSpace = []) :
    (s.pass gaps rest).saveToken.curQuery = (joinSegments finished []).length +
      ((current ++ blankedOf gaps ++ bytes).takeWhile isSpace).length := by
  by_cases first : s.stmtTokensCount = 0
  · have blanks : isBlank (current ++ blankedOf gaps) = true := by
      rw [isBlank_append, entered.untouched first, blank, Bool.true_and]
    rw [saveToken_first (s := s.pass gaps rest) first, takeWhile_append_of_pos (all_eq_true.mp blanks), head, append_nil]
    show (s.done ++ blankedOf gaps).length = _
    rw [entered.done, joinSegments_append, joinSegments, joinSegments, length_append, append_nil]
  · have counted := Nat.pos_iff_ne_zero.mpr first
    rw [curQuery_saveToken (s := s.pass gaps rest) first, append_assoc,
      takeWhile_append_of_not_isBlank (entered.current_solid unfinished counted)]
    exact entered.started counted

theorem saveToken_procedural
    (procedural : (s.pass gaps rest).saveToken.queryType.isProcedural = true) :
    2 ≤ s.stmtTokensCount + 1 := by
  by_cases first : s.stmtTokensCount = 0
  · rw [saveToken_first (s := s.pass gaps rest) first] at procedural
    have two := entered.procedural procedural
    omega
  · omega

theorem startToken (unfinished : s.rest ≠ []) (blank : isBlank (blankedOf gaps) = true)
    (head : ∃ byte more, bytes = byte :: more ∧ isSpace byte = false) (free : 0 ∉ bytes)
    (done : s'.done = s.done ++ blankedOf gaps ++ bytes) (ahead : 0 ∉ s'.rest)
    (count : s'.stmtTokensCount = s.stmtTokensCount + 1)
    (entries : s'.entries = (s.pass gaps rest).saveToken.entries)
    (curQuery : s'.curQuery = (s.pass gaps rest).saveToken.curQuery)
    (queryType : s'.queryType = (s.pass gaps rest).saveToken.queryType) :
    Entered s' finished (current ++ blankedOf gaps ++ bytes) := by
  obtain ⟨byte, more, rfl, solid⟩ := head
  have token : isBlank (current ++ blankedOf gaps ++ byte :: more) = false := by
    rw [isBlank_append, isBlank, isBlank, all_cons, solid, Bool.false_and, Bool.and_false]
  obtain ⟨bound, inStep⟩ :=
    entered.saveToken_entered (t := s.pass gaps rest) rfl rfl rfl
  rw [← entries, ← curQuery, ← count] at inStep
  rw [← entries, ← count] at bound
  exact {
    done := by rw [done, entered.done, joinSegments_append, joinSegments_append]
    finishedFree := entered.finishedFree
    currentFree := by
      rw [mem_append, mem_append, not_or, not_or]
      exact ⟨⟨entered.currentFree, nulFree_of_isBlank blank⟩, free⟩
    aheadFree := ahead
    bound := bound
    entered := inStep
    untouched := fun zero => by omega
    started := fun _ => by
      rw [curQuery]
      refine entered.saveToken_started unfinished blank ?_
      rw [takeWhile_cons_of_neg (by rw [solid]; decide)]
    solid := fun _ => .inl token
    procedural := fun procedural => by
      rw [count]
      exact entered.saveToken_procedural (queryType ▸ procedural)
    counted := fun _ => by omega }

theorem closeSegment (unfinished : s.rest ≠ []) (blank : isBlank (blankedOf gaps) = true)
    (ahead : 0 ∉ after) (possible : (s.pass gaps rest).saveToken.queryType.isProcedural = false) :
    Entered
      { (s.pass gaps rest).saveToken with
        done := (s.pass gaps rest).saveToken.done ++ [0]
        rest := after
        stmtTokensCount := 0
        readingToken := false }
      (finished ++ [current ++ blankedOf gaps]) [] := by
  obtain ⟨bound, inStep⟩ := entered.saveToken_entered (t := s.pass gaps rest) rfl rfl rfl
  exact {
    done := by
      show (s.pass gaps rest).saveToken.done ++ [0] = _
      rw [saveToken_done, ← joinSegments_close, ← joinSegments_append, ← entered.done]
      rfl
    finishedFree := by
      intro segment member
      rcases mem_append.mp member with earlier | last
      · exact entered.finishedFree segment earlier
      · rw [mem_singleton.mp last, mem_append, not_or]
        exact ⟨entered.currentFree, nulFree_of_isBlank blank⟩
    currentFree := not_mem_nil
    aheadFree := ahead
    bound := by
      show (s.pass gaps rest).saveToken.entries.length + 1 ≤ _
      rw [length_append, length_singleton]
      omega
    entered := by
      show _ ∨ (s.pass gaps rest).saveToken.entries.map some = _ ++ []
      by_cases first : s.stmtTokensCount = 0
      · refine .inl ⟨current ++ blankedOf gaps, by simp, ?_⟩
        rw [isBlank_append, entered.untouched first, blank, Bool.true_and]
      · have solid := entered.current_solid unfinished (Nat.pos_iff_ne_zero.mpr first)
        refine inStep.imp ?_ ?_
        · rintro ⟨segment, member, isBlank⟩
          exact ⟨segment, mem_append_left _ member, isBlank⟩
        · intro same
          rw [same, if_pos (by omega), curQuery_saveToken (s := s.pass gaps rest) first,
            segmentTokens_append, append_nil, Nat.zero_add]
          show _ ++ [some s.curQuery] = _
          rw [entered.started (Nat.pos_iff_ne_zero.mpr first), segmentTokens, isBlank_append, solid,
            takeWhile_append_of_not_isBlank solid]
          rfl
    untouched := fun _ => rfl
    started := fun zero => absurd zero (Nat.lt_irrefl 0)
    solid := fun zero => absurd zero (Nat.lt_irrefl 0)
    procedural := fun procedural => by
      rw [show _ = true from procedural] at possible
      cases possible
    counted := fun reading => by cases reading }

theorem atEnd (unfinished : s.rest ≠ []) (blank : isBlank (blankedOf gaps) = true) :
    Entered (s.pass gaps []).saveToken finished (current ++ blankedOf gaps) := by
  obtain ⟨bound, inStep⟩ := entered.saveToken_entered (t := s.pass gaps []) rfl rfl rfl
  have count : (s.pass gaps []).saveToken.stmtTokensCount = s.stmtTokensCount + 1 :=
    saveToken_stmtTokensCount _
  rw [← count] at bound inStep
  exact {
    done := by
      rw [saveToken_done, ← joinSegments_append, ← entered.done]
      rfl
    finishedFree := entered.finishedFree
    currentFree := by
      exact not_mem_append entered.currentFree (nulFree_of_isBlank blank)
    aheadFree := by
      rw [saveToken_rest]
      exact not_mem_nil
    bound := bound
    entered := inStep
    untouched := fun zero => by omega
    started := fun _ => by
      rw [← append_nil (current ++ blankedOf gaps)]
      exact entered.saveToken_started unfinished blank rfl
    solid := fun _ => by
      by_cases first : s.stmtTokensCount = 0
      · exact .inr ⟨saveToken_rest _, by omega⟩
      · have solid := entered.current_solid unfinished (Nat.pos_iff_ne_zero.mpr first)
        exact .inl (by rw [isBlank_append, solid, Bool.false_and])
    procedural := fun procedural => by
      rw [count]
      exact entered.saveToken_procedural procedural
    counted := fun _ => by omega }

/-- **Every round keeps entries and segments in step.** -/
theorem step {replace : Bool} (unfinished : s.rest ≠ []) (moves : Moves replace true s s') :
    ∃ finished' current', Entered s' finished' current' := by
  cases moves with
  | breaks reading rest ends =>
    exact ⟨finished, current, { entered with counted := fun going => by cases going }⟩
  | continues reading first plain =>
    exact ⟨_, _, entered.continues reading (firstLexeme_bytes first)
      (firstLexeme_bytes_ne_nil first)⟩
  | atEnd idle reads allGaps =>
    exact ⟨_, _, entered.atEnd unfinished (isBlank_blankedOf reads allGaps)⟩
  | @call gaps word text idle reads allGaps requested fresh isCall =>
    have free := entered.aheadFree
    rw [reads.bytes, mem_append, mem_append, not_or, not_or] at free
    have done : ((s.pass gaps (lit "ECHO" ++ text)).saveToken.advance 1).done =
        s.done ++ blankedOf gaps ++ lit "E" := by
      rw [advance, saveToken_done, saveToken_rest]
      rfl
    have ahead : 0 ∉ ((s.pass gaps (lit "ECHO" ++ text)).saveToken.advance 1).rest := by
      rw [advance, saveToken_rest]
      show 0 ∉ lit "CHO" ++ text
      exact not_mem_append (by decide) free.2.2
    exact ⟨_, _, entered.startToken unfinished (isBlank_blankedOf reads allGaps)
      ⟨ch 'E', [], rfl, by decide⟩ (by decide) done ahead (saveToken_stmtTokensCount _) rfl rfl rfl⟩
  | @token gaps rest text lexeme idle reads allGaps first solid =>
    have blank := isBlank_blankedOf reads allGaps
    have head := exists_head_of_solid first solid
    have free := entered.aheadFree
    rw [reads.bytes, firstLexeme_bytes first, mem_append, mem_append, not_or, not_or] at free
    have plain {s' : Scan}
        (done : s'.done = (s.pass gaps rest).saveToken.done ++ lexeme.bytes)
        (ahead : s'.rest = text) (count : s'.stmtTokensCount = s.stmtTokensCount + 1)
        (same : s'.entries = (s.pass gaps rest).saveToken.entries ∧
          s'.curQuery = (s.pass gaps rest).saveToken.curQuery ∧
          s'.queryType = (s.pass gaps rest).saveToken.queryType) :
        ∃ finished' current', Entered s' finished' current' := by
      rw [saveToken_done] at done
      exact ⟨_, _, entered.startToken unfinished blank head free.2.1 done (ahead ▸ free.2.2) count
        same.1 same.2.1 same.2.2⟩
    cases lexeme with
    | blank | comment => cases solid
    | quoted | other | mark => exact plain rfl rfl (saveToken_stmtTokensCount _) ⟨rfl, rfl, rfl⟩
    | unclosed quote body =>
      obtain ⟨byte, more, shape, notBlank⟩ := head
      have bytes : 0 ∉ quote :: body := free.2.1
      obtain ⟨rfl, rfl⟩ := List.cons.inj shape
      rw [mem_cons, not_or] at bytes
      have done : ((s.pass gaps rest).saveToken.passLexeme true (.unclosed quote body) text).done =
          s.done ++ blankedOf gaps ++ quote :: body.take 1 := by
        rw [passLexeme, saveToken_done]
        rfl
      refine ⟨_, _, entered.startToken unfinished blank ⟨quote, _, rfl, notBlank⟩ ?_ done ?_
        (saveToken_stmtTokensCount _) rfl rfl rfl⟩
      · rw [mem_cons, not_or]
        exact ⟨bytes.1, fun member => bytes.2 (mem_of_mem_take member)⟩
      · exact fun member => bytes.2 (mem_of_mem_drop member)
    | semi =>
      rw [passLexeme_semi]
      cases possible : (s.pass gaps rest).saveToken.queryType.isProcedural with
      | true =>
        refine plain ?_ rfl ?_ ⟨rfl, rfl, rfl⟩
        · rw [semicolonByte, possible]
          rfl
        · exact saveToken_stmtTokensCount _
      | false =>
        have closed := entered.closeSegment unfinished blank free.2.2 possible
        rw [semicolonByte, possible]
        exact ⟨_, _, closed⟩

end

end Entered

/-! ### The whole scan -/

/-- **Segments and statements correspond**: the entries point, one by one and in order, at the first
tokens of the segments, and no segment is empty. -/
def Corresponds (refinedText : Text) (entries : List Nat) : Prop :=
  entries.map some = segmentTokens 0 (segments refinedText) ∧
    ∀ segment ∈ segments refinedText, segment ≠ []

theorem run_entered (replace : Bool) (nulFree : 0 ∉ text) :
    ∃ finished current, Entered (Scan.run replace true { rest := text }) finished current := by
  have kept : ∀ s s' : Scan, (∃ finished current, Entered s finished current) → s.rest ≠ [] →
      Moves replace true s s' → ∃ finished current, Entered s' finished current := by
    rintro s s' ⟨finished, current, entered⟩ unfinished moves
    exact entered.step unfinished moves
  exact (run_invariant kept ⟨[], [], entered_start nulFree⟩ rfl).1

/-- Where no segment is blank, the entries are the first tokens of the finished ones, and of the open one from its
second token on. -/
theorem Entered.entries_eq {s : Scan} {finished : List Text} {current : Text} (entered : Entered s finished current)
    (solid : ∀ segment ∈ finished ++ [current], isBlank segment = false) :
    s.entries.map some = segmentTokens 0 (if 2 ≤ s.stmtTokensCount then finished ++ [current] else finished) := by
  have current_solid := solid current (by simp)
  rcases entered.entered with ⟨segment, member, blank⟩ | same
  · rw [solid segment (mem_append_left _ member)] at blank
    cases blank
  · rw [same]
    by_cases two : 2 ≤ s.stmtTokensCount
    · rw [if_pos two, if_pos two, segmentTokens_append, segmentTokens, current_solid, Nat.zero_add,
        entered.started (by omega)]
      rfl
    · rw [if_neg two, if_neg two, append_nil]

theorem Entered.corresponds_iff {s : Scan} {finished : List Text} {current : Text}
    (entered : Entered s finished current) :
    Corresponds s.done s.entries ↔
      (∀ segment ∈ segments s.done, isBlank segment = false) ∧ 2 ≤ s.stmtTokensCount := by
  have shape : segments s.done = finished ++ [current] := by
    rw [entered.done, segments_joinSegments entered.finishedFree entered.currentFree]
  constructor
  · rintro ⟨same, -⟩
    constructor
    · intro segment member
      by_contra blank
      have none_mem := none_mem_segmentTokens 0 member (by simpa using blank)
      rw [← same] at none_mem
      simp at none_mem
    · by_contra few
      have bound := entered.bound
      have lengths := congrArg length same
      rw [length_map, length_segmentTokens, shape, length_append, length_singleton] at lengths
      rw [if_neg few] at bound
      omega
  · rintro ⟨solid, two⟩
    refine ⟨?_, ?_⟩
    · rw [shape] at solid ⊢
      rw [entered.entries_eq solid, if_pos two]
    · rintro segment member rfl
      cases solid [] member

end MaOdbc
