/-
**The scanner follows the lexemes of its text.**

`Refined replace cut fresh lexemes text`: `text` is the row of lexemes with its comments blanked, with every semicolon
turned into a byte that `cut` allows, and with a `CALL` that starts a statement turned into `ECHO` if `replace` asks for
it. `fresh` says that no token of the current statement has been seen.

`Aligned` is the invariant of the scan: what the pointer has passed is a row of lexemes, `done` is its
refined text, and the parameter marks recorded so far are the marks of that row. After a
`CALL` was replaced the pointer still stands inside the new word; `word` is what is left of it. A quote
that does not close ends the agreement (`Astray`): the scanner goes on inside what the lexer reads as
one region, but what it has passed before stays passed.

* `Aligned.step`: every round keeps the invariant. `run_aligned`: the whole scan.
* `madbParseQuery_placeholders`: the scanner recognises strings, identifiers and comments only where a token starts, yet
  it finds the marks a plain lexer finds, as long as every quote of the text closes.
-/

import MaOdbc.Parse.Moves

namespace MaOdbc

open List

/-- **The refined text of a row of lexemes.** -/
inductive Refined (replace : Bool) (cut : Byte → Prop) : Bool → List Lexeme → Text → Prop
  | nil {fresh : Bool} : Refined replace cut fresh [] []
  /-- Blanks stay and comments are blanked. -/
  | gap {fresh : Bool} {lexeme : Lexeme} {more : List Lexeme} {text : Text} :
      lexeme.isGap = true → Refined replace cut fresh more text →
      Refined replace cut fresh (lexeme :: more) (lexeme.blanked ++ text)
  /-- A semicolon stays or is cut, and a new statement starts. -/
  | semi {fresh : Bool} {byte : Byte} {more : List Lexeme} {text : Text} :
      cut byte → Refined replace cut true more text →
      Refined replace cut fresh (.semi :: more) (byte :: text)
  /-- Every other lexeme stays. -/
  | solid {fresh : Bool} {lexeme : Lexeme} {more : List Lexeme} {text : Text} :
      lexeme.isGap = false → lexeme ≠ .semi → Refined replace cut false more text →
      Refined replace cut fresh (lexeme :: more) (lexeme.bytes ++ text)
  /-- The word `CALL` at the start of a statement is replaced. -/
  | call {word : Text} {more : List Lexeme} {text : Text} :
      replace = true → word.map lower = lit "call" → Refined replace cut false more text →
      Refined replace cut true (word.map .other ++ more) (lit "ECHO" ++ text)

/-- Whether a statement is still without a token after a row of lexemes. -/
def freshAfter (fresh : Bool) : List Lexeme → Bool
  | [] => fresh
  | .semi :: more => freshAfter true more
  | lexeme :: more => freshAfter (fresh && lexeme.isGap) more

theorem freshAfter_append (fresh : Bool) (first second : List Lexeme) :
    freshAfter fresh (first ++ second) = freshAfter (freshAfter fresh first) second := by
  induction first generalizing fresh with
  | nil => rfl
  | cons lexeme more ih => cases lexeme <;> exact ih _

theorem freshAfter_gap (fresh : Bool) {lexeme : Lexeme} (isGap : lexeme.isGap = true)
    (more : List Lexeme) : freshAfter fresh (lexeme :: more) = freshAfter fresh more := by
  cases lexeme with
  | blank | comment => simp [freshAfter, Lexeme.isGap]
  | _ => cases isGap

theorem freshAfter_gaps (fresh : Bool) {gaps : List Lexeme} (allGaps : ∀ gap ∈ gaps, gap.isGap) :
    freshAfter fresh gaps = fresh := by
  induction gaps with
  | nil => rfl
  | cons gap gaps ih =>
    rw [freshAfter_gap fresh (allGaps gap mem_cons_self)]
    exact ih fun gap member => allGaps gap (mem_cons_of_mem _ member)

theorem freshAfter_solid (fresh : Bool) {lexeme : Lexeme} (solid : lexeme.isGap = false)
    (notSemi : lexeme ≠ .semi) (more : List Lexeme) :
    freshAfter fresh (lexeme :: more) = freshAfter false more := by
  cases lexeme with
  | semi => exact absurd rfl notSemi
  | blank | comment => cases solid
  | _ => simp [freshAfter, Lexeme.isGap]

theorem freshAfter_word {word : Text} (nonempty : word.length ≠ 0) (fresh : Bool) :
    freshAfter fresh (word.map .other) = false := by
  cases word with
  | nil => exact absurd rfl nonempty
  | cons byte word =>
    rw [map_cons, freshAfter_solid fresh rfl (by simp)]
    induction word with
    | nil => rfl
    | cons byte word ih => exact ih (by simp)

namespace Refined

variable {replace : Bool} {cut : Byte → Prop} {fresh : Bool} {first second : List Lexeme}
  {text text' : Text}

theorem append (before : Refined replace cut fresh first text)
    (after : Refined replace cut (freshAfter fresh first) second text') :
    Refined replace cut fresh (first ++ second) (text ++ text') := by
  induction before with
  | nil => exact after
  | @gap fresh lexeme more text isGap _ ih =>
    rw [cons_append, append_assoc]
    rw [freshAfter_gap fresh isGap] at after
    exact .gap isGap (ih after)
  | semi allowed _ ih => exact .semi allowed (ih after)
  | solid isSolid notSemi _ ih =>
    rw [cons_append, append_assoc]
    rw [freshAfter_solid _ isSolid notSemi] at after
    exact .solid isSolid notSemi (ih after)
  | @call word more text requested isCall _ ih =>
    rw [append_assoc, append_assoc]
    refine .call requested isCall (ih ?_)
    rwa [freshAfter_append, freshAfter_word (length_of_call isCall ▸ Nat.succ_ne_zero 3)] at after

theorem length_eq (refined : Refined replace cut fresh first text) :
    text.length = (bytesOf first).length := by
  induction refined with
  | nil => rfl
  | gap isGap _ ih => rw [bytesOf_cons, length_append, length_append, ih,
      Lexeme.length_blanked]
  | semi allowed _ ih =>
    rw [bytesOf_cons, length_append, length_cons, ih, Nat.add_comm]
    rfl
  | solid isSolid notSemi _ ih => rw [bytesOf_cons, length_append, length_append, ih]
  | @call word more text requested isCall _ ih =>
    rw [bytesOf_append, bytesOf_word, length_append, length_append, ih, length_of_call isCall]
    rfl

theorem of_gaps {gaps : List Lexeme} (allGaps : ∀ gap ∈ gaps, gap.isGap) :
    Refined replace cut fresh gaps (blankedOf gaps) := by
  induction gaps with
  | nil => exact .nil
  | cons gap gaps ih =>
    exact .gap (allGaps gap mem_cons_self)
      (ih fun gap member => allGaps gap (mem_cons_of_mem _ member))

end Refined

open Scan

/-! ### The invariant -/

/-- **The invariant of the scan**, over the lexemes read so far. -/
structure Aligned (replace : Bool) (cut : Byte → Prop) (text : Text) (s : Scan)
    (read : List Lexeme) (word rest : Text) : Prop where
  ahead : s.rest = word ++ rest
  letters : ∀ byte ∈ word, breaksToken byte = false
  pending : word ≠ [] → s.readingToken = true
  reads : Reads driverDash text read rest
  refined : Refined replace cut true read (s.done ++ word)
  fresh : s.stmtTokensCount = 0 → freshAfter true read = true
  counted : s.readingToken = true → s.stmtTokensCount ≠ 0
  marks : s.paramPositions = markOffsets 0 read

/-- The scan has met a quote that does not close; `read` is what it passed before. -/
structure Astray (replace : Bool) (cut : Byte → Prop) (text : Text) (s : Scan)
    (read : List Lexeme) (rest : Text) : Prop where
  reads : Reads driverDash text read rest
  unclosed : ∃ quote body, firstLexeme driverDash rest = some (.unclosed quote body, [])
  refined : ∃ passed, Refined replace cut true read passed ∧ passed <+: s.done

section Step

variable {replace batchAllowed : Bool} {cut : Byte → Prop} {text : Text} {s s' : Scan}
  {read : List Lexeme} {word rest : Text}

theorem Scan.Moves.done_prefix (moves : Moves replace batchAllowed s s') : s.done <+: s'.done := by
  obtain ⟨added, done, -⟩ := moves.passed
  rw [done]
  exact prefix_append _ _

theorem Astray.step (astray : Astray replace cut text s read rest)
    (moves : Moves replace batchAllowed s s') : Astray replace cut text s' read rest where
  reads := astray.reads
  unclosed := astray.unclosed
  refined := by
    obtain ⟨passed, refined, before⟩ := astray.refined
    exact ⟨passed, refined, before.trans moves.done_prefix⟩

namespace Aligned

variable {after : Text} {lexeme : Lexeme}

theorem between (ahead : s.rest = rest) (reads : Reads driverDash text read rest)
    (refined : Refined replace cut true read s.done)
    (fresh : s.stmtTokensCount = 0 → freshAfter true read = true)
    (counted : s.readingToken = true → s.stmtTokensCount ≠ 0)
    (marks : s.paramPositions = markOffsets 0 read) : Aligned replace cut text s read [] rest :=
  ⟨ahead, fun _ member => absurd member not_mem_nil, fun nonempty => absurd rfl nonempty, reads,
    (append_nil s.done).symm ▸ refined, fresh, counted, marks⟩

theorem passed (aligned : Aligned replace cut text s read [] rest) : Refined replace cut true read s.done := by
  simpa using aligned.refined

theorem continues_word {byte : Byte} {more : Text}
    (aligned : Aligned replace cut text s read (byte :: more) rest)
    (first : firstLexeme driverDash s.rest = some (lexeme, after)) :
    Aligned replace cut text { s with done := s.done ++ lexeme.bytes, rest := after } read more
      rest := by
  have plain := aligned.letters byte mem_cons_self
  obtain ⟨letter, read', bytes, -⟩ := firstLexeme_of_not_breaksToken plain (more ++ rest)
  rw [aligned.ahead, cons_append, read'] at first
  cases first
  exact {
    ahead := rfl
    letters := fun byte member => aligned.letters byte (mem_cons_of_mem _ member)
    pending := fun _ => aligned.pending (cons_ne_nil _ _)
    reads := aligned.reads
    refined := by
      rw [bytes, append_assoc]
      exact aligned.refined
    fresh := aligned.fresh
    counted := aligned.counted
    marks := aligned.marks }

theorem continues_lexeme (aligned : Aligned replace cut text s read [] rest)
    (reading : s.readingToken = true) (first : firstLexeme driverDash s.rest = some (lexeme, after))
    (plain : lexeme.continues = true) :
    Aligned replace cut text { s with done := s.done ++ lexeme.bytes, rest := after }
      (read ++ [lexeme]) [] after := by
  have first' : firstLexeme driverDash rest = some (lexeme, after) := by
    rw [← first, aligned.ahead]
    rfl
  have notMark : lexeme ≠ .mark := by
    rintro rfl
    cases plain
  have some_token := aligned.counted reading
  refine between rfl (aligned.reads.append (.cons first' .nil)) (aligned.passed.append ?_)
    (fun zero => absurd zero some_token) aligned.counted ?_
  · rw [← append_nil lexeme.bytes]
    cases lexeme with
    | blank byte => exact .gap rfl .nil
    | other byte => exact .solid rfl (by simp) .nil
    | _ => cases plain
  · rw [markOffsets_append, markOffsets_singleton _ notMark, append_nil]
    exact aligned.marks

theorem word_eq_nil (aligned : Aligned replace cut text s read word rest)
    (idle : s.readingToken = false) : word = [] := by
  by_contra nonempty
  rw [aligned.pending nonempty] at idle
  cases idle

theorem pass {gaps : List Lexeme} (aligned : Aligned replace cut text s read [] rest)
    (idle : s.readingToken = false) (reads : Reads driverDash s.rest gaps after)
    (allGaps : ∀ gap ∈ gaps, gap.isGap) :
    Aligned replace cut text (s.pass gaps after) (read ++ gaps) [] after := by
  rw [aligned.ahead, nil_append] at reads
  refine between rfl (aligned.reads.append reads) (aligned.passed.append (.of_gaps allGaps)) (fun zero => ?_)
    (fun reading => ?_) ?_
  · rw [freshAfter_append, freshAfter_gaps _ allGaps]
    exact aligned.fresh zero
  · rw [show (s.pass gaps after).readingToken = s.readingToken from rfl, idle] at reading
    cases reading
  · have none : Lexeme.mark ∉ gaps := fun member => by cases allGaps _ member
    rw [markOffsets_append, markOffsets_eq_nil _ none, append_nil]
    exact aligned.marks

theorem saveToken (aligned : Aligned replace cut text s read word rest) :
    Aligned replace cut text s.saveToken read word rest where
  ahead := by rw [saveToken_rest, aligned.ahead]
  letters := aligned.letters
  pending := fun _ => saveToken_readingToken s
  reads := aligned.reads
  refined := by
    rw [saveToken_done]
    exact aligned.refined
  fresh := by simp
  counted := by simp
  marks := by rw [saveToken_paramPositions, aligned.marks]

theorem passLexeme (aligned : Aligned replace cut text s read [] rest)
    (reading : s.readingToken = true) (first : firstLexeme driverDash rest = some (lexeme, after))
    (solid : lexeme.isGap = false) (closed : ∀ quote body, lexeme ≠ .unclosed quote body)
    (allowed : cut (s.semicolonByte batchAllowed)) :
    Aligned replace cut text (s.passLexeme batchAllowed lexeme after) (read ++ [lexeme]) []
      after := by
  have some_token := aligned.counted reading
  have offset : s.offset = (bytesOf read).length := aligned.passed.length_eq
  have ahead : (s.passLexeme batchAllowed lexeme after).rest = after := by
    cases lexeme with
    | unclosed quote body => exact absurd rfl (closed quote body)
    | semi => rw [passLexeme_semi]
    | _ => rfl
  refine between ahead (aligned.reads.append (.cons first .nil)) ?_ ?_ ?_ ?_
  · rw [passLexeme_done]
    refine aligned.passed.append ?_
    rw [← append_nil (passedBytes _ _ _)]
    cases lexeme with
    | blank | comment => cases solid
    | unclosed quote body => exact absurd rfl (closed quote body)
    | semi => exact .semi allowed .nil
    | quoted | other | mark => exact .solid rfl (by simp) .nil
  · cases lexeme with
    | semi => exact fun _ => by rw [freshAfter_append]; rfl
    | _ => exact fun zero => absurd zero some_token
  · cases lexeme with
    | mark | unclosed => exact fun going => by cases going
    | semi =>
      rw [passLexeme_semi]
      exact fun going => by cases going
    | _ => exact aligned.counted
  · rw [passLexeme_paramPositions, aligned.marks, offset, markOffsets_append, Nat.zero_add]
    split
    · rename_i mark
      rw [mark]
      rfl
    · rename_i notMark
      rw [markOffsets_singleton _ notMark]

theorem passCall {called : Text} (aligned : Aligned replace cut text s read [] (called ++ after))
    (requested : replace = true) (fresh : s.stmtTokensCount = 0)
    (isCall : called.map lower = lit "call") (ahead : s'.rest = lit "CHO" ++ after)
    (done : s'.done = s.done ++ lit "E") (reading : s'.readingToken = true)
    (counted : s'.stmtTokensCount ≠ 0) (marks : s'.paramPositions = s.paramPositions) :
    Aligned replace cut text s' (read ++ called.map .other) (lit "CHO") after := by
  have replaced : Refined replace cut true (called.map .other) (lit "ECHO") := by
    have one : Refined replace cut true (called.map .other ++ []) (lit "ECHO" ++ []) :=
      .call requested isCall .nil
    simpa using one
  exact {
    ahead := ahead
    letters := by decide
    pending := fun _ => reading
    reads := aligned.reads.append (reads_word driverDash (isAlpha_of_call isCall) after)
    refined := by
      rw [done, append_assoc]
      exact aligned.passed.append ((aligned.fresh fresh).symm ▸ replaced)
    fresh := fun zero => absurd zero counted
    counted := fun _ => counted
    marks := by
      have none : Lexeme.mark ∉ called.map Lexeme.other := by simp
      rw [markOffsets_append, markOffsets_eq_nil _ none, append_nil, marks, aligned.marks] }

/-- **Every round keeps the invariant**, or meets a quote that does not close. -/
theorem step (aligned : Aligned replace cut text s read word rest)
    (moves : Moves replace batchAllowed s s')
    (allowed : ∀ gaps after,
      cut ((s.pass gaps after).saveToken.semicolonByte batchAllowed)) :
    (∃ read' word' rest', Aligned replace cut text s' read' word' rest') ∨
      ∃ read' rest', Astray replace cut text s' read' rest' := by
  cases moves with
  | @breaks byte tail reading shape ends =>
    have none : word = [] := by
      cases word with
      | nil => rfl
      | cons letter more =>
        have same : letter = byte := by
          have heads := aligned.ahead.symm.trans shape
          exact (List.cons.inj heads).1
        rw [← same, aligned.letters letter mem_cons_self] at ends
        cases ends
    subst none
    exact .inl ⟨read, [], rest, between aligned.ahead aligned.reads aligned.passed aligned.fresh
      (fun going => by cases going) aligned.marks⟩
  | continues reading first plain =>
    cases word with
    | nil => exact .inl ⟨_, _, _, aligned.continues_lexeme reading first plain⟩
    | cons letter more => exact .inl ⟨_, _, _, aligned.continues_word first⟩
  | atEnd idle reads allGaps =>
    obtain rfl := aligned.word_eq_nil idle
    exact .inl ⟨_, _, _, (aligned.pass idle reads allGaps).saveToken⟩
  | @call gaps called tail idle reads allGaps requested fresh isCall =>
    obtain rfl := aligned.word_eq_nil idle
    have passed := aligned.pass idle reads allGaps
    refine .inl ⟨_, _, _, passed.passCall requested fresh isCall ?_ ?_ ?_ ?_ ?_⟩
    · rw [advance, saveToken_rest]
      rfl
    · rw [advance, saveToken_done, saveToken_rest]
      rfl
    · exact saveToken_readingToken _
    · rw [advance, saveToken_stmtTokensCount]
      exact Nat.succ_ne_zero _
    · exact saveToken_paramPositions _
  | @token gaps after tail lexeme idle reads allGaps first solid =>
    obtain rfl := aligned.word_eq_nil idle
    have saved := (aligned.pass idle reads allGaps).saveToken
    by_cases closed : ∃ quote body, lexeme = .unclosed quote body
    · obtain ⟨quote, body, rfl⟩ := closed
      obtain rfl := rest_eq_nil_of_unclosed first
      refine .inr ⟨_, _, saved.reads, ⟨quote, body, first⟩, _, saved.refined, ?_⟩
      rw [append_nil]
      exact prefix_append _ _
    · refine .inl ⟨_, _, _, saved.passLexeme (saveToken_readingToken _) first solid ?_ (allowed _ _)⟩
      exact fun quote body same => closed ⟨quote, body, same⟩

end Aligned

end Step

/-! ### The whole scan -/

/-- The bytes a semicolon may become. -/
def CutSemicolon (batchAllowed : Bool) (byte : Byte) : Prop :=
  byte = ch ';' ∨ batchAllowed = true ∧ byte = 0

theorem cutSemicolon_semicolonByte (s : Scan) (batchAllowed : Bool) :
    CutSemicolon batchAllowed (s.semicolonByte batchAllowed) := by
  rw [semicolonByte]
  split
  · rename_i cut
    exact .inr ⟨(Bool.and_eq_true _ _ ▸ cut).2, rfl⟩
  · exact .inl rfl

/-- The scan follows the lexemes of its text, up to an unclosed quote. -/
def Follows (replace batchAllowed : Bool) (text : Text) (s : Scan) : Prop :=
  (∃ read word rest, Aligned replace (CutSemicolon batchAllowed) text s read word rest) ∨
    ∃ read rest, Astray replace (CutSemicolon batchAllowed) text s read rest

theorem Follows.step {replace batchAllowed : Bool} {text : Text} {s s' : Scan}
    (follows : Follows replace batchAllowed text s) (moves : Moves replace batchAllowed s s') :
    Follows replace batchAllowed text s' := by
  rcases follows with ⟨read, word, rest, aligned⟩ | ⟨read, rest, astray⟩
  · exact aligned.step moves fun _ _ => cutSemicolon_semicolonByte _ _
  · exact .inr ⟨read, rest, astray.step moves⟩

theorem Aligned.at_end {replace : Bool} {cut : Byte → Prop} {text word rest : Text} {s : Scan}
    {read : List Lexeme} (aligned : Aligned replace cut text s read word rest)
    (finished : s.rest = []) :
    Aligned replace cut text s (lexemes driverDash text) [] [] := by
  rw [aligned.ahead] at finished
  obtain ⟨rfl, rfl⟩ := append_eq_nil_iff.mp finished
  have all : lexemes driverDash text = read ++ [] := aligned.reads.lexemes_eq
  rw [all, append_nil]
  exact aligned

/-- **The whole scan** ends aligned with the lexemes of its text, or astray after an unclosed
quote. -/
theorem run_aligned (replace batchAllowed : Bool) (text : Text) :
    Aligned replace (CutSemicolon batchAllowed) text (Scan.run replace batchAllowed { rest := text })
        (lexemes driverDash text) [] [] ∨
      ∃ read rest, Astray replace (CutSemicolon batchAllowed) text
        (Scan.run replace batchAllowed { rest := text }) read rest := by
  have start : Follows replace batchAllowed text { rest := text } :=
    .inl ⟨[], [], text, .between rfl .nil .nil (fun _ => rfl) (fun reading => by cases reading) rfl⟩
  obtain ⟨ended, finished⟩ :=
    run_invariant (fun s s' follows _ moves => Follows.step follows moves) start rfl
  rcases ended with ⟨read, word, rest, aligned⟩ | astray
  · exact .inl (aligned.at_end finished)
  · exact .inr astray

/-! ### The marks and the refined text -/

/-- Parsing a fresh query of a given text. -/
def QueryText.parse (text : QueryText) (replace batchAllowed : Bool) : Query :=
  madbParseQuery { refinedText := text.bytes, batchAllowed := batchAllowed } replace

/-- The text `MADB_ParseQuery` hands to `ParseQuery`. -/
def QueryText.handed (text : QueryText) : Text := (handedText text.bytes).2

def QueryText.scan (text : QueryText) (replace batchAllowed : Bool) : Scan :=
  Scan.run replace batchAllowed { rest := text.handed }

theorem QueryText.parse_subQuery (text : QueryText) (replace batchAllowed : Bool) :
    (text.parse replace batchAllowed).subQuery = (text.scan replace batchAllowed).subQuery := rfl

theorem QueryText.parse_refinedText (text : QueryText) (replace batchAllowed : Bool) :
    (text.parse replace batchAllowed).refinedText = (text.scan replace batchAllowed).done := by
  have finished : (text.scan replace batchAllowed).rest = [] := Scan.run_rest _ _ rfl
  show (text.scan replace batchAllowed).buffer = _
  rw [Scan.buffer, finished, List.append_nil]

theorem QueryText.handed_atToken (text : QueryText) : AtToken driverDash text.handed := by
  rw [QueryText.handed, handedText]
  dsimp only
  split
  · simp [AtToken, firstLexeme]
  · obtain ⟨gaps, -, -, token, -⟩ := skipLoop_reads false (Nat.lt_succ_self
      (fixIsoFormat (ltrim (sqlRtrim text.bytes)) (sqlRtrim text.bytes).length).1.length)
    exact token

/-- **Marks and refined text.** In a text whose quotes all close, the recorded positions are the
offsets of the parameter marks outside strings, identifiers and comments, in rising order, and the
refined text is the handed text with its comments blanked, its semicolons cut if batches are allowed,
and `CALL` replaced at the start of a statement on request. A line comment runs through its
newline. -/
theorem madbParseQuery_placeholders (text : QueryText) (replace batchAllowed : Bool)
    (closed : ∀ lexeme ∈ lexemes driverDash text.handed, lexeme.isUnclosed = false) :
    (text.parse replace batchAllowed).paramPositions =
        markOffsets 0 (lexemes driverDash text.handed) ∧
      (text.parse replace batchAllowed).paramPositions.Pairwise (· < ·) ∧
      Refined replace (CutSemicolon batchAllowed) true (lexemes driverDash text.handed)
        (text.parse replace batchAllowed).refinedText := by
  rcases run_aligned replace batchAllowed text.handed with aligned | ⟨read, rest, astray⟩
  · have positions : (text.parse replace batchAllowed).paramPositions =
        markOffsets 0 (lexemes driverDash text.handed) := aligned.marks
    refine ⟨positions, positions ▸ markOffsets_sorted 0 _, ?_⟩
    have refined := aligned.refined
    rw [List.append_nil] at refined
    rw [text.parse_refinedText]
    exact refined
  · -- an unclosed quote would be one of the lexemes
    obtain ⟨quote, body, first⟩ := astray.unclosed
    have all := (astray.reads.append (.cons first .nil)).lexemes_eq
    have member : Lexeme.unclosed quote body ∈ lexemes driverDash text.handed := by
      rw [all]
      simp
    cases closed _ member

/-- A text with a mark in a string, one in a comment and one to be replaced. -/
def sampleText : QueryText := ⟨lit "call f('?', ? /* ? */)", by decide⟩

theorem madbParseQuery_placeholders_sample :
    (sampleText.parse true true).paramPositions =
        markOffsets 0 (lexemes driverDash sampleText.handed) ∧
      (sampleText.parse true true).paramPositions.Pairwise (· < ·) ∧
      Refined true (CutSemicolon true) true (lexemes driverDash sampleText.handed)
        (sampleText.parse true true).refinedText :=
  madbParseQuery_placeholders sampleText true true (by decide)

end MaOdbc
