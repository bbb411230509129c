/-
**The second token of the last statement.**

A statement is entered when its second token is met. `reachesTwo` foretells from the lexemes ahead
whether the last statement gets one; no round changes that as long as every semicolon ends its
statement (`Moves.twoAhead_eq`). Over a whole text it says that the last statement's first token is
followed by something that ends it (`reachesTwo_eq_twoTokens`).
-/

import MaOdbc.Parse.SegmentShape

namespace MaOdbc

open List Lexeme

open Scan

/-- Where the scanner stands: in a token, between two, or in the gap before one. -/
inductive Progress where
  | inToken
  | between
  | inGap
  deriving DecidableEq

/-- The token counter and the progress after a lexeme that does not go on with a token. An unclosed
quote is the last lexeme; the scanner starts another token in it if it is long enough. -/
def afterLexeme (count : Nat) : Lexeme → Nat × Progress
  | .blank _ => (count, .inGap)
  | .comment _ => (count, .inGap)
  | .semi => (0, .between)
  | .mark => (count + 1, .between)
  | .unclosed _ body => (if 2 ≤ body.length then count + 2 else count + 1, .between)
  | .quoted _ _ => (count + 1, .inToken)
  | .other _ => (count + 1, .inToken)

/-- Whether the token counter of the last statement reaches two, with `count` tokens seen. -/
def reachesTwo : Nat → Progress → List Lexeme → Bool
  | count, progress, [] => 2 ≤ if progress = .inGap then count + 1 else count
  | count, progress, lexeme :: more =>
    if progress = .inToken ∧ lexeme.continues then reachesTwo count .inToken more
    else reachesTwo (afterLexeme count lexeme).1 (afterLexeme count lexeme).2 more

/-- A statement has a second token: something ends its first one. -/
def twoTokens (statement : List Lexeme) : Bool :=
  match statement.dropWhile (·.isGap) with
  | [] => false
  | .unclosed _ body :: _ => 2 ≤ body.length
  | .mark :: more => !more.isEmpty
  | _ :: more => more.any (!·.continues)

/-! ### Steps of the counter -/

section Counter

variable {count : Nat} {progress : Progress} {lexeme : Lexeme} {more : List Lexeme}

theorem reachesTwo_gap (gap : lexeme.isGap = true)
    (ends : ¬ (progress = .inToken ∧ lexeme.continues = true)) :
    reachesTwo count progress (lexeme :: more) = reachesTwo count .inGap more := by
  rw [reachesTwo, if_neg ends]
  cases lexeme with
  | blank | comment => rfl
  | _ => cases gap

theorem reachesTwo_ends (ends : ¬ (progress = .inToken ∧ lexeme.continues = true)) :
    reachesTwo count progress (lexeme :: more) = reachesTwo count .between (lexeme :: more) := by
  rw [reachesTwo, reachesTwo, if_neg ends, if_neg (by simp)]

theorem reachesTwo_gaps {gaps : List Lexeme} (allGaps : ∀ gap ∈ gaps, gap.isGap)
    (nonempty : gaps ≠ []) (outside : progress ≠ .inToken) :
    reachesTwo count progress (gaps ++ more) = reachesTwo count .inGap more := by
  induction gaps generalizing progress with
  | nil => exact absurd rfl nonempty
  | cons gap gaps ih =>
    rw [cons_append, reachesTwo_gap (allGaps gap mem_cons_self) fun ends => outside ends.1]
    by_cases last : gaps = []
    · rw [last]
      rfl
    · exact ih (fun gap member => allGaps gap (mem_cons_of_mem _ member)) last (by simp)

theorem reachesTwo_gaps_cons {gaps : List Lexeme} (allGaps : ∀ gap ∈ gaps, gap.isGap) :
    reachesTwo count .between (gaps ++ lexeme :: more) =
      reachesTwo count .between (lexeme :: more) := by
  by_cases none : gaps = []
  · rw [none]
    rfl
  · rw [reachesTwo_gaps allGaps none (by simp), reachesTwo_ends (by simp)]

theorem reachesTwo_word {word : Text} (letters : ∀ byte ∈ word, Scan.breaksToken byte = false) :
    reachesTwo count .inToken (word.map .other ++ more) = reachesTwo count .inToken more := by
  induction word with
  | nil => rfl
  | cons byte word ih =>
    have goesOn : (other byte).continues = true := by
      rw [continues, letters byte mem_cons_self]
      rfl
    rw [map_cons, cons_append, reachesTwo, if_pos ⟨rfl, goesOn⟩]
    exact ih fun byte member => letters byte (mem_cons_of_mem _ member)

theorem reachesTwo_of_two (whole : .semi ∉ more) (two : 2 ≤ count) :
    reachesTwo count progress more = true := by
  induction more generalizing count progress with
  | nil =>
    rw [reachesTwo]
    split <;> simp <;> omega
  | cons lexeme more ih =>
    rw [mem_cons, not_or] at whole
    rw [reachesTwo]
    split
    · exact ih whole.2 two
    · cases lexeme with
      | semi => exact absurd rfl whole.1
      | unclosed quote body =>
        refine ih whole.2 ?_
        rw [afterLexeme]
        split <;> omega
      | _ => exact ih whole.2 (by simp only [afterLexeme]; omega)

theorem reachesTwo_of_gap (whole : .semi ∉ more) (one : 1 ≤ count) :
    reachesTwo count .inGap more = true := by
  induction more generalizing count with
  | nil =>
    rw [reachesTwo, if_pos rfl]
    simp
    omega
  | cons lexeme more ih =>
    rw [mem_cons, not_or] at whole
    rw [reachesTwo, if_neg (by simp)]
    cases lexeme with
    | semi => exact absurd rfl whole.1
    | blank | comment => exact ih whole.2 one
    | unclosed quote body =>
      refine reachesTwo_of_two whole.2 ?_
      rw [afterLexeme]
      split <;> omega
    | _ => exact reachesTwo_of_two whole.2 (by simp only [afterLexeme]; omega)

theorem reachesTwo_between (whole : .semi ∉ more) (one : 1 ≤ count) :
    reachesTwo count .between more = (decide (2 ≤ count) || !more.isEmpty) := by
  cases more with
  | nil => simp [reachesTwo]
  | cons lexeme more =>
    have gapped : reachesTwo count .inGap (lexeme :: more) = true := reachesTwo_of_gap whole one
    rw [reachesTwo_ends (by simp)] at gapped
    rw [gapped, isEmpty_cons, Bool.not_false, Bool.or_true]

theorem reachesTwo_inToken (whole : .semi ∉ more) :
    reachesTwo 1 .inToken more = more.any (!·.continues) := by
  induction more with
  | nil => rfl
  | cons lexeme more ih =>
    rw [any_cons]
    by_cases goesOn : lexeme.continues = true
    · rw [reachesTwo, if_pos ⟨rfl, goesOn⟩, goesOn, Bool.not_true, Bool.false_or]
      exact ih fun member => whole (mem_cons_of_mem _ member)
    · have ends : ¬ (Progress.inToken = .inToken ∧ lexeme.continues = true) :=
        fun both => goesOn both.2
      rw [show lexeme.continues = false by simpa using goesOn, Bool.not_false, Bool.true_or]
      rw [reachesTwo_ends ends, reachesTwo_between whole le_rfl]
      rfl

/-- **Within one statement** the counter tells whether there is a second token. -/
theorem reachesTwo_statement {statement : List Lexeme} (whole : .semi ∉ statement)
    (last : UnclosedLast statement) (outside : progress ≠ .inToken) :
    reachesTwo 0 progress statement = twoTokens statement := by
  induction statement generalizing progress with
  | nil => cases progress <;> rfl
  | cons lexeme more ih =>
    rw [mem_cons, not_or] at whole
    have tail : UnclosedLast more :=
      UnclosedLast.of_append (show UnclosedLast ([lexeme] ++ more) from last)
    by_cases gap : lexeme.isGap = true
    · rw [reachesTwo_gap gap fun ends => outside ends.1, ih whole.2 tail (by simp),
        twoTokens, twoTokens, dropWhile_cons_of_pos gap]
    · rw [reachesTwo, if_neg fun ends => outside ends.1, twoTokens, dropWhile_cons_of_neg gap]
      cases lexeme with
      | blank | comment => exact absurd rfl gap
      | semi => exact absurd rfl whole.1
      | mark => exact (reachesTwo_between whole.2 le_rfl).trans (Bool.false_or _)
      | unclosed quote body =>
        obtain rfl := last [] quote body more rfl
        rw [afterLexeme, reachesTwo, if_neg (by simp)]
        by_cases long : 2 ≤ body.length
        · rw [if_pos long]
          simp [long]
        · rw [if_neg long]
          simp [long]
      | quoted | other => exact reachesTwo_inToken whole.2

theorem reachesTwo_semi (before after : List Lexeme) (count : Nat) (progress : Progress) :
    reachesTwo count progress (before ++ .semi :: after) = reachesTwo 0 .between after := by
  induction before generalizing count progress with
  | nil =>
    rw [nil_append, reachesTwo, if_neg (by simp [continues])]
    rfl
  | cons lexeme before ih =>
    rw [cons_append, reachesTwo]
    split <;> exact ih _ _

end Counter

/-- The last statement of a row of lexemes. -/
def lastStatement (lexemes : List Lexeme) : List Lexeme := (statementsOf lexemes).getLastD []

theorem statementsOf_semi (before after : List Lexeme) :
    statementsOf (before ++ .semi :: after) = statementsOf before ++ statementsOf after :=
  splitOnP_append_cons _ _ (by rfl)

theorem statementsOf_whole {lexemes : List Lexeme} (whole : .semi ∉ lexemes) :
    statementsOf lexemes = [lexemes] := by
  refine splitOnP_eq_singleton fun lexeme member => ?_
  rw [beq_eq_false_iff_ne]
  rintro rfl
  exact whole member

theorem lastStatement_semi (before after : List Lexeme) :
    lastStatement (before ++ .semi :: after) = lastStatement after := by
  have nonempty : statementsOf after ≠ [] := splitOnP_ne_nil _ _
  rw [lastStatement, lastStatement, statementsOf_semi, getLastD_eq_getLast?,
    getLastD_eq_getLast?, getLast?_append_of_ne_nil _ nonempty]

/-- **Over a whole text** the counter tells whether the last statement has a second token. -/
theorem reachesTwo_eq_twoTokens {lexemes : List Lexeme} (last : UnclosedLast lexemes) :
    reachesTwo 0 .between lexemes = twoTokens (lastStatement lexemes) := by
  induction length : lexemes.length using Nat.strong_induction_on generalizing lexemes with
  | _ n ih =>
    by_cases whole : semi ∈ lexemes
    · obtain ⟨before, after, rfl⟩ := append_of_mem whole
      have tail : UnclosedLast after :=
        UnclosedLast.of_append (show UnclosedLast ((before ++ [.semi]) ++ after) by simpa using last)
      rw [reachesTwo_semi, lastStatement_semi]
      refine ih after.length ?_ tail rfl
      rw [← length, length_append, length_cons]
      omega
    · rw [reachesTwo_statement whole last (by simp), lastStatement, statementsOf_whole whole]
      rfl

/-! ### The second token foretold -/

/-- Where the scanner stands. -/
def progressOf (s : Scan) : Progress := if s.readingToken then .inToken else .between

def twoAhead (s : Scan) : Bool :=
  reachesTwo s.stmtTokensCount (progressOf s) (lexemes driverDash s.rest)

theorem continues_bytes {lexeme : Lexeme} (goesOn : lexeme.continues = true) :
    ∃ byte, lexeme.bytes = [byte] ∧ Scan.breaksToken byte = false := by
  cases lexeme with
  | blank byte => exact ⟨byte, rfl, by simpa [continues] using goesOn⟩
  | other byte => exact ⟨byte, rfl, by simpa [continues] using goesOn⟩
  | _ => cases goesOn

theorem exists_first_of_breaksToken {byte : Byte} {rest text : Text} (shape : rest = byte :: text)
    (ends : Scan.breaksToken byte = true) : ∃ lexeme after,
      lexemes driverDash rest = lexeme :: lexemes driverDash after ∧ ¬ lexeme.continues = true := by
  obtain ⟨lexeme, after, first⟩ := exists_firstLexeme driverDash (show rest ≠ [] by simp [shape])
  refine ⟨lexeme, after, lexemes_of_reads .nil first, fun goesOn => ?_⟩
  obtain ⟨head, bytes, plain⟩ := continues_bytes goesOn
  have same := firstLexeme_bytes first
  rw [shape, bytes] at same
  rw [(List.cons.inj same).1, plain] at ends
  cases ends

theorem not_breaksToken_of_isAlpha {byte : Byte} (letter : isAlpha byte = true) :
    Scan.breaksToken byte = false := by
  by_contra ends
  have breaking : ∀ byte ∈ Scan.tokenBreakers, isAlpha byte = false := by decide
  rw [Bool.not_eq_false, Scan.breaksToken, contains_iff_mem] at ends
  rw [breaking byte ends] at letter
  cases letter

theorem progressOf_reading {s : Scan} (reading : s.readingToken = true) : progressOf s = .inToken :=
  if_pos reading

theorem progressOf_idle {s : Scan} (idle : s.readingToken = false) : progressOf s = .between :=
  if_neg (by rw [idle]; decide)

theorem twoAhead_of {s : Scan} {count : Nat} {progress : Progress} {ahead : List Lexeme}
    (counted : s.stmtTokensCount = count) (stands : progressOf s = progress)
    (rest : lexemes driverDash s.rest = ahead) : twoAhead s = reachesTwo count progress ahead := by
  rw [twoAhead, counted, stands, rest]

theorem lexemes_isEmpty (dash : Text → Bool) (text : Text) :
    (lexemes dash text).isEmpty = text.isEmpty := by
  by_cases empty : text = []
  · rw [empty]
    rfl
  · obtain ⟨lexeme, rest, first⟩ := exists_firstLexeme dash empty
    rw [(Reads.cons first .nil).lexemes_eq, isEmpty_eq_false_iff.mpr empty]
    rfl

theorem twoAhead_passLexeme {s : Scan} {batchAllowed : Bool} {rest text : Text} {lexeme : Lexeme}
    {gaps : List Lexeme} (first : firstLexeme driverDash rest = some (lexeme, text))
    (solid : lexeme.isGap = false) (cut : lexeme = .semi →
      (s.pass gaps rest).saveToken.queryType.isProcedural = false)
    (whole : ∀ quote body, lexeme = .unclosed quote body → ch ';' ∉ body) :
    twoAhead ((s.pass gaps rest).saveToken.passLexeme batchAllowed lexeme text) =
      reachesTwo s.stmtTokensCount .between (lexeme :: lexemes driverDash text) := by
  have count : (s.pass gaps rest).saveToken.stmtTokensCount = s.stmtTokensCount + 1 :=
    saveToken_stmtTokensCount _
  rw [reachesTwo, if_neg (by simp)]
  cases lexeme with
  | blank | comment => cases solid
  | quoted | other => exact twoAhead_of count (progressOf_reading (saveToken_readingToken _)) rfl
  | mark => exact twoAhead_of count rfl rfl
  | semi =>
    rw [passLexeme_semi, cut rfl]
    exact twoAhead_of rfl rfl rfl
  | unclosed quote body =>
    obtain rfl := rest_eq_nil_of_unclosed first
    have none : semi ∉ lexemes driverDash (body.drop 1) := fun member =>
      whole quote body rfl (mem_of_mem_drop (semi_mem_text member))
    have after : twoAhead ((s.pass gaps rest).saveToken.passLexeme batchAllowed
        (.unclosed quote body) []) =
        reachesTwo (s.stmtTokensCount + 1) .between (lexemes driverDash (body.drop 1)) :=
      twoAhead_of count rfl rfl
    rw [after, reachesTwo_between none (by omega), afterLexeme, lexemes_isEmpty]
    show _ = reachesTwo _ .between []
    rw [reachesTwo, if_neg (by simp)]
    by_cases long : 2 ≤ body.length
    · have more : (body.drop 1).isEmpty = false := by
        rw [isEmpty_eq_false_iff, ne_eq, drop_eq_nil_iff]
        omega
      rw [more, if_pos long]
      simp
    · have none : (body.drop 1).isEmpty = true := by
        rw [List.isEmpty_iff, drop_eq_nil_iff]
        omega
      rw [none, if_neg long]
      simp

/-- **No round changes whether the last statement gets a second token.** -/
theorem Scan.Moves.twoAhead_eq {replace batchAllowed : Bool} {s s' : Scan}
    (moves : Moves replace batchAllowed s s') (unfinished : s.rest ≠ []) (cuts : NextSemicolon false s)
    (whole : QuotesWhole s.rest) : twoAhead s' = twoAhead s := by
  cases moves with
  | @breaks byte text reading rest ends =>
    obtain ⟨lexeme, after, all, stops⟩ := exists_first_of_breaksToken rest ends
    rw [twoAhead_of rfl (progressOf_reading reading) all, reachesTwo_ends fun both => stops both.2]
    exact twoAhead_of rfl rfl all
  | @continues lexeme text reading first plain =>
    have all : lexemes driverDash s.rest = lexeme :: lexemes driverDash text :=
      lexemes_of_reads .nil first
    rw [twoAhead_of rfl (progressOf_reading reading) all, reachesTwo, if_pos ⟨rfl, plain⟩]
    exact twoAhead_of rfl (progressOf_reading reading) rfl
  | @atEnd gaps idle reads allGaps =>
    have some_gap : gaps ≠ [] := by
      rintro rfl
      exact unfinished reads.bytes
    have all : lexemes driverDash s.rest = gaps ++ [] := reads.lexemes_eq
    rw [twoAhead_of rfl (progressOf_idle idle) all, reachesTwo_gaps allGaps some_gap (by simp)]
    have after : twoAhead (s.pass gaps []).saveToken =
        reachesTwo (s.stmtTokensCount + 1) .inToken [] :=
      twoAhead_of (saveToken_stmtTokensCount _) (progressOf_reading (saveToken_readingToken _))
        (by rw [saveToken_rest]; rfl)
    rw [after, reachesTwo, reachesTwo, if_pos rfl, if_neg (by simp)]
  | @call gaps word text idle reads allGaps requested fresh isCall =>
    have all : lexemes driverDash s.rest =
        gaps ++ (word.map .other ++ lexemes driverDash text) := by
      rw [reads.lexemes_eq, lexemes_word (isAlpha_of_call isCall)]
    have four := length_of_call isCall
    obtain ⟨letter, word, rfl⟩ := exists_cons_of_ne_nil (show word ≠ [] by rintro rfl; simp at four)
    have letters : ∀ byte ∈ word, Scan.breaksToken byte = false := fun byte member =>
      not_breaksToken_of_isAlpha (isAlpha_of_call isCall byte (mem_cons_of_mem _ member))
    have before : twoAhead s = reachesTwo (s.stmtTokensCount + 1) .inToken (lexemes driverDash text) := by
      rw [twoAhead_of rfl (progressOf_idle idle) all, map_cons, cons_append,
        reachesTwo_gaps_cons allGaps, reachesTwo, if_neg (by simp), afterLexeme,
        reachesTwo_word letters]
    have count : ((s.pass gaps (lit "ECHO" ++ text)).saveToken.advance 1).stmtTokensCount =
        s.stmtTokensCount + 1 := saveToken_stmtTokensCount _
    have reading : ((s.pass gaps (lit "ECHO" ++ text)).saveToken.advance 1).readingToken = true :=
      saveToken_readingToken _
    rw [before, twoAhead_of count (progressOf_reading reading) (lexemes_echo _ _), reachesTwo_word (by decide)]
  | @token gaps rest text lexeme idle reads allGaps first solid =>
    have all := lexemes_of_reads reads first
    rw [twoAhead_of rfl (progressOf_idle idle) all, reachesTwo_gaps_cons allGaps]
    refine twoAhead_passLexeme first solid ?_ ?_
    · rintro rfl
      exact cuts gaps rest text idle reads allGaps first
    · rintro quote body rfl
      exact whole quote body (by rw [all]; simp)

end MaOdbc
