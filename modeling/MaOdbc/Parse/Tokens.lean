/-
**Where tokens start.**

The tokens of a query are recorded in the order of the text, the first one at its start. Every parameter
mark is a token of its own. In a text whose quotes all close no token starts inside a quoted region
(`QueryText.parse_tokens`).
-/

import MaOdbc.Library.Tuples
import MaOdbc.Parse.Entries
import MaOdbc.Parse.FirstType
import MaOdbc.Parse.Aligned

namespace MaOdbc

open List QuoteMode

open Scan

/-! ### Bytes that are passed -/

theorem mode_foldl (standing : Standing) (text : Text) :
    (text.foldl Standing.next standing).mode = text.foldl next standing.mode := by
  induction text generalizing standing with
  | nil => rfl
  | cons byte text ih => exact ih (standing.next byte)

theorem isQuote_of_isSpace {byte : Byte} (blank : isSpace byte = true) : isQuote byte = false := by
  cases quote : isQuote byte with
  | false => rfl
  | true =>
    simp only [isQuote, Bool.or_eq_true, beq_iff_eq] at quote
    rcases quote with (rfl | rfl) | rfl
    · cases blank
    · cases blank
    · cases blank

variable {text rest : Text} {replace batchAllowed : Bool} {s s' : Scan}

theorem foldl_mode_of_plain (plain : ∀ byte ∈ text, isQuote byte = false) :
    text.foldl next .plain = .plain := by
  induction text with
  | nil => rfl
  | cons byte text ih =>
    rw [foldl_cons, QuoteMode.next, plain byte mem_cons_self, if_neg Bool.false_ne_true]
    exact ih fun byte member => plain byte (mem_cons_of_mem _ member)

theorem foldl_mode_bytes {dash : Text → Bool} {lexeme : Lexeme}
    (first : firstLexeme dash text = some (lexeme, rest)) (closed : lexeme.isUnclosed = false)
    (solid : ∀ bytes, lexeme ≠ .comment bytes) : lexeme.bytes.foldl next .plain = .plain := by
  cases firstLexeme_begins first with
  | blank space =>
    exact foldl_mode_of_plain fun byte member => by
      rw [mem_singleton.mp member]
      exact isQuote_of_isSpace space
  | hash | dashes | block => exact absurd rfl (solid _)
  | @quoted quote text body rest isQuote closes =>
    have passed := congrArg Standing.mode (foldl_splitQuoted .start closes)
    rw [mode_foldl] at passed
    show (quote :: body ++ [quote]).foldl next .plain = .plain
    rw [cons_append, foldl_cons, QuoteMode.next, if_pos isQuote]
    exact passed
  | unclosed => cases closed
  | mark | semi => rfl
  | other _ _ _ plain =>
    exact foldl_mode_of_plain fun byte member => by
      rw [mem_singleton.mp member]
      exact plain

theorem foldl_mode_gaps {gaps : List Lexeme} (reads : Reads driverDash text gaps rest)
    (allGaps : ∀ gap ∈ gaps, gap.isGap) : (blankedOf gaps).foldl next .plain = .plain :=
  foldl_mode_of_plain fun _ member =>
    isQuote_of_isSpace (all_eq_true.mp (isBlank_blankedOf reads allGaps) _ member)

/-! ### One round -/

/-- All quotes of a text close. -/
def QuotesClosed (text : Text) : Prop := ∀ lexeme ∈ lexemes driverDash text, lexeme.isUnclosed = false

instance (text : Text) : Decidable (QuotesClosed text) :=
  inferInstanceAs (Decidable (∀ lexeme ∈ lexemes driverDash text, lexeme.isUnclosed = false))

/-- A round records a token behind the gap it passes, or none; a mark is recorded as a token. -/
structure Records (s s' : Scan) (gap added : Text) : Prop where
  done : s'.done = s.done ++ gap ++ added
  blank : gap.foldl next .plain = .plain
  closed : added.foldl next .plain = .plain
  tokens : s'.tokens = s.tokens ∧ s'.paramPositions = s.paramPositions ∨
    s'.tokens = s.tokens ++ [(s.done ++ gap).length] ∧
      ∀ position ∈ s'.paramPositions, position ∈ s.paramPositions ∨ position = (s.done ++ gap).length

theorem Scan.Moves.records {replace batchAllowed : Bool} {s s' : Scan}
    (moves : Moves replace batchAllowed s s') (closed : QuotesClosed s.rest) :
    ∃ gap added, Records s s' gap added := by
  cases moves with
  | breaks reading rest ends =>
    exact ⟨[], [], by simp, rfl, rfl, .inl ⟨rfl, rfl⟩⟩
  | @continues lexeme text reading first plain =>
    refine ⟨[], lexeme.bytes, by simp, rfl, foldl_mode_bytes first ?_ ?_, .inl ⟨rfl, rfl⟩⟩
    · exact closed lexeme (by rw [lexemes_of_reads .nil first]; simp)
    · rintro bytes rfl
      cases plain
  | @atEnd gaps idle reads allGaps =>
    refine ⟨blankedOf gaps, [], ?_, foldl_mode_gaps reads allGaps, rfl, .inr ⟨saveToken_tokens _, ?_⟩⟩
    · rw [saveToken_done, append_nil]
      rfl
    · rw [saveToken_paramPositions]
      exact fun _ member => .inl member
  | @call gaps word text idle reads allGaps requested fresh isCall =>
    refine ⟨blankedOf gaps, lit "E", ?_, foldl_mode_gaps reads allGaps, by decide,
      .inr ⟨saveToken_tokens _, ?_⟩⟩
    · rw [advance, saveToken_done, saveToken_rest]
      rfl
    · have same : ((s.pass gaps (lit "ECHO" ++ text)).saveToken.advance 1).paramPositions =
          s.paramPositions := saveToken_paramPositions _
      rw [same]
      exact fun _ member => .inl member
  | @token gaps rest text lexeme idle reads allGaps first solid =>
    have saved : (s.pass gaps rest).saveToken.done = s.done ++ blankedOf gaps := saveToken_done _
    have tokens : (s.pass gaps rest).saveToken.tokens = s.tokens ++ [(s.done ++ blankedOf gaps).length] :=
      saveToken_tokens _
    have marks : (s.pass gaps rest).saveToken.paramPositions = s.paramPositions :=
      saveToken_paramPositions _
    have whole : lexeme.isUnclosed = false := closed lexeme (by rw [lexemes_of_reads reads first]; simp)
    have passed := foldl_mode_bytes first whole (by rintro bytes rfl; cases solid)
    refine ⟨blankedOf gaps, (s.pass gaps rest).saveToken.passedBytes batchAllowed lexeme, ?_,
      foldl_mode_gaps reads allGaps, ?_, .inr ⟨(passLexeme_tokens ..).trans tokens, fun position member => ?_⟩⟩
    · rw [passLexeme_done, saved]
    · cases lexeme with
      | unclosed quote body => cases whole
      | semi =>
        refine foldl_mode_of_plain fun byte member => ?_
        rw [mem_singleton.mp member, semicolonByte]
        split
        · decide
        · decide
      | _ => exact passed
    · rw [passLexeme_paramPositions, marks, offset, saved] at member
      rcases mem_append.mp member with before | here
      · exact .inl before
      · split at here
        · exact .inr (mem_singleton.mp here)
        · cases here

theorem Scan.Moves.quotesClosed (moves : Moves replace batchAllowed s s')
    (closed : QuotesClosed s.rest) : QuotesClosed s'.rest := by
  intro lexeme member
  rcases moves.mem_ahead member with here | ⟨byte, -, rfl⟩ | ⟨quote, body, unclosed, -⟩
  · exact closed lexeme here
  · rfl
  · cases closed _ unclosed

/-! ### The whole scan -/

/-- **The tokens of a scan.** -/
structure Tokened (s : Scan) : Prop where
  ahead : QuotesClosed s.rest
  unquoted : s.done.foldl next .plain = .plain
  sorted : s.tokens.Pairwise (· ≤ ·)
  bounded : ∀ token ∈ s.tokens, token ≤ s.done.length
  starts : ∀ token ∈ s.tokens, (s.done.take token).foldl next .plain = .plain
  marks : ∀ position ∈ s.paramPositions, position ∈ s.tokens

theorem Tokened.step (tokened : Tokened s) (moves : Moves replace batchAllowed s s') :
    Tokened s' := by
  obtain ⟨gap, added, records⟩ := moves.records tokened.ahead
  have reached : (s.done ++ gap).foldl next .plain = .plain := by
    rw [foldl_append, tokened.unquoted, records.blank]
  have grown : ∀ token ∈ s.tokens, token ≤ s'.done.length ∧
      (s'.done.take token).foldl next .plain = .plain := by
    intro token member
    have within := tokened.bounded token member
    rw [records.done, append_assoc, take_append_of_le_length within, length_append]
    exact ⟨Nat.le_add_right_of_le within, tokened.starts token member⟩
  have here : (s.done ++ gap).length ≤ s'.done.length ∧
      (s'.done.take (s.done ++ gap).length).foldl next .plain = .plain := by
    rw [records.done, take_left' rfl]
    exact ⟨(prefix_append _ _).length_le, reached⟩
  have unquoted : s'.done.foldl next .plain = .plain := by
    rw [records.done, foldl_append, reached, records.closed]
  rcases records.tokens with ⟨tokens, marks⟩ | ⟨tokens, marks⟩
  · refine ⟨moves.quotesClosed tokened.ahead, unquoted, ?_, ?_, ?_, ?_⟩
    · rw [tokens]
      exact tokened.sorted
    · rw [tokens]
      exact fun token member => (grown token member).1
    · rw [tokens]
      exact fun token member => (grown token member).2
    · rw [tokens, marks]
      exact tokened.marks
  · have each : ∀ token ∈ s'.tokens, token ∈ s.tokens ∨ token = (s.done ++ gap).length := by
      intro token member
      rw [tokens] at member
      rcases mem_append.mp member with before | new
      · exact .inl before
      · exact .inr (mem_singleton.mp new)
    refine ⟨moves.quotesClosed tokened.ahead, unquoted, ?_, ?_, ?_, ?_⟩
    · rw [tokens]
      refine pairwise_append.mpr ⟨tokened.sorted, pairwise_singleton _ _, ?_⟩
      intro token member new there
      rw [mem_singleton.mp there, length_append]
      exact Nat.le_add_right_of_le (tokened.bounded token member)
    · intro token member
      rcases each token member with before | rfl
      · exact (grown token before).1
      · exact here.1
    · intro token member
      rcases each token member with before | rfl
      · exact (grown token before).2
      · exact here.2
    · intro position member
      rw [tokens]
      rcases marks position member with before | rfl
      · exact mem_append_left _ (tokened.marks position before)
      · exact mem_append_right _ (mem_singleton_self _)

def FirstToken (s : Scan) : Prop :=
  s.tokens.head? = some 0 ∨
    s.tokens = [] ∧ s.done = [] ∧ AtToken driverDash s.rest ∧ s.readingToken = false

theorem FirstToken.step (first : FirstToken s) (moves : Moves replace batchAllowed s s') :
    s'.tokens.head? = some 0 := by
  have saved : ∀ (gaps : List Lexeme) (rest : Text), Reads driverDash s.rest gaps rest →
      (∀ gap ∈ gaps, gap.isGap) → ∀ rest' : Text,
      (s.pass gaps rest').saveToken.tokens.head? = some 0 := by
    intro gaps rest reads allGaps rest'
    rw [saveToken_tokens]
    rcases first with before | ⟨none, atStart, token, -⟩
    · show (s.tokens ++ [_]).head? = some 0
      rw [head?_append, before]
      rfl
    · obtain ⟨rfl, -⟩ := gaps_eq_nil_of_atToken token reads allGaps
      show (s.tokens ++ [(s.done ++ blankedOf []).length]).head? = some 0
      rw [none, atStart]
      rfl
  have reading : s.readingToken = true → s.tokens.head? = some 0 := by
    intro going
    rcases first with before | ⟨-, -, -, idle⟩
    · exact before
    · rw [going] at idle
      cases idle
  cases moves with
  | breaks going rest ends => exact reading going
  | continues going read plain => exact reading going
  | atEnd idle reads allGaps => exact saved _ _ reads allGaps _
  | call idle reads allGaps requested fresh isCall => exact saved _ _ reads allGaps _
  | @token gaps rest text lexeme idle reads allGaps read solid =>
    rw [passLexeme_tokens]
    exact saved gaps rest reads allGaps rest

/-- **The tokens of a query** whose quotes all close: in order, the first one at the start of the text,
none inside quotes, and with the marks among them. -/
theorem QueryText.parse_tokens (text : QueryText) (replace batchAllowed : Bool)
    (closed : QuotesClosed text.handed) :
    let query := text.parse replace batchAllowed
    query.tokens.Pairwise (· ≤ ·) ∧ (∀ position ∈ query.paramPositions, position ∈ query.tokens) ∧
      (∀ token ∈ query.tokens, token ≤ query.refinedText.length ∧
        (query.refinedText.take token).foldl next .plain = .plain) ∧
      (query.tokens ≠ [] → query.tokens.head? = some 0) := by
  have start : Tokened { rest := text.handed } ∧ FirstToken { rest := text.handed } :=
    ⟨⟨closed, rfl, List.Pairwise.nil, nofun, nofun, nofun⟩, .inr ⟨rfl, rfl, text.handed_atToken, rfl⟩⟩
  have kept : ∀ s s' : Scan, Tokened s ∧ FirstToken s → s.rest ≠ [] → Moves replace batchAllowed s s' →
      Tokened s' ∧ FirstToken s' :=
    fun _ _ before _ moves => ⟨before.1.step moves, .inl (before.2.step moves)⟩
  obtain ⟨⟨tokened, first⟩, -⟩ := run_invariant kept start rfl
  have done : (text.parse replace batchAllowed).refinedText = (text.scan replace batchAllowed).done :=
    text.parse_refinedText replace batchAllowed
  dsimp only
  rw [done]
  refine ⟨tokened.sorted, tokened.marks, fun token member => ?_, fun some => ?_⟩
  · exact ⟨tokened.bounded token member, tokened.starts token member⟩
  · rcases first with zero | ⟨none, -⟩
    · exact zero
    · exact absurd none some

end MaOdbc
