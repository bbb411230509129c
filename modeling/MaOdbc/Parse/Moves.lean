/-
**What one round of the scanner can do**, in terms of the lexemes it reads.

`Moves` lists the rounds of `ParseQuery`: a token ends, a token goes on, the gap runs to the end, a
`CALL` becomes `ECHO`, or a token starts at a lexeme. `step_moves` says that there are no others;
every invariant of the scanner is derived from it. `run_invariant` is the resulting rule for a whole
scan.
-/

import MaOdbc.Parse.Regions

namespace MaOdbc

open List

/-- A lexeme that does not end a token: one byte that is none of the scanner's breaking bytes. -/
def Lexeme.continues : Lexeme → Bool
  | .blank byte => !Scan.breaksToken byte
  | .other byte => !Scan.breaksToken byte
  | _ => false

namespace Scan

/-! ### The pieces of a round -/

section Fields

variable (s : Scan)

@[simp] theorem saveToken_done : s.saveToken.done = s.done := by
  unfold saveToken enterToken
  split_ifs <;> rfl

@[simp] theorem saveToken_rest : s.saveToken.rest = s.rest := by
  unfold saveToken enterToken
  split_ifs <;> rfl

@[simp] theorem saveToken_readingToken : s.saveToken.readingToken = true := by
  unfold saveToken enterToken
  split_ifs <;> rfl

@[simp] theorem saveToken_stmtTokensCount :
    s.saveToken.stmtTokensCount = s.stmtTokensCount + 1 := by
  unfold saveToken enterToken
  split_ifs <;> rfl

@[simp] theorem saveToken_paramPositions : s.saveToken.paramPositions = s.paramPositions := by
  unfold saveToken enterToken
  split_ifs <;> rfl

@[simp] theorem saveToken_tokens : s.saveToken.tokens = s.tokens ++ [s.offset] := by
  unfold saveToken enterToken
  split_ifs <;> rfl

end Fields

/-- The pointer has passed a gap and stands at `rest`. -/
def pass (s : Scan) (gaps : List Lexeme) (rest : Text) : Scan :=
  { s with done := s.done ++ blankedOf gaps, rest := rest }

def passLexeme (s : Scan) (batchAllowed : Bool) (lexeme : Lexeme) (text : Text) : Scan :=
  match lexeme with
  | .unclosed quote body =>
    { s with
      done := s.done ++ quote :: body.take 1
      rest := body.drop 1
      readingToken := false }
  | .mark =>
    { s with
      done := s.done ++ lexeme.bytes
      rest := text
      hasParameters := true
      paramPositions := s.paramPositions ++ [s.offset]
      readingToken := false }
  | .semi =>
    if s.queryType.isProcedural then
      { s with done := s.done ++ lexeme.bytes, rest := text, readingToken := false }
    else
      { s with
        done := s.done ++ [if batchAllowed then 0 else ch ';']
        rest := text
        stmtTokensCount := 0
        readingToken := false }
  | _ => { s with done := s.done ++ lexeme.bytes, rest := text }

def semicolonByte (s : Scan) (batchAllowed : Bool) : Byte :=
  if !s.queryType.isProcedural && batchAllowed then 0 else ch ';'

theorem passLexeme_semi (s : Scan) (batchAllowed : Bool) (text : Text) :
    s.passLexeme batchAllowed .semi text =
      { s with
        done := s.done ++ [s.semicolonByte batchAllowed]
        rest := text
        stmtTokensCount := if s.queryType.isProcedural then s.stmtTokensCount else 0
        readingToken := false } := by
  rw [passLexeme, semicolonByte]
  cases s.queryType.isProcedural <;> rfl

def passedBytes (s : Scan) (batchAllowed : Bool) : Lexeme → Text
  | .unclosed quote body => quote :: body.take 1
  | .semi => [s.semicolonByte batchAllowed]
  | lexeme => lexeme.bytes

section PassLexeme

variable (s : Scan) (batchAllowed : Bool) (lexeme : Lexeme) (text : Text)

theorem passLexeme_done :
    (s.passLexeme batchAllowed lexeme text).done = s.done ++ s.passedBytes batchAllowed lexeme := by
  cases lexeme with
  | semi => rw [passLexeme_semi, passedBytes]
  | _ => rfl

theorem passLexeme_tokens : (s.passLexeme batchAllowed lexeme text).tokens = s.tokens := by
  cases lexeme with
  | semi => rw [passLexeme_semi]
  | _ => rfl

theorem passLexeme_paramPositions : (s.passLexeme batchAllowed lexeme text).paramPositions =
    s.paramPositions ++ if lexeme = .mark then [s.offset] else [] := by
  cases lexeme with
  | mark => rfl
  | semi => simp [passLexeme_semi]
  | _ => exact (append_nil _).symm

end PassLexeme

/-- **The rounds of the scanner.** -/
inductive Moves (replace batchAllowed : Bool) (s : Scan) : Scan → Prop
  /-- A byte ends the token. -/
  | breaks {byte : Byte} {text : Text} (reading : s.readingToken = true)
      (rest : s.rest = byte :: text) (ends : breaksToken byte = true) :
      Moves replace batchAllowed s { s with readingToken := false }
  /-- The token goes on. -/
  | continues {lexeme : Lexeme} {text : Text} (reading : s.readingToken = true)
      (first : firstLexeme driverDash s.rest = some (lexeme, text))
      (plain : lexeme.continues = true) :
      Moves replace batchAllowed s { s with done := s.done ++ lexeme.bytes, rest := text }
  /-- Only a gap is left, and a token is saved at the end of the text. -/
  | atEnd {gaps : List Lexeme} (idle : s.readingToken = false)
      (reads : Reads driverDash s.rest gaps []) (allGaps : ∀ gap ∈ gaps, gap.isGap) :
      Moves replace batchAllowed s (s.pass gaps []).saveToken
  /-- A statement starts with `CALL`. -/
  | call {gaps : List Lexeme} {word text : Text} (idle : s.readingToken = false)
      (reads : Reads driverDash s.rest gaps (word ++ text)) (allGaps : ∀ gap ∈ gaps, gap.isGap)
      (requested : replace = true) (fresh : s.stmtTokensCount = 0)
      (isCall : word.map lower = lit "call") :
      Moves replace batchAllowed s ((s.pass gaps (lit "ECHO" ++ text)).saveToken.advance 1)
  /-- A token starts at a lexeme. -/
  | token {gaps : List Lexeme} {rest text : Text} {lexeme : Lexeme} (idle : s.readingToken = false)
      (reads : Reads driverDash s.rest gaps rest) (allGaps : ∀ gap ∈ gaps, gap.isGap)
      (first : firstLexeme driverDash rest = some (lexeme, text)) (solid : lexeme.isGap = false) :
      Moves replace batchAllowed s
        ((s.pass gaps rest).saveToken.passLexeme batchAllowed lexeme text)

end Scan

/-! ### One byte lexemes -/

variable {word text : Text} {lexeme : Lexeme} {replace batchAllowed : Bool} {s' : Scan}

theorem length_of_call (isCall : word.map lower = lit "call") : word.length = 4 := by
  rw [← length_map (f := lower), isCall]
  rfl

theorem isAlpha_of_call (isCall : word.map lower = lit "call") :
    ∀ byte ∈ word, isAlpha byte = true := by
  intro byte member
  have lowered : lower byte ∈ lit "call" := isCall ▸ mem_map_of_mem member
  have all : ∀ letter ∈ lit "call", isAlpha letter = true := by decide
  exact isAlpha_of_lower (all _ lowered)

theorem firstLexeme_of_not_breaksToken {byte : Byte} (plain : Scan.breaksToken byte = false)
    (text : Text) :
    ∃ lexeme, firstLexeme driverDash (byte :: text) = some (lexeme, text) ∧
      lexeme.bytes = [byte] ∧ lexeme.continues = true := by
  have goesOn : (!Scan.breaksToken byte) = true := by rw [plain, Bool.not_false]
  simp only [Scan.breaksToken, Scan.tokenBreakers, contains_eq_mem, mem_cons, not_mem_nil, or_false,
    decide_eq_false_iff_not, not_or] at plain
  obtain ⟨mark, double, single, back, -, -, -, -, minus, hash, slash, semi⟩ := plain
  have quote : isQuote byte = false := by simp [isQuote, single, double, back]
  by_cases blank : isSpace byte = true
  · exact ⟨.blank byte, by rw [firstLexeme, if_pos blank], rfl, goesOn⟩
  · refine ⟨.other byte, ?_, rfl, goesOn⟩
    simp [firstLexeme, blank, hash, minus, slash, quote, mark, semi]

namespace Scan

/-! ### The rounds are these -/

theorem skipGap_eq (s : Scan) :
    ∃ gaps rest, s.skipGap = s.pass gaps rest ∧ Reads driverDash s.rest gaps rest ∧
      (∀ gap ∈ gaps, gap.isGap) ∧ AtToken driverDash rest := by
  obtain ⟨gaps, reads, allGaps, token, blanked⟩ :=
    skipLoop_reads true (Nat.lt_succ_self s.rest.length)
  exact ⟨gaps, _, by rw [skipGap, pass, ← blanked rfl]; rfl, reads, allGaps, token⟩

theorem advance_of_append {s : Scan} {bytes : Text} (rest : s.rest = bytes ++ text) :
    s.advance bytes.length = { s with done := s.done ++ bytes, rest := text } := by
  rw [advance, rest, take_left, drop_left]

theorem passQuoted_eq {s : Scan} {quote : Byte} (rest : s.rest = quote :: text)
    (batchAllowed : Bool) :
    s.passQuoted quote text =
      match splitQuoted (quote != ch '`') quote text with
      | some (body, after) => s.passLexeme batchAllowed (.quoted quote body) after
      | none => s.passLexeme batchAllowed (.unclosed quote text) [] := by
  rw [splitQuoted_skip, passQuoted]
  by_cases unclosed : text.length ≤ skipQuotedString (quote != ch '`') quote text
  · rw [if_pos unclosed, if_pos unclosed, advance, rest]
    rfl
  · rw [if_neg unclosed, if_neg unclosed]
    have closed := splitQuoted_append (splitQuoted_skip _ quote text ▸ if_neg unclosed)
    have covers : s.rest = (Lexeme.quoted quote
        (text.take (skipQuotedString (quote != ch '`') quote text))).bytes ++
        text.drop (skipQuotedString (quote != ch '`') quote text + 1) := by
      rw [rest, Lexeme.bytes]
      nth_rewrite 1 [closed]
      simp
    have passed := advance_of_append covers
    have length : (Lexeme.quoted quote
        (text.take (skipQuotedString (quote != ch '`') quote text))).bytes.length =
        skipQuotedString (quote != ch '`') quote text + 2 := by
      simp only [Lexeme.bytes, cons_append, length_cons, length_append, length_take, length_nil]
      omega
    rw [length] at passed
    rw [passed]
    rfl

theorem startToken_eq {s : Scan} (batchAllowed : Bool)
    (first : firstLexeme driverDash s.rest = some (lexeme, text)) (solid : lexeme.isGap = false) :
    s.startToken batchAllowed = s.passLexeme batchAllowed lexeme text := by
  have quotes (byte : Byte) : (byte = ch '"' ∨ byte = ch '\'' ∨ byte = ch '`') ↔ isQuote byte = true := by
    simp only [isQuote, Bool.or_eq_true, beq_iff_eq]
    tauto
  have one {byte : Byte} {rest : Text} (shape : s.rest = byte :: rest) :
      s.advance 1 = { s with done := s.done ++ [byte], rest := rest } :=
    advance_of_append (show s.rest = [byte] ++ rest from shape)
  generalize shape : s.rest = rest at first
  rw [startToken, shape]
  -- blanks and comments are gaps
  cases firstLexeme_begins first with
  | blank | hash | dashes | block => cases solid
  | quoted quote closed | unclosed quote closed =>
    dsimp only
    rw [if_pos ((quotes _).mpr quote), passQuoted_eq shape batchAllowed, closed]
  | mark =>
    rw [passMark, one shape]
    rfl
  | semi =>
    rw [passSemicolon, one shape, shape]
    rfl
  | other _ _ _ plain mark semi =>
    dsimp only
    rw [if_neg (by rw [quotes, plain]; exact Bool.false_ne_true), if_neg mark, if_neg semi, one shape]
    rfl

theorem exists_call_of_matches (isCall : matchesNoCase text (lit "CALL") = true) :
    ∃ word, text = word ++ text.drop 4 ∧ word.map lower = lit "call" := by
  refine ⟨text.take 4, (take_append_drop 4 text).symm, ?_⟩
  obtain ⟨after, whole⟩ := isPrefixOf_iff_prefix.mp isCall
  rw [map_take, ← whole]
  rfl

theorem startToken_echo {s : Scan} (rest : s.rest = lit "ECHO" ++ text) (batchAllowed : Bool) :
    s.startToken batchAllowed = s.advance 1 := by
  unfold startToken
  rw [rest]
  rfl

theorem moves_of_idle (replace batchAllowed : Bool) {s : Scan} (idle : s.readingToken = false) :
    Moves replace batchAllowed s
      ((s.skipGap.replaceCall replace).saveToken.startToken batchAllowed) := by
  obtain ⟨gaps, rest, skipped, reads, allGaps, token⟩ := s.skipGap_eq
  rw [skipped]
  cases kept : replace && (s.pass gaps rest).stmtTokensCount == 0 &&
      matchesNoCase (s.pass gaps rest).rest (lit "CALL") with
  | true =>
    rw [replaceCall, kept, if_pos rfl]
    simp only [Bool.and_eq_true, beq_iff_eq] at kept
    obtain ⟨⟨requested, fresh⟩, isCall⟩ := kept
    obtain ⟨word, shape, called⟩ := exists_call_of_matches isCall
    rw [show (s.pass gaps rest).rest = rest from rfl] at shape
    rw [shape] at reads
    rw [startToken_echo (by rw [saveToken_rest])]
    exact .call idle reads allGaps requested fresh called
  | false =>
    rw [replaceCall, kept, if_neg Bool.false_ne_true]
    by_cases empty : rest = []
    · subst empty
      have stays : ((s.pass gaps []).saveToken.startToken batchAllowed) =
          (s.pass gaps []).saveToken := by
        unfold startToken
        rw [saveToken_rest]
        rfl
      rw [stays]
      exact .atEnd idle reads allGaps
    · obtain ⟨lexeme, text, first⟩ := exists_firstLexeme driverDash empty
      have solid := token lexeme text first
      rw [startToken_eq batchAllowed (by rw [saveToken_rest]; exact first) solid]
      exact .token idle reads allGaps first solid

/-- **Every round is one of `Moves`.** -/
theorem step_moves (replace batchAllowed : Bool) {s : Scan} (unfinished : s.rest ≠ []) :
    Moves replace batchAllowed s (s.step replace batchAllowed) := by
  unfold step
  split
  · rename_i reading
    split
    · rename_i empty
      exact absurd empty unfinished
    · rename_i byte text shape
      split
      · rename_i ends
        exact .breaks reading shape ends
      · rename_i goesOn
        obtain ⟨lexeme, first, bytes, plain⟩ :=
          firstLexeme_of_not_breaksToken (Bool.not_eq_true _ ▸ goesOn) text
        have passed : s.advance 1 = { s with done := s.done ++ [byte], rest := text } :=
          advance_of_append (show s.rest = [byte] ++ text from shape)
        rw [passed, ← bytes]
        exact .continues reading (shape ▸ first) plain
  · rename_i reading
    exact moves_of_idle replace batchAllowed (Bool.not_eq_true _ ▸ reading)

/-! ### The whole scan -/

/-- The rounds left at most. -/
def rank (s : Scan) : Nat := 2 * s.rest.length + s.readingToken.toNat

theorem length_passedBytes (s : Scan) (batchAllowed : Bool) {rest : Text}
    (first : firstLexeme driverDash rest = some (lexeme, text)) :
    0 < (s.passedBytes batchAllowed lexeme).length ∧ (s.passedBytes batchAllowed lexeme).length +
      (s.passLexeme batchAllowed lexeme text).rest.length = rest.length := by
  have bytes := congrArg length (firstLexeme_bytes first)
  have some := length_pos_iff.mpr (firstLexeme_bytes_ne_nil first)
  rw [length_append] at bytes
  cases lexeme with
  | unclosed quote body =>
    obtain rfl := rest_eq_nil_of_unclosed first
    simp only [passedBytes, passLexeme, Lexeme.bytes, length_cons, length_take, length_drop, length_nil] at bytes ⊢
    omega
  | semi =>
    rw [passLexeme_semi]
    exact ⟨some, bytes.symm⟩
  | _ => exact ⟨some, bytes.symm⟩

theorem Moves.rank_lt {s : Scan} (moves : Moves replace batchAllowed s s')
    (unfinished : s.rest ≠ []) : s'.rank < s.rank := by
  have some_byte := length_pos_iff.mpr unfinished
  have flag (b : Bool) : b.toNat ≤ 1 := b.toNat_le
  cases moves with
  | breaks reading rest ends => simp [rank, reading]
  | continues reading first plain =>
    have shorter := firstLexeme_length first
    simp only [rank]
    omega
  | atEnd idle reads allGaps =>
    simp only [rank, saveToken_rest, pass, length_nil, saveToken_readingToken, idle,
      Bool.toNat_true, Bool.toNat_false]
    omega
  | @call gaps word text idle reads allGaps requested fresh isCall =>
    have total := congrArg length reads.bytes
    have four := length_of_call isCall
    have echo : (lit "ECHO").length = 4 := rfl
    have bit := flag ((s.pass gaps (lit "ECHO" ++ text)).saveToken.advance 1).readingToken
    simp only [length_append] at total
    simp only [rank, advance, saveToken_rest, pass, length_drop, length_append] at bit ⊢
    omega
  | @token gaps rest text lexeme idle reads allGaps first solid =>
    have total := congrArg length reads.bytes
    have shorter := length_passedBytes (s.pass gaps rest).saveToken batchAllowed first
    have bit := flag ((s.pass gaps rest).saveToken.passLexeme batchAllowed lexeme text).readingToken
    rw [length_append] at total
    simp only [rank]
    omega

theorem Moves.passed {s : Scan} (moves : Moves replace batchAllowed s s') :
    ∃ added, s'.done = s.done ++ added ∧ added.length + s'.rest.length = s.rest.length := by
  cases moves with
  | breaks reading rest ends => exact ⟨[], (append_nil _).symm, Nat.zero_add _⟩
  | continues reading first plain =>
    refine ⟨_, rfl, ?_⟩
    rw [firstLexeme_bytes first, length_append]
  | @atEnd gaps idle reads allGaps =>
    refine ⟨blankedOf gaps, saveToken_done _, ?_⟩
    rw [saveToken_rest, length_blankedOf, reads.bytes, length_append]
    rfl
  | @call gaps word text idle reads allGaps requested fresh isCall =>
    refine ⟨blankedOf gaps ++ lit "E", ?_, ?_⟩
    · rw [advance, saveToken_done, saveToken_rest, ← append_assoc]
      rfl
    · rw [advance, saveToken_rest, length_append, length_blankedOf, reads.bytes,
        length_append, length_append, length_of_call isCall]
      show (bytesOf gaps).length + 1 + (lit "CHO" ++ text).length = _
      rw [length_append]
      show _ + 1 + (3 + text.length) = _
      omega
  | @token gaps rest text lexeme idle reads allGaps first solid =>
    have total := congrArg length reads.bytes
    have lengths := length_passedBytes (s.pass gaps rest).saveToken batchAllowed first
    rw [length_append] at total
    refine ⟨blankedOf gaps ++ (s.pass gaps rest).saveToken.passedBytes batchAllowed lexeme, ?_, ?_⟩
    · rw [passLexeme_done, saveToken_done, pass, append_assoc]
    · rw [length_append, length_blankedOf]
      omega

/-- **The rule of the scan**: what every round keeps holds when the scan ends, and it ends at the
end of the text. -/
theorem run_invariant {invariant : Scan → Prop}
    (kept : ∀ s s', invariant s → s.rest ≠ [] → Moves replace batchAllowed s s' → invariant s')
    {s : Scan} (start : invariant s) (idle : s.readingToken = false) :
    invariant (s.run replace batchAllowed) ∧ (s.run replace batchAllowed).rest = [] := by
  have rounds : ∀ state, invariant state → unfinished state = true →
      invariant (step replace batchAllowed state) ∧
        rank (step replace batchAllowed state) < rank state := by
    intro state holds running
    have more : state.rest ≠ [] := by simpa [unfinished] using running
    have moves := step_moves replace batchAllowed more
    exact ⟨kept state _ holds more moves, moves.rank_lt more⟩
  have enough : s.rank ≤ 2 * s.rest.length + 1 := by
    rw [rank, idle]
    simp
  obtain ⟨holds, stopped⟩ := whileLoop_rule rounds start enough
  refine ⟨holds, ?_⟩
  simpa [unfinished, run] using stopped

theorem run_rest (replace batchAllowed : Bool) {s : Scan} (idle : s.readingToken = false) :
    (s.run replace batchAllowed).rest = [] :=
  (@run_invariant replace batchAllowed (fun _ => True) (fun _ _ _ _ _ => trivial) s trivial idle).2

end Scan

end MaOdbc
