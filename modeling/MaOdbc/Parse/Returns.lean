/-
**Whether a query returns a result** (`ReturnsResult`).

The flag is set when the second token of a statement is saved, and the type is then one that returns a result. It
is never cleared.

* `Begun`: only the first token of the text is known; the type is foretold from the lexemes ahead.
* `Settled`: the second token has been saved, and no further statement follows.
* `run_returnsResult`: a single statement sets the flag if it has a second token and its type asks for it.
* `run_returns`: it does so too if other statements follow.
-/

import MaOdbc.Parse.Tokens

namespace MaOdbc

open List

open Scan

def OnlyTrailing (lexemes : List Lexeme) : Prop := ∀ lexeme ∈ lexemes, lexeme.isGap = true ∨ lexeme = .semi

/-- One statement: nothing follows its semicolon but gaps and semicolons. -/
def SingleStatement (lexemes : List Lexeme) : Prop := OnlyTrailing (lexemes.dropWhile (· ≠ .semi))

instance (lexemes : List Lexeme) : Decidable (SingleStatement lexemes) :=
  inferInstanceAs (Decidable (∀ lexeme ∈ lexemes.dropWhile (· ≠ .semi), lexeme.isGap = true ∨ lexeme = .semi))

variable {before after gaps : List Lexeme} {byte : Byte} {lexeme : Lexeme} {rest : Text}

namespace SingleStatement

theorem append_iff (whole : .semi ∉ before) : SingleStatement (before ++ after) ↔ SingleStatement after := by
  have passed : ∀ lexeme ∈ before, decide (lexeme ≠ .semi) = true := by
    intro lexeme member
    refine decide_eq_true ?_
    rintro rfl
    exact whole member
  rw [SingleStatement, dropWhile_append_of_pos passed]
  rfl

theorem of_append (single : SingleStatement (before ++ after)) (whole : .semi ∉ before) :
    SingleStatement after :=
  (append_iff whole).mp single

theorem of_semi (single : SingleStatement (before ++ .semi :: after)) (whole : .semi ∉ before) :
    OnlyTrailing after := by
  have rest := single.of_append whole
  rw [SingleStatement, dropWhile_cons_of_neg (by simp)] at rest
  exact fun lexeme member => rest lexeme (mem_cons_of_mem _ member)

end SingleStatement

theorem OnlyTrailing.single {lexemes : List Lexeme} (trailing : OnlyTrailing lexemes) : SingleStatement lexemes :=
  fun lexeme member => trailing lexeme (dropWhile_suffix _ |>.subset member)

/-! ### The invariant -/

/-- Only the first token is known; the type, and whether a byte ahead ends the token, are foretold. -/
structure Begun (broken returns : Bool) (s : Scan) : Prop where
  count : s.stmtTokensCount = 1
  tokens : s.tokens = [0]
  none : s.subQuery = []
  unset : s.returnsResult = false
  type : (typeAhead s.done s.readingToken (lexemes driverDash s.rest)).doesntReturnResult = !returns
  reading : s.readingToken = true → s.rest.any breaksToken = broken
  idle : s.readingToken = false → broken = true ∧ s.rest ≠ []

structure Judged (returns : Bool) (s : Scan) : Prop where
  value : s.returnsResult = returns
  alone : s.subQuery.length = 1
  type : s.queryType = .selectInto ∨ s.queryType.doesntReturnResult = !returns

structure Settled (returns : Bool) (s : Scan) : Prop extends Judged returns s where
  ahead : 2 ≤ s.stmtTokensCount ∧ SingleStatement (lexemes driverDash s.rest) ∨
    s.stmtTokensCount = 0 ∧ s.readingToken = false ∧ s.queryType.isProcedural = false ∧
      OnlyTrailing (lexemes driverDash s.rest) ∨
    s.rest = []

section Step

variable {replace batchAllowed broken returns : Bool} {s s' : Scan}

theorem Begun.breaks (begun : Begun broken returns s) {text : Text}
    (reading : s.readingToken = true) (rest : s.rest = byte :: text)
    (ends : breaksToken byte = true) :
    Begun broken returns { s with readingToken := false } where
  count := begun.count
  tokens := begun.tokens
  none := begun.none
  unset := begun.unset
  type := by
    obtain ⟨lexeme, after, all, stops⟩ := exists_first_of_breaksToken rest ends
    have type := begun.type
    rw [reading, all, typeAhead_ends stops] at type
    show (typeAhead s.done false (lexemes driverDash s.rest)).doesntReturnResult = _
    rw [all]
    exact type
  reading := nofun
  idle := by
    have broken := begun.reading reading
    rw [rest, any_cons, ends, Bool.true_or] at broken
    exact fun _ => ⟨broken.symm, by rw [rest]; exact cons_ne_nil _ _⟩

theorem Begun.continues (begun : Begun broken returns s) {text : Text}
    (reading : s.readingToken = true) (first : firstLexeme driverDash s.rest = some (lexeme, text))
    (plain : lexeme.continues = true) :
    Begun broken returns { s with done := s.done ++ lexeme.bytes, rest := text } where
  count := begun.count
  tokens := begun.tokens
  none := begun.none
  unset := begun.unset
  type := by
    have type := begun.type
    have all : lexemes driverDash s.rest = lexeme :: lexemes driverDash text := lexemes_of_reads .nil first
    rw [reading, all, typeAhead_continues plain] at type
    show (typeAhead _ s.readingToken _).doesntReturnResult = _
    rw [reading]
    exact type
  reading := by
    intro _
    obtain ⟨byte, bytes, goesOn⟩ := continues_bytes plain
    have ahead := begun.reading reading
    rw [firstLexeme_bytes first, bytes, singleton_append, any_cons, goesOn, Bool.false_or] at ahead
    exact ahead
  idle := by
    intro idle
    rw [show s.readingToken = false from idle] at reading
    cases reading

/-- **The second token** makes what is foretold known. -/
theorem Begun.judged (begun : Begun broken returns s) (idle : s.readingToken = false)
    (reads : Reads driverDash s.rest gaps rest) (allGaps : ∀ gap ∈ gaps, gap.isGap)
    (token : AtToken driverDash rest) : Judged returns (s.pass gaps rest).saveToken := by
  have count : (s.pass gaps rest).stmtTokensCount = 1 := begun.count
  have none : (s.pass gaps rest).subQuery = [] := begun.none
  have known := getQueryType_second idle reads allGaps token begun.tokens
  rw [saveToken_second count]
  refine ⟨?_, ?_, .inr ?_⟩
  · show (s.returnsResult || !(getQueryType ((s.pass gaps rest).buffer.drop
      (s.pass gaps rest).countToken.previousToken) rest).doesntReturnResult) = returns
    rw [known, begun.type, begun.unset, Bool.false_or, Bool.not_not]
  · show ((s.pass gaps rest).subQuery ++ [_]).length = 1
    rw [none]
    rfl
  · show QueryType.doesntReturnResult (if (s.pass gaps rest).subQuery = [] then
      getQueryType ((s.pass gaps rest).buffer.drop (s.pass gaps rest).countToken.previousToken) rest
      else _) = !returns
    rw [if_pos none, known, begun.type]

theorem Judged.pass (judged : Judged returns s) (gaps : List Lexeme) (rest : Text) :
    Judged returns (s.pass gaps rest) :=
  ⟨judged.value, judged.alone, judged.type⟩

theorem Judged.saveToken (judged : Judged returns s) (other : s.stmtTokensCount ≠ 1) :
    Judged returns s.saveToken := by
  rcases Nat.lt_or_ge s.stmtTokensCount 1 with first | later
  · rw [saveToken_first (by omega)]
    exact ⟨judged.value, judged.alone, judged.type⟩
  · rcases saveToken_later (s := s) (by omega) with same | ⟨-, changed⟩
    · rw [same]
      exact ⟨judged.value, judged.alone, judged.type⟩
    · rw [changed]
      refine ⟨judged.value, ?_, .inl ?_⟩
      · show (s.subQuery.modify _ _).length = 1
        rw [length_modify]
        exact judged.alone
      · show (if s.subQuery.length = 1 then QueryType.selectInto else _) = _
        rw [if_pos judged.alone]

theorem Judged.passLexeme (judged : Judged returns s) (lexeme : Lexeme) (text : Text) :
    Judged returns (s.passLexeme batchAllowed lexeme text) := by
  cases lexeme with
  | semi =>
    rw [passLexeme_semi]
    exact ⟨judged.value, judged.alone, judged.type⟩
  | _ => exact ⟨judged.value, judged.alone, judged.type⟩

theorem Judged.settled (judged : Judged returns s) (two : 2 ≤ s.stmtTokensCount) {text : Text}
    (closed : lexeme.isUnclosed = false)
    (single : SingleStatement (lexeme :: lexemes driverDash text)) :
    Settled returns (s.passLexeme batchAllowed lexeme text) := by
  refine { judged.passLexeme lexeme text with ahead := ?_ }
  have plain : lexeme ≠ .semi → SingleStatement (lexemes driverDash text) := by
    intro other
    have whole : SingleStatement ([lexeme] ++ lexemes driverDash text) := single
    refine whole.of_append ?_
    rw [mem_singleton]
    exact Ne.symm other
  cases lexeme with
  | unclosed quote body => cases closed
  | semi =>
    have whole : SingleStatement ([] ++ .semi :: lexemes driverDash text) := single
    have trailing := whole.of_semi nofun
    rw [passLexeme_semi]
    by_cases procedural : s.queryType.isProcedural = true
    · refine .inl ⟨?_, trailing.single⟩
      dsimp only
      rw [if_pos procedural]
      exact two
    · refine .inr (.inl ⟨if_neg procedural, rfl, ?_, trailing⟩)
      rw [Bool.not_eq_true] at procedural
      exact procedural
  | _ => exact .inl ⟨two, plain nofun⟩

theorem ahead_of_token {text : Text} (reads : Reads driverDash s.rest gaps rest)
    (allGaps : ∀ gap ∈ gaps, gap.isGap) (first : firstLexeme driverDash rest = some (lexeme, text))
    (single : SingleStatement (lexemes driverDash s.rest)) :
    SingleStatement (lexeme :: lexemes driverDash text) := by
  rw [lexemes_of_reads reads first] at single
  refine single.of_append fun semi => ?_
  cases allGaps _ semi

theorem single_of_first {text after : Text}
    (first : firstLexeme driverDash text = some (lexeme, after)) (other : lexeme ≠ .semi)
    (single : SingleStatement (lexemes driverDash text)) :
    SingleStatement (lexemes driverDash after) := by
  have all : lexemes driverDash text = [lexeme] ++ lexemes driverDash after := lexemes_of_reads .nil first
  rw [all] at single
  refine single.of_append ?_
  rw [mem_singleton]
  exact Ne.symm other

theorem ne_semi_of_continues (plain : lexeme.continues = true) : lexeme ≠ .semi := by
  rintro rfl
  cases plain

theorem closed_of_token {text : Text} (reads : Reads driverDash s.rest gaps rest)
    (first : firstLexeme driverDash rest = some (lexeme, text)) (closed : QuotesClosed s.rest) :
    lexeme.isUnclosed = false := by
  refine closed lexeme ?_
  rw [lexemes_of_reads reads first]
  exact mem_append_right _ mem_cons_self

theorem Begun.step (begun : Begun broken returns s) (moves : Moves replace batchAllowed s s')
    (closed : QuotesClosed s.rest)
    (single : SingleStatement (lexemes driverDash s.rest)) :
    Begun broken returns s' ∧ SingleStatement (lexemes driverDash s'.rest) ∨ broken = true ∧ Settled returns s' := by
  cases moves with
  | breaks reading rest ends => exact .inl ⟨begun.breaks reading rest ends, single⟩
  | continues reading first plain =>
    exact .inl ⟨begun.continues reading first plain, single_of_first first (ne_semi_of_continues plain) single⟩
  | atEnd idle reads allGaps =>
    have judged := begun.judged idle reads allGaps (by simp [AtToken, firstLexeme])
    exact .inr ⟨(begun.idle idle).1, { judged with ahead := .inr (.inr (saveToken_rest _)) }⟩
  | call idle reads allGaps requested fresh isCall =>
    rw [begun.count] at fresh
    cases fresh
  | @token gaps rest text lexeme idle reads allGaps first solid =>
    have token := atToken_of_first first solid
    have judged := begun.judged idle reads allGaps token
    refine .inr ⟨(begun.idle idle).1, judged.settled ?_ (closed_of_token reads first closed)
      (ahead_of_token reads allGaps first single)⟩
    rw [saveToken_stmtTokensCount]
    show 2 ≤ s.stmtTokensCount + 1
    rw [begun.count]

theorem Settled.step (settled : Settled returns s) (unfinished : s.rest ≠ []) (moves : Moves replace batchAllowed s s')
    (closed : QuotesClosed s.rest) : Settled returns s' := by
  have judged := settled.toJudged
  rcases settled.ahead with ⟨two, single⟩ | ⟨none, idle, plain, trailing⟩ | ended
  · cases moves with
    | breaks reading rest ends =>
      exact { value := judged.value, alone := judged.alone, type := judged.type, ahead := .inl ⟨two, single⟩ }
    | continues reading first plain =>
      exact
        { value := judged.value, alone := judged.alone, type := judged.type,
          ahead := .inl ⟨two, single_of_first first (ne_semi_of_continues plain) single⟩ }
    | @atEnd gaps idle reads allGaps =>
      have saved := (judged.pass gaps []).saveToken (show s.stmtTokensCount ≠ 1 by omega)
      exact { saved with ahead := .inr (.inr (saveToken_rest _)) }
    | call idle reads allGaps requested fresh isCall => omega
    | @token gaps rest text lexeme idle reads allGaps first solid =>
      have saved := (judged.pass gaps rest).saveToken (show s.stmtTokensCount ≠ 1 by omega)
      refine saved.settled ?_ (closed_of_token reads first closed) (ahead_of_token reads allGaps first single)
      rw [saveToken_stmtTokensCount]
      show 2 ≤ s.stmtTokensCount + 1
      omega
  · -- only gaps and semicolons are left
    have other : s.stmtTokensCount ≠ 1 := by omega
    cases moves with
    | breaks reading rest ends =>
      rw [idle] at reading
      cases reading
    | continues reading first plain =>
      rw [idle] at reading
      cases reading
    | atEnd idle reads allGaps =>
      exact { (judged.pass _ []).saveToken other with ahead := .inr (.inr (saveToken_rest _)) }
    | @call gaps word text idle reads allGaps requested fresh isCall =>
      have letters := isAlpha_of_call isCall
      obtain ⟨letter, more, rfl⟩ := exists_cons_of_ne_nil
        (show word ≠ [] by rintro rfl; cases isCall)
      have member : Lexeme.other letter ∈ lexemes driverDash s.rest := by
        rw [reads.lexemes_eq, lexemes_word letters]
        exact mem_append_right _ (mem_append_left _ mem_cons_self)
      rcases trailing _ member with gap | semi
      · cases gap
      · cases semi
    | @token gaps rest text lexeme idle reads allGaps first solid =>
      have all := lexemes_of_reads reads first
      have semi : lexeme = .semi := by
        rcases trailing lexeme (by rw [all]; exact mem_append_right _ mem_cons_self) with gap | semi
        · rw [solid] at gap
          cases gap
        · exact semi
      subst semi
      have saved := (judged.pass gaps rest).saveToken other
      have count : (s.pass gaps rest).stmtTokensCount = 0 := none
      have type : (s.pass gaps rest).saveToken.queryType = s.queryType := by
        rw [saveToken_first count]
        rfl
      refine { saved.passLexeme .semi text with ahead := .inr (.inl ?_) }
      rw [passLexeme_semi, type, plain]
      refine ⟨rfl, rfl, rfl, fun lexeme member => trailing lexeme ?_⟩
      rw [all]
      exact mem_append_right _ (mem_cons_of_mem _ member)
  · exact absurd ended unfinished

end Step

/-! ### The whole scan -/

section Run

variable {text : Text}

section

variable (first : firstLexeme driverDash text = some (.other byte, text.tail))

include first

/-- **The first round** of a text that starts with a word or a parenthesis. -/
theorem begun_first {replace batchAllowed : Bool} {s' : Scan}
    (moves : Moves replace batchAllowed { rest := text } s') :
    Begun (text.tail.any breaksToken) (!(firstType (lexemes driverDash text)).doesntReturnResult) s' := by
  have unfinished : text ≠ [] := by
    rintro rfl
    cases first
  rcases moves.first_cases (atToken_of_first first rfl) unfinished with
    ⟨word, after, whole, isCall, rfl⟩ | ⟨lexeme, after, read, -, rfl⟩
  · have letters := isAlpha_of_call isCall
    have breaks : text.tail.any breaksToken = after.any breaksToken := by
      obtain ⟨letter, more, rfl⟩ := exists_cons_of_ne_nil (show word ≠ [] by rintro rfl; cases isCall)
      have plain : more.any breaksToken = false := by
        rw [any_eq_false]
        intro byte member
        rw [not_breaksToken_of_isAlpha (letters byte (mem_cons_of_mem _ member))]
        exact Bool.false_ne_true
      rw [whole, cons_append, tail_cons, any_append, plain, Bool.false_or]
    have type : (firstType (lexemes driverDash text)).doesntReturnResult = false := by
      rw [whole, lexemes_word letters, firstType_call isCall]
      rfl
    rw [saveToken_first rfl]
    refine ⟨rfl, rfl, rfl, rfl, ?_, fun _ => ?_, by rintro ⟨⟩⟩
    · show (typeAhead (lit "E") true (lexemes driverDash (lit "CHO" ++ after))).doesntReturnResult = _
      rw [lexemes_word (by decide), typeAhead_word (by decide), type]
      show (typeAhead (lit "ECHO") true _).doesntReturnResult = _
      rw [typeAhead_eq_echo]
      rfl
    · show (lit "CHO" ++ after).any breaksToken = _
      rw [breaks, any_append]
      rfl
  · rw [first] at read
    cases read
    rw [lexemes_of_reads .nil first, nil_append, firstType, saveToken_first rfl]
    exact ⟨rfl, rfl, rfl, rfl, (Bool.not_not _).symm, fun _ => rfl, by rintro ⟨⟩⟩

theorem single_first {replace batchAllowed : Bool} {s' : Scan}
    (single : SingleStatement (lexemes driverDash text))
    (moves : Moves replace batchAllowed { rest := text } s') :
    SingleStatement (lexemes driverDash s'.rest) := by
  have unfinished : text ≠ [] := by
    rintro rfl
    cases first
  rcases moves.first_cases (atToken_of_first first rfl) unfinished with
    ⟨word, after, rfl, isCall, rfl⟩ | ⟨lexeme, after, read, -, rfl⟩
  · have semi : ∀ {word : Text}, .semi ∉ word.map Lexeme.other := by
      intro word member
      obtain ⟨byte, -, semi⟩ := mem_map.mp member
      cases semi
    rw [lexemes_word (isAlpha_of_call isCall)] at single
    rw [saveToken_first rfl]
    show SingleStatement (lexemes driverDash (lit "CHO" ++ after))
    rw [lexemes_word (by decide)]
    exact (SingleStatement.append_iff semi).mpr (single.of_append semi)
  · rw [first] at read
    cases read
    rw [saveToken_first rfl]
    exact single_of_first first nofun single

/-- **What a single statement says**: the flag is set if a byte behind the first one ends a token, and the type that
is then read off asks for it. -/
theorem run_returnsResult (closed : QuotesClosed text)
    (single : SingleStatement (lexemes driverDash text)) (replace batchAllowed : Bool) :
    let s := run replace batchAllowed { rest := text }
    s.returnsResult = (text.tail.any breaksToken && !(firstType (lexemes driverDash text)).doesntReturnResult) ∧
      s.subQuery.length ≤ 1 ∧
      (s.returnsResult = true → s.queryType = .selectInto ∨ s.queryType.doesntReturnResult = false) := by
  generalize broken : text.tail.any breaksToken = flag
  generalize returns : (!(firstType (lexemes driverDash text)).doesntReturnResult) = value
  have start : ∀ s s', s = { rest := text } ∨ QuotesClosed s.rest ∧
      (Begun flag value s ∧ SingleStatement (lexemes driverDash s.rest) ∨ flag = true ∧ Settled value s) →
      s.rest ≠ [] → Moves replace batchAllowed s s' → s' = { rest := text } ∨ QuotesClosed s'.rest ∧
        (Begun flag value s' ∧ SingleStatement (lexemes driverDash s'.rest) ∨ flag = true ∧ Settled value s') := by
    rintro s s' (rfl | ⟨closed, ⟨begun, single⟩ | ⟨yes, settled⟩⟩) unfinished moves
    · refine .inr ⟨moves.quotesClosed closed, .inl ?_⟩
      refine ⟨?_, single_first first single moves⟩
      rw [← broken, ← returns]
      exact begun_first first moves
    · exact .inr ⟨moves.quotesClosed closed, begun.step moves closed single⟩
    · exact .inr ⟨moves.quotesClosed closed, .inr ⟨yes, settled.step unfinished moves closed⟩⟩
  obtain ⟨holds, ended⟩ := run_invariant start (s := { rest := text }) (.inl rfl) rfl
  generalize run replace batchAllowed { rest := text } = s at holds ended
  rcases holds with rfl | ⟨-, ⟨begun, -⟩ | ⟨rfl, settled⟩⟩
  · rw [show text = [] from ended] at first
    cases first
  · -- the text ends within the first token
    have reading : s.readingToken = true := by
      by_contra idle
      exact (begun.idle (Bool.not_eq_true _ ▸ idle)).2 ended
    have unbroken := begun.reading reading
    rw [ended] at unbroken
    have none : flag = false := unbroken.symm
    refine ⟨?_, ?_, fun set => ?_⟩
    · rw [begun.unset, none, Bool.false_and]
    · rw [begun.none]
      exact Nat.zero_le 1
    · rw [begun.unset] at set
      cases set
  · refine ⟨?_, Nat.le_of_eq settled.alone, fun set => ?_⟩
    · rw [settled.value, Bool.true_and]
    · rw [settled.value] at set
      have type := settled.type
      rw [set] at type
      exact type

omit first in
theorem Scan.Moves.returnsResult {replace batchAllowed : Bool} {s s' : Scan} (moves : Moves replace batchAllowed s s')
    (set : s.returnsResult = true) : s'.returnsResult = true := by
  have saved : ∀ s : Scan, s.returnsResult = true → s.saveToken.returnsResult = true := by
    intro s set
    unfold saveToken enterToken
    split_ifs
    · exact set
    · show (s.returnsResult || _) = true
      rw [set, Bool.true_or]
    · exact set
    · exact set
  cases moves with
  | breaks | continues => exact set
  | @atEnd gaps idle reads allGaps => exact saved (s.pass gaps []) set
  | @call gaps word text idle reads allGaps requested fresh isCall => exact saved (s.pass gaps (lit "ECHO" ++ text)) set
  | @token gaps rest text lexeme idle reads allGaps first solid =>
    have kept := saved (s.pass gaps rest) set
    cases lexeme with
    | semi =>
      rw [passLexeme_semi]
      exact kept
    | _ => exact kept

/-- **A statement that returns a result**, whatever follows it. -/
theorem run_returns (broken : text.tail.any breaksToken = true)
    (returns : (firstType (lexemes driverDash text)).doesntReturnResult = false)
    (replace batchAllowed : Bool) :
    (run replace batchAllowed { rest := text }).returnsResult = true := by
  have kept : ∀ s s', s = { rest := text } ∨ Begun true true s ∨ s.returnsResult = true → s.rest ≠ [] →
      Moves replace batchAllowed s s' → s' = { rest := text } ∨ Begun true true s' ∨ s'.returnsResult = true := by
    rintro s s' (rfl | begun | set) _ moves
    · have begun := begun_first first moves
      rw [broken, returns] at begun
      exact .inr (.inl begun)
    · cases moves with
      | breaks reading rest ends => exact .inr (.inl (begun.breaks reading rest ends))
      | continues reading first plain => exact .inr (.inl (begun.continues reading first plain))
      | atEnd idle reads allGaps =>
        exact .inr (.inr (begun.judged idle reads allGaps (by simp [AtToken, firstLexeme])).value)
      | call idle reads allGaps requested fresh isCall =>
        rw [begun.count] at fresh
        cases fresh
      | @token gaps rest text lexeme idle reads allGaps first solid =>
        have token := atToken_of_first first solid
        exact .inr (.inr ((begun.judged idle reads allGaps token).passLexeme lexeme text).value)
    · exact .inr (.inr (moves.returnsResult set))
  obtain ⟨holds, ended⟩ := run_invariant kept (s := { rest := text }) (.inl rfl) rfl
  generalize run replace batchAllowed { rest := text } = s at holds ended
  rcases holds with rfl | begun | set
  · rw [show text = [] from ended] at first
    cases first
  · cases reading : s.readingToken with
    | false => exact absurd ended (begun.idle reading).2
    | true =>
      have ahead := begun.reading reading
      rw [ended] at ahead
      cases ahead
  · exact set

end

end Run

end MaOdbc
