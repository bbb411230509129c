/-
**The type of the first statement.**

`QueryIsPossiblyMultistmt` looks at the type of the first statement entered. `firstType` reads it off
the lexemes of the text: the first token is known, and the second one starts behind the gap that
follows it. `Typed` is the invariant of the scan from the first token on: before the second token the
type is the one foretold from the lexemes ahead, afterwards it is the query's type. `Typed.step` says
that every round keeps it.
-/

import MaOdbc.Parse.SecondToken

namespace MaOdbc

open List

open Scan

/-- The type `MADB_GetQueryType` will give to a statement whose first token starts the text `done`,
and goes on with the lexemes ahead if `inToken`. -/
def typeAhead (done : Text) (inToken : Bool) (ahead : List Lexeme) : QueryType :=
  let word := if inToken then ahead.takeWhile (·.continues) else []
  let after := if inToken then ahead.dropWhile (·.continues) else ahead
  getQueryType
    (done ++ bytesOf word ++ blankedOf (after.takeWhile (·.isGap)) ++
      bytesOf (after.dropWhile (·.isGap)))
    (bytesOf (after.dropWhile (·.isGap)))

def firstType : List Lexeme → QueryType
  | [] => .noResult
  | lexeme :: more => typeAhead lexeme.bytes (lexeme != .mark) more

variable {text done word : Text} {lexeme : Lexeme} {replace batchAllowed : Bool}

theorem atToken_of_first {after : Text} (first : firstLexeme driverDash text = some (lexeme, after))
    (solid : lexeme.isGap = false) : AtToken driverDash text := by
  intro other after' first'
  rw [first] at first'
  cases first'
  exact solid

/-! ### How the type foretold changes -/

theorem typeAhead_continues (goesOn : lexeme.continues = true) (more : List Lexeme) :
    typeAhead done true (lexeme :: more) = typeAhead (done ++ lexeme.bytes) true more := by
  simp only [typeAhead, if_true, takeWhile_cons_of_pos goesOn,
    dropWhile_cons_of_pos goesOn, bytesOf_cons, append_assoc]

theorem typeAhead_ends (ends : ¬ lexeme.continues = true) (more : List Lexeme) :
    typeAhead done true (lexeme :: more) = typeAhead done false (lexeme :: more) := by
  simp only [typeAhead, if_true, Bool.false_eq_true, if_false, takeWhile_cons_of_neg ends,
    dropWhile_cons_of_neg ends]

theorem typeAhead_word (letters : ∀ byte ∈ word, breaksToken byte = false) (done : Text)
    (more : List Lexeme) :
    typeAhead done true (word.map .other ++ more) = typeAhead (done ++ word) true more := by
  induction word generalizing done with
  | nil => rw [append_nil]; rfl
  | cons byte word ih =>
    have goesOn : (Lexeme.other byte).continues = true := by
      rw [Lexeme.continues, letters byte mem_cons_self]
      rfl
    rw [map_cons, cons_append, typeAhead_continues goesOn,
      ih fun byte member => letters byte (mem_cons_of_mem _ member)]
    rw [show (Lexeme.other byte).bytes = [byte] from rfl, append_assoc]
    rfl

theorem takeWhile_isGap_of_atToken (token : AtToken driverDash text) :
    (lexemes driverDash text).takeWhile (·.isGap) = [] := by
  by_cases empty : text = []
  · rw [empty]
    rfl
  · obtain ⟨lexeme, rest, first⟩ := exists_firstLexeme driverDash empty
    rw [(Reads.cons first .nil).lexemes_eq]
    exact takeWhile_cons_of_neg (by rw [token lexeme rest first]; decide)

theorem typeAhead_gaps {gaps : List Lexeme} (allGaps : ∀ gap ∈ gaps, gap.isGap) (done : Text)
    (token : AtToken driverDash text) :
    typeAhead done false (gaps ++ lexemes driverDash text) =
      getQueryType (done ++ blankedOf gaps ++ text) text := by
  have none := takeWhile_isGap_of_atToken token
  have gap_part : (gaps ++ lexemes driverDash text).takeWhile (·.isGap) = gaps := by
    rw [takeWhile_append_of_pos allGaps, none, append_nil]
  have token_part : (gaps ++ lexemes driverDash text).dropWhile (·.isGap) =
      lexemes driverDash text := by
    have parts := takeWhile_append_dropWhile (p := Lexeme.isGap) (l := lexemes driverDash text)
    rw [none, nil_append] at parts
    rw [dropWhile_append_of_pos allGaps, parts]
  simp only [typeAhead, Bool.false_eq_true, if_false, gap_part, token_part, bytesOf_nil,
    bytesOf_lexemes, append_nil]

theorem getQueryType_word (letters : ∀ byte ∈ word, isAlpha byte = true) (nonempty : word ≠ [])
    (rest second : Text) (entry : Text × QueryType) (found : (firstTokenTypes.find? fun entry =>
      (entry.1.map lower).isPrefixOf (word.map lower ++ (cstr rest).map lower)) = some entry) :
    getQueryType (word ++ rest) second = entry.2 := by
  have cut : cstr (word ++ rest) = word ++ cstr rest := by
    refine takeWhile_append_of_pos fun byte member => ?_
    rw [bne_iff_ne]
    rintro rfl
    cases letters 0 member
  have starts : (word ++ cstr rest).dropWhile (fun byte => !isAlpha byte) = word ++ cstr rest := by
    obtain ⟨byte, more, rfl⟩ := exists_cons_of_ne_nil nonempty
    exact dropWhile_cons_of_neg (by rw [letters byte mem_cons_self]; decide)
  rw [getQueryType, cut, starts]
  simp only [matchesNoCase, map_append, found]

theorem getQueryType_call (isCall : word.map lower = lit "call") (rest second : Text) :
    getQueryType (word ++ rest) second = .call := by
  refine getQueryType_word (isAlpha_of_call isCall) ?_ rest second (lit "CALL", .call) ?_
  · rintro rfl
    cases isCall
  · rw [isCall]
    rfl

theorem getQueryType_echo (rest second : Text) :
    getQueryType (lit "ECHO" ++ rest) second = .echo := by
  exact getQueryType_word (by decide) (by decide) rest second (lit "ECHO", .echo) rfl

/-! ### The invariant -/

/-- The first statement is entered, and its type is procedural or not, as foretold. -/
structure FirstEntered (procedural : Bool) (s : Scan) : Prop where
  entered : s.subQuery ≠ []
  type : s.queryType.isProcedural = procedural
  alone : s.subQuery.length = 1 → s.stmtType = s.queryType

structure FirstStarted (procedural : Bool) (s : Scan) : Prop where
  count : s.stmtTokensCount = 1
  tokens : s.tokens = [0]
  none : s.subQuery = []
  type : (typeAhead s.done s.readingToken (lexemes driverDash s.rest)).isProcedural = procedural

/-- **The type of the first statement**, foretold or known. -/
def Typed (procedural : Bool) (s : Scan) : Prop :=
  FirstStarted procedural s ∨ FirstEntered procedural s

section Step

variable {procedural : Bool} {s s' : Scan} {gaps : List Lexeme} {rest : Text}

theorem FirstEntered.saveToken (entered : FirstEntered procedural s) :
    FirstEntered procedural s.saveToken := by
  rcases Nat.lt_trichotomy s.stmtTokensCount 1 with first | second | later
  · rw [saveToken_first (by omega)]
    exact ⟨entered.entered, entered.type, entered.alone⟩
  · rw [saveToken_second second]
    refine ⟨by simp [addSubQuery], ?_, ?_⟩
    · show QueryType.isProcedural (if s.subQuery = [] then _ else s.queryType) = procedural
      rw [if_neg entered.entered]
      exact entered.type
    · intro alone
      have nonempty := length_pos_iff.mpr entered.entered
      simp [addSubQuery, countToken] at alone
      exact absurd alone entered.entered
  · rcases saveToken_later later with same | ⟨into, changed⟩
    · rw [same]
      exact ⟨entered.entered, entered.type, entered.alone⟩
    · rw [changed]
      have select : s.stmtType = .select := by
        simp only [atSelectInto, Bool.and_eq_true, beq_iff_eq] at into
        exact into.1.1
      have length : s.countToken.changeToSelectInto.subQuery.length = s.subQuery.length :=
        length_modify ..
      have type : s.countToken.changeToSelectInto.queryType =
          if s.subQuery.length = 1 then .selectInto else s.queryType := rfl
      refine ⟨?_, ?_, ?_⟩
      · rw [← length_pos_iff, length]
        exact length_pos_iff.mpr entered.entered
      · rw [type]
        split
        · rename_i alone
          rw [← entered.type, ← entered.alone alone, select]
          rfl
        · exact entered.type
      · intro alone
        rw [type, if_pos (length ▸ alone)]
        rfl

section Second

variable (idle : s.readingToken = false) (reads : Reads driverDash s.rest gaps rest)
  (allGaps : ∀ gap ∈ gaps, gap.isGap) (token : AtToken driverDash rest)

include idle reads allGaps token

theorem getQueryType_second (tokens : s.tokens = [0]) :
    getQueryType ((s.pass gaps rest).buffer.drop (s.pass gaps rest).countToken.previousToken) rest =
      typeAhead s.done s.readingToken (lexemes driverDash s.rest) := by
  have first : (s.pass gaps rest).countToken.previousToken = 0 := by
    show (s.tokens ++ [_]).getD ((s.tokens ++ [_]).length - 2) 0 = 0
    rw [tokens]
    rfl
  rw [first, drop_zero, buffer, Scan.pass, idle, reads.lexemes_eq, typeAhead_gaps allGaps s.done token]

theorem FirstStarted.saveToken (started : FirstStarted procedural s) :
    FirstEntered procedural (s.pass gaps rest).saveToken := by
  have count : (s.pass gaps rest).stmtTokensCount = 1 := started.count
  have none : (s.pass gaps rest).subQuery = [] := started.none
  rw [saveToken_second count]
  refine ⟨by simp [addSubQuery], ?_, ?_⟩
  · show QueryType.isProcedural (if (s.pass gaps rest).subQuery = [] then
      getQueryType ((s.pass gaps rest).buffer.drop (s.pass gaps rest).countToken.previousToken) rest
      else _) = procedural
    rw [if_pos none, getQueryType_second idle reads allGaps token started.tokens]
    exact started.type
  · intro alone
    show _ = if (s.pass gaps rest).subQuery = [] then _ else _
    rw [if_pos none]
    rfl

theorem Typed.saveToken (typed : Typed procedural s) :
    FirstEntered procedural (s.pass gaps rest).saveToken := by
  rcases typed with started | entered
  · exact started.saveToken idle reads allGaps token
  · have passed : FirstEntered procedural (s.pass gaps rest) :=
      ⟨entered.entered, entered.type, entered.alone⟩
    exact passed.saveToken

end Second

theorem FirstEntered.passLexeme (entered : FirstEntered procedural s) (batchAllowed : Bool)
    (lexeme : Lexeme) (text : Text) :
    FirstEntered procedural (s.passLexeme batchAllowed lexeme text) := by
  cases lexeme with
  | semi =>
    rw [passLexeme_semi]
    exact ⟨entered.entered, entered.type, entered.alone⟩
  | _ => exact ⟨entered.entered, entered.type, entered.alone⟩

/-- **Every round keeps the type of the first statement.** -/
theorem Typed.step (typed : Typed procedural s) (moves : Moves replace batchAllowed s s') :
    Typed procedural s' := by
  cases moves with
  | @breaks byte text reading shape ends =>
    rcases typed with started | entered
    · refine .inl ⟨started.count, started.tokens, started.none, ?_⟩
      obtain ⟨lexeme, after, all, stops⟩ := exists_first_of_breaksToken shape ends
      have type := started.type
      rw [reading, all, typeAhead_ends stops] at type
      show (typeAhead s.done false (lexemes driverDash s.rest)).isProcedural = _
      rw [all]
      exact type
    · exact .inr ⟨entered.entered, entered.type, entered.alone⟩
  | @continues lexeme text reading first plain =>
    rcases typed with started | entered
    · refine .inl ⟨started.count, started.tokens, started.none, ?_⟩
      have type := started.type
      have all : lexemes driverDash s.rest = lexeme :: lexemes driverDash text :=
        lexemes_of_reads .nil first
      rw [reading, all, typeAhead_continues plain] at type
      show (typeAhead _ s.readingToken _).isProcedural = _
      rw [reading]
      exact type
    · exact .inr ⟨entered.entered, entered.type, entered.alone⟩
  | @atEnd gaps idle reads allGaps =>
    exact .inr (typed.saveToken idle reads allGaps (by simp [AtToken, firstLexeme]))
  | @call gaps word text idle reads allGaps requested fresh isCall =>
    rcases typed with started | entered
    · rw [started.count] at fresh
      cases fresh
    · have saved := (show FirstEntered procedural (s.pass gaps (lit "ECHO" ++ text)) from
        ⟨entered.entered, entered.type, entered.alone⟩).saveToken
      exact .inr ⟨saved.entered, saved.type, saved.alone⟩
  | @token gaps rest text lexeme idle reads allGaps first solid =>
    have token := atToken_of_first first solid
    exact .inr ((typed.saveToken idle reads allGaps token).passLexeme batchAllowed lexeme text)

end Step

/-! ### The first round -/

section First

variable {procedural : Bool}

theorem gaps_eq_nil_of_atToken {rest : Text} {gaps : List Lexeme} (token : AtToken driverDash text)
    (reads : Reads driverDash text gaps rest) (allGaps : ∀ gap ∈ gaps, gap.isGap) :
    gaps = [] ∧ rest = text := by
  cases reads with
  | nil => exact ⟨rfl, rfl⟩
  | @cons text next rest gap more first later =>
    have isGap := allGaps gap mem_cons_self
    rw [token gap next first] at isGap
    cases isGap

/-- **Where the lexemes ahead of a round come from**: they lay ahead before it, belong to `ECHO`, or to a quote that
does not close. -/
theorem Scan.Moves.mem_ahead {s s' : Scan} (moves : Moves replace batchAllowed s s')
    (member : lexeme ∈ lexemes driverDash s'.rest) :
    lexeme ∈ lexemes driverDash s.rest ∨ (∃ byte ∈ lit "CHO", lexeme = .other byte) ∨
      ∃ quote body, .unclosed quote body ∈ lexemes driverDash s.rest ∧ lexeme ∈ lexemes driverDash (body.drop 1) := by
  cases moves with
  | breaks reading rest ends => exact .inl member
  | continues reading first plain =>
    rw [lexemes_of_reads .nil first]
    exact .inl (mem_cons_of_mem _ member)
  | atEnd idle reads allGaps =>
    rw [saveToken_rest] at member
    cases member
  | @call gaps word text idle reads allGaps requested fresh isCall =>
    rw [lexemes_echo] at member
    rcases mem_append.mp member with letter | later
    · obtain ⟨byte, isLetter, rfl⟩ := mem_map.mp letter
      exact .inr (.inl ⟨byte, isLetter, rfl⟩)
    · rw [reads.lexemes_eq, lexemes_word (isAlpha_of_call isCall)]
      exact .inl (mem_append_right _ (mem_append_right _ later))
  | @token gaps rest text head idle reads allGaps first solid =>
    have all := lexemes_of_reads reads first
    have plain (later : lexeme ∈ lexemes driverDash text) : lexeme ∈ lexemes driverDash s.rest := by
      rw [all]
      exact mem_append_right _ (mem_cons_of_mem _ later)
    cases head with
    | unclosed quote body => exact .inr (.inr ⟨quote, body, by rw [all]; simp, member⟩)
    | semi =>
      rw [passLexeme_semi] at member
      exact .inl (plain member)
    | _ => exact .inl (plain member)

/-- **What the first round can do** to a text that starts with a token: it reads a `CALL`, or a lexeme. -/
theorem Scan.Moves.first_cases {s' : Scan} (token : AtToken driverDash text)
    (unfinished : text ≠ []) (moves : Moves replace batchAllowed { rest := text } s') :
    (∃ word after, text = word ++ after ∧ word.map lower = lit "call" ∧
        s' = ({ rest := lit "ECHO" ++ after } : Scan).saveToken.advance 1) ∨
      ∃ lexeme after, firstLexeme driverDash text = some (lexeme, after) ∧ lexeme.isGap = false ∧
        s' = ({ rest := text } : Scan).saveToken.passLexeme batchAllowed lexeme after := by
  cases moves with
  | breaks reading rest ends => cases reading
  | continues reading first plain => cases reading
  | atEnd idle reads allGaps => exact absurd (gaps_eq_nil_of_atToken token reads allGaps).2.symm unfinished
  | @call gaps word after idle reads allGaps requested fresh isCall =>
    obtain ⟨rfl, whole⟩ := gaps_eq_nil_of_atToken token reads allGaps
    exact .inl ⟨word, after, whole.symm, isCall, rfl⟩
  | @token gaps rest after lexeme idle reads allGaps first solid =>
    obtain ⟨rfl, whole⟩ := gaps_eq_nil_of_atToken token reads allGaps
    have same : rest = text := whole
    subst same
    exact .inr ⟨lexeme, after, first, solid, rfl⟩

theorem typeAhead_eq_echo (more : List Lexeme) : typeAhead (lit "ECHO") true more = .echo := by
  rw [typeAhead, if_pos rfl, if_pos rfl, append_assoc, append_assoc]
  exact getQueryType_echo _ _

theorem typeAhead_eq_call (isCall : word.map lower = lit "call") (more : List Lexeme) :
    typeAhead word true more = .call := by
  rw [typeAhead, if_pos rfl, if_pos rfl, append_assoc, append_assoc]
  exact getQueryType_call isCall _ _

theorem firstType_call (isCall : word.map lower = lit "call") (more : List Lexeme) :
    firstType (word.map .other ++ more) = .call := by
  have letters := isAlpha_of_call isCall
  obtain ⟨letter, tail, rfl⟩ := exists_cons_of_ne_nil (show word ≠ [] by rintro rfl; cases isCall)
  have plain : ∀ byte ∈ tail, breaksToken byte = false := fun byte member =>
    not_breaksToken_of_isAlpha (letters byte (mem_cons_of_mem _ member))
  have goesOn : (Lexeme.other letter != .mark) = true := rfl
  rw [map_cons, cons_append, firstType, goesOn, typeAhead_word plain]
  exact typeAhead_eq_call isCall more

/-- **The first round** settles what the type will be, unless the text starts with a semicolon or with
a quote that does not close. -/
theorem typed_first {s' : Scan} (token : AtToken driverDash text) (unfinished : text ≠ [])
    (starts : ∀ lexeme after, firstLexeme driverDash text = some (lexeme, after) →
      lexeme ≠ .semi ∧ lexeme.isUnclosed = false)
    (moves : Moves replace batchAllowed { rest := text } s') :
    Typed (firstType (lexemes driverDash text)).isProcedural s' := by
  rcases moves.first_cases token unfinished with ⟨word, after, rfl, isCall, rfl⟩ | ⟨lexeme, after, first, solid, rfl⟩
  · rw [lexemes_word (isAlpha_of_call isCall), firstType_call isCall, saveToken_first rfl]
    refine .inl ⟨rfl, rfl, rfl, ?_⟩
    show (typeAhead (lit "E") true (lexemes driverDash (lit "CHO" ++ after))).isProcedural = _
    rw [lexemes_word (by decide), typeAhead_word (by decide)]
    show (typeAhead (lit "ECHO") true _).isProcedural = _
    rw [typeAhead_eq_echo]
    rfl
  · obtain ⟨notSemi, closed⟩ := starts lexeme after first
    rw [lexemes_of_reads .nil first, nil_append, firstType, saveToken_first rfl]
    cases lexeme with
    | blank | comment => cases solid
    | semi => exact absurd rfl notSemi
    | unclosed quote body => cases closed
    | mark | quoted | other => exact .inl ⟨rfl, rfl, rfl, rfl⟩

theorem Typed.nextSemicolon {s : Scan} (typed : Typed procedural s) : NextSemicolon procedural s := by
  intro gaps rest text idle reads allGaps first
  exact (typed.saveToken idle reads allGaps (atToken_of_first first rfl)).type

end First

end MaOdbc
