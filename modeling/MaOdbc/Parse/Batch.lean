/-
**Batches: the statements of a text and the segments the driver keeps.**

With batches allowed every semicolon outside quotes and comments ends a segment, and the executor
walks over as many segments as there are entries. `run_batch_iff` says for which texts this finds
every statement: each statement must hold a token, the last one two of them, and a batch must not
start with a procedural statement.
-/

import MaOdbc.Parse.FirstType
import MaOdbc.Parse.Aligned

namespace MaOdbc

open List

open Scan

/-! ### What lies ahead of a round -/

variable {batchAllowed : Bool} {s s' : Scan}

section

variable {replace : Bool} (moves : Moves replace batchAllowed s s') (whole : QuotesWhole s.rest)

include moves whole

theorem Scan.Moves.ahead {lexeme : Lexeme} (member : lexeme ∈ lexemes driverDash s'.rest) :
    lexeme ∈ lexemes driverDash s.rest ∨ ch ';' ∉ lexeme.bytes := by
  rcases moves.mem_ahead member with here | ⟨byte, letter, rfl⟩ | ⟨quote, body, unclosed, later⟩
  · exact .inl here
  · have plain : ∀ byte ∈ lit "CHO", ch ';' ≠ byte := by decide
    exact .inr fun same => plain byte letter (mem_singleton.mp same)
  · refine .inr fun semicolon => whole quote body unclosed (mem_of_mem_drop (i := 1) ?_)
    rw [← bytesOf_lexemes driverDash (body.drop 1)]
    exact mem_flatMap.mpr ⟨lexeme, later, semicolon⟩

theorem Scan.Moves.quotesWhole : QuotesWhole s'.rest := by
  intro quote body member
  rcases moves.ahead whole member with before | free
  · exact whole quote body before
  · exact fun semicolon => free (mem_cons_of_mem _ semicolon)

theorem Scan.Moves.semi_not_mem (one : .semi ∉ lexemes driverDash s.rest) :
    .semi ∉ lexemes driverDash s'.rest := by
  intro member
  rcases moves.ahead whole member with before | free
  · exact one before
  · exact free (mem_singleton_self _)

end

theorem nextSemicolon_of_not_mem (one : .semi ∉ lexemes driverDash s.rest) (procedural : Bool) :
    NextSemicolon procedural s := by
  intro gaps rest text idle reads allGaps first
  refine absurd ?_ one
  rw [lexemes_of_reads reads first]
  simp

/-! ### The statements that should be sent -/

def tokenSlices : List (List Lexeme) → Text → List Text
  | [], _ => []
  | statement :: more, text =>
    let length := (bytesOf statement).length
    (if hasToken statement then [text.take length] else []) ++
      tokenSlices more (text.drop (length + 1))

theorem tokenSlices_joinSegments {statements : List (List Lexeme)} {finished : List Text}
    {current : Text}
    (shapes : (finished ++ [current]).map segmentShape = statements.map statementShape)
    (solid : ∀ statement ∈ statements, hasToken statement = true) :
    tokenSlices statements (joinSegments finished current) = finished ++ [current] := by
  induction finished generalizing statements with
  | nil =>
    obtain ⟨statement, rfl, same⟩ := map_eq_singleton_iff.mp shapes.symm
    have length : (bytesOf statement).length = current.length := congrArg Prod.fst same
    have token := solid statement (mem_singleton_self _)
    simp [tokenSlices, token, length, joinSegments]
  | cons segment finished ih =>
    obtain ⟨statement, more, rfl, same, later⟩ := map_eq_cons_iff.mp shapes.symm
    have length : (bytesOf statement).length = segment.length := congrArg Prod.fst same
    have token := solid statement mem_cons_self
    have tail := ih later.symm fun statement member => solid statement (mem_cons_of_mem _ member)
    rw [joinSegments_cons, tokenSlices, if_pos token, length, take_left, drop_length_add_append, drop_succ_cons,
      drop_zero, tail]
    rfl

/-- **A batch taken whole**: entries and segments correspond, and the walk over the refined text
finds every statement with a token, once and in order. -/
def TakenWhole (text : Text) (s : Scan) : Prop :=
  Corresponds s.done s.entries ∧
    firstStrings s.entries.length s.done =
      tokenSlices (statementsOf (lexemes driverDash text)) s.done

def Batchable (text : Text) : Prop :=
  (∀ statement ∈ statementsOf (lexemes driverDash text), hasToken statement = true) ∧
    twoTokens (lastStatement (lexemes driverDash text)) = true ∧
    ((statementsOf (lexemes driverDash text)).length = 1 ∨
      (firstType (lexemes driverDash text)).isProcedural = false)

instance (text : Text) : Decidable (Batchable text) := by
  unfold Batchable
  infer_instance

section Run

variable {replace : Bool} {text : Text}

theorem run_foretold {guard : Scan → Prop} (cuts : ∀ s, guard s → NextSemicolon false s)
    (kept : ∀ s s', guard s → QuotesWhole s.rest → s.rest ≠ [] → Moves replace true s s' → guard s')
    (start : guard { rest := text }) (nulFree : 0 ∉ text) (whole : QuotesWhole text) :
    (segments (run replace true { rest := text }).done).map segmentShape =
        (statementsOf (lexemes driverDash text)).map statementShape ∧
      decide (2 ≤ (run replace true { rest := text }).stmtTokensCount) =
        twoTokens (lastStatement (lexemes driverDash text)) := by
  let invariant (s : Scan) : Prop :=
    (∃ finished current, Entered s finished current) ∧ guard s ∧ QuotesWhole s.rest ∧
      shapeAhead s = shapeAhead { rest := text } ∧ twoAhead s = twoAhead { rest := text }
  have step : ∀ s s', invariant s → s.rest ≠ [] → Moves replace true s s' → invariant s' := by
    rintro s s' ⟨⟨finished, current, entered⟩, guarded, quotes, shape, two⟩ unfinished moves
    have cut := cuts s guarded
    exact ⟨entered.step unfinished moves, kept s s' guarded quotes unfinished moves,
      moves.quotesWhole quotes, (moves.shapeAhead_eq entered.aheadFree cut quotes).trans shape,
      (moves.twoAhead_eq unfinished cut quotes).trans two⟩
  have first : invariant { rest := text } :=
    ⟨⟨[], [], entered_start nulFree⟩, start, whole, rfl, rfl⟩
  obtain ⟨⟨-, -, -, shape, two⟩, finished⟩ := run_invariant step first rfl
  have nothing : lexemes driverDash (run replace true { rest := text }).rest = [] := by
    rw [finished]
    rfl
  constructor
  · rw [shapeAhead, shapeAhead, nothing, map_nil, append_nil, shape_text] at shape
    rw [shape, ← shape_statements]
    rfl
  · have atStart : twoAhead { rest := text } = twoTokens (lastStatement (lexemes driverDash text)) :=
      reachesTwo_eq_twoTokens (lexemes_reads driverDash text).unclosedLast
    rw [← atStart, ← two, twoAhead, nothing, progressOf]
    split <;> rfl

theorem takenWhole_of_foretold
    (shapes : (segments (run replace true { rest := text }).done).map segmentShape =
      (statementsOf (lexemes driverDash text)).map statementShape)
    (two : decide (2 ≤ (run replace true { rest := text }).stmtTokensCount) =
      twoTokens (lastStatement (lexemes driverDash text))) (nulFree : 0 ∉ text) :
    TakenWhole text (run replace true { rest := text }) ↔
      (∀ statement ∈ statementsOf (lexemes driverDash text), hasToken statement = true) ∧
        twoTokens (lastStatement (lexemes driverDash text)) = true := by
  obtain ⟨finished, current, entered⟩ := run_entered replace nulFree
  have tokens : (∀ segment ∈ segments (run replace true { rest := text }).done,
      isBlank segment = false) ↔
      ∀ statement ∈ statementsOf (lexemes driverDash text), hasToken statement = true := by
    have left := forall_mem_map (f := segmentShape) (P := fun part => part.2 = true)
      (l := segments (run replace true { rest := text }).done)
    have right := forall_mem_map (f := statementShape) (P := fun part => part.2 = true)
      (l := statementsOf (lexemes driverDash text))
    rw [shapes] at left
    simpa [segmentShape, statementShape] using left.symm.trans right
  have corresponds := entered.corresponds_iff
  rw [tokens, ← decide_eq_true_iff (p := 2 ≤ _), two] at corresponds
  rw [TakenWhole, corresponds, and_iff_left_iff_imp]
  rintro ⟨solid, twoLast⟩
  have segs : segments (run replace true { rest := text }).done = finished ++ [current] := by
    rw [entered.done, segments_joinSegments entered.finishedFree entered.currentFree]
  have length : (run replace true { rest := text }).entries.length = finished.length + 1 := by
    have same := congrArg List.length (corresponds.mpr ⟨solid, twoLast⟩).1
    rwa [length_map, length_segmentTokens, segs, length_append] at same
  rw [segs] at shapes
  rw [length, entered.done, firstStrings_joinSegments entered.finishedFree entered.currentFree,
    tokenSlices_joinSegments shapes solid]

/-! ### Texts that are not taken whole -/

theorem Scan.Moves.nulFree_done (moves : Moves replace true s s') (keeps : NextSemicolon true s)
    (free : 0 ∉ s.done) (ahead : 0 ∉ s.rest) : 0 ∉ s'.done := by
  have joined {added : Text} (addedFree : 0 ∉ added) : 0 ∉ s.done ++ added := by
    exact not_mem_append free addedFree
  cases moves with
  | breaks reading rest ends => exact free
  | continues reading first plain =>
    rw [firstLexeme_bytes first, mem_append, not_or] at ahead
    exact joined ahead.1
  | atEnd idle reads allGaps =>
    rw [saveToken_done]
    exact joined (nulFree_of_isBlank (isBlank_blankedOf reads allGaps))
  | @call gaps word text idle reads allGaps requested fresh isCall =>
    have blank := isBlank_blankedOf reads allGaps
    rw [advance, saveToken_done, saveToken_rest, pass, append_assoc]
    refine joined ?_
    exact not_mem_append (nulFree_of_isBlank blank) (by simp [lit, ch])
  | @token gaps rest text lexeme idle reads allGaps first solid =>
    have blank := nulFree_of_isBlank (isBlank_blankedOf reads allGaps)
    have saved : (s.pass gaps rest).saveToken.done = s.done ++ blankedOf gaps := saveToken_done _
    rw [reads.bytes, firstLexeme_bytes first, mem_append, mem_append, not_or, not_or] at ahead
    have plain {added : Text} (addedFree : 0 ∉ added) :
        0 ∉ (s.pass gaps rest).saveToken.done ++ added := by
      rw [saved, append_assoc]
      refine joined ?_
      exact not_mem_append blank addedFree
    cases lexeme with
    | semi =>
      rw [passLexeme_semi, semicolonByte, keeps gaps rest text idle reads allGaps first]
      exact plain (by decide)
    | unclosed quote body =>
      refine plain fun member => ahead.2.1 ?_
      rcases mem_cons.mp member with rfl | later
      · exact mem_cons_self
      · exact mem_cons_of_mem _ (mem_of_mem_take later)
    | _ => exact plain ahead.2.1

theorem not_corresponds_of_semi {after : Text}
    (first : firstLexeme driverDash text = some (.semi, after)) :
    ¬ Corresponds (run replace true { rest := text }).done
      (run replace true { rest := text }).entries := by
  have step : ∀ s s', (s = { rest := text } ∨ [0] <+: s.done) → s.rest ≠ [] →
      Moves replace true s s' → s' = { rest := text } ∨ [0] <+: s'.done := by
    rintro s s' (rfl | started) unfinished moves
    · refine .inr ?_
      rcases moves.first_cases (atToken_of_first first rfl) unfinished with
        ⟨word, after, whole, isCall, rfl⟩ | ⟨lexeme, after, first', -, rfl⟩
      · have all := lexemes_word (isAlpha_of_call isCall) after
        rw [← whole, lexemes_of_reads .nil first] at all
        have four := length_of_call isCall
        cases word with
        | nil => cases four
        | cons letter word => cases all
      · rw [first] at first'
        cases first'
        rw [passLexeme_semi, saveToken_first rfl]
        exact prefix_rfl
    · exact .inr (started.trans moves.done_prefix)
  obtain ⟨started, finished⟩ := run_invariant step (.inl rfl) rfl
  rcases started with same | ⟨more, done⟩
  · rw [same] at finished
    rw [show text = [] from finished] at first
    cases first
  · rintro ⟨-, nonempty⟩
    refine nonempty [] ?_ rfl
    rw [← done, segments, singleton_append, ← nil_append (0 :: more),
      splitOnP_append_cons [] more (by rfl)]
    simp

/-- A text that starts with a token other than a semicolon or an unclosed quote. -/
structure StartsPlain (text : Text) : Prop where
  token : AtToken driverDash text
  plain : ∀ lexeme after, firstLexeme driverDash text = some (lexeme, after) →
    lexeme ≠ .semi ∧ lexeme.isUnclosed = false

/-- At the start, or where the first statement's type is settled. -/
def TypedFrom (text : Text) (s : Scan) : Prop :=
  s = { rest := text } ∨ Typed (firstType (lexemes driverDash text)).isProcedural s

theorem TypedFrom.step (starts : StartsPlain text) (typed : TypedFrom text s)
    (unfinished : s.rest ≠ []) (moves : Moves replace batchAllowed s s') : TypedFrom text s' := by
  rcases typed with rfl | typed
  · exact .inr (typed_first starts.token unfinished starts.plain moves)
  · exact .inr (typed.step moves)

theorem TypedFrom.nextSemicolon (starts : StartsPlain text) (typed : TypedFrom text s) :
    NextSemicolon (firstType (lexemes driverDash text)).isProcedural s := by
  rcases typed with rfl | typed
  · intro gaps rest after idle reads allGaps first
    obtain ⟨rfl, whole⟩ := gaps_eq_nil_of_atToken starts.token reads allGaps
    rw [show rest = text from whole] at first
    exact absurd rfl (starts.plain _ _ first).1
  · exact typed.nextSemicolon

theorem exists_first_statement (starts : StartsPlain text)
    (several : .semi ∈ lexemes driverDash text) :
    ∃ statement more, statementsOf (lexemes driverDash text) = statement :: more ∧ more ≠ [] ∧
      hasToken statement = true ∧ (bytesOf statement).length < text.length := by
  obtain ⟨before, after, split, whole⟩ := eq_append_cons_of_mem several
  refine ⟨before, statementsOf after, ?_, splitOnP_ne_nil _ _, ?_, ?_⟩
  · rw [split, statementsOf_semi, statementsOf_whole whole]
    rfl
  · obtain ⟨lexeme, rest, first⟩ := exists_firstLexeme driverDash
      (show text ≠ [] by rintro rfl; cases several)
    rw [lexemes_of_reads .nil first, nil_append] at split
    cases before with
    | nil => exact absurd (List.cons.inj split).1 (starts.plain lexeme rest first).1
    | cons head before =>
      rw [← (List.cons.inj split).1, hasToken, any_cons, starts.token lexeme rest first]
      rfl
  · have total := congrArg List.length (bytesOf_lexemes driverDash text)
    rw [split, bytesOf_append, bytesOf_cons, length_append, length_append] at total
    simp only [Lexeme.bytes, length_singleton] at total
    omega

theorem first_round (starts : StartsPlain text) (several : .semi ∈ lexemes driverDash text)
    (moves : Moves replace batchAllowed { rest := text } s') :
    .semi ∈ lexemes driverDash s'.rest ∧ ∃ byte more, s'.done = byte :: more ∧ isSpace byte = false := by
  have unfinished : text ≠ [] := by
    rintro rfl
    cases several
  rcases moves.first_cases starts.token unfinished with ⟨word, after, rfl, isCall, rfl⟩ | ⟨lexeme, after, first, solid, rfl⟩
  · rw [lexemes_word (isAlpha_of_call isCall)] at several
    rw [saveToken_first rfl]
    refine ⟨?_, ch 'E', [], rfl, by decide⟩
    show .semi ∈ lexemes driverDash (lit "CHO" ++ after)
    rw [lexemes_word (by decide)]
    rcases mem_append.mp several with letter | later
    · obtain ⟨_, -, same⟩ := mem_map.mp letter
      cases same
    · exact mem_append_right _ later
  · obtain ⟨notSemi, closed⟩ := starts.plain lexeme after first
    have head := exists_head_of_solid first solid
    rw [lexemes_of_reads .nil first, nil_append] at several
    have later : .semi ∈ lexemes driverDash after := by
      rcases mem_cons.mp several with same | later
      · exact absurd same.symm notSemi
      · exact later
    rw [saveToken_first rfl]
    cases lexeme with
    | blank | comment => cases solid
    | semi => exact absurd rfl notSemi
    | unclosed quote body => cases closed
    | _ => exact ⟨later, head⟩

theorem Typed.pending {procedural : Bool} (typed : Typed procedural s)
    (pending : s.subQuery = [] → .semi ∈ lexemes driverDash s.rest)
    (moves : Moves replace batchAllowed s s') :
    s'.subQuery = [] → .semi ∈ lexemes driverDash s'.rest := by
  intro none
  cases moves with
  | breaks reading rest ends => exact pending none
  | continues reading first plain =>
    have ahead := pending none
    rw [lexemes_of_reads .nil first] at ahead
    rcases mem_cons.mp ahead with rfl | later
    · cases plain
    · exact later
  | atEnd idle reads allGaps =>
    exact absurd none (typed.saveToken idle reads allGaps (by simp [AtToken, firstLexeme])).entered
  | @call gaps word text idle reads allGaps requested fresh isCall =>
    rcases typed with started | entered
    · rw [started.count] at fresh
      cases fresh
    · have passed : FirstEntered procedural (s.pass gaps (lit "ECHO" ++ text)) :=
        ⟨entered.entered, entered.type, entered.alone⟩
      exact absurd none passed.saveToken.entered
  | @token gaps rest text lexeme idle reads allGaps first solid =>
    have token := atToken_of_first first solid
    exact absurd none ((typed.saveToken idle reads allGaps token).passLexeme batchAllowed lexeme text).entered

/-- **A text that starts with a procedural statement** is not cut, and has one entry. -/
theorem run_uncut (replace : Bool) (starts : StartsPlain text) (nulFree : 0 ∉ text)
    (several : .semi ∈ lexemes driverDash text)
    (procedural : (firstType (lexemes driverDash text)).isProcedural = true) :
    0 ∉ (run replace true { rest := text }).done ∧ (run replace true { rest := text }).entries = [0] ∧
      (run replace true { rest := text }).done.length = text.length := by
  let invariant (s : Scan) : Prop :=
    (∃ finished current, Entered s finished current) ∧ TypedFrom text s ∧ 0 ∉ s.done ∧
      s.done.length + s.rest.length = text.length ∧ (s.subQuery = [] → .semi ∈ lexemes driverDash s.rest) ∧
      (s = { rest := text } ∨ ∃ byte more, s.done = byte :: more ∧ isSpace byte = false)
  have step : ∀ s s', invariant s → s.rest ≠ [] → Moves replace true s s' → invariant s' := by
    rintro s s' ⟨⟨finished, current, entered⟩, typed, free, length, pending, head⟩ unfinished moves
    have keeps := typed.nextSemicolon starts
    rw [procedural] at keeps
    refine ⟨entered.step unfinished moves, typed.step starts unfinished moves,
      moves.nulFree_done keeps free entered.aheadFree, ?_, ?_, .inr ?_⟩
    · obtain ⟨added, done, lengths⟩ := moves.passed
      rw [done, length_append]
      omega
    · rcases typed with rfl | typed
      · exact fun _ => (first_round starts several moves).1
      · exact typed.pending pending moves
    · rcases head with rfl | ⟨byte, more, done, solid⟩
      · exact (first_round starts several moves).2
      · obtain ⟨added, grown⟩ := moves.done_prefix
        exact ⟨byte, more ++ added, by rw [← grown, done]; rfl, solid⟩
  have first : invariant { rest := text } :=
    ⟨⟨[], [], entered_start nulFree⟩, .inl rfl, not_mem_nil, Nat.zero_add _, fun _ => several, .inl rfl⟩
  obtain ⟨⟨⟨finished, current, entered⟩, -, free, length, pending, head⟩, ended⟩ := run_invariant step first rfl
  generalize run replace true { rest := text } = s at *
  rw [ended] at length pending
  have one : finished = [] := by
    cases finished with
    | nil => rfl
    | cons segment finished =>
      refine absurd ?_ free
      rw [entered.done, joinSegments_cons]
      simp
  subst one
  refine ⟨free, ?_, length⟩
  rcases entered.entered with ⟨segment, member, -⟩ | same
  · cases member
  by_cases two : 2 ≤ s.stmtTokensCount
  · rw [if_pos two] at same
    have start : s.curQuery = 0 := by
      rcases head with rfl | ⟨byte, more, done, solid⟩
      · rfl
      · rw [entered.done] at done
        have shape : current = byte :: more := done
        rw [entered.started (by omega), shape, takeWhile_cons_of_neg (by rw [solid]; exact Bool.false_ne_true)]
        rfl
    rw [start] at same
    exact map_injective_iff.mpr (fun _ _ => Option.some.inj) same
  · rw [if_neg two] at same
    have none : s.subQuery = [] := map_eq_nil_iff.mp (map_eq_nil_iff.mp same)
    cases pending none

theorem not_takenWhole_of_procedural (starts : StartsPlain text) (nulFree : 0 ∉ text)
    (several : .semi ∈ lexemes driverDash text)
    (procedural : (firstType (lexemes driverDash text)).isProcedural = true) :
    ¬ TakenWhole text (run replace true { rest := text }) := by
  obtain ⟨free, entries, length⟩ := run_uncut replace starts nulFree several procedural
  obtain ⟨statement, more, statements, -, token, shorter⟩ := exists_first_statement starts several
  rintro ⟨-, strings⟩
  rw [statements, tokenSlices, if_pos token, singleton_append, entries, length_singleton, firstStrings,
    cstr_of_nulFree free] at strings
  have same := congrArg List.length (List.cons.inj strings).1
  rw [length_take] at same
  omega

theorem startsPlain_of_semi (token : AtToken driverDash text) (several : .semi ∈ lexemes driverDash text)
    (opens : ∀ after, firstLexeme driverDash text ≠ some (.semi, after)) : StartsPlain text := by
  refine ⟨token, fun lexeme after first => ⟨?_, ?_⟩⟩
  · rintro rfl
    exact opens after first
  · cases lexeme with
    | unclosed quote body =>
      obtain rfl := rest_eq_nil_of_unclosed first
      rw [lexemes_of_reads .nil first] at several
      cases several with
      | tail _ later => cases later
    | _ => rfl

/-- **Segments as foretold**: where the first statement is not procedural, or is all there is, the segments have the
lengths and tokens of the statements. -/
theorem run_shapes (replace : Bool) (token : AtToken driverDash text) (nulFree : 0 ∉ text) (whole : QuotesWhole text)
    (opens : ∀ after, firstLexeme driverDash text ≠ some (.semi, after))
    (cuts : .semi ∈ lexemes driverDash text → (firstType (lexemes driverDash text)).isProcedural = false) :
    (segments (run replace true { rest := text }).done).map segmentShape =
        (statementsOf (lexemes driverDash text)).map statementShape ∧
      decide (2 ≤ (run replace true { rest := text }).stmtTokensCount) =
        twoTokens (lastStatement (lexemes driverDash text)) := by
  by_cases several : .semi ∈ lexemes driverDash text
  · have starts := startsPlain_of_semi token several opens
    exact run_foretold (fun s typed => cuts several ▸ TypedFrom.nextSemicolon starts typed)
      (fun s s' typed _ unfinished moves => TypedFrom.step starts typed unfinished moves) (.inl rfl) nulFree whole
  · exact @run_foretold replace text (fun s => .semi ∉ lexemes driverDash s.rest)
      (fun s one => nextSemicolon_of_not_mem one false)
      (fun s s' one quotes _ moves => moves.semi_not_mem quotes one) several nulFree whole

/-- **Batches.** The driver finds every statement of a batch, and one segment for each entry, exactly
if every statement has a token, the last one has two, and a batch does not start with a procedural
statement. -/
theorem run_batch_iff (replace : Bool) (token : AtToken driverDash text) (nulFree : 0 ∉ text)
    (whole : QuotesWhole text) :
    TakenWhole text (run replace true { rest := text }) ↔ Batchable text := by
  by_cases opens : ∃ after, firstLexeme driverDash text = some (.semi, after)
  · -- the first statement is empty
    obtain ⟨after, first⟩ := opens
    refine iff_of_false (fun taken => not_corresponds_of_semi first taken.1) fun batch => ?_
    have nothing := batch.1 [] (by
      rw [lexemes_of_reads .nil first, statementsOf_semi]
      exact mem_cons_self)
    cases nothing
  rw [not_exists] at opens
  by_cases several : .semi ∈ lexemes driverDash text
  · have starts := startsPlain_of_semi token several opens
    cases procedural : (firstType (lexemes driverDash text)).isProcedural with
    | true =>
      obtain ⟨statement, more, statements, others, -⟩ := exists_first_statement starts several
      refine iff_of_false (not_takenWhole_of_procedural starts nulFree several procedural) ?_
      rintro ⟨-, -, one | plain⟩
      · rw [statements, length_cons] at one
        exact others (length_eq_zero_iff.mp (by omega))
      · rw [procedural] at plain
        cases plain
    | false =>
      obtain ⟨shapes, two⟩ := run_shapes replace token nulFree whole opens fun _ => procedural
      rw [takenWhole_of_foretold shapes two nulFree, Batchable, procedural]
      simp
  · -- one statement
    obtain ⟨shapes, two⟩ := run_shapes replace token nulFree whole opens fun member => absurd member several
    rw [takenWhole_of_foretold shapes two nulFree, Batchable, statementsOf_whole several]
    simp

end Run

end MaOdbc
