/-
**Statements that hold semicolons of their own.**

A text is a row of statements with a semicolon between each two. Stored procedures and functions and code blocks hold
semicolons in their bodies; whether the scanner cuts there depends on the type of the first statement alone.

* `keptWhole_of_shapes`: where semicolons are cut, a statement is kept if it holds none and its first token ends.
* `run_uncut`: where they are not, there is one entry for the whole text.
* `routines_kept_iff`: for which texts every such statement is kept.
-/

import MaOdbc.Parse.Batch
import MaOdbc.Parse.DoubleDash

namespace MaOdbc

open List

open Scan

/-! ### Procedures, functions and blocks -/

def wordsOf (statement : List Lexeme) : List Text :=
  ((statement.splitOnP (·.isGap)).filter (· ≠ [])).map fun word => (bytesOf word).map lower

/-- What `CREATE` can create with a `DEFINER` clause. -/
def objectKinds : List Text := [lit "procedure", lit "function", lit "view", lit "trigger", lit "event"]

/-- The words behind `CREATE` and `OR REPLACE` name a procedure or function. -/
def namesRoutine : List Text → Bool
  | [] => false
  | first :: words =>
    let kind := if (lit "definer").isPrefixOf first then words.find? objectKinds.contains else some first
    kind == some (lit "procedure") || kind == some (lit "function")

/-- A statement that creates a procedure or function, a `BEGIN NOT ATOMIC` block or a `DO` block. -/
def isRoutine (statement : List Lexeme) : Bool :=
  match wordsOf statement with
  | [] => false
  | first :: words =>
    first == lit "create" &&
        namesRoutine (if [lit "or", lit "replace"].isPrefixOf words then words.drop 2 else words) ||
      first == lit "begin" && [lit "not", lit "atomic"].isPrefixOf words ||
      first == lit "do" && !words.isEmpty

/-- **A text as a row of statements**, each with a token. Only routines hold semicolons. -/
structure StatementList (text : Text) where
  statements : List (List Lexeme)
  nonempty : statements ≠ []
  joined : lexemes driverDash text = [Lexeme.semi].intercalate statements
  solid : ∀ statement ∈ statements, hasToken statement = true
  plain : ∀ statement ∈ statements, isRoutine statement = false → .semi ∉ statement
  quotes : QuotesWhole text

def startOf (before : List (List Lexeme)) : Nat := (before.map fun statement => (bytesOf statement).length + 1).sum

/-- A statement is kept whole: none of its bytes is cut, and one entry points into it. -/
def KeptWhole (refinedText : Text) (entries : List Nat) (start length : Nat) : Prop :=
  0 ∉ (refinedText.drop start).take length ∧
    (entries.countP fun offset => start ≤ offset && offset < start + length) = 1

instance (refinedText : Text) (entries : List Nat) (start length : Nat) :
    Decidable (KeptWhole refinedText entries start length) :=
  inferInstanceAs (Decidable (_ ∧ _))

/-! ### Words -/

theorem wordsOf_cons {lexeme : Lexeme} (solid : lexeme.isGap = false) (more : List Lexeme) :
    ∃ word words, wordsOf (lexeme :: more) = (lexeme.bytes ++ word).map lower :: words := by
  rw [wordsOf, splitOnP_cons_eq_if_modifyHead, if_neg (by rw [solid]; exact Bool.false_ne_true)]
  obtain ⟨word, words, split⟩ := exists_cons_of_ne_nil (splitOnP_ne_nil (·.isGap) more)
  rw [split, modifyHead_cons, filter_cons_of_pos (by simp), map_cons, bytesOf_cons]
  exact ⟨_, _, rfl⟩

theorem not_isRoutine_semi (more : List Lexeme) : isRoutine (.semi :: more) = false := by
  obtain ⟨word, words, shape⟩ := @wordsOf_cons .semi rfl more
  rw [isRoutine, shape]
  rfl

/-! ### Lengths -/

theorem length_bytesOf_flatMap (before : List (List Lexeme)) :
    (bytesOf (before.flatMap (· ++ [.semi]))).length = startOf before := by
  induction before with
  | nil => rfl
  | cons statement before ih =>
    rw [flatMap_cons, bytesOf_append, bytesOf_append, length_append, length_append, ih, startOf,
      startOf, map_cons, sum_cons]
    rfl

theorem startOf_intercalate {statements : List (List Lexeme)} (nonempty : statements ≠ []) :
    startOf statements = (bytesOf ([Lexeme.semi].intercalate statements)).length + 1 := by
  obtain ⟨init, last, rfl⟩ : ∃ init last, statements = init ++ [last] :=
    ⟨_, _, (dropLast_append_getLast nonempty).symm⟩
  rw [intercalate_split, bytesOf_append, length_append, length_bytesOf_flatMap, flatMap_nil,
    append_nil, startOf, startOf, map_append, sum_append, map_singleton, sum_singleton,
    Nat.add_assoc]

theorem startOf_statementsOf (lexemes : List Lexeme) :
    startOf (statementsOf lexemes) = (bytesOf lexemes).length + 1 := by
  have nonempty : statementsOf lexemes ≠ [] := splitOnP_ne_nil _ _
  have whole : [Lexeme.semi].intercalate (statementsOf lexemes) = lexemes := intercalate_splitOn Lexeme.semi
  rw [startOf_intercalate nonempty, whole]

theorem startOf_shapes {segs : List Text} {before : List (List Lexeme)}
    (shapes : segs.map segmentShape = before.map statementShape) : (joinSegments segs []).length = startOf before := by
  have lengths : segs.map length = before.map fun statement => (bytesOf statement).length := by
    have firsts := congrArg (List.map Prod.fst) shapes
    rwa [map_map, map_map] at firsts
  have sums := congrArg (fun row : List Nat => (row.map (· + 1)).sum) lengths
  rw [length_joinSegments_nil, startOf]
  simpa [map_map, Function.comp_def] using sums

/-! ### Semicolons that are cut -/

section Cut

variable {s : Scan} {finished : List Text} {current : Text} {row : List Lexeme}

theorem mem_slice {byte : Byte} {first rest : Text} {start length : Nat} (from_start : start ≤ first.length)
    (inside : first.length < start + length) : byte ∈ ((first ++ byte :: rest).drop start).take length := by
  rw [drop_append_of_le_length from_start, take_append]
  refine mem_append_right _ ?_
  obtain ⟨more, amount⟩ : ∃ more, length - (first.drop start).length = more + 1 := by
    rw [length_drop]
    exact ⟨length - (first.length - start) - 1, by omega⟩
  rw [amount]
  exact mem_cons_self

section

variable (entered : Entered s finished current)
  (shapes : (finished ++ [current]).map segmentShape = (statementsOf row).map statementShape)

include entered shapes

theorem exists_nul_of_shapes {before after : List Lexeme} (whole : row = before ++ .semi :: after) :
    ∃ first rest, s.done = first ++ 0 :: rest ∧ first.length = (bytesOf before).length := by
  rw [whole, statementsOf_semi] at shapes
  obtain ⟨earlier, later, parts, shapesBefore, shapesAfter⟩ :=
    map_eq_append_iff.mp (shapes.trans map_append)
  have some_earlier : earlier ≠ [] := by
    rintro rfl
    exact splitOnP_ne_nil _ _ (map_eq_nil_iff.mp shapesBefore.symm)
  obtain ⟨next, more, rfl⟩ : ∃ next more, later = next :: more := by
    refine exists_cons_of_ne_nil ?_
    rintro rfl
    exact splitOnP_ne_nil _ _ (map_eq_nil_iff.mp shapesAfter.symm)
  obtain ⟨init, last, rfl⟩ : ∃ init last, earlier = init ++ [last] :=
    ⟨_, _, (dropLast_append_getLast some_earlier).symm⟩
  have lengths := startOf_shapes shapesBefore
  rw [startOf_statementsOf, length_joinSegments_nil, map_append, sum_append, map_singleton,
    sum_singleton, ← length_joinSegments_nil] at lengths
  have placed : finished ++ [current] = init ++ last :: next :: more := by
    rw [parts, append_assoc]
    rfl
  refine ⟨joinSegments init [] ++ last, next ++ more.flatMap (0 :: ·), ?_, ?_⟩
  · rw [entered.done, joinSegments_split placed, flatMap_cons, append_assoc]
    rfl
  · rw [length_append]
    omega

/-- **A statement between cut semicolons** is kept if something follows it or its first token ends. -/
theorem keptWhole_of_shapes (solid : ∀ statement ∈ statementsOf row, hasToken statement = true)
    {before after : List (List Lexeme)} {statement : List Lexeme}
    (whole : statementsOf row = before ++ statement :: after) :
    KeptWhole s.done s.entries (startOf before) (bytesOf statement).length ↔
      after ≠ [] ∨ 2 ≤ s.stmtTokensCount := by
  have tokens : ∀ segment ∈ finished ++ [current], isBlank segment = false := by
    intro segment member
    obtain ⟨statement, here, same⟩ := mem_map.mp (shapes ▸ mem_map_of_mem (f := segmentShape) member)
    have token : (!isBlank segment) = hasToken statement := (congrArg Prod.snd same).symm
    rw [solid statement here] at token
    simpa using token
  have entries := entered.entries_eq tokens
  rw [whole] at shapes
  obtain ⟨earlier, rest, parts, shapesBefore, shapesRest⟩ :=
    map_eq_append_iff.mp (shapes.trans map_append)
  obtain ⟨segment, later, rfl, shape, shapesAfter⟩ := map_eq_cons_iff.mp shapesRest
  have length : segment.length = (bytesOf statement).length := congrArg Prod.fst shape
  have start := startOf_shapes shapesBefore
  have free : 0 ∉ segment := by
    have member : segment ∈ finished ++ [current] := by
      rw [parts]
      simp
    rcases mem_append.mp member with done | last
    · exact entered.finishedFree segment done
    · rw [mem_singleton.mp last]
      exact entered.currentFree
  have slice : 0 ∉ (s.done.drop (startOf before)).take (bytesOf statement).length := by
    rw [entered.done, joinSegments_split parts, ← start, drop_left, ← length, take_left]
    exact free
  have none_after : after = [] ↔ later = [] := by
    rw [← map_eq_nil_iff (f := statementShape), ← shapesAfter, map_eq_nil_iff]
  rw [KeptWhole, and_iff_right slice, ← length]
  by_cases two : 2 ≤ s.stmtTokensCount
  · rw [if_pos two, parts] at entries
    exact iff_of_true (countP_segmentTokens entries start.symm) (.inr two)
  · rw [if_neg two] at entries
    by_cases last : later = []
    · rw [last] at parts
      have same : finished = earlier := (append_inj' parts rfl).1
      refine iff_of_false ?_ (by rw [not_or]; exact ⟨fun some => some (none_after.mpr last), two⟩)
      rw [countP_segmentTokens_behind entries (by rw [same, start])]
      nofun
    · refine iff_of_true ?_ (.inl fun none => last (none_after.mp none))
      obtain ⟨init, final, rfl⟩ : ∃ init final, later = init ++ [final] :=
        ⟨_, _, (dropLast_append_getLast last).symm⟩
      have same : finished = earlier ++ segment :: init := by
        rw [← cons_append, ← append_assoc] at parts
        exact (append_inj' parts rfl).1
      rw [same] at entries
      exact countP_segmentTokens entries start.symm

end

end Cut

/-! ### Texts -/

namespace StatementList

variable {text : Text} (list : StatementList text)

/-- Every routine of the text is kept whole. -/
def AllKept (refinedText : Text) (entries : List Nat) : Prop :=
  ∀ before statement after, list.statements = before ++ statement :: after → isRoutine statement = true →
    KeptWhole refinedText entries (startOf before) (bytesOf statement).length

/-- The texts that are read so: if the first statement is taken for a routine, no other is one; otherwise no routine
holds a semicolon. A routine at the end has a second token. -/
def ReadWhole : Prop :=
  (∀ statement ∈ list.statements.getLast?, isRoutine statement = true → twoTokens statement = true) ∧
    if (firstType (lexemes driverDash text)).isProcedural then
      ∀ statement ∈ list.statements.tail, isRoutine statement = false
    else ∀ statement ∈ list.statements, isRoutine statement = true → .semi ∉ statement

theorem opens (list : StatementList text) (after : Text) : firstLexeme driverDash text ≠ some (.semi, after) := by
  intro first
  obtain ⟨statement, more, split⟩ := exists_cons_of_ne_nil list.nonempty
  have here : statement ∈ list.statements := by
    rw [split]
    exact mem_cons_self
  have joined := list.joined
  rw [lexemes_of_reads .nil first, split] at joined
  have placed := intercalate_split Lexeme.semi [] statement more
  rw [nil_append] at placed
  rw [placed] at joined
  cases statement with
  | nil => cases list.solid [] here
  | cons lexeme rest =>
    obtain ⟨rfl, -⟩ := List.cons.inj joined
    exact list.plain _ here (not_isRoutine_semi rest) mem_cons_self

theorem statementsOf_eq (whole : ∀ statement ∈ list.statements, .semi ∉ statement) :
    statementsOf (lexemes driverDash text) = list.statements := by
  rw [list.joined]
  exact splitOn_intercalate Lexeme.semi whole list.nonempty

/-- **Where semicolons are cut.** -/
theorem allKept_iff_cut (replace : Bool) (token : AtToken driverDash text) (nulFree : 0 ∉ text)
    (cuts : .semi ∈ lexemes driverDash text → (firstType (lexemes driverDash text)).isProcedural = false) :
    list.AllKept (run replace true { rest := text }).done (run replace true { rest := text }).entries ↔
      (∀ statement ∈ list.statements, isRoutine statement = true → .semi ∉ statement) ∧
        ∀ statement ∈ list.statements.getLast?, isRoutine statement = true → twoTokens statement = true := by
  obtain ⟨shapes, two⟩ := run_shapes replace token nulFree list.quotes list.opens cuts
  obtain ⟨finished, current, entered⟩ := run_entered replace nulFree
  rw [entered.done, segments_joinSegments entered.finishedFree entered.currentFree] at shapes
  have others {statement : List Lexeme} (member : statement ∈ list.statements)
      (own : isRoutine statement = true → .semi ∉ statement) : .semi ∉ statement := by
    cases routine : isRoutine statement with
    | false => exact list.plain statement member routine
    | true => exact own routine
  have solid (whole : ∀ statement ∈ list.statements, .semi ∉ statement) :
      ∀ statement ∈ statementsOf (lexemes driverDash text), hasToken statement = true := by
    rw [list.statementsOf_eq whole]
    exact list.solid
  have last {before : List (List Lexeme)} {statement : List Lexeme} (split : list.statements = before ++ [statement])
      (whole : ∀ statement ∈ list.statements, .semi ∉ statement) :
      lastStatement (lexemes driverDash text) = statement := by
    rw [lastStatement, list.statementsOf_eq whole, split, getLastD_concat]
  constructor
  · intro kept
    have whole : ∀ statement ∈ list.statements, isRoutine statement = true → .semi ∉ statement := by
      intro statement member routine semi
      obtain ⟨before, after, split⟩ := append_of_mem member
      obtain ⟨first, second, rfl⟩ := append_of_mem semi
      have row : lexemes driverDash text = (before.flatMap (· ++ [.semi]) ++ first) ++
          .semi :: (second ++ after.flatMap (.semi :: ·)) := by
        rw [list.joined, split, intercalate_split]
        simp
      obtain ⟨front, rest, done, length⟩ := exists_nul_of_shapes entered shapes row
      rw [bytesOf_append, length_append, length_bytesOf_flatMap] at length
      refine (kept before _ after split routine).1 ?_
      rw [done]
      refine mem_slice (by omega) ?_
      rw [bytesOf_append, bytesOf_cons, length_append, length_append]
      show _ < _ + (_ + (1 + _))
      omega
    refine ⟨whole, ?_⟩
    intro statement ends routine
    obtain ⟨before, split⟩ := getLast?_eq_some_iff.mp ends
    have none : ∀ statement ∈ list.statements, .semi ∉ statement := fun statement member =>
      others member (whole statement member)
    have one := kept before statement [] split routine
    rw [keptWhole_of_shapes entered shapes (solid none) ((list.statementsOf_eq none).trans split)] at one
    rcases one with later | reached
    · exact absurd rfl later
    · rw [last split none, decide_eq_true reached] at two
      exact two.symm
  · rintro ⟨whole, ends⟩ before statement after split routine
    have none : ∀ statement ∈ list.statements, .semi ∉ statement := fun statement member =>
      others member (whole statement member)
    rw [keptWhole_of_shapes entered shapes (solid none) ((list.statementsOf_eq none).trans split)]
    by_cases later : after = []
    · rw [later] at split
      have reached := ends statement (by rw [split]; simp) routine
      rw [last split none, reached, decide_eq_true_iff] at two
      exact .inr two
    · exact .inl later

theorem length_pos {statement : List Lexeme} (member : statement ∈ list.statements) :
    0 < (bytesOf statement).length := by
  obtain ⟨lexeme, here, solid⟩ := any_eq_true.mp (list.solid statement member)
  have some_byte : ∃ byte, byte ∈ lexeme.bytes := by
    cases lexeme with
    | blank | comment => cases solid
    | _ => exact ⟨_, mem_cons_self⟩
  obtain ⟨byte, inside⟩ := some_byte
  exact length_pos_of_mem (mem_flatMap.mpr ⟨lexeme, here, inside⟩)

/-- **Where they are not.** -/
theorem allKept_iff_uncut (replace : Bool) (starts : StartsPlain text) (nulFree : 0 ∉ text)
    (several : .semi ∈ lexemes driverDash text)
    (procedural : (firstType (lexemes driverDash text)).isProcedural = true) :
    list.AllKept (run replace true { rest := text }).done (run replace true { rest := text }).entries ↔
      ∀ statement ∈ list.statements.tail, isRoutine statement = false := by
  obtain ⟨free, entries, -⟩ := run_uncut replace starts nulFree several procedural
  rw [entries]
  constructor
  · intro kept statement member
    cases routine : isRoutine statement with
    | false => rfl
    | true =>
      obtain ⟨first, more, split⟩ := exists_cons_of_ne_nil list.nonempty
      rw [split, tail_cons] at member
      obtain ⟨before, after, rfl⟩ := append_of_mem member
      have one := (kept (first :: before) statement after split routine).2
      have behind : 0 < startOf (first :: before) := by
        rw [startOf, map_cons, sum_cons]
        omega
      rw [countP_singleton, if_neg (by simp; omega)] at one
      cases one
  · intro alone before statement after split routine
    have member : statement ∈ list.statements := by
      rw [split]
      simp
    cases before with
    | nil =>
      have length := list.length_pos member
      refine ⟨fun nul => free ((drop_sublist _ _).subset ((take_sublist _ _).subset nul)), ?_⟩
      rw [countP_singleton, if_pos (by simpa [startOf] using length)]
    | cons first before =>
      have plain := alone statement (by rw [split]; simp)
      rw [routine] at plain
      cases plain

theorem twoTokens_of_semi (starts : StartsPlain text) (several : .semi ∈ lexemes driverDash text) :
    twoTokens (lexemes driverDash text) = true := by
  obtain ⟨lexeme, after, first⟩ := exists_firstLexeme driverDash (show text ≠ [] by rintro rfl; cases several)
  obtain ⟨notSemi, closed⟩ := starts.plain lexeme after first
  have solid := starts.token lexeme after first
  have all : lexemes driverDash text = lexeme :: lexemes driverDash after := lexemes_of_reads .nil first
  rw [all] at several
  have later : .semi ∈ lexemes driverDash after := by
    rcases mem_cons.mp several with same | later
    · exact absurd same.symm notSemi
    · exact later
  have ends : (lexemes driverDash after).any (!·.continues) = true := any_eq_true.mpr ⟨.semi, later, rfl⟩
  rw [all, twoTokens, dropWhile_cons_of_neg (by rw [solid]; exact Bool.false_ne_true)]
  cases lexeme with
  | blank | comment => cases solid
  | unclosed quote body => cases closed
  | semi => exact absurd rfl notSemi
  | mark =>
    obtain ⟨head, more, shape⟩ := exists_cons_of_ne_nil (ne_nil_of_mem later)
    rw [shape]
    rfl
  | _ => exact ends

end StatementList

/-- **Routines in a batch.** Every routine of a text, first or later, keeps its semicolons and gets one entry just if
the text is read whole. -/
theorem routines_kept_iff (text : QueryText) (list : StatementList text.handed) (replace : Bool) :
    list.AllKept (text.parse replace true).refinedText ((text.parse replace true).subQuery.map SubQuery.queryText) ↔
      list.ReadWhole := by
  rw [text.parse_refinedText, text.parse_subQuery]
  have token := text.handed_atToken
  have nulFree := text.nulFree_handed
  rw [QueryText.scan, ← Scan.entries, StatementList.ReadWhole]
  generalize text.handed = handed at list token nulFree
  by_cases several : .semi ∈ lexemes driverDash handed
  · have starts := startsPlain_of_semi token several list.opens
    cases procedural : (firstType (lexemes driverDash handed)).isProcedural with
    | false =>
      rw [list.allKept_iff_cut replace token nulFree fun _ => procedural, and_comm]
      simp only [Bool.false_eq_true, if_false]
    | true =>
      rw [list.allKept_iff_uncut replace starts nulFree several procedural, if_pos rfl, iff_and_self]
      intro alone statement ends routine
      -- only the first statement can be a routine
      obtain ⟨before, split⟩ := getLast?_eq_some_iff.mp ends
      cases before with
      | nil =>
        have joined := list.joined
        rw [split] at joined
        have same : lexemes driverDash handed = statement := by simpa using joined
        rw [← same]
        exact StatementList.twoTokens_of_semi starts several
      | cons first before =>
        have plain := alone statement (by rw [split]; simp)
        rw [routine] at plain
        cases plain
  · rw [list.allKept_iff_cut replace token nulFree fun member => absurd member several, and_comm, and_congr_right_iff]
    intro _
    -- one statement, without semicolons
    have alone : list.statements.tail = [] := by
      obtain ⟨first, more, split⟩ := exists_cons_of_ne_nil list.nonempty
      cases more with
      | nil => rw [split, tail_cons]
      | cons next more =>
        refine absurd ?_ several
        rw [list.joined, split, intercalate_cons_cons]
        simp
    have whole : ∀ statement ∈ list.statements, .semi ∉ statement := by
      intro statement member semi
      obtain ⟨before, after, split⟩ := append_of_mem member
      refine several ?_
      rw [list.joined, split, intercalate_split]
      exact mem_append_right _ (mem_append_left _ semi)
    refine iff_of_true (fun statement member _ => whole statement member) ?_
    split
    · rw [alone]
      exact fun _ member => absurd member not_mem_nil
    · exact fun statement member _ => whole statement member

/-- A statement, and a procedure that is created behind it. -/
def procedureBehind : QueryText := ⟨lit "SELECT 1;CREATE OR REPLACE PROCEDURE p() AS BEGIN a;b;END", by decide⟩

def procedureBehindList : StatementList procedureBehind.handed where
  statements := [lexemes driverDash (lit "SELECT 1"),
    lexemes driverDash (lit "CREATE OR REPLACE PROCEDURE p() AS BEGIN a;b;END")]
  nonempty := nofun
  joined := by decide +kernel
  solid := by decide +kernel
  plain := by decide +kernel
  quotes := by
    have closed : ∀ lexeme ∈ lexemes driverDash procedureBehind.handed, lexeme.isUnclosed = false := by decide +kernel
    intro quote body member
    cases closed _ member

/-- The body of the procedure is cut at both of its semicolons. -/
theorem routines_kept_fails :
    ¬ procedureBehindList.AllKept (procedureBehind.parse false true).refinedText
      ((procedureBehind.parse false true).subQuery.map SubQuery.queryText) := by
  intro kept
  have whole := kept [lexemes driverDash (lit "SELECT 1")]
    (lexemes driverDash (lit "CREATE OR REPLACE PROCEDURE p() AS BEGIN a;b;END")) [] rfl (by decide +kernel)
  revert whole
  decide +kernel

end MaOdbc
