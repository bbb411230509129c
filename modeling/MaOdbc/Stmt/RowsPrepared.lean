/-
**Preparing a statement that returns rows.**

`MADB_StmtPrepare` emulates a statement without markers whose query does not return a result: its rows never reach the
application.

* `parse_limited`: the text that limits the rows has the flag.
* `stmtPrepare_rows`: a single statement with the flag is not emulated.
* `rows_available_iff`: when a statement that starts with a keyword for rows is recognised.
-/

import MaOdbc.Parse.DoubleDash
import MaOdbc.Parse.RowsText
import MaOdbc.Stmt.Prepare

namespace MaOdbc

namespace Stmt

variable {env : Env} {s : Stmt}

/-! ### The flag -/

theorem parse_limited (more : Text) :
    (madbParseQuery { refinedText := lit "SELECT * FROM (" ++ more } false).returnsResult = true := by
  have named : (lit "SELECT").map lower ∈ rowKeywords := by decide
  have trimmed : sqlRtrim (lit "SELECT * FROM (" ++ more) =
      lit "SELECT" ++ (lit " * FROM (" ++ more.rdropWhile isTrailing) :=
    congrArg (ch 'S' :: ·) (rdropWhile_append_cons rfl (lit "ELECT * FROM ") more)
  have handed : (handedText (lit "SELECT * FROM (" ++ more)).2 =
      lit "SELECT" ++ (lit " * FROM (" ++ more.rdropWhile isTrailing) :=
    handedText_letter rfl trimmed
  have returns := firstType_rowKeyword named (lit " * FROM (" ++ more.rdropWhile isTrailing)
  show (Scan.run false false { rest := (handedText (lit "SELECT * FROM (" ++ more)).2 }).returnsResult = true
  rw [handed]
  exact run_returns rfl rfl returns false false

/-! ### Preparing -/

theorem regularPrepare_state (fresh : s.state ≠ .emulated) : (s.regularPrepare env).2.state ≠ .emulated := by
  rw [regularPrepare]
  rcases Exec.stmtPrepare_cases env (s.emit .lock) (cstr s.query.original) with
    ⟨_, -, failed⟩ | ⟨_, _, -, prepared⟩
  · rw [failed]
    exact fresh
  · rw [prepared]
    nofun

theorem prepareUnlocked_rows (returns : s.query.returnsResult = true) (fresh : s.state ≠ .emulated)
    (rows : s.query.queryType = .selectInto ∨ s.query.queryType.doesntReturnResult = false) :
    (s.prepareUnlocked env).2.state ≠ .emulated := by
  have ends := prepareUnlocked_cases env s
  generalize s.prepareUnlocked env = ended at ends
  cases ends with
  | refused _ _ state => exact state ▸ fresh
  | client => nofun
  | server settled => exact regularPrepare_state (settled.kept.2.1 ▸ fresh)
  | emulated settled noResult =>
    exfalso
    cases settled with
    | same => simp [returns] at noResult
    | limited more => exact absurd ((parse_limited more).symm.trans noResult) (by decide)
    | positioned cursor delete =>
      rw [delete] at rows
      revert rows
      decide

/-- **A single statement with the flag** is not emulated. -/
theorem stmtPrepare_rows {text statementText : Text} (unescaped : env.unescape statementText = .ok text)
    {query : Query}
    (parsed : query = madbParseQuery { refinedText := text, batchAllowed := env.multiStatements } env.rewriteCallSP)
    (single : query.subQuery.length ≤ 1) (returns : query.returnsResult = true)
    (rows : query.queryType = .selectInto ∨ query.queryType.doesntReturnResult = false) (execDirect : Bool) :
    (s.stmtPrepare env statementText execDirect).2.state ≠ .emulated := by
  rw [stmtPrepare]
  dsimp only
  split
  · nofun
  · rw [unescaped]
    dsimp only
    rw [← parsed]
    generalize fresh : (s.emit .lock).stmtReset = handle
    have state : handle.state = .inited := by
      rw [← fresh]
      rfl
    have alone : query.isMultiStmt = false := decide_eq_false (by rw [Query.stmtCount]; omega)
    rw [prepareParsed]
    have one : ({ handle with query := query }.checkStatements env).query.isMultiStmt = false := alone
    dsimp only
    rw [one, Bool.false_and, Bool.and_false, Bool.false_and, Bool.false_and]
    refine prepareUnlocked_rows ?_ ?_ rows
    · show (query.returnsResult || _) = true
      rw [returns]
      rfl
    · show handle.state ≠ .emulated
      rw [state]
      nofun

end Stmt

/-! ### Keywords -/

open Scan

/-- A byte behind the first one ends a token, and the type is that of a statement with rows. -/
def RowsText.Recognised (rows : RowsText) : Prop :=
  rows.text.handed.tail.any breaksToken = true ∧
    (getQueryType rows.second rows.second).doesntReturnResult = false

/-- **Statements that return rows.** The flag is set and the statement not emulated just where the text is recognised:
some byte behind the first must end a token, and a comment between the second token and the keyword must not show the
letters of another type first. -/
theorem rows_available_iff (rows : RowsText) (env : Env) (s : Stmt) {statementText : Text}
    (unescaped : env.unescape statementText = .ok rows.text.bytes) (execDirect : Bool) :
    (rows.text.parse env.rewriteCallSP env.multiStatements).returnsResult = true ∧
        (s.stmtPrepare env statementText execDirect).2.state ≠ .emulated ↔
      rows.Recognised := by
  have value := rows.returnsResult_eq env.rewriteCallSP env.multiStatements
  obtain ⟨single, type⟩ := rows.parse_single env.rewriteCallSP env.multiStatements
  constructor
  · rintro ⟨returns, -⟩
    rw [returns] at value
    obtain ⟨broken, recognised⟩ := Bool.and_eq_true_iff.mp value.symm
    exact ⟨broken, by rwa [Bool.not_eq_true'] at recognised⟩
  · rintro ⟨broken, recognised⟩
    rw [broken, recognised] at value
    exact ⟨value, Stmt.stmtPrepare_rows unescaped rfl single value (type value) execDirect⟩

/-- A statement in parentheses. -/
def selectInParentheses : RowsText where
  text := ⟨lit "(SELECT 1)", by decide⟩
  lead := [.other (ch '(')]
  keyword := lit "SELECT"
  rest := lit " 1)"
  reads := .cons rfl .nil
  leads := by decide
  isKeyword := by decide
  closed := by decide +kernel
  single := by decide +kernel

def selectOfParentheses : RowsText where
  text := ⟨lit "SELECT(1)", by decide⟩
  lead := []
  keyword := lit "SELECT"
  rest := lit "(1)"
  reads := .nil
  leads := by decide
  isKeyword := by decide
  closed := by decide +kernel
  single := by decide +kernel

def rowsEnv : Env where
  server := fun _ _ => .ok {}
  noSsps := true
  multiStatements := true

theorem rows_available_parentheses :
    selectInParentheses.Recognised ∧
      (selectInParentheses.text.parse rowsEnv.rewriteCallSP rowsEnv.multiStatements).returnsResult = true ∧
      (({} : Stmt).stmtPrepare rowsEnv (lit "(SELECT 1)") false).2.state ≠ .emulated := by
  have recognised : selectInParentheses.Recognised := by
    refine ⟨by decide +kernel, by decide +kernel⟩
  exact ⟨recognised, (rows_available_iff selectInParentheses rowsEnv {} rfl false).mpr recognised⟩

/-- `SELECT(1)` is one token: the flag is not set, and the statement is emulated. -/
theorem rows_available_fails :
    rowsEnv.unescape (lit "SELECT(1)") = .ok selectOfParentheses.text.bytes ∧
      (selectOfParentheses.text.parse rowsEnv.rewriteCallSP rowsEnv.multiStatements).returnsResult = false ∧
      (({} : Stmt).stmtPrepare rowsEnv (lit "SELECT(1)") false).2.state = .emulated := by
  refine ⟨rfl, by decide +kernel, by decide +kernel⟩

end MaOdbc
