/-
**Preparing a statement, and executing it directly.**

`MADB_StmtPrepare` holds the lock of the connection while it resets the handle and parses the text;
several of its returns do not give it back. `MADB_StmtExecDirect` prepares and executes a statement, and
executes it once more if that fails.
-/

import MaOdbc.Stmt.Execute

namespace MaOdbc

/-- `ER_PARSE_ERROR`. -/
def parseError : Nat := 1064

/-- `MADB_MIN_QUERY_LEN`. -/
def minQueryLen : Nat := 5

namespace Stmt

variable (env : Env) (s : Stmt)

/-- `CloseMultiStatements`. -/
def closeMultiStatements : Stmt :=
  { s with multiStmts := none, cspsMultiStmtResult := [], cspsResult := none }

/-- `MADB_StmtReset`. -/
def stmtReset : Stmt :=
  let wasPrepared := s.state = .prepared ∨ s.state = .executed ∨ s.state = .outParamsFetched
  let s :=
    if s.query.isMultiStmt ∧ s.multiStmts.isSome then s.closeMultiStatements.newStmtHandle
    else if wasPrepared then { s with cspsResult := none }.newStmtHandle
    else s
  { s with
    positionedCursor := if wasPrepared then none else s.positionedCursor
    positionedCommand := false
    forceCsps := false
    state := .inited
    error := Diag.clear }

/-- `MADB_EDPrepare`, before a positioned command can have been found. -/
def edPrepare : SqlReturn × Stmt :=
  (.success, { s with
    paramCount := toSmallInt env.apdCount
    hasParams := s.hasParams || toSmallInt env.apdCount != 0 })

def stringStarts (text : Text) : Nat → Nat → List Nat
  | 0, _ => []
  | fuel + 1, p =>
    if p < text.length then p :: stringStarts text fuel (p + (cstr (text.drop p)).length + 1)
    else []

def addHandles (s : Stmt) (indices : List Nat) : Stmt :=
  indices.foldl
    (fun s i =>
      let s := s.newStmtHandle
      { s with multiStmts := s.multiStmts.map (·.set i (some s.stmt)) }) s

/-- The end of `GetMultiStatements` where the first statement could not be prepared: the whole text is
tried, with the error of the first statement if that fails too. -/
def prepareWhole : Bool × Stmt :=
  if s.error.nativeError = unsupportedPs then (true, s)
  else
    match Exec.stmtPrepare env s.newStmtHandle (cstr s.query.original) with
    | .error s' => (true, { s' with error := s.error })
    | .ok s => (false, { s with query := { s.query with subQuery := [] } })

/-- `GetMultiStatements`: a handle for every statement of the batch. On the server side the first one is
prepared; if that fails, the whole text is tried. -/
def getMultiStatements : Bool × Stmt :=
  let starts := stringStarts s.query.refinedText s.query.refinedText.length 0
  let s :=
    { s with
      multiStmtNr := 0
      multiStmts := some ((List.replicate s.query.stmtCount none).set 0 (some s.stmt))
      cspsMultiStmtResult :=
        if s.sspsDisabled env then List.replicate s.query.stmtCount none else s.cspsMultiStmtResult }
  let first := s.stmt
  let more (s : Stmt) := { s.addHandles (List.range' 1 (starts.length - 1)) with stmt := first }
  if s.sspsDisabled env then (false, more s)
  else
    match Exec.stmtPrepare env s (cstr s.query.refinedText) with
    | .ok s => (false, more s)
    | .error s => s.closeMultiStatements.prepareWhole env

theorem getMultiStatements_eq :
    ∃ begun : Stmt, begun.query = s.query ∧ begun.forceCsps = s.forceCsps ∧ begun.stmt = s.stmt ∧
      begun.trace = s.trace ∧ s.getMultiStatements env =
        let more (s' : Stmt) :=
          { s'.addHandles (List.range' 1
              ((stringStarts s.query.refinedText s.query.refinedText.length 0).length - 1)) with
            stmt := s.stmt }
        if s.sspsDisabled env then (false, more begun)
        else
          match Exec.stmtPrepare env begun (cstr s.query.refinedText) with
          | .ok s => (false, more s)
          | .error s => s.closeMultiStatements.prepareWhole env :=
  ⟨{ s with
      multiStmtNr := 0
      multiStmts := some ((List.replicate s.query.stmtCount none).set 0 (some s.stmt))
      cspsMultiStmtResult :=
        if s.sspsDisabled env then List.replicate s.query.stmtCount none
        else s.cspsMultiStmtResult }, rfl, rfl, rfl, rfl, rfl⟩

/-- `MADB_RegularPrepare`. -/
def regularPrepare : SqlReturn × Stmt :=
  match Exec.stmtPrepare env (s.emit .lock) (cstr s.query.original) with
  | .error s => (s.error.returnValue, s.newStmtHandle.emit .unlock)
  | .ok s =>
    let s := s.emit .unlock
    let paramCount := toSmallInt s.handle.paramCount
    (.success, { s with
      state := .prepared
      paramCount := paramCount
      hasParams := s.hasParams || paramCount != 0 })

/-- The statements of the batch, looked at one by one: whether the rows of a `RETURNING` clause come as
text, and whether the handle falls back to the client side. -/
def checkStatements : Stmt :=
  let types := s.query.subQuery.map SubQuery.queryType
  let hasDml := types.any fun type => type == .insert || type == .update || type == .delete
  let dmlReturning := hasDml && s.query.findToken (lit "RETURNING") != 0
  { s with
    query := { s.query with returnsResult := s.query.returnsResult || dmlReturning }
    forceCsps := s.forceCsps ||
      env.fallbackCspsStmt && (dmlReturning || types.any QueryType.unsupportedBySsps) }

def reparse (text : Text) : Stmt := { s with query := madbParseQuery { refinedText := text } false }

/-- The text of a positioned command gets the condition of its cursor. -/
def prepareCursor : Except Stmt Stmt :=
  match s.query.parseCursorName with
  | none => .ok s
  | some (whereOffset, cursorName) =>
    let fail (code : ErrorCode) (message : Option Text) : Except Stmt Stmt :=
      .error { s with error := Diag.setError code message 0 }
    match s.query.queryType with
    | .delete =>
      match env.findCursor (cstr cursorName) with
      | none =>
        .error { s with
          positionedCommand := true
          positionedCursor := none
          error := Diag.setError .err34000 none 0 }
      | some cursor =>
        let s := { s with positionedCommand := true, positionedCursor := some cursor }
        let text := s.query.refinedText.take whereOffset ++ cursor.whereClause
        if s.sspsDisabled env then .ok (s.reparse text)
        else .ok { s with query := { s.query with original := text, hasParameters := true } }
    | .update =>
      fail .errHYC00 (some (lit "UPDATE clause is not supported for a positioned command"))
    | _ =>
      fail .err42000
        (some (lit "Invalid SQL Syntax: DELETE is expected for a positioned command"))

def limitRows : Stmt :=
  if env.maxRows ≠ 0 ∧ s.query.queryType = .select then
    let limit := lit ") LIMIT " ++ lit (toString env.maxRows)
    let last := s.query.tokens.length
    let updateFor :=
      if (s.query.compareToken (last - 1) (lit "UPDATE")).isSome then
        s.query.compareToken (last - 2) (lit "FOR")
      else none
    match updateFor with
    | some offset =>
      s.reparse (lit "SELECT * FROM (" ++ (cstr s.query.refinedText).take offset ++ limit ++
        lit " FOR UPDATE")
    | none => s.reparse (lit "SELECT * FROM (" ++ cstr s.query.refinedText ++ limit)
  else s

/-- `MADB_StmtPrepare` behind the lock. -/
def prepareUnlocked : SqlReturn × Stmt :=
  if s.query.queryType = .setNames then
    let error := Diag.setError .errHY000 (some (lit "SQL command SET NAMES is not allowed")) 0
    (error.returnValue, { s with error := error })
  else
    match s.prepareCursor env with
    | .error s => (s.error.returnValue, s)
    | .ok s =>
      let s := s.limitRows env
      if !s.query.returnsResult && !s.query.hasParameters &&
          !(s.query.isMultiStmt && !s.query.batchAllowed) then
        (.success, { s with state := .emulated })
      else if s.sspsDisabled env then
        let paramCount := toSmallInt s.query.paramPositions.length
        (.success, { s with
          state := .prepared
          paramCount := paramCount
          hasParams := s.hasParams || paramCount != 0 })
      else s.regularPrepare env

/-- `MADB_StmtPrepare` from the parsed query on, while the lock is held. -/
def prepareParsed (execDirect : Bool) : SqlReturn × Stmt :=
  let s := s.checkStatements env
  if s.query.isMultiStmt && env.noCache then
    let error := Diag.setError .errHY000 (some (lit
      "Execution of the multi-statement is not supported with Forward-Only cursor and NO_CACHE option enabled")) 0
    (error.returnValue, { s with error := error })
  else if s.query.isPossiblyMultistmt && s.query.isMultiStmt &&
      (s.query.returnsResult || s.query.hasParameters) && s.query.batchAllowed then
    if !s.sspsDisabled env && execDirect then s.edPrepare env
    else
      match s.getMultiStatements env with
      | (true, s) => (s.error.returnValue, s)
      | (false, s) => (.success, s.emit .unlock)
  else (s.emit .unlock).prepareUnlocked env

/-- `MADB_StmtPrepare`. -/
def stmtPrepare (statementText : Text) (execDirect : Bool) : SqlReturn × Stmt :=
  let s := (s.emit .lock).stmtReset
  if statementText.length < minQueryLen then
    let error := Diag.setError .err42000 none 0
    (error.returnValue, { s with error := error })
  else
    match env.unescape statementText with
    | .error error =>
      (error.returnValue, { s with
        error := error
        query := { batchAllowed := env.multiStatements } })
    | .ok text =>
      let query := madbParseQuery
        { refinedText := text, batchAllowed := env.multiStatements } env.rewriteCallSP
      { s with query := query }.prepareParsed env execDirect

/-- `MADB_StmtExecDirect`. -/
def stmtExecDirect (statementText : Text) : SqlReturn × Stmt :=
  match s.stmtPrepare env statementText true with
  | (ret, s) =>
    let unsupported :=
      s.error.nativeError = unsupportedPs ∨ s.error.nativeError = parseError
    if !ret.succeeded ∧ ¬ unsupported then (ret, s)
    else
      let s := if ret.succeeded then s else { s with state := .emulated }
      let execDirect := !s.query.isMultiStmt
      match s.stmtExecute env with
      | (ret, s) =>
        if ret.succeeded then (ret, s)
        else if s.error.nativeError = unsupportedPs then
          { (s.stmtPrepare env statementText execDirect).2 with state := .emulated }.stmtExecute env
        else s.stmtExecute env

/-! ### What preparing changes -/

section Settled

variable {env : Env} {s s' : Stmt}

/-- The text of a statement is settled: it may get a limit or the condition of a cursor. -/
inductive Settled (env : Env) (s : Stmt) : Stmt → Prop
  | same : Settled env s s
  | limited (more : Text) : Settled env s (s.reparse (lit "SELECT * FROM (" ++ more))
  | positioned (cursor : PositionedCursor) {query : Query} : s.query.queryType = .delete →
      (s.sspsDisabled env = true → ∃ text, query = madbParseQuery { refinedText := text } false) →
      Settled env s
        { s with positionedCommand := true, positionedCursor := some cursor, query := query }

theorem Settled.kept (settled : Settled env s s') :
    s'.trace = s.trace ∧ s'.state = s.state ∧ s'.forceCsps = s.forceCsps ∧ s'.multiStmts = s.multiStmts := by
  cases settled with
  | same | limited | positioned => exact ⟨rfl, rfl, rfl, rfl⟩

theorem Settled.limitRows (settled : Settled env s s') : Settled env s (s'.limitRows env) := by
  have reparsed (more : Text) : Settled env s (s'.reparse (lit "SELECT * FROM (" ++ more)) := by
    cases settled with
    | same | limited => exact .limited more
    | positioned cursor delete => exact .positioned cursor delete fun _ => ⟨_, rfl⟩
  rw [Stmt.limitRows]
  split
  · dsimp only
    split
    · rw [List.append_assoc, List.append_assoc]
      exact reparsed _
    · rw [List.append_assoc]
      exact reparsed _
  · exact settled

theorem prepareCursor_cases (env : Env) (s : Stmt) :
    match s.prepareCursor env with
    | .ok s' => Settled env s s'
    | .error s' => s'.error.returnValue.succeeded = false ∧ s'.trace = s.trace ∧ s'.state = s.state := by
  rw [prepareCursor]
  cases s.query.parseCursorName with
  | none => exact .same
  | some found =>
    cases type : s.query.queryType with
    | delete =>
      dsimp only
      cases env.findCursor (cstr found.2) with
      | none => exact ⟨Diag.succeeded_setError _ _ _, rfl, rfl⟩
      | some cursor =>
        dsimp only
        by_cases client : { s with positionedCommand := true, positionedCursor := some cursor }.sspsDisabled env = true
        · rw [if_pos client]
          exact .positioned cursor type fun _ => ⟨_, rfl⟩
        · rw [if_neg client]
          exact .positioned cursor type fun disabled => absurd disabled client
    | _ => exact ⟨Diag.succeeded_setError _ _ _, rfl, rfl⟩

/-- How `MADB_StmtPrepare` ends behind the lock. -/
inductive Unlocked (env : Env) (s : Stmt) : SqlReturn × Stmt → Prop
  | refused {ret : SqlReturn} {s' : Stmt} : ret.succeeded = false → s'.trace = s.trace →
      s'.state = s.state → Unlocked env s (ret, s')
  | emulated {s' : Stmt} : Settled env s s' → s'.query.returnsResult = false →
      Unlocked env s (.success, { s' with state := .emulated })
  | client {s' : Stmt} (hasParams : Bool) : Settled env s s' → s'.sspsDisabled env = true →
      Unlocked env s (.success, { s' with
        state := .prepared
        paramCount := toSmallInt s'.query.paramPositions.length
        hasParams := hasParams })
  | server {s' : Stmt} : Settled env s s' → s'.sspsDisabled env = false →
      Unlocked env s (s'.regularPrepare env)

theorem prepareUnlocked_cases (env : Env) (s : Stmt) : Unlocked env s (s.prepareUnlocked env) := by
  have positioned := prepareCursor_cases env s
  rw [prepareUnlocked]
  split
  · exact .refused (Diag.succeeded_setError _ _ _) rfl rfl
  · cases found : s.prepareCursor env with
    | error failed =>
      rw [found] at positioned
      exact .refused positioned.1 positioned.2.1 positioned.2.2
    | ok taken =>
      rw [found] at positioned
      have settled := positioned.limitRows
      dsimp only
      split
      · rename_i noResult
        simp only [Bool.and_eq_true, Bool.not_eq_true'] at noResult
        exact .emulated settled noResult.1.1
      · split
        · rename_i client
          exact .client _ settled client
        · rename_i server
          exact .server settled (Bool.eq_false_iff.mpr server)

theorem addHandles_same (s : Stmt) (indices : List Nat) :
    (s.addHandles indices).query = s.query ∧ (s.addHandles indices).forceCsps = s.forceCsps ∧
      (s.addHandles indices).trace = s.trace := by
  rw [addHandles]
  induction indices generalizing s with
  | nil => exact ⟨rfl, rfl, rfl⟩
  | cons i indices ih => exact ih _

end Settled

end Stmt

end MaOdbc
