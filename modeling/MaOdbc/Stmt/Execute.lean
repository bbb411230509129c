/-
**Executing a statement** (`MADB_StmtExecute`).

The fields of `MADB_Stmt` that preparing and executing a statement read and write, and the trace of what a call does:
every lock of the connection, every statement text built, and every request to the server with its answer. The server
is an arbitrary function of the request and of its position in the trace.

An emulated statement is sent as it is, a positioned command binds the columns of its cursor first, and everything
else is executed on the client or on the server side. If the server reports that it cannot execute a prepared
statement, the text is sent once more without preparing it.
-/

import MaOdbc.Library.Loop
import MaOdbc.Parse.Scanner
import MaOdbc.Stmt.Error

namespace MaOdbc

/-- `MADB_StmtState`, in the order of its values. -/
inductive StmtState
  | inited
  | emulated
  | prepared
  | executed
  | outParamsFetched
  deriving DecidableEq, Repr

inductive Request
  /-- `mysql_real_query`. -/
  | query (text : Text)
  /-- `mysql_stmt_prepare`. -/
  | stmtPrepare (text : Text)
  /-- `mysql_stmt_execute` of a statement prepared from a text. -/
  | stmtExecute (text : Text)
  /-- `mysql_store_result`, `mysql_use_result` and `mysql_stmt_store_result`. -/
  | storeResult
  deriving DecidableEq, Repr

structure Outcome where
  fieldCount : Nat := 0
  affectedRows : Nat := 0
  paramCount : Nat := 0
  outParams : Bool := false
  deriving DecidableEq, Repr

inductive Answer
  | ok (outcome : Outcome)
  | failed (native : NativeError)
  deriving DecidableEq, Repr

def Answer.isOk : Answer → Bool
  | .ok _ => true
  | .failed _ => false

/-- What a request was made for: the statement of the query it was made from, and the pairs of statement
number and parameter row that it executes. -/
structure Purpose where
  statement : Text := []
  pairs : List (Nat × Nat) := []
  deriving DecidableEq, Repr

inductive Event
  /-- `MADB_StmtExecute` is entered. -/
  | enter
  /-- `LOCK_MARIADB`. -/
  | lock
  /-- `UNLOCK_MARIADB`. -/
  | unlock
  /-- `MADB_InsertParams` built the text of a statement for a parameter row, from the parameters with
  the indices from `paramOffset` on. -/
  | built (statementNr row paramOffset paramCount : Nat) (text : Text)
  /-- A request was answered. -/
  | asked (request : Request) (purpose : Purpose) (answer : Answer)
  deriving DecidableEq, Repr

/-- `MYSQL_STMT`. -/
structure Handle where
  text : Text := []
  fieldCount : Nat := 0
  affectedRows : Nat := 0
  paramCount : Nat := 0
  deriving DecidableEq, Repr

inductive ParamStatus
  | success
  | unused
  | error
  | diagUnavailable
  deriving DecidableEq, Repr

structure PositionedCursor where
  /-- The condition that `MADB_DynStrGetWhere` appends, with parameter marks. -/
  whereClause : Text
  hasResult : Bool
  deriving DecidableEq, Repr

/-- `MADB_Stmt`. Handles are named by their index in `handles`, and result sets by the position in the
trace of the request that fetched them. -/
structure Stmt where
  state : StmtState := .inited
  error : Diag := {}
  query : Query := {}
  paramCount : Int := 0
  hasParams : Bool := false
  forceCsps : Bool := false
  positionedCommand : Bool := false
  positionedCursor : Option PositionedCursor := none
  handles : List Handle := [{}]
  stmt : Nat := 0
  multiStmts : Option (List (Option Nat)) := none
  multiStmtNr : Nat := 0
  cspsResult : Option Nat := none
  cspsMultiStmtResult : List (Option Nat) := []
  affectedRows : Int := 0
  rebindParams : Bool := false
  rowsProcessed : Option Nat := none
  ipdStatus : Option (List ParamStatus) := none
  connFieldCount : Nat := 0
  trace : List Event := []
  deriving DecidableEq, Repr

/-- A return code that is no success, and the error that was recorded with it, if one was. -/
structure Failure where
  ret : SqlReturn
  error : Option Diag := none
  notSucceeded : ret.succeeded = false
  deriving DecidableEq, Repr

/-- Everything a call depends on besides the handle: the connection, the parameter descriptors, and the
answers of the server and of the functions that are not modelled. -/
structure Env where
  server : Request → Nat → Answer
  /-- `Dsn->NoSsps`. -/
  noSsps : Bool := false
  /-- `Dsn->FallbackCspsStmt`. -/
  fallbackCspsStmt : Bool := false
  /-- `Dsn->RewriteCallSP`. -/
  rewriteCallSP : Bool := false
  /-- `MADB_OPT_FLAG_MULTI_STATEMENTS`. -/
  multiStatements : Bool := false
  /-- `NO_CACHE`. -/
  noCache : Bool := false
  /-- `Stmt->Options.MaxRows`. -/
  maxRows : Nat := 0
  /-- `Stmt->Status == SQL_NEED_DATA && !DAE_DONE(Stmt)`. -/
  needsData : Bool := false
  /-- Whether memory for the parameters is there. -/
  allocParams : Bool := true
  /-- `Apd->Header.ArraySize`. -/
  arraySize : Nat := 1
  /-- `Apd->Header.Count`. -/
  apdCount : Nat := 0
  /-- The rows that `Apd->Header.ArrayStatusPtr` marks with `SQL_PARAM_IGNORE`. -/
  ignored : Nat → Bool := fun _ => false
  /-- Whether a parameter has its records in both descriptors, and whether it is bound. -/
  record : Nat → Option Bool := fun _ => some true
  /-- `MADB_InsertParam`: the literal of a parameter in a row, or how it fails. -/
  literal : Nat → Nat → Except Failure Text := fun _ _ => .ok []
  /-- `MADB_ConversionSupported` and `MADB_C2SQL`. -/
  convert : Nat → Nat → Except Failure Unit := fun _ _ => .ok ()
  /-- `MADB_UnescapeQuery`. -/
  unescape : Text → Except Diag Text := .ok
  /-- `MADB_FindCursor`. -/
  findCursor : Text → Option PositionedCursor := fun _ => none
  /-- `RefreshDynamicCursor` behind a positioned command on a dynamic cursor. -/
  refresh : Option Diag := none

namespace Stmt

variable (s : Stmt)

/-- `MADB_SSPS_DISABLED`. -/
def sspsDisabled (env : Env) : Bool := env.noSsps || s.forceCsps

def emit (event : Event) : Stmt := { s with trace := s.trace ++ [event] }

def ask (env : Env) (request : Request) (purpose : Purpose) : Answer × Stmt :=
  let answer := env.server request s.trace.length
  (answer, s.emit (.asked request purpose answer))

/-- The current `MYSQL_STMT`. -/
def handle : Handle := s.handles.getD s.stmt {}

/-- Changes the current `MYSQL_STMT`. -/
def modifyHandle (change : Handle → Handle) : Stmt :=
  { s with handles := s.handles.modify s.stmt change }

/-- `MADB_NewStmtHandle`. -/
def newStmtHandle : Stmt := { s with handles := s.handles ++ [{}], stmt := s.handles.length }

/-- A count as `SQLSMALLINT`. -/
def toSmallInt (n : Nat) : Int := (n : Int).bmod (2 ^ 16)

/-- A value that `SQLSMALLINT` has. -/
def IsSmallInt (n : Int) : Prop := -2 ^ 15 ≤ n ∧ n < 2 ^ 15

theorem toSmallInt_of_lt {n : Nat} (few : n < 2 ^ 15) : toSmallInt n = n := by
  have less : n < 32768 := few
  show Int.bmod _ 65536 = _
  exact Int.bmod_eq_of_le (by omega) (by omega)

def fail (failure : Failure) : Stmt := { s with error := failure.error.getD s.error }

def setStatus (row : Nat) (status : ParamStatus) : Stmt :=
  { s with ipdStatus := s.ipdStatus.map (·.set row status) }

/-- Counts a row in `RowsProcessedPtr`. -/
def countRow : Stmt := { s with rowsProcessed := s.rowsProcessed.map (· + 1) }

/-- `MADB_InstallStmt`. -/
def installStmt (stmt : Nat) : Stmt :=
  let s := { s with stmt := stmt }
  { s with affectedRows := if s.handle.fieldCount = 0 then s.handle.affectedRows else 0 }

end Stmt

/-! ### The text of a statement with its parameters -/

/-- `SetUnboundParameterError`. -/
def unboundParameter : Failure where
  ret := .error
  error := some (Diag.setError .err07002
    (some (lit "Parameter was not bound before calling SQLExecute")) 0)
  notSucceeded := rfl

structure Building where
  query : Nat
  finalQuery : Text := []
  deriving DecidableEq, Repr

/-- One parameter: the part before its mark, and its literal. A parameter without a record is passed
over. -/
def insertNext (env : Env) (query : Query) (row : Nat) (i : Nat) (building : Building) :
    Flow Building Failure :=
  match env.record i with
  | none => .next building
  | some false => .leave unboundParameter
  | some true =>
    let paramIdx := query.paramPositions.getD i 0
    let lenBeforeParam := paramIdx - building.query
    match env.literal i row with
    | .error failure => .leave failure
    | .ok literal =>
      .next
        { query := building.query + lenBeforeParam + 1
          finalQuery := building.finalQuery ++
            (query.refinedText.drop building.query).take lenBeforeParam ++ literal }

/-- `MADB_InsertParams`. -/
def insertParams (env : Env) (query : Query) (queryOffset row paramOffset paramCount : Nat) :
    Except Failure Text :=
  let queryLen := (cstr (query.refinedText.drop queryOffset)).length
  match forEach (insertNext env query row) (List.range' paramOffset paramCount)
    { query := queryOffset } with
  | .leave failure => .error failure
  | .next building =>
    .ok (building.finalQuery ++
      (query.refinedText.drop building.query).take (queryOffset + queryLen - building.query))

/-! ### Client-side execution -/

/-- The local variables of `MADB_StmtExecute`, with the handle. The loops are left to the label `end`
with the values these have then. -/
structure Exec where
  stmt : Stmt
  ret : SqlReturn := .success
  errorCount : Nat := 0
  curQuery : Nat := 0
  paramOffset : Nat := 0
  paramPosId : Nat := 0
  deriving DecidableEq, Repr

namespace Exec

variable (env : Env) (e : Exec)

/-- `MADB_STMT_PARAM_COUNT` as the bound of a loop. -/
def paramCount : Nat := e.stmt.paramCount.toNat

/-- The C string at `CurQuery`. -/
def curText : Text := cstr (e.stmt.query.refinedText.drop e.curQuery)

/-- The loop of `CspsInitStatementFromMultistatement`: how many of the positions lie in the statement. -/
def countParams (positions : List Nat) (queryEnd : Nat) : Nat :=
  (positions.takeWhile (· < queryEnd)).length

/-- The parameters of the statement, in `CspsInitStatementFromMultistatement`. -/
def initParams : Exec :=
  let count := countParams (e.stmt.query.paramPositions.drop e.paramPosId)
    (e.curQuery + e.curText.length)
  { e with
    paramPosId := e.paramPosId + count
    stmt := { e.stmt with
      rebindParams := true
      paramCount := if e.stmt.paramCount = count then e.stmt.paramCount else Stmt.toSmallInt count } }

def multiStmt (statementNr : Nat) : Option Nat :=
  (e.stmt.multiStmts.bind (·[statementNr]?)).join

/-- `CspsInitStatementFromMultistatement`, or nothing where the text has come to its end. -/
def cspsInitStatementFromMultistatement (statementNr : Nat) : Option Exec :=
  match e.multiStmt statementNr with
  | some stmt => some (installed { e.stmt with stmt := stmt }).initParams
  | none =>
    if e.stmt.query.refinedText.length ≤ e.curQuery then none
    else
      let s :=
        if 0 < statementNr then e.stmt.newStmtHandle
        else
          { e.stmt with
            multiStmts := some (List.replicate e.stmt.query.stmtCount none)
            cspsMultiStmtResult := List.replicate e.stmt.query.stmtCount none }
      some (installed
        { s with multiStmts := s.multiStmts.map (·.set statementNr (some s.stmt)) }).initParams
where
  /-- The result set of the statement. -/
  installed (s : Stmt) : Exec :=
    { e with stmt := { s with cspsResult := (s.cspsMultiStmtResult[statementNr]?).join } }

/-- How `CspsInitStatementParams` ends. -/
inductive InitResult
  | ok (exec : Exec) (query : Text)
  | skip (exec : Exec)
  | failed (exec : Exec)

/-- `CspsInitStatementParams`. -/
def cspsInitStatementParams (statementNr row : Nat) : InitResult :=
  let s := e.stmt.countRow
  if env.ignored row then .skip { e with stmt := s.setStatus row .unused }
  else
    match insertParams env s.query e.curQuery row e.paramOffset e.paramCount with
    | .error failure => .failed { e with stmt := s.fail failure, ret := failure.ret }
    | .ok text =>
      let s := s.emit (.built statementNr row e.paramOffset e.paramCount text)
      .ok { e with
        ret := .success
        stmt := { s with rebindParams := s.rebindParams && e.paramCount = 0 } } text

/-- `CspsRunStatementQuery`. -/
def cspsRunStatementQuery (query : Text) (purpose : Purpose) : Exec :=
  match e.stmt.ask env (.query query) purpose with
  | (.failed native, s) =>
    let error := Diag.setNativeError native
    { e with
      stmt := { s with error := error, connFieldCount := 0 }
      ret := error.returnValue
      errorCount := e.errorCount + 1 }
  | (.ok outcome, s) =>
    let s := { s with connFieldCount := outcome.fieldCount }
    { e with
      ret := .success
      stmt :=
        if outcome.fieldCount = 0 then
          s.modifyHandle fun handle =>
            { handle with affectedRows := handle.affectedRows + outcome.affectedRows }
        else s }

/-- `MADB_CspsFreeResult`. -/
def cspsFreeResult (s : Stmt) : Stmt :=
  if s.cspsResult.isSome then
    { s.modifyHandle fun handle => { handle with fieldCount := 0 } with cspsResult := none }
  else s

/-- `CspsReceiveStatementResults`. -/
def cspsReceiveStatementResults : Exec :=
  let s := cspsFreeResult e.stmt
  if 0 < s.connFieldCount then
    let position := s.trace.length
    match s.ask env .storeResult {} with
    | (.failed native, s) =>
      { e with
        stmt := { s with error := Diag.setError .errHY001 (some native.message) native.errno }
        ret := .error }
    | (.ok _, s) =>
      { e with
        stmt :=
          { s.modifyHandle fun handle => { handle with fieldCount := s.connFieldCount } with
            cspsResult := some position } }
  else if e.ret.succeeded && s.multiStmts.isNone then
    { e with stmt := { s with affectedRows := s.affectedRows + s.handle.affectedRows } }
  else { e with stmt := s }

def rowStatus (row : Nat) : Exec :=
  if env.ignored row then e
  else
    { e with
      stmt := e.stmt.setStatus row
        (if e.ret.succeeded then .success
          else if row + 1 = env.arraySize then .error else .diagUnavailable) }

def cspsRow (statementNr row : Nat) (e : Exec) : Flow Exec Exec :=
  match e.cspsInitStatementParams env statementNr row with
  | .skip e => .next e
  | .failed e => .leave e
  | .ok e text =>
    .next ((e.cspsRunStatementQuery env text
      { statement := e.curText, pairs := [(statementNr, row)] }).rowStatus env row)

/-- `int numParamRows`. -/
def numParamRows : Nat := if 0 < e.stmt.paramCount then env.arraySize else 1

/-- `my_bool rewriteInsert`. -/
def rewriteInsert : Bool :=
  let query := e.stmt.query
  decide (1 < e.numParamRows env) && query.queryType == .insert &&
    query.findToken (lit "VALUES") != 0 && query.findToken (lit "RETURNING") == 0 &&
    decide (query.findToken (lit "VALUES") < query.findToken (lit "?")) &&
    query.findToken (lit "ON DUPLICATE KEY UPDATE") == 0 && !query.isMultiStmt

/-- `S2_MAX_PARAMS`. -/
def maxParams : Nat := 1024000

/-- `long rowsInBatch`. -/
def rowsInBatch : Nat := maxParams / e.paramCount

/-- `unsigned int valuesOffest`. -/
def valuesOffset : Nat := e.stmt.query.findToken (lit "VALUES") + 6

def batchRows (batchNum : Nat) : List Nat :=
  (List.range' (batchNum * e.rowsInBatch) e.rowsInBatch).filter (· < e.numParamRows env)

structure Combining where
  exec : Exec
  query : Text

/-- One row of a batch: its values are appended, behind a comma unless the row is the first of a
batch. -/
def combineRow (row : Nat) (c : Combining) : Flow Combining Exec :=
  match c.exec.cspsInitStatementParams env 0 row with
  | .skip e => .next { c with exec := e }
  | .failed e => .leave e
  | .ok e text =>
    .next
      { exec := e
        query :=
          if 0 < text.length then
            c.query ++ (if row % e.rowsInBatch = 0 then [] else lit ",") ++
              cstr (text.drop e.valuesOffset)
          else c.query }

def batchStatus (row : Nat) (e : Exec) : Exec :=
  if env.ignored row then e
  else { e with stmt := e.stmt.setStatus row (if e.ret.succeeded then .success else .error) }

def cspsBatch (batchNum : Nat) (e : Exec) : Flow Exec Exec :=
  let start := ((e.stmt.query.token 0).getD []).take e.valuesOffset
  match forEach (combineRow env) (e.batchRows env batchNum) { exec := e, query := start } with
  | .leave exit => .leave exit
  | .next c =>
    let sent := c.exec.cspsRunStatementQuery env c.query
      { statement := e.curText
        pairs := ((e.batchRows env batchNum).filter (!env.ignored ·)).map (0, ·) }
    .next ((e.batchRows env batchNum).foldl (fun e row => e.batchStatus env row) sent)

def batchCount : Nat := (e.numParamRows env + e.rowsInBatch - 1) / e.rowsInBatch

def cspsRewritten (e : Exec) : Flow Exec Exec :=
  let rows := e.numParamRows env
  match forEach (cspsBatch env) (List.range (e.batchCount env)) e with
  | .leave exit => .leave exit
  | .next e =>
    .next
      { e with
        stmt := { e.stmt with affectedRows := e.stmt.handle.affectedRows }
        errorCount := if e.ret = .error then rows else e.errorCount }

def cspsRowByRow (statementNr : Nat) (e : Exec) : Flow Exec Exec :=
  match forEach (cspsRow env statementNr) (List.range (e.numParamRows env)) e with
  | .leave exit => .leave exit
  | .next e => .next (e.cspsReceiveStatementResults env)

def cspsNext (statementNr : Nat) (e : Exec) : Exec :=
  if e.stmt.query.isMultiStmt then
    { e with
      paramOffset := e.paramOffset + e.paramCount
      curQuery := e.curQuery + e.curText.length + 1
      stmt := { e.stmt with
        cspsMultiStmtResult := e.stmt.cspsMultiStmtResult.set statementNr e.stmt.cspsResult
        cspsResult := none } }
  else e

def cspsStatement (statementNr : Nat) (e : Exec) : Flow Exec Exec :=
  let init :=
    if e.stmt.query.isMultiStmt then e.cspsInitStatementFromMultistatement statementNr else some e
  match init with
  | none => .next e
  | some e =>
    match if e.rewriteInsert env then e.cspsRewritten env else e.cspsRowByRow env statementNr with
    | .leave exit => .leave exit
    | .next e => .next (e.cspsNext statementNr)

def cspsFinish (s : Stmt) : Stmt :=
  let s :=
    match s.multiStmts with
    | some multiStmts =>
      { { s with multiStmtNr := 0 }.installStmt (multiStmts.headD none |>.getD 0) with
        cspsResult := (s.cspsMultiStmtResult.headD none) }
    | none => if 0 < s.handle.fieldCount then { s with affectedRows := -1 } else s
  { s with state := .executed }

/-- The client-side part of `MADB_StmtExecute`, up to the label `end`. -/
def executeCsps (s : Stmt) : Exec :=
  let s := s.emit .lock
  let s := { s with affectedRows := 0, rowsProcessed := s.rowsProcessed.map fun _ => 0 }
  let s := s.modifyHandle fun handle => { handle with affectedRows := 0 }
  match forEach (cspsStatement env) (List.range s.query.stmtCount) { stmt := s } with
  | .leave e => e
  | .next e => { e with stmt := cspsFinish e.stmt }

end Exec

/-! ### Server-side execution -/

/-- How the loops of the server-side part are left: to the label `end`, or out of the function. -/
inductive Exit
  | toEnd (exec : Exec)
  | out (exec : Exec)
  deriving DecidableEq, Repr

namespace Exec

variable (env : Env) (e : Exec)

/-- `mysql_stmt_prepare` on the current handle. -/
def stmtPrepare (s : Stmt) (text : Text) : Except Stmt Stmt :=
  match s.ask env (.stmtPrepare text) {} with
  | (.failed native, s) => .error { s with error := Diag.setNativeError native }
  | (.ok outcome, s) =>
    .ok (s.modifyHandle fun handle =>
      { handle with
        text := text
        fieldCount := outcome.fieldCount
        paramCount := outcome.paramCount })

theorem stmtPrepare_cases (s : Stmt) (text : Text) :
    (∃ native, env.server (.stmtPrepare text) s.trace.length = .failed native ∧
      stmtPrepare env s text = .error { s.emit (.asked (.stmtPrepare text) {} (.failed native)) with
        error := Diag.setNativeError native }) ∨
      ∃ outcome handles, env.server (.stmtPrepare text) s.trace.length = .ok outcome ∧
        stmtPrepare env s text =
          .ok { s.emit (.asked (.stmtPrepare text) {} (.ok outcome)) with handles := handles } := by
  rw [stmtPrepare, Stmt.ask]
  cases env.server (.stmtPrepare text) s.trace.length with
  | failed native => exact .inl ⟨native, rfl, rfl⟩
  | ok outcome => exact .inr ⟨outcome, _, rfl, rfl⟩

/-- The statement of a batch that comes next: whether the text has come to its end, and whether the
statement still has to be prepared. -/
def sspsSelect (statementNr : Nat) : Option (Stmt × Bool) :=
  let atEnd := e.stmt.query.refinedText.length ≤ e.curQuery
  match e.multiStmt statementNr with
  | some stmt =>
    if atEnd then none else some ({ e.stmt with stmt := stmt }, decide (statementNr ≠ 0))
  | none =>
    if atEnd then none
    else
      let s :=
        if 0 < statementNr then e.stmt.newStmtHandle
        else { e.stmt with multiStmts := some (List.replicate e.stmt.query.stmtCount none) }
      some ({ s with multiStmts := s.multiStmts.map (·.set statementNr (some s.stmt)) }, true)

/-- The parameters of a statement of a batch are those the server found. -/
def sspsParams (s : Stmt) : Stmt :=
  { s with
    rebindParams := true
    paramCount :=
      if s.paramCount = s.handle.paramCount then s.paramCount
      else Stmt.toSmallInt s.handle.paramCount }

/-- The start of a statement of a batch. Nothing is left to do for it where the text has come to its
end. -/
def sspsInit (statementNr : Nat) : Flow (Option Exec) Exit :=
  match e.sspsSelect statementNr with
  | none => .next none
  | some (s, toPrepare) =>
    let prepared := if toPrepare then stmtPrepare env s e.curText else .ok s
    match prepared with
    | .error s => .leave (.out { e with stmt := s, ret := s.error.returnValue })
    | .ok s =>
      .next (some
        { e with stmt := sspsParams s, curQuery := e.curQuery + e.curText.length + 1 })

def convertNext (row i : Nat) (e : Exec) : Flow Exec Exit :=
  match env.record i with
  | none => .next e
  | some false =>
    .leave (.toEnd { e with stmt := e.stmt.fail unboundParameter, ret := unboundParameter.ret })
  | some true =>
    match env.convert i row with
    | .error failure => .leave (.toEnd { e with stmt := e.stmt.fail failure, ret := failure.ret })
    | .ok () => .next { e with ret := .success }

/-- `MADB_GetOutParams`. -/
def getOutParams (s : Stmt) : Exec :=
  match s.ask env .storeResult {} with
  | (.failed native, s) =>
    let error := Diag.setNativeError native
    { e with stmt := { s with error := error }, ret := error.returnValue }
  | (.ok _, s) => { e with stmt := s, ret := .success }

/-- `MADB_DoExecute`. -/
def doExecute (purpose : Purpose) : Exec :=
  match e.stmt.ask env (.stmtExecute e.stmt.handle.text) purpose with
  | (.failed native, s) =>
    let error := Diag.setNativeError native
    { e with stmt := { s with error := error }, ret := error.returnValue }
  | (.ok outcome, s) =>
    let s := s.modifyHandle fun handle =>
      { handle with fieldCount := outcome.fieldCount, affectedRows := outcome.affectedRows }
    if outcome.outParams then e.getOutParams env { s with state := .outParamsFetched }
    else { e with stmt := { s with state := .executed }, ret := .success }

def sspsRowDone (row : Nat) : Exec :=
  let errorCount := if e.ret.succeeded then e.errorCount else e.errorCount + 1
  let s := e.stmt.setStatus row
    (if e.ret.succeeded then .success
      else if row + 1 = env.arraySize then .error else .diagUnavailable)
  let s :=
    if s.handle.fieldCount = 0 ∧ e.ret.succeeded ∧ s.multiStmts.isNone then
      { s with affectedRows := s.affectedRows + s.handle.affectedRows }
    else s
  { e with stmt := s, errorCount := errorCount }

def sspsRow (statementNr : Nat) (statement : Text) (row : Nat) (e : Exec) : Flow Exec Exit :=
  let s := e.stmt.countRow
  if env.ignored row then .next { e with stmt := s.setStatus row .unused }
  else
    match forEach (convertNext env row) (List.range' e.paramOffset e.paramCount)
      { e with stmt := s } with
    | .leave exit => .leave exit
    | .next e =>
      let s := { e.stmt with rebindParams := e.stmt.rebindParams && e.paramCount = 0 }
      let e := { e with stmt := s }.doExecute env
        { statement := statement, pairs := [(statementNr, row)] }
      .next (e.sspsRowDone env row)

/-- Behind the rows of a statement of a batch: its result is stored. The answer is not looked at. -/
def sspsNext : Exec :=
  if e.stmt.query.isMultiStmt then
    let e := { e with paramOffset := e.paramOffset + e.paramCount }
    if !env.noCache && e.stmt.handle.fieldCount != 0 then
      { e with stmt := (e.stmt.ask env .storeResult {}).2 }
    else e
  else e

def sspsStatement (statementNr : Nat) (e : Exec) : Flow Exec Exit :=
  let statement := e.curText
  let init := if e.stmt.query.isMultiStmt then e.sspsInit env statementNr else .next (some e)
  match init with
  | .leave exit => .leave exit
  | .next none => .next e
  | .next (some e) =>
    match forEach (sspsRow env statementNr statement) (List.range env.arraySize) e with
    | .leave exit => .leave exit
    | .next e => .next (e.sspsNext env)

def sspsFinish : Exit :=
  match e.stmt.multiStmts with
  | some multiStmts =>
    .toEnd { e with
      stmt := { e.stmt with multiStmtNr := 0 }.installStmt (multiStmts.headD none |>.getD 0) }
  | none =>
    if 0 < e.stmt.handle.fieldCount then
      if e.stmt.state = .executed ∧ !env.noCache then
        match e.stmt.ask env .storeResult {} with
        | (.failed native, s) =>
          -- this return has its own unlock
          let s := s.emit .unlock
          let error := Diag.setNativeError native
          .out { e with stmt := { s with error := error }, ret := error.returnValue }
        | (.ok _, s) => .toEnd { e with stmt := { s with affectedRows := -1 } }
      else .toEnd { e with stmt := { e.stmt with affectedRows := -1 } }
    else .toEnd e

/-- The server-side part of `MADB_StmtExecute`. -/
def executeSsps (s : Stmt) : Exit :=
  let s := if env.needsData then { s with error := Diag.setError .errHY010 none 0 } else s
  let s := s.emit .lock
  let s := { s with affectedRows := 0, rowsProcessed := s.rowsProcessed.map fun _ => 0 }
  match forEach (sspsStatement env) (List.range s.query.stmtCount) { stmt := s } with
  | .leave exit => exit
  | .next e => e.sspsFinish env

end Exec

/-! ### Either side -/

/-- `ER_UNSUPPORTED_PS`. -/
def unsupportedPs : Nat := 1295

namespace Stmt

variable (env : Env) (s : Stmt)

/-- The pairs that the text of a query executes when it is sent as it is. -/
def allPairs : List (Nat × Nat) := (List.range (max 1 s.query.stmtCount)).map (·, 0)

/-- `MADB_ExecuteQuery` with the text of the query as it was given. -/
def executeQuery : SqlReturn × Stmt :=
  let text := cstr s.query.original
  let s := s.emit .lock
  match s.ask env (.query text) { statement := text, pairs := s.allPairs } with
  | (.ok outcome, s) =>
    (.success, { s with error := Diag.clear, affectedRows := outcome.affectedRows }.emit .unlock)
  | (.failed native, s) => (.error, { s with error := Diag.setNativeError native }.emit .unlock)

/-- `MADB_StmtExecute` for an emulated statement. -/
def executeEmulated : SqlReturn × Stmt :=
  { s.emit .enter with error := Diag.clear }.executeQuery env

/-- The end of `MADB_StmtExecute`: the return code, and another try if preparing is not supported. -/
def executeEnd (e : Exec) : SqlReturn × Stmt :=
  let s := e.stmt.emit .unlock
  let ret :=
    if e.errorCount = 0 then e.ret
    else if e.errorCount < env.arraySize then .successWithInfo else .error
  if ret.succeeded then (ret, s)
  else if s.error.nativeError = unsupportedPs then { s with state := .emulated }.executeEmulated env
  else (ret, s)

/-- `MADB_StmtExecute` behind its first questions. -/
def executePlain : SqlReturn × Stmt :=
  if !s.hasParams && !env.allocParams then
    let error := Diag.setError .errHY001 none 0
    (error.returnValue, { s with error := error })
  else
    let s := { s with hasParams := true }
    if s.sspsDisabled env then executeEnd env (Exec.executeCsps env s)
    else
      match Exec.executeSsps env s with
      | .toEnd e => executeEnd env e
      | .out e => (e.ret, e.stmt)

/-- `MADB_StmtExecute` for a positioned command (`MADB_ExecutePositionedUpdate`). Binding the columns of
the cursor is part of the parameters that `env` gives. -/
def executePositioned (cursor : PositionedCursor) : SqlReturn × Stmt :=
  if !cursor.hasResult then
    let error := Diag.setError .err34000 (some (lit "Cursor has no result set or is not open")) 0
    (error.returnValue, { s with error := error })
  else
    let s := { s with affectedRows := 0, positionedCursor := none }
    let s := { s.emit .enter with error := Diag.clear }
    let (ret, s) := s.executePlain env
    let s := { s with positionedCursor := some cursor }
    match env.refresh with
    | some error =>
      if ret.succeeded && !error.returnValue.succeeded then
        (error.returnValue, { s with error := error })
      else (ret, s)
    | none => (ret, s)

/-- `MADB_StmtExecute`. -/
def stmtExecute : SqlReturn × Stmt :=
  let s := { s.emit .enter with error := Diag.clear }
  if s.state = .emulated then s.executeQuery env
  else
    match s.positionedCommand, s.positionedCursor with
    | true, some cursor => s.executePositioned env cursor
    | _, _ => s.executePlain env

/-- What `MADB_StmtExecute` adds to the trace. -/
def executeEvents : List Event := (s.stmtExecute env).2.trace.drop s.trace.length

end Stmt

end MaOdbc
