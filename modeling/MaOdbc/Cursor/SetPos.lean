/-
**Positioning within a rowset.**

`MADB_StmtSetPos` moves the cursor of a result set, inserts the bound columns as new rows, or deletes
rows. The table and the catalog of an insertion or deletion are those of the columns of the result set,
as `MADB_GetTableName` and `MADB_GetCatalogName` find them; both keep what they find with the handle.
-/

import MaOdbc.Library.Loop
import MaOdbc.Stmt.Error

namespace MaOdbc

/-- `MYSQL_FIELD`. -/
structure Field where
  orgTable : Option Text
  db : Text
  orgName : Text
  deriving DecidableEq, Repr

inductive CursorEvent
  /-- `LOCK_MARIADB`. -/
  | lock
  /-- `UNLOCK_MARIADB`. -/
  | unlock
  /-- An `INSERT` is prepared for the columns of the result set that is open. -/
  | inserts (text : Text) (fields : List Field)
  /-- A `DELETE` is sent for the result set that is open. -/
  | deletes (text : Text) (fields : List Field)
  deriving DecidableEq, Repr

/-- The part of `MADB_Stmt` that belongs to its result set. -/
structure Cursor where
  /-- `Stmt->stmt->fields`. -/
  fields : List Field := []
  /-- Whether `Stmt->result` or `Stmt->stmt->fields` is set. -/
  isOpen : Bool := false
  /-- `mysql_stmt_num_rows`. -/
  numRows : Nat := 0
  /-- `Cursor.Position`. -/
  position : Nat := 0
  lastRowFetched : Int := 0
  /-- `Ard->Header.ArraySize`. -/
  arraySize : Nat := 1
  affectedRows : Int := 0
  tableName : Option Text := none
  catalogName : Option Text := none
  /-- `DataExecutionType == MADB_DAE_ADD`. -/
  daeAdd : Bool := false
  daeRowNumber : Nat := 0
  error : Diag := {}
  trace : List CursorEvent := []
  deriving DecidableEq, Repr

structure ResultSet where
  fields : List Field
  numRows : Nat
  deriving DecidableEq, Repr

/-- Everything `MADB_StmtSetPos` depends on besides the handle. -/
structure CursorEnv where
  /-- `NO_CACHE`. -/
  noCache : Bool := false
  /-- `Options.CursorType == SQL_CURSOR_DYNAMIC`. -/
  dynamic : Bool := false
  /-- The result set that executing the statement once more opens. -/
  reopened : ResultSet := ⟨[], 0⟩
  /-- The error with which executing the statement once more fails. -/
  refreshError : Option Diag := none
  /-- Whether memory for the text of an `INSERT` is there. -/
  allocInsert : Bool := true
  /-- Whether a column is bound, and not ignored in all rows. -/
  bound : Nat → Bool := fun _ => true
  /-- How preparing the `INSERT` fails. -/
  prepareError : Option Diag := none
  /-- How executing the `INSERT` ends: the error, or the number of rows. -/
  execute : Except (SqlReturn × Diag) Nat := .ok 1
  /-- `MADB_DynStrGetWhere` for a row, or nothing where it fails. -/
  whereClause : Nat → Option Text := fun _ => some (lit " WHERE 1 LIMIT 1")
  /-- How deleting a row ends: the error, or the number of rows. -/
  delete : Nat → Except NativeError Nat := fun _ => .ok 1

/-- `SQL_POSITION`, `SQL_ADD`, `SQL_DELETE`, and the operations that are not supported. -/
inductive SetPosOperation
  | position
  | add
  | delete
  | other
  deriving DecidableEq, Repr

namespace Cursor

variable (env : CursorEnv) (c : Cursor)

def emit (event : CursorEvent) : Cursor := { c with trace := c.trace ++ [event] }

def setError (code : ErrorCode) (message : Option Text) (nativeError : Nat) : SqlReturn × Cursor :=
  let error := Diag.setError code message nativeError
  (error.returnValue, { c with error := error })

/-- The loop of `MADB_GetTableName` and of `MADB_GetCatalogName`: the first name among the columns that
belong to a table, or nothing where another one differs. -/
def uniqueName (pick : Field → Text) (fields : List Field) : Option (Option Text) :=
  match (fields.filter (·.orgTable.isSome)).map pick with
  | [] => some none
  | first :: names => if names.all (· == first) then some (some first) else none

/-- What `MADB_GetTableName` and `MADB_GetCatalogName` return, keep and report. -/
structure Named where
  name : Option Text
  kept : Option Text
  error : Diag
  deriving DecidableEq, Repr

/-- `MADB_GetTableName` and `MADB_GetCatalogName`: the name that is kept with the handle unless it is
empty, or else the one the columns have in common. -/
def getName (cached : Option Text) (pick : Field → Text) (message : Text) : Named :=
  match cached with
  | some (byte :: name) => ⟨some (byte :: name), cached, c.error⟩
  | _ =>
    if c.fields.isEmpty then ⟨none, cached, c.error⟩
    else
      match uniqueName pick c.fields with
      | none => ⟨none, cached, Diag.setError .errHY000 (some message) 0⟩
      | some none => ⟨cached, cached, c.error⟩
      | some (some name) => ⟨some name, some name, c.error⟩

/-- `MADB_GetTableName`. -/
def getTableName : Option Text × Cursor :=
  let named := c.getName c.tableName (·.orgTable.getD [])
    (lit "Couldn't identify unique table name")
  (named.name, { c with tableName := named.kept, error := named.error })

/-- `MADB_GetCatalogName`. -/
def getCatalogName : Option Text × Cursor :=
  let named := c.getName c.catalogName (·.db) (lit "Couldn't identify unique catalog name")
  (named.name, { c with catalogName := named.kept, error := named.error })

def opens (result : ResultSet) : Cursor :=
  { c with fields := result.fields, numRows := result.numRows, isOpen := !result.fields.isEmpty }

/-- `MADB_RefreshDynamicCursor`: the statement is executed once more. -/
def refreshDynamicCursor : Cursor :=
  let c := c.opens env.reopened
  { c with
    position := if 0 < c.position ∧ c.numRows ≤ c.position then c.numRows - 1 else c.position
    error := env.refreshError.getD Diag.clear }

def refreshed : Except (SqlReturn × Cursor) Cursor :=
  if env.dynamic then
    let c := c.refreshDynamicCursor env
    if env.refreshError.isSome then .error (c.error.returnValue, c) else .ok c
  else .ok c

/-- `MADB_DynStrAppendQuoted`. -/
def quoted (name : Text) : Text := lit "`" ++ name ++ lit "`"

/-- `MADB_DynStrInsertSet`: the bound columns, and a parameter mark for each of them. -/
def insertSet : Text :=
  let columns := (c.fields.zipIdx.filter fun column => env.bound column.2).map fun column =>
    quoted column.1.orgName
  lit " (" ++ (columns.intersperse (lit ",")).flatten ++ lit ") " ++
    (lit "VALUES (" ++ ((columns.map fun _ => lit "?").intersperse (lit ",")).flatten ++ lit ")")

/-- `SQL_POSITION`. -/
def setPosition (rowNumber : Nat) : SqlReturn × Cursor :=
  if rowNumber < 1 ∨ c.numRows < rowNumber then c.setError .errHY109 none 0
  else
    match c.refreshed env with
    | .error returned => returned
    | .ok c =>
      let c := c.emit .lock
      let c := { c with position := c.position + (rowNumber - 1) }
      (.success, c.emit .unlock)

def prepareInsert (catalogName tableName : Text) : Except (SqlReturn × Cursor) Cursor :=
  if c.daeAdd then .ok c
  else if !env.allocInsert then .error (c.setError .errHY001 none 0)
  else
    let text := lit "INSERT INTO " ++ quoted catalogName ++ lit "." ++ quoted tableName ++ c.insertSet env
    let c := { c.emit (.inserts text c.fields) with daeAdd := true }
    match env.prepareError with
    | some error => .error (error.returnValue, { c with error := error })
    | none => .ok c

/-- `SQL_ADD`. The names are looked up before a dynamic cursor is refreshed. -/
def setAdd (rowNumber : Nat) : SqlReturn × Cursor :=
  match c.getTableName with
  | (tableName, c) =>
    match c.getCatalogName with
    | (catalogName, c) =>
      match c.refreshed env with
      | .error returned => returned
      | .ok c =>
        let c := { c with daeRowNumber := rowNumber }
        match c.prepareInsert env (catalogName.getD []) (tableName.getD []) with
        | .error returned => returned
        | .ok c =>
          match env.execute with
          | .error (ret, error) => (ret, { c with error := error })
          | .ok rows =>
            let affected := if c.affectedRows = -1 then 0 else c.affectedRows
            (.success, { c with affectedRows := affected + rows, daeAdd := false })

/-- The rows that `SQL_DELETE` deletes. -/
def deletedRows (rowNumber : Nat) : List Nat :=
  let start := if rowNumber = 0 then c.position else c.position + rowNumber - 1
  let last :=
    if c.arraySize ≠ 0 ∧ rowNumber = 0 then min c.numRows ((start + c.arraySize - 1) % 2 ^ 64) else start
  List.range' start (last + 1 - start)

/-- One row of `SQL_DELETE`: the lock is taken for each row, and given back only if the row cannot be
deleted. -/
def deleteRow (tableName : Text) (row : Nat) (c : Cursor) : Flow Cursor (SqlReturn × Cursor) :=
  match env.whereClause row with
  | none => .leave (c.setError .errHY001 none 0)
  | some whereClause =>
    let text := lit "DELETE FROM " ++ quoted tableName ++ whereClause
    let c := (c.emit .lock).emit (.deletes text c.fields)
    match env.delete row with
    | .error native =>
      let error := Diag.setError .errHY001 (some native.message) native.errno
      .leave (error.returnValue, { c with error := error }.emit .unlock)
    | .ok rows => .next { c with affectedRows := c.affectedRows + rows }

/-- `SQL_DELETE`. -/
def setDelete (rowNumber : Nat) : SqlReturn × Cursor :=
  let lastRow := c.numRows
  match c.getTableName with
  | (none, c) =>
    c.setError .errIM001 (some (lit "Updatable Cursors with multiple tables are not supported")) 0
  | (some tableName, c) =>
    let saveArraySize := c.arraySize
    match { c with arraySize := 1 }.refreshed env with
    | .error returned => returned
    | .ok c =>
      let c := { c with affectedRows := 0 }
      if lastRow < rowNumber then c.setError .errHY109 none 0
      else
        let rows := { c with arraySize := saveArraySize, numRows := lastRow }.deletedRows rowNumber
        match forEach (deleteRow env tableName) rows c with
        | .leave returned => returned
        | .next c =>
          let c := { c.emit .unlock with arraySize := saveArraySize }
          (.success,
            if env.dynamic then { c with lastRowFetched := c.lastRowFetched - c.affectedRows }
            else c)

/-- `MADB_StmtSetPos`. -/
def stmtSetPos (rowNumber : Nat) (operation : SetPosOperation) (lockNoChange : Bool) :
    SqlReturn × Cursor :=
  if !c.isOpen then c.setError .err24000 none 0
  else if env.noCache then
    c.setError .errHY109 (some (lit ("SQL_FORWARD_ONLY cursor is used with NO_CACHE option. " ++
      "Cursor with this options can't be positioned within the rowset. " ++
      "Use other cursor type or set NO_CACHE connection option to 0 to set the cursor position."))) 0
  else if !lockNoChange then c.setError .errHYC00 none 0
  else
    match operation with
    | .position => c.setPosition env rowNumber
    | .add => c.setAdd env rowNumber
    | .delete => c.setDelete env rowNumber
    | .other => c.setError .errHYC00 (some (lit "Operation is not supported")) 0

theorem refreshed_eq :
    (¬ (env.dynamic = true → env.refreshError = none) ∧
        c.refreshed env =
          .error ((c.refreshDynamicCursor env).error.returnValue, c.refreshDynamicCursor env)) ∨
      ((env.dynamic = true → env.refreshError = none) ∧
        c.refreshed env = .ok (if env.dynamic then c.refreshDynamicCursor env else c)) := by
  rw [refreshed]
  cases env.dynamic with
  | false => exact Or.inr ⟨fun never => Bool.noConfusion never, rfl⟩
  | true =>
    rw [if_pos rfl]
    cases failed : env.refreshError with
    | some error => exact Or.inl ⟨fun fine => Option.some_ne_none _ (fine rfl), rfl⟩
    | none => exact Or.inr ⟨fun _ => rfl, rfl⟩

/-- The cursor that an operation goes on with, or that it leaves when it cannot. -/
inductive Refreshed (env : CursorEnv) (c : Cursor) : Cursor → Prop
  | static : Refreshed env c c
  | dynamic : env.dynamic = true → Refreshed env c (c.refreshDynamicCursor env)

theorem refreshed_reaches :
    match c.refreshed env with
    | .ok c' => Refreshed env c c'
    | .error returned => Refreshed env c returned.2 := by
  rw [refreshed]
  cases dynamic : env.dynamic with
  | false => exact .static
  | true =>
    cases env.refreshError.isSome with
    | false | true => exact .dynamic dynamic

theorem Refreshed.kept {env : CursorEnv} {c c' : Cursor} (refreshed : Refreshed env c c') :
    c'.trace = c.trace ∧ c'.arraySize = c.arraySize := by
  cases refreshed with
  | static | dynamic => exact ⟨rfl, rfl⟩

/-- **What `SQL_ADD` does to a cursor**: it is refreshed, and an `INSERT` may be prepared for its columns. -/
theorem setAdd_reaches (rowNumber : Nat) :
    ∃ c' : Cursor, Refreshed env c.getTableName.2.getCatalogName.2 c' ∧
      (c.setAdd env rowNumber).2.fields = c'.fields ∧ (c.setAdd env rowNumber).2.tableName = c'.tableName ∧
      (c.setAdd env rowNumber).2.catalogName = c'.catalogName ∧
      (c.setAdd env rowNumber).2.arraySize = c'.arraySize ∧
      ((c.setAdd env rowNumber).2.trace = c'.trace ∨
        (c.setAdd env rowNumber).2.trace = c'.trace ++
          [.inserts (lit "INSERT INTO " ++ quoted (c.getTableName.2.getCatalogName.1.getD []) ++ lit "." ++
            quoted (c.getTableName.1.getD []) ++ c'.insertSet env) c'.fields]) := by
  have reached := refreshed_reaches env c.getTableName.2.getCatalogName.2
  rw [setAdd]
  dsimp only
  cases refreshes : c.getTableName.2.getCatalogName.2.refreshed env with
  | error returned =>
    rw [refreshes] at reached
    exact ⟨returned.2, reached, rfl, rfl, rfl, rfl, .inl rfl⟩
  | ok c' =>
    rw [refreshes] at reached
    refine ⟨c', reached, ?_⟩
    dsimp only
    rw [prepareInsert]
    by_cases adding : { c' with daeRowNumber := rowNumber }.daeAdd = true
    · rw [if_pos adding]
      cases env.execute with
      | error | ok => exact ⟨rfl, rfl, rfl, rfl, .inl rfl⟩
    · rw [if_neg adding]
      by_cases alloc : (!env.allocInsert) = true
      · rw [if_pos alloc]
        exact ⟨rfl, rfl, rfl, rfl, .inl rfl⟩
      · rw [if_neg alloc]
        cases env.prepareError with
        | some => exact ⟨rfl, rfl, rfl, rfl, .inr rfl⟩
        | none =>
          cases env.execute with
          | error | ok => exact ⟨rfl, rfl, rfl, rfl, .inr rfl⟩

end Cursor

end MaOdbc
