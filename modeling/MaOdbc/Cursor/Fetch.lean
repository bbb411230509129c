/-
**Fetching rowsets.**

`MADB_StmtFetchScroll` works out where the next rowset starts and puts the row cursor of libmariadb there,
`MADB_StmtFetch` brings the rows of the rowset into the buffers of the application. A result is a linked
list of rows, and a pointer into it is the list from there on; the null pointer is the empty list.

* A rowset of several rows of a scrollable cursor is read from its second row on and its first row last,
  so that the row cursor stays with the rowset; `Cursor.Next` remembers where the next one starts.
* A dynamic cursor executes its statement once more before every call.
* A forward-only cursor with `NO_CACHE` reads its rows from the server, without knowing how many there are.
-/

import MaOdbc.Library.Loop
import MaOdbc.Param.InsertParam
import MaOdbc.Stmt.Error

namespace MaOdbc

/-- `MYSQL_ROW`: a text for each column that is not `NULL`. -/
abbrev Row := List (Option Text)

/-- `Options.CursorType`. -/
inductive CursorType
  | forwardOnly
  | keysetDriven
  | dynamic
  | static
  deriving DecidableEq, Repr

/-- The orientations of `SQLFetchScroll`. -/
inductive FetchOrientation
  | next
  | first
  | last
  | prior
  | absolute
  | relative
  | bookmark
  | other
  deriving DecidableEq, Repr

inductive RowStatus
  | success
  | deleted
  | updated
  | noRow
  | added
  | error
  | successWithInfo
  deriving DecidableEq, Repr

/-- `Options.UseBookmarks`. -/
inductive UseBookmarks
  | off
  | on
  | variable
  deriving DecidableEq, Repr

/-- `Options.BookmarkType`. -/
inductive BookmarkType
  | bookmark
  | varBookmark
  | other
  deriving DecidableEq, Repr

/-- A record of the ARD: which of its pointers are set, and whether the indicator is the length. -/
structure Column where
  inUse : Bool := true
  hasLength : Bool := true
  hasIndicator : Bool := true
  isShared : Bool := true
  deriving DecidableEq, Repr

structure Cell where
  data : Text := []
  length : Int := 0
  indicator : Int := 0
  deriving DecidableEq, Repr

/-- What `MADB_CspsConvertSql2C` returns. -/
inductive ConvertCode
  | success
  | truncated
  | error
  deriving DecidableEq, Repr

/-- How `MADB_FixFetchedValues` gets along with a value: well; with an error that counts for the row; with
an error record that is only left behind, as for `SQL_C_NUMERIC` and `SQL_C_WCHAR`; or with an error that it
returns at once, for a `SQL_C_NUMERIC` that is too long. -/
inductive Fixing
  | fixed
  | failed (code : ErrorCode)
  | left (error : Diag)
  | stopped (code : ErrorCode)
  deriving DecidableEq, Repr

/-- A value on its way into a buffer: how its conversion ends, what it leaves in the buffer and as its
length, and how `MADB_FixFetchedValues` gets along with it. -/
structure Conversion where
  code : ConvertCode := .success
  data : Option Text := none
  length : Option Int := none
  fixing : Fixing := .fixed
  deriving DecidableEq, Repr

/-- What `MADB_FetchCsps` returns. -/
inductive FetchCode
  | converted (code : ConvertCode)
  | noData
  | readError
  deriving DecidableEq, Repr

structure FetchEnv where
  cursorType : CursorType := .static
  /-- `Dsn->NoCache`. -/
  dsnNoCache : Bool := false
  /-- `MADB_STMT_COLUMN_COUNT`. -/
  columnCount : Nat := 1
  /-- The records of the ARD. -/
  ard : List Column := [{}]
  /-- The conversion of a text in a column. -/
  convert : Nat → Text → Conversion := fun _ text => { data := some text, length := some text.length }
  /-- The error for a column that is cut off, unless it is ignored. -/
  truncationError : Nat → Option ErrorCode := fun _ => some .err01004
  /-- `MADB_PrepareBind`. -/
  prepareBind : Option ErrorCode := none
  useBookmarks : UseBookmarks := .off
  bookmarkType : BookmarkType := .other
  hasBookmarkPtr : Bool := false
  bookmarkLength : Nat := 0
  /-- `OdbcVersion >= SQL_OV_ODBC3`. -/
  odbc3 : Bool := true
  /-- How executing the statement once more ends: with an error, or with a result. -/
  execute : Except Diag (List Row) := .ok []
  /-- How reading from the server ends before the end of the result. -/
  readError : Option NativeError := none

namespace FetchEnv

variable (env : FetchEnv)

/-- `NO_CACHE`. -/
def noCache : Bool := env.cursorType == .forwardOnly && env.dsnNoCache

def column (i : Nat) : Option Column := env.ard[i]?.filter (·.inUse)

def bookmarkMismatch : Bool :=
  if env.useBookmarks = .variable then env.bookmarkType = .bookmark else env.bookmarkType = .varBookmark

end FetchEnv

def Row.value (row : Row) (i : Nat) : Option Text := row[i]?.join

/-- The part of `MADB_Stmt` that fetching reads and writes. -/
structure RowCursor where
  /-- `Stmt->stmt->result.data`. -/
  result : List Row := []
  /-- `mysql_stmt_num_rows`. -/
  numRows : Nat := 0
  /-- `Stmt->stmt->result_cursor`. -/
  resultCursor : List Row := []
  /-- The rows that are still to be read from the server. -/
  unread : List Row := []
  /-- `Cursor.Position`. -/
  position : Int := -1
  /-- `Cursor.RowsetSize`. -/
  rowsetSize : Nat := 0
  /-- `Cursor.Next`. -/
  next : List Row := []
  lastRowFetched : Int := 0
  /-- `Ard->Header.ArraySize`. -/
  arraySize : Nat := 1
  /-- `Ard->Header.ArrayStatusPtr`. -/
  ardStatus : Option (Nat → Int) := none
  /-- `Ird->Header.ArrayStatusPtr`. -/
  rowStatus : Option (Nat → RowStatus) := none
  /-- `Ird->Header.RowsProcessedPtr`. -/
  rowsProcessed : Option Nat := none
  /-- The buffers of the application: for each row of the rowset, those of its columns. -/
  buffers : Nat → Nat → Cell := fun _ _ => {}
  /-- What `Options.BookmarkPtr` points to. -/
  bookmarks : Nat → Int := fun _ => 0
  error : Diag := {}

/-- A number as `SQLLEN`. -/
def toSqlLen (n : Int) : Int := n.bmod (2 ^ 64)

/-- A number as `SQLULEN`. -/
def toSqlULen (n : Int) : Nat := (n % 2 ^ 64).toNat

/-- `MADB_MapToRowStatus`. -/
def mapToRowStatus : SqlReturn → RowStatus
  | .successWithInfo => .successWithInfo
  | .error => .error
  | _ => .success

/-- `CALC_ALL_ROWS_RC`. -/
def calcAllRowsRc (accumulated current : SqlReturn) (rowNum : Nat) : SqlReturn :=
  if rowNum = 0 then current
  else if current ≠ accumulated then .successWithInfo else accumulated

/-- `CALC_ALL_FLDS_RC`. -/
def calcAllFldsRc (aggregated field : SqlReturn) : SqlReturn :=
  if field ≠ .success ∧ aggregated ≠ .error then field else aggregated

/-- `CALC_ALL_FLDS_RC` in `MADB_FetchCsps`. -/
def calcConvertCode (aggregated field : ConvertCode) : ConvertCode :=
  if field ≠ .success ∧ aggregated ≠ .error then field else aggregated

namespace Column

variable (column : Column)

def clearIndicator (cell : Cell) : Cell :=
  if column.hasIndicator ∧ ¬ (column.hasLength ∧ column.isShared) ∧ cell.indicator < 0 then
    { cell with indicator := 0 }
  else cell

/-- `SQL_NULL_DATA`, where there is an indicator. -/
def storeNull (cell : Cell) : Cell :=
  let cell := column.clearIndicator cell
  if column.hasIndicator then
    { cell with
      indicator := -1
      length := if column.hasLength ∧ column.isShared then -1 else cell.length }
  else cell

def storeValue (conversion : Conversion) (cell : Cell) : Cell :=
  let cell := column.clearIndicator cell
  { cell with
    data := conversion.data.getD cell.data
    length := if column.hasLength then conversion.length.getD cell.length else cell.length
    indicator :=
      if column.hasIndicator ∧ column.hasLength ∧ column.isShared then
        conversion.length.getD cell.indicator
      else cell.indicator }

end Column

namespace RowCursor

variable (env : FetchEnv) (c : RowCursor)

def setError (code : ErrorCode) : SqlReturn × RowCursor :=
  let error := Diag.setError code none 0
  (error.returnValue, { c with error := error })

/-! ### Rows -/

/-- `FetchRowCsps`. -/
def fetchRowCsps : Option Row × RowCursor :=
  if env.noCache then
    match c.unread with
    | row :: unread => (some row, { c with unread := unread })
    | [] =>
      match env.readError with
      | none => (none, c)
      | some native =>
        (none, { c with error := Diag.setError .errHY000 (some native.message) native.errno })
  else
    match c.resultCursor with
    | row :: resultCursor => (some row, { c with resultCursor := resultCursor })
    | [] => (none, c)

/-- The conversions of a row in `MADB_FetchCsps`. -/
def convertRow (row : Row) : ConvertCode :=
  (List.range env.columnCount).foldl (fun code i =>
    match env.column i, row.value i with
    | some _, some text => calcConvertCode code (env.convert i text).code
    | _, _ => code) .success

/-- `MADB_FetchCsps`: how it ends, and the row. A conversion fails where a text is no point in time. -/
def fetchCsps : FetchCode × Row × RowCursor :=
  match c.fetchRowCsps env with
  | (some row, c) =>
    let code := convertRow env row
    (.converted code, row, if code = .error then (c.setError .err22008).2 else c)
  | (none, c) => (if c.error.returnValue.succeeded then .noData else .readError, [], c)

/-- `MoveNext`. The columns are not bound meanwhile, so that nothing is converted. -/
def moveNext (c : RowCursor) : Nat → RowCursor
  | 0 => c
  | offset + 1 =>
    match c.fetchRowCsps env with
    | (some _, c) => c.moveNext offset
    | (none, c) => c

/-- `MADB_StmtDataSeek`. -/
def stmtDataSeek (offset : Nat) : SqlReturn × RowCursor :=
  if c.result.isEmpty then (.noData, c)
  else (.success, { c with resultCursor := c.result.drop offset })

/-! ### A rowset -/

/-- `MADB_RowsToFetch`. -/
def rowsToFetch : Nat :=
  let position := c.position.toNat
  if c.numRows < (position + c.rowsetSize) % 2 ^ 64 then
    if position < c.numRows then c.numRows - position else 1
  else c.rowsetSize

def modifyCell (rowNum i : Nat) (change : Cell → Cell) : RowCursor :=
  { c with
    buffers := Function.update c.buffers rowNum
      (Function.update (c.buffers rowNum) i (change (c.buffers rowNum i))) }

def setRowStatus (rowNum : Nat) (status : RowStatus) : RowCursor :=
  { c with rowStatus := c.rowStatus.map (Function.update · rowNum status) }

def storeBookmark (rowNum : Nat) : RowCursor :=
  { c with
    bookmarks :=
      if env.useBookmarks ≠ .off ∧ env.hasBookmarkPtr then
        Function.update c.bookmarks (rowNum * env.bookmarkLength) c.position
      else c.bookmarks }

/-- One column in `MADB_FixFetchedValues`. A `NULL` without an indicator puts the row cursor back. -/
def fixColumn (rowNum : Nat) (saveCursor : List Row) (row : Row) (i : Nat)
    (state : SqlReturn × RowCursor) : Flow (SqlReturn × RowCursor) (SqlReturn × RowCursor) :=
  match state with
  | (rc, c) =>
    match env.column i with
    | none => .next (rc, c)
    | some column =>
      match row.value i with
      | none =>
        let c := c.modifyCell rowNum i column.storeNull
        if column.hasIndicator then .next (rc, c)
        else
          let c := if saveCursor.isEmpty then c else { c with resultCursor := saveCursor }
          .next (c.setError .err22002)
      | some text =>
        let conversion := env.convert i text
        let c := c.modifyCell rowNum i (column.storeValue conversion)
        match conversion.fixing with
        | .fixed => .next (rc, c)
        | .left error => .next (rc, { c with error := error })
        | .failed code =>
          let failed := c.setError code
          .next (calcAllFldsRc rc failed.1, failed.2)
        | .stopped code => .leave (c.setError code)

/-- `MADB_FixFetchedValues`. -/
def fixFetchedValues (rowNum : Nat) (saveCursor : List Row) (row : Row) : SqlReturn × RowCursor :=
  match forEach (fixColumn env rowNum saveCursor row) (List.range env.columnCount) (.success, c) with
  | .next returned => returned
  | .leave returned => returned

/-- What is reported for a row with values that were cut off: the error of the first such column. -/
def reportTruncation (row : Row) : SqlReturn × RowCursor :=
  let truncated := (List.range env.columnCount).find? fun i =>
    (env.column i).isSome && (env.truncationError i).isSome &&
      match row.value i with
      | some text => (env.convert i text).code == .truncated
      | none => false
  match truncated.bind env.truncationError with
  | some code => c.setError code
  | none => (.success, c)

/-- Where a round of the loop in `MADB_StmtFetch` puts its row. The last round of a rowset that is read
from its second row on goes back to the first row. -/
def seekRow (rows2Fetch : Nat) (saveCursor : List Row) (j : Nat) : Nat × RowCursor :=
  if saveCursor.isEmpty then (j, c)
  else if j + 1 = rows2Fetch then (0, { c with next := c.resultCursor, resultCursor := saveCursor })
  else (j + 1, c)

/-- A row that was fetched: its values go into the buffers, and it counts. -/
def finishRow (code : ConvertCode) (rowNum : Nat) (saveCursor : List Row) (row : Row)
    (result : SqlReturn) : SqlReturn × RowCursor :=
  match if code = .truncated then c.reportTruncation env row else (.success, c) with
  | (rowResult, c) =>
    match { c with lastRowFetched := c.lastRowFetched + 1 }.fixFetchedValues env rowNum saveCursor row with
    | (fixed, c) =>
      let rowResult := if fixed = .error ∨ fixed = .successWithInfo then fixed else rowResult
      (calcAllRowsRc result rowResult rowNum, c.setRowStatus rowNum (mapToRowStatus rowResult))

/-- A round of the loop in `MADB_StmtFetch`. -/
def fetchRow (rows2Fetch : Nat) (saveCursor : List Row) (j : Nat) (state : SqlReturn × RowCursor) :
    Flow (SqlReturn × RowCursor) (SqlReturn × RowCursor) :=
  match state with
  | (result, c) =>
    match c.seekRow rows2Fetch saveCursor j with
    | (rowNum, c) =>
      match env.prepareBind with
      | some code => .leave (c.setError code)
      | none =>
        match (c.storeBookmark env rowNum).fetchCsps env with
        | (code, row, c) =>
          let c := { c with
            rowsProcessed := c.rowsProcessed.map (· + 1)
            position := if c.position < 0 then 0 else c.position }
          match code with
          | .readError => .leave (.error, c.setRowStatus rowNum .error)
          | .noData =>
            let c := { c with rowsProcessed := c.rowsProcessed.map (· - 1) }
            if 0 < rowNum then .next (result, c) else .leave (.noData, c)
          | .converted code => .next (c.finishRow env code rowNum saveCursor row result)

/-- What `MADB_StmtFetch` tells the application before it fetches. -/
def beginRowset : RowCursor :=
  { c with
    ardStatus := c.ardStatus.map fun status i => if i < c.arraySize then 100 else status i
    rowStatus := c.rowStatus.map fun status i => if i < c.arraySize then .noRow else status i
    rowsProcessed := c.rowsProcessed.map fun _ => 0 }

/-- The rows of `MADB_StmtFetch`. -/
def fetchRows (rows2Fetch : Nat) : SqlReturn × RowCursor :=
  let c := c.beginRowset
  let scrolls := 1 < rows2Fetch ∧ env.cursorType ≠ .forwardOnly
  let saveCursor := if scrolls then c.resultCursor else []
  let c := if scrolls then c.moveNext env 1 else c
  match forEach (fetchRow env rows2Fetch saveCursor) (List.range rows2Fetch) (.success, c) with
  | .leave returned => returned
  | .next returned => returned

/-- `MADB_StmtFetch`. -/
def stmtFetch : SqlReturn × RowCursor :=
  let c := { c with error := Diag.clear }
  if env.columnCount = 0 then c.setError .err24000
  else if env.bookmarkMismatch then c.setError .err07006
  else if c.arraySize = 0 then (.success, c)
  else
    let c := { c with lastRowFetched := 0, rowsetSize := c.arraySize }
    let rows2Fetch := if env.noCache then c.rowsetSize else c.rowsToFetch
    if rows2Fetch = 0 then (.noData, c) else c.fetchRows env rows2Fetch

/-! ### Scrolling -/

/-- `MADB_STMT_RESET_CURSOR`. -/
def resetCursor : RowCursor := { c with position := -1, next := [] }

/-- `MADB_RefreshDynamicCursor`: a result without an error starts anew, and the position is brought
back. -/
def refreshDynamicCursor : SqlReturn × RowCursor :=
  let executed : SqlReturn × RowCursor :=
    match env.execute with
    | .error error => (error.returnValue, { c with result := [], resultCursor := [], error := error })
    | .ok rows =>
      (.success, { c.resetCursor with
        result := rows, numRows := rows.length, resultCursor := rows, error := Diag.clear })
  let numRows := executed.2.numRows
  let position := if 0 < c.position ∧ numRows ≤ c.position.toNat then (numRows : Int) - 1 else c.position
  (executed.1, { executed.2 with
    position := if position < 0 then 0 else position
    lastRowFetched := c.lastRowFetched })

/-- The row that a call asks for, counted from 0: `Position` in `MADB_StmtFetchScroll`. -/
def scrollPosition (orientation : FetchOrientation) (offset : Int) : Except ErrorCode Int :=
  let rowset : Int := max 1 c.arraySize
  match orientation with
  | .next => .ok (if c.position < 0 then 0 else toSqlLen (c.position + c.lastRowFetched))
  | .prior => .ok (if c.position < 0 then -1 else toSqlLen (c.position - rowset))
  | .relative =>
    let position := toSqlLen (c.position + offset)
    .ok (if position < 0 ∧ 0 < c.position ∧ toSqlLen (-offset) ≤ toSqlInteger c.arraySize then 0
      else position)
  | .absolute =>
    .ok (if offset < 0 then
        if (c.numRows : Int) - 1 + offset < 0 ∧ toSqlULen (-offset) ≤ c.arraySize then 0
        else toSqlLen (c.numRows + offset)
      else offset - 1)
  | .first => .ok 0
  | .last => .ok (toSqlLen (c.numRows - rowset))
  | .bookmark =>
    if env.useBookmarks = .off then .error .errHY106
    else if !env.hasBookmarkPtr then .error .errHY111
    else .ok (if env.odbc3 then toSqlLen (c.bookmarks 0 + offset) else c.bookmarks 0)
  | .other => .error .errHY106

def seekRowset (orientation : FetchOrientation) (rowsProcessed : Int) : SqlReturn × RowCursor :=
  if orientation ≠ .next ∨ (1 < rowsProcessed ∧ env.cursorType ≠ .forwardOnly) ∨
      env.cursorType = .dynamic then
    if c.next.isEmpty then c.stmtDataSeek c.position.toNat
    else (.success, { c with resultCursor := c.next })
  else (.success, c)

/-- The end of `MADB_StmtFetchScroll`: a rowset with some rows is no failure. -/
def finishScroll (returned : SqlReturn × RowCursor) : SqlReturn × RowCursor :=
  (if returned.1 = .noData ∧ 0 < returned.2.lastRowFetched then .success else returned.1, returned.2)

def fetchAt (orientation : FetchOrientation) (rowsProcessed position : Int) : SqlReturn × RowCursor :=
  if position < 0 then (.noData, (c.resetCursor.stmtDataSeek 0).2)
  else
    let c := if env.noCache then c else { c with position := min position c.numRows }
    if !env.noCache ∧ toSqlULen (c.numRows - 1) < position.toNat then (.noData, c)
    else
      match c.seekRowset env orientation rowsProcessed with
      | (.success, c) => finishScroll (c.stmtFetch env)
      | (ret, c) => finishScroll (ret, c)

def refreshed : Except (SqlReturn × RowCursor) RowCursor :=
  if env.cursorType = .dynamic then
    match c.refreshDynamicCursor env with
    | (rc, c) => if rc.succeeded then .ok c else .error (c.error.returnValue, c)
  else .ok c

/-- `MADB_StmtFetchScroll`. -/
def stmtFetchScroll (orientation : FetchOrientation) (offset : Int) : SqlReturn × RowCursor :=
  let rowsProcessed := c.lastRowFetched
  if env.cursorType = .forwardOnly ∧ orientation ≠ .next then c.setError .errHY106
  else
    match c.refreshed env with
    | .error returned => returned
    | .ok c =>
      let c : RowCursor := { c with next := if orientation = .next then c.next else [] }
      match c.scrollPosition env orientation offset with
      | .error code => c.setError code
      | .ok position => c.fetchAt env orientation rowsProcessed position

end RowCursor

end MaOdbc
