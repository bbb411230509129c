/-
**Reading a column again.**

`MADB_FetchCsps` leaves a pointer to the text of each column in the `MYSQL_BIND` record of the column, and a
length. `MADB_StmtGetData` reads the text from there, in one call or in pieces.

* `ColumnBind`: the record of a column, with what `MADB_PrepareBind`, `mysql_stmt_bind_result` and
  `MADB_FetchCsps` do to it. The length of a column that is bound to a number is the size of the number:
  `MADB_CspsConvertSql2C` does not set it.
* `RowReader`: the records of a row, and how far `SQLGetData` has come with each column.
* `stmtGetData`, `sqlGetData`: the targets of characters and of bytes.
-/

import MaOdbc.Cursor.Fetch

namespace MaOdbc

/-- The SQL types of a result, `IrdRec->ConciseType`. -/
inductive IrdType
  | bigint
  | binary
  | bit
  | char
  | date
  | decimal
  | double
  | float
  | integer
  | longvarbinary
  | longvarchar
  | numeric
  | real
  | smallint
  | time
  | timestamp
  | tinyint
  | varbinary
  | varchar
  | wchar
  | other
  deriving DecidableEq, Repr

/-- The C types of a bound column, `ArdRec->ConciseType`. An integer may be signed or not. -/
inductive ArdType
  | char
  | wchar
  | binary
  | numeric
  | bit
  | tinyint
  | short
  | long
  | bigint
  | float
  | double
  | date
  | time
  | timestamp
  | interval
  | guid
  | default
  deriving DecidableEq, Repr

/-- `MYSQL_FIELD.type`. -/
inductive FieldType
  | bit
  | tinyBlob
  | blob
  | mediumBlob
  | longBlob
  | time
  | other
  deriving DecidableEq, Repr

/-- `MYSQL_BIND.buffer_type`. -/
inductive BufferType
  | decimal
  | tiny
  | short
  | long
  | longlong
  | float
  | double
  | time
  | date
  | timestamp
  | string
  | blob
  deriving DecidableEq, Repr

/-- `MADB_GetDefaultType`. -/
def getDefaultType : IrdType → ArdType
  | .bigint => .bigint
  | .binary => .binary
  | .bit => .bit
  | .char => .char
  | .date => .date
  | .decimal => .char
  | .double => .double
  | .float => .float
  | .integer => .long
  | .longvarbinary => .binary
  | .longvarchar => .char
  | .numeric => .char
  | .real => .float
  | .smallint => .short
  | .time => .time
  | .timestamp => .timestamp
  | .tinyint => .tinyint
  | .varbinary => .binary
  | .varchar => .char
  | .wchar => .wchar
  | .other => .char

/-- `MADB_BinaryFieldType`. -/
def binaryFieldType : IrdType → Bool
  | .binary => true
  | .varbinary => true
  | .longvarbinary => true
  | .bit => true
  | _ => false

/-- `MADB_GetMaDBTypeAndLength`, its type. -/
def getMaDBType : ArdType → BufferType
  | .bit => .tiny
  | .tinyint => .tiny
  | .short => .short
  | .long => .long
  | .bigint => .longlong
  | .double => .double
  | .float => .float
  | .numeric => .decimal
  | .time => .time
  | .date => .date
  | .timestamp => .timestamp
  | .interval => .time
  | .char => .string
  | _ => .blob

structure ColumnInfo where
  irdType : IrdType := .varchar
  fieldType : FieldType := .other
  /-- Whether `charsetnr` is 63. -/
  binaryCharset : Bool := false
  deriving DecidableEq, Repr

namespace ColumnInfo

variable (info : ColumnInfo)

/-- The buffer that `MADB_PrepareBind` gives a bound column. -/
def bufferType (ardType : ArdType) : BufferType :=
  let ardType := if ardType = .default then getDefaultType info.irdType else ardType
  let isText := info.irdType = .char ∨ info.irdType = .varchar
  match ardType with
  | .wchar | .char | .numeric => .string
  | .timestamp | .date | .time => if isText then .string else .timestamp
  | .interval => if isText then .string else if info.fieldType = .time then .time else .timestamp
  | .bit => .longlong
  | .tinyint | .short | .float | .long | .double =>
    if binaryFieldType info.irdType then .blob else getMaDBType ardType
  | _ => getMaDBType ardType

end ColumnInfo

namespace BufferType

/-- The length that `mysql_stmt_bind_result` sets for a buffer of this type. -/
def fixedLength : BufferType → Option Nat
  | .tiny => some 1
  | .short => some 2
  | .long | .float => some 4
  | .longlong | .double => some 8
  | .time | .date | .timestamp => some 40
  | _ => none

/-- Whether `MADB_CspsConvertSql2C` sets the length: for integers only if the field is binary. -/
def setsLength (fieldType : FieldType) : BufferType → Bool
  | .tiny | .short | .long | .longlong =>
    match fieldType with
    | .bit | .tinyBlob | .blob | .mediumBlob | .longBlob => true
    | _ => false
  | .float | .double | .time | .date | .timestamp => false
  | _ => true

end BufferType

/-- The `MYSQL_BIND` record of a column, `Stmt->stmt->bind[i]`, with what `Stmt->result[i]` keeps for the
next one. -/
structure ColumnBind where
  /-- `u.row_ptr`. -/
  rowPtr : Option Text := none
  isNull : Bool := false
  /-- `length_value`. -/
  lengthValue : Nat := 0
  /-- Whether `length` points to the `length_value` of `Stmt->result[i]`, and not to its own. -/
  lengthShared : Bool := false
  /-- The `length_value` of `Stmt->result[i]`. -/
  resultLength : Nat := 0
  bufferType : BufferType := .decimal
  /-- `MADB_BIND_DUMMY`. -/
  dummy : Bool := false
  deriving DecidableEq, Repr

namespace ColumnBind

variable (info : ColumnInfo) (bind : ColumnBind)

/-- `*length`. -/
def length : Nat := if bind.lengthShared then bind.resultLength else bind.lengthValue

/-- Writes `*length`. -/
def setLength (length : Nat) : ColumnBind :=
  if bind.lengthShared then { bind with resultLength := length } else { bind with lengthValue := length }

/-- A column in `MADB_PrepareBind`: its type in the ARD, if it is bound. -/
def prepareBind : Option ArdType → ColumnBind
  | none => { bind with dummy := true }
  | some ardType =>
    { bind with dummy := false, lengthShared := true, bufferType := info.bufferType ardType }

/-- A column in `mysql_stmt_bind_result`: a copy of `Stmt->result[i]`. -/
def bindResult : ColumnBind :=
  let bind := { bind with rowPtr := none, isNull := false, lengthValue := bind.resultLength }
  match bind.bufferType.fixedLength with
  | none => bind
  | some length => { bind with lengthValue := length }.setLength length

/-- A column in `MADB_FetchCsps`. The pointer of a `NULL` stays as it is. -/
def receive (value : Option Text) : ColumnBind :=
  match value with
  | none => { bind with isNull := true }
  | some text =>
    let bind := { bind with isNull := false, rowPtr := some text }
    if bind.dummy ∨ bind.bufferType.setsLength info.fieldType then bind.setLength text.length else bind

/-- A column in `MoveNext`: it is not bound meanwhile. -/
def passOver (value : Option Text) : ColumnBind :=
  { { bind with dummy := true }.receive info value with dummy := bind.dummy }

end ColumnBind

structure ReadEnv where
  /-- The columns of the result. -/
  info : Nat → ColumnInfo := fun _ => {}
  /-- The types of the bound columns. -/
  ard : Nat → Option ArdType := fun _ => none
  /-- What stands in memory behind the text of a column and its terminating 0. -/
  beyond : Nat → UInt8 := fun _ => 0

/-- The part of `MADB_Stmt` that reading a column reads and writes. -/
structure RowReader where
  /-- Whether `Stmt->result` is set. -/
  hasResult : Bool := false
  /-- Whether `Stmt->stmt->bind` is set. -/
  bound : Bool := false
  /-- `Stmt->stmt->bind`. -/
  binds : Nat → ColumnBind := fun _ => {}
  /-- Whether `Stmt->stmt->state` is `MYSQL_STMT_USER_FETCHING`. -/
  fetching : Bool := false
  charOffset : Nat → Nat := fun _ => 0
  lengths : Nat → Nat := fun _ => 0
  /-- `LastSQLGetDataColumn`, counted from 0. -/
  lastColumn : Option Nat := none
  error : Diag := {}

/-- The targets of `MADB_StmtGetData` that take a text as it is: characters with a terminating 0, and
bytes. -/
inductive TextTarget
  | char
  | binary
  deriving DecidableEq, Repr

/-- `ZeroTerminated`. -/
def TextTarget.zeroTerminated : TextTarget → Nat
  | .char => 1
  | .binary => 0

/-- What `MADB_FetchColumnCsps` does: it refuses, finds a `NULL`, or leaves a buffer and a length. -/
inductive ColumnFetch
  | wrongState
  | null
  | read (buffer : Text) (length : Nat)
  deriving DecidableEq, Repr

/-- What a call of `MADB_StmtGetData` leaves behind: its return code, the buffer, what the indicator points
to, and the handle. -/
structure Got where
  ret : SqlReturn
  buffer : Text
  indicator : Option Int
  reader : RowReader

namespace RowReader

variable (env : ReadEnv) (r : RowReader)

/-! ### Fetching -/

/-- A round of the loop in `MADB_StmtFetch` that finds the row cursor at a place: `MADB_PrepareBind`,
`mysql_stmt_bind_result` and `MADB_FetchCsps`. -/
def round (pointer : List Row) : RowReader :=
  let binds := fun i => ((r.binds i).prepareBind (env.info i) (env.ard i)).bindResult
  match pointer with
  | [] => { r with hasResult := true, bound := true, binds := binds, fetching := false }
  | row :: _ =>
    { r with
      hasResult := true
      bound := true
      binds := fun i => (binds i).receive (env.info i) (row.value i)
      fetching := true }

/-- The end of `MADB_StmtFetch`. -/
def finishFetch : RowReader := { r with charOffset := fun _ => 0, lengths := fun _ => 0 }

/-- `MADB_RefreshRowPtrs`: `MoveNext` by one row. Without a row all but the state stays as it is. -/
def refreshRowPtrs (pointer : List Row) : RowReader :=
  if !r.hasResult then r
  else
    match pointer with
    | [] => { r with fetching := false }
    | row :: _ =>
      { r with binds := fun i => (r.binds i).passOver (env.info i) (row.value i), fetching := true }

/-! ### `MADB_FetchColumnCsps` -/

def byteAt (text : Text) (i : Nat) : UInt8 := if i ≤ text.length then text.getD i 0 else env.beyond i

/-- The value that `MADB_CspsConvertSql2C` copies from: `BIT` comes with its last byte first. -/
def valueAt (fieldType : FieldType) (text : Text) (fieldLen i : Nat) : UInt8 :=
  if fieldType = .bit then
    if i < min fieldLen 8 then byteAt env text (min fieldLen 8 - 1 - i)
    else if i < 8 then 0 else env.beyond i
  else byteAt env text i

/-- `MADB_CspsConvertSql2C` into a buffer of characters or bytes. -/
def convertText (value : Nat → UInt8) (fieldLen offset : Nat) (buffer : Text) : Text :=
  if offset ≤ fieldLen then
    let copyLen := min (fieldLen - offset) buffer.length
    let buffer' := (List.range copyLen).map (fun i => value (offset + i)) ++ buffer.drop copyLen
    if copyLen < buffer.length then buffer'.set copyLen 0 else buffer'
  else buffer

/-- `MADB_FetchColumnCsps`. -/
def fetchColumnCsps (i offset : Nat) (buffer : Text) : ColumnFetch :=
  if !r.fetching then .wrongState
  else
    match (r.binds i).rowPtr with
    | none => .null
    | some text =>
      let fieldLen := (r.binds i).length
      .read (convertText (valueAt env (env.info i).fieldType text fieldLen) fieldLen offset buffer) fieldLen

/-! ### `MADB_StmtGetData` -/

def setError (code : ErrorCode) : SqlReturn × RowReader :=
  let error := Diag.setError code none 0
  (error.returnValue, { r with error := error })

/-- Writes `CharOffset[i]`. -/
def setCharOffset (i offset : Nat) : RowReader :=
  { r with charOffset := Function.update r.charOffset i offset }

theorem charOffset_setCharOffset (i offset : Nat) : (r.setCharOffset i offset).charOffset i = offset := by
  simp [setCharOffset]

/-- Writes `Lengths[i]`. -/
def setLengths (i length : Nat) : RowReader :=
  { r with lengths := Function.update r.lengths i length }

theorem lengths_setLengths (i length : Nat) : (r.setLengths i length).lengths i = length := by
  simp [setLengths]

/-- `OK_SUCCESS_OR_TRUNCATION` where `MADB_FetchColumnCsps` refuses: the error of the statement takes its
place. There is none, since `mysql_stmt_bind_result` has cleared it, so that the call succeeds. -/
def refuse (buffer : Text) (indicator : Option Int) : Got :=
  let error := Diag.setNativeError { errno := 0, sqlState := lit "00000" }
  ⟨error.returnValue, buffer, indicator, { r with error := error }⟩

/-- The length of what is left of a column, for a call without a buffer. -/
def getLength (i : Nat) (indicator : Int) (internalUse : Bool) : Got :=
  let offset := r.charOffset i
  let finish := fun (length : Int) =>
    let r := if !internalUse ∧ offset = 0 then r.setLengths i (toSqlULen length) else r
    let indicator := if internalUse then length else r.lengths i - offset
    ⟨.successWithInfo, [], some indicator, (r.setError .err01004).2⟩
  match r.fetchColumnCsps env i offset [] with
  | .wrongState => r.refuse [] (some indicator)
  | .null => finish indicator
  | .read _ length => finish length

def terminate (target : TextTarget) (length : Nat) (buffer : Text) : Text :=
  match target with
  | .char => buffer.set (if length < buffer.length then length else buffer.length - 1) 0
  | .binary => buffer

/-- The end of `MADB_StmtGetData`. A column of length 0 is marked as read. -/
def finishGet (i : Nat) (bufferLength length : Nat) (isNull internalUse : Bool) (buffer : Text)
    (indicator : Option Int) : Got :=
  let r := if !internalUse ∧ r.lengths i = 0 then r.setCharOffset i (max bufferLength length) else r
  if isNull then
    match indicator with
    | none =>
      let failed := r.setError .err22002
      ⟨failed.1, buffer, none, failed.2⟩
    | some _ => ⟨r.error.returnValue, buffer, some sqlNullData, r⟩
  else ⟨r.error.returnValue, buffer, indicator, r⟩

/-- What a call with a buffer does behind `MADB_StmtFetchColumn`. -/
def takePiece (i : Nat) (target : TextTarget) (length : Nat) (isNull internalUse : Bool) (buffer : Text)
    (indicator : Option Int) : Got :=
  let bufferLength := buffer.length
  let zeroTerminated := target.zeroTerminated
  let currentOffset := if internalUse then 0 else r.charOffset i
  let r := if !internalUse ∧ r.charOffset i = 0 then r.setLengths i length else r
  let buffer := terminate target length buffer
  let indicator := indicator.map fun _ => (length : Int) - currentOffset
  let room := if bufferLength < zeroTerminated then 2 ^ 64 - 1 else bufferLength - zeroTerminated
  let r := if !internalUse then r.setCharOffset i (r.charOffset i + min room length) else r
  if !internalUse ∧ bufferLength ≠ zeroTerminated ∧ r.charOffset i < r.lengths i then
    let warned := r.setError .err01004
    ⟨warned.1, buffer, indicator, warned.2⟩
  else if indicator.any fun left => (bufferLength : Int) - zeroTerminated < left then
    ⟨.successWithInfo, buffer, indicator, (r.setError .err01004).2⟩
  else r.finishGet i bufferLength length isNull internalUse buffer indicator

/-- `MADB_StmtGetData` with a target of characters or bytes. A buffer without room, with an indicator, asks
for the length. -/
def stmtGetData (i : Nat) (target : TextTarget) (buffer : Text) (indicator : Option Int)
    (internalUse : Bool) : Got :=
  let r := { r with error := Diag.clear }
  if !r.bound then
    let failed := r.setError .errHY109
    ⟨failed.1, buffer, indicator, failed.2⟩
  else if (r.binds i).isNull then
    match indicator with
    | none =>
      let failed := r.setError .err22002
      ⟨failed.1, buffer, none, failed.2⟩
    | some _ => ⟨.success, buffer, some sqlNullData, r⟩
  else
    match if buffer.isEmpty then indicator else none with
    | some told =>
      if target = .char ∧ (env.info i).fieldType = .blob ∧ (env.info i).binaryCharset then
        ⟨.successWithInfo, [], some ((r.binds i).lengthValue * 2 : Nat), r⟩
      else r.getLength env i told internalUse
    | none =>
      match r.fetchColumnCsps env i (if internalUse then 0 else r.charOffset i) buffer with
      | .wrongState => r.refuse buffer indicator
      | .null => r.takePiece i target 0 true internalUse buffer indicator
      | .read buffer length => r.takePiece i target length false internalUse buffer indicator

/-- `SQLGetData` with a target of characters or bytes. -/
def sqlGetData (i : Nat) (target : TextTarget) (buffer : Text) (indicator : Option Int) : Got :=
  let r := { r with error := Diag.clear }
  if 0 < r.charOffset i ∧ r.lengths i ≤ r.charOffset i then ⟨.noData, buffer, indicator, r⟩
  else
    let r := if r.lastColumn = some i then r else r.setCharOffset i 0
    { r with lastColumn := some i }.stmtGetData env i target buffer indicator false

end RowReader

end MaOdbc
