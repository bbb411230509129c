/-
**Parameters as literals.**

`insertParam` follows `MADB_InsertParam`: it finds the value of a row (`getBindOffset`, `calculateLength`), copies it
into a buffer of its own, escapes it and appends the literal to the query. Lengths of terminated strings are counted in
a 32-bit integer (`safeStrlen`). The conversions of values that are neither characters nor bytes, and the escaping of
libmariadb, are parameters.

`MADB_DynString` grows by `realloc`. `appendMem_succeeds`: an append that memory allows adds the bytes given, and leaves
a string whose terminator has its place in the buffer.
-/

import MaOdbc.Library.CText
import MaOdbc.Stmt.Error

namespace MaOdbc

/-- The concise C types that `MADB_InsertParam` tells apart. -/
inductive CType
  | numeric
  | float
  | double
  | time
  | date
  | timestamp
  | typeTime
  | typeDate
  | typeTimestamp
  | interval (code : Nat)
  | char
  | varchar
  | longvarchar
  | wchar
  | wvarchar
  | wlongvarchar
  | bit
  | binary
  | varbinary
  | longvarbinary
  | integer (code : Int)
  deriving DecidableEq, Repr

/-- The verbose SQL types that `MADB_InsertParam` tells apart. -/
inductive SqlType
  | bit
  | datetime
  | other (code : Int)
  deriving DecidableEq, Repr

/-- Application memory: bytes, and the `SQLLEN` cells that length and indicator pointers point to. -/
structure Memory where
  bytes : Text
  cells : Nat → Int64

def Memory.read (memory : Memory) (address length : Nat) : Text :=
  (List.range length).map fun i => memory.bytes.getD (address + i) 0

/-- The `SQLLEN` at an address. -/
def Memory.cell (memory : Memory) (address : Nat) : Int := (memory.cells address).toInt

def Memory.string (memory : Memory) (address : Nat) : Text := cstr (memory.bytes.drop address)

structure DescHeader where
  bindType : Nat := 0
  bindOffset : Option Nat := none
  deriving DecidableEq, Repr

/-- `MADB_DescRecord`, as far as parameters need it. -/
structure DescRecord where
  inUse : Bool := true
  conciseType : CType
  type : SqlType := .other 0
  dataPtr : Option Nat
  octetLength : Nat := 0
  octetLengthPtr : Option Nat := none
  indicatorPtr : Option Nat := none
  defaultValue : Option Text := none
  deriving DecidableEq, Repr

/-- `GetBindOffset`: column-wise binding has bind type 0. -/
def getBindOffset (header : DescHeader) (ptr : Option Nat) (rowNumber ptrSize : Nat) : Option Nat :=
  ptr.map fun address =>
    address + header.bindOffset.getD 0 +
      (if header.bindType = 0 then ptrSize else header.bindType) * rowNumber

def sqlNullData : Int := -1
def sqlDataAtExec : Int := -2
def sqlNts : Int := -3
def sqlColumnIgnore : Int := -6
def sqlLenDataAtExecOffset : Int := -100

/-- `PARAM_IS_DAE`. -/
def paramIsDae (memory : Memory) (octetLengthPtr : Option Nat) : Bool :=
  octetLengthPtr.any fun ptr =>
    memory.cell ptr == sqlDataAtExec || decide (memory.cell ptr ≤ sqlLenDataAtExecOffset)

/-- A `SQLINTEGER`. -/
def toSqlInteger (n : Int) : Int := n.bmod (2 ^ 32)

/-- `SafeStrlen`: a negative buffer length is none. -/
def safeStrlen (memory : Memory) (address : Option Nat) (buffLength : Int) : Int :=
  match address with
  | none => 0
  | some address =>
    let length := (memory.string address).length
    toSqlInteger (if buffLength < 0 then length else min length buffLength.toNat)

/-- `SqlwcsLen`, in code units of two bytes. -/
def sqlwcsLen (memory : Memory) (address : Option Nat) (buffLength : Int) : Int :=
  match address with
  | none => 0
  | some address =>
    let units := (List.range (memory.bytes.length + 1)).takeWhile fun i =>
      memory.read (address + 2 * i) 2 != [0, 0]
    toSqlInteger (if buffLength < 0 then units.length else min units.length buffLength.toNat)

/-- `MADB_CalculateLength`. -/
def calculateLength (memory : Memory) (octetLengthPtr : Option Nat) (record : DescRecord)
    (dataPtr : Option Nat) : Int :=
  match octetLengthPtr with
  | some ptr =>
    if memory.cell ptr = sqlNts then terminated (-1) else memory.cell ptr
  | none => terminated record.octetLength
where
  /-- The length of a terminated value; a buffer length of 0 is not specified. -/
  terminated (bufferLength : Int) : Int :=
    match record.conciseType with
    | .wchar =>
      -- the division is unsigned, so that -1 stays without a bound
      sqlwcsLen memory dataPtr (bufferLength / 2 - if bufferLength = 0 then 1 else 0) * 2
    | .binary | .varbinary | .longvarbinary | .char =>
      safeStrlen memory dataPtr (if bufferLength = 0 then -1 else bufferLength)
    | _ => record.octetLength

/-! ### Dynamic strings -/

/-- The outcomes of the allocations still to come. Once they are used up, allocations succeed. -/
abbrev Heap := List Bool

/-- `malloc`, `calloc` and `realloc`: no object is larger than `PTRDIFF_MAX`. -/
def Heap.alloc (heap : Heap) (size : Nat) : Bool × Heap :=
  (heap.headD true && decide (size < 2 ^ 63), heap.tail)

/-- `MADB_DynString`: the bytes of `str` before its terminator. -/
structure DynString where
  str : Text
  maxLength : Nat
  allocIncrement : Nat
  deriving DecidableEq, Repr

inductive Appended
  | done (string : DynString)
  | noMemory
  | overrun
  deriving DecidableEq, Repr

namespace DynString

structure Sound (string : DynString) : Prop where
  fits : string.str.length < string.maxLength
  grows : 0 < string.allocIncrement

/-- `MADB_InitDynamicString`, without an overrun only if the initial string fits. -/
def init (initStr : Text) (initAlloc allocIncrement : Nat) (heap : Heap) : Appended × Heap :=
  let increment := if allocIncrement = 0 then 128 else allocIncrement
  let length := initStr.length + 1
  let rounded :=
    if length < initAlloc then (length + increment - 1) / increment * increment else initAlloc
  let size := if rounded = 0 then increment else rounded
  match heap.alloc size with
  | (false, heap) => (.noMemory, heap)
  | (true, heap) =>
    if size < length then (.overrun, heap)
    else (.done { str := initStr, maxLength := size, allocIncrement := increment }, heap)

/-- The buffer size that makes room for `length` more bytes, in the machine's arithmetic. -/
def grown (string : DynString) (length : Nat) : Nat :=
  (string.str.length + length + string.allocIncrement) % 2 ^ 64 / string.allocIncrement *
    string.allocIncrement

/-- The copy into a buffer of a given size, where `source length` are the bytes at the pointer. -/
def write (string : DynString) (source : Nat → Text) (length maxLength : Nat) : Appended :=
  if string.str.length + length < maxLength then
    .done { string with str := string.str ++ source length, maxLength := maxLength }
  else .overrun

/-- `MADB_DynstrAppendMem`. -/
def appendMem (string : DynString) (source : Nat → Text) (length : Nat) (heap : Heap) :
    Appended × Heap :=
  if string.maxLength ≤ (string.str.length + length) % 2 ^ 64 then
    match heap.alloc (string.grown length) with
    | (false, heap) => (.noMemory, heap)
    | (true, heap) => (string.write source length (string.grown length), heap)
  else (string.write source length string.maxLength, heap)

/-- `MADB_DynstrAppend`. -/
def append (string : DynString) (text : Text) (heap : Heap) : Appended × Heap :=
  string.appendMem (fun _ => text) text.length heap

variable {string : DynString} {length : Nat} {source : Nat → Text}

theorem lt_grown (sound : string.Sound)
    (small : string.str.length + length + string.allocIncrement < 2 ^ 64) :
    string.str.length + length < string.grown length := by
  rw [grown, Nat.mod_eq_of_lt small, Nat.add_div_right _ sound.grows, Nat.mul_comm]
  exact Nat.lt_mul_div_succ _ sound.grows

variable {string' : DynString}

theorem write_done {maxLength : Nat} (done : string.write source length maxLength = .done string') :
    string'.str = string.str ++ source length ∧ string.str.length + length < string'.maxLength ∧
      string'.maxLength = maxLength := by
  rw [write] at done
  split at done
  · rename_i fits
    cases done
    exact ⟨rfl, fits, rfl⟩
  · cases done

theorem appendMem_done {heap heap' : Heap}
    (done : string.appendMem source length heap = (.done string', heap')) :
    string'.str = string.str ++ source length ∧ string.str.length + length < string'.maxLength ∧
      (string'.maxLength = string.maxLength ∨ string'.maxLength < 2 ^ 63) := by
  rw [appendMem] at done
  split at done
  · split at done
    · cases done
    · rename_i heap'' allocated
      obtain ⟨str, fits, size⟩ := write_done (Prod.mk.inj done).1
      have granted := (Prod.mk.inj allocated).1
      rw [Bool.and_eq_true, decide_eq_true_iff] at granted
      exact ⟨str, fits, .inr (size ▸ granted.2)⟩
  · obtain ⟨str, fits, size⟩ := write_done (Prod.mk.inj done).1
    exact ⟨str, fits, .inl size⟩

theorem appendMem_succeeds (sound : string.Sound) (source : Nat → Text)
    (exact_length : (source length).length = length)
    (small : string.str.length + length + string.allocIncrement < 2 ^ 63) :
    ∃ string', string.appendMem source length [] = (.done string', []) ∧
      string'.str = string.str ++ source length ∧ string'.Sound ∧
      string'.allocIncrement = string.allocIncrement := by
  have wide : string.str.length + length < string.grown length := lt_grown sound (by omega)
  have bounded : string.grown length < 2 ^ 63 := by
    have whole := Nat.div_mul_le_self ((string.str.length + length + string.allocIncrement) % 2 ^ 64)
      string.allocIncrement
    rw [← grown, Nat.mod_eq_of_lt (show _ < 2 ^ 64 by omega)] at whole
    omega
  have sum : (string.str.length + length) % 2 ^ 64 = string.str.length + length :=
    Nat.mod_eq_of_lt (by omega)
  have written {maxLength : Nat} (fits : string.str.length + length < maxLength) :
      ∃ string', string.write source length maxLength = .done string' ∧
        string'.str = string.str ++ source length ∧ string'.Sound ∧
        string'.allocIncrement = string.allocIncrement := by
    refine ⟨{ string with str := string.str ++ source length, maxLength := maxLength },
      if_pos fits, rfl, ⟨?_, sound.grows⟩, rfl⟩
    show (string.str ++ source length).length < maxLength
    rw [List.length_append, exact_length]
    exact fits
  rw [appendMem, sum]
  split
  · obtain ⟨string', done, facts⟩ := written wide
    refine ⟨string', ?_, facts⟩
    have granted : Heap.alloc [] (string.grown length) = (true, []) := by
      rw [Heap.alloc, decide_eq_true bounded]
      rfl
    rw [granted, ← done]
  · rename_i room
    obtain ⟨string', done, facts⟩ := written (Nat.not_le.mp room)
    exact ⟨string', by rw [done], facts⟩

end DynString

open Diag

/-! ### The insertion -/

/-- The conversions that `MADB_InsertParam` calls. -/
structure Conversions where
  /-- `MADB_ConvertNumericToChar`, with the error code it reports. -/
  numericToChar : DescRecord → Option Nat → Text × Option ErrorCode
  /-- `sprintf` with `%.17e`. -/
  floatToChar : CType → Option Nat → Text
  /-- `MADB_ConversionSupported`. -/
  conversionSupported : DescRecord → DescRecord → Bool
  /-- `MADB_ConvertDatetimeToChar`. -/
  datetimeToChar : CType → DescRecord → Option Nat → Diag × Text
  /-- `MADB_Str2Ts` and `MADB_TsConversionIsPossible`. -/
  datetimeText : Option Nat → Int → DescRecord → Diag
  /-- `MADB_ConvertFromWChar`. -/
  fromWChar : Option Nat → Int → SqlReturn × Text
  /-- `MADB_ConvertIntegerToChar`. -/
  integerToChar : CType → Option Nat → Text

/-- **What is assumed of escaping**: `mysql_real_escape_string` writes at most two bytes for one and
its terminator, no NUL among them, and the server reads the bytes back. `decode` reads what stands
between the quotes of one literal. -/
structure Escaping where
  escape : Text → Text
  decode : Text → Option Text
  short : ∀ data, (escape data).length ≤ 2 * data.length
  nulFree : ∀ data, 0 ∉ escape data
  decodes : ∀ data, decode (escape data) = some data

structure ParamContext where
  memory : Memory
  apdHeader : DescHeader := {}
  ipdHeader : DescHeader := {}
  daeDone : Bool := false
  conversions : Conversions
  escaping : Escaping

/-- The value that is to be escaped, or how the function ends before. -/
inductive ParamData
  | ready (ret : SqlReturn) (error : Diag) (data : DynString) (encloseInQuotes : Bool)
  | finished (ret : SqlReturn) (error : Diag)
  | overrun

/-- How `MADB_InsertParam` ends. -/
inductive Inserted
  | returned (ret : SqlReturn) (error : Diag) (finalQuery : DynString)
  | overrun

section InsertParam

variable (context : ParamContext) (apd ipd : DescRecord) (row : Nat)

def appendData (ret : SqlReturn) (error : Diag) (data : DynString) (source : Nat → Text) (length : Nat)
    (encloseInQuotes : Bool) (failure : Text) (heap : Heap) : ParamData × Heap :=
  match data.appendMem source length heap with
  | (.done data, heap) => (.ready ret error data encloseInQuotes, heap)
  | (.noMemory, heap) =>
    let error := setError .errHY001 (some failure) 0
    (.finished error.returnValue error, heap)
  | (.overrun, heap) => (.overrun, heap)

def appendBytes (error : Diag) (data : DynString) (dataPtr : Option Nat) (length : Nat) (failure : Text)
    (heap : Heap) : ParamData × Heap :=
  match dataPtr with
  | some address =>
    appendData .success error data (context.memory.read address) length true failure heap
  | none =>
    if length = 0 then appendData .success error data (fun _ => []) 0 true failure heap
    else (.overrun, heap)

/-- Appending where a failure sets an error but leaves the return code. -/
def appendQuietly (error : Diag) (data : DynString) (text : Text) (failure : Text) (heap : Heap) :
    ParamData × Heap :=
  match appendData .success error data (fun _ => text) text.length false failure heap with
  | (.finished _ error, heap) => (.finished .success error, heap)
  | other => other

/-- `ConstructBitValue`. -/
def constructBitValue (error : Diag) (dataPtr : Option Nat) (data : DynString) (heap : Heap) :
    ParamData × Heap :=
  match dataPtr with
  | some address =>
    let bitParam := if context.memory.read address 1 = [0] then lit "0" else lit "1"
    appendQuietly error data bitParam (lit "Failed to append a bit parameter") heap
  | none => (.overrun, heap)

/-- A length as `size_t`. -/
def toSize (length : Int) : Nat := (length % 2 ^ 64).toNat

/-- The length of a character or binary value. A value given at execution has its own. -/
def valueLength (octetLengthPtr dataPtr : Option Nat) : Int :=
  if paramIsDae context.memory octetLengthPtr then ipd.octetLength
  else calculateLength context.memory octetLengthPtr apd dataPtr

def charData (error : Diag) (octetLengthPtr dataPtr : Option Nat) (data : DynString) (heap : Heap) :
    ParamData × Heap :=
  let length := valueLength context apd ipd octetLengthPtr dataPtr
  let append (error : Diag) := appendBytes context error data dataPtr (toSize length)
    (lit "Failed to append a char parameter") heap
  match ipd.type with
  | .bit => constructBitValue context error dataPtr data heap
  | .datetime =>
    let checked := context.conversions.datetimeText dataPtr length ipd
    if checked.returnValue.succeeded then append checked
    else (.finished checked.returnValue checked, heap)
  | .other _ => append error

def wcharData (error : Diag) (octetLengthPtr dataPtr : Option Nat) (data : DynString) (heap : Heap) :
    ParamData × Heap :=
  let failure := lit "Failed to append a wchar parameter"
  if paramIsDae context.memory octetLengthPtr then
    appendBytes context error data dataPtr ipd.octetLength failure heap
  else
    let length := calculateLength context.memory octetLengthPtr apd dataPtr
    match context.conversions.fromWChar dataPtr (length / 2) with
    | (ret, converted) =>
      if ret.succeeded then
        appendData ret error data (fun _ => cstr converted) (cstr converted).length true failure heap
      else
        let error := setError .errHY000 (some (lit "Failed to convert a wchar parameter")) 0
        (.finished error.returnValue error, heap)

def paramData (error : Diag) (octetLengthPtr dataPtr : Option Nat) (data : DynString) (heap : Heap) :
    ParamData × Heap :=
  let append (ret : SqlReturn) (error : Diag) (text failure : Text) (quotes : Bool) :=
    appendData ret error data (fun _ => text) text.length quotes failure heap
  match apd.conciseType with
  | .numeric =>
    let failure := lit "Failed to append a numeric parameter"
    match context.conversions.numericToChar ipd dataPtr with
    | (converted, none) => append .success error converted failure true
    | (converted, some code) =>
      let error := setError code (some (lit "Numeric conversion failure")) 0
      if error.returnValue.succeeded then append error.returnValue error converted failure true
      else (.finished error.returnValue error, heap)
  | .float =>
    append .success error (context.conversions.floatToChar .float dataPtr)
      (lit "Failed to append a float parameter") false
  | .double =>
    append .success error (context.conversions.floatToChar .double dataPtr)
      (lit "Failed to append a double parameter") false
  | .time | .date | .timestamp | .typeTime | .typeDate | .typeTimestamp =>
    if context.conversions.conversionSupported apd ipd then
      match context.conversions.datetimeToChar apd.conciseType ipd dataPtr with
      | (error, converted) =>
        if error.returnValue.succeeded then
          append error.returnValue error converted
            (lit "Failed to append a timestamp parameter") true
        else (.finished error.returnValue error, heap)
    else
      let error := setError .err07006 (some (lit "Conversion is not supported")) 0
      (.finished error.returnValue error, heap)
  | .interval _ =>
    let error := setError .err07006 (some (lit "Conversion of INTERVAL data is not supported")) 0
    (.finished error.returnValue error, heap)
  | .char | .varchar | .longvarchar => charData context apd ipd error octetLengthPtr dataPtr data heap
  | .wchar | .wvarchar | .wlongvarchar => wcharData context apd ipd error octetLengthPtr dataPtr data heap
  | .bit => constructBitValue context error dataPtr data heap
  | .binary | .varbinary | .longvarbinary =>
    appendBytes context error data dataPtr
      (toSize (valueLength context apd ipd octetLengthPtr dataPtr))
      (lit "Failed to append a binary parameter") heap
  | .integer code =>
    appendQuietly error data (context.conversions.integerToChar (.integer code) dataPtr)
      (lit "Failed to append an integer parameter") heap

/-- The default value of an ignored column. A failure does not keep the rest from being done. -/
def appendDefault (error : Diag) (data : DynString) (defaultValue : Text) (heap : Heap) :
    ParamData × Heap :=
  match appendData .success error data (fun _ => defaultValue) defaultValue.length true
    (lit "Failed to append the parameter") heap with
  | (.finished ret error, heap) => (.ready ret error data true, heap)
  | other => other

def appendAll (ret : SqlReturn) (error : Diag) : List Text → DynString → Heap → Inserted × Heap
  | [], finalQuery, heap => (.returned ret error finalQuery, heap)
  | text :: more, finalQuery, heap =>
    match finalQuery.append text heap with
    | (.done finalQuery, heap) => appendAll ret error more finalQuery heap
    | (.noMemory, heap) =>
      let error := setError .errHY001 (some (lit "Failed to append the escaped parameter")) 0
      (.returned error.returnValue error finalQuery, heap)
    | (.overrun, heap) => (.overrun, heap)

/-- The part behind the label `escape`. -/
def escapeParam (ret : SqlReturn) (error : Diag) (data : DynString) (encloseInQuotes : Bool)
    (finalQuery : DynString) (heap : Heap) : Inserted × Heap :=
  match heap.alloc (data.str.length * 2 + 1) with
  | (false, heap) =>
    let error := setError .errHY001
      (some (lit "Failed to allocate memory for the escaped parameter")) 0
    (.returned error.returnValue error finalQuery, heap)
  | (true, heap) =>
    let escaped := cstr (context.escaping.escape data.str)
    appendAll ret error
      (if encloseInQuotes then [lit "'", escaped, lit "'"] else [escaped]) finalQuery heap

def finishParam (finalQuery : DynString) : ParamData × Heap → Inserted × Heap
  | (.ready ret error data encloseInQuotes, heap) =>
    escapeParam context ret error data encloseInQuotes finalQuery heap
  | (.finished ret error, heap) => (.returned ret error finalQuery, heap)
  | (.overrun, heap) => (.overrun, heap)

/-- `MADB_InsertParam`. -/
def insertParam (error : Diag) (finalQuery : DynString) (heap : Heap) : Inserted × Heap :=
  let indicatorPtr := getBindOffset context.apdHeader apd.indicatorPtr row 8
  let octetLengthPtr := getBindOffset context.apdHeader apd.octetLengthPtr row 8
  let isDae := paramIsDae context.memory octetLengthPtr
  let dataPtr :=
    if isDae then getBindOffset context.ipdHeader ipd.dataPtr row ipd.octetLength
    else getBindOffset context.apdHeader apd.dataPtr row apd.octetLength
  if isDae && !context.daeDone then (.returned .needData error finalQuery, heap)
  else
    match DynString.init [] 16 32 heap with
    | (.noMemory, heap) =>
      let error := setError .errHY001
        (some (lit "Error initializing the string for a single parameter")) 0
      (.returned error.returnValue error finalQuery, heap)
    | (.overrun, heap) => (.overrun, heap)
    | (.done data, heap) =>
      let indicator := indicatorPtr.map context.memory.cell
      if indicator = some sqlNullData ∨
          indicator = some sqlColumnIgnore ∧ apd.defaultValue = none then
        appendNull error finalQuery heap
      else if indicator = some sqlColumnIgnore then
        finishParam context finalQuery
          (appendDefault error data (apd.defaultValue.getD []) heap)
      else finishParam context finalQuery (paramData context apd ipd error octetLengthPtr dataPtr data heap)
where
  /-- The literal `NULL` needs no escaping. -/
  appendNull (error : Diag) (finalQuery : DynString) (heap : Heap) : Inserted × Heap :=
    match finalQuery.append (lit "NULL") heap with
    | (.done finalQuery, heap) => (.returned .success error finalQuery, heap)
    | (.noMemory, heap) =>
      let error := setError .errHY001 (some (lit "Failed to append the parameter")) 0
      (.returned error.returnValue error finalQuery, heap)
    | (.overrun, heap) => (.overrun, heap)

end InsertParam

end MaOdbc
