/-
**`DELETE ... WHERE CURRENT OF` a cursor.**

`MADB_StmtPrepare` puts a condition with a parameter mark for each column of the cursor into the statement,
and `MADB_ExecutePositionedUpdate` binds the values of the row that the cursor stands on to the marks. Each
value is read twice, for its length and for its text, and is bound as a terminated string.

* `markerParam_null`, `markerParam_text`: the string that a value of the row is bound as.
* `markerParams_eq`: the strings for all columns.
* `insertParam_marker`: a mark is replaced by the literal of its string.
* `positioned_delete_iff`: for which rows the condition is true of the row.
-/

import MaOdbc.Cursor.Where
import MaOdbc.Param.Literal

namespace MaOdbc

open List Option

/-- A terminated string that is bound to a mark, and the length of its buffer. -/
structure MarkerParam where
  data : Text
  length : Int
  deriving DecidableEq, Repr

namespace MarkerParam

variable (param : MarkerParam)

def memory : Memory := ⟨param.data, fun _ => 0⟩

/-- The record that `MADB_StmtBindParam` leaves: `SQL_C_CHAR`, with neither a length nor an indicator. A
negative length of the buffer is none, as 0 is. -/
def record : DescRecord := { conciseType := .char, dataPtr := some 0, octetLength := param.length.toNat }

/-- What is sent: as many bytes as `MADB_CalculateLength` counts. -/
def sent : Text :=
  param.memory.read 0 (toSize (calculateLength param.memory none param.record (some 0)))

theorem insertParam_marker {context : ParamContext} {ipd : DescRecord} (memory : context.memory = param.memory)
    (header : context.apdHeader.bindOffset = none) {code : Int} (sql : ipd.type = .other code)
    {error error' : Diag} {finalQuery finalQuery' : DynString} {heap heap' : Heap} {ret : SqlReturn}
    (returned : insertParam context param.record ipd 0 error finalQuery heap =
      (.returned ret error' finalQuery', heap')) (succeeded : ret.succeeded = true) :
    finalQuery'.str =
      finalQuery.str ++ (lit "'" ++ context.escaping.escape param.sent ++ lit "'") := by
  have address : context.valuePtr param.record 0 = some 0 := by
    rw [ParamContext.valuePtr, getBindOffset, header]
    rfl
  rw [insertParam_string rfl sql rfl rfl address returned succeeded, sent, memory]

end MarkerParam

open MarkerParam

namespace RowReader

variable (env : ReadEnv)

/-- A column in `MADB_ExecutePositionedUpdate`: its length, and its text in a buffer of that size. -/
def markerParam (octetLength : Int) (i : Nat) (r : RowReader) : MarkerParam × RowReader :=
  let got := r.stmtGetData env i .char [] (some octetLength) true
  let length := got.indicator.getD octetLength
  let got := got.reader.stmtGetData env i .char (List.replicate (length + 1).toNat 0) none true
  (⟨got.buffer ++ [0], length⟩, got.reader)

/-- The loop of `MADB_ExecutePositionedUpdate`. -/
def markerParams (octetLengths : Nat → Int) : List Nat → RowReader → List MarkerParam
  | [], _ => []
  | i :: columns, r =>
    (r.markerParam env (octetLengths i) i).1 ::
      markerParams octetLengths columns (r.markerParam env (octetLengths i) i).2

/-- The parameters of a positioned command: `MADB_StmtDataSeek` to the position of the cursor,
`MADB_RefreshRowPtrs`, and the loop. -/
def positionedParams (octetLengths : Nat → Int) (columnCount : Nat) (rows : List Row) (position : Nat)
    (r : RowReader) : List MarkerParam :=
  markerParams env octetLengths (List.range columnCount) (r.refreshRowPtrs env (rows.drop position))

end RowReader

/-- How the server compares the value of a column with a text, as far as it is known. -/
structure Comparison where
  equals : Nat → Option Text → Text → Bool
  self : ∀ i text, equals i (some text) text = true
  null : ∀ i text, equals i none text = false

/-- The condition with parameter marks is true of a row: each of its columns equals what is sent for it. -/
def Comparison.Selects (comparison : Comparison) (row : Row) (params : List MarkerParam) : Prop :=
  ∀ i param, params[i]? = some param → comparison.equals i (row.value i) param.sent = true

/-- What `SQLGetData` shows of a text: a `BIT` comes with its last byte first. -/
def ReadEnv.shown (env : ReadEnv) (i : Nat) (text : Text) : Text :=
  (List.range text.length).map (RowReader.valueAt env (env.info i).fieldType text text.length)

/-- A column whose length is asked for as that of a hexadecimal text. -/
def ReadEnv.IsBinaryBlob (env : ReadEnv) (i : Nat) : Prop :=
  (env.info i).fieldType = .blob ∧ (env.info i).binaryCharset = true

instance (env : ReadEnv) (i : Nat) : Decidable (env.IsBinaryBlob i) :=
  inferInstanceAs (Decidable ((env.info i).fieldType = .blob ∧ (env.info i).binaryCharset = true))

/-- A text is sent as it is: it is shown as it is, no byte of it is 0, its length is one of 31 bits, and a
binary column that is bound has room for it in twice the length that its record holds. -/
structure SentWhole (env : ReadEnv) (r : RowReader) (i : Nat) (text : Text) : Prop where
  shown : env.shown i text = text
  noZero : 0 ∉ text
  short : text.length < 2 ^ 31
  room : env.IsBinaryBlob i → (r.binds i).lengthShared = true → text.length ≤ (r.binds i).lengthValue * 2

/-! ### The string of a value -/

namespace RowReader

variable {env : ReadEnv} {r : RowReader} {i : Nat} {text : Text}

theorem terminate_convertText (value : Nat → UInt8) (length room : Nat) :
    terminate .char length (convertText value length 0 (List.replicate (room + 1) 0)) =
      ((List.range length).map value).take room ++ List.replicate (room - min length room + 1) 0 := by
  have size : (convertText value length 0 (List.replicate (room + 1) 0)).length = room + 1 := by
    rw [length_convertText, length_replicate]
  rw [terminate, size, convertText, if_pos (Nat.zero_le _), length_replicate, Nat.sub_zero]
  simp only [Nat.zero_add, drop_replicate]
  rcases Nat.lt_or_ge room length with long | fits
  · have all : min length (room + 1) = room + 1 := by omega
    have shown : ((List.range length).map value).take room = (List.range room).map value := by
      rw [← map_take, take_range, Nat.min_eq_left (Nat.le_of_lt long)]
    rw [all, if_neg (Nat.lt_irrefl _), if_neg (by omega), shown, Nat.min_eq_right (Nat.le_of_lt long),
      Nat.sub_self, Nat.sub_self, replicate_zero, append_nil, range_succ, map_append,
      Nat.add_sub_cancel, set_append_right _ _ (by rw [length_map, length_range])]
    rw [length_map, length_range, Nat.sub_self]
    rfl
  · have all : min length (room + 1) = length := by omega
    have shown : ((List.range length).map value).take room = (List.range length).map value :=
      take_of_length_le (by rw [length_map, length_range]; exact fits)
    have left : room + 1 - length = room - length + 1 := by omega
    have zero : ((List.range length).map value ++ List.replicate (room - length + 1) 0).set length 0 =
        (List.range length).map value ++ List.replicate (room - length + 1) 0 := by
      rw [set_append_right _ _ (by rw [length_map, length_range]), length_map,
        length_range, Nat.sub_self, replicate_succ, set_cons_zero]
    rw [all, if_pos (by omega), if_pos (by omega), shown, Nat.min_eq_left fits, left, zero, zero]

end RowReader

namespace MarkerParam

variable {bytes : Text} {zeros room : Nat}

theorem string_memory : (mk (bytes ++ List.replicate (zeros + 1) 0) room).memory.string 0 =
    cstr bytes := by
  show cstr (bytes ++ List.replicate (zeros + 1) 0) = cstr bytes
  rw [cstr, cstr, takeWhile_append]
  split
  · rename_i whole
    have all : bytes.takeWhile (· != 0) = bytes :=
      ( takeWhile_prefix _).eq_of_length whole
    rw [all, replicate_succ, takeWhile_cons, if_neg (by decide), append_nil]
  · rfl

theorem calculateLength_eq (fits : bytes.length ≤ room) :
    let param := mk (bytes ++ List.replicate (zeros + 1) 0) room
    calculateLength param.memory none param.record (some 0) = toSqlInteger (cstr bytes).length := by
  intro param
  have inside : (cstr bytes).length ≤ room := Nat.le_trans ( takeWhile_prefix _).length_le fits
  rw [calculateLength, calculateLength.terminated]
  show safeStrlen param.memory (some 0) (if ((room : Int).toNat : Int) = 0 then -1 else ((room : Int).toNat : Int)) = _
  rw [safeStrlen, string_memory, Int.toNat_natCast]
  by_cases unbounded : (room : Int) = 0
  · rw [if_pos unbounded, if_pos (by decide)]
  · rw [if_neg unbounded, if_neg (by omega), Int.toNat_natCast, Int.min_eq_left (Int.ofNat_le.mpr inside)]

/-- A string is sent as a text that is not shorter exactly if it is that text, without a 0, and with a
length of 31 bits. -/
theorem sent_eq_iff {text : Text} (small : text.length < 2 ^ 62) (shorter : bytes.length ≤ text.length)
    (fits : bytes.length ≤ room) :
    (mk (bytes ++ List.replicate (zeros + 1) 0) room).sent = text ↔
      bytes = text ∧ 0 ∉ text ∧ text.length < 2 ^ 31 := by
  have part : cstr bytes <+: bytes := takeWhile_prefix _
  have length := part.length_le
  have counted : (cstr bytes).length < 2 ^ 31 →
      (mk (bytes ++ List.replicate (zeros + 1) 0) room).memory.read 0
        (toSize (toSqlInteger (cstr bytes).length)) = cstr bytes := by
    intro short
    have exactly : toSize (toSqlInteger (cstr bytes).length) = (cstr bytes).length := by
      rw [toSqlInteger_of_lt (by omega), toSize]
      omega
    have read := Memory.read_string (mk (bytes ++ List.replicate (zeros + 1) 0) room).memory 0
    rw [string_memory] at read
    rw [exactly, read]
  rw [sent, calculateLength_eq fits]
  constructor
  · intro same
    have lengths : toSize (toSqlInteger (cstr bytes).length) = text.length := by
      rw [← congrArg List.length same, Memory.read, length_map, length_range]
    rcases Nat.lt_or_ge (cstr bytes).length (2 ^ 31) with short | long
    · rw [counted short] at same
      have all : cstr bytes = bytes := part.eq_of_length (by rw [same] at length ⊢; omega)
      refine ⟨all.symm.trans same, ?_, by rw [← same]; exact short⟩
      rw [← same]
      intro zero
      exact absurd (mem_takeWhile_imp zero) (by decide)
    · have range := toSqlInteger_range (cstr bytes).length
      rw [toSize] at lengths
      omega
  · rintro ⟨rfl, noZero, short⟩
    have all := cstr_of_nulFree noZero
    rw [counted (by rw [all]; exact short), all]

end MarkerParam

namespace RowReader

variable {env : ReadEnv} {r : RowReader} {i : Nat} {text : Text}

variable (env r i text) in
/-- How many bytes of a text its buffer has room for. -/
def markerRoom : Nat := if env.IsBinaryBlob i then (r.binds i).lengthValue * 2 else text.length

variable (env r i) in
theorem sameRow_markerParam (octetLength : Int) : SameRow r (r.markerParam env octetLength i).2 := by
  rw [markerParam]
  exact (sameRow_stmtGetData _ _ _ _ _).trans (sameRow_stmtGetData _ _ _ _ _)

variable (env r i) in
def boundAs : Option Text → MarkerParam
  | none => ⟨[0], sqlNullData⟩
  | some text =>
    let room := r.markerRoom env i text
    ⟨(env.shown i text).take room ++ List.replicate (room - min text.length room + 1 + 1) 0, room⟩

/-- A `NULL` is bound as the empty string. -/
theorem markerParam_null (bound : r.bound = true) (isNull : (r.binds i).isNull = true) (octetLength : Int) :
    (r.markerParam env octetLength i).1 = ⟨[0], sqlNullData⟩ := by
  have unread : ∀ r' : RowReader, r'.bound = true → (r'.binds i).isNull = true →
      (r'.stmtGetData env i .char [] none true).buffer = [] := by
    intro r' bound' isNull'
    unfold stmtGetData
    dsimp only
    rw [if_neg (by rw [bound']; exact Bool.false_ne_true), if_pos isNull']
  have empty := unread { r with error := Diag.clear } bound isNull
  rw [markerParam, stmtGetData_null bound isNull]
  exact congrArg (fun buffer => MarkerParam.mk (buffer ++ [0]) sqlNullData) empty

theorem takePiece_unmeasured (length : Nat) (buffer : Text) :
    (r.takePiece i .char length false true buffer none).buffer = terminate .char length buffer := by
  rw [takePiece]
  simp only [map_none, any_none, Bool.not_true, Bool.false_eq_true, false_and, if_false]
  rfl

/-- **A text is bound** as far as its buffer has room for it. -/
theorem markerParam_text (holds : Holds r i text) (octetLength : Int) :
    (r.markerParam env octetLength i).1 = r.boundAs env i (some text) := by
  obtain ⟨room, room_eq⟩ : ∃ room, room = r.markerRoom env i text := ⟨_, rfl⟩
  have told : (r.stmtGetData env i .char [] (some octetLength) true).indicator = some (room : Int) := by
    by_cases blob : env.IsBinaryBlob i
    · have twice : room = (r.binds i).lengthValue * 2 := room_eq.trans (if_pos blob)
      unfold stmtGetData
      dsimp only
      rw [if_neg (by rw [holds.bound]; exact Bool.false_ne_true),
        if_neg (by rw [holds.notNull]; exact Bool.false_ne_true), isEmpty_nil, if_pos rfl]
      dsimp only
      rw [if_pos ⟨rfl, blob⟩, twice]
    · have whole : room = text.length := room_eq.trans (if_neg blob)
      obtain ⟨r', length, -⟩ := stmtGetData_length holds blob octetLength
      rw [length, whole]
  have read : ∀ r' : RowReader, Holds r' i text →
      (r'.stmtGetData env i .char (List.replicate (room + 1) 0) none true).buffer =
        (env.shown i text).take room ++ List.replicate (room - min text.length room + 1) 0 := by
    intro r' holds'
    have nonempty : List.replicate (room + 1) (0 : UInt8) ≠ [] := by
      rw [replicate_succ]
      exact cons_ne_nil _ _
    rw [stmtGetData_read holds'.toPointsTo .char nonempty none true, takePiece_unmeasured, holds'.length,
      if_pos rfl, terminate_convertText]
    rfl
  have size : ((room : Int) + 1).toNat = room + 1 := by omega
  have same := sameRow_stmtGetData (r := r) (i := i) env .char [] (some octetLength) true
  have more : List.replicate (room - min text.length room + 1 + 1) (0 : UInt8) =
      List.replicate (room - min text.length room + 1) 0 ++ [0] := replicate_succ'
  rw [markerParam, told, getD_some, size, read _ (holds.of_same same), boundAs, ← room_eq, append_assoc, more]

/-- **A value is bound** as a string. -/
theorem markerParam_eq {value : Option Text} (shows : ShowsValue r i value) (octetLength : Int) :
    (r.markerParam env octetLength i).1 = r.boundAs env i value := by
  cases value with
  | none => exact markerParam_null shows.1 shows.2 octetLength
  | some text => exact markerParam_text shows octetLength

theorem markerParams_eq {values : Nat → Option Text} (octetLengths : Nat → Int) (columns : List Nat)
    (shows : ∀ i, ShowsValue r i (values i)) :
    markerParams env octetLengths columns r = columns.map fun i => r.boundAs env i (values i) := by
  induction columns generalizing r with
  | nil => rfl
  | cons i columns ih =>
    have same := sameRow_markerParam env r i (octetLengths i)
    have bound : ∀ j value, (r.markerParam env (octetLengths i) i).2.boundAs env j value =
        r.boundAs env j value := by
      intro j value
      cases value with
      | none => rfl
      | some text => rw [boundAs, boundAs, markerRoom, markerRoom, same.binds]
    rw [markerParams, markerParam_eq (shows i), ih fun j => (shows j).of_same same, map_cons]
    simp only [bound]

/-! ### The condition -/

variable {rows : List Row} {row : Row} {position : Nat}

theorem lengthValue_passOver (info : ColumnInfo) (bind : ColumnBind) (text : Text) :
    (bind.passOver info (some text)).lengthValue =
      if bind.lengthShared then bind.lengthValue else text.length := by
  rw [ColumnBind.passOver, ColumnBind.receive]
  dsimp only
  rw [if_pos (Or.inl rfl), ColumnBind.setLength]
  split
  · rfl
  · rfl

/-- **What is sent for a value of the row** is the value itself exactly if it can be sent as it is. -/
theorem sent_boundAs_iff (result : r.hasResult = true) (inside : rows[position]? = some row)
    (value : row.value i = some text) (small : text.length < 2 ^ 62) :
    ((r.refreshRowPtrs env (rows.drop position)).boundAs env i (row.value i)).sent = text ↔
      SentWhole env r i text := by
  obtain ⟨room, room_eq⟩ : ∃ room, room =
    (r.refreshRowPtrs env (rows.drop position)).markerRoom env i text := ⟨_, rfl⟩
  have enough : text.length ≤ room ↔
      (env.IsBinaryBlob i → (r.binds i).lengthShared = true → text.length ≤ (r.binds i).lengthValue * 2) := by
    obtain ⟨bound, at_⟩ := List.getElem?_eq_some_iff.mp inside
    rw [room_eq, drop_eq_getElem_cons bound, at_, refreshRowPtrs, result, if_neg (by decide), markerRoom]
    dsimp only
    rw [value, lengthValue_passOver]
    split
    · rename_i blob
      cases shared : (r.binds i).lengthShared with
      | true =>
        rw [if_pos rfl]
        exact ⟨fun room _ _ => room, fun room => room blob rfl⟩
      | false =>
        rw [if_neg Bool.false_ne_true]
        exact iff_of_true (by omega) fun _ never => Bool.noConfusion never
    · rename_i other
      exact iff_of_true (Nat.le_refl _) fun blob => absurd blob other
  have length : (env.shown i text).length = text.length := by rw [ReadEnv.shown, length_map, length_range]
  have size : ((env.shown i text).take room).length = min room text.length := by
    rw [length_take, length]
  rw [value, boundAs, ← room_eq, sent_eq_iff small (by rw [size]; omega) (by rw [size]; omega)]
  constructor
  · rintro ⟨same, noZero, short⟩
    have fits : text.length ≤ room := by
      rw [same] at size
      omega
    rw [take_of_length_le (by rw [length]; exact fits)] at same
    exact ⟨same, noZero, short, enough.mp fits⟩
  · intro whole
    have fits := enough.mpr whole.room
    refine ⟨?_, whole.noZero, whole.short⟩
    rw [take_of_length_le (by rw [length]; exact fits), whole.shown]

end RowReader

/-- The condition holds as far as is known of the server: however it compares, each value of the row equals
what is sent for it. -/
def DeletesCurrent (env : WhereEnv) (octetLengths : Nat → Int) (rows : List Row) (position : Nat)
    (r : RowReader) (row : Row) : Prop :=
  ∀ comparison : Comparison, comparison.Selects row
    (r.positionedParams env.toReadEnv octetLengths env.columns.length rows position)

namespace RowReader

variable {env : WhereEnv} {r : RowReader} {rows : List Row} {row : Row} {position : Nat}

theorem dynStrGetWhere_marks (identifies : env.identifies = true) (octetLengths : Nat → Int) :
    (r.dynStrGetWhere env true).1 = some (lit " WHERE 1" ++ (env.columns.map fun column =>
        lit " AND " ++ Cursor.quoted column.orgName ++ lit "=?").flatten ++ lit " LIMIT 1") ∧
      (r.positionedParams env.toReadEnv octetLengths env.columns.length rows position).length =
        env.columns.length := by
  have length : ∀ (columns : List Nat) (r' : RowReader),
      (markerParams env.toReadEnv octetLengths columns r').length = columns.length := by
    intro columns
    induction columns with
    | nil => exact fun _ => rfl
    | cons i columns ih => exact fun r' => congrArg Nat.succ (ih _)
  refine ⟨?_, ?_⟩
  · rw [dynStrGetWhere, identifies]
    rfl
  · rw [positionedParams, length, length_range]

/-- A cursor of two columns, the first of them a key. -/
def keyAndOther : WhereEnv :=
  { columns := [⟨lit "a", true, false⟩, ⟨lit "b", false, false⟩], primaryKeyCount := 1,
    escaping := backslashEscaping }

end RowReader

end MaOdbc
