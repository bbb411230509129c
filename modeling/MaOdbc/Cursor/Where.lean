/-
**The condition that names a row.**

`MADB_DynStrGetWhere` writes a condition on all columns of a cursor: with the values of the row that the
handle stands on, or with parameter markers. Each value is read in two calls of `MADB_StmtGetData`, for its
length and for its bytes.

* `stmtGetData_null`, `stmtGetData_length`, `stmtGetData_internal`: the calls that read a value.
* `refreshRowPtrs_shows`: a row that is passed over leaves its values behind, however its columns are
  bound and whatever was read before.
* `dynStrGetWhere_literals`: the condition with values.
-/

import MaOdbc.Cursor.Pieces
import MaOdbc.Cursor.SetPos
import MaOdbc.Param.Literal

namespace MaOdbc

open List Option

/-- A column of the cursor: `org_name`, and `PRI_KEY_FLAG` and `UNIQUE_KEY_FLAG` of its flags. -/
structure KeyColumn where
  orgName : Text
  primaryKey : Bool := false
  uniqueKey : Bool := false
  deriving DecidableEq, Repr

structure WhereEnv extends ReadEnv where
  columns : List KeyColumn
  /-- `MADB_KeyTypeCount` for the primary key. -/
  primaryKeyCount : Nat := 0
  /-- `MADB_KeyTypeCount` for unique keys. -/
  uniqueKeyCount : Nat := 0
  /-- The number of columns of the table. -/
  fieldCount : Nat := 0
  escaping : Escaping
  /-- What `StrLength` holds before anything is written to it. -/
  strLength : Int := 0

namespace WhereEnv

variable (env : WhereEnv)

def keyCount (flag : KeyColumn → Bool) (keyTypeCount : Nat) : Nat :=
  let count := env.columns.countP flag
  if count ≠ 0 ∧ count ≠ keyTypeCount then 0 else count

/-- Whether the cursor has a whole key, or all columns of the table. -/
def identifies : Bool :=
  env.keyCount (·.primaryKey) env.primaryKeyCount ≠ 0 ∨
    env.keyCount (·.uniqueKey) env.uniqueKeyCount ≠ 0 ∨ env.fieldCount = env.columns.length

end WhereEnv

namespace RowReader

variable (env : WhereEnv) (r : RowReader)

/-- A column in the condition with values, and `StrLength`. -/
def whereColumn (column : KeyColumn × Nat) (state : Text × Int × RowReader) :
    Flow (Text × Int × RowReader) RowReader :=
  match state with
  | (text, strLength, r) =>
    let text := text ++ lit " AND " ++ Cursor.quoted column.1.orgName
    let got := r.stmtGetData env.toReadEnv column.2 .char [] (some strLength) true
    if !got.ret.succeeded then .leave got.reader
    else
      let strLength := got.indicator.getD strLength
      if strLength < 0 then .next (text ++ lit " IS NULL", strLength, got.reader)
      else
        let buffer := List.replicate (strLength.toNat + 1) 0
        let got := got.reader.stmtGetData env.toReadEnv column.2 .char buffer (some strLength) true
        let strLength := got.indicator.getD strLength
        let escaped := cstr (env.escaping.escape (got.buffer.take strLength.toNat))
        .next (text ++ lit "= '" ++ escaped ++ lit "'", strLength, got.reader)

/-- `MADB_DynStrGetWhere`: what it appends, or nothing where it fails. -/
def dynStrGetWhere (parameterMarkers : Bool) : Option Text × RowReader :=
  if !env.identifies then
    let error := Diag.setError .errS1000 (some (lit "Can't build index for update/delete")) 0
    (none, { r with error := error })
  else if parameterMarkers then
    let columns := env.columns.map fun column =>
      lit " AND " ++ Cursor.quoted column.orgName ++ lit "=?"
    (some (lit " WHERE 1" ++ columns.flatten ++ lit " LIMIT 1"), r)
  else
    match forEach (whereColumn env) env.columns.zipIdx (lit " WHERE 1", env.strLength, r) with
    | .next (text, _, r) => (some (text ++ lit " LIMIT 1"), r)
    | .leave r => (none, r)

end RowReader

namespace ColumnBind

theorem passOver_some (info : ColumnInfo) (bind : ColumnBind) (text : Text) :
    (bind.passOver info (some text)).rowPtr = some text ∧
      (bind.passOver info (some text)).isNull = false ∧
      (bind.passOver info (some text)).length = text.length := by
  obtain ⟨pointer, notNull⟩ := receive_some info { bind with dummy := true } text
  have length : ({ bind with dummy := true }.receive info (some text)).length = text.length := by
    rw [length_receive, if_pos (Or.inl rfl)]
  exact ⟨pointer, notNull, length⟩

end ColumnBind

def WhereEnv.clause (env : WhereEnv) (column : KeyColumn) (value : Option Text) : Text :=
  lit " AND " ++ Cursor.quoted column.orgName ++
    match value with
    | none => lit " IS NULL"
    | some bytes => lit "= '" ++ env.escaping.escape bytes ++ lit "'"

def WhereEnv.condition (env : WhereEnv) (row : Row) : Text :=
  lit " WHERE 1" ++ env.columns.zipIdx.flatMap (fun column => env.clause column.1 (row.value column.2)) ++
    lit " LIMIT 1"

/-- Columns whose values are read as they were sent: none of type `BIT`, and no binary `BLOB`. -/
def ReadEnv.Plain (readEnv : ReadEnv) (i : Nat) : Prop :=
  (readEnv.info i).fieldType ≠ .bit ∧
    ¬ ((readEnv.info i).fieldType = .blob ∧ (readEnv.info i).binaryCharset = true)

namespace RowReader

variable {env : WhereEnv} {r : RowReader} {i : Nat} {text : Text}

/-! ### The row -/

def ShowsValue (r : RowReader) (i : Nat) : Option Text → Prop
  | none => r.bound = true ∧ (r.binds i).isNull = true
  | some text => Holds r i text

/-- **A row that is passed over** leaves its values behind. -/
theorem refreshRowPtrs_shows (readEnv : ReadEnv) (result : r.hasResult = true) (bound : r.bound = true)
    (row : Row) (rest : List Row) (i : Nat) :
    ShowsValue (r.refreshRowPtrs readEnv (row :: rest)) i (row.value i) := by
  have moved : r.refreshRowPtrs readEnv (row :: rest) =
      { r with
        binds := fun i => (r.binds i).passOver (readEnv.info i) (row.value i)
        fetching := true } := by
    rw [refreshRowPtrs, result]
    rfl
  rw [moved]
  cases value : row.value i with
  | none =>
    refine ⟨bound, ?_⟩
    show ((r.binds i).passOver (readEnv.info i) (row.value i)).isNull = true
    rw [value]
    rfl
  | some text =>
    obtain ⟨pointer, notNull, length⟩ := ColumnBind.passOver_some (readEnv.info i) (r.binds i) text
    refine ⟨⟨bound, rfl, ?_, ?_⟩, ?_⟩
    · show ((r.binds i).passOver (readEnv.info i) (row.value i)).isNull = false
      rw [value, notNull]
    · show ((r.binds i).passOver (readEnv.info i) (row.value i)).rowPtr = some text
      rw [value, pointer]
    · show ((r.binds i).passOver (readEnv.info i) (row.value i)).length = text.length
      rw [value, length]

theorem refreshRowPtrs_progress (readEnv : ReadEnv) (r : RowReader) (pointer : List Row) :
    (r.refreshRowPtrs readEnv pointer).charOffset = r.charOffset ∧
      (r.refreshRowPtrs readEnv pointer).lengths = r.lengths := by
  unfold refreshRowPtrs
  split
  · exact ⟨rfl, rfl⟩
  · cases pointer with
    | nil | cons => exact ⟨rfl, rfl⟩

/-! ### Reading a value -/

/-- The row and the progress of `SQLGetData` stay as they are. -/
structure SameProgress (r r' : RowReader) : Prop extends SameRow r r' where
  charOffset : r'.charOffset = r.charOffset
  lengths : r'.lengths = r.lengths

variable {r' : RowReader} {value : Option Text} {readEnv : ReadEnv} {buffer : Text}

theorem SameProgress.trans {r r'' : RowReader} (first : SameProgress r r')
    (second : SameProgress r' r'') : SameProgress r r'' :=
  ⟨⟨second.hasResult.trans first.hasResult, second.bound.trans first.bound,
      second.fetching.trans first.fetching, second.binds.trans first.binds⟩,
    second.charOffset.trans first.charOffset, second.lengths.trans first.lengths⟩

theorem ShowsValue.of_same (shows : ShowsValue r i value) (same : SameRow r r') :
    ShowsValue r' i value := by
  cases value with
  | none =>
    refine ⟨same.bound.trans shows.1, ?_⟩
    rw [same.binds]
    exact shows.2
  | some text => exact Holds.of_same shows same

theorem stmtGetData_null (bound : r.bound = true) (isNull : (r.binds i).isNull = true)
    (target : TextTarget) (buffer : Text) (indicator : Int) (internalUse : Bool) :
    r.stmtGetData readEnv i target buffer (some indicator) internalUse =
      ⟨.success, buffer, some sqlNullData, { r with error := Diag.clear }⟩ := by
  unfold stmtGetData
  dsimp only
  rw [if_neg (by rw [bound]; exact Bool.false_ne_true), if_pos isNull]

theorem stmtGetData_length (holds : Holds r i text)
    (notBlob : ¬ ((readEnv.info i).fieldType = .blob ∧ (readEnv.info i).binaryCharset = true))
    (indicator : Int) :
    ∃ r', r.stmtGetData readEnv i .char [] (some indicator) true =
      ⟨.successWithInfo, [], some (text.length : Int), r'⟩ ∧ SameProgress r r' := by
  have cleared : Holds { r with error := Diag.clear } i text := holds.of_same ⟨rfl, rfl, rfl, rfl⟩
  refine ⟨({ r with error := Diag.clear }.setError .err01004).2, ?_, ⟨rfl, rfl, rfl, rfl⟩, rfl, rfl⟩
  unfold stmtGetData
  dsimp only
  rw [if_neg (by rw [holds.bound]; exact Bool.false_ne_true),
    if_neg (by rw [holds.notNull]; exact Bool.false_ne_true), isEmpty_nil, if_pos rfl]
  dsimp only
  rw [if_neg (fun blob => notBlob blob.2), getLength, fetchColumnCsps_read cleared.toPointsTo, cleared.length]
  rfl

theorem takePiece_internal {length : Nat} (larger : length < buffer.length) (indicator : Int) :
    r.takePiece i .char length false true buffer (some indicator) =
      ⟨r.error.returnValue, terminate .char length buffer, some (length : Int), r⟩ := by
  have roomy : ¬ (buffer.length : Int) - TextTarget.char.zeroTerminated < (length : Int) - (0 : Nat) := by
    rw [TextTarget.zeroTerminated]
    omega
  have same : (length : Int) - (0 : Nat) = length := Int.sub_zero _
  rw [takePiece]
  simp only [map_some, any_some, decide_eq_true_eq, Bool.not_true, Bool.false_eq_true, false_and, if_false, if_true]
  rw [if_neg roomy, same]
  rfl

theorem stmtGetData_internal (holds : Holds r i text) (plain : (readEnv.info i).fieldType ≠ .bit)
    (larger : text.length < buffer.length) (indicator : Int) :
    ∃ read r', r.stmtGetData readEnv i .char buffer (some indicator) true =
      ⟨.success, read, some (text.length : Int), r'⟩ ∧ read.take text.length = text ∧
        SameProgress r r' := by
  have nonempty : buffer ≠ [] := ne_nil_of_length_pos (by omega)
  have size : (convertText (byteAt readEnv text) text.length 0 buffer).length = buffer.length :=
    length_convertText _ _ _ _
  have called := stmtGetData_eq holds.toPointsTo plain .char nonempty (some indicator) true
  rw [holds.length, if_pos rfl, takePiece_internal (by rw [size]; exact larger)] at called
  refine ⟨_, _, called, ?_, ⟨rfl, rfl, rfl, rfl⟩, rfl, rfl⟩
  have bytes : (convertText (byteAt readEnv text) text.length 0 buffer).take text.length = _ :=
    take_convertText (Nat.zero_le _) (Nat.le_refl _) (Nat.le_of_lt larger)
  have room : text.length ≤ (convertText (byteAt readEnv text) text.length 0 buffer).length -
      TextTarget.char.zeroTerminated := by
    rw [size]
    exact Nat.le_sub_one_of_lt larger
  rw [take_terminate (Nat.le_refl _) room, bytes, map_byteAt (by omega), drop_zero, take_length]

theorem succeeded_stmtGetData (readEnv : ReadEnv) (bound : r.bound = true) (indicator : Int) :
    (r.stmtGetData readEnv i .char [] (some indicator) true).ret.succeeded = true := by
  unfold stmtGetData
  dsimp only
  rw [if_neg (by rw [bound]; exact Bool.false_ne_true)]
  split
  · rfl
  · rw [isEmpty_nil, if_pos rfl]
    dsimp only
    split
    · rfl
    · rw [getLength]
      dsimp only
      split
      · rfl
      · rfl
      · rfl

/-! ### The condition -/

/-- **A column in the condition.** -/
theorem whereColumn_clause (column : KeyColumn) (shows : ShowsValue r i value) (plain : env.Plain i)
    (text : Text) (strLength : Int) :
    ∃ strLength' r', whereColumn env (column, i) (text, strLength, r) =
      .next (text ++ env.clause column value, strLength', r') ∧ SameProgress r r' := by
  cases value with
  | none =>
    refine ⟨sqlNullData, { r with error := Diag.clear }, ?_, ⟨rfl, rfl, rfl, rfl⟩, rfl, rfl⟩
    rw [whereColumn]
    dsimp only
    rw [stmtGetData_null shows.1 shows.2, WhereEnv.clause, ← append_assoc, ← append_assoc]
    rfl
  | some bytes =>
    obtain ⟨r₁, length, same₁⟩ := stmtGetData_length shows plain.2 strLength
    have holds : Holds r₁ i bytes := Holds.of_same shows same₁.toSameRow
    have size : bytes.length < (replicate ((bytes.length : Int).toNat + 1) (0 : UInt8)).length := by
      rw [length_replicate, Int.toNat_natCast]
      exact Nat.lt_succ_self _
    obtain ⟨read, r₂, bytes_eq, data, same₂⟩ := stmtGetData_internal holds plain.1 size bytes.length
    refine ⟨bytes.length, r₂, ?_, same₁.trans same₂⟩
    rw [whereColumn]
    dsimp only
    rw [length]
    dsimp only [getD_some]
    rw [if_neg (by decide), if_neg (by omega), bytes_eq]
    dsimp only [getD_some]
    rw [Int.toNat_natCast, data, cstr_of_nulFree (env.escaping.nulFree bytes), WhereEnv.clause]
    simp only [append_assoc]

theorem forEach_whereColumn {values : Nat → Option Text} (columns : List KeyColumn) (start : Nat)
    (shows : ∀ i, ShowsValue r i (values i))
    (plain : ∀ i, start ≤ i → i < start + columns.length → env.Plain i)
    (text : Text) (strLength : Int) :
    ∃ strLength' r', forEach (whereColumn env) (columns.zipIdx start) (text, strLength, r) =
      .next (text ++ (columns.zipIdx start).flatMap (fun column => env.clause column.1 (values column.2)),
        strLength', r') ∧ SameProgress r r' := by
  induction columns generalizing start text strLength r with
  | nil =>
    refine ⟨strLength, r, ?_, ⟨rfl, rfl, rfl, rfl⟩, rfl, rfl⟩
    rw [zipIdx_nil, flatMap_nil, append_nil]
    rfl
  | cons column columns ih =>
    obtain ⟨strLength₁, r₁, first, same₁⟩ := whereColumn_clause column (shows start)
      (plain start (Nat.le_refl _) (by rw [length_cons]; omega)) text strLength
    obtain ⟨strLength₂, r₂, others, same₂⟩ :=
      ih (start + 1) (fun i => (shows i).of_same same₁.toSameRow)
        (fun i lower upper => plain i (by omega) (by rw [length_cons]; omega))
        (text ++ env.clause column (values start)) strLength₁
    refine ⟨strLength₂, r₂, ?_, same₁.trans same₂⟩
    rw [zipIdx_cons, forEach_cons, first]
    dsimp only
    rw [others, flatMap_cons, append_assoc]

theorem dynStrGetWhere_eq (identifies : env.identifies = true) {row : Row}
    (shows : ∀ i, ShowsValue r i (row.value i)) (plain : ∀ i < env.columns.length, env.Plain i) :
    ∃ r', r.dynStrGetWhere env false = (some (env.condition row), r') ∧ SameProgress r r' := by
  obtain ⟨strLength, r', columns, same⟩ := forEach_whereColumn env.columns 0 shows
    (fun i _ upper => plain i (by omega)) (lit " WHERE 1") env.strLength
  refine ⟨r', ?_, same⟩
  rw [dynStrGetWhere, identifies, columns]
  rfl

theorem dynStrGetWhere_succeeds (identifies : env.identifies = true) (bound : r.bound = true) :
    ∃ clause r', r.dynStrGetWhere env false = (some clause, r') ∧ SameRow r r' := by
  have step : ∀ column state, SameRow r state.2.2 →
      (whereColumn env column state).All (fun state' => SameRow r state'.2.2) (fun _ => False) := by
    rintro column ⟨text, strLength, r'⟩ same
    have bound' : r'.bound = true := same.bound.trans bound
    have first : SameRow r' _ :=
      sameRow_stmtGetData (i := column.2) env.toReadEnv .char [] (some strLength) true
    rw [whereColumn]
    dsimp only
    rw [succeeded_stmtGetData env.toReadEnv bound', if_neg (by decide)]
    split
    · exact same.trans first
    · exact (same.trans first).trans (sameRow_stmtGetData _ _ _ _ _)
  have loop : (forEach (whereColumn env) env.columns.zipIdx (lit " WHERE 1", env.strLength, r)).All
      (fun state => SameRow r state.2.2) (fun _ => False) :=
    forEach_rule (fun _ state => SameRow r state.2.2) (fun _ column _ state _ same => step column state same)
      (nil_append _).symm ⟨rfl, rfl, rfl, rfl⟩
  rw [dynStrGetWhere, identifies]
  cases ended : forEach (whereColumn env) env.columns.zipIdx (lit " WHERE 1", env.strLength, r) with
  | next state =>
    rw [ended] at loop
    exact ⟨_, _, rfl, loop⟩
  | leave r' =>
    rw [ended] at loop
    exact loop.elim

/-- **The condition with values.** On a handle that has fetched, however its columns are bound and whatever
was read of them before, the condition on a row of the result names each column with its value, as one
literal or as a `NULL`. What `SQLGetData` keeps of its progress stays as it is. -/
theorem dynStrGetWhere_literals (result : r.hasResult = true) (bound : r.bound = true)
    (plain : ∀ i < env.columns.length, env.Plain i) {rows : List Row} {index : Nat} {row : Row}
    (inside : rows[index]? = some row) :
    let got := (r.refreshRowPtrs env.toReadEnv (rows.drop index)).dynStrGetWhere env false
    (env.identifies = true → got.1.isSome = true) ∧
      ∀ text, got.1 = some text →
        (∃ literals : Nat → Text,
          (∀ i bytes, row.value i = some bytes → env.escaping.Denotes (literals i) bytes) ∧
          text = lit " WHERE 1" ++
            env.columns.zipIdx.flatMap (fun column =>
              lit " AND " ++ (lit "`" ++ column.1.orgName ++ lit "`") ++
                match row.value column.2 with
                | none => lit " IS NULL"
                | some _ => lit "= " ++ literals column.2) ++
            lit " LIMIT 1") ∧
        got.2.charOffset = r.charOffset ∧ got.2.lengths = r.lengths := by
  obtain ⟨within, at_index⟩ := List.getElem?_eq_some_iff.mp inside
  rw [drop_eq_getElem_cons within, at_index]
  obtain ⟨offsets, lengths⟩ := refreshRowPtrs_progress env.toReadEnv r (row :: rows.drop (index + 1))
  have shows := refreshRowPtrs_shows env.toReadEnv result bound row (rows.drop (index + 1))
  generalize r.refreshRowPtrs env.toReadEnv (row :: rows.drop (index + 1)) = moved at offsets lengths shows
  by_cases identifies : env.identifies = true
  · obtain ⟨r', condition, same⟩ := dynStrGetWhere_eq identifies shows plain
    dsimp only
    rw [condition]
    refine ⟨fun _ => rfl, fun text written => ⟨⟨fun i =>
      lit "'" ++ env.escaping.escape ((row.value i).getD []) ++ lit "'", ?_, ?_⟩,
      same.charOffset.trans offsets, same.lengths.trans lengths⟩⟩
    · intro i bytes value
      dsimp only
      rw [value]
      exact ⟨_, rfl, env.escaping.decodes bytes⟩
    · rw [← some_inj.mp written, WhereEnv.condition]
      refine congrArg (fun columns => lit " WHERE 1" ++ columns ++ lit " LIMIT 1") ?_
      refine congrArg (fun clause => env.columns.zipIdx.flatMap clause) (funext fun column => ?_)
      unfold WhereEnv.clause
      dsimp only
      cases value : row.value column.2 with
      | none | some => rfl
  · have failed : (moved.dynStrGetWhere env false).1 = none := by
      rw [dynStrGetWhere, Bool.not_eq_true _ |>.mp identifies]
      rfl
    refine ⟨fun identified => absurd identified identifies, fun text written => ?_⟩
    rw [failed] at written
    cases written

theorem dynStrGetWhere_literals_null :
    let env : WhereEnv :=
      { columns := [⟨lit "a", true, false⟩, ⟨lit "b", false, false⟩]
        primaryKeyCount := 1
        escaping := backslashEscaping
        ard := fun _ => some .long }
    let r : RowReader := { hasResult := true, bound := true }
    let got := (r.refreshRowPtrs env.toReadEnv [[some (lit "x"), none]]).dynStrGetWhere env false
    got.1.isSome = true ∧
      ∀ text, got.1 = some text → ∃ literals : Nat → Text,
        backslashEscaping.Denotes (literals 0) (lit "x") ∧
          text = lit " WHERE 1 AND `a`= " ++ literals 0 ++ lit " AND `b` IS NULL LIMIT 1" := by
  intro env r
  have plain : ∀ i < env.columns.length, env.Plain i :=
    fun _ _ => ⟨FieldType.noConfusion, fun blob => FieldType.noConfusion blob.1⟩
  have inside : [[some (lit "x"), none]][0]? = some [some (lit "x"), none] := rfl
  obtain ⟨succeeds, writes⟩ := dynStrGetWhere_literals (r := r) rfl rfl plain inside
  refine ⟨succeeds (by decide), fun text written => ?_⟩
  obtain ⟨⟨literals, denotes, shape⟩, -⟩ := writes text written
  refine ⟨literals, denotes 0 (lit "x") rfl, ?_⟩
  have clauses : lit " WHERE 1" ++
      ((lit " AND " ++ (lit "`" ++ lit "a" ++ lit "`") ++ (lit "= " ++ literals 0)) ++
        ((lit " AND " ++ (lit "`" ++ lit "b" ++ lit "`") ++ lit " IS NULL") ++ [])) ++ lit " LIMIT 1" =
      lit " WHERE 1 AND `a`= " ++ literals 0 ++ lit " AND `b` IS NULL LIMIT 1" := by
    simp only [append_assoc]
    rfl
  exact shape.trans clauses

end RowReader

end MaOdbc
