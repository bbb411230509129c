/-
**Deleting rows through a cursor.**

`MADB_StmtSetPos` with `SQL_DELETE` goes from row to row, and sends a `DELETE` with the condition on each.
The loop of a whole rowset runs up to the last row of the rowset or to the number of rows of the result,
which is one row too far; and a single row is looked for in the result, and not in the rowset.

* `clauseAt`: the condition on a row, with the handle as the rounds before have left it.
* `forEach_deleteRow`: the loop sends a `DELETE` for each row, up to the first that is refused.
* `stmtSetPos_delete_iff`: which calls send the statements that they are asked for.
-/

import Mathlib.Data.List.Forall2
import MaOdbc.Cursor.Where

namespace MaOdbc

open List RowReader Option

namespace RowReader

variable (env : WhereEnv) (rows : List Row) (r : RowReader)

/-- The handle goes to a row of the result: `MADB_StmtDataSeek` and `MADB_RefreshRowPtrs`. -/
def moveTo (row : Nat) : RowReader := r.refreshRowPtrs env.toReadEnv (rows.drop row)

/-- The handle behind some rounds of the loop of `SQL_DELETE`. -/
def afterRounds (start : Nat) : Nat → RowReader
  | 0 => r
  | count + 1 => (((afterRounds start count).moveTo env rows (start + count)).dynStrGetWhere env false).2

def clauseAt (start row : Nat) : Option Text :=
  (((r.afterRounds env rows start (row - start)).moveTo env rows row).dynStrGetWhere env false).1

theorem moveTo_same (row : Nat) :
    (r.moveTo env rows row).hasResult = r.hasResult ∧ (r.moveTo env rows row).bound = r.bound := by
  unfold moveTo refreshRowPtrs
  split
  · exact ⟨rfl, rfl⟩
  · split
    · exact ⟨rfl, rfl⟩
    · exact ⟨rfl, rfl⟩

variable {env rows r}

theorem afterRounds_fetched (rows : List Row) (identifies : env.identifies = true) (result : r.hasResult = true)
    (bound : r.bound = true) (start count : Nat) :
    (r.afterRounds env rows start count).hasResult = true ∧
      (r.afterRounds env rows start count).bound = true := by
  induction count with
  | zero => exact ⟨result, bound⟩
  | succ count ih =>
    obtain ⟨result', bound'⟩ :=
      moveTo_same env rows (r.afterRounds env rows start count) (start + count)
    obtain ⟨clause, r', written, same⟩ := dynStrGetWhere_succeeds identifies (bound'.trans ih.2)
    rw [afterRounds, written]
    exact ⟨same.hasResult.trans (result'.trans ih.1), same.bound.trans (bound'.trans ih.2)⟩

theorem clauseAt_isSome (identifies : env.identifies = true) (result : r.hasResult = true)
    (bound : r.bound = true) (start row : Nat) : ∃ clause, r.clauseAt env rows start row = some clause := by
  obtain ⟨-, bound'⟩ := afterRounds_fetched rows identifies result bound start (row - start)
  have kept := (moveTo_same env rows (r.afterRounds env rows start (row - start)) row).2
  obtain ⟨clause, r', written, -⟩ := dynStrGetWhere_succeeds identifies (kept.trans bound')
  exact ⟨clause, congrArg Prod.fst written⟩

theorem clauseAt_none (unidentified : env.identifies = false) (start row : Nat) :
    r.clauseAt env rows start row = none := by
  rw [clauseAt, dynStrGetWhere, unidentified]
  rfl

end RowReader

/-- A `DELETE` that is built from the values of a row: of a handle that shows them in all columns. -/
def BuiltFrom (env : WhereEnv) (tableName : Text) (row : Row) (text : Text) : Prop :=
  ∃ (r : RowReader) (clause : Text), (∀ i, r.ShowsValue i (row.value i)) ∧
    (r.dynStrGetWhere env false).1 = some clause ∧
    text = lit "DELETE FROM " ++ Cursor.quoted tableName ++ clause

/-- The text of a `DELETE`. -/
def CursorEvent.deleteText : CursorEvent → Option Text
  | .deletes text _ => some text
  | _ => none

variable {count : Nat} {rowset : List Row} {returned : SqlReturn × Cursor}

namespace Cursor

/-- The `DELETE` statements that were sent. -/
def deleted (c : Cursor) : List Text := c.trace.filterMap CursorEvent.deleteText

/-- Where `SQL_DELETE` starts. -/
def deleteStart (c : Cursor) (rowNumber : Nat) : Nat :=
  if rowNumber = 0 then c.position else c.position + rowNumber - 1

variable {env : CursorEnv} {c : Cursor}

/-- The rows for which a loop sends a `DELETE`: those up to the first that is refused. -/
def attempted (env : CursorEnv) (items : List Nat) : List Nat :=
  items.take ((items.takeWhile fun row => (env.delete row).isOk).length + 1)

def behindLoop : Flow Cursor (SqlReturn × Cursor) → Cursor
  | .next c => c
  | .leave returned => returned.2

/-- The `DELETE` for a row, with the condition on it. -/
def deletion (tableName : Text) (clause : Nat → Text) (row : Nat) : Text :=
  lit "DELETE FROM " ++ quoted tableName ++ clause row

/-- **The loop of `SQL_DELETE`.** -/
theorem forEach_deleteRow (tableName : Text) {clause : Nat → Text} {items : List Nat}
    (written : ∀ row ∈ items, env.whereClause row = some (clause row)) :
    (behindLoop (forEach (deleteRow env tableName) items c)).deleted =
      c.deleted ++ (attempted env items).map (deletion tableName clause) := by
  induction items generalizing c with
  | nil =>
    rw [attempted, take_nil, map_nil, append_nil]
    rfl
  | cons row items ih =>
    have text := written row mem_cons_self
    have round : ∀ c' : Cursor, ((c'.emit .lock).emit (.deletes
        (deletion tableName clause row) (c'.emit .lock).fields)).deleted =
        c'.deleted ++ [deletion tableName clause row] := by
      intro c'
      rw [deleted, emit, emit, append_assoc, filterMap_append]
      rfl
    rw [forEach_cons, deleteRow, text]
    dsimp only
    cases answer : env.delete row with
    | error native =>
      have accepted : (env.delete row).isOk = false := by
        rw [answer]
        rfl
      have only : attempted env (row :: items) = [row] := by
        rw [attempted, takeWhile_cons, accepted, if_neg Bool.false_ne_true]
        rfl
      rw [only, map_singleton, ← round c]
      show deleted (emit _ .unlock) = _
      rw [deleted, emit, filterMap_append]
      exact append_nil _
    | ok count =>
      have accepted : (env.delete row).isOk = true := by
        rw [answer]
        rfl
      have more : attempted env (row :: items) = row :: attempted env items := by
        rw [attempted, takeWhile_cons, accepted, if_pos rfl, length_cons, take_succ_cons, attempted]
      rw [more, map_cons, append_cons, ← round c]
      exact ih fun later member => written later (mem_cons_of_mem row member)

/-! ### The rows that are asked for -/

theorem le_length_takeWhile_range' {p : Nat → Bool} {start j : Nat} (most : j ≤ count) :
    j ≤ ((range' start count).takeWhile p).length ↔
      ∀ row, start ≤ row → row < start + j → p row = true := by
  induction count generalizing start j with
  | zero =>
    obtain rfl : j = 0 := by omega
    exact iff_of_true (Nat.zero_le _) fun row lower upper => by omega
  | succ count ih =>
    cases j with
    | zero => exact iff_of_true (Nat.zero_le _) fun row lower upper => by omega
    | succ j =>
      rw [range'_succ, takeWhile_cons]
      by_cases first : p start = true
      · rw [if_pos first, length_cons, Nat.succ_le_succ_iff, ih (by omega)]
        refine ⟨fun all row lower upper => ?_, fun all row lower upper => all row (by omega) (by omega)⟩
        rcases Nat.eq_or_lt_of_le lower with rfl | later
        · exact first
        · exact all row later (by omega)
      · rw [if_neg first]
        refine iff_of_false (Nat.not_succ_le_zero j) fun all => first ?_
        exact all start (Nat.le_refl _) (by omega)

theorem take_range' (start count j : Nat) :
    (range' start count).take j = range' start (min j count) := by
  refine ext_getElem (by rw [length_take, length_range', length_range']) fun i below below' => ?_
  rw [getElem_take, getElem_range', getElem_range']

section

variable (static : env.dynamic = false) {tableName : Text} {c₁ : Cursor}
  (table : c.getTableName = (some tableName, c₁)) {rowNumber : Nat}

include static table

theorem setDelete_eq (within : rowNumber ≤ c.numRows) :
    c.setDelete env rowNumber =
      match forEach (deleteRow env tableName) (c.deletedRows rowNumber)
        { c₁ with arraySize := 1, affectedRows := 0 } with
      | .leave returned => returned
      | .next c' => (.success, { c'.emit .unlock with arraySize := c.arraySize }) := by
  have same : c₁ = c.getTableName.2 := by rw [table]
  have rows : ({ c₁ with numRows := c.numRows } : Cursor).deletedRows rowNumber =
      c.deletedRows rowNumber := by
    rw [same]
    rfl
  have size : c.arraySize = c₁.arraySize := by
    rw [same]
    rfl
  rw [setDelete, table]
  dsimp only
  rw [refreshed, static, if_neg Bool.false_ne_true]
  dsimp only
  rw [if_neg (Nat.not_lt.mpr within), ← rows, size]
  rfl

theorem setDelete_deleted (within : rowNumber ≤ c.numRows) :
    (c.setDelete env rowNumber).2.deleted =
      (behindLoop (forEach (deleteRow env tableName) (c.deletedRows rowNumber)
        { c₁ with arraySize := 1, affectedRows := 0 })).deleted := by
  rw [setDelete_eq static table within]
  cases forEach (deleteRow env tableName) (c.deletedRows rowNumber)
      { c₁ with arraySize := 1, affectedRows := 0 } with
  | leave returned => rfl
  | next c' =>
    show deleted (emit c' .unlock) = c'.deleted
    rw [deleted, emit, filterMap_append]
    exact append_nil _

theorem setDelete_outside (outside : c.numRows < rowNumber) :
    (c.setDelete env rowNumber).2.deleted = c.deleted ∧
      (c.setDelete env rowNumber).1.succeeded = false := by
  have same : c₁ = c.getTableName.2 := by rw [table]
  rw [setDelete, table]
  dsimp only
  rw [refreshed, static, if_neg Bool.false_ne_true]
  dsimp only
  rw [if_pos outside, same]
  exact ⟨rfl, rfl⟩

end

theorem setDelete_refused (static : env.dynamic = false) {rowNumber : Nat}
    (cannot : c.getTableName.1 = none ∨ ∀ row, env.whereClause row = none) :
    (c.setDelete env rowNumber).2.deleted = c.deleted ∧
      (c.deletedRows rowNumber ≠ [] → (c.setDelete env rowNumber).1.succeeded = false) := by
  cases table : c.getTableName with
  | mk name c₁ =>
    have same : c₁ = c.getTableName.2 := by rw [table]
    cases name with
    | none =>
      rw [setDelete, table, same]
      exact ⟨rfl, fun _ => rfl⟩
    | some tableName =>
      rcases Nat.lt_or_ge c.numRows rowNumber with outside | within
      · obtain ⟨sent, failed⟩ := setDelete_outside static table outside
        exact ⟨sent, fun _ => failed⟩
      · have unwritten : ∀ row, env.whereClause row = none := by
          refine cannot.resolve_left fun none_named => ?_
          rw [table] at none_named
          cases none_named
        rw [setDelete_eq static table within, same]
        cases c.deletedRows rowNumber with
        | nil =>
          refine ⟨?_, fun nonempty => absurd rfl nonempty⟩
          show (emit _ .unlock).deleted = _
          rw [deleted, emit, filterMap_append]
          exact append_nil _
        | cons row items =>
          rw [forEach_cons, deleteRow, unwritten row]
          exact ⟨rfl, fun _ => rfl⟩

/-- The rows that `SQL_DELETE` is asked for, in a rowset: all of them, or one, if it is there. -/
def wantedRows (rowset : List Row) (rowNumber : Nat) : Option (List Row) :=
  if rowNumber = 0 then some rowset else (rowset[rowNumber - 1]?).map ([·])

/-- A call sends just the statements that it is asked for, each built from the values of its row; it fails
and sends nothing if it is asked for a row that is not there. -/
def DeletesAsAsked (whereEnv : WhereEnv) (rowset : List Row) (rowNumber : Nat) (c : Cursor)
    (returned : SqlReturn × Cursor) : Prop :=
  ∃ texts, returned.2.deleted = c.deleted ++ texts ∧
    match wantedRows rowset rowNumber with
    | some wanted => List.Forall₂ (BuiltFrom whereEnv (c.getTableName.1.getD [])) wanted texts
    | none => returned.1.succeeded = false ∧ texts = []

end Cursor

/-- A call on the rows of a result, with the handle as it finds it: the conditions are those of the rows from
where `SQL_DELETE` starts. -/
def CursorEnv.reading (env : CursorEnv) (whereEnv : WhereEnv) (rows : List Row) (r : RowReader) (start : Nat) :
    CursorEnv :=
  { env with whereClause := r.clauseAt whereEnv rows start }

/-- A cursor that `SQL_DELETE` can work with: its columns are of one table, and tell the rows apart. -/
def Cursor.Updatable (c : Cursor) (whereEnv : WhereEnv) : Prop :=
  c.getTableName.1.isSome = true ∧ whereEnv.identifies = true

/-- A call that sends the statements it is asked for. For the whole rowset: every `DELETE` but the last one
is accepted, and the rowset is a full one, or else the `DELETE` of the last row of the result is refused and
the end of the rowset is a number of 64 bits.
For one row: it is in the rowset, or its number is larger than that of the rows of the result. -/
def Cursor.Deletable (c : Cursor) (env : CursorEnv) (whereEnv : WhereEnv) (rowNumber : Nat) : Prop :=
  let last := min (c.position + c.arraySize) c.numRows
  if rowNumber = 0 then
    c.Updatable whereEnv ∧
      (∀ row, c.position ≤ row → row + 1 < last → (env.delete row).isOk = true) ∧
      (c.position + c.arraySize ≤ c.numRows ∨
        c.position + c.arraySize ≤ 2 ^ 64 ∧ (env.delete (c.numRows - 1)).isOk = false)
  else if c.position + rowNumber ≤ last then c.Updatable whereEnv
  else c.numRows < rowNumber ∨ ¬ c.Updatable whereEnv

namespace Cursor

variable {env : CursorEnv} {c : Cursor} {whereEnv : WhereEnv} {rows : List Row} {r : RowReader}

theorem wantedRows_eq_none_iff {rowNumber : Nat} :
    wantedRows rowset rowNumber = none ↔ rowNumber ≠ 0 ∧ rowset.length < rowNumber := by
  rw [wantedRows]
  split
  · rename_i whole
    exact iff_of_false (some_ne_none _) fun single => single.1 whole
  · rename_i single
    rw [map_eq_none_iff, List.getElem?_eq_none_iff]
    omega

theorem deletesAsAsked_of_sent {rowNumber : Nat} {texts : List Text}
    (sent : returned.2.deleted = c.deleted ++ texts) :
    DeletesAsAsked whereEnv rowset rowNumber c returned ↔
      match wantedRows rowset rowNumber with
      | some wanted => List.Forall₂ (BuiltFrom whereEnv (c.getTableName.1.getD [])) wanted texts
      | none => returned.1.succeeded = false ∧ texts = [] := by
  constructor
  · rintro ⟨texts', sent', asked⟩
    rw [sent, append_cancel_left_eq] at sent'
    rw [sent']
    exact asked
  · exact fun asked => ⟨texts, sent, asked⟩

theorem deletesAsAsked_of_failed {rowNumber : Nat} (nonempty : rowset ≠ [])
    (sent : returned.2.deleted = c.deleted) (failed : returned.1.succeeded = false) :
    DeletesAsAsked whereEnv rowset rowNumber c returned ↔ rowNumber ≠ 0 ∧ rowset.length < rowNumber := by
  rw [← wantedRows_eq_none_iff, deletesAsAsked_of_sent (sent.trans (append_nil _).symm)]
  cases asked : wantedRows rowset rowNumber with
  | none => exact iff_of_true ⟨failed, rfl⟩ rfl
  | some wanted =>
    refine iff_of_false (fun built => ?_) (some_ne_none _)
    have none_wanted : wanted = [] := forall₂_nil_right_iff.mp built
    rw [wantedRows] at asked
    split at asked
    · exact nonempty ((some_inj.mp asked).trans none_wanted)
    · obtain ⟨row, -, single⟩ := map_eq_some_iff.mp asked
      rw [none_wanted] at single
      cases single

section

variable (identifies : whereEnv.identifies = true) (result : r.hasResult = true) (bound : r.bound = true)
  (tableName : Text) {start : Nat} {clause : Nat → Text}

include identifies result bound

theorem builtFrom_clauseAt {row : Nat} (inside : row < rows.length)
    (written : r.clauseAt whereEnv rows start row = some (clause row)) :
    BuiltFrom whereEnv tableName (rows.get ⟨row, inside⟩) (deletion tableName clause row) := by
  obtain ⟨result', bound'⟩ :=
    afterRounds_fetched rows identifies result bound start (row - start)
  refine ⟨(r.afterRounds whereEnv rows start (row - start)).moveTo whereEnv rows row, clause row, ?_, written, rfl⟩
  intro i
  have next : rows.drop row = rows.get ⟨row, inside⟩ :: rows.drop (row + 1) :=
    drop_eq_getElem_cons inside
  rw [moveTo, next]
  exact refreshRowPtrs_shows whereEnv.toReadEnv result' bound' _ _ i

theorem forall₂_builtFrom (within : start + count ≤ rows.length)
    (written : ∀ row, r.clauseAt whereEnv rows start row = some (clause row)) :
    List.Forall₂ (BuiltFrom whereEnv tableName) ((rows.drop start).take count)
      ((range' start count).map (deletion tableName clause)) := by
  refine forall₂_iff_get.mpr ⟨?_, ?_⟩
  · rw [length_take, length_drop, length_map, length_range']
    omega
  · intro j lower upper
    have bounded : j < count := by
      rw [length_take] at lower
      omega
    have shown : ((rows.drop start).take count).get ⟨j, lower⟩ = rows.get ⟨start + j, by omega⟩ := by
      rw [get_eq_getElem, getElem_take, getElem_drop]
      rfl
    have text : ((range' start count).map (deletion tableName clause)).get ⟨j, upper⟩ =
        deletion tableName clause (start + j) := by
      rw [get_eq_getElem, getElem_map, getElem_range', Nat.one_mul]
    rw [shown, text]
    exact builtFrom_clauseAt identifies result bound tableName (by omega) (written (start + j))

theorem forall₂_builtFrom_whole (numRows : c.numRows = rows.length)
    (inside : c.position < rows.length) (sized : 1 ≤ c.arraySize) (rows_lt : c.numRows < 2 ^ 64)
    (size_lt : c.arraySize < 2 ^ 64)
    (written : ∀ row, r.clauseAt whereEnv rows c.position row = some (clause row)) :
    List.Forall₂ (BuiltFrom whereEnv tableName) ((rows.drop c.position).take c.arraySize)
        ((attempted env (c.deletedRows 0)).map (deletion tableName clause)) ↔
      (∀ row, c.position ≤ row → row + 1 < min (c.position + c.arraySize) c.numRows →
          (env.delete row).isOk = true) ∧
        (c.position + c.arraySize ≤ c.numRows ∨
          c.position + c.arraySize ≤ 2 ^ 64 ∧ (env.delete (c.numRows - 1)).isOk = false) := by
  obtain ⟨m, m_eq⟩ : ∃ m, m = min c.arraySize (c.numRows - c.position) := ⟨_, rfl⟩
  obtain ⟨count, count_eq⟩ : ∃ count, count =
      min c.numRows ((c.position + c.arraySize - 1) % 2 ^ 64) + 1 - c.position := ⟨_, rfl⟩
  have items : c.deletedRows 0 = range' c.position count := by
    rw [deletedRows, if_pos rfl, if_pos ⟨Nat.ne_of_gt sized, rfl⟩, count_eq]
  obtain ⟨accepted, accepted_eq⟩ : ∃ accepted, accepted =
      ((range' c.position count).takeWhile fun row => (env.delete row).isOk).length := ⟨_, rfl⟩
  have rowset : (rows.drop c.position).take c.arraySize = (rows.drop c.position).take m := by
    rw [m_eq, numRows, ← length_drop, ← take_eq_take_min]
  have exact_iff : List.Forall₂ (BuiltFrom whereEnv tableName) ((rows.drop c.position).take c.arraySize)
      ((attempted env (c.deletedRows 0)).map (deletion tableName clause)) ↔ min (accepted + 1) count = m := by
    rw [items, attempted, ← accepted_eq, take_range', rowset]
    constructor
    · intro built
      have same := built.length_eq
      rw [length_take, length_drop, length_map, length_range'] at same
      omega
    · intro same
      rw [same]
      exact forall₂_builtFrom identifies result bound tableName (by omega) written
  rw [exact_iff]
  rcases Nat.lt_or_ge (2 ^ 64) (c.position + c.arraySize) with wraps | fits
  · have none_tried : count = 0 := by omega
    refine iff_of_false (fun same => by omega) ?_
    rintro ⟨-, full | ⟨fits, -⟩⟩
    · omega
    · omega
  have unwrapped : (c.position + c.arraySize - 1) % 2 ^ 64 = c.position + c.arraySize - 1 :=
    Nat.mod_eq_of_lt (by omega)
  have last : min (c.position + c.arraySize) c.numRows = c.position + m := by omega
  have some_row : 1 ≤ m := by omega
  have most : m ≤ count := by
    rw [unwrapped] at count_eq
    omega
  have all : ∀ j ≤ count, j ≤ accepted ↔
      ∀ row, c.position ≤ row → row < c.position + j → (env.delete row).isOk = true := by
    intro j most
    rw [accepted_eq]
    exact le_length_takeWhile_range' most
  have before : m - 1 ≤ accepted ↔ ∀ row, c.position ≤ row →
      row + 1 < min (c.position + c.arraySize) c.numRows → (env.delete row).isOk = true := by
    rw [last, all (m - 1) (Nat.le_trans (Nat.sub_le m 1) most)]
    refine forall₂_congr fun row lower => ?_
    have same : row < c.position + (m - 1) ↔ row + 1 < c.position + m := by
      clear m_eq count_eq last
      omega
    rw [same]
  rw [← before]
  rcases Nat.lt_or_ge c.numRows (c.position + c.arraySize) with beyond | full
  · have rest : c.numRows = c.position + m := by omega
    have short : count = m + 1 := by
      rw [unwrapped] at count_eq
      omega
    have final : m ≤ accepted ↔ m - 1 ≤ accepted ∧ (env.delete (c.numRows - 1)).isOk = true := by
      rw [all m most, all (m - 1) (Nat.le_trans (Nat.sub_le m 1) most), rest]
      clear m_eq count_eq last
      constructor
      · intro all
        exact ⟨fun row lower upper => all row lower (by omega), all _ (by omega) (by omega)⟩
      · rintro ⟨others, last⟩ row lower upper
        rcases Nat.lt_or_ge (row + 1) (c.position + m) with earlier | latest
        · exact others row lower (by omega)
        · obtain rfl : row = c.position + m - 1 := by omega
          exact last
    have stops : min (accepted + 1) count = m ↔ m - 1 ≤ accepted ∧ ¬ m ≤ accepted := by
      clear m_eq count_eq last
      omega
    have refuses : m - 1 ≤ accepted → (¬ m ≤ accepted ↔ (env.delete (c.numRows - 1)).isOk = false) := by
      intro reached
      rw [final, and_iff_right reached, Bool.not_eq_true]
    rw [stops, or_iff_right (Nat.not_le_of_gt beyond), and_iff_right fits]
    exact and_congr_right refuses
  · have exactly : count = m := by
      rw [unwrapped] at count_eq
      omega
    have stops : min (accepted + 1) count = m ↔ m - 1 ≤ accepted := by
      clear m_eq count_eq last
      omega
    rw [stops]
    exact (and_iff_left (Or.inl full)).symm

theorem asked_single_iff (numRows : c.numRows = rows.length) {rowNumber : Nat}
    (single : rowNumber ≠ 0) {failed : Prop}
    (written : ∀ row, r.clauseAt whereEnv rows start row = some (clause row)) :
    (match wantedRows ((rows.drop c.position).take c.arraySize) rowNumber with
      | some wanted => List.Forall₂ (BuiltFrom whereEnv tableName) wanted
          [deletion tableName clause (c.position + rowNumber - 1)]
      | none => failed ∧ [deletion tableName clause (c.position + rowNumber - 1)] = []) ↔
      c.position + rowNumber ≤ min (c.position + c.arraySize) c.numRows := by
  rw [wantedRows, if_neg single]
  by_cases there : c.position + rowNumber ≤ min (c.position + c.arraySize) c.numRows
  · have row : ((rows.drop c.position).take c.arraySize)[rowNumber - 1]? =
        some (rows.get ⟨c.position + rowNumber - 1, by omega⟩) := by
      rw [getElem?_take_of_lt (by omega), getElem?_drop,
        ← Nat.add_sub_assoc (Nat.one_le_iff_ne_zero.mpr single)]
      exact getElem?_eq_getElem (by omega)
    rw [row, map_some]
    refine iff_of_true (forall₂_cons.mpr ⟨?_, List.Forall₂.nil⟩) there
    exact builtFrom_clauseAt identifies result bound tableName (by omega) (written _)
  · have absent : ((rows.drop c.position).take c.arraySize)[rowNumber - 1]? = none := by
      rw [List.getElem?_eq_none_iff, length_take, length_drop]
      omega
    rw [absent, map_none]
    exact iff_of_false (fun asked => cons_ne_nil _ _ asked.2) there

end

/-- **Deleting through a static cursor.** A call sends the statements it is asked for exactly if it is
`Deletable`. -/
theorem stmtSetPos_delete_iff (isOpen : c.isOpen = true) (cached : env.noCache = false)
    (static : env.dynamic = false) (numRows : c.numRows = rows.length) (inside : c.position < rows.length)
    (sized : 1 ≤ c.arraySize) (rows_lt : c.numRows < 2 ^ 64) (size_lt : c.arraySize < 2 ^ 64)
    (result : r.hasResult = true) (bound : r.bound = true) (rowNumber : Nat) :
    let env' := env.reading whereEnv rows r (c.deleteStart rowNumber)
    DeletesAsAsked whereEnv ((rows.drop c.position).take c.arraySize) rowNumber c
        (c.stmtSetPos env' rowNumber .delete true) ↔
      c.Deletable env whereEnv rowNumber := by
  dsimp only
  generalize start_eq : c.deleteStart rowNumber = start
  have size : ((rows.drop c.position).take c.arraySize).length =
      min c.arraySize (rows.length - c.position) := by
    rw [length_take, length_drop]
  have nonempty : (rows.drop c.position).take c.arraySize ≠ [] :=
    ne_nil_of_length_pos (by rw [size]; omega)
  have called : c.stmtSetPos (env.reading whereEnv rows r start) rowNumber .delete true =
      c.setDelete (env.reading whereEnv rows r start) rowNumber := by
    have cached' : (env.reading whereEnv rows r start).noCache = false := cached
    rw [stmtSetPos, isOpen, cached']
    rfl
  have static' : (env.reading whereEnv rows r start).dynamic = false := static
  have last : c.position + min c.arraySize (rows.length - c.position) =
      min (c.position + c.arraySize) c.numRows := by omega
  rw [called]
  by_cases updatable : c.Updatable whereEnv
  · obtain ⟨known, identifies⟩ := updatable
    obtain ⟨tableName, named⟩ := isSome_iff_exists.mp known
    have table : c.getTableName = (some tableName, c.getTableName.2) := Prod.ext named rfl
    rw [Deletable]
    rcases Nat.lt_or_ge c.numRows rowNumber with outside | within
    · obtain ⟨sent, failed⟩ := setDelete_outside static' table outside
      rw [deletesAsAsked_of_failed nonempty sent failed, size, if_neg (by omega), if_neg (by omega)]
      exact iff_of_true ⟨by omega, by omega⟩ (Or.inl outside)
    · have texts : ∀ row, ∃ clause, r.clauseAt whereEnv rows start row = some clause :=
        clauseAt_isSome identifies result bound start
      choose clause written using texts
      have sent : (c.setDelete (env.reading whereEnv rows r start) rowNumber).2.deleted =
          c.deleted ++ (attempted env (c.deletedRows rowNumber)).map (deletion tableName clause) := by
        rw [setDelete_deleted static' table within, forEach_deleteRow tableName fun row _ => written row]
        rfl
      have name : c.getTableName.1.getD [] = tableName := by rw [named, getD_some]
      rw [deletesAsAsked_of_sent sent, name]
      by_cases whole : rowNumber = 0
      · subst whole
        obtain rfl : c.position = start := start_eq
        rw [if_pos rfl]
        refine (forall₂_builtFrom_whole identifies result bound tableName numRows inside sized rows_lt size_lt
          written).trans ?_
        exact (and_iff_right ⟨known, identifies⟩).symm
      · have single : c.deletedRows rowNumber = [c.position + rowNumber - 1] := by
          rw [deletedRows, if_neg whole, if_neg fun all => whole all.2, Nat.add_sub_cancel_left]
          rfl
        have tried : attempted env [c.position + rowNumber - 1] = [c.position + rowNumber - 1] :=
          take_of_length_le (Nat.le_add_left 1 _)
        rw [single, tried, map_singleton, if_neg whole]
        refine (asked_single_iff identifies result bound tableName numRows whole written).trans ?_
        by_cases there : c.position + rowNumber ≤ min (c.position + c.arraySize) c.numRows
        · rw [if_pos there]
          exact iff_of_true there ⟨known, identifies⟩
        · rw [if_neg there]
          refine iff_of_false there ?_
          rintro (outside | refused)
          · omega
          · exact refused ⟨known, identifies⟩
  · have cannot : c.getTableName.1 = none ∨ ∀ row, (env.reading whereEnv rows r start).whereClause row = none := by
      rcases Bool.eq_false_or_eq_true whereEnv.identifies with identifies | unidentified
      · refine Or.inl (not_isSome_iff_eq_none.mp fun known => updatable ⟨known, identifies⟩)
      · exact Or.inr fun row => clauseAt_none unidentified start row
    obtain ⟨sent, refused⟩ := setDelete_refused static' cannot
    rw [Deletable]
    by_cases whole : rowNumber = 0
    · rw [deletesAsAsked_of_sent (sent.trans (append_nil _).symm), wantedRows, if_pos whole, if_pos whole]
      exact iff_of_false (fun built => nonempty (forall₂_nil_right_iff.mp built)) fun all => updatable all.1
    · have some_row : c.deletedRows rowNumber ≠ [] := by
        rw [deletedRows, if_neg whole, if_neg fun all => whole all.2, Nat.add_sub_cancel_left]
        exact cons_ne_nil _ _
      rw [deletesAsAsked_of_failed nonempty sent (refused some_row), size, if_neg whole]
      by_cases there : c.position + rowNumber ≤ min (c.position + c.arraySize) c.numRows
      · rw [if_pos there]
        exact iff_of_false (fun single => by omega) updatable
      · rw [if_neg there]
        exact iff_of_true ⟨whole, by omega⟩ (Or.inr updatable)

/-- A cursor of one column, and a condition on it, for two rows. -/
def twoRows (arraySize : Nat) : Cursor :=
  { fields := [⟨some (lit "t"), lit "d", lit "a"⟩], isOpen := true, numRows := 2, arraySize := arraySize }

@[inherit_doc twoRows]
def twoRowsWhere : WhereEnv :=
  { columns := [⟨lit "a", true, false⟩], primaryKeyCount := 1, escaping := backslashEscaping }

theorem stmtSetPos_delete_full :
    let rows : List Row := [[some (lit "x")], [some (lit "y")]]
    let r : RowReader := { hasResult := true, bound := true }
    let env' := CursorEnv.reading {} twoRowsWhere rows r 0
    DeletesAsAsked twoRowsWhere rows 0 (twoRows 2) ((twoRows 2).stmtSetPos env' 0 .delete true) := by
  intro rows r env'
  have deletable : (twoRows 2).Deletable {} twoRowsWhere 0 :=
    ⟨⟨by decide, by decide⟩, fun _ _ _ => rfl, Or.inl (by decide)⟩
  have asked := @stmtSetPos_delete_iff {} (twoRows 2) twoRowsWhere rows r rfl rfl rfl rfl (by decide) (by decide)
    (by decide) (by decide) rfl rfl 0
  exact asked.mpr deletable

/-- A rowset of three rows, with two left: a third `DELETE` is sent. -/
theorem stmtSetPos_delete_beyond :
    let rows : List Row := [[some (lit "x")], [some (lit "y")]]
    let r : RowReader := { hasResult := true, bound := true }
    let env' := CursorEnv.reading {} twoRowsWhere rows r 0
    ¬ DeletesAsAsked twoRowsWhere ((rows.drop 0).take 3) 0 (twoRows 3)
        ((twoRows 3).stmtSetPos env' 0 .delete true) ∧
      ((twoRows 3).stmtSetPos env' 0 .delete true).2.deleted =
        [lit "DELETE FROM `t` WHERE 1 AND `a`= 'x' LIMIT 1",
          lit "DELETE FROM `t` WHERE 1 AND `a`= 'y' LIMIT 1",
          lit "DELETE FROM `t` WHERE 1 AND `a`= '' LIMIT 1"] := by
  intro rows r env'
  have sent : ((twoRows 3).stmtSetPos env' 0 .delete true).2.deleted =
      [lit "DELETE FROM `t` WHERE 1 AND `a`= 'x' LIMIT 1",
        lit "DELETE FROM `t` WHERE 1 AND `a`= 'y' LIMIT 1",
        lit "DELETE FROM `t` WHERE 1 AND `a`= '' LIMIT 1"] := by
    decide +kernel
  refine ⟨?_, sent⟩
  rintro ⟨texts, added, built⟩
  have length := built.length_eq
  rw [sent] at added
  have same : texts.length = 3 := (congrArg List.length added).symm
  rw [same] at length
  cases length

end Cursor

end MaOdbc
