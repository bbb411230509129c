/-
**The size of the rowset behind `MADB_StmtSetPos`.**

`SQL_DELETE` sets `ArraySize` of the row descriptor to 1 while it works, and gives it its old value back
behind its loop. Whatever leaves the function before that leaves the size at 1.

* `forEach_deleteRow_size`: the loop runs to its end exactly if every row can be described and deleted.
* `stmtSetPos_size_iff`: which calls keep the size of the rowset.
-/

import MaOdbc.Cursor.Rowset
import MaOdbc.Cursor.SetPos

namespace MaOdbc

namespace Cursor

variable (env : CursorEnv) (c : Cursor)

/-- Fetching with the row descriptor as the call leaves it brings rowsets of some size. -/
def FetchesRowsetsOf (size : Nat) : Prop :=
  ∀ (env : FetchEnv) (rows : List Row) (start : Nat) (rowCursor : RowCursor),
    env.Clean rows → env.noCache = false → rowCursor.numRows = rows.length → rowCursor.position = start →
    rowCursor.resultCursor = rows.drop start → start < rows.length → start + size < 2 ^ 64 → 1 ≤ size →
    rowCursor.arraySize = c.arraySize →
    (rowCursor.stmtFetch env).1 = .success ∧
      RowCursor.Brings env ((rows.drop start).take size) rowCursor (rowCursor.stmtFetch env).2

/-- The row descriptor keeps its size, and so do the rowsets that are fetched later. -/
def KeepsRowsetSize (c' : Cursor) : Prop := c'.arraySize = c.arraySize ∧ c'.FetchesRowsetsOf c.arraySize

/-- The position at which `SQL_DELETE` starts to count: that of a dynamic cursor is put back into the result
that the statement opens when it is executed once more. -/
def refreshedPosition : Nat :=
  if env.dynamic = true ∧ 0 < c.position ∧ env.reopened.numRows ≤ c.position then env.reopened.numRows - 1
  else c.position

/-- `SQL_DELETE` runs to its end: a dynamic cursor can be executed once more, the row number is not larger
than the number of rows, and every row can be described and deleted. -/
def DeletesAll (rowNumber : Nat) : Prop :=
  (env.dynamic = true → env.refreshError = none) ∧ rowNumber ≤ c.numRows ∧
    ∀ row ∈ { c with position := c.refreshedPosition env }.deletedRows rowNumber,
      (env.whereClause row).isSome = true ∧ (env.delete row).isOk = true

/-- The call is one of `SQL_DELETE` that gets as far as to set `ArraySize`. -/
def ReachesDelete (operation : SetPosOperation) (lockNoChange : Bool) : Prop :=
  c.isOpen = true ∧ env.noCache = false ∧ lockNoChange = true ∧ operation = .delete ∧
    c.getTableName.1.isSome = true

/-- A call that does not lose the size of the rowset: there is nothing to lose, or `SQL_DELETE` is not
reached or runs to its end. -/
def SizeSafe (rowNumber : Nat) (operation : SetPosOperation) (lockNoChange : Bool) : Prop :=
  c.arraySize = 1 ∨ (c.ReachesDelete env operation lockNoChange → c.DeletesAll env rowNumber)

variable {env c}

theorem keepsRowsetSize_iff {c' : Cursor} : c.KeepsRowsetSize c' ↔ c'.arraySize = c.arraySize := by
  refine ⟨And.left, fun same => ⟨same, ?_⟩⟩
  intro env rows start rowCursor clean cached numRows position cursor inside small sized size
  have sized' : 1 ≤ rowCursor.arraySize := by rwa [size, same]
  have small' : start + rowCursor.arraySize < 2 ^ 64 := by rwa [size, same]
  obtain ⟨success, shows⟩ :=
    RowCursor.stmtFetch_cached clean cached numRows position cursor inside sized' small'
  have brings := shows.brings
  rw [size, same] at brings
  exact ⟨success, brings⟩

theorem forEach_deleteRow_size (env : CursorEnv) (tableName : Text) (items : List Nat) (c : Cursor) :
    ((∀ row ∈ items, (env.whereClause row).isSome = true ∧ (env.delete row).isOk = true) ∧
        ∃ c', forEach (deleteRow env tableName) items c = .next c') ∨
      ((¬ ∀ row ∈ items, (env.whereClause row).isSome = true ∧ (env.delete row).isOk = true) ∧
        ∃ returned, forEach (deleteRow env tableName) items c = .leave returned ∧
          returned.2.arraySize = c.arraySize) := by
  induction items generalizing c with
  | nil => exact Or.inl ⟨fun row member => absurd member List.not_mem_nil, c, rfl⟩
  | cons row items ih =>
    rw [forEach_cons, deleteRow, List.forall_mem_cons]
    cases clause : env.whereClause row with
    | none => exact Or.inr ⟨fun all => Bool.noConfusion all.1.1, _, rfl, rfl⟩
    | some text =>
      cases answer : env.delete row with
      | error native => exact Or.inr ⟨fun all => Bool.noConfusion all.1.2, _, rfl, rfl⟩
      | ok count =>
        rcases ih _ with ⟨all, c', ends⟩ | ⟨failed, returned, leaves, size⟩
        · exact Or.inl ⟨⟨⟨rfl, rfl⟩, all⟩, c', ends⟩
        · exact Or.inr ⟨fun all => failed all.2, returned, leaves, size⟩

theorem refreshed_cases (env : CursorEnv) (c : Cursor) :
    (¬ (env.dynamic = true → env.refreshError = none) ∧
        ∃ returned, c.refreshed env = .error returned ∧ returned.2.arraySize = c.arraySize) ∨
      ((env.dynamic = true → env.refreshError = none) ∧
        ∃ c', c.refreshed env = .ok c' ∧ c'.arraySize = c.arraySize ∧
          c'.position = c.refreshedPosition env) := by
  rcases refreshed_eq env c with ⟨failed, leaves⟩ | ⟨fine, goes⟩
  · exact Or.inl ⟨failed, _, leaves, rfl⟩
  · refine Or.inr ⟨fine, _, goes, ?_⟩
    rw [refreshedPosition]
    cases env.dynamic with
    | false => exact ⟨rfl, (if_neg fun moved => Bool.noConfusion moved.1).symm⟩
    | true =>
      simp only [true_and]
      exact ⟨rfl, rfl⟩

theorem setDelete_size {tableName : Text} (table : c.getTableName.1 = some tableName) (rowNumber : Nat) :
    (c.DeletesAll env rowNumber ∧ (c.setDelete env rowNumber).2.arraySize = c.arraySize) ∨
      (¬ c.DeletesAll env rowNumber ∧ (c.setDelete env rowNumber).2.arraySize = 1) := by
  have named : c.getTableName = (some tableName, c.getTableName.2) := Prod.ext table rfl
  rw [setDelete, named]
  dsimp only
  rcases refreshed_cases env { c.getTableName.2 with arraySize := 1 } with
    ⟨failed, returned, leaves, size⟩ | ⟨fine, c', goes, size, position⟩
  · rw [leaves]
    exact Or.inr ⟨fun all => failed all.1, size⟩
  · rw [goes]
    dsimp only
    rcases Nat.lt_or_ge c.numRows rowNumber with outside | within
    · rw [if_pos outside]
      exact Or.inr ⟨fun all => Nat.not_le_of_gt outside all.2.1, size⟩
    · have rows : ({ c' with affectedRows := 0, arraySize := c.getTableName.2.arraySize, numRows := c.numRows } :
          Cursor).deletedRows rowNumber = { c with position := c.refreshedPosition env }.deletedRows rowNumber := by
        have start : c'.position = c.refreshedPosition env := position
        rw [deletedRows, start]
        rfl
      rw [if_neg (Nat.not_lt_of_ge within), rows]
      rcases forEach_deleteRow_size env tableName
          ({ c with position := c.refreshedPosition env }.deletedRows rowNumber)
          { c' with affectedRows := 0 } with ⟨all, c'', ends⟩ | ⟨failed, returned, leaves, kept⟩
      · rw [ends]
        refine Or.inl ⟨⟨fine, within, all⟩, ?_⟩
        rw [apply_ite arraySize, ite_self]
        rfl
      · rw [leaves]
        exact Or.inr ⟨fun all => failed all.2.2, kept.trans size⟩

theorem setPosition_size (rowNumber : Nat) : (c.setPosition env rowNumber).2.arraySize = c.arraySize := by
  rw [setPosition]
  split
  · rfl
  · rcases refreshed_cases env c with ⟨-, returned, leaves, size⟩ | ⟨-, c', goes, size, -⟩
    · rw [leaves]
      exact size
    · rw [goes]
      exact size

theorem setAdd_size (rowNumber : Nat) : (c.setAdd env rowNumber).2.arraySize = c.arraySize := by
  obtain ⟨c', reached, -, -, -, size, -⟩ := setAdd_reaches env c rowNumber
  exact size.trans reached.kept.2

theorem stmtSetPos_size_elsewhere {operation : SetPosOperation} {lockNoChange : Bool}
    (elsewhere : ¬ c.ReachesDelete env operation lockNoChange) (rowNumber : Nat) :
    (c.stmtSetPos env rowNumber operation lockNoChange).2.arraySize = c.arraySize := by
  unfold stmtSetPos
  split
  · rfl
  · rename_i isOpen
    split
    · rfl
    · rename_i cached
      split
      · rfl
      · rename_i locked
        cases operation with
        | position => exact setPosition_size rowNumber
        | add => exact setAdd_size rowNumber
        | other => rfl
        | delete =>
          cases named : c.getTableName.1 with
          | none =>
            have table : c.getTableName = (none, c.getTableName.2) := Prod.ext named rfl
            show (c.setDelete env rowNumber).2.arraySize = c.arraySize
            rw [setDelete, table]
            rfl
          | some tableName =>
            refine absurd ⟨?_, Bool.eq_false_of_not_eq_true cached, ?_, rfl, ?_⟩ elsewhere
            · exact Bool.of_not_eq_false fun closed => isOpen (by rw [closed]; rfl)
            · exact Bool.of_not_eq_false fun other => locked (by rw [other]; rfl)
            · rw [named]
              rfl

/-- **The size of the rowset** is kept exactly if the call is safe for it. -/
theorem stmtSetPos_size_iff (env : CursorEnv) (c : Cursor) (rowNumber : Nat) (operation : SetPosOperation)
    (lockNoChange : Bool) :
    c.KeepsRowsetSize (c.stmtSetPos env rowNumber operation lockNoChange).2 ↔
      c.SizeSafe env rowNumber operation lockNoChange := by
  rw [keepsRowsetSize_iff, SizeSafe]
  by_cases reaches : c.ReachesDelete env operation lockNoChange
  · obtain ⟨isOpen, cached, rfl, rfl, known⟩ := reaches
    obtain ⟨tableName, named⟩ := Option.isSome_iff_exists.mp known
    have called : c.stmtSetPos env rowNumber .delete true = c.setDelete env rowNumber := by
      rw [stmtSetPos, isOpen, cached]
      rfl
    rw [called]
    rcases setDelete_size named rowNumber with ⟨all, kept⟩ | ⟨stopped, one⟩
    · exact iff_of_true kept (Or.inr fun _ => all)
    · rw [one]
      refine ⟨fun same => Or.inl same.symm, ?_⟩
      rintro (same | all)
      · exact same.symm
      · exact absurd (all ⟨isOpen, cached, rfl, rfl, known⟩) stopped
  · refine iff_of_true (stmtSetPos_size_elsewhere reaches rowNumber) ?_
    exact Or.inr fun reached => absurd reached reaches

/-- The server refuses the first `DELETE`: a rowset of three rows is one of one row from then on. -/
theorem stmtSetPos_size_lost :
    let c : Cursor :=
      { fields := [⟨some (lit "t"), lit "d", lit "a"⟩], isOpen := true, numRows := 3, arraySize := 3 }
    let env : CursorEnv := { delete := fun _ => .error { errno := 1142 } }
    ¬ c.KeepsRowsetSize (c.stmtSetPos env 0 .delete true).2 ∧
      (c.stmtSetPos env 0 .delete true).2.arraySize = 1 := by
  intro c env
  have one : (c.stmtSetPos env 0 .delete true).2.arraySize = 1 := by decide +kernel
  refine ⟨fun kept => ?_, one⟩
  have same := kept.1
  rw [one] at same
  cases same

end Cursor

end MaOdbc
