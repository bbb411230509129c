/-
**Adding rows whose data is given at execution.**

`SQL_ADD` prepares an `INSERT` on a handle of its own, `Stmt->DaeStmt`, and `DataExecutionType` says that it
is under way. If a column has its data at execution, `MADB_StmtParamData` asks for one column after another,
counting in `PutParam`, and executes the `INSERT` when there is none left. Only an `SQL_ADD` that executes its
`INSERT` itself says that it is over.

* `setAdd_agrees`: the handle does to the cursor what `Cursor.setAdd` does.
* `setAdd_cases`: where a call ends, and what it leaves of the insertion.
* `asked_eq`: what the calls of `MADB_StmtParamData` ask for.
* `insertsAnew_of_settled`: behind an insertion that is over, the next one starts from the beginning.
* `everySettling_iff`: the histories in which every insertion that has ended is over.
-/

import MaOdbc.Cursor.SetPos

namespace MaOdbc

open List Cursor Option

/-- `Stmt->DaeStmt`: the number of its parameters, and the columns whose buffers they are bound to. -/
structure InsertStmt where
  paramCount : Nat := 0
  columns : List Nat := []
  deriving DecidableEq, Repr

/-- The statement handle, as far as data at execution goes. `DataExecutionType` is part of the cursor. -/
structure AddHandle where
  cursor : Cursor := {}
  paramCount : Nat := 0
  putParam : Int := -1
  /-- Nothing where it is `NULL`, and where it was dropped. -/
  daeStmt : Option InsertStmt := none
  deriving DecidableEq, Repr

/-- What `MADB_StmtParamData` depends on besides the handle. -/
structure ParamDataEnv where
  /-- `PARAM_IS_DAE` for a parameter of the statement. -/
  paramIsDae : Nat → Bool := fun _ => false
  /-- `PARAM_IS_DAE` for the length of a column in a row. -/
  columnIsDae : Nat → Nat → Bool := fun _ _ => false
  /-- How the execution ends when all data is there. -/
  execute : SqlReturn × Diag := (.success, {})

def Cursor.insertColumns (env : CursorEnv) (c : Cursor) : List Nat :=
  (List.range c.fields.length).filter env.bound

namespace AddHandle

variable (env : CursorEnv) (h : AddHandle)

/-- The statement of an insertion, unless one is under way. Its text has a parameter mark for each column.
A handle that could not be prepared is dropped. -/
def prepareInsert (catalogName tableName : Text) : Except (SqlReturn × AddHandle) AddHandle :=
  match h.cursor.prepareInsert env catalogName tableName with
  | .error (ret, c) => .error (ret, { h with cursor := c, daeStmt := if c.daeAdd then none else some {} })
  | .ok c =>
    .ok { h with
      cursor := c
      daeStmt := if h.cursor.daeAdd then h.daeStmt else some { paramCount := (c.insertColumns env).length } }

/-- The parameters of the insertion are bound to the buffers of the columns. -/
def bindColumns : AddHandle :=
  let columns := h.cursor.insertColumns env
  { h with
    daeStmt := h.daeStmt.map fun insert =>
      { insert with columns := columns ++ insert.columns.drop columns.length } }

/-- The end of `SQL_ADD`: the columns are bound, and the `INSERT` is executed. -/
def executeInsert : SqlReturn × AddHandle :=
  let h := h.bindColumns env
  match env.execute with
  | .error (ret, error) => (ret, { h with cursor := { h.cursor with error := error } })
  | .ok rows =>
    let affected := if h.cursor.affectedRows = -1 then 0 else h.cursor.affectedRows
    (.success,
      { h with
        cursor := { h.cursor with affectedRows := affected + rows, daeAdd := false }
        daeStmt := none })

/-- `SQL_ADD`. -/
def setAdd (rowNumber : Nat) : SqlReturn × AddHandle :=
  match h.cursor.getTableName with
  | (tableName, c) =>
    match c.getCatalogName with
    | (catalogName, c) =>
      match c.refreshed env with
      | .error (ret, c) => (ret, { h with cursor := c })
      | .ok c =>
        let h := { h with cursor := { c with daeRowNumber := rowNumber } }
        match h.prepareInsert env (catalogName.getD []) (tableName.getD []) with
        | .error returned => returned
        | .ok h => h.executeInsert env

/-- `MADB_StmtSetPos`. -/
def setPos (rowNumber : Nat) (operation : SetPosOperation) (lockNoChange : Bool) : SqlReturn × AddHandle :=
  if h.cursor.isOpen && !env.noCache && lockNoChange && operation == .add then h.setAdd env rowNumber
  else
    match h.cursor.stmtSetPos env rowNumber operation lockNoChange with
    | (ret, c) => (ret, { h with cursor := c })

section ParamData

variable (env : ParamDataEnv)

def daeRow : Nat := if 1 < h.cursor.daeRowNumber then h.cursor.daeRowNumber - 1 else 0

/-- The number of parameters that `MADB_StmtParamData` goes through. -/
def daeCount : Nat := if h.cursor.daeAdd then (h.daeStmt.getD {}).paramCount else h.paramCount

def isDae (i : Nat) : Bool :=
  if h.cursor.daeAdd then ((h.daeStmt.getD {}).columns[i]?).any (env.columnIsDae · h.daeRow)
  else env.paramIsDae i

def nextDae : Option Nat :=
  let start := if -1 < h.putParam then (h.putParam + 1).toNat else 0
  (List.range' start (h.daeCount - start)).find? (h.isDae env)

/-- `MADB_StmtParamData`. -/
def paramData : SqlReturn × AddHandle :=
  if h.daeCount = 0 then
    let (ret, c) := h.cursor.setError .errHY010 none 0
    (ret, { h with cursor := c })
  else
    match h.nextDae env with
    | some i => (.needData, { h with putParam := i })
    | none =>
      let (ret, error) := env.execute
      -- `MARK_DAE_DONE`, and `RESET_DAE_STATUS` only of the handle that was executed
      (ret,
        { h with
          cursor := { h.cursor with error := error }
          putParam := if h.cursor.daeAdd then h.paramCount else -1 })

/-- The column whose data a call asks for while an insertion is under way. -/
def asksFor : Option Nat :=
  if h.cursor.daeAdd then (h.nextDae env).bind ((h.daeStmt.getD {}).columns[·]?) else none

def asked : Nat → AddHandle → List Nat
  | 0, _ => []
  | calls + 1, h =>
    match h.asksFor env with
    | some column => column :: asked calls (h.paramData env).2
    | none => []

end ParamData

/-! ### Histories -/

end AddHandle

/-- Calls on a statement. Those that are not told apart leave `DataExecutionType` and `DaeStmt` alone; they
may give the cursor another state and the statement other parameters, and some of them reset `PutParam`. -/
inductive AddCall
  | setPos (env : CursorEnv) (rowNumber : Nat) (operation : SetPosOperation) (lockNoChange : Bool)
  | paramData (env : ParamDataEnv)
  | other (change : Cursor → Cursor) (paramCount : Nat) (reset : Bool)

namespace AddHandle

variable (env : CursorEnv) (h : AddHandle)

def after : AddCall → AddHandle
  | .setPos env rowNumber operation lockNoChange => (h.setPos env rowNumber operation lockNoChange).2
  | .paramData env => (h.paramData env).2
  | .other change paramCount reset =>
    { h with
      cursor := { change h.cursor with daeAdd := h.cursor.daeAdd }
      paramCount := paramCount
      putParam := if reset then -1 else h.putParam }

/-- The calls behind which an insertion has ended: an `SQL_ADD` that returns anything but `SQL_NEED_DATA`, and
the `MADB_StmtParamData` that finds no column left to ask for. -/
def Settles : AddCall → Prop
  | .setPos env rowNumber operation lockNoChange =>
    operation = .add ∧ (h.setPos env rowNumber operation lockNoChange).1 ≠ .needData
  | .paramData env => h.cursor.daeAdd = true ∧ h.daeCount ≠ 0 ∧ h.nextDae env = none
  | .other _ _ _ => False

/-- `DataExecutionType` is `MADB_DAE_NORMAL`, and `PutParam` is -1. -/
def Settled : Prop := h.cursor.daeAdd = false ∧ h.putParam = -1

/-- The text of the `INSERT` for the columns that are bound and not ignored. The names are looked up before
a dynamic cursor is refreshed. -/
def insertText : Text :=
  let fields := if env.dynamic then env.reopened.fields else h.cursor.fields
  lit "INSERT INTO " ++ quoted (h.cursor.getTableName.2.getCatalogName.1.getD []) ++ lit "." ++
    quoted (h.cursor.getTableName.1.getD []) ++ { h.cursor with fields := fields }.insertSet env

/-- A call of `SQL_ADD` that gets as far as the `INSERT`. -/
def ReachesInsert (lockNoChange : Bool) : Prop :=
  h.cursor.isOpen = true ∧ env.noCache = false ∧ lockNoChange = true ∧
    (env.dynamic = true → env.refreshError = none) ∧ (h.cursor.daeAdd = true ∨ env.allocInsert = true)

/-- The next `SQL_ADD` that gets as far as the `INSERT` prepares one for the columns bound then, and if it
needs data, each of these columns with data at execution is asked for, in their order. -/
def InsertsAnew : Prop :=
  ∀ (env : CursorEnv) (rowNumber : Nat), h.ReachesInsert env true →
    let fields := if env.dynamic then env.reopened.fields else h.cursor.fields
    let added := h.setPos env rowNumber .add true
    added.2.cursor.trace = h.cursor.trace ++ [.inserts (h.insertText env) fields] ∧
      ∀ error, env.prepareError = none → env.execute = .error (.needData, error) →
        added.1 = .needData ∧
          ∀ (data : ParamDataEnv) (calls : Nat), fields.length ≤ calls →
            added.2.asked data calls =
              ((List.range fields.length).filter env.bound).filter (data.columnIsDae · added.2.daeRow)

/-- What is asked of the calls behind which an insertion has ended. -/
def LeavesSettled (call : AddCall) : Prop := (h.after call).Settled ∧ (h.after call).InsertsAnew

/-- `PutParam` is -1 before an `SQL_ADD`, and its `INSERT` is prepared and executed without a failure, or is
not reached, with `DataExecutionType` still `MADB_DAE_NORMAL`. Nothing of the kind helps
`MADB_StmtParamData`. -/
def EndsSettled : AddCall → Prop
  | .setPos env _ _ lockNoChange =>
    h.putParam = -1 ∧
      ((h.ReachesInsert env lockNoChange ∧ (h.cursor.daeAdd = true ∨ env.prepareError = none) ∧
          env.execute.isOk = true) ∨
        (¬ h.ReachesInsert env lockNoChange ∧ h.cursor.daeAdd = false))
  | .paramData _ => False
  | .other _ _ _ => True

/-- A property of every call of a history behind which an insertion has ended, and of the handle before it. -/
def EverySettling (property : AddHandle → AddCall → Prop) : AddHandle → List AddCall → Prop
  | _, [] => True
  | h, call :: calls => (h.Settles call → property h call) ∧ EverySettling property (h.after call) calls

/-! ### What `SQL_ADD` does -/

variable {env h}

theorem setAdd_agrees (env : CursorEnv) (h : AddHandle) (rowNumber : Nat) :
    (h.setAdd env rowNumber).1 = (h.cursor.setAdd env rowNumber).1 ∧
      (h.setAdd env rowNumber).2.cursor = (h.cursor.setAdd env rowNumber).2 := by
  rw [setAdd, Cursor.setAdd]
  cases h.cursor.getTableName with
  | mk tableName c =>
    dsimp only
    cases c.getCatalogName with
    | mk catalogName c =>
      dsimp only
      cases c.refreshed env with
      | error returned => exact ⟨rfl, rfl⟩
      | ok c =>
        dsimp only
        rw [prepareInsert]
        cases Cursor.prepareInsert env { c with daeRowNumber := rowNumber } (catalogName.getD [])
            (tableName.getD []) with
        | error returned => exact ⟨rfl, rfl⟩
        | ok c =>
          dsimp only
          rw [executeInsert]
          cases env.execute with
          | error | ok => exact ⟨rfl, rfl⟩

theorem setPos_agrees (env : CursorEnv) (h : AddHandle) (rowNumber : Nat) (operation : SetPosOperation)
    (lockNoChange : Bool) :
    (h.setPos env rowNumber operation lockNoChange).1 =
        (h.cursor.stmtSetPos env rowNumber operation lockNoChange).1 ∧
      (h.setPos env rowNumber operation lockNoChange).2.cursor =
        (h.cursor.stmtSetPos env rowNumber operation lockNoChange).2 := by
  rw [setPos]
  split
  · rename_i reaches
    simp only [Bool.and_eq_true, beq_iff_eq, Bool.not_eq_true'] at reaches
    obtain ⟨⟨⟨isOpen, cached⟩, locked⟩, rfl⟩ := reaches
    have called : h.cursor.stmtSetPos env rowNumber .add lockNoChange = h.cursor.setAdd env rowNumber := by
      rw [stmtSetPos, isOpen, cached, locked]
      rfl
    rw [called]
    exact setAdd_agrees env h rowNumber
  · exact ⟨rfl, rfl⟩

theorem setAdd_refused (failed : ¬ (env.dynamic = true → env.refreshError = none)) (rowNumber : Nat) :
    ∃ c : Cursor, h.setAdd env rowNumber = (c.error.returnValue, { h with cursor := c }) ∧
      c.daeAdd = h.cursor.daeAdd := by
  rcases refreshed_eq env h.cursor.getTableName.2.getCatalogName.2 with ⟨-, leaves⟩ | ⟨fine, -⟩
  · refine ⟨h.cursor.getTableName.2.getCatalogName.2.refreshDynamicCursor env, ?_, rfl⟩
    rw [setAdd]
    dsimp only
    rw [leaves]
  · exact absurd fine failed

theorem setAdd_begins (fine : env.dynamic = true → env.refreshError = none) (h : AddHandle) (rowNumber : Nat) :
    ∃ c : Cursor, c.daeAdd = h.cursor.daeAdd ∧ c.trace = h.cursor.trace ∧
      c.fields = (if env.dynamic then env.reopened.fields else h.cursor.fields) ∧
      h.setAdd env rowNumber =
        match { h with cursor := c }.prepareInsert env
          (h.cursor.getTableName.2.getCatalogName.1.getD []) (h.cursor.getTableName.1.getD []) with
        | .error returned => returned
        | .ok h => h.executeInsert env := by
  rcases refreshed_eq env h.cursor.getTableName.2.getCatalogName.2 with ⟨failed, -⟩ | ⟨-, goes⟩
  · exact absurd fine failed
  · obtain ⟨c, refreshed⟩ : ∃ c, c = if env.dynamic then
        h.cursor.getTableName.2.getCatalogName.2.refreshDynamicCursor env
      else h.cursor.getTableName.2.getCatalogName.2 := ⟨_, rfl⟩
    refine ⟨{ c with daeRowNumber := rowNumber }, ?_, ?_, ?_, ?_⟩
    · rw [refreshed, apply_ite daeAdd]
      exact ite_self _
    · rw [refreshed, apply_ite trace]
      exact ite_self _
    · rw [refreshed, apply_ite fields]
      rfl
    · rw [setAdd]
      dsimp only
      rw [goes, refreshed]

theorem prepareInsert_cases (env : CursorEnv) (h : AddHandle) (catalogName tableName : Text) :
    (h.cursor.daeAdd = true ∧ h.prepareInsert env catalogName tableName = .ok h) ∨
      (h.cursor.daeAdd = false ∧ env.allocInsert = false ∧
        ∃ ret h', h.prepareInsert env catalogName tableName = .error (ret, h') ∧
          h'.cursor.daeAdd = false ∧ h'.putParam = h.putParam) ∨
      (h.cursor.daeAdd = false ∧ env.allocInsert = true ∧
        ∃ c : Cursor, c.daeAdd = true ∧ c.fields = h.cursor.fields ∧
          c.trace = h.cursor.trace ++
            [.inserts (lit "INSERT INTO " ++ quoted catalogName ++ lit "." ++ quoted tableName ++
              h.cursor.insertSet env) h.cursor.fields] ∧
          ((∃ error ret, env.prepareError = some error ∧
              h.prepareInsert env catalogName tableName = .error (ret, { h with cursor := c, daeStmt := none })) ∨
            (env.prepareError = none ∧
              h.prepareInsert env catalogName tableName =
                .ok { h with
                  cursor := c
                  daeStmt := some { paramCount := (c.insertColumns env).length } }))) := by
  rw [prepareInsert, Cursor.prepareInsert]
  cases underWay : h.cursor.daeAdd with
  | true => exact Or.inl ⟨rfl, rfl⟩
  | false =>
    refine Or.inr ?_
    cases env.allocInsert with
    | false => exact Or.inl ⟨rfl, rfl, _, _, rfl, underWay, rfl⟩
    | true =>
      refine Or.inr ⟨rfl, rfl, ?_⟩
      cases env.prepareError with
      | some error =>
        exact ⟨{ h.cursor.emit (.inserts _ h.cursor.fields) with daeAdd := true, error := error },
          rfl, rfl, rfl, Or.inl ⟨error, _, rfl, rfl⟩⟩
      | none =>
        exact ⟨{ h.cursor.emit (.inserts _ h.cursor.fields) with daeAdd := true },
          rfl, rfl, rfl, Or.inr ⟨rfl, rfl⟩⟩

theorem executeInsert_ends (env : CursorEnv) (underWay : h.cursor.daeAdd = true) :
    (h.executeInsert env).2.putParam = h.putParam ∧ (h.executeInsert env).2.cursor.trace = h.cursor.trace ∧
      ((h.executeInsert env).2.cursor.daeAdd = false ↔ env.execute.isOk = true) := by
  rw [executeInsert]
  cases env.execute with
  | error failed =>
    refine ⟨rfl, rfl, iff_of_false (fun idle => ?_) Bool.false_ne_true⟩
    exact Bool.noConfusion (underWay.symm.trans idle)
  | ok rows => exact ⟨rfl, rfl, iff_of_true rfl rfl⟩

theorem setAdd_cases (env : CursorEnv) (h : AddHandle) (rowNumber : Nat) :
    (h.setAdd env rowNumber).2.putParam = h.putParam ∧
      ((h.setAdd env rowNumber).2.cursor.daeAdd = false ↔
        (((env.dynamic = true → env.refreshError = none) ∧
              (h.cursor.daeAdd = true ∨ env.allocInsert = true)) ∧
            (h.cursor.daeAdd = true ∨ env.prepareError = none) ∧ env.execute.isOk = true) ∨
          (¬ ((env.dynamic = true → env.refreshError = none) ∧
              (h.cursor.daeAdd = true ∨ env.allocInsert = true)) ∧ h.cursor.daeAdd = false)) := by
  by_cases fine : env.dynamic = true → env.refreshError = none
  · obtain ⟨c, add, trace, fields, begins⟩ := setAdd_begins fine h rowNumber
    rw [begins]
    rcases prepareInsert_cases env { h with cursor := c } (h.cursor.getTableName.2.getCatalogName.1.getD [])
        (h.cursor.getTableName.1.getD []) with
      ⟨underWay, ends⟩ | ⟨idle, full, ret, h', ends, idle'', kept⟩ |
        ⟨idle, room, c', underWay, -, -, ⟨error, ret, failed, ends⟩ | ⟨prepared, ends⟩⟩
    · have underWay' : h.cursor.daeAdd = true := add ▸ underWay
      obtain ⟨kept, -, executed⟩ := executeInsert_ends (h := { h with cursor := c }) env underWay
      rw [ends, eq_true (And.intro fine (Or.inl underWay'))]
      refine ⟨kept, executed.trans ?_⟩
      simp [underWay']
    · have idle' : h.cursor.daeAdd = false := add ▸ idle
      rw [ends]
      refine ⟨kept, iff_of_true idle'' (Or.inr ⟨?_, idle'⟩)⟩
      simp [full, idle']
    · have idle' : h.cursor.daeAdd = false := add ▸ idle
      rw [ends, eq_true (And.intro fine (Or.inr room))]
      refine ⟨rfl, iff_of_false (fun ended => Bool.noConfusion (underWay.symm.trans ended)) ?_⟩
      simp [failed, idle']
    · have idle' : h.cursor.daeAdd = false := add ▸ idle
      obtain ⟨kept, -, executed⟩ := executeInsert_ends
        (h := { h with cursor := c', daeStmt := some { paramCount := (c'.insertColumns env).length } })
        env underWay
      rw [ends, eq_true (And.intro fine (Or.inr room))]
      refine ⟨kept, executed.trans ?_⟩
      simp [prepared]
  · obtain ⟨c, ends, add⟩ := setAdd_refused (h := h) fine rowNumber
    rw [ends]
    refine ⟨rfl, ?_⟩
    show c.daeAdd = false ↔ _
    rw [add]
    exact ⟨fun idle => Or.inr ⟨fun reached => fine reached.1, idle⟩,
      Or.rec (fun reached => absurd reached.1.1 fine) And.right⟩

theorem setPos_cases (env : CursorEnv) (h : AddHandle) (rowNumber : Nat) (lockNoChange : Bool) :
    (h.setPos env rowNumber .add lockNoChange).2.putParam = h.putParam ∧
      ((h.setPos env rowNumber .add lockNoChange).2.cursor.daeAdd = false ↔
        (h.ReachesInsert env lockNoChange ∧ (h.cursor.daeAdd = true ∨ env.prepareError = none) ∧
            env.execute.isOk = true) ∨
          (¬ h.ReachesInsert env lockNoChange ∧ h.cursor.daeAdd = false)) := by
  rw [setPos]
  split
  · rename_i begins
    simp only [Bool.and_eq_true, Bool.not_eq_true', beq_self_eq_true, and_true] at begins
    obtain ⟨⟨isOpen, cached⟩, rfl⟩ := begins
    have reaches : h.ReachesInsert env true ↔
        (env.dynamic = true → env.refreshError = none) ∧
          (h.cursor.daeAdd = true ∨ env.allocInsert = true) := by
      rw [ReachesInsert]
      simp only [isOpen, cached, true_and]
    rw [reaches]
    exact setAdd_cases env h rowNumber
  · rename_i stops
    have short : ¬ h.ReachesInsert env lockNoChange := by
      rintro ⟨isOpen, cached, locked, -⟩
      rw [isOpen, cached, locked] at stops
      exact stops rfl
    have kept : (h.cursor.stmtSetPos env rowNumber .add lockNoChange).2.daeAdd = h.cursor.daeAdd := by
      rw [stmtSetPos]
      split
      · rfl
      · split
        · rfl
        · split
          · rfl
          · rename_i isOpen cached locked
            refine absurd ?_ stops
            simp_all
    refine ⟨rfl, ?_⟩
    show (h.cursor.stmtSetPos env rowNumber .add lockNoChange).2.daeAdd = false ↔ _
    rw [kept]
    exact ⟨fun idle => Or.inr ⟨short, idle⟩, Or.rec (fun reached => absurd reached.1 short) And.right⟩

/-! ### What `MADB_StmtParamData` asks for -/

theorem find?_range'_drop {α : Type} (property : α → Bool) (items : List α) (start : Nat) :
    ((range' start (items.length - start)).find? (fun i => (items[i]?).any property) = none ∧
        (items.drop start).filter property = []) ∨
      ∃ i item, (range' start (items.length - start)).find? (fun i => (items[i]?).any property) = some i ∧
        start ≤ i ∧ items[i]? = some item ∧
        (items.drop start).filter property = item :: (items.drop (i + 1)).filter property := by
  induction left : items.length - start generalizing start with
  | zero =>
    refine Or.inl ⟨rfl, ?_⟩
    rw [drop_eq_nil_of_le (Nat.le_of_sub_eq_zero left), filter_nil]
  | succ left' ih =>
    have inside : start < items.length := by omega
    have here : items[start]? = some items[start] := getElem?_eq_getElem inside
    rw [range'_succ, find?_cons, here, drop_eq_getElem_cons inside, filter_cons]
    cases found : property items[start] with
    | true =>
      refine Or.inr ⟨start, items[start], ?_, Nat.le_refl start, here, rfl⟩
      simp [found]
    | false =>
      rcases ih (start + 1) (by omega) with ⟨nothing, empty⟩ | ⟨i, item, next, behind, there, rest⟩
      · refine Or.inl ⟨?_, empty⟩
        simp [found, nothing]
      · refine Or.inr ⟨i, item, ?_, Nat.le_of_succ_le behind, there, rest⟩
        simp [found, next]

/-- **What the calls ask for**: the columns with data at execution among those behind `PutParam`. -/
theorem asked_eq (data : ParamDataEnv) {insert : InsertStmt}
    (sized : insert.paramCount = insert.columns.length) (calls : Nat) {h : AddHandle} {start : Nat}
    (underWay : h.cursor.daeAdd = true) (held : h.daeStmt = some insert)
    (starts : (if -1 < h.putParam then (h.putParam + 1).toNat else 0) = start)
    (enough : insert.columns.length - start ≤ calls) :
    asked data calls h = (insert.columns.drop start).filter (data.columnIsDae · h.daeRow) := by
  induction calls generalizing h start with
  | zero =>
    rw [drop_eq_nil_of_le (Nat.le_of_sub_eq_zero (Nat.le_zero.mp enough)), filter_nil]
    rfl
  | succ calls ih =>
    have searched : h.nextDae data =
        (range' start (insert.columns.length - start)).find?
          (fun i => (insert.columns[i]?).any (data.columnIsDae · h.daeRow)) := by
      rw [nextDae, starts, daeCount, underWay, held, if_pos rfl, getD_some, sized]
      congr 1
      funext i
      rw [isDae, underWay, held, if_pos rfl, getD_some]
    rw [asked, asksFor, underWay, if_pos rfl, held, searched]
    rcases find?_range'_drop (data.columnIsDae · h.daeRow) insert.columns start with
      ⟨nothing, empty⟩ | ⟨i, column, next, behind, there, rest⟩
    · rw [nothing, empty]
      rfl
    · have nonempty : h.daeCount ≠ 0 := by
        rw [daeCount, underWay, if_pos rfl, held, getD_some, sized]
        exact Nat.ne_of_gt (Nat.zero_lt_of_lt (List.getElem?_eq_some_iff.mp there).1)
      have handed : (h.paramData data).2 = { h with putParam := i } := by
        rw [paramData, if_neg nonempty, searched, next]
      have starts' : (if -1 < (i : Int) then ((i : Int) + 1).toNat else 0) = i + 1 := by
        rw [if_pos (by omega)]
        rfl
      have rest' : asked data calls { h with putParam := i } =
          (insert.columns.drop (i + 1)).filter (data.columnIsDae · h.daeRow) :=
        ih underWay held starts' (by omega)
      rw [next, bind_some, getD_some, there, rest, handed, ← rest']

/-- **Behind an insertion that is over**, the next one starts from the beginning. -/
theorem insertsAnew_of_settled (settled : h.Settled) : h.InsertsAnew := by
  obtain ⟨idle, unasked⟩ := settled
  rintro env rowNumber ⟨isOpen, cached, -, fine, underWay | room⟩ fields added
  · rw [idle] at underWay
    cases underWay
  have called : added = h.setAdd env rowNumber := by
    show h.setPos env rowNumber .add true = _
    rw [setPos, isOpen, cached]
    rfl
  obtain ⟨c, add, trace, sameFields, begins⟩ := setAdd_begins fine h rowNumber
  rcases prepareInsert_cases env { h with cursor := c } (h.cursor.getTableName.2.getCatalogName.1.getD [])
      (h.cursor.getTableName.1.getD []) with
    ⟨underWay, -⟩ | ⟨-, full, -⟩ | ⟨-, -, c', underWay, kept, inserts, ends⟩
  · exact Bool.noConfusion ((add.trans idle).symm.trans underWay)
  · rw [room] at full
    cases full
  · have text : { h.cursor with fields := fields }.insertSet env = c.insertSet env := by
      rw [insertSet, insertSet, sameFields]
    have inserted : c'.trace = h.cursor.trace ++ [.inserts (h.insertText env) fields] := by
      rw [inserts, trace, sameFields, insertText, text]
    rcases ends with ⟨error, ret, failed, ends⟩ | ⟨prepared, ends⟩
    · have result : added = (ret, { h with cursor := c', daeStmt := none }) := by
        rw [called, begins, ends]
      refine ⟨by rw [result]; exact inserted, fun _ prepared => ?_⟩
      rw [failed] at prepared
      cases prepared
    · have result : added =
          { h with cursor := c', daeStmt := some { paramCount := (c'.insertColumns env).length } }.executeInsert
            env := by
        rw [called, begins, ends]
      refine ⟨by rw [result]; exact (executeInsert_ends env underWay).2.1.trans inserted, ?_⟩
      intro error _ asks
      have pending : added =
          (.needData,
            { h with
              cursor := { c' with error := error }
              daeStmt := some
                { paramCount := (c'.insertColumns env).length, columns := c'.insertColumns env } }) := by
        rw [result, executeInsert, asks]
        simp [bindColumns]
      have columns : c'.insertColumns env = (range fields.length).filter env.bound := by
        rw [insertColumns, kept, sameFields]
      rw [pending]
      refine ⟨rfl, fun data calls enough => ?_⟩
      have starts : (if -1 < h.putParam then (h.putParam + 1).toNat else 0) = 0 := by
        rw [unasked]
        rfl
      have few : (c'.insertColumns env).length - 0 ≤ calls := by
        rw [columns, Nat.sub_zero]
        refine (length_filter_le _ _).trans ?_
        rw [length_range]
        exact enough
      rw [← columns]
      exact @asked_eq data ⟨_, c'.insertColumns env⟩ rfl calls _ 0 underWay rfl starts few

/-! ### Histories -/

theorem leavesSettled_iff {call : AddCall} (settles : h.Settles call) :
    h.LeavesSettled call ↔ h.EndsSettled call := by
  have anew : h.LeavesSettled call ↔ (h.after call).Settled :=
    ⟨And.left, fun settled => ⟨settled, insertsAnew_of_settled settled⟩⟩
  rw [anew]
  cases call with
  | setPos env rowNumber operation lockNoChange =>
    obtain ⟨rfl, -⟩ := settles
    obtain ⟨kept, ends⟩ := setPos_cases env h rowNumber lockNoChange
    show (h.setPos env rowNumber .add lockNoChange).2.cursor.daeAdd = false ∧
      (h.setPos env rowNumber .add lockNoChange).2.putParam = -1 ↔ _
    rw [kept, ends]
    exact and_comm
  | paramData data =>
    obtain ⟨underWay, nonempty, done⟩ := settles
    refine iff_of_false (fun settled => ?_) id
    have still : (h.paramData data).2.cursor.daeAdd = true := by
      rw [paramData, if_neg nonempty, done]
      exact underWay
    exact Bool.noConfusion (still.symm.trans settled.1)
  | other change paramCount reset => exact absurd settles id

/-- **Insertions that have ended are over**: in which histories, and from which handles. -/
theorem everySettling_iff (h : AddHandle) (calls : List AddCall) :
    EverySettling LeavesSettled h calls ↔ EverySettling EndsSettled h calls := by
  induction calls generalizing h with
  | nil => exact Iff.rfl
  | cons call calls ih =>
    rw [EverySettling, EverySettling, ih (h.after call)]
    refine and_congr_left fun _ => ?_
    exact ⟨fun leaves settles => (leavesSettled_iff settles).mp (leaves settles),
      fun ends settles => (leavesSettled_iff settles).mpr (ends settles)⟩

/-- A cursor over two columns. -/
def twoColumns : AddHandle where
  cursor :=
    { fields := [⟨some (lit "t"), lit "d", lit "a"⟩, ⟨some (lit "t"), lit "d", lit "b"⟩]
      isOpen := true, numRows := 1 }

def firstAtExecution : ParamDataEnv where
  columnIsDae column _ := column == 0

def addsFirst : List AddCall :=
  [.setPos { execute := .error (.needData, {}) } 1 .add true, .paramData firstAtExecution,
    .paramData firstAtExecution]

/-- The row is inserted, but the insertion is still under way: another one that needs the data of the same
column prepares nothing, and does not ask for it. -/
theorem everySettling_atExecution :
    ¬ EverySettling LeavesSettled twoColumns addsFirst ∧
      (addsFirst.foldl after twoColumns).cursor.daeAdd = true ∧
      (addsFirst.foldl after twoColumns).putParam = 0 ∧
      ((addsFirst.foldl after twoColumns).setPos { execute := .error (.needData, {}) } 1 .add true).2.cursor.trace =
        (addsFirst.foldl after twoColumns).cursor.trace ∧
      ((addsFirst.foldl after twoColumns).setPos { execute := .error (.needData, {}) } 1 .add true).2.asked
        firstAtExecution 2 = [] := by
  have underWay : (addsFirst.foldl after twoColumns).cursor.daeAdd = true := by decide +kernel
  refine ⟨fun every => ?_, underWay, by decide +kernel, by decide +kernel, by decide +kernel⟩
  have last := every.2.2.1 ⟨by decide +kernel, by decide +kernel, by decide +kernel⟩
  exact Bool.noConfusion (underWay.symm.trans last.1.1)

end AddHandle

end MaOdbc
