/-
**The table a cursor changes.**

`MADB_GetTableName` and `MADB_GetCatalogName` keep the name they find with the handle, and only dropping
the handle forgets it. So an `INSERT` or a `DELETE` names the table of the result set that is open as long
as no result set is opened whose table or catalog differs from a name that is kept.
-/

import MaOdbc.Cursor.SetPos

namespace MaOdbc

open List Cursor

def OneTable (fields : List Field) (table catalog : Text) : Prop :=
  fields ≠ [] ∧ ∀ field ∈ fields, field.orgTable = some table ∧ field.db = catalog

def NameFits (kept : Option Text) (name : Text) : Prop := kept.getD [] = [] ∨ kept = some name

/-- A statement names the table, and an `INSERT` also the catalog, of the result set that is open. -/
def CursorEvent.NamesOpen : CursorEvent → Prop
  | .inserts text fields => ∀ table catalog, OneTable fields table catalog →
      lit "INSERT INTO " ++ quoted catalog ++ lit "." ++ quoted table <+: text
  | .deletes text fields => ∀ table catalog, OneTable fields table catalog →
      lit "DELETE FROM " ++ quoted table <+: text
  | _ => True

/-- What is done with a handle that is not dropped. Preparing, executing and closing leave the handle
with some columns. -/
inductive HandleStep
  | prepare (executed : Bool) (left : ResultSet)
  | execute (result : ResultSet)
  | close (left : ResultSet)
  | fetch (position : Nat) (lastRowFetched : Int)
  /-- The handle is the cursor of a positioned command. -/
  | asCursor
  | setPos (env : CursorEnv) (rowNumber : Nat) (operation : SetPosOperation) (lockNoChange : Bool)

namespace Cursor

def step (c : Cursor) : HandleStep → Cursor
  | .prepare executed left => { c.opens left with daeAdd := c.daeAdd && !executed, error := Diag.clear }
  | .execute result => { c.opens result with position := 0, error := Diag.clear }
  | .close left => { c.opens left with daeAdd := false }
  | .fetch position lastRowFetched => { c with position := position, lastRowFetched := lastRowFetched }
  | .asCursor => c.getTableName.2
  | .setPos env rowNumber operation lockNoChange =>
    (c.stmtSetPos env rowNumber operation lockNoChange).2

def run (c : Cursor) (steps : List HandleStep) : Cursor := steps.foldl step c

/-- The names that are kept are empty, or those of the columns. -/
def Fits (c : Cursor) (fields : List Field) : Prop :=
  ∀ table catalog, OneTable fields table catalog →
    NameFits c.tableName table ∧ NameFits c.catalogName catalog

/-- Executing the statement of a dynamic cursor once more gives columns of the same table. -/
def ReopensSame (c : Cursor) (env : CursorEnv) : Prop :=
  env.dynamic = true → ∀ table catalog,
    OneTable env.reopened.fields table catalog → OneTable c.fields table catalog

def Allows (c : Cursor) : HandleStep → Prop
  | .prepare _ left => c.Fits left.fields
  | .execute result => c.Fits result.fields
  | .close left => c.Fits left.fields
  | .setPos env _ _ _ => c.ReopensSame env
  | _ => True

def AllowsAll : Cursor → List HandleStep → Prop
  | _, [] => True
  | c, first :: steps => c.Allows first ∧ (c.step first).AllowsAll steps

/-! ### Looking up names -/

section Names

variable {c : Cursor} {table catalog : Text}

theorem uniqueName_of_all {pick : Field → Text} {fields : List Field} {name : Text}
    (nonempty : fields ≠ [])
    (all : ∀ field ∈ fields, field.orgTable.isSome = true ∧ pick field = name) :
    uniqueName pick fields = some (some name) := by
  have kept : fields.filter (·.orgTable.isSome) = fields :=
    filter_eq_self.mpr fun field member => (all field member).1
  have names : fields.map pick = replicate fields.length name :=
    map_eq_replicate_iff.mpr fun field member => (all field member).2
  rw [uniqueName, kept, names]
  cases fields with
  | nil => exact absurd rfl nonempty
  | cons field fields => simp [replicate_succ]

theorem getName_of_fits {cached : Option Text} {pick : Field → Text} {message name : Text}
    (fits : NameFits cached name) (nonempty : c.fields ≠ [])
    (all : ∀ field ∈ c.fields, field.orgTable.isSome = true ∧ pick field = name) :
    c.getName cached pick message = ⟨some name, some name, c.error⟩ := by
  have found := uniqueName_of_all nonempty all
  have notEmpty : c.fields.isEmpty = false := isEmpty_eq_false_iff.mpr nonempty
  unfold getName
  match cached, fits with
  | some (byte :: rest), .inr same =>
    cases same
    rfl
  | some [], _ =>
    rw [notEmpty, found]
    rfl
  | none, _ =>
    rw [notEmpty, found]
    rfl

theorem getTableName_of_fits (fits : NameFits c.tableName table) (one : OneTable c.fields table catalog) :
    c.getTableName = (some table, { c with tableName := some table }) := by
  have all : ∀ field ∈ c.fields, field.orgTable.isSome = true ∧ field.orgTable.getD [] = table := by
    intro field member
    rw [(one.2 field member).1]
    exact ⟨rfl, rfl⟩
  rw [getTableName, getName_of_fits fits one.1 all]

theorem getCatalogName_of_fits (fits : NameFits c.catalogName catalog)
    (one : OneTable c.fields table catalog) :
    c.getCatalogName = (some catalog, { c with catalogName := some catalog }) := by
  have all : ∀ field ∈ c.fields, field.orgTable.isSome = true ∧ field.db = catalog := by
    intro field member
    rw [(one.2 field member).1]
    exact ⟨rfl, (one.2 field member).2⟩
  rw [getCatalogName, getName_of_fits fits one.1 all]

end Names

/-! ### The invariant -/

/-- The names that are kept fit the result set that is open, and so do those in the statements so far. -/
structure Sound (c : Cursor) : Prop where
  fits : c.Fits c.fields
  named : ∀ event ∈ c.trace, event.NamesOpen

/-- The columns and the names stay, and statements name the open result set. -/
structure Keeps (c c' : Cursor) : Prop where
  fields : c'.fields = c.fields
  tableName : c'.tableName = c.tableName
  catalogName : c'.catalogName = c.catalogName
  named : ∀ event ∈ c'.trace, event ∈ c.trace ∨ event.NamesOpen

section Sound

variable {c c' c'' : Cursor} {env : CursorEnv}

theorem Keeps.of_trace (trace : c'.trace = c.trace) (fields : c'.fields = c.fields)
    (tableName : c'.tableName = c.tableName) (catalogName : c'.catalogName = c.catalogName) :
    Keeps c c' :=
  ⟨fields, tableName, catalogName, fun _ member => .inl (trace ▸ member)⟩

theorem Keeps.refl (c : Cursor) : Keeps c c := .of_trace rfl rfl rfl rfl

theorem Keeps.trans (first : Keeps c c') (second : Keeps c' c'') : Keeps c c'' where
  fields := second.fields.trans first.fields
  tableName := second.tableName.trans first.tableName
  catalogName := second.catalogName.trans first.catalogName
  named event member := by
    rcases second.named event member with before | named
    · exact first.named event before
    · exact .inr named

theorem Sound.keeps (sound : Sound c) (keeps : Keeps c c') : Sound c' where
  fits := by
    rw [Fits, keeps.fields, keeps.tableName, keeps.catalogName]
    exact sound.fits
  named event member := by
    rcases keeps.named event member with before | named
    · exact sound.named event before
    · exact named

theorem Keeps.emit {event : CursorEvent} (named : event.NamesOpen) : Keeps c (c.emit event) :=
  ⟨rfl, rfl, rfl, fun other member => by
    rcases mem_append.mp member with before | here
    · exact .inl before
    · rw [mem_singleton.mp here]
      exact .inr named⟩

theorem Sound.opens (sound : Sound c) {result : ResultSet} (fits : c.Fits result.fields) :
    Sound (c.opens result) :=
  ⟨fits, sound.named⟩

theorem Sound.getTableName (sound : Sound c) : Sound c.getTableName.2 where
  fits := by
    intro table catalog one
    have fits := sound.fits table catalog one
    rw [getTableName_of_fits fits.1 one]
    exact ⟨.inr rfl, fits.2⟩
  named := sound.named

theorem Sound.getCatalogName (sound : Sound c) : Sound c.getCatalogName.2 where
  fits := by
    intro table catalog one
    have fits := sound.fits table catalog one
    rw [getCatalogName_of_fits fits.2 one]
    exact ⟨fits.1, .inr rfl⟩
  named := sound.named

/-- What a dynamic cursor does before an operation: its columns may change, but not to those of another
table. -/
structure Refreshes (c c' : Cursor) : Prop where
  tableName : c'.tableName = c.tableName
  catalogName : c'.catalogName = c.catalogName
  trace : c'.trace = c.trace
  fields : ∀ table catalog, OneTable c'.fields table catalog → OneTable c.fields table catalog

theorem Sound.refreshes (sound : Sound c) (refreshes : Refreshes c c') : Sound c' where
  fits := by
    intro table catalog one
    rw [refreshes.tableName, refreshes.catalogName]
    exact sound.fits table catalog (refreshes.fields table catalog one)
  named := by
    rw [refreshes.trace]
    exact sound.named

theorem Refreshed.refreshes (refreshed : Refreshed env c c') (same : c.ReopensSame env) : Refreshes c c' := by
  cases refreshed with
  | static => exact ⟨rfl, rfl, rfl, fun _ _ one => one⟩
  | dynamic dynamic => exact ⟨rfl, rfl, rfl, same dynamic⟩

theorem Sound.setPosition (sound : Sound c) (same : c.ReopensSame env) (rowNumber : Nat) :
    Sound (c.setPosition env rowNumber).2 := by
  have reached := refreshed_reaches env c
  rw [Cursor.setPosition]
  split
  · exact sound.keeps (.of_trace rfl rfl rfl rfl)
  · split
    · rename_i returned failed
      rw [failed] at reached
      exact sound.refreshes (reached.refreshes same)
    · rename_i c' refreshed
      rw [refreshed] at reached
      have locked : Keeps c' (c'.emit .lock) := Keeps.emit trivial
      have moved : Keeps (c'.emit .lock)
          { c'.emit .lock with position := c'.position + (rowNumber - 1) } :=
        .of_trace rfl rfl rfl rfl
      exact (sound.refreshes (reached.refreshes same)).keeps ((locked.trans moved).trans (Keeps.emit trivial))

theorem Sound.setAdd (sound : Sound c) (same : c.ReopensSame env) (rowNumber : Nat) :
    Sound (c.setAdd env rowNumber).2 := by
  have reopens : c.getTableName.2.getCatalogName.2.ReopensSame env := same
  obtain ⟨c', reached, fields, tableName, catalogName, -, trace⟩ := setAdd_reaches env c rowNumber
  have refreshes := reached.refreshes reopens
  refine (sound.getTableName.getCatalogName.refreshes refreshes).keeps
    ⟨fields, tableName, catalogName, fun event member => ?_⟩
  rcases trace with none | inserts
  · exact .inl (none ▸ member)
  · rw [inserts] at member
    rcases mem_append.mp member with before | here
    · exact .inl before
    · rw [mem_singleton.mp here]
      refine .inr fun table catalog one => ?_
      have here : OneTable c.fields table catalog := refreshes.fields table catalog one
      have fits := sound.fits table catalog here
      have fits' := sound.getTableName.fits table catalog here
      rw [getCatalogName_of_fits fits'.2 here, getTableName_of_fits fits.1 here]
      exact prefix_append _ _

theorem deleteRow_keeps {tableName : Text}
    (names : ∀ table catalog, OneTable c.fields table catalog → tableName = table) (row : Nat) :
    (deleteRow env tableName row c).All (Keeps c) fun returned => Keeps c returned.2 := by
  have deletes (rest : Text) : Keeps (c.emit .lock) ((c.emit .lock).emit
      (.deletes (lit "DELETE FROM " ++ quoted tableName ++ rest) c.fields)) := by
    refine Keeps.emit fun table catalog one => ?_
    obtain rfl := names table catalog one
    exact prefix_append _ _
  have locked : Keeps c (c.emit .lock) := Keeps.emit trivial
  rw [deleteRow]
  cases env.whereClause row with
  | none => exact .of_trace rfl rfl rfl rfl
  | some whereClause =>
    have sent := locked.trans (deletes whereClause)
    dsimp only
    cases env.delete row with
    | error native =>
      have failed : Keeps _ { (c.emit .lock).emit (.deletes (lit "DELETE FROM " ++
          quoted tableName ++ whereClause) c.fields) with
            error := Diag.setError .errHY001 (some native.message) native.errno } :=
        sent.trans (.of_trace rfl rfl rfl rfl)
      exact failed.trans (Keeps.emit trivial)
    | ok rows => exact sent.trans (.of_trace rfl rfl rfl rfl)

theorem deleteRows_keeps {tableName : Text}
    (names : ∀ table catalog, OneTable c.fields table catalog → tableName = table) (rows : List Nat) :
    (forEach (deleteRow env tableName) rows c).All (Keeps c) fun returned => Keeps c returned.2 := by
  refine forEach_rule (fun _ c' => Keeps c c') ?_ (nil_append rows).symm (.refl c)
  intro _ row _ c' _ before
  have round : (deleteRow env tableName row c').All (Keeps c') fun returned => Keeps c' returned.2 :=
    deleteRow_keeps (fun table catalog one => names table catalog (before.fields ▸ one)) row
  exact round.imp (fun _ after => before.trans after) fun _ after => before.trans after

theorem Sound.setDelete (sound : Sound c) (same : c.ReopensSame env) (rowNumber : Nat) :
    Sound (c.setDelete env rowNumber).2 := by
  have looked := sound.getTableName
  have reopens : { c.getTableName.2 with arraySize := 1 }.ReopensSame env := same
  have reached := refreshed_reaches env { c.getTableName.2 with arraySize := 1 }
  have begun : Sound { c.getTableName.2 with arraySize := 1 } :=
    looked.keeps (.of_trace rfl rfl rfl rfl)
  have found : ∀ table catalog, OneTable c.fields table catalog → c.getTableName.1 = some table := by
    intro table catalog one
    rw [getTableName_of_fits (sound.fits table catalog one).1 one]
  have columns : c.getTableName.2.fields = c.fields := rfl
  rw [Cursor.setDelete]
  rcases lookup : c.getTableName with ⟨tableName, c₁⟩
  rw [lookup] at looked reopens reached begun found columns
  cases tableName with
  | none => exact looked.keeps (.of_trace rfl rfl rfl rfl)
  | some tableName =>
    dsimp only at reached begun found ⊢
    split
    · rename_i returned failed
      rw [failed] at reached
      exact begun.refreshes (reached.refreshes reopens)
    · rename_i c₂ refreshed
      rw [refreshed] at reached
      have refreshes := reached.refreshes reopens
      have names : ∀ table catalog, OneTable c₂.fields table catalog → tableName = table := by
        intro table catalog one
        have here : OneTable c.fields table catalog :=
          columns ▸ refreshes.fields table catalog one
        exact Option.some_inj.mp (found table catalog here)
      have started : Sound { c₂ with affectedRows := 0 } :=
        (begun.refreshes refreshes).keeps (.of_trace rfl rfl rfl rfl)
      split
      · exact started.keeps (.of_trace rfl rfl rfl rfl)
      · generalize deletedRows _ _ = rows
        have loop : (forEach (deleteRow env tableName) rows { c₂ with affectedRows := 0 }).All
            (Keeps { c₂ with affectedRows := 0 })
            fun returned => Keeps { c₂ with affectedRows := 0 } returned.2 := by
          refine deleteRows_keeps ?_ rows
          exact names
        split
        · rename_i returned ended
          rw [ended] at loop
          exact started.keeps loop
        · rename_i c₃ ended
          rw [ended] at loop
          have unlocked : Keeps c₃ (c₃.emit .unlock) := Keeps.emit trivial
          have done := started.keeps (loop.trans unlocked)
          split
          · exact done.keeps (.of_trace rfl rfl rfl rfl)
          · exact done.keeps (.of_trace rfl rfl rfl rfl)

theorem Sound.stmtSetPos (sound : Sound c) (same : c.ReopensSame env) (rowNumber : Nat)
    (operation : SetPosOperation) (lockNoChange : Bool) :
    Sound (c.stmtSetPos env rowNumber operation lockNoChange).2 := by
  unfold Cursor.stmtSetPos
  split
  · exact sound.keeps (.of_trace rfl rfl rfl rfl)
  · split
    · exact sound.keeps (.of_trace rfl rfl rfl rfl)
    · split
      · exact sound.keeps (.of_trace rfl rfl rfl rfl)
      · cases operation with
        | position => exact sound.setPosition same rowNumber
        | add => exact sound.setAdd same rowNumber
        | delete => exact sound.setDelete same rowNumber
        | other => exact sound.keeps (.of_trace rfl rfl rfl rfl)

theorem Sound.step (sound : Sound c) {next : HandleStep} (allowed : c.Allows next) :
    Sound (c.step next) := by
  cases next with
  | prepare | execute | close => exact (sound.opens allowed).keeps (.of_trace rfl rfl rfl rfl)
  | fetch position lastRowFetched => exact sound.keeps (.of_trace rfl rfl rfl rfl)
  | asCursor => exact sound.getTableName
  | setPos env rowNumber operation lockNoChange =>
    exact sound.stmtSetPos allowed rowNumber operation lockNoChange

theorem Sound.run (sound : Sound c) {steps : List HandleStep} (allowed : c.AllowsAll steps) :
    Sound (c.run steps) := by
  induction steps generalizing c with
  | nil => exact sound
  | cons first steps ih => exact ih (sound.step allowed.1) allowed.2

end Sound

/-- **Statements name the open result set**, in every history of a handle in which no result set is
opened whose table or catalog differs from a name that is kept. -/
theorem run_names_open (steps : List HandleStep) (allowed : AllowsAll {} steps) :
    ∀ event ∈ (run {} steps).trace, event.NamesOpen := by
  have start : Sound {} := ⟨fun _ _ _ => ⟨.inl rfl, .inl rfl⟩, by simp⟩
  exact (start.run allowed).named

/-- Two rows with one column, of a table in the catalog `shop`. -/
def rowsOf (table : Text) : ResultSet := ⟨[⟨some table, lit "shop", lit "id"⟩], 2⟩

theorem oneTable_rowsOf {name table catalog : Text}
    (one : OneTable (rowsOf name).fields table catalog) : name = table ∧ lit "shop" = catalog := by
  obtain ⟨sameTable, sameCatalog⟩ := one.2 ⟨some name, lit "shop", lit "id"⟩ mem_cons_self
  exact ⟨Option.some_inj.mp sameTable, sameCatalog⟩

/-- A row is deleted from a table that is then selected from again. -/
theorem run_names_open_orders :
    AllowsAll {} [.execute (rowsOf (lit "orders")), .setPos {} 1 .delete true,
        .execute (rowsOf (lit "orders")), .setPos {} 1 .add true] ∧
      ∀ event ∈ (run {} [.execute (rowsOf (lit "orders")), .setPos {} 1 .delete true,
        .execute (rowsOf (lit "orders")), .setPos {} 1 .add true]).trace, event.NamesOpen := by
  have allowed : AllowsAll {} [.execute (rowsOf (lit "orders")), .setPos {} 1 .delete true,
      .execute (rowsOf (lit "orders")), .setPos {} 1 .add true] := by
    refine ⟨fun _ _ _ => ⟨.inl rfl, .inl rfl⟩, nofun, ?_, nofun, trivial⟩
    intro table catalog one
    obtain ⟨rfl, rfl⟩ := oneTable_rowsOf one
    exact ⟨.inr rfl, .inl rfl⟩
  exact ⟨allowed, run_names_open _ allowed⟩

/-- A row is deleted from the table `orders`; then rows are selected from `items`, and deleting one of
them deletes from `orders`. -/
theorem run_names_stale :
    ¬ ∀ event ∈ (run {} [.execute (rowsOf (lit "orders")), .setPos {} 1 .delete true,
      .execute (rowsOf (lit "items")), .setPos {} 1 .delete true]).trace, event.NamesOpen := by
  intro all
  have stale := all (.deletes (lit "DELETE FROM " ++ quoted (lit "orders") ++ lit " WHERE 1 LIMIT 1")
    (rowsOf (lit "items")).fields) (by decide +kernel)
  have one : OneTable (rowsOf (lit "items")).fields (lit "items") (lit "shop") :=
    ⟨by decide, by decide⟩
  have named := stale (lit "items") (lit "shop") one
  revert named
  decide +kernel

end Cursor

end MaOdbc
