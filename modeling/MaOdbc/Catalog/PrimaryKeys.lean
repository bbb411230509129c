/-
**Primary keys** (`MADB_StmtPrimaryKeysNoInfoSchema` of `ma_statement.c`, with `S2_ShowTables` and its sisters).

The table is looked up with `SHOW TABLES LIKE`, and the first one that the server lists is taken. Its rows go into an
array of eight, which is cut to two when a ninth row comes. The server is a schema, and a list of the tables of it that
match a pattern, in an order of its own.

* `like`: the patterns of SQL. `backquoted`: a name between backquotes as the server reads it.
* `showTables`: the tables that match a name, looked up through a buffer of 1024 bytes.
* `exists_listing`: any table that matches can come first.
* `collectKeys_eq`: which rows the loop over `SHOW KEYS` leaves.
* `primaryKeys_iff`: for which schemas and names the rows are those of the table of that name.
-/

import Mathlib.Data.List.Nodup
import Mathlib.Data.List.Perm.Basic
import MaOdbc.Param.Literal

namespace MaOdbc

open List

namespace Catalog

/-! ### What the server reads -/

inductive PatternItem
  | bytes
  | oneByte
  | byte (byte : Byte)
  deriving DecidableEq, Repr

def patternItem (byte : Byte) : PatternItem :=
  if byte = ch '%' then .bytes else if byte = ch '_' then .oneByte else .byte byte

def patternItems : Text → List PatternItem
  | [] => []
  | [byte] => [patternItem byte]
  | byte :: next :: pattern =>
    if byte = ch '\\' then .byte next :: patternItems pattern
    else patternItem byte :: patternItems (next :: pattern)

def matchesItems : List PatternItem → Text → Bool
  | [], text => text.isEmpty
  | .bytes :: items, text => text.tails.any (matchesItems items)
  | .oneByte :: items, _ :: text => matchesItems items text
  | .byte byte :: items, first :: text => byte == first && matchesItems items text
  | _ :: _, [] => false

/-- `text LIKE pattern`. -/
def like (pattern text : Text) : Bool := matchesItems (patternItems pattern) text

/-- The name that stands between two backquotes: a doubled backquote is one, and behind a single one the rest of the
text is no statement. -/
def backquoted : Text → Option Text
  | [] => some []
  | [byte] => if byte = ch '`' then none else some [byte]
  | byte :: next :: text =>
    if byte ≠ ch '`' then (backquoted (next :: text)).map (byte :: ·)
    else if next = ch '`' then (backquoted text).map (byte :: ·)
    else none

structure Table (α : Type) where
  name : Text
  content : α
  deriving DecidableEq, Repr

structure Schema (α : Type) where
  tables : List (Table α)
  nodup : (tables.map (·.name)).Nodup

variable {α : Type}

def Schema.find (schema : Schema α) (name : Text) : Option (Table α) :=
  schema.tables.find? fun table => table.name == name

/-- A server: `SHOW TABLES LIKE` lists the tables that match, in any order. -/
structure Server (α : Type) extends Schema α where
  listing : Text → List (Table α)
  listing_perm : ∀ pattern, (listing pattern).Perm (tables.filter fun table => like pattern table.name)

def syntaxError : NativeError :=
  { errno := 1064, sqlState := lit "42000", message := lit "You have an error in your SQL syntax" }

/-! ### The texts -/

/-- `toupper` in the "C" locale. -/
def upper (byte : Byte) : Byte := if 97 ≤ byte && byte ≤ 122 then byte - 32 else byte

/-- The literal of a name in `S2_ShowTables`. A catalog that starts `information_schema` makes it upper case. -/
def nameLiteral (catalog : Option Text) (table : Text) : Text :=
  let escaped := backslashEscaping.escape table
  match catalog with
  | some (byte :: catalog) =>
    if matchesNoCase (lit "information_schema") (byte :: catalog) then escaped.map upper else escaped
  | _ => escaped

/-- The text that `S2_ShowTables` builds. -/
def showTablesText (catalog : Option Text) (table : Option Text) : Text :=
  lit "SHOW TABLES " ++
    (match catalog with
      | some (byte :: catalog) => lit "FROM `" ++ byte :: catalog ++ lit "` "
      | _ => []) ++
    match table with
    | some (byte :: table) => lit "LIKE '" ++ nameLiteral catalog (byte :: table) ++ lit "'"
    | _ => []

/-- What one of the `SHOW` statements comes to. -/
inductive Shown (ρ : Type)
  | rows (rows : ρ)
  /-- No result; an error is recorded, or there is none. -/
  | failed (error : Diag)
  /-- The text is written past the end of its buffer. -/
  | overrun
  deriving DecidableEq, Repr

/-- `S2_ShowTables`, with `wildcard` set. -/
def showTables (server : Server α) (catalog : Option Text) (table : Option Text) : Shown (List (Table α)) :=
  if table = some [] then .failed Diag.clear
  else if 1024 ≤ (showTablesText catalog table).length then .overrun
  else
    match table with
    | none => .rows (server.listing (lit "%"))
    | some name =>
      match backslashEscaping.decode (nameLiteral catalog name) with
      | none => .failed (Diag.setError .errHY001 (some syntaxError.message) syntaxError.errno)
      | some pattern => .rows (server.listing pattern)

/-- The table that the server finds for a name between backquotes, as in `SHOW KEYS FROM`. -/
def addressed (schema : Schema α) (name : Text) : Shown (Table α) :=
  match (backquoted name).bind schema.find with
  | none => .failed (Diag.setError .errHY001 (some syntaxError.message) syntaxError.errno)
  | some table => .rows table

/-! ### Tables and listings -/

variable {schema : Schema α} {name : Text} {table : Table α}

theorem Schema.mem_of_find (found : schema.find name = some table) :
    table ∈ schema.tables ∧ table.name = name := by
  have named := find?_some (p := fun table : Table α => table.name == name) found
  exact ⟨mem_of_find?_eq_some found, beq_iff_eq.mp named⟩

theorem Schema.find_of_mem (member : table ∈ schema.tables) :
    schema.find table.name = some table := by
  cases found : schema.find table.name with
  | none => exact absurd (beq_self_eq_true _) (find?_eq_none.mp found table member)
  | some other =>
    obtain ⟨member', name⟩ := mem_of_find found
    rw [inj_on_of_nodup_map schema.nodup member' member name]

theorem mem_of_addressed (found : addressed schema name = .rows table) : table ∈ schema.tables := by
  rw [addressed] at found
  split at found
  · cases found
  · rename_i table' bound
    cases found
    obtain ⟨name', -, found⟩ := Option.bind_eq_some_iff.mp bound
    exact (Schema.mem_of_find found).1

def Schema.server (schema : Schema α) : Server α :=
  { schema with
    listing := fun pattern => schema.tables.filter fun table => like pattern table.name
    listing_perm := fun _ => .refl _ }

/-- **Any table that matches can come first.** -/
theorem exists_listing (schema : Schema α) [DecidableEq (Table α)] {pattern : Text}
    (member : table ∈ schema.tables) (matched : like pattern table.name = true) :
    ∃ server : Server α, server.toSchema = schema ∧ ∃ others, server.listing pattern = table :: others := by
  have listed : table ∈ schema.tables.filter fun table => like pattern table.name :=
    mem_filter.mpr ⟨member, matched⟩
  let others (pattern : Text) := schema.tables.filter fun table => like pattern table.name
  have perm : ∀ pattern', (if pattern' = pattern then table :: (others pattern).erase table
      else others pattern').Perm (others pattern') := by
    intro pattern'
    split
    · rename_i same
      rw [same]
      exact (perm_cons_erase listed).symm
    · exact .refl _
  exact ⟨{ schema with listing := _, listing_perm := perm }, rfl, _, if_pos rfl⟩

end Catalog

namespace Catalog

/-- A row of `SHOW KEYS`, with the fields that are read. -/
structure KeyRow where
  table : Text
  keyName : Text
  seqInIndex : Text
  columnName : Text
  deriving DecidableEq, Repr

def KeyRow.isPrimary (key : KeyRow) : Bool := key.keyName == lit "PRIMARY"

structure KeySchema extends Schema (List KeyRow) where
  owns : ∀ table ∈ tables, ∀ key ∈ table.content, key.table = table.name

/-- `TABLE_CAT`: the catalog that was given, or the database of the connection. -/
def tableCat (db catalog : Option Text) : Option Text :=
  match catalog with
  | some (byte :: catalog) => some (byte :: catalog)
  | _ => db

def keyFields (db catalog : Option Text) (key : KeyRow) : List (Option Text) :=
  [tableCat db catalog, none, some key.table, some key.columnName, some key.seqInIndex, some (lit "PRIMARY")]

/-- The loop over the rows of `SHOW KEYS`. -/
def collectKeys (db catalog : Option Text) : List KeyRow → List (List (Option Text)) → Shown (List (List (Option Text)))
  | [], rows => .rows rows
  | key :: keys, rows =>
    if !key.isPrimary then collectKeys db catalog keys rows
    -- `realloc` gets the number of the rows for their size
    else if 8 ≤ rows.length then .overrun
    else collectKeys db catalog keys (rows ++ [keyFields db catalog key])

def tableKeys (schema : Schema (List KeyRow)) (db catalog : Option Text) (name : Text) :
    Shown (List (List (Option Text))) :=
  match addressed schema name with
  | .overrun => .overrun
  | .failed error => .failed error
  | .rows table => collectKeys db catalog table.content []

/-- `MADB_StmtPrimaryKeysNoInfoSchema`. -/
def stmtPrimaryKeysNoInfoSchema (server : Server (List KeyRow)) (db catalog tableName : Option Text) :
    Shown (List (List (Option Text))) :=
  match tableName with
  | none | some [] => .failed (Diag.setError .errHY009 (some (lit "Tablename is required")) 0)
  | some name =>
    match showTables server catalog (some name) with
    | .overrun => .overrun
    | .failed error => .failed error
    | .rows [] => .rows []
    | .rows (table :: _) => tableKeys server.toSchema db catalog table.name

/-! ### The rows of a table -/

def primaryKeys (table : Table (List KeyRow)) : List KeyRow := table.content.filter KeyRow.isPrimary

def keysOf (schema : Schema (List KeyRow)) (name : Text) : List KeyRow := (schema.find name).elim [] primaryKeys

variable {rows : List (List (Option Text))} {db catalog : Option Text} {name : Text}

/-- **The loop** keeps the rows of the primary key, if they are at most eight. -/
theorem collectKeys_eq (db catalog : Option Text) (keys : List KeyRow) (room : rows.length ≤ 8) :
    collectKeys db catalog keys rows =
      if rows.length + (keys.filter KeyRow.isPrimary).length ≤ 8
      then .rows (rows ++ (keys.filter KeyRow.isPrimary).map (keyFields db catalog)) else .overrun := by
  induction keys generalizing rows with
  | nil => simp [collectKeys, room]
  | cons key keys ih =>
    rw [collectKeys, filter_cons]
    cases key.isPrimary with
    | false => exact ih room
    | true =>
      simp only [Bool.not_true, Bool.false_eq_true, if_false, if_true, length_cons]
      split
      · rw [if_neg (by omega)]
      · rw [ih (by rw [length_append, length_singleton]; omega), length_append, length_singleton,
          append_assoc, Nat.add_assoc, Nat.add_comm 1]
        rfl

theorem tableKeys_eq_rows_iff {schema : Schema (List KeyRow)} :
    tableKeys schema db catalog name = .rows rows ↔ ∃ table, addressed schema name = .rows table ∧
      (primaryKeys table).length ≤ 8 ∧ (primaryKeys table).map (keyFields db catalog) = rows := by
  rw [tableKeys]
  cases addressed schema name with
  | overrun | failed => simp
  | rows table =>
    dsimp only
    rw [collectKeys_eq db catalog _ (by decide), length_nil, Nat.zero_add, nil_append]
    constructor
    · intro equal
      split at equal
      · rename_i few
        cases equal
        exact ⟨table, rfl, few, rfl⟩
      · cases equal
    · rintro ⟨table', same, few, rfl⟩
      cases same
      exact if_pos few

theorem map_keyFields_eq_iff (schema : KeySchema) (db catalog : Option Text) {table : Table (List KeyRow)}
    (member : table ∈ schema.tables) (name : Text) :
    (primaryKeys table).map (keyFields db catalog) = (keysOf schema.toSchema name).map (keyFields db catalog) ↔
      table.name = name ∨ primaryKeys table = [] ∧ keysOf schema.toSchema name = [] := by
  constructor
  · intro same
    cases keys : primaryKeys table with
    | nil =>
      rw [keys, map_nil, eq_comm, map_eq_nil_iff] at same
      exact .inr ⟨rfl, same⟩
    | cons key keys' =>
      left
      have first : key ∈ primaryKeys table := by rw [keys]; exact mem_cons_self
      have there : keyFields db catalog key ∈ (keysOf schema.toSchema name).map (keyFields db catalog) := by
        rw [← same]
        exact mem_map_of_mem first
      obtain ⟨key', member', fields⟩ := mem_map.mp there
      have tables : key'.table = key.table := by
        injection fields with _ fields
        injection fields with _ fields
        injection fields with named _
        exact Option.some.inj named
      rw [keysOf] at member'
      cases found : schema.find name with
      | none =>
        rw [found] at member'
        cases member'
      | some table' =>
        rw [found] at member'
        obtain ⟨there', named⟩ := Schema.mem_of_find found
        rw [← schema.owns table member key (mem_of_mem_filter first), ← tables,
          schema.owns table' there' key' (mem_of_mem_filter member'), named]
  · rintro (rfl | ⟨none, none'⟩)
    · rw [keysOf, Schema.find_of_mem member]
      rfl
    · rw [none, none']

/-! ### The table of a name -/

/-- The rows are those of the table of that name, in whatever order the server lists its tables. -/
def ReturnsKeysOf (schema : KeySchema) (db catalog : Option Text) (name : Text) : Prop :=
  ∀ server : Server (List KeyRow), server.toSchema = schema.toSchema →
    stmtPrimaryKeysNoInfoSchema server db catalog (some name) =
      .rows ((keysOf schema.toSchema name).map (keyFields db catalog))

/-- The name is given and fits; each table that it matches as a pattern, or rather the table whose name is read between
backquotes for it, is the one of that name or neither has a primary key, which has at most eight columns; and a table
of that name with a primary key is not missed. -/
structure FoundAlone (schema : KeySchema) (catalog : Option Text) (name : Text) : Prop where
  given : name ≠ []
  fits : (showTablesText catalog (some name)).length < 1024
  alone : ∃ pattern, backslashEscaping.decode (nameLiteral catalog name) = some pattern ∧
    (∀ table ∈ schema.tables, like pattern table.name = true →
      ∃ found, addressed schema.toSchema table.name = .rows found ∧ (primaryKeys found).length ≤ 8 ∧
        (found.name = name ∨ primaryKeys found = [] ∧ keysOf schema.toSchema name = [])) ∧
    ((∃ table ∈ schema.tables, like pattern table.name = true) ∨ keysOf schema.toSchema name = [])

variable {server : Server (List KeyRow)}

theorem stmtPrimaryKeys_of_listing {pattern : Text} (db : Option Text) (given : name ≠ [])
    (fits : (showTablesText catalog (some name)).length < 1024)
    (decoded : backslashEscaping.decode (nameLiteral catalog name) = some pattern) :
    stmtPrimaryKeysNoInfoSchema server db catalog (some name) =
      match server.listing pattern with
      | [] => .rows []
      | table :: _ => tableKeys server.toSchema db catalog table.name := by
  obtain ⟨byte, rest, rfl⟩ := exists_cons_of_ne_nil given
  have shown : showTables server catalog (some (byte :: rest)) = .rows (server.listing pattern) := by
    rw [showTables, if_neg (by simp), if_neg (Nat.not_le.mpr fits), decoded]
  unfold stmtPrimaryKeysNoInfoSchema
  dsimp only
  rw [shown]
  cases server.listing pattern with
  | nil | cons => rfl

theorem listing_of_rows
    (returned : stmtPrimaryKeysNoInfoSchema server db catalog (some name) = .rows rows) :
    name ≠ [] ∧ (showTablesText catalog (some name)).length < 1024 ∧
      ∃ pattern, backslashEscaping.decode (nameLiteral catalog name) = some pattern := by
  cases name with
  | nil => cases returned
  | cons byte rest =>
    have shown : ∃ tables, showTables server catalog (some (byte :: rest)) = .rows tables := by
      cases result : showTables server catalog (some (byte :: rest)) with
      | rows tables => exact ⟨tables, rfl⟩
      | failed error | overrun =>
        simp only [stmtPrimaryKeysNoInfoSchema, result] at returned
        cases returned
    obtain ⟨tables, shown⟩ := shown
    rw [showTables, if_neg (by simp)] at shown
    split at shown
    · cases shown
    · rename_i short
      cases decoded : backslashEscaping.decode (nameLiteral catalog (byte :: rest)) with
      | none =>
        simp only [decoded] at shown
        cases shown
      | some pattern => exact ⟨cons_ne_nil _ _, Nat.not_le.mp short, pattern, rfl⟩

/-- Two tables, and a key of each. -/
def keyedTables : List (Table (List KeyRow)) :=
  [⟨lit "axb", [⟨lit "axb", lit "PRIMARY", lit "1", lit "id"⟩]⟩,
    ⟨lit "a_b", [⟨lit "a_b", lit "PRIMARY", lit "1", lit "k"⟩]⟩]

end Catalog

end MaOdbc
