/-
**Positions within a rowset.**

`SQL_POSITION` adds to `Cursor.Position`, which is where the next call of `MADB_StmtFetchScroll` counts from,
and moves the row cursor of libmariadb there. The records of the columns, which `SQLGetData` reads from,
stay with the row that was fetched last. The number of the row is checked against the number of rows of the
result.

* `positions_eq`: calls one after another add up their distances.
* `stmtFetchReads_last`: a fetch reads its first row last, from where the row cursor stands.
* `readsRow_afterFetch`: behind a fetch `SQLGetData` hands over the first row of the rowset.
* `positions_iff`: which calls position the cursor as they are asked to.
-/

import MaOdbc.Cursor.Reads
import MaOdbc.Cursor.SetPos
import MaOdbc.Cursor.Where

namespace MaOdbc

open List RowCursor RowReader

namespace RowCursor

variable (env : FetchEnv) (c : RowCursor)

/-- `SQL_POSITION` of a cursor that is not dynamic. -/
def setPosition (rowNumber : Nat) : SqlReturn × RowCursor :=
  if rowNumber < 1 ∨ c.numRows < rowNumber then c.setError .errHY109
  else
    let c := { c with position := toSqlLen (c.position + (rowNumber - 1 : Nat)) }
    (.success, (c.stmtDataSeek (toSqlULen c.position)).2)

theorem setPosition_agrees {c : RowCursor} {cursor : Cursor} {env : CursorEnv} (static : env.dynamic = false)
    (numRows : c.numRows = cursor.numRows) (position : c.position = cursor.position) {rowNumber : Nat}
    (fits : cursor.position + rowNumber ≤ 2 ^ 63) :
    (c.setPosition rowNumber).1 = (cursor.setPosition env rowNumber).1 ∧
      (c.setPosition rowNumber).2.position = (cursor.setPosition env rowNumber).2.position := by
  rw [setPosition, Cursor.setPosition, Cursor.refreshed, static, numRows, position]
  split
  · exact ⟨rfl, position⟩
  · rename_i inside
    have sum : toSqlLen ((cursor.position : Int) + (rowNumber - 1 : Nat)) =
        ((cursor.position + (rowNumber - 1) : Nat) : Int) := by
      rw [toSqlLen_of_small (by omega) (by omega), Int.natCast_add]
    have kept : ∀ (c : RowCursor) (offset : Nat), (c.stmtDataSeek offset).2.position = c.position := by
      intro c offset
      rw [stmtDataSeek]
      split
      · rfl
      · rfl
    refine ⟨rfl, ?_⟩
    dsimp only
    rw [kept, sum]
    rfl

/-- The rows that a call of `MADB_StmtFetchScroll` reads into the slots of its rowset. -/
def scrollReads (orientation : FetchOrientation) (offset : Int) : List (Nat × List Row) :=
  match c.positioned env orientation offset with
  | .ok c => c.stmtFetchReads env
  | .error _ => []

/-- Where a positioned command goes: `MADB_StmtDataSeek` to `Cursor.Position`. -/
def currentRow : List Row := c.result.drop (toSqlULen c.position)

end RowCursor

/-- The parts of `MADB_Stmt` that fetching and reading work with. -/
structure RowHandle where
  cursor : RowCursor
  reader : RowReader

namespace RowHandle

variable (h : RowHandle)

/-- `SQL_POSITION`. `mysql_stmt_data_seek` sets the state, and leaves the records of the columns alone. -/
def setPosition (rowNumber : Nat) : SqlReturn × RowHandle :=
  let returned := h.cursor.setPosition rowNumber
  let sought := returned.1.succeeded && !h.cursor.result.isEmpty
  (returned.1, ⟨returned.2, if sought then { h.reader with fetching := true } else h.reader⟩)

def positions (rowNumbers : List Nat) : RowHandle :=
  rowNumbers.foldl (fun h rowNumber => (h.setPosition rowNumber).2) h

end RowHandle

/-- `SQLGetData` hands over the values of a row: its texts, piece by piece, and `SQL_NULL_DATA`. -/
def RowReader.ReadsRow (env : ReadEnv) (r : RowReader) (row : Row) : Prop :=
  ∀ i, match row.value i with
    | none => ∀ call : PieceCall, (r.getPiece env i call).indicator = some sqlNullData
    | some text => ∀ calls : List PieceCall,
        (∀ call ∈ calls, call.target.zeroTerminated < call.buffer.length) →
          getPieces env i r calls = PieceCall.handOvers (some text) calls

/-- The records of the columns behind a call of `MADB_StmtFetch` that reads some rows. -/
def RowReader.afterFetch (env : ReadEnv) (r : RowReader) (reads : List (Nat × List Row)) : RowReader :=
  (reads.foldl (fun r read => r.round env read.2) r).finishFetch

/-- Calls with numbers of rows do as they are asked to, in a rowset of some rows at some row of the result:
each succeeds just for a row of the rowset. If all of them do, the row of the last one is the current row,
for `SQLGetData` and for a positioned command, and the next call of `MADB_StmtFetchScroll` reads the rows
that it reads without them. -/
structure PositionsAsAsked (env : FetchEnv) (readEnv : ReadEnv) (rows : List Row) (start count : Nat)
    (h : RowHandle) (rowNumbers : List Nat) : Prop where
  succeeds : ∀ earlier rowNumber, earlier ++ [rowNumber] <+: rowNumbers →
    (((h.positions earlier).setPosition rowNumber).1.succeeded = true ↔ 1 ≤ rowNumber ∧ rowNumber ≤ count)
  current : (∀ rowNumber ∈ rowNumbers, 1 ≤ rowNumber ∧ rowNumber ≤ count) →
    ∀ last, rowNumbers.getLast? = some last →
      (h.positions rowNumbers).cursor.currentRow = rows.drop (start + last - 1) ∧
        (h.positions rowNumbers).reader.ReadsRow readEnv (rows.getD (start + last - 1) [])
  fetches : (∀ rowNumber ∈ rowNumbers, 1 ≤ rowNumber ∧ rowNumber ≤ count) →
    ∀ orientation, orientation = .next ∨ orientation = .prior ∨ orientation = .relative → ∀ offset,
      (h.positions rowNumbers).cursor.scrollReads env orientation offset =
        h.cursor.scrollReads env orientation offset

/-- How far calls of `SQL_POSITION` move the position. -/
def distance (rowNumbers : List Nat) : Nat := (rowNumbers.map (· - 1)).sum

/-- Calls that position a cursor as they are asked to, in a rowset of some rows at some row of a result:
none asks for a row of the result behind the rowset. If all ask for a row of the rowset, there are none, or
their distances add up to nothing in 64 bits, the last asks for the first row, and the rowset is one of
several rows or ends with the result. -/
def Positionable (total start count : Nat) (rowNumbers : List Nat) : Prop :=
  (∀ rowNumber ∈ rowNumbers, rowNumber ≤ count ∨ total < rowNumber) ∧
    ((∀ rowNumber ∈ rowNumbers, 1 ≤ rowNumber ∧ rowNumber ≤ count) →
      rowNumbers = [] ∨ (2 ^ 64 ∣ distance rowNumbers ∧ rowNumbers.getLast? = some 1 ∧
        (1 < count ∨ start + 1 = total)))

/-! ### Calls one after another -/

namespace RowHandle

variable {h : RowHandle} {rowNumber : Nat} {rowNumbers : List Nat}

def moved (h : RowHandle) (distance : Nat) : RowHandle :=
  let position := toSqlLen (h.cursor.position + distance)
  ⟨{ h.cursor with position := position, resultCursor := h.cursor.result.drop (toSqlULen position) },
    { h.reader with fetching := true }⟩

theorem setPosition_eq (some : h.cursor.result ≠ []) (inside : 1 ≤ rowNumber ∧ rowNumber ≤ h.cursor.numRows) :
    h.setPosition rowNumber = (.success, h.moved (rowNumber - 1)) := by
  have nonempty : h.cursor.result.isEmpty = false := by
    rw [← Bool.not_eq_true, List.isEmpty_iff]
    exact some
  have allowed : ¬ (rowNumber < 1 ∨ h.cursor.numRows < rowNumber) := by omega
  rw [setPosition, RowCursor.setPosition, if_neg allowed]
  dsimp only
  rw [stmtDataSeek]
  dsimp only
  rw [nonempty, if_neg Bool.false_ne_true]
  rfl

theorem setPosition_outside (outside : ¬ (1 ≤ rowNumber ∧ rowNumber ≤ h.cursor.numRows)) :
    h.setPosition rowNumber = (.error, { h with cursor := (h.cursor.setError .errHY109).2 }) := by
  have refused : rowNumber < 1 ∨ h.cursor.numRows < rowNumber := by omega
  rw [setPosition, RowCursor.setPosition, if_pos refused]
  rfl

/-- **The number of a row** is checked against the number of rows of the result, which stays. -/
theorem succeeded_setPosition (some : h.cursor.result ≠ []) (rowNumber : Nat) :
    ((h.setPosition rowNumber).1.succeeded = true ↔ 1 ≤ rowNumber ∧ rowNumber ≤ h.cursor.numRows) ∧
      (h.setPosition rowNumber).2.cursor.result = h.cursor.result ∧
      (h.setPosition rowNumber).2.cursor.numRows = h.cursor.numRows := by
  by_cases inside : 1 ≤ rowNumber ∧ rowNumber ≤ h.cursor.numRows
  · rw [setPosition_eq some inside]
    exact ⟨iff_of_true rfl inside, rfl, rfl⟩
  · rw [setPosition_outside inside]
    exact ⟨iff_of_false Bool.false_ne_true inside, rfl, rfl⟩

theorem positions_same (some : h.cursor.result ≠ []) (rowNumbers : List Nat) :
    (h.positions rowNumbers).cursor.result = h.cursor.result ∧
      (h.positions rowNumbers).cursor.numRows = h.cursor.numRows := by
  induction rowNumbers generalizing h with
  | nil => exact ⟨rfl, rfl⟩
  | cons rowNumber rowNumbers ih =>
    obtain ⟨-, result, numRows⟩ := succeeded_setPosition some rowNumber
    obtain ⟨result', numRows'⟩ := @ih (h.setPosition rowNumber).2 (by rw [result]; exact some)
    exact ⟨result'.trans result, numRows'.trans numRows⟩

theorem moved_moved (first second : Nat) : (h.moved first).moved second = h.moved (first + second) := by
  have sum : toSqlLen (toSqlLen (h.cursor.position + first) + second) =
      toSqlLen (h.cursor.position + (first + second : Nat)) := by
    rw [toSqlLen, toSqlLen, toSqlLen, Int.bmod_add_bmod, Int.natCast_add, Int.add_assoc]
  rw [moved]
  dsimp only [moved]
  rw [sum]

/-- **Calls one after another** add up their distances. -/
theorem positions_eq (some : h.cursor.result ≠ []) (nonempty : rowNumbers ≠ [])
    (inside : ∀ rowNumber ∈ rowNumbers, 1 ≤ rowNumber ∧ rowNumber ≤ h.cursor.numRows) :
    h.positions rowNumbers = h.moved (distance rowNumbers) := by
  induction rowNumbers generalizing h with
  | nil => exact absurd rfl nonempty
  | cons rowNumber rowNumbers ih =>
    have first : h.positions (rowNumber :: rowNumbers) = (h.moved (rowNumber - 1)).positions rowNumbers := by
      rw [positions, foldl_cons, setPosition_eq some (inside rowNumber mem_cons_self)]
      rfl
    have total : distance (rowNumber :: rowNumbers) = rowNumber - 1 + distance rowNumbers := by
      rw [distance, map_cons, sum_cons, distance]
    rw [first, total]
    by_cases last : rowNumbers = []
    · rw [last]
      rfl
    · rw [← moved_moved]
      exact ih some last fun later member => inside later (mem_cons_of_mem rowNumber member)

end RowHandle

/-! ### What a fetch reads -/

namespace RowCursor

variable {env : FetchEnv} {c : RowCursor} {rows : List Row}

theorem stmtFetchReads_last (ready : env.Ready) (scrollable : env.cursorType ≠ .forwardOnly) {count : Nat}
    (total : c.begun.rowsToFetch = count + 1) (length : count + 1 ≤ c.resultCursor.length) :
    ∃ others, c.stmtFetchReads env = others ++ [(0, c.resultCursor)] ∧ ∀ read ∈ others, 1 ≤ read.1 := by
  have noCache := noCache_of_scrollable scrollable
  cases count with
  | zero =>
    refine ⟨[], ?_, fun read none => absurd none not_mem_nil⟩
    have once : ¬ (1 < 0 + 1 ∧ env.cursorType ≠ .forwardOnly) := fun several => by omega
    have here : c.begun.beginRowset.source env = c.resultCursor := by
      rw [source, noCache]
      rfl
    rw [stmtFetchReads, noCache, if_neg Bool.false_ne_true, total, if_neg once, if_neg once]
    show roundReads env 1 [] [0] _ = _
    rw [roundReads]
    refine congrArg₂ cons (Prod.ext rfl here) ?_
    split
    · rfl
    · rfl
  | succ count =>
    refine ⟨_, stmtFetchReads_scrolled ready scrollable total (Nat.le_add_left 1 count) rfl length, ?_⟩
    intro read later
    exact (mem_range'_1.mp (of_mem_zip later).1).1

section

variable (static : env.cursorType = .static)

include static

theorem refreshed_static (c : RowCursor) : c.refreshed env = .ok c := by
  rw [refreshed, static, if_neg CursorType.noConfusion]

theorem allowed_of_static (orientation : FetchOrientation) :
    env.cursorType = .forwardOnly → orientation = .next := by
  rw [static]
  exact fun forward => CursorType.noConfusion forward

theorem scrollReads_seek (result : c.result = rows) (numRows : c.numRows = rows.length)
    (short : rows.length < 2 ^ 63) (some : rows ≠ []) {orientation : FetchOrientation}
    (other : orientation ≠ .next) {offset position : Int}
    (asked : { c with next := [] }.scrollPosition env orientation offset = .ok position) :
    c.scrollReads env orientation offset =
      if 0 ≤ position ∧ position < rows.length then
        { c with next := [], position := position, resultCursor := rows.drop position.toNat }.stmtFetchReads env
      else [] := by
  have noCache := noCache_of_static static
  have cleared : ({ c with next := if orientation = .next then c.next else [] } : RowCursor) =
      { c with next := [] } := by
    rw [if_neg other]
  have placed := positioned_of_asked (allowed_of_static static orientation) (refreshed_static static c)
    (by rw [cleared]; exact asked)
  rw [cleared] at placed
  rw [scrollReads, placed]
  by_cases below : position < 0
  · rw [placedAt, if_pos below, if_neg fun inside => by omega]
  · obtain ⟨target, rfl⟩ := Int.eq_ofNat_of_zero_le (Int.not_lt.mp below)
    have length := length_pos_of_ne_nil some
    by_cases inside : target < rows.length
    · have bounds : 0 ≤ (target : Int) ∧ (target : Int) < rows.length :=
        ⟨Int.natCast_nonneg _, Int.ofNat_lt.mpr inside⟩
      have full : ({ c with next := [], position := (target : Int) } : RowCursor).result ≠ [] := by
        rw [result]
        exact some
      rw [placedAt_inside noCache (by rw [numRows]; exact short) (by rw [numRows]; exact inside),
        seekRowset_moves full (Or.inl other), if_pos bounds, ← result]
      rfl
    · rw [placedAt_past noCache (by rw [numRows]; exact short) (by rw [numRows]; exact length)
        (by rw [numRows]; omega), if_neg fun both => inside (Int.ofNat_lt.mp both.2)]

theorem scrollReads_inside {call : ScrollCall} (small : call.Small) (short : rows.length < 2 ^ 31)
    (tracks : Tracks rows c) {start : Nat}
    (asked : call.target rows.length c.position c.lastRowFetched = start)
    (inside : start < rows.length) :
    { c with arraySize := call.rowsetSize }.scrollReads env call.orientation call.offset =
      { c.turned call with position := start, resultCursor := rows.drop start }.stmtFetchReads env := by
  have numRows : (c.turned call).numRows = rows.length := tracks.numRows
  have requested : (c.turned call).scrollPosition env call.orientation call.offset = .ok (start : Int) := by
    rw [scrollPosition_turned, requested_eq small (tracks.inRange short), asked]
  have placed : ({ c with arraySize := call.rowsetSize } : RowCursor).positioned env call.orientation
      call.offset = (c.turned call).placedAt env call.orientation c.lastRowFetched (start : Int) :=
    positioned_of_asked (allowed_of_static static call.orientation) (refreshed_static static _) requested
  rw [scrollReads, placed, placedAt_inside (noCache_of_static static) (by omega) (by omega),
    seekRowset_inside static tracks asked inside]

end

theorem Stands.resized (stands : Stands rows c) (size : Nat) : Stands rows { c with arraySize := size } := by
  cases stands with
  | before position next cursor => exact .before position next cursor
  | shown start count position last some inside next cursor =>
    exact .shown start count position last some inside next cursor
  | after position => exact .after position

/-- The rows of a static result, and numbers that do not wrap. -/
structure Steady (env : FetchEnv) (rows : List Row) (c : RowCursor) : Prop where
  static : env.cursorType = .static
  ready : env.Ready
  result : c.result = rows
  numRows : c.numRows = rows.length
  short : rows.length < 2 ^ 62
  sized : 1 ≤ c.arraySize
  small : c.arraySize < 2 ^ 62

section

variable (steady : Steady env rows c)

include steady

theorem Steady.scrollable : env.cursorType ≠ .forwardOnly := by
  rw [steady.static]
  exact CursorType.noConfusion

theorem Steady.reads_last {start : Nat} (inside : start < rows.length)
    (position : c.position = start) (enough : rows.length - start ≤ c.resultCursor.length) :
    ∃ others, c.stmtFetchReads env = others ++ [(0, c.resultCursor)] ∧ ∀ read ∈ others, 1 ≤ read.1 := by
  have short := steady.short
  have sized := steady.sized
  have small := steady.small
  have total : c.begun.rowsToFetch = ((rows.drop start).take c.arraySize).length :=
    rowsToFetch_eq steady.numRows position inside (by show start + c.arraySize < _; omega)
  rw [length_rowset] at total
  obtain ⟨count, more⟩ : ∃ count, min c.arraySize (rows.length - start) = count + 1 :=
    ⟨min c.arraySize (rows.length - start) - 1, by omega⟩
  rw [more] at total
  exact stmtFetchReads_last steady.ready steady.scrollable total (by omega)

/-- **The first row of a rowset** is read from where the row cursor stands. -/
theorem Steady.reads_zero {start : Nat} (inside : start < rows.length)
    (position : c.position = start) (enough : rows.length - start ≤ c.resultCursor.length)
    (pointer : List Row) : (0, pointer) ∈ c.stmtFetchReads env ↔ pointer = c.resultCursor := by
  obtain ⟨others, reads, later⟩ := steady.reads_last inside position enough
  rw [reads, mem_append, mem_singleton, Prod.mk.injEq, and_iff_right rfl]
  exact or_iff_right fun member => Nat.not_succ_le_zero 0 (later _ member)

theorem Steady.reads_relative (some : rows ≠ []) (lower : -2 ^ 63 ≤ c.position)
    (upper : c.position < 2 ^ 63) :
    (0 ≤ c.position ∧ c.position < rows.length ∧ ∀ pointer,
        (0, pointer) ∈ c.scrollReads env .relative 0 ↔ pointer = rows.drop c.position.toNat) ∨
      (¬ (0 ≤ c.position ∧ c.position < rows.length) ∧ c.scrollReads env .relative 0 = []) := by
  have asked : ({ c with next := [] } : RowCursor).scrollPosition env .relative 0 = .ok c.position := by
    rw [scrollPosition]
    dsimp only
    rw [Int.add_zero, toSqlLen_of_small lower upper, if_neg (fun back => by omega)]
  have short := steady.short
  have reads := scrollReads_seek steady.static steady.result steady.numRows (by omega) some
    (by decide) asked
  by_cases inside : 0 ≤ c.position ∧ c.position < rows.length
  · rw [if_pos inside] at reads
    refine Or.inl ⟨inside.1, inside.2, fun pointer => ?_⟩
    have place : c.position = (c.position.toNat : Int) := (Int.toNat_of_nonneg inside.1).symm
    have seated : Steady env rows
        { c with next := [], position := c.position, resultCursor := rows.drop c.position.toNat } :=
      { steady with }
    rw [reads]
    exact seated.reads_zero (by omega) place (by rw [length_drop]) pointer
  · rw [if_neg inside] at reads
    exact Or.inr ⟨inside, reads⟩

/-- **The position is where a relative call counts from.** -/
theorem Steady.position_of_reads {c' : RowCursor} (steady' : Steady env rows c') {start : Nat}
    (inside : start < rows.length) (position : c.position = start) (lower : -2 ^ 63 ≤ c'.position)
    (upper : c'.position < 2 ^ 63)
    (same : c'.scrollReads env .relative 0 = c.scrollReads env .relative 0) :
    c'.position = start := by
  have short := steady.short
  have some : rows ≠ [] := ne_nil_of_length_pos (by omega)
  rcases steady.reads_relative some (by omega) (by omega) with ⟨-, -, reads⟩ | ⟨outside, -⟩
  · have first : (0, rows.drop c.position.toNat) ∈ c.scrollReads env .relative 0 := (reads _).mpr rfl
    rw [← same] at first
    rcases steady'.reads_relative some lower upper with ⟨low, high, reads'⟩ | ⟨-, none⟩
    · have pointers := congrArg length ((reads' _).mp first)
      rw [length_drop, length_drop, position] at pointers
      omega
    · rw [none] at first
      exact absurd first not_mem_nil
  · omega

theorem Steady.reads_next (some : rows ≠ []) {start count : Nat} (position : c.position = start)
    (last : c.lastRowFetched = count) (bounded : start + count ≤ rows.length) (offset : Int) :
    c.scrollReads env .next offset =
      if start + count < rows.length then
        match ({ c with position := ((start + count : Nat) : Int) } : RowCursor).seekRowset env .next
          c.lastRowFetched with
        | (.success, c) => c.stmtFetchReads env
        | _ => []
      else [] := by
  have short := steady.short
  have numRows := steady.numRows
  have noCache := noCache_of_static steady.static
  have asked : c.scrollPosition env .next offset = .ok ((start + count : Nat) : Int) := by
    rw [scrollPosition, position, last, if_neg (by omega), ← Int.natCast_add, toSqlLen_of_small (by omega) (by omega)]
  have placed : c.positioned env .next offset =
      c.placedAt env .next c.lastRowFetched ((start + count : Nat) : Int) :=
    positioned_of_asked (fun _ => rfl) (refreshed_static steady.static c) asked
  rw [scrollReads, placed]
  by_cases inside : start + count < rows.length
  · rw [if_pos inside, placedAt_inside noCache (by omega) (by omega)]
    generalize ({ c with position := ((start + count : Nat) : Int) } : RowCursor).seekRowset env .next
      c.lastRowFetched = sought
    obtain ⟨code, c'⟩ := sought
    cases code with
    | success | successWithInfo | noData | error | needData | invalidHandle => rfl
  · have length := length_pos_of_ne_nil some
    rw [if_neg inside, placedAt_past noCache (by omega) (by omega) (by omega)]

theorem Steady.reads_next_single {start : Nat} (position : c.position = start)
    (last : c.lastRowFetched = 1) (more : start + 1 < rows.length)
    (enough : rows.length - (start + 1) ≤ c.resultCursor.length) (pointer : List Row) :
    (0, pointer) ∈ c.scrollReads env .next 0 ↔ pointer = c.resultCursor := by
  have some : rows ≠ [] := ne_nil_of_length_pos (by omega)
  have stays : ({ c with position := ((start + 1 : Nat) : Int) } : RowCursor).seekRowset env .next
      c.lastRowFetched = (.success, { c with position := ((start + 1 : Nat) : Int) }) := by
    rw [seekRowset, last, steady.static]
    rfl
  have seated : Steady env rows { c with position := ((start + 1 : Nat) : Int) } :=
    { steady with }
  have one : c.lastRowFetched = ((1 : Nat) : Int) := last
  rw [steady.reads_next some position one (by omega) 0, if_pos more, stays]
  exact seated.reads_zero more rfl enough pointer

/-- **The row cursor does not matter** to a call that seeks, nor to one behind the end. -/
theorem Steady.reads_same (some : rows ≠ []) {start count : Nat} (position : c.position = start)
    (last : c.lastRowFetched = count) (bounded : start + count ≤ rows.length)
    (seeks : 1 < count ∨ start + count = rows.length) (pointer : List Row)
    {orientation : FetchOrientation}
    (known : orientation = .next ∨ orientation = .prior ∨ orientation = .relative) (offset : Int) :
    { c with resultCursor := pointer }.scrollReads env orientation offset =
      c.scrollReads env orientation offset := by
  have short := steady.short
  have steady' : Steady env rows { c with resultCursor := pointer } :=
    { steady with }
  have elsewhere : ∀ target, orientation ≠ .next →
      ({ c with next := [] } : RowCursor).scrollPosition env orientation offset = .ok target →
      ({ c with next := [], resultCursor := pointer } : RowCursor).scrollPosition env orientation offset =
        .ok target →
      { c with resultCursor := pointer }.scrollReads env orientation offset =
        c.scrollReads env orientation offset := by
    intro target other asked asked'
    rw [scrollReads_seek steady.static steady.result steady.numRows (by omega) some other asked,
      scrollReads_seek (c := { c with resultCursor := pointer }) steady.static steady.result steady.numRows
        (by omega) some other asked']
  rcases known with rfl | rfl | rfl
  · rw [steady'.reads_next some position last bounded offset, steady.reads_next some position last bounded offset]
    split
    · rename_i inside
      have moves : FetchOrientation.next ≠ .next ∨ (1 < c.lastRowFetched ∧ env.cursorType ≠ .forwardOnly) ∨
          env.cursorType = .dynamic := Or.inr (Or.inl ⟨by omega, steady.scrollable⟩)
      have full : c.result ≠ [] := by
        rw [steady.result]
        exact some
      have sought : ∀ pointer', ({ c with
          position := ((start + count : Nat) : Int), resultCursor := pointer' } : RowCursor).seekRowset env .next
          c.lastRowFetched = (.success, { c with
            position := ((start + count : Nat) : Int)
            resultCursor := if c.next.isEmpty then c.result.drop (start + count) else c.next }) :=
        fun pointer' => seekRowset_moves full moves
      have here := sought pointer
      have there := sought c.resultCursor
      rw [here, there]
    · rfl
  · exact elsewhere _ (by decide) rfl rfl
  · exact elsewhere _ (by decide) rfl rfl

end

end RowCursor

/-- **Behind a fetch** `SQLGetData` hands over the row that was read last, if the lengths of its columns are
kept. -/
theorem RowReader.readsRow_afterFetch {env : ReadEnv} (r : RowReader) (others : List (Nat × List Row))
    (slot : Nat) {row : Row} (rest : List Row)
    (columns : ∀ i text, row.value i = some text →
      (env.info i).fieldType ≠ .bit ∧ env.KeepsLength i text) :
    (r.afterFetch env (others ++ [(slot, row :: rest)])).ReadsRow env row := by
  obtain ⟨r', fetched⟩ : ∃ r', r.afterFetch env (others ++ [(slot, row :: rest)]) =
      (round env r' (row :: rest)).finishFetch := by
    rw [afterFetch, foldl_append]
    exact ⟨_, rfl⟩
  rw [fetched]
  intro i
  cases value : row.value i with
  | none =>
    intro call
    have isNull : ((r'.round env (row :: rest)).finishFetch.binds i).isNull = true := by
      show (ColumnBind.receive _ _ (row.value i)).isNull = true
      rw [value]
      rfl
    have told : ∀ r'' : RowReader, r''.bound = true → (r''.binds i).isNull = true →
        (r''.stmtGetData env i call.target call.buffer (some call.indicator) false).indicator =
          some sqlNullData := by
      intro r'' bound isNull
      rw [stmtGetData_null bound isNull]
    rw [getPiece, sqlGetData]
    dsimp only
    rw [if_neg (fun read => Nat.lt_irrefl 0 read.1)]
    split
    · exact told _ rfl isNull
    · exact told _ rfl isNull
  | some text =>
    intro calls fits
    obtain ⟨plain, keeps⟩ := columns i text value
    have holds : Holds (r'.round env (row :: rest)).finishFetch i text :=
      ⟨pointsTo_round value, (length_round_iff rest value).mpr keeps⟩
    exact getPieces_eq holds plain fits ⟨rfl, Or.inl rfl⟩

/-! ### Positions as they are asked for -/

namespace RowHandle

variable {env : FetchEnv} {readEnv : ReadEnv} {rows : List Row} {h : RowHandle} {start count : Nat}
  {rowNumbers : List Nat}

theorem succeeds_iff (some : h.cursor.result ≠ []) (bounded : count ≤ h.cursor.numRows) :
    (∀ earlier rowNumber, earlier ++ [rowNumber] <+: rowNumbers →
        (((h.positions earlier).setPosition rowNumber).1.succeeded = true ↔
          1 ≤ rowNumber ∧ rowNumber ≤ count)) ↔
      ∀ rowNumber ∈ rowNumbers, rowNumber ≤ count ∨ h.cursor.numRows < rowNumber := by
  have outcome : ∀ earlier rowNumber, ((h.positions earlier).setPosition rowNumber).1.succeeded = true ↔
      1 ≤ rowNumber ∧ rowNumber ≤ h.cursor.numRows := by
    intro earlier rowNumber
    obtain ⟨result, numRows⟩ := positions_same some earlier
    rw [(succeeded_setPosition (by rw [result]; exact some) rowNumber).1, numRows]
  constructor
  · intro succeeds rowNumber member
    obtain ⟨earlier, later, rfl⟩ := append_of_mem member
    have here := succeeds earlier rowNumber ⟨later, by rw [append_assoc, singleton_append]⟩
    rw [outcome] at here
    omega
  · intro apart earlier rowNumber earlier_prefix
    have member : rowNumber ∈ rowNumbers :=
      earlier_prefix.subset (mem_append_right earlier (mem_singleton_self rowNumber))
    have here := apart rowNumber member
    rw [outcome]
    omega

theorem toSqlLen_add_eq_iff (near : start < 2 ^ 62) (distance : Nat) :
    toSqlLen ((start : Int) + distance) = start ↔ 2 ^ 64 ∣ distance := by
  constructor
  · intro back
    have modular : (toSqlLen ((start : Int) + distance)) % 2 ^ 64 = ((start : Int) + distance) % 2 ^ 64 :=
      Int.bmod_emod
    rw [back] at modular
    omega
  · rintro ⟨turns, rfl⟩
    have wraps : toSqlLen ((start : Int) + (2 ^ 64 * turns : Nat)) = toSqlLen start := by
      rw [toSqlLen, toSqlLen, Int.natCast_mul]
      exact Int.add_mul_bmod_self_left _ _ _
    rw [wraps]
    exact toSqlLen_of_small (by omega) (by omega)

/-- A cursor at a rowset that was just fetched: `SQLGetData` reads its first row. -/
structure AtRowset (env : FetchEnv) (readEnv : ReadEnv) (rows : List Row) (start count : Nat)
    (h : RowHandle) : Prop extends RowCursor.Steady env rows h.cursor where
  tracks : RowCursor.Tracks rows h.cursor
  position : h.cursor.position = start
  last : h.cursor.lastRowFetched = count
  inside : start < rows.length
  nonempty : 1 ≤ count
  fetching : h.reader.fetching = true
  reads : h.reader.ReadsRow readEnv (rows.getD start [])

theorem AtRowset.shown (at_ : AtRowset env readEnv rows start count h) :
    start + count ≤ rows.length ∧ (count = 1 → h.cursor.resultCursor = rows.drop (start + count)) := by
  have position := at_.position
  have last := at_.last
  have inside := at_.inside
  cases at_.tracks.stands with
  | before | after => omega
  | shown start' count' position' last' _ bounded _ cursor =>
    obtain rfl : start' = start := by omega
    obtain rfl : count' = count := by omega
    exact ⟨bounded, fun single => cursor (Nat.le_of_eq single)⟩

/-- **A call of `MADB_StmtFetchScroll`** that finds its row leaves the handle at its rowset, whatever rowset
size is set for the calls behind it. -/
theorem atRowset_scroll {c : RowCursor} {call : ScrollCall} (static : env.cursorType = .static)
    (clean : env.Clean rows) (small : call.Small) (short : rows.length < 2 ^ 31)
    (tracks : RowCursor.Tracks rows c)
    (asked : call.target rows.length c.position c.lastRowFetched = start) (inside : start < rows.length)
    (columns : ∀ i text, (rows.getD start []).value i = some text →
      (readEnv.info i).fieldType ≠ .bit ∧ readEnv.KeepsLength i text)
    {size : Nat} (sized : 1 ≤ size) (size_lt : size < 2 ^ 62) (r : RowReader) :
    AtRowset env readEnv rows start (min call.rowsetSize (rows.length - start))
      ⟨{ (c.scroll env call).2 with arraySize := size },
        r.afterFetch readEnv
          ({ c with arraySize := call.rowsetSize }.scrollReads env call.orientation call.offset)⟩ := by
  obtain ⟨-, shows, kept⟩ := scroll_inside static clean small short tracks asked inside
  have last := shows.brings.last
  rw [length_rowset] at last
  have sized' := small.sized
  have small' := small.small
  have reads := scrollReads_inside static small short tracks asked inside
  obtain ⟨c', seated⟩ : ∃ c' : RowCursor, c' =
    { c.turned call with position := start, resultCursor := rows.drop start } := ⟨_, rfl⟩
  rw [← seated] at reads
  have steady : RowCursor.Steady env rows c' := by
    rw [seated]
    exact ⟨static, clean.ready, tracks.result, tracks.numRows, by omega, sized', by show call.rowsetSize < _; omega⟩
  have place : c'.position = start := by rw [seated]
  have cursor : c'.resultCursor = rows.drop start := by rw [seated]
  obtain ⟨others, read, -⟩ := steady.reads_last inside place (by rw [cursor, length_drop])
  have row : rows.drop start = rows.getD start [] :: rows.drop (start + 1) := by
    rw [drop_eq_getElem_cons inside, getD_eq_getElem _ _ inside]
  rw [cursor, row] at read
  rw [reads, read]
  exact
    { static := static
      ready := clean.ready
      result := kept.result
      numRows := kept.numRows
      short := by omega
      sized := sized
      small := size_lt
      tracks := ⟨kept.result, kept.numRows, kept.empty, kept.nonneg, kept.bounded, kept.stands.resized size⟩
      position := shows.position
      last := last
      inside := inside
      nonempty := by omega
      fetching := by
        rw [afterFetch, foldl_append]
        rfl
      reads := readsRow_afterFetch r others 0 _ columns }

/-- The cursor that is moved does as it is asked to exactly if it is not moved at all, and the next call
seeks its row. -/
theorem moved_iff (at_ : AtRowset env readEnv rows start count h) {last : Nat}
    (asked : 1 ≤ last ∧ last ≤ count) (distance : Nat) :
    (((h.moved distance).cursor.currentRow = rows.drop (start + last - 1) ∧
        (h.moved distance).reader.ReadsRow readEnv (rows.getD (start + last - 1) [])) ∧
      ∀ orientation, orientation = .next ∨ orientation = .prior ∨ orientation = .relative → ∀ offset,
        (h.moved distance).cursor.scrollReads env orientation offset =
          h.cursor.scrollReads env orientation offset) ↔
      2 ^ 64 ∣ distance ∧ last = 1 ∧ (1 < count ∨ start + 1 = rows.length) := by
  obtain ⟨bounded, cursor⟩ := at_.shown
  have short := at_.short
  have inside := at_.inside
  have position := at_.position
  have some : rows ≠ [] := ne_nil_of_length_pos (by omega)
  have steady : RowCursor.Steady env rows (h.moved distance).cursor :=
    { at_.toSteady with }
  have place : (h.moved distance).cursor.position = toSqlLen ((start : Int) + distance) := by
    rw [← position]
    rfl
  have back_iff := toSqlLen_add_eq_iff (show start < 2 ^ 62 by omega) distance
  rw [← place] at back_iff
  have unsigned : toSqlULen (start : Int) = start := by
    rw [toSqlULen, Int.emod_eq_of_lt (by omega) (by omega), Int.toNat_natCast]
  have first : currentRow { h.cursor with resultCursor := rows.drop start } = rows.drop start := by
    rw [currentRow, position, unsigned, at_.result]
  have here : (h.moved distance).cursor.position = start →
      (h.moved distance).cursor = { h.cursor with resultCursor := rows.drop start } := by
    intro back
    have unmoved : toSqlLen (h.cursor.position + distance) = h.cursor.position := back.trans position.symm
    rw [moved]
    dsimp only
    rw [unmoved, position, unsigned, at_.result]
  constructor
  · rintro ⟨⟨current, -⟩, fetches⟩
    have bounds : -2 ^ 63 ≤ (h.moved distance).cursor.position ∧ (h.moved distance).cursor.position < 2 ^ 63 := by
      rw [place]
      exact ⟨Int.le_bmod (by decide), Int.bmod_lt (by decide)⟩
    have back : (h.moved distance).cursor.position = start :=
      at_.toSteady.position_of_reads steady inside position bounds.1 bounds.2
        (fetches .relative (Or.inr (Or.inr rfl)) 0)
    rw [here back] at current fetches
    have pointers := congrArg length (first.symm.trans current)
    rw [length_drop, length_drop] at pointers
    refine ⟨back_iff.mp back, by omega, ?_⟩
    -- Behind a rowset of one row, the row cursor was put back to the row that was read already.
    by_contra stays
    have single : count = 1 := by omega
    have one : h.cursor.lastRowFetched = 1 := by rw [at_.last, single]; rfl
    have again := fetches .next (Or.inl rfl) 0
    have seated : RowCursor.Steady env rows { h.cursor with resultCursor := rows.drop start } :=
      { at_.toSteady with }
    have read := (seated.reads_next_single position one (by omega) (by rw [length_drop]; omega)
      (rows.drop start)).mpr rfl
    rw [again, at_.toSteady.reads_next_single position one (by omega)
      (by rw [cursor single, length_drop, single]), cursor single] at read
    have lengths := congrArg length read
    rw [length_drop, length_drop] at lengths
    omega
  · rintro ⟨turns, rfl, seeks⟩
    have back := back_iff.mpr turns
    have unread : (h.moved distance).reader = h.reader := by
      show ({ h.reader with fetching := true } : RowReader) = h.reader
      rw [← at_.fetching]
    rw [unread, here back, Nat.add_sub_cancel]
    refine ⟨⟨first, at_.reads⟩, fun orientation known offset => ?_⟩
    exact at_.toSteady.reads_same some position at_.last bounded (by omega) _ known offset

/-- **Positions within a rowset.** Calls of `SQL_POSITION` do as they are asked to exactly if they are
`Positionable`. -/
theorem positions_iff (at_ : AtRowset env readEnv rows start count h) (rowNumbers : List Nat) :
    PositionsAsAsked env readEnv rows start count h rowNumbers ↔
      Positionable rows.length start count rowNumbers := by
  obtain ⟨bounded, -⟩ := at_.shown
  have inside := at_.inside
  have result : h.cursor.result ≠ [] := by
    rw [at_.result]
    exact ne_nil_of_length_pos (by omega)
  have numRows := at_.numRows
  have succeeds := @succeeds_iff h count rowNumbers result (by omega)
  rw [numRows] at succeeds
  have moves : ∀ last, rowNumbers.getLast? = some last →
      (∀ rowNumber ∈ rowNumbers, 1 ≤ rowNumber ∧ rowNumber ≤ count) →
      h.positions rowNumbers = h.moved (distance rowNumbers) ∧ 1 ≤ last ∧ last ≤ count := by
    intro last is_last all
    have nonempty : rowNumbers ≠ [] := by
      rintro rfl
      cases is_last
    refine ⟨positions_eq result nonempty fun rowNumber member => ?_, all last (mem_of_getLast? is_last)⟩
    have here := all rowNumber member
    omega
  constructor
  · intro asked
    refine ⟨succeeds.mp asked.succeeds, fun all => ?_⟩
    cases is_last : rowNumbers.getLast? with
    | none => exact Or.inl (getLast?_eq_none_iff.mp is_last)
    | some last =>
      obtain ⟨moved, range⟩ := moves last is_last all
      have current := asked.current all last is_last
      have fetches := asked.fetches all
      rw [moved] at current fetches
      obtain ⟨turns, rfl, seeks⟩ := (moved_iff at_ range _).mp ⟨current, fetches⟩
      exact Or.inr ⟨turns, rfl, seeks⟩
  · rintro ⟨apart, positionable⟩
    have both : ∀ last, rowNumbers.getLast? = some last →
        (∀ rowNumber ∈ rowNumbers, 1 ≤ rowNumber ∧ rowNumber ≤ count) →
        2 ^ 64 ∣ distance rowNumbers ∧ last = 1 ∧ (1 < count ∨ start + 1 = rows.length) := by
      intro last is_last all
      rcases positionable all with rfl | ⟨turns, first, seeks⟩
      · cases is_last
      · rw [is_last, Option.some_inj] at first
        exact ⟨turns, first, seeks⟩
    refine ⟨succeeds.mpr apart, fun all last is_last => ?_, fun all => ?_⟩
    · obtain ⟨moved, range⟩ := moves last is_last all
      rw [moved]
      exact ((moved_iff at_ range _).mpr (both last is_last all)).1
    · cases is_last : rowNumbers.getLast? with
      | none =>
        rw [getLast?_eq_none_iff.mp is_last]
        exact fun orientation _ offset => rfl
      | some last =>
        obtain ⟨moved, range⟩ := moves last is_last all
        rw [moved]
        exact ((moved_iff at_ range _).mpr (both last is_last all)).2

/-- A rowset of two rows that was just fetched. -/
def xy : List Row := [[some (lit "x")], [some (lit "y")]]

@[inherit_doc xy]
def openedXy : RowCursor := { result := xy, numRows := 2, resultCursor := xy, arraySize := 2 }

@[inherit_doc xy]
def fetchedXy : RowHandle :=
  ⟨{ (openedXy.scroll {} ⟨.first, 0, 2⟩).2 with arraySize := 2 },
    ({} : RowReader).afterFetch {} (openedXy.scrollReads {} .first 0)⟩

theorem positions_first : PositionsAsAsked {} {} xy 0 2 fetchedXy [1, 1] := by
  have small : ScrollCall.Small ⟨.first, 0, 2⟩ := by decide
  have tracks : RowCursor.Tracks xy openedXy :=
    RowCursor.Opened.tracks ⟨rfl, rfl, rfl, rfl, rfl, rfl⟩
  have columns : ∀ i text, (xy.getD 0 []).value i = some text →
      (({} : ReadEnv).info i).fieldType ≠ .bit ∧ ReadEnv.KeepsLength {} i text :=
    fun i text _ => ⟨FieldType.noConfusion, fun ardType bound => by cases bound⟩
  have at_ : AtRowset {} {} xy 0 2 fetchedXy :=
    atRowset_scroll rfl (FetchEnv.clean_default xy) small (by decide) tracks rfl (by decide) columns
      (by decide) (by decide) {}
  have positionable : Positionable xy.length 0 2 [1, 1] :=
    ⟨by decide, fun _ => Or.inr ⟨Nat.dvd_zero _, rfl, Or.inl (by decide)⟩⟩
  exact (positions_iff at_ [1, 1]).mpr positionable

/-- The second row: `SQLGetData` still hands over the first one. -/
theorem positions_second :
    (fetchedXy.setPosition 2).1 = .success ∧
      getPieces {} 0 (fetchedXy.positions [2]).reader [⟨.char, [1, 1], 0⟩] =
        [⟨.success, lit "00000", lit "x", some 1⟩] ∧
      ¬ PositionsAsAsked {} {} xy 0 2 fetchedXy [2] := by
  have read : getPieces {} 0 (fetchedXy.positions [2]).reader [⟨.char, [1, 1], 0⟩] =
      [⟨.success, lit "00000", lit "x", some 1⟩] := by decide +kernel
  refine ⟨by decide +kernel, read, fun asked => ?_⟩
  have hands := (asked.current (by decide) 2 rfl).2 0 [⟨.char, [1, 1], 0⟩] (by decide)
  rw [read] at hands
  exact absurd hands (by decide)

end RowHandle

end MaOdbc
