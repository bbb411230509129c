/-
**A rowset and its rows.**

`MADB_StmtFetch` on rows whose values can all be converted, with an indicator for every bound column.

* `fixRow_clean`: such a row is fixed without a word, and nothing is reported for it.
* `fetchRows_forward`, `fetchRows_scroll`: the loop in order, and from the second row on with the first
  row last. Both bring each row of the rowset into the slot of its number (`Brings`).
* `stmtFetch_cached`: the rowset at a position of a cached result, and where the row cursor and
  `Cursor.Next` are left.
-/

import MaOdbc.Cursor.Rows

namespace MaOdbc

open List FetchEnv

variable {chunk shown : List Row} {c' : RowCursor} {placed : List (Row × Nat)} {start i : Nat}

namespace FetchEnv

variable (env : FetchEnv)

/-- All values of a row in bound columns can be converted. -/
def Converts (row : Row) : Prop :=
  ∀ i column text, env.column i = some column → row.value i = some text →
    (env.convert i text).code = .success ∧ (env.convert i text).fixing = .fixed

/-- Nothing stands in the way of fetching rows: the result has columns that can be bound, every bound
column has an indicator, and all values can be converted. -/
structure Clean (rows : List Row) : Prop where
  columns : env.columnCount ≠ 0
  bookmarks : env.bookmarkMismatch = false
  bind : env.prepareBind = none
  indicator : ∀ i column, env.column i = some column → column.hasIndicator = true
  converts : ∀ row ∈ rows, env.Converts row

variable {env} in
theorem Clean.ready {rows : List Row} (clean : env.Clean rows) : env.Ready :=
  ⟨clean.columns, clean.bookmarks, clean.bind⟩

variable {env} in
theorem Clean.of_subset {rows rows' : List Row} (clean : env.Clean rows) (subset : rows' ⊆ rows) :
    env.Clean rows' :=
  { clean with converts := fun row member => clean.converts row (subset member) }

theorem Clean.each {env : FetchEnv} (clean : env.Clean chunk) (start : Nat) :
    ∀ item ∈ chunk.zipIdx start, env.Clean [item.1] := by
  intro item member
  exact clean.of_subset (cons_subset.mpr ⟨fst_mem_of_mem_zipIdx member, nil_subset chunk⟩)

theorem clean_default (rows : List Row) : ({} : FetchEnv).Clean rows := by
  refine ⟨by decide, rfl, rfl, fun i column bound => ?_, fun _ _ _ _ _ _ _ => ⟨rfl, rfl⟩⟩
  have member : column ∈ [({} : Column)] :=
    mem_of_getElem? (Option.filter_eq_some_iff.mp bound).1
  rw [mem_singleton.mp member]

end FetchEnv

namespace RowCursor

variable {env : FetchEnv} {c : RowCursor} {rows rest saveCursor : List Row} {row : Row} {rowNum : Nat}

/-! ### One row -/

theorem convertRow_success (converts : env.Converts row) : convertRow env row = .success := by
  rw [convertRow]
  refine List.foldlRecOn (motive := fun code => code = ConvertCode.success) (range env.columnCount) _ rfl ?_
  intro code success i _
  split
  · rename_i column text bound value
    rw [success, (converts i column text bound value).1]
    rfl
  · exact success

section

variable (clean : env.Clean [row])

include clean

theorem fixRow_clean : env.fixRow row = { reach := env.columnCount } := by
  have step : ∀ i, env.fixStep row i { reach := i } = .next { reach := i + 1 } := by
    intro i
    rw [fixStep]
    cases bound : env.column i with
    | none => rfl
    | some column =>
      cases value : row.value i with
      | none =>
        dsimp only
        rw [if_pos (clean.indicator i column bound)]
      | some text =>
        have converts := clean.converts row (mem_singleton_self row) i column text bound value
        dsimp only
        rw [converts.2]
  have columns : ∀ count i, forEach (env.fixStep row) (range' i count) { reach := i } =
      .next { reach := i + count } := by
    intro count
    induction count with
    | zero => exact fun i => rfl
    | succ count ih =>
      intro i
      rw [range'_succ, forEach_cons, step]
      dsimp only
      rw [ih, Nat.add_right_comm]
      rfl
  rw [fixRow, range_eq_range', columns, Nat.zero_add]

theorem truncationDiag_clean : env.truncationDiag row = none := by
  rw [truncationDiag, convertRow_success (clean.converts row (mem_singleton_self row))]
  exact if_neg (by decide)

theorem rowResult_clean : env.rowResult row = .success := by
  rw [rowResult, fixRow_clean clean, truncationDiag_clean clean]
  rfl

theorem rewinds_clean : env.rewinds row = false := by
  rw [rewinds, fixRow_clean clean]

end

theorem calcAllRowsRc_success (rowNum : Nat) : calcAllRowsRc .success .success rowNum = .success := by
  rw [calcAllRowsRc]
  split
  · rfl
  · exact if_neg fun differ => differ rfl

variable (env c) in
def miss (rowNum : Nat) : RowCursor :=
  { c.storeBookmark env rowNum with
    rowsProcessed := (c.rowsProcessed.map (· + 1)).map (· - 1)
    position := if c.position < 0 then 0 else c.position }

theorem fetchRow_misses (bind : env.prepareBind = none) {rows2Fetch j : Nat}
    (seeks : c.seekRow rows2Fetch saveCursor j = (rowNum, c')) (none_left : c'.source env = [])
    (quiet : c'.error.returnValue.succeeded = true)
    (ended : env.noCache = true → env.readError = none) (ret : SqlReturn) :
    fetchRow env rows2Fetch saveCursor j (ret, c) =
      if 0 < rowNum then .next (ret, c'.miss env rowNum) else .leave (.noData, c'.miss env rowNum) := by
  have missed : (c'.storeBookmark env rowNum).fetchRowCsps env = (none, c'.storeBookmark env rowNum) := by
    rw [source] at none_left
    rw [fetchRowCsps]
    split
    · rename_i noCache
      rw [if_pos noCache] at none_left
      have left : (c'.storeBookmark env rowNum).unread = [] := none_left
      rw [left, ended noCache]
    · rename_i cached
      rw [if_neg cached] at none_left
      have left : (c'.storeBookmark env rowNum).resultCursor = [] := none_left
      rw [left]
  have fetched : (c'.storeBookmark env rowNum).fetchCsps env =
      (.noData, [], c'.storeBookmark env rowNum) := by
    rw [fetchCsps, missed]
    exact congrArg (·, [], c'.storeBookmark env rowNum) (if_pos quiet)
  rw [fetchRow, seeks, bind]
  dsimp only
  rw [fetched]
  rfl

/-! ### The loop -/

theorem acceptResult_clean (clean : ∀ item ∈ placed, env.Clean [item.1]) :
    acceptResult env .success placed = .success := by
  induction placed with
  | nil => rfl
  | cons item placed ih =>
    rw [acceptResult, foldl_cons, rowResult_clean (clean item mem_cons_self),
      calcAllRowsRc_success]
    exact ih fun later member => clean later (mem_cons_of_mem item member)

theorem acceptDiag_clean (clean : env.Clean chunk) (error : Diag) :
    acceptDiag env error chunk = error := by
  induction chunk with
  | nil => rfl
  | cons row chunk ih =>
    have here : env.Clean [row] := clean.of_subset (cons_subset_cons row (nil_subset chunk))
    rw [acceptDiag, foldl_cons, rowDiag, fixRow_clean here, truncationDiag_clean here,
      convertRow_success (here.converts row (mem_singleton_self row))]
    exact ih (clean.of_subset (subset_cons_self row chunk))

theorem rewinds_of_clean (clean : env.Clean chunk) : ∀ row ∈ chunk, env.rewinds row = false := by
  intro row member
  exact rewinds_clean (clean.of_subset (cons_subset.mpr ⟨member, nil_subset chunk⟩))

theorem fetchRows_forward (clean : env.Clean chunk)
    (forward : env.cursorType = .forwardOnly ∨ chunk.length ≤ 1)
    (reads : c.source env = chunk ++ rest) :
    c.fetchRows env chunk.length =
      (.success, (chunk.zipIdx.foldl (accept env) c.beginRowset).setSource env rest) := by
  rw [fetchRows_accepts clean.bind forward reads, acceptResult_clean (clean.each 0)]

theorem fetchRows_scroll {first : Row} (clean : env.Clean (first :: chunk))
    (scrollable : env.cursorType ≠ .forwardOnly) (several : chunk ≠ [])
    (reads : c.resultCursor = first :: chunk ++ rest) :
    c.fetchRows env (first :: chunk).length =
      (.success, { (chunk.zipIdx 1 ++ [(first, 0)]).foldl (accept env) c.beginRowset with
        next := rest
        resultCursor := chunk ++ rest }) := by
  rw [cons_append] at reads
  have others : env.Clean chunk := clean.of_subset (subset_cons_self first chunk)
  have cleaned : env.Clean [first] :=
    clean.of_subset (cons_subset_cons first (nil_subset chunk))
  have straight : c.resultCursor = [] ∨ ∀ row ∈ chunk, env.rewinds row = false :=
    Or.inr (rewinds_of_clean others)
  obtain ⟨rows, last, some⟩ := iterate_advance straight
  have placed : ∀ item ∈ chunk.zipIdx 1 ++ [(first, 0)], env.Clean [item.1] := by
    intro item member
    rcases mem_append.mp member with inside | first
    · exact others.each 1 item inside
    · obtain rfl := mem_singleton.mp first
      exact cleaned
  have behind : env.advance c.resultCursor c.resultCursor = chunk ++ rest := by
    refine (if_neg fun back => ?_).trans (by rw [reads]; rfl)
    rw [reads] at back
    exact Bool.noConfusion ((rewinds_clean cleaned).symm.trans back.1)
  obtain ⟨fetched, -⟩ :=
    fetchRows_accepts_scroll clean.bind scrollable (length_pos_of_ne_nil several) reads some
  rw [length_cons, fetched, rows, last, acceptResult_clean placed, behind]

/-! ### The rows of a rowset -/

variable (env) in
/-- A call brings rows into the slots of the rowset, from the first slot on, and tells how many they are.
The other slots stay as they are. -/
structure Brings (shown : List Row) (c c' : RowCursor) : Prop where
  slot : ∀ i row, shown[i]? = some row → c'.buffers i = env.stored row (c.buffers i)
  others : ∀ i, shown.length ≤ i → c'.buffers i = c.buffers i
  processed : c'.rowsProcessed = c.rowsProcessed.map fun _ => shown.length
  status : c'.rowStatus = c.rowStatus.map fun status i =>
    if i < shown.length then .success else if i < c.arraySize then .noRow else status i
  last : c'.lastRowFetched = shown.length

/-- **Rows that are fetched in any order** are brought into their slots. -/
theorem brings_foldl_accept (clean : env.Clean shown) (order : placed.Perm shown.zipIdx)
    {c c₀ : RowCursor} (begun : c₀.beginRowset.buffers = c.buffers)
    (processed : c₀.rowsProcessed = c.rowsProcessed) (status : c₀.rowStatus = c.rowStatus)
    (size : c₀.arraySize = c.arraySize) (fresh : c₀.lastRowFetched = 0) :
    Brings env shown c (placed.foldl (accept env) c₀.beginRowset) := by
  have slots : (placed.map Prod.snd).Perm (range' 0 shown.length) := by
    rw [← zipIdx_map_snd]
    exact order.map Prod.snd
  have inside : ∀ i, i ∈ placed.map Prod.snd ↔ i < shown.length := by
    intro i
    rw [slots.mem_iff, mem_range'_1]
    omega
  have length : placed.length = shown.length := by
    rw [order.length_eq, length_zipIdx]
  have nodup : (placed.map Prod.snd).Nodup := slots.nodup_iff.mpr nodup_range'
  obtain ⟨counted, last⟩ := foldl_accept_counts env placed c₀.beginRowset
  constructor
  · intro i row at_slot
    have member : (row, i) ∈ placed :=
      order.mem_iff.mpr (mem_zipIdx_iff_getElem?.mpr at_slot)
    rw [foldl_accept_buffers nodup member, begun]
  · intro i outside
    rw [foldl_accept_buffers_of_notMem (fun member => by have := (inside i).mp member; omega), begun]
  · rw [counted, beginRowset, processed, Option.map_map, length]
    refine congrArg (Option.map · c.rowsProcessed) (funext fun count => Nat.zero_add _)
  · rw [foldl_accept_status, beginRowset, status, size, Option.map_map]
    refine congrArg (Option.map · c.rowStatus) (funext fun status => funext fun i => ?_)
    rw [Function.comp_apply]
    split
    · rename_i within
      obtain ⟨⟨row, _⟩, member, rfl⟩ := mem_map.mp ((inside i).mpr within)
      have clean_row : env.Clean [row] := clean.each 0 _ (order.mem_iff.mp member)
      rw [acceptStatus_of_mem nodup member, rowResult_clean clean_row]
      rfl
    · rename_i outside
      exact acceptStatus_of_notMem (fun member => outside ((inside i).mp member)) _
  · rw [last, length]
    show c₀.lastRowFetched + _ = _
    rw [fresh, Int.zero_add]

/-! ### A rowset of a cached result -/

theorem brings_begun (clean : env.Clean shown) (order : placed.Perm shown.zipIdx) (c : RowCursor) :
    let c' := placed.foldl (accept env) c.begun.beginRowset
    Brings env shown c c' ∧ c'.result = c.result ∧ c'.numRows = c.numRows ∧ c'.next = c.next ∧
      (0 ≤ c.position → c'.position = c.position) := by
  obtain ⟨result, counts, next, -, position⟩ := foldl_accept_same env placed c.begun.beginRowset
  exact ⟨brings_foldl_accept clean order rfl rfl rfl rfl rfl, result, counts, next, position⟩

variable (env) in
/-- A call shows the rowset at a position of a result. The row cursor is left behind the rowset, or, in a
scrollable cursor with a rowset of several rows, `Cursor.Next` is. -/
structure ShowsRowset (rows : List Row) (start : Nat) (c c' : RowCursor) : Prop where
  brings : Brings env ((rows.drop start).take c.arraySize) c c'
  position : c'.position = start
  result : c'.result = c.result
  numRows : c'.numRows = c.numRows
  next_of_scroll : 1 < c'.lastRowFetched → env.cursorType ≠ .forwardOnly →
    c'.next = rows.drop (start + c'.lastRowFetched.toNat)
  cursor_of_forward : c'.lastRowFetched ≤ 1 ∨ env.cursorType = .forwardOnly →
    c'.resultCursor = rows.drop (start + c'.lastRowFetched.toNat)

theorem length_rowset (rows : List Row) (start size : Nat) :
    ((rows.drop start).take size).length = min size (rows.length - start) := by
  rw [length_take, length_drop]

theorem getElem?_rowset {size : Nat} (inside : i < min size (rows.length - start)) :
    ((rows.drop start).take size)[i]? = some (rows.getD (start + i) []) := by
  have within : start + i < rows.length := by omega
  rw [getElem?_take_of_lt (by omega), getElem?_drop, getD_eq_getElem?_getD, getElem?_eq_getElem within]
  rfl

theorem ShowsRowset.slot_eq (shows : ShowsRowset env rows start c c')
    (inside : i < min c.arraySize (rows.length - start)) :
    c'.buffers i = env.stored (rows.getD (start + i) []) (c.buffers i) :=
  shows.brings.slot i _ (getElem?_rowset inside)

theorem rowsToFetch_eq (numRows : c.numRows = rows.length) (position : c.position = start)
    (inside : start < rows.length) (small : start + c.rowsetSize < 2 ^ 64) :
    c.rowsToFetch = ((rows.drop start).take c.rowsetSize).length := by
  rw [length_rowset, rowsToFetch, position, numRows, Int.toNat_natCast, Nat.mod_eq_of_lt small]
  split
  · omega
  · omega

/-- **The rowset at a position of a cached result.** -/
theorem stmtFetch_cached (clean : env.Clean rows) (cached : env.noCache = false)
    (numRows : c.numRows = rows.length) (position : c.position = start)
    (cursor : c.resultCursor = rows.drop start) (inside : start < rows.length)
    (sized : 1 ≤ c.arraySize) (small : start + c.arraySize < 2 ^ 64) :
    (c.stmtFetch env).1 = .success ∧ ShowsRowset env rows start c (c.stmtFetch env).2 := by
  generalize shown_eq : (rows.drop start).take c.arraySize = shown
  have length : shown.length = min c.arraySize (rows.length - start) := by
    rw [← shown_eq, length_rowset]
  have count : (if env.noCache then c.arraySize else c.begun.rowsToFetch) = shown.length := by
    have fetched : c.begun.rowsToFetch = ((rows.drop start).take c.arraySize).length :=
      rowsToFetch_eq numRows position inside small
    rw [cached, if_neg Bool.false_ne_true, fetched, shown_eq]
  have split : rows.drop start = shown ++ rows.drop (start + shown.length) := by
    have same : shown = (rows.drop start).take shown.length := by
      rw [length, ← length_drop, ← take_eq_take_min, shown_eq]
    have cut := (take_append_drop shown.length (rows.drop start)).symm
    rwa [← same, drop_drop] at cut
  have cleaned : env.Clean shown := by
    refine clean.of_subset ?_
    rw [← shown_eq]
    exact List.Subset.trans (take_subset _ _) (drop_subset _ _)
  have reads : c.begun.source env = shown ++ rows.drop (start + shown.length) := by
    rw [source, cached, ← split]
    exact cursor
  have started : 0 ≤ c.position := by
    rw [position]
    exact Int.natCast_nonneg start
  rw [stmtFetch_begun clean.ready sized count (by rw [length]; omega)]
  -- in whatever order the rows are fetched, the handle shows them
  have shows : ∀ {placed : List (Row × Nat)} {next cursor : List Row}, placed.Perm shown.zipIdx →
      (1 < shown.length → env.cursorType ≠ .forwardOnly → next = rows.drop (start + shown.length)) →
      (shown.length ≤ 1 ∨ env.cursorType = .forwardOnly → cursor = rows.drop (start + shown.length)) →
      ShowsRowset env rows start c { placed.foldl (accept env) c.begun.beginRowset with
        next := next, resultCursor := cursor } := by
    intro placed next cursor order onwards behind
    obtain ⟨brings, result, counts, -, place⟩ := brings_begun cleaned order c
    have last := brings.last
    refine ⟨?_, (place started).trans position, result, counts, ?_, ?_⟩
    · rw [shown_eq]
      exact ⟨brings.slot, brings.others, brings.processed, brings.status, brings.last⟩
    · dsimp only
      rw [last, Int.toNat_natCast]
      exact fun several => onwards (by omega)
    · dsimp only
      rw [last, Int.toNat_natCast]
      exact fun single => behind (single.imp_left fun _ => by omega)
  by_cases forward : env.cursorType = .forwardOnly ∨ shown.length ≤ 1
  · rw [fetchRows_forward cleaned forward reads, setSource, cached]
    refine ⟨rfl, shows (List.Perm.refl _) (fun several scrollable => ?_) fun _ => rfl⟩
    exact absurd several (Nat.not_lt.mpr (forward.resolve_left scrollable))
  · obtain ⟨scrollable, several⟩ := not_or.mp forward
    obtain ⟨first, chunk, rfl⟩ : ∃ first chunk, shown = first :: chunk :=
      exists_cons_of_ne_nil (ne_nil_of_length_pos (by omega))
    have more : chunk ≠ [] := by
      rintro rfl
      exact several (Nat.le_refl 1)
    have order : (chunk.zipIdx 1 ++ [(first, 0)]).Perm (first :: chunk).zipIdx := by
      rw [zipIdx_cons]
      exact perm_append_singleton _ _
    rw [source, cached] at reads
    rw [fetchRows_scroll cleaned scrollable more reads]
    exact ⟨rfl, shows order (fun _ _ => rfl) fun single => absurd single (not_or.mpr ⟨several, scrollable⟩)⟩

theorem fetchRows_none (bind : env.prepareBind = none) (none_left : c.source env = [])
    (ended : env.noCache = true → env.readError = none) {count : Nat} (some : 1 ≤ count)
    (unscrolled : ¬ (1 < count ∧ env.cursorType ≠ .forwardOnly)) :
    c.begun.fetchRows env count = (.noData, c.begun.beginRowset.miss env 0) ∧
      Brings env [] c (c.begun.beginRowset.miss env 0) := by
  obtain ⟨more, rfl⟩ : ∃ more, count = more + 1 := ⟨count - 1, by omega⟩
  have seeks : c.begun.beginRowset.seekRow (more + 1) [] 0 = (0, c.begun.beginRowset) := rfl
  have left : c.begun.beginRowset.source env = [] := none_left
  constructor
  · rw [fetchRows, if_neg unscrolled, if_neg unscrolled, range_eq_range', range'_succ, forEach_cons,
      fetchRow_misses bind seeks left rfl ended .success]
    rfl
  · refine ⟨fun i row none => ?_, fun i _ => rfl, ?_, ?_, rfl⟩
    · cases none
    · show ((c.rowsProcessed.map fun _ => 0).map (· + 1)).map (· - 1) = c.rowsProcessed.map fun _ => 0
      rw [Option.map_map, Option.map_map]
      rfl
    · exact congrArg (Option.map · c.rowStatus) (funext fun status => funext fun i =>
        (if_neg (Nat.not_lt_zero i)).symm)

theorem stmtFetch_empty (clean : env.Clean rows) (cached : env.noCache = false) (numRows : c.numRows = 0)
    (cursor : c.resultCursor = []) (sized : 1 ≤ c.arraySize) (small : c.position.toNat + c.arraySize < 2 ^ 64) :
    (c.stmtFetch env).1 = .noData ∧
      let c' := (c.stmtFetch env).2
      Brings env [] c c' ∧ c'.result = c.result ∧ c'.numRows = c.numRows ∧ c'.resultCursor = [] ∧
        c'.next = c.next ∧ c'.position = if c.position < 0 then 0 else c.position := by
  have count : (if env.noCache then c.arraySize else c.begun.rowsToFetch) = 1 := by
    have fetched : c.begun.rowsToFetch = 1 := by
      rw [rowsToFetch]
      show (if c.numRows < (c.position.toNat + c.arraySize) % 2 ^ 64 then _ else _) = _
      rw [numRows, Nat.mod_eq_of_lt small, if_pos (by omega)]
      show (if c.position.toNat < c.numRows then _ else _) = _
      rw [numRows, if_neg (Nat.not_lt_zero _)]
    rw [cached, if_neg Bool.false_ne_true, fetched]
  have none_left : c.source env = [] := by
    rw [source, cached]
    exact cursor
  have ended : env.noCache = true → env.readError = none := by
    rw [cached]
    exact fun streamed => Bool.noConfusion streamed
  obtain ⟨fetched, brings⟩ :=
    fetchRows_none clean.bind none_left ended (Nat.le_refl 1) fun scrolls => Nat.lt_irrefl 1 scrolls.1
  rw [stmtFetch_begun clean.ready sized count (Nat.le_refl 1), fetched]
  exact ⟨rfl, brings, rfl, rfl, cursor, rfl, rfl⟩

end RowCursor

end MaOdbc
