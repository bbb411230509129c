/-
**A forward-only cursor.**

Calls for the next rowset one after another, each with a rowset size of its own. The result is cached, or
its rows are read from the server as they are asked for (`NO_CACHE`), without knowing how many there are.

* `Cached`, `Streamed`: what holds between the calls, when some rows have been asked for.
* `fetchNext_cached_inside`, `fetchNext_streamed`: what a call does. Both bring the same rows into the same slots.
* `fetchNext_delivers_iff`: a run of calls. A cached result that has rows and is at its end returns
  `SQL_NO_DATA` before it touches the count of the rows, where `NO_CACHE` sets it to 0.
-/

import MaOdbc.Cursor.Scroll

namespace MaOdbc

open List

namespace RowCursor

variable (env : FetchEnv) (c : RowCursor)

def fetchNext (size : Nat) : SqlReturn × RowCursor := c.scroll env ⟨.next, 0, size⟩

/-- A call delivers a rowset, when some rows have been asked for already: the rows that follow them, as many
as there are, and their number. -/
structure Delivers (rows : List Row) (asked size : Nat) : Prop where
  slot : ∀ i < min size (rows.length - asked),
    (c.fetchNext env size).2.buffers i = env.stored (rows.getD (asked + i) []) (c.buffers i)
  others : ∀ i, min size (rows.length - asked) ≤ i →
    (c.fetchNext env size).2.buffers i = c.buffers i
  processed : (c.fetchNext env size).2.rowsProcessed =
    c.rowsProcessed.map fun _ => min size (rows.length - asked)
  success : asked < rows.length → (c.fetchNext env size).1 = .success
  ended : rows.length ≤ asked → (c.fetchNext env size).1 = .noData

def DeliversAll (rows : List Row) : Nat → RowCursor → List Nat → Prop
  | _, _, [] => True
  | asked, c, size :: sizes =>
    c.Delivers env rows asked size ∧ DeliversAll rows (asked + size) (c.fetchNext env size).2 sizes

structure OpenedForward (rows : List Row) : Prop where
  reads : c.source env = rows
  numRows : env.noCache = false → c.numRows = rows.length
  position : c.position = -1
  lastRowFetched : c.lastRowFetched = 0

/-- What holds of a cached result when some rows have been asked for. -/
structure Cached (rows : List Row) (asked : Nat) (c : RowCursor) : Prop where
  numRows : c.numRows = rows.length
  cursor : c.resultCursor = rows.drop asked
  lower : -1 ≤ c.position
  upper : c.position ≤ rows.length
  nonneg : 0 ≤ c.lastRowFetched
  bounded : c.lastRowFetched ≤ rows.length
  inside : asked < rows.length →
    (if c.position < 0 then 0 else c.position + c.lastRowFetched) = asked
  past : rows.length ≤ asked →
    rows.length ≤ if c.position < 0 then 0 else c.position + c.lastRowFetched

structure Streamed (rows : List Row) (asked : Nat) (c : RowCursor) : Prop where
  unread : c.unread = rows.drop asked
  position : c.position = -1 ∨ c.position = 0
  nonneg : 0 ≤ c.lastRowFetched
  small : c.lastRowFetched < 2 ^ 31

variable {env c} {rows : List Row} {asked size : Nat}

/-! ### A call -/

theorem fetchNext_eq (steady : env.cursorType ≠ .dynamic) {position : Int}
    (target : (if c.position < 0 then 0 else c.position + c.lastRowFetched) = position)
    (lower : 0 ≤ position) (upper : position < 2 ^ 63) :
    c.fetchNext env size =
      ({ c with arraySize := size } : RowCursor).fetchAt env .next c.lastRowFetched position := by
  have requested : c.requested env ⟨.next, 0, size⟩ = .ok position := by
    rw [requested, scrollPosition]
    show Except.ok (if c.position < 0 then 0 else toSqlLen (c.position + c.lastRowFetched)) = _
    rw [← target] at lower upper ⊢
    split
    · rfl
    · rename_i started
      rw [if_neg started] at lower upper
      rw [toSqlLen_of_small (by omega) upper]
  exact scroll_eq_fetchAt steady (fun _ => rfl) requested

variable (env) in
/-- Rowsets that are read straight on: those of a forward-only cursor, and those of one row unless the cursor
is dynamic. -/
def Straight (size : Nat) (lastRowFetched : Int) : Prop :=
  env.cursorType = .forwardOnly ∨ env.cursorType ≠ .dynamic ∧ size ≤ 1 ∧ lastRowFetched ≤ 1

theorem steady_of_forward (forward : env.cursorType = .forwardOnly) : env.cursorType ≠ .dynamic := by
  rw [forward]
  decide

theorem Straight.steady {last : Int} (straight : Straight env size last) : env.cursorType ≠ .dynamic := by
  exact straight.elim steady_of_forward And.left

theorem seekRowset_straight {last : Int} (straight : Straight env size last) :
    c.seekRowset env .next last = (.success, c) := by
  rw [seekRowset]
  refine if_neg ?_
  rintro (other | ⟨several, scrolls⟩ | dynamic)
  · exact other rfl
  · exact straight.elim scrolls fun single => absurd single.2.2 (Int.not_le.mpr several)
  · exact straight.steady dynamic

theorem seekRowset_forward (forward : env.cursorType = .forwardOnly) (rowsProcessed : Int) :
    c.seekRowset env .next rowsProcessed = (.success, c) :=
  seekRowset_straight (.inl forward : Straight env 0 rowsProcessed)

theorem delivers_of_brings {c₀ : RowCursor} (buffers : c₀.buffers = c.buffers)
    (processed : c₀.rowsProcessed = c.rowsProcessed)
    (brings : Brings env ((rows.drop asked).take size) c₀ (c.fetchNext env size).2)
    (success : asked < rows.length → (c.fetchNext env size).1 = .success)
    (ended : rows.length ≤ asked → (c.fetchNext env size).1 = .noData) :
    c.Delivers env rows asked size := by
  have length := length_rowset rows asked size
  refine ⟨fun i inside => ?_, fun i outside => ?_, ?_, success, ended⟩
  · rw [← buffers]
    exact brings.slot i _ (getElem?_rowset inside)
  · rw [← buffers]
    exact brings.others i (by rw [length]; exact outside)
  · rw [← length, ← processed]
    exact brings.processed

/-! ### A cached result -/

theorem OpenedForward.cached (opened : c.OpenedForward env rows) (cached : env.noCache = false) :
    Cached rows 0 c := by
  have reads := opened.reads
  rw [source, cached] at reads
  have position := opened.position
  have last := opened.lastRowFetched
  refine ⟨opened.numRows cached, reads, by omega, by omega, by omega, by omega, fun _ => ?_, fun none => ?_⟩
  · exact if_pos (by omega)
  · rw [if_pos (by omega)]
    omega

theorem fetchNext_cached_inside (straight : Straight env size c.lastRowFetched) (clean : env.Clean rows)
    (cached : env.noCache = false) (fits : rows.length < 2 ^ 62) (sized : 1 ≤ size) (small : size < 2 ^ 31)
    (state : Cached rows asked c) (inside : asked < rows.length) :
    c.Delivers env rows asked size ∧ Cached rows (asked + size) (c.fetchNext env size).2 ∧
      (c.fetchNext env size).2.lastRowFetched ≤ size := by
  have called : c.fetchNext env size =
      ({ c with arraySize := size } : RowCursor).fetchAt env .next c.lastRowFetched asked :=
    fetchNext_eq straight.steady (state.inside inside) (Int.natCast_nonneg asked) (by omega)
  have numRows : ({ c with arraySize := size } : RowCursor).numRows = rows.length := state.numRows
  have sought : ({ c with arraySize := size, position := (asked : Int) } : RowCursor).seekRowset env .next
      c.lastRowFetched = (.success, { c with
        arraySize := size, position := (asked : Int), resultCursor := rows.drop asked }) := by
    rw [seekRowset_straight straight, ← state.cursor]
  obtain ⟨returned, shows⟩ := fetchAt_shows clean cached numRows (by omega) inside sized
    (by show asked + size < 2 ^ 64; omega) sought
  rw [← called] at returned shows
  have brings : Brings env ((rows.drop asked).take size) { c with arraySize := size }
    (c.fetchNext env size).2 := shows.brings
  constructor
  · exact delivers_of_brings (by rfl) (by rfl) brings (fun _ => returned)
      (fun ended => absurd inside (Nat.not_lt.mpr ended))
  · have last : (c.fetchNext env size).2.lastRowFetched = (min size (rows.length - asked) : Nat) := by
      rw [← length_rowset]
      exact brings.last
    have place := shows.position
    have cursor := shows.cursor_of_forward (straight.elim Or.inr fun single => Or.inl (by rw [last]; omega))
    rw [last, Int.toNat_natCast] at cursor
    refine ⟨⟨shows.numRows.trans numRows, ?_, by omega, by omega, by omega,
      by omega, fun more => ?_, fun ended => ?_⟩, by omega⟩
    · rw [cursor]
      rcases Nat.le_total size (rows.length - asked) with whole | part
      · rw [Nat.min_eq_left whole]
      · rw [drop_eq_nil_of_le (by omega), drop_eq_nil_of_le (by omega)]
    · rw [if_neg (by omega)]
      omega
    · rw [if_neg (by omega)]
      omega

theorem fetchNext_cached_past (size : Nat) (steady : env.cursorType ≠ .dynamic)
    (cached : env.noCache = false) (fits : rows.length < 2 ^ 62) (some : 0 < rows.length)
    (state : Cached rows asked c) (past : rows.length ≤ asked) :
    (c.fetchNext env size).1 = .noData ∧ (c.fetchNext env size).2.buffers = c.buffers ∧
      (c.fetchNext env size).2.rowsProcessed = c.rowsProcessed ∧
      Cached rows (asked + size) (c.fetchNext env size).2 := by
  have target := state.past past
  have upper := state.upper
  have bounded := state.bounded
  have numRows : ({ c with arraySize := size } : RowCursor).numRows = rows.length := state.numRows
  have called : c.fetchNext env size =
      (.noData, { c with arraySize := size, position := (c.numRows : Int) }) := by
    rw [fetchNext_eq steady rfl (by omega) (by split <;> omega)]
    exact fetchAt_after cached (by rw [numRows]; omega) (by rw [numRows]; exact some)
      (by rw [numRows]; exact target)
  rw [called]
  have nonneg := state.nonneg
  have count := state.numRows
  refine ⟨rfl, rfl, rfl, count, ?_, ?_, ?_, nonneg, bounded, fun more => by omega, fun _ => ?_⟩
  · show c.resultCursor = _
    rw [state.cursor, drop_eq_nil_of_le past, drop_eq_nil_of_le (by omega)]
  · show -1 ≤ (c.numRows : Int)
    omega
  · show (c.numRows : Int) ≤ rows.length
    omega
  · show (rows.length : Int) ≤ if (c.numRows : Int) < 0 then 0 else (c.numRows : Int) + c.lastRowFetched
    rw [if_neg (by omega)]
    omega

theorem fetchNext_cached_empty (straight : Straight env size c.lastRowFetched) (clean : env.Clean [])
    (cached : env.noCache = false) (sized : 1 ≤ size) (small : size < 2 ^ 31)
    (state : Cached [] asked c) :
    c.Delivers env [] asked size ∧ Cached [] (asked + size) (c.fetchNext env size).2 := by
  have target := state.past (Nat.zero_le asked)
  have bounded : c.lastRowFetched ≤ 0 := state.bounded
  have nonneg := state.nonneg
  have upper : c.position ≤ 0 := state.upper
  have zero : (if c.position < 0 then 0 else c.position + c.lastRowFetched) = 0 := by
    split <;> omega
  obtain ⟨c', sought⟩ : ∃ c' : RowCursor, c' = { c with arraySize := size, position := 0 } := ⟨_, rfl⟩
  have numRows : c.numRows = 0 := state.numRows
  have cursor : c.resultCursor = [] := state.cursor.trans drop_nil
  obtain ⟨returned, brings, -, numRows', cursor', -, place⟩ :=
    stmtFetch_empty (c := c') clean cached (by rw [sought]; exact numRows) (by rw [sought]; exact cursor)
      (by rw [sought]; exact sized) (by rw [sought]; show 0 + size < 2 ^ 64; omega)
  have last : (c'.stmtFetch env).2.lastRowFetched = 0 := brings.last
  have called : c.fetchNext env size = c'.stmtFetch env := by
    have seeks : ({ ({ c with arraySize := size } : RowCursor) with position := 0 } :
        RowCursor).seekRowset env .next c.lastRowFetched = (.success, c') := by
      rw [seekRowset_straight straight, sought]
    have near : (0 : Int).toNat ≤
        toSqlULen ((({ c with arraySize := size } : RowCursor).numRows : Int) - 1) := Nat.zero_le _
    have here : min 0 ((({ c with arraySize := size } : RowCursor).numRows : Int)) = 0 := by
      show min 0 (c.numRows : Int) = 0
      omega
    rw [fetchNext_eq straight.steady zero (Int.le_refl 0) (by decide),
      fetchAt_seeks cached (Int.le_refl 0) near, here, seeks]
    exact finishScroll_of_none last
  rw [← called] at returned brings numRows' cursor' place last
  have at_start : (c.fetchNext env size).2.position = 0 := by
    rw [place, sought]
    rfl
  constructor
  · have none : (([] : List Row).drop asked).take size = [] := by
      rw [drop_nil, take_nil]
    rw [← none] at brings
    exact delivers_of_brings (by rw [sought]) (by rw [sought]) brings
      (fun more => absurd more (Nat.not_lt_zero _)) (fun _ => returned)
  · refine ⟨numRows'.trans (by rw [sought]; exact numRows), ?_, by omega, ?_, by omega, ?_,
      fun more => absurd more (Nat.not_lt_zero _), fun _ => ?_⟩
    · rw [cursor', drop_nil]
    · show _ ≤ (0 : Int)
      omega
    · show _ ≤ (0 : Int)
      omega
    · show (0 : Int) ≤ _
      split <;> omega

/-! ### A result that is read from the server -/

variable (env) in
theorem foldl_accept_position (placed : List (Row × Nat)) (start : c.position = -1 ∨ c.position = 0) :
    (placed.foldl (accept env) c).position = -1 ∨ (placed.foldl (accept env) c).position = 0 := by
  refine List.foldlRecOn (motive := fun c : RowCursor => c.position = -1 ∨ c.position = 0) placed _ start ?_
  intro c place item _
  have moved : (c.accept env item).position = if c.position < 0 then 0 else c.position := rfl
  rw [moved]
  split <;> omega

theorem forEach_misses (bind : env.prepareBind = none) (ended : env.readError = none)
    (rows2Fetch count : Nat) {j : Nat} (later : 1 ≤ j) (none_left : c.source env = [])
    (quiet : c.error.returnValue.succeeded = true) (ret : SqlReturn) :
    ∃ c', forEach (fetchRow env rows2Fetch []) (range' j count) (ret, c) = .next (ret, c') ∧
      c'.buffers = c.buffers ∧ c'.rowsProcessed = c.rowsProcessed ∧ c'.rowStatus = c.rowStatus ∧
      c'.lastRowFetched = c.lastRowFetched ∧ c'.unread = c.unread ∧
      (c.position = -1 ∨ c.position = 0 → c'.position = -1 ∨ c'.position = 0) := by
  induction count generalizing c j with
  | zero => exact ⟨c, rfl, rfl, rfl, rfl, rfl, rfl, id⟩
  | succ count ih =>
    have round : fetchRow env rows2Fetch [] j (ret, c) = .next (ret, c.miss env j) := by
      have seeks : c.seekRow rows2Fetch [] j = (j, c) := rfl
      rw [fetchRow_misses bind seeks none_left quiet (fun _ => ended), if_pos (by omega)]
    have processed : (c.miss env j).rowsProcessed = c.rowsProcessed := by
      rw [miss, Option.map_map]
      exact Option.map_id'
    have moved : (c.miss env j).position = if c.position < 0 then 0 else c.position := rfl
    obtain ⟨c', rounds, buffers, counted, status, last, unread, position⟩ :=
      ih (c := c.miss env j) (j := j + 1) (by omega) none_left quiet
    rw [range'_succ, forEach_cons, round]
    refine ⟨c', rounds, buffers, counted.trans processed, status, last, unread, fun place => position ?_⟩
    rw [moved]
    split <;> omega

variable (env c) in
/-- A round behind the end that finds an error of a row before it. -/
def failRound (rowNum : Nat) : RowCursor :=
  ({ c.storeBookmark env rowNum with
    rowsProcessed := c.rowsProcessed.map (· + 1)
    position := if c.position < 0 then 0 else c.position } : RowCursor).setRowStatus rowNum .error

section

variable (bind : env.prepareBind = none) (noCache : env.noCache = true)
  (ended : env.readError = none)

include bind noCache ended

theorem fetchRow_fails (rows2Fetch j : Nat) (none_left : c.source env = [])
    (failed : c.error.returnValue.succeeded = false) (ret : SqlReturn) :
    fetchRow env rows2Fetch [] j (ret, c) = .leave (.error, c.failRound env j) := by
  have left : (c.storeBookmark env j).unread = [] := by
    rw [source, noCache] at none_left
    exact none_left
  have missed : (c.storeBookmark env j).fetchRowCsps env = (none, c.storeBookmark env j) := by
    rw [fetchRowCsps, noCache, if_pos rfl, left, ended]
  have fetched : (c.storeBookmark env j).fetchCsps env = (.readError, [], c.storeBookmark env j) := by
    have loud : ¬ (c.storeBookmark env j).error.returnValue.succeeded = true := by
      show ¬ c.error.returnValue.succeeded = true
      rw [failed]
      exact Bool.false_ne_true
    rw [fetchCsps, missed]
    exact congrArg (·, [], c.storeBookmark env j) (if_neg loud)
  have seeks : c.seekRow rows2Fetch [] j = (j, c) := rfl
  rw [fetchRow, seeks, bind]
  dsimp only
  rw [fetched]
  rfl

theorem roundReads_misses (rows2Fetch count : Nat) {j : Nat} (later : 1 ≤ j)
    (none_left : c.source env = []) (ret : SqlReturn) :
    ∀ read ∈ roundReads env rows2Fetch [] (range' j count) (ret, c), read.2 = [] := by
  induction count generalizing c j with
  | zero => exact fun read none => absurd none not_mem_nil
  | succ count ih =>
    intro read member
    rw [range'_succ, roundReads] at member
    rcases mem_cons.mp member with rfl | member
    · exact none_left
    · cases quiet : c.error.returnValue.succeeded with
      | false =>
        rw [fetchRow_fails bind noCache ended rows2Fetch j none_left quiet] at member
        exact absurd member not_mem_nil
      | true =>
        have seeks : c.seekRow rows2Fetch [] j = (j, c) := rfl
        rw [fetchRow_misses bind seeks none_left quiet (fun _ => ended), if_pos (by omega)] at member
        exact ih (c := c.miss env j) (j := j + 1) (by omega) none_left read member

omit bind noCache ended in
theorem forwardOnly_of_noCache (noCache : env.noCache = true) : env.cursorType = .forwardOnly := by
  rw [FetchEnv.noCache, Bool.and_eq_true, beq_iff_eq] at noCache
  exact noCache.1

/-- **A rowset that runs past the end.** -/
theorem fetchRows_short {shown : List Row} (unread : c.unread = shown) (some : 1 ≤ shown.length)
    (short : shown.length < c.arraySize) (place : c.position = -1 ∨ c.position = 0) :
    let c₁ := (shown.zipIdx.foldl (accept env) c.begun.beginRowset).setSource env []
    (if (acceptDiag env Diag.clear shown).returnValue.succeeded then
        ∃ c', c.begun.fetchRows env c.arraySize = (acceptResult env .success shown.zipIdx, c') ∧
          c'.buffers = c₁.buffers ∧ c'.rowsProcessed = c₁.rowsProcessed ∧ c'.rowStatus = c₁.rowStatus ∧
          c'.lastRowFetched = c₁.lastRowFetched ∧ c'.unread = c₁.unread ∧
          (c'.position = -1 ∨ c'.position = 0)
      else c.begun.fetchRows env c.arraySize = (.error, c₁.failRound env shown.length)) ∧
    ∃ missed, (∀ read ∈ missed, read.2 = []) ∧
      roundReads env c.arraySize [] (range c.arraySize) (.success, c.begun.beginRowset) =
        (range' 0 shown.length).zip (iterate (env.advance []) shown shown.length) ++ missed := by
  have begun : c.begun.beginRowset.source env = shown ++ [] := by
    rw [append_nil, source, noCache]
    exact unread
  have unscrolled : ¬ (1 < c.arraySize ∧ env.cursorType ≠ .forwardOnly) :=
    fun scrolls => scrolls.2 (forwardOnly_of_noCache noCache)
  obtain ⟨more, total⟩ : ∃ more, c.arraySize = shown.length + (more + 1) :=
    ⟨c.arraySize - shown.length - 1, by omega⟩
  have cut : range c.arraySize = range' 0 shown.length ++ range' shown.length (more + 1) := by
    have joined : range' 0 shown.length ++ range' (0 + shown.length) (more + 1) =
        range' 0 (shown.length + (more + 1)) := range'_append_1
    rw [Nat.zero_add] at joined
    rw [range_eq_range', total, joined]
  obtain ⟨loop, reads⟩ := forEach_accepts_forward env bind c.arraySize begun .success
  have diag : (shown.zipIdx.foldl (accept env) c.begun.beginRowset).error = acceptDiag env Diag.clear shown := by
    rw [foldl_accept_error, zipIdx_map_fst]
    rfl
  have position := foldl_accept_position (c := c.begun.beginRowset) env shown.zipIdx place
  intro c₁
  have none_left : c₁.source env = [] := source_setSource
  have error : c₁.error = acceptDiag env Diag.clear shown := diag
  rw [fetchRows, if_neg unscrolled, if_neg unscrolled, cut, forEach_append, loop, roundReads_append, loop, reads,
    begun, append_nil]
  refine ⟨?_, _, roundReads_misses bind noCache ended c.arraySize (more + 1) some none_left _, rfl⟩
  dsimp only
  split
  · rename_i quiet
    rw [← error] at quiet
    obtain ⟨c', rest, buffers, counted, status, last, unread, place'⟩ :=
      forEach_misses bind ended c.arraySize (more + 1) some none_left quiet (acceptResult env .success shown.zipIdx)
    refine ⟨c', ?_, buffers, counted, status, last, unread, place' position⟩
    rw [rest]
  · rename_i loud
    rw [← error] at loud
    rw [range'_succ, forEach_cons,
      fetchRow_fails bind noCache ended c.arraySize _ none_left (Bool.eq_false_iff.mpr loud)]

end

/-- **A rowset that is read from the server.** -/
theorem stmtFetch_streamed (forward : env.cursorType = .forwardOnly) (clean : env.Clean c.unread)
    (noCache : env.noCache = true) (ended : env.readError = none) (sized : 1 ≤ c.arraySize)
    (place : c.position = -1 ∨ c.position = 0) :
    (c.stmtFetch env).1 = (if c.unread = [] then .noData else .success) ∧
      Brings env (c.unread.take c.arraySize) c (c.stmtFetch env).2 ∧
      (c.stmtFetch env).2.unread = c.unread.drop c.arraySize ∧
      ((c.stmtFetch env).2.position = -1 ∨ (c.stmtFetch env).2.position = 0) := by
  have reads : c.begun.source env = c.unread := by
    rw [source, noCache]
    rfl
  rw [stmtFetch_begun clean.ready sized (by rw [noCache, if_pos rfl]) sized]
  rcases Nat.lt_or_ge c.unread.length c.arraySize with short | long
  · have taken : c.unread.take c.arraySize = c.unread := take_of_length_le (by omega)
    have dropped : c.unread.drop c.arraySize = [] := drop_eq_nil_of_le (by omega)
    rw [taken, dropped]
    by_cases none : c.unread = []
    · obtain ⟨fetched, brings⟩ := fetchRows_none (c := c) clean.bind (reads.trans none) (fun _ => ended) sized
        fun scrolls => scrolls.2 forward
      rw [none, fetched]
      refine ⟨rfl, brings, none, ?_⟩
      show (if c.position < 0 then 0 else c.position) = -1 ∨
        (if c.position < 0 then 0 else c.position) = 0
      split <;> omega
    · obtain ⟨fetched, -⟩ :=
        fetchRows_short clean.bind noCache ended rfl (length_pos_of_ne_nil none) short place
      have quiet : Diag.clear.returnValue.succeeded = true := rfl
      rw [acceptDiag_clean clean, if_pos quiet] at fetched
      obtain ⟨c', returned, buffers, counted, status, last, unread, position⟩ := fetched
      obtain ⟨brings, -⟩ := brings_begun clean (List.Perm.refl c.unread.zipIdx) c
      rw [returned, acceptResult_clean (clean.each 0), if_neg none]
      refine ⟨rfl, ⟨fun i row here => ?_, fun i outside => ?_, ?_, ?_, ?_⟩, ?_, position⟩
      · exact (congrFun buffers i).trans (brings.slot i row here)
      · exact (congrFun buffers i).trans (brings.others i outside)
      · exact counted.trans brings.processed
      · exact status.trans brings.status
      · exact last.trans brings.last
      · rw [unread, setSource, noCache]
        rfl
  · have whole : (c.unread.take c.arraySize).length = c.arraySize := by
      rw [length_take]
      omega
    have cleaned : env.Clean (c.unread.take c.arraySize) := clean.of_subset (take_subset _ _)
    have split : c.begun.source env = c.unread.take c.arraySize ++ c.unread.drop c.arraySize :=
      reads.trans (take_append_drop c.arraySize c.unread).symm
    have rounds := fetchRows_forward cleaned (Or.inl forward) split
    obtain ⟨brings, -⟩ := brings_begun cleaned (List.Perm.refl (c.unread.take c.arraySize).zipIdx) c
    have received := foldl_accept_position (c := c.begun.beginRowset) env
      (c.unread.take c.arraySize).zipIdx place
    have some : c.unread ≠ [] := by
      intro none
      rw [none, length_nil] at long
      omega
    rw [whole] at rounds
    rw [rounds, if_neg some]
    generalize (c.unread.take c.arraySize).zipIdx.foldl (accept env) c.begun.beginRowset = c' at *
    refine ⟨rfl, ⟨brings.slot, brings.others, brings.processed, brings.status, brings.last⟩, ?_, received⟩
    rw [setSource, noCache]
    rfl

theorem OpenedForward.streamed (opened : c.OpenedForward env rows) (noCache : env.noCache = true) :
    Streamed rows 0 c := by
  have reads := opened.reads
  rw [source, noCache] at reads
  have last := opened.lastRowFetched
  exact ⟨reads, Or.inl opened.position, by omega, by omega⟩

theorem fetchNext_streamed (forward : env.cursorType = .forwardOnly) (clean : env.Clean rows)
    (noCache : env.noCache = true) (ended : env.readError = none) (sized : 1 ≤ size)
    (small : size < 2 ^ 31) (state : Streamed rows asked c) :
    c.Delivers env rows asked size ∧ Streamed rows (asked + size) (c.fetchNext env size).2 := by
  obtain ⟨c', sought⟩ : ∃ c' : RowCursor, c' = { c with arraySize := size } := ⟨_, rfl⟩
  have size_eq : c'.arraySize = size := by rw [sought]
  have unread : c'.unread = rows.drop asked := by
    rw [sought]
    exact state.unread
  have position : c'.position = -1 ∨ c'.position = 0 := by
    rw [sought]
    exact state.position
  have cleaned : env.Clean c'.unread := by
    rw [unread]
    exact clean.of_subset (drop_subset _ _)
  obtain ⟨returned, brings, left, place⟩ :=
    stmtFetch_streamed forward cleaned noCache ended (by rw [size_eq]; exact sized) position
  rw [size_eq, unread] at brings
  rw [size_eq, unread, drop_drop] at left
  rw [unread] at returned
  have last := brings.last
  rw [length_rowset] at last
  have called : c.fetchNext env size = c'.stmtFetch env := by
    have nonneg := state.nonneg
    have bounded := state.small
    have start := state.position
    have fetched : finishScroll (c'.stmtFetch env) = c'.stmtFetch env := by
      by_cases none : rows.drop asked = []
      · refine finishScroll_of_none ?_
        have short := drop_eq_nil_iff.mp none
        rw [last]
        omega
      · refine finishScroll_of_ne ?_
        rw [returned, if_neg none]
        decide
    rw [fetchNext_eq (steady_of_forward forward) rfl (by split <;> omega) (by split <;> omega), ← sought, fetchAt,
      if_neg (by split <;> omega)]
    dsimp only
    rw [noCache, if_pos rfl, if_neg (fun cached => Bool.false_ne_true cached.1), seekRowset_forward forward]
    exact fetched
  rw [← called] at returned brings left place last
  constructor
  · refine delivers_of_brings (by rw [sought]) (by rw [sought]) brings (fun more => ?_) (fun none => ?_)
    · rw [returned, if_neg fun none => Nat.not_lt.mpr (drop_eq_nil_iff.mp none) more]
    · rw [returned, if_pos (drop_eq_nil_of_le none)]
  · exact ⟨left, place, by omega, by omega⟩

/-! ### Runs -/

theorem deliversAll_of_step {state : Nat → RowCursor → Prop}
    (step : ∀ {asked size c}, 1 ≤ size → size < 2 ^ 31 → state asked c →
      c.Delivers env rows asked size ∧ state (asked + size) (c.fetchNext env size).2)
    {sizes : List Nat} (small : ∀ size ∈ sizes, 1 ≤ size ∧ size < 2 ^ 31) (start : state asked c) :
    DeliversAll env rows asked c sizes := by
  induction sizes generalizing c asked with
  | nil => trivial
  | cons size sizes ih =>
    obtain ⟨sized, bounded⟩ := small size mem_cons_self
    obtain ⟨delivers, next⟩ := step sized bounded start
    exact ⟨delivers, ih (fun later member => small later (mem_cons_of_mem size member)) next⟩

/-- A run on a cached result that has rows, where the count of the rows of the last rowset is not 0: a call
behind the end leaves it as it is. -/
theorem deliversAll_cached_iff (forward : env.cursorType = .forwardOnly) (clean : env.Clean rows)
    (cached : env.noCache = false) (fits : rows.length < 2 ^ 62) (nonempty : 0 < rows.length)
    {sizes : List Nat} (small : ∀ size ∈ sizes, 1 ≤ size ∧ size < 2 ^ 31)
    (state : Cached rows asked c) (told : rows.length ≤ asked → c.rowsProcessed ≠ some 0) :
    DeliversAll env rows asked c sizes ↔
      c.rowsProcessed = none ∨ ∀ k < sizes.length, asked + (sizes.take k).sum < rows.length := by
  induction sizes generalizing c asked with
  | nil => exact ⟨fun _ => Or.inr fun k none => absurd none (Nat.not_lt_zero k), fun _ => trivial⟩
  | cons size sizes ih =>
    obtain ⟨sized, bounded⟩ := small size mem_cons_self
    have later : ∀ size ∈ sizes, 1 ≤ size ∧ size < 2 ^ 31 :=
      fun later member => small later (mem_cons_of_mem size member)
    have starts : (∀ k < (size :: sizes).length, asked + ((size :: sizes).take k).sum < rows.length) ↔
        asked < rows.length ∧ ∀ k < sizes.length, asked + size + (sizes.take k).sum < rows.length := by
      constructor
      · intro all
        refine ⟨all 0 (Nat.succ_pos _), fun k inside => ?_⟩
        have here := all (k + 1) (Nat.succ_lt_succ inside)
        rw [take_succ_cons, sum_cons] at here
        omega
      · rintro ⟨first, others⟩ k inside
        cases k with
        | zero => exact first
        | succ k =>
          have here := others k (Nat.lt_of_succ_lt_succ inside)
          rw [take_succ_cons, sum_cons]
          omega
    rw [starts]
    rcases Nat.lt_or_ge asked rows.length with inside | past
    · obtain ⟨delivers, next, -⟩ :=
        fetchNext_cached_inside (.inl forward) clean cached fits sized bounded state inside
      have counted := delivers.processed
      have told' : rows.length ≤ asked + size →
          (c.fetchNext env size).2.rowsProcessed ≠ some 0 := by
        intro _ zero
        rw [counted] at zero
        obtain ⟨_, -, none⟩ := Option.map_eq_some_iff.mp zero
        omega
      have unset : (c.fetchNext env size).2.rowsProcessed = none ↔ c.rowsProcessed = none := by
        rw [counted, Option.map_eq_none_iff]
      have rest := ih later next told'
      rw [unset] at rest
      refine ⟨fun all => (rest.mp all.2).imp_right (⟨inside, ·⟩), fun condition => ⟨delivers, ?_⟩⟩
      exact rest.mpr (condition.imp_right (·.2))
    · obtain ⟨returned, buffers, counted, next⟩ :=
        fetchNext_cached_past size (steady_of_forward forward) cached fits nonempty state past
      have rest := ih later next (fun _ => by rw [counted]; exact told past)
      rw [counted] at rest
      have zero : min size (rows.length - asked) = 0 := by omega
      constructor
      · rintro ⟨delivers, -⟩
        refine Or.inl ?_
        have processed := counted.symm.trans delivers.processed
        rw [zero] at processed
        cases set : c.rowsProcessed with
        | none => rfl
        | some count =>
          rw [set] at processed
          exact absurd (set.trans processed) (told past)
      · intro condition
        have unset : c.rowsProcessed = none :=
          condition.resolve_right fun both => Nat.not_lt.mpr past both.1
        refine ⟨⟨fun i none => ?_, fun i _ => congrFun buffers i, ?_, fun more => ?_, fun _ => returned⟩,
          rest.mpr (Or.inl unset)⟩
        · omega
        · rw [counted, unset]
          rfl
        · omega

end RowCursor

end MaOdbc
