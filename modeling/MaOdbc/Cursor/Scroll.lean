/-
**Scrolling a static cursor.**

Calls of `MADB_StmtFetchScroll` one after another, with a rowset size set before each of them.

* `Tracks`: what holds between the calls. The position, the row cursor, `Cursor.Next` and the number of
  rows of the last rowset fit together: before the result, at a rowset of it, or behind its end.
* `scroll_before`, `scroll_after`, `scroll_inside`: what a call does with the row it asks for.
* `afterCalls_tracks`: a whole run keeps `Tracks`.
-/

import MaOdbc.Cursor.Rowset

namespace MaOdbc

open List

/-- A call of `MADB_StmtFetchScroll`, with the rowset size that the application sets before it. -/
structure ScrollCall where
  orientation : FetchOrientation
  offset : Int := 0
  rowsetSize : Nat := 1
  deriving DecidableEq, Repr

namespace ScrollCall

/-- A call other than for a bookmark, with an offset and a rowset size of less than 32 bits. -/
@[mk_iff]
structure Small (call : ScrollCall) : Prop where
  no_bookmark : call.orientation ≠ .bookmark
  known : call.orientation ≠ .other
  lower : -2 ^ 31 < call.offset
  upper : call.offset < 2 ^ 31
  sized : 1 ≤ call.rowsetSize
  small : call.rowsetSize < 2 ^ 31

instance : DecidablePred Small := fun call => decidable_of_iff _ (small_iff call).symm

/-- The row that a call asks for from a position, counted from 0: `Position` in `MADB_StmtFetchScroll`,
without its casts. -/
def target (call : ScrollCall) (numRows : Nat) (position lastRowFetched : Int) : Int :=
  match call.orientation with
  | .next => if position < 0 then 0 else position + lastRowFetched
  | .prior => if position < 0 then -1 else position - call.rowsetSize
  | .relative =>
    if position + call.offset < 0 ∧ 0 < position ∧ -call.offset ≤ call.rowsetSize then 0
    else position + call.offset
  | .absolute =>
    if call.offset < 0 then
      if (numRows : Int) - 1 + call.offset < 0 ∧ -call.offset ≤ call.rowsetSize then 0
      else numRows + call.offset
    else call.offset - 1
  | .last => numRows - call.rowsetSize
  | _ => 0

end ScrollCall

open ScrollCall

namespace RowCursor

variable (env : FetchEnv) (c : RowCursor) (call : ScrollCall)

def scroll : SqlReturn × RowCursor :=
  { c with arraySize := call.rowsetSize }.stmtFetchScroll env call.orientation call.offset

/-- The row that a call asks for: `Position` in `MADB_StmtFetchScroll`. -/
def requested : Except ErrorCode Int :=
  { c with arraySize := call.rowsetSize }.scrollPosition env call.orientation call.offset

def afterCalls (calls : List ScrollCall) : RowCursor :=
  calls.foldl (fun c call => (c.scroll env call).2) c

/-- The handle as a call finds it, with its rowset size. Only the next rowset needs `Cursor.Next`. -/
def turned : RowCursor :=
  { c with
    arraySize := call.rowsetSize
    next := if call.orientation = .next then c.next else [] }

/-- Goes to a row in `MADB_StmtFetchScroll`, up to where the rowset there is fetched. -/
def placedAt (orientation : FetchOrientation) (rowsProcessed position : Int) :
    Except (SqlReturn × RowCursor) RowCursor :=
  if position < 0 then .error (.noData, (c.resetCursor.stmtDataSeek 0).2)
  else
    let c := if env.noCache then c else { c with position := min position c.numRows }
    if !env.noCache ∧ toSqlULen (c.numRows - 1) < position.toNat then .error (.noData, c)
    else
      match c.seekRowset env orientation rowsProcessed with
      | (.success, c) => .ok c
      | (ret, c) => .error (finishScroll (ret, c))

/-- The handle as `MADB_StmtFetchScroll` hands it to `MADB_StmtFetch`, or how it returns before. -/
def positioned (orientation : FetchOrientation) (offset : Int) : Except (SqlReturn × RowCursor) RowCursor :=
  let rowsProcessed := c.lastRowFetched
  if env.cursorType = .forwardOnly ∧ orientation ≠ .next then .error (c.setError .errHY106)
  else
    match c.refreshed env with
    | .error returned => .error returned
    | .ok c =>
      let c : RowCursor := { c with next := if orientation = .next then c.next else [] }
      match c.scrollPosition env orientation offset with
      | .error code => .error (c.setError code)
      | .ok position => c.placedAt env orientation rowsProcessed position

structure Opened (rows : List Row) (c : RowCursor) : Prop where
  result : c.result = rows
  numRows : c.numRows = rows.length
  resultCursor : c.resultCursor = rows
  position : c.position = -1
  next : c.next = []
  lastRowFetched : c.lastRowFetched = 0

inductive Stands (rows : List Row) (c : RowCursor) : Prop
  | before (position : c.position = -1) (next : c.next = []) (cursor : c.resultCursor = rows)
  | shown (start count : Nat) (position : c.position = start) (last : c.lastRowFetched = count)
      (some : 1 ≤ count) (inside : start + count ≤ rows.length)
      (next : 1 < count → c.next = rows.drop (start + count))
      (cursor : count ≤ 1 → c.resultCursor = rows.drop (start + count))
  | after (position : c.position = rows.length)

structure Tracks (rows : List Row) (c : RowCursor) : Prop where
  result : c.result = rows
  numRows : c.numRows = rows.length
  empty : rows = [] → c.resultCursor = []
  nonneg : 0 ≤ c.lastRowFetched
  bounded : c.lastRowFetched ≤ rows.length
  stands : Stands rows c

variable {env c call} {rows : List Row}

theorem Opened.tracks (opened : Opened rows c) : Tracks rows c where
  result := opened.result
  numRows := opened.numRows
  empty none := opened.resultCursor.trans none
  nonneg := Int.le_of_eq opened.lastRowFetched.symm
  bounded := by
    rw [opened.lastRowFetched]
    exact Int.natCast_nonneg _
  stands := .before opened.position opened.next opened.resultCursor

structure InRange (count : Nat) (c : RowCursor) : Prop where
  numRows : c.numRows = count
  short : count < 2 ^ 31
  lower : -1 ≤ c.position
  upper : c.position ≤ count
  nonneg : 0 ≤ c.lastRowFetched
  bounded : c.lastRowFetched ≤ count

theorem Tracks.inRange (tracks : Tracks rows c) (short : rows.length < 2 ^ 31) :
    InRange rows.length c := by
  have bounds : -1 ≤ c.position ∧ c.position ≤ rows.length := by
    cases tracks.stands with
    | before | shown | after => omega
  exact ⟨tracks.numRows, short, bounds.1, bounds.2, tracks.nonneg, tracks.bounded⟩

/-! ### Going to a rowset -/

theorem fetchAt_eq_placedAt (orientation : FetchOrientation) (rowsProcessed position : Int) :
    c.fetchAt env orientation rowsProcessed position =
      match c.placedAt env orientation rowsProcessed position with
      | .ok c => finishScroll (c.stmtFetch env)
      | .error returned => returned := by
  rw [fetchAt, placedAt]
  split
  · rfl
  · dsimp only
    generalize (if env.noCache = true then c else { c with position := min position c.numRows }) = c'
    split
    · rfl
    · generalize c'.seekRowset env orientation rowsProcessed = sought
      obtain ⟨code, c''⟩ := sought
      cases code with
      | success | successWithInfo | noData | error | needData | invalidHandle => rfl

theorem stmtFetchScroll_eq_positioned (orientation : FetchOrientation) (offset : Int) :
    c.stmtFetchScroll env orientation offset =
      match c.positioned env orientation offset with
      | .ok c => finishScroll (c.stmtFetch env)
      | .error returned => returned := by
  rw [stmtFetchScroll, positioned]
  dsimp only
  split
  · rfl
  · cases c.refreshed env with
    | error returned => rfl
    | ok c' =>
      dsimp only
      generalize ({ c' with next := if orientation = .next then c'.next else [] } : RowCursor) = c''
      cases c''.scrollPosition env orientation offset with
      | error code => rfl
      | ok position => exact fetchAt_eq_placedAt orientation c.lastRowFetched position

variable {c' : RowCursor} {orientation : FetchOrientation} {position rowsProcessed : Int}
  {count target start : Nat} {returned : SqlReturn × RowCursor}

theorem positioned_of_asked {offset : Int}
    (allowed : env.cursorType = .forwardOnly → orientation = .next)
    (refreshed : c.refreshed env = .ok c')
    (asked : ({ c' with next := if orientation = .next then c'.next else [] } : RowCursor).scrollPosition env
      orientation offset = .ok position) :
    c.positioned env orientation offset =
      ({ c' with next := if orientation = .next then c'.next else [] } : RowCursor).placedAt env orientation
        c.lastRowFetched position := by
  rw [positioned, if_neg fun forward => forward.2 (allowed forward.1), refreshed]
  dsimp only
  rw [asked]

theorem toSqlULen_pred (some : 0 < count) (short : count < 2 ^ 63) :
    toSqlULen ((count : Int) - 1) = count - 1 := by
  rw [toSqlULen, Int.emod_eq_of_lt (by omega) (by omega)]
  omega

theorem placedAt_inside (noCache : env.noCache = false) (short : c.numRows < 2 ^ 63)
    (inside : target < c.numRows) :
    c.placedAt env orientation rowsProcessed target =
      match ({ c with position := (target : Int) } : RowCursor).seekRowset env orientation rowsProcessed with
      | (.success, c) => .ok c
      | (ret, c) => .error (finishScroll (ret, c)) := by
  have near : ¬ ((!false) = true ∧ toSqlULen ((c.numRows : Int) - 1) < (target : Int).toNat) := by
    rintro ⟨-, past⟩
    rw [toSqlULen_pred (by omega) short, Int.toNat_natCast] at past
    omega
  have here : min (target : Int) (c.numRows : Int) = target := by omega
  rw [placedAt, if_neg (Int.not_lt.mpr (Int.natCast_nonneg _)), noCache, if_neg Bool.false_ne_true, here]
  exact if_neg near

theorem placedAt_past (noCache : env.noCache = false) (short : c.numRows < 2 ^ 63)
    (some : 0 < c.numRows) (past : c.numRows ≤ target) :
    c.placedAt env orientation rowsProcessed target =
      .error (.noData, { c with position := min (target : Int) c.numRows }) := by
  have far : (!false) = true ∧ toSqlULen ((c.numRows : Int) - 1) < (target : Int).toNat := by
    rw [toSqlULen_pred some short, Int.toNat_natCast]
    exact ⟨rfl, by omega⟩
  rw [placedAt, if_neg (Int.not_lt.mpr (Int.natCast_nonneg _)), noCache, if_neg Bool.false_ne_true]
  exact if_pos far

theorem seekRowset_moves (some : c.result ≠ [])
    (moves : orientation ≠ .next ∨ (1 < rowsProcessed ∧ env.cursorType ≠ .forwardOnly) ∨
      env.cursorType = .dynamic) :
    c.seekRowset env orientation rowsProcessed = (.success, { c with
      resultCursor := if c.next.isEmpty then c.result.drop c.position.toNat else c.next }) := by
  have nonempty : ¬ c.result.isEmpty = true := by
    rw [List.isEmpty_iff]
    exact some
  rw [seekRowset, if_pos moves, stmtDataSeek, if_neg nonempty]
  cases c.next with
  | nil | cons => rfl

/-! ### The row a call asks for -/

theorem toSqlLen_of_small {n : Int} (lower : -2 ^ 63 ≤ n) (upper : n < 2 ^ 63) : toSqlLen n = n := by
  rw [toSqlLen]
  exact Int.bmod_eq_of_le (by omega) (by omega)

theorem requested_eq (small : call.Small) (range : InRange count c) :
    c.requested env call = .ok (call.target count c.position c.lastRowFetched) := by
  obtain ⟨numRows, short, lower, upper, nonneg, bounded⟩ := range
  obtain ⟨no_bookmark, known, offsetLower, offsetUpper, sized, sizeBound⟩ := small
  have rowset : max 1 (call.rowsetSize : Int) = call.rowsetSize := by omega
  have size : toSqlInteger call.rowsetSize = call.rowsetSize := by
    rw [toSqlInteger]
    exact Int.bmod_eq_of_le (by omega) (by omega)
  have back : toSqlLen (-call.offset) = -call.offset := toSqlLen_of_small (by omega) (by omega)
  rw [requested, target]
  cases orientation : call.orientation with
  | next =>
    rw [scrollPosition]
    dsimp only
    rw [toSqlLen_of_small (by omega) (by omega)]
  | prior =>
    rw [scrollPosition]
    dsimp only
    rw [rowset, toSqlLen_of_small (by omega) (by omega)]
  | relative =>
    rw [scrollPosition]
    dsimp only
    rw [toSqlLen_of_small (by omega) (by omega), back, size]
  | absolute =>
    rw [scrollPosition]
    dsimp only
    by_cases negative : call.offset < 0
    · have magnitude : toSqlULen (-call.offset) ≤ call.rowsetSize ↔ -call.offset ≤ call.rowsetSize := by
        rw [toSqlULen, Int.emod_eq_of_lt (by omega) (by omega)]
        omega
      rw [if_pos negative, if_pos negative, numRows, toSqlLen_of_small (by omega) (by omega)]
      exact congrArg Except.ok (if_congr (and_congr_right fun _ => magnitude) rfl rfl)
    · rw [if_neg negative, if_neg negative]
  | first => rfl
  | last =>
    rw [scrollPosition]
    dsimp only
    rw [rowset, numRows, toSqlLen_of_small (by omega) (by omega)]
  | bookmark => exact absurd orientation no_bookmark
  | other => exact absurd orientation known

variable (env c call) in
theorem scrollPosition_turned :
    (c.turned call).scrollPosition env call.orientation call.offset = c.requested env call := by
  rw [requested]
  cases call.orientation with
  | next | prior | relative | absolute | first | last | bookmark | other => rfl

theorem scroll_eq_fetchAt (steady : env.cursorType ≠ .dynamic)
    (allowed : env.cursorType = .forwardOnly → call.orientation = .next)
    (asked : c.requested env call = .ok position) :
    c.scroll env call =
      (c.turned call).fetchAt env call.orientation c.lastRowFetched position := by
  have requested : (c.turned call).scrollPosition env call.orientation call.offset = .ok position :=
    (scrollPosition_turned env c call).trans asked
  have here := positioned_of_asked (c := { c with arraySize := call.rowsetSize }) allowed (if_neg steady) requested
  rw [scroll, stmtFetchScroll_eq_positioned, here, fetchAt_eq_placedAt]
  rfl

theorem scroll_static (static : env.cursorType = .static) (small : call.Small)
    (range : InRange count c) :
    c.scroll env call = (c.turned call).fetchAt env call.orientation c.lastRowFetched
      (call.target count c.position c.lastRowFetched) := by
  refine scroll_eq_fetchAt (by rw [static]; decide) (fun forward => ?_) (requested_eq small range)
  rw [static] at forward
  cases forward

/-! ### What a call does -/

theorem noCache_of_static (static : env.cursorType = .static) : env.noCache = false := by
  rw [FetchEnv.noCache, static]
  rfl

/-- **A row before the result.** -/
theorem scroll_before (static : env.cursorType = .static) (small : call.Small)
    (short : rows.length < 2 ^ 31) (tracks : Tracks rows c)
    (before : call.target rows.length c.position c.lastRowFetched < 0) :
    (c.scroll env call).1 = .noData ∧ (c.scroll env call).2.buffers = c.buffers ∧
      (c.scroll env call).2.position = -1 ∧ Tracks rows (c.scroll env call).2 := by
  rw [scroll_static static small (tracks.inRange short), fetchAt, if_pos before]
  cases known : rows with
  | nil =>
    have empty : (c.turned call).resetCursor.result.isEmpty = true := by
      show c.result.isEmpty = true
      rw [tracks.result, known]
      rfl
    rw [stmtDataSeek, if_pos empty]
    subst known
    exact ⟨rfl, rfl, rfl, tracks.result, tracks.numRows, tracks.empty, tracks.nonneg, tracks.bounded,
      .before rfl rfl (tracks.empty rfl)⟩
  | cons first others =>
    have some : ¬ (c.turned call).resetCursor.result.isEmpty = true := by
      show ¬ c.result.isEmpty = true
      rw [tracks.result, known]
      exact Bool.false_ne_true
    rw [stmtDataSeek, if_neg some]
    subst known
    exact ⟨rfl, rfl, rfl, tracks.result, tracks.numRows, fun empty => absurd empty (cons_ne_nil _ _),
      tracks.nonneg, tracks.bounded, .before rfl rfl tracks.result⟩

/-- The row cursor of a static cursor is put where the rowset starts: to the row itself, to the row that
`Cursor.Next` remembers, or nowhere, where it is there already. -/
theorem seekRowset_inside (static : env.cursorType = .static) (tracks : Tracks rows c)
    (asked : call.target rows.length c.position c.lastRowFetched = start)
    (inside : start < rows.length) :
    ({ c.turned call with position := start } : RowCursor).seekRowset env call.orientation
        c.lastRowFetched =
      (.success, { c.turned call with position := start, resultCursor := rows.drop start }) := by
  have moves : (call.orientation ≠ .next ∨ (1 < c.lastRowFetched ∧ env.cursorType ≠ .forwardOnly) ∨
      env.cursorType = .dynamic) →
      ({ c.turned call with position := start } : RowCursor).seekRowset env call.orientation
        c.lastRowFetched = (.success, { c.turned call with
          position := start
          resultCursor := if (c.turned call).next.isEmpty then rows.drop start else (c.turned call).next }) := by
    have some : ({ c.turned call with position := start } : RowCursor).result ≠ [] := by
      show c.result ≠ []
      rw [tracks.result]
      exact ne_nil_of_length_pos (by omega)
    intro moved
    rw [seekRowset_moves some moved, ← tracks.result]
    rfl
  by_cases forward : call.orientation = .next
  · have place : (if c.position < 0 then 0 else c.position + c.lastRowFetched) = (start : Int) := by
      rw [← asked, target, forward]
    have kept : (c.turned call).next = c.next := if_pos forward
    have nonneg := tracks.nonneg
    by_cases several : 1 < c.lastRowFetched
    · rw [moves (Or.inr (Or.inl ⟨several, by rw [static]; decide⟩)), kept]
      cases tracks.stands with
      | before position next => rw [next, if_pos isEmpty_nil]
      | shown first count position last _ _ next =>
        have reached : first + count = start := by
          rw [if_neg (by omega)] at place
          omega
        rw [next (by omega), reached, ite_self]
      | after position =>
        rw [if_neg (by omega)] at place
        omega
    · have single : ¬ (call.orientation ≠ .next ∨
          (1 < c.lastRowFetched ∧ env.cursorType ≠ .forwardOnly) ∨ env.cursorType = .dynamic) := by
        rw [static]
        rintro (other | ⟨more, -⟩ | dynamic)
        · exact other forward
        · exact several more
        · exact CursorType.noConfusion dynamic
      rw [seekRowset, if_neg single]
      have there : (c.turned call).resultCursor = rows.drop start := by
        show c.resultCursor = rows.drop start
        cases tracks.stands with
        | before position next cursor =>
          rw [if_pos (by omega)] at place
          have zero : start = 0 := by omega
          rw [cursor, zero, drop_zero]
        | shown first count position last _ _ _ cursor =>
          rw [if_neg (by omega)] at place
          have reached : first + count = start := by omega
          rw [cursor (by omega), reached]
        | after position =>
          rw [if_neg (by omega)] at place
          omega
      rw [← there]
  · have cleared : (c.turned call).next = [] := if_neg forward
    rw [moves (Or.inl forward), cleared, if_pos isEmpty_nil]

theorem fetchAt_seeks (cached : env.noCache = false) (lower : 0 ≤ position)
    (near : position.toNat ≤ toSqlULen ((c.numRows : Int) - 1)) :
    c.fetchAt env orientation rowsProcessed position =
      match ({ c with position := min position c.numRows } : RowCursor).seekRowset env orientation
        rowsProcessed with
      | (.success, c) => finishScroll (c.stmtFetch env)
      | (ret, c) => finishScroll (ret, c) := by
  rw [fetchAt, if_neg (Int.not_lt.mpr lower), cached, if_neg Bool.false_ne_true]
  exact if_neg fun outside => Nat.not_lt.mpr near outside.2

theorem finishScroll_of_ne (other : returned.1 ≠ .noData) : finishScroll returned = returned := by
  rw [finishScroll, if_neg fun noData => other noData.1]

theorem finishScroll_of_none (none : returned.2.lastRowFetched = 0) :
    finishScroll returned = returned := by
  rw [finishScroll, none, if_neg fun more => Int.lt_irrefl 0 more.2]

theorem fetchAt_shows (clean : env.Clean rows) (cached : env.noCache = false)
    (numRows : c.numRows = rows.length) (short : rows.length < 2 ^ 63)
    (inside : start < rows.length) (sized : 1 ≤ c.arraySize) (small : start + c.arraySize < 2 ^ 64)
    (sought : ({ c with position := (start : Int) } : RowCursor).seekRowset env orientation rowsProcessed =
      (.success, { c with position := (start : Int), resultCursor := rows.drop start })) :
    (c.fetchAt env orientation rowsProcessed start).1 = .success ∧
      ShowsRowset env rows start c (c.fetchAt env orientation rowsProcessed start).2 := by
  obtain ⟨fetched, brings, position, result, counts, next, cursor⟩ :=
    stmtFetch_cached (c := { c with position := (start : Int), resultCursor := rows.drop start }) clean cached
      numRows rfl rfl inside sized small
  rw [fetchAt_eq_placedAt, placedAt_inside cached (by rw [numRows]; exact short) (by rw [numRows]; exact inside), sought]
  dsimp only
  rw [finishScroll_of_ne (by rw [fetched]; decide)]
  exact ⟨fetched, ⟨brings.slot, brings.others, brings.processed, brings.status, brings.last⟩, position, result,
    counts, next, cursor⟩

theorem ShowsRowset.tracks (static : env.cursorType = .static) {c₀ : RowCursor}
    (shows : ShowsRowset env rows start c₀ c) (result : c₀.result = rows)
    (numRows : c₀.numRows = rows.length) (inside : start < rows.length) (sized : 1 ≤ c₀.arraySize) :
    Tracks rows c := by
  have last := shows.brings.last
  rw [length_rowset] at last
  refine ⟨shows.result.trans result, shows.numRows.trans numRows, ?_, ?_, ?_, ?_⟩
  · rintro rfl
    exact absurd inside (Nat.not_lt_zero _)
  · rw [last]
    exact Int.natCast_nonneg _
  · rw [last]
    omega
  · refine .shown start (min c₀.arraySize (rows.length - start)) shows.position last (by omega) (by omega)
      (fun several => ?_) (fun single => ?_)
    · rw [shows.next_of_scroll (by omega) (by rw [static]; decide), last, Int.toNat_natCast]
    · rw [shows.cursor_of_forward (Or.inl (by omega)), last, Int.toNat_natCast]

theorem fetchAt_after (cached : env.noCache = false) (short : c.numRows < 2 ^ 63)
    (some : 0 < c.numRows) (past : c.numRows ≤ position) :
    c.fetchAt env orientation rowsProcessed position = (.noData, { c with position := c.numRows }) := by
  obtain ⟨target, rfl⟩ := Int.eq_ofNat_of_zero_le (Int.le_trans (Int.natCast_nonneg c.numRows) past)
  rw [fetchAt_eq_placedAt, placedAt_past cached short some (Int.ofNat_le.mp past), Int.min_eq_right past]

theorem target_lt (small : call.Small) (range : InRange count c) :
    call.target count c.position c.lastRowFetched < 2 ^ 63 := by
  obtain ⟨numRows, short, lower, upper, nonneg, bounded⟩ := range
  obtain ⟨no_bookmark, known, offsetLower, offsetUpper, sized, sizeBound⟩ := small
  rw [target]
  cases call.orientation with
  | next | prior | relative => dsimp only; split <;> omega
  | absolute => dsimp only; split <;> (try split) <;> omega
  | last => dsimp only; omega
  | first | bookmark | other => exact Int.pow_pos (by decide)

theorem fetchAt_empty (static : env.cursorType = .static) (clean : env.Clean [])
    (result : c.result = []) (numRows : c.numRows = 0) (cursor : c.resultCursor = [])
    (last : c.lastRowFetched = 0) (cleared : orientation ≠ .next → c.next = [])
    (lower : 0 ≤ position) (upper : position < 2 ^ 63) (sized : 1 ≤ c.arraySize)
    (small : c.arraySize < 2 ^ 63) :
    let returned := c.fetchAt env orientation c.lastRowFetched position
    returned.1 = .noData ∧ returned.2.buffers = c.buffers ∧ returned.2.position = 0 ∧
      Tracks [] returned.2 := by
  have cached := noCache_of_static static
  have near : position.toNat ≤ toSqlULen ((c.numRows : Int) - 1) := by
    rw [numRows]
    show position.toNat ≤ 18446744073709551615
    omega
  have zero : min position (c.numRows : Int) = 0 := by
    rw [numRows]
    exact Int.min_eq_right lower
  rw [fetchAt_seeks cached lower near, zero]
  generalize moved : ({ c with position := 0 } : RowCursor) = c'
  have same : c'.buffers = c.buffers ∧ c'.position = 0 ∧ c'.lastRowFetched = 0 ∧
      c'.arraySize = c.arraySize ∧ c'.next = c.next ∧ c'.result = [] ∧ c'.numRows = 0 ∧
      c'.resultCursor = [] := by
    rw [← moved]
    exact ⟨rfl, rfl, last, rfl, rfl, result, numRows, cursor⟩
  obtain ⟨buffers, place, none, size, next, result', numRows', cursor'⟩ := same
  rw [last]
  by_cases forward : orientation = .next
  · have stays : c'.seekRowset env orientation 0 = (.success, c') := by
      rw [seekRowset, static, forward]
      rfl
    obtain ⟨returned, brings, result'', numRows'', cursor'', -, place'⟩ :=
      stmtFetch_empty (c := c') clean cached numRows' cursor'
        (by rw [size]; exact sized) (by rw [size, place]; show 0 + c.arraySize < _; omega)
    have fresh : (c'.stmtFetch env).2.lastRowFetched = 0 := brings.last
    have at_end : (c'.stmtFetch env).2.position = 0 := by
      rw [place', place]
      rfl
    rw [stays]
    dsimp only
    rw [finishScroll_of_none fresh]
    refine ⟨returned, ?_, at_end, result''.trans result', numRows''.trans numRows', fun _ => cursor'',
      Int.le_of_eq fresh.symm, Int.le_of_eq fresh, .after at_end⟩
    funext i
    rw [brings.others i (Nat.zero_le i), buffers]
  · have fails : c'.seekRowset env orientation 0 = (.noData, c') := by
      rw [seekRowset, if_pos (Or.inl forward), next, cleared forward, if_pos isEmpty_nil, stmtDataSeek,
        result', if_pos isEmpty_nil]
    rw [fails]
    dsimp only
    rw [finishScroll_of_none none]
    exact ⟨rfl, buffers, place, result', numRows', fun _ => cursor', Int.le_of_eq none.symm,
      Int.le_of_eq none, .after place⟩

section

variable (static : env.cursorType = .static) (clean : env.Clean rows) (small : call.Small)
  (short : rows.length < 2 ^ 31) (tracks : Tracks rows c)

include static clean small short tracks

/-- **A row of the result.** -/
theorem scroll_inside (asked : call.target rows.length c.position c.lastRowFetched = start)
    (inside : start < rows.length) :
    (c.scroll env call).1 = .success ∧
      ShowsRowset env rows start (c.turned call) (c.scroll env call).2 ∧
      Tracks rows (c.scroll env call).2 := by
  have numRows : (c.turned call).numRows = rows.length := tracks.numRows
  have sized : 1 ≤ (c.turned call).arraySize := small.sized
  have sizeBound : (c.turned call).arraySize < 2 ^ 31 := small.small
  obtain ⟨returned, shows⟩ := fetchAt_shows clean (noCache_of_static static) numRows (by omega) inside sized
    (by omega) (seekRowset_inside static tracks asked inside)
  rw [scroll_static static small (tracks.inRange short), asked]
  exact ⟨returned, shows, shows.tracks static tracks.result numRows inside sized⟩

/-- **A row behind the end.** -/
theorem scroll_after
    (past : rows.length ≤ call.target rows.length c.position c.lastRowFetched) :
    (c.scroll env call).1 = .noData ∧ (c.scroll env call).2.buffers = c.buffers ∧
      (c.scroll env call).2.position = rows.length ∧ Tracks rows (c.scroll env call).2 := by
  have range := tracks.inRange short
  have numRows : (c.turned call).numRows = rows.length := tracks.numRows
  rw [scroll_static static small range]
  rcases Nat.eq_zero_or_pos rows.length with none | some
  · obtain rfl : rows = [] := length_eq_zero_iff.mp none
    have last : (c.turned call).lastRowFetched = 0 := Int.le_antisymm tracks.bounded tracks.nonneg
    have result : (c.turned call).result = [] := tracks.result
    have cursor : (c.turned call).resultCursor = [] := tracks.empty rfl
    have size : (c.turned call).arraySize < 2 ^ 63 := Nat.lt_trans small.small (by decide)
    exact fetchAt_empty static clean result numRows cursor last (fun forward => if_neg forward) past
      (target_lt small range) small.sized size
  · rw [fetchAt_after (noCache_of_static static) (by rw [numRows]; omega) (by rw [numRows]; exact some)
      (by rw [numRows]; exact past)]
    have at_end : ((c.turned call).numRows : Int) = rows.length := congrArg Nat.cast numRows
    exact ⟨rfl, rfl, at_end, tracks.result, tracks.numRows, tracks.empty, tracks.nonneg, tracks.bounded,
      .after at_end⟩

/-- **A call keeps what holds between the calls.** -/
theorem scroll_tracks : Tracks rows (c.scroll env call).2 := by
  by_cases before : call.target rows.length c.position c.lastRowFetched < 0
  · exact (scroll_before static small short tracks before).2.2.2
  · obtain ⟨start, asked⟩ := Int.eq_ofNat_of_zero_le (Int.not_lt.mp before)
    rcases Nat.lt_or_ge start rows.length with inside | past
    · exact (scroll_inside static clean small short tracks asked inside).2.2
    · exact (scroll_after static clean small short tracks (by rw [asked]; omega)).2.2.2

theorem scroll_next_shown (forward : call.orientation = .next) (position : c.position = start)
    (last : c.lastRowFetched = count) :
    if start + count < rows.length then
      (c.scroll env call).1 = .success ∧ (c.scroll env call).2.position = (start + count : Nat)
    else (c.scroll env call).1 = .noData := by
  have asked : call.target rows.length c.position c.lastRowFetched = (start + count : Nat) := by
    rw [target, forward, position, last]
    exact if_neg (by omega)
  split
  · rename_i inside
    obtain ⟨returned, shows, -⟩ := scroll_inside static clean small short tracks asked inside
    exact ⟨returned, shows.position⟩
  · rename_i past
    exact (scroll_after static clean small short tracks (by rw [asked]; omega)).1

end

/-! ### Runs -/

/-- **A run keeps it.** -/
theorem afterCalls_tracks (static : env.cursorType = .static) (clean : env.Clean rows)
    (short : rows.length < 2 ^ 31) {calls : List ScrollCall} (small : ∀ call ∈ calls, call.Small)
    (tracks : Tracks rows c) : Tracks rows (c.afterCalls env calls) := by
  induction calls generalizing c with
  | nil => exact tracks
  | cons call calls ih =>
    have first := scroll_tracks static clean (small call mem_cons_self) short tracks
    exact ih (fun later member => small later (mem_cons_of_mem call member)) first

end RowCursor

end MaOdbc
