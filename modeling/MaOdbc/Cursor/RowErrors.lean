/-
**Rows that fail.**

What becomes of a rowset when some of its rows cannot be converted.

* `stmtFetch_isolated_iff`: when a failing row leaves the other rows alone. In a rowset that is read from
  its second row on, a `NULL` without an indicator spoils the slots behind it and the start of the next
  rowset; behind the end of a result that is read from the server, an error of a row counts as a row.
* `stmtFetch_returns_iff`: when the results of the rows make the result of the call. The first row of a
  rowset that is read from its second row on comes last, and its result replaces those of the others.
-/

import MaOdbc.Cursor.Reads

namespace MaOdbc

open List FetchEnv

/-- A row that fails: it reports an error, or has a value that is no point in time. -/
def FetchEnv.Fails (env : FetchEnv) (row : Row) : Prop :=
  env.rowResult row = .error ∨ RowCursor.convertRow env row = .error

/-- The result of a rowset, whatever the order of its rows: `SQL_SUCCESS` or `SQL_ERROR` if that is the result
of all its rows, and otherwise `SQL_SUCCESS_WITH_INFO`. -/
def allRowsResult (results : List SqlReturn) : SqlReturn :=
  if results.all (· == .success) then .success
  else if results.all (· == .error) then .error
  else .successWithInfo

namespace RowCursor

variable (env : FetchEnv) (rows : List Row) (start : Nat) (c : RowCursor)

def rowResults : List SqlReturn :=
  (c.stmtFetchReads env).filterMap fun read => read.2.head?.map env.rowResult

/-- **A failing row does not disturb the others**: each of the others is read into its slot, and leaves its
values and its own status there; all rows of the rowset count; and the next rowset starts right behind
it. -/
structure Isolated : Prop where
  slots : ∀ i < min c.arraySize (rows.length - start), ¬ env.Fails (rows.getD (start + i) []) →
    (i, rows.drop (start + i)) ∈ c.stmtFetchReads env ∧
      (c.stmtFetch env).2.buffers i = env.stored (rows.getD (start + i) []) (c.buffers i) ∧
      ∀ status, (c.stmtFetch env).2.rowStatus = some status →
        status i = mapToRowStatus (env.rowResult (rows.getD (start + i) []))
  processed : (c.stmtFetch env).2.rowsProcessed =
    c.rowsProcessed.map fun _ => min c.arraySize (rows.length - start)
  next : (c.stmtFetch env).2.nextSource env =
    rows.drop (start + min c.arraySize (rows.length - start))

/-- No row of the rowset puts the row cursor back before the others are read, except that all rows behind
it fail as well; and none does at all where the row cursor is needed for the next rowset. -/
structure Undisturbed : Prop where
  behind : ∀ i j, 1 ≤ i → i < j → j < min c.arraySize (rows.length - start) →
    env.rewinds (rows.getD (start + i) []) = true → env.Fails (rows.getD (start + j) [])
  next : env.cursorType = .dynamic ∨ rows.length ≤ start + c.arraySize ∨
    ∀ i, 1 ≤ i → i < min c.arraySize (rows.length - start) →
      env.rewinds (rows.getD (start + i) []) = false

/-- The rowset does not run past the end of a result that is read from the server, or this is not seen: the
last row that leaves an error record leaves only a warning, or the count of the rows is not asked for. -/
def EndsQuietly : Prop :=
  c.arraySize ≤ rows.length - start ∨ c.rowsProcessed = none ∨
    (acceptDiag env Diag.clear (rows.drop start)).returnValue.succeeded = true

variable {env rows start c}

/-! ### The slots -/

variable {i first count : Nat} {save pointer : List Row}

theorem slots_of_placed {placed : List (Row × Nat)} (nodup : (placed.map Prod.snd).Nodup)
    {c' : RowCursor}
    (buffers : c'.buffers = (placed.foldl (accept env) c.begun.beginRowset).buffers)
    (status : c'.rowStatus = (placed.foldl (accept env) c.begun.beginRowset).rowStatus) {row : Row}
    (member : (row, i) ∈ placed) :
    c'.buffers i = env.stored row (c.buffers i) ∧
      ∀ status, c'.rowStatus = some status → status i = mapToRowStatus (env.rowResult row) := by
  constructor
  · rw [buffers, foldl_accept_buffers nodup member]
    rfl
  · intro told written
    rw [status, foldl_accept_status] at written
    obtain ⟨before, -, after⟩ := Option.map_eq_some_iff.mp written
    rw [← after]
    exact acceptStatus_of_mem nodup member before

variable (env c) in
theorem counts_of_placed (placed : List (Row × Nat)) :
    (placed.foldl (accept env) c.begun.beginRowset).rowsProcessed =
        c.rowsProcessed.map (fun _ => placed.length) ∧
      (placed.foldl (accept env) c.begun.beginRowset).lastRowFetched = placed.length := by
  obtain ⟨processed, last⟩ := foldl_accept_counts env placed c.begun.beginRowset
  constructor
  · rw [processed]
    show (c.rowsProcessed.map fun _ => 0).map (· + placed.length) = _
    rw [Option.map_map]
    exact congrArg (Option.map · c.rowsProcessed) (funext fun _ => Nat.zero_add _)
  · rw [last]
    exact Int.zero_add _

theorem iterate_tail (pointer : List Row) (i : Nat) :
    (env.advance [])^[i] pointer = pointer.drop i := by
  induction i with
  | zero => rfl
  | succ i ih =>
    rw [Function.iterate_succ_apply', ih, advance, if_neg fun both => Bool.noConfusion both.2,
      tail_drop]

theorem mem_zip_iterate (below : i < count) :
    (first + i, (env.advance save)^[i] pointer) ∈
      (range' first count).zip (iterate (env.advance save) pointer count) := by
  refine mem_of_getElem? (i := i) ?_
  rw [getElem?_zip_eq_some, getElem?_range' below, getElem?_iterate _ _ _ _ below]
  exact ⟨by rw [Nat.one_mul], rfl⟩

theorem mem_reads_ordered (below : i < count) :
    (i, rows.drop (start + i)) ∈
      (range' 0 count).zip (iterate (env.advance []) (rows.drop start) count) := by
  have member : (0 + i, (env.advance [])^[i] (rows.drop start)) ∈ _ := mem_zip_iterate below
  rwa [iterate_tail, drop_drop, Nat.zero_add] at member

theorem of_mem_zip_iterate {pointer' : List Row} {slot : Nat} (member : (slot, pointer') ∈
      (range' first count).zip (iterate (env.advance save) pointer count)) :
    ∃ i < count, slot = first + i ∧ pointer' = (env.advance save)^[i] pointer := by
  obtain ⟨i, found⟩ := getElem?_of_mem member
  rw [getElem?_zip_eq_some] at found
  have below : i < count := by
    have inside := (List.getElem?_eq_some_iff.mp found.1).1
    rwa [length_range'] at inside
  rw [getElem?_range' below, getElem?_iterate _ _ _ _ below, Nat.one_mul] at found
  exact ⟨i, below, (Option.some.inj found.1).symm, (Option.some.inj found.2).symm⟩

theorem getD_drop_rows (i : Nat) : (rows.drop start).getD i [] = rows.getD (start + i) [] := by
  rw [getD_eq_getElem?_getD, getElem?_drop, getD_eq_getElem?_getD]

theorem eq_of_drop_eq {a b : Nat} (below : a ≤ rows.length) (below' : b ≤ rows.length)
    (same : rows.drop a = rows.drop b) : a = b := by
  have lengths := congrArg length same
  rw [length_drop, length_drop] at lengths
  omega

theorem pointers (inside : start < rows.length) (i : Nat) :
    ∃ e ≤ i + 1, (env.advance (rows.drop start))^[i] (rows.drop start).tail = rows.drop (start + e) ∧
      (∀ k, 1 ≤ k → k < e → env.rewinds (rows.getD (start + k) []) = false) ∧
      (e = i + 1 ↔ ∀ k, 1 ≤ k → k ≤ i → env.rewinds (rows.getD (start + k) []) = false) := by
  have some : (rows.drop start).isEmpty = false := by
    rw [← Bool.not_eq_true, List.isEmpty_iff, drop_eq_nil_iff]
    omega
  obtain ⟨e, bound, at_e, before, straight⟩ := iterate_rewinds env some i
  rw [drop_drop] at at_e
  simp only [getD_drop_rows] at straight before
  exact ⟨e, bound, at_e, before, straight⟩

/-- **The kinds of rowsets**: those that are read in order, those that run past the end of a result that is read from
the server, and those that are read from the second row on. -/
theorem rowset_cases (env : FetchEnv) (rows : List Row) (start : Nat) (c : RowCursor) :
    (env.cursorType = .forwardOnly ∨ (c.rowset rows start).length ≤ 1) ∧
        (env.noCache = true → c.arraySize ≤ rows.length - start) ∨
      env.noCache = true ∧ rows.length - start < c.arraySize ∨
      env.cursorType ≠ .forwardOnly ∧ ∃ count, (c.rowset rows start).length = count + 1 ∧ 1 ≤ count := by
  by_cases ordered : env.cursorType = .forwardOnly ∨ (c.rowset rows start).length ≤ 1
  · by_cases short : env.noCache = true ∧ rows.length - start < c.arraySize
    · exact .inr (.inl short)
    · exact .inl ⟨ordered, fun noCache => Nat.not_lt.mp fun below => short ⟨noCache, below⟩⟩
  · obtain ⟨scrollable, several⟩ := not_or.mp ordered
    exact .inr (.inr ⟨scrollable, (c.rowset rows start).length - 1, by omega, by omega⟩)

/-! ### Rowsets that are read in order -/

theorem nodup_zipIdx (shown : List Row) (first : Nat) : ((shown.zipIdx first).map Prod.snd).Nodup := by
  rw [zipIdx_map_snd]
  exact nodup_range'

theorem mem_zipIdx_rowset (inside : i < min c.arraySize (rows.length - start)) :
    (rows.getD (start + i) [], i) ∈ (c.rowset rows start).zipIdx :=
  mem_zipIdx_iff_getElem?.mpr (getElem?_rowset inside)

theorem isolated_ordered (ready : env.Ready) (at_ : AtRowset env rows start c)
    (ordered : env.cursorType = .forwardOnly ∨ (c.rowset rows start).length ≤ 1)
    (whole : env.noCache = true → c.arraySize ≤ rows.length - start) : Isolated env rows start c := by
  obtain ⟨fetched, reads⟩ := stmtFetch_ordered ready at_ ordered whole
  have some := at_.some
  have length : (c.rowset rows start).length = min c.arraySize (rows.length - start) := rowset_length
  have inside := at_.inside
  have fits := at_.fits
  generalize placed_eq : (c.rowset rows start).zipIdx.foldl (accept env) c.begun.beginRowset = c' at fetched
  have same := foldl_accept_same env (c.rowset rows start).zipIdx c.begun.beginRowset
  have counts := counts_of_placed env c (c.rowset rows start).zipIdx
  rw [placed_eq, length_zipIdx, length] at counts
  rw [placed_eq] at same
  obtain ⟨processed, last⟩ := counts
  obtain ⟨result, numRows, -, -, position⟩ := same
  rw [length] at fetched
  refine ⟨fun i below _ => ⟨?_, ?_⟩, ?_, ?_⟩
  · rw [reads]
    exact mem_reads_ordered (by omega)
  · rw [fetched]
    exact slots_of_placed (nodup_zipIdx _ 0) (by rw [placed_eq]; rfl) (by rw [placed_eq]; rfl)
      (mem_zipIdx_rowset below)
  · rw [fetched]
    exact processed
  · rw [fetched]
    generalize behind : start + min c.arraySize (rows.length - start) = target
    have last' : (c'.setSource env (rows.drop target)).lastRowFetched =
        (min c.arraySize (rows.length - start) : Nat) := last
    have left : (c'.setSource env (rows.drop target)).source env = rows.drop target := source_setSource
    show (c'.setSource env (rows.drop target)).nextSource env = _
    cases noCache : env.noCache with
    | true =>
      obtain ⟨-, place⟩ := at_.streamed noCache
      have place' := foldl_accept_position (c := c.begun.beginRowset) env (c.rowset rows start).zipIdx place
      rw [placed_eq] at place'
      rw [source, noCache] at left
      exact (nextSource_streamed (c := c'.setSource env _) noCache place' (by omega) (by omega)).trans left
    | false =>
      obtain ⟨is_rows, count, place⟩ := at_.cached noCache
      have place' : (c'.setSource env (rows.drop target)).position = start :=
        (position (by show 0 ≤ c.position; omega)).trans place
      by_cases dynamic : env.cursorType = .dynamic
      · rw [nextSource_dynamic dynamic (at_.steady dynamic) fits inside place' last' (by omega), behind]
      · have nonempty : rows ≠ [] := ne_nil_of_length_pos (by omega)
        have single : ¬ (1 < min c.arraySize (rows.length - start) ∧ env.cursorType ≠ .forwardOnly) := by
          rintro ⟨several, scrollable⟩
          rcases ordered with forward | one
          · exact scrollable forward
          · omega
        rw [source, noCache] at left
        rw [nextSource_cached (c := c'.setSource env _) noCache dynamic nonempty (result.trans is_rows)
          (numRows.trans count) fits place' last' (by omega), if_neg single, behind]
        split
        · exact left
        · rename_i ended
          exact (drop_eq_nil_of_le (Nat.not_lt.mp ended)).symm

theorem isolated_short_iff (ready : env.Ready) (at_ : AtRowset env rows start c)
    (noCache : env.noCache = true) (short : rows.length - start < c.arraySize) :
    Isolated env rows start c ↔ c.rowsProcessed = none ∨
      (acceptDiag env Diag.clear (rows.drop start)).returnValue.succeeded = true := by
  have all : c.rowset rows start = rows.drop start := rowset_eq_drop short
  have length : (c.rowset rows start).length = min c.arraySize (rows.length - start) := rowset_length
  obtain ⟨ended, place⟩ := at_.streamed noCache
  have fits := at_.fits
  have inside := at_.inside
  obtain ⟨fetched, missed, -, reads⟩ := stmtFetch_short ready at_ noCache short
  generalize placed_eq : (c.rowset rows start).zipIdx.foldl (accept env) c.begun.beginRowset = c₁ at fetched
  have counts := counts_of_placed env c (c.rowset rows start).zipIdx
  have place' := foldl_accept_position (c := c.begun.beginRowset) env (c.rowset rows start).zipIdx place
  rw [placed_eq, length_zipIdx, length] at counts
  rw [placed_eq] at place'
  obtain ⟨processed, last⟩ := counts
  have read : ∀ i < min c.arraySize (rows.length - start),
      (i, rows.drop (start + i)) ∈ c.stmtFetchReads env := by
    intro i below
    rw [reads]
    exact mem_append_left _ (mem_reads_ordered (by omega))
  have nothing : rows.drop (start + min c.arraySize (rows.length - start)) = [] :=
    drop_eq_nil_of_le (by omega)
  rw [all] at fetched
  split at fetched
  · rename_i quiet
    refine ⟨fun _ => Or.inr quiet, fun _ => ?_⟩
    obtain ⟨c', returned, buffers, counted, status, last', unread, position⟩ := fetched
    refine ⟨fun i below _ => ⟨read i below, ?_⟩, ?_, ?_⟩
    · rw [returned]
      exact slots_of_placed (nodup_zipIdx _ 0) (by rw [placed_eq]; exact buffers)
        (by rw [placed_eq]; exact status) (mem_zipIdx_rowset below)
    · rw [returned]
      exact counted.trans processed
    · have counted_last : c'.lastRowFetched = (min c.arraySize (rows.length - start) : Nat) :=
        last'.trans last
      rw [returned, nextSource_streamed noCache position (by omega) (by omega), unread, nothing, setSource,
        noCache]
      rfl
  · rename_i loud
    constructor
    · intro isolated
      have told := isolated.processed
      rw [fetched] at told
      have more : (c₁.rowsProcessed.map (· + 1)) =
          c.rowsProcessed.map fun _ => min c.arraySize (rows.length - start) := told
      rw [processed, Option.map_map] at more
      cases asked : c.rowsProcessed with
      | none => exact Or.inl rfl
      | some count =>
        rw [asked] at more
        have equal : min c.arraySize (rows.length - start) + 1 = min c.arraySize (rows.length - start) :=
          Option.some.inj more
        omega
    · intro condition
      have unasked : c.rowsProcessed = none := condition.resolve_right loud
      rw [all] at length
      rw [length] at fetched
      obtain ⟨c', failed⟩ : ∃ c', c' = (c₁.setSource env []).failRound env
        (min c.arraySize (rows.length - start)) := ⟨_, rfl⟩
      rw [← failed] at fetched
      refine ⟨fun i below _ => ⟨read i below, ?_⟩, ?_, ?_⟩
      · obtain ⟨buffers, status⟩ := slots_of_placed (nodup_zipIdx _ 0) (by rw [placed_eq]) (by rw [placed_eq])
          (mem_zipIdx_rowset below)
        rw [fetched]
        refine ⟨?_, fun told written => ?_⟩
        · rw [failed]
          exact buffers
        · rw [failed] at written
          have marked : c₁.rowStatus.map
              (Function.update · (min c.arraySize (rows.length - start)) .error) = some told := written
          obtain ⟨before, known, after⟩ := Option.map_eq_some_iff.mp marked
          rw [← after, Function.update_of_ne (Nat.ne_of_lt below)]
          exact status before known
      · rw [fetched, failed]
        show c₁.rowsProcessed.map (· + 1) = _
        rw [processed, unasked]
        rfl
      · have position : c'.position = if c₁.position < 0 then 0 else c₁.position := by
          rw [failed]
          rfl
        have unread : c'.unread = [] := by
          rw [failed]
          show (if env.noCache = true then [] else c₁.unread) = []
          rw [noCache]
          rfl
        have last' : c'.lastRowFetched = (min c.arraySize (rows.length - start) : Nat) := by
          rw [failed]
          exact last
        rw [fetched]
        show c'.nextSource env = _
        rw [nextSource_streamed noCache (by rw [position]; split <;> omega) (by omega) (by omega), unread,
          nothing]

/-! ### Rowsets that are read from the second row on -/

theorem isolated_scrolled_iff (ready : env.Ready) (at_ : AtRowset env rows start c)
    (scrollable : env.cursorType ≠ .forwardOnly)
    (several : (c.rowset rows start).length = count + 1) (more : 1 ≤ count) :
    Isolated env rows start c ↔ Undisturbed env rows start c := by
  obtain ⟨fetched, reads⟩ := stmtFetch_scrolled ready at_ scrollable several more
  have length : min c.arraySize (rows.length - start) = count + 1 := by
    rw [← rowset_length]
    exact several
  have inside := at_.inside
  have fits := at_.fits
  have noCache := noCache_of_scrollable scrollable
  obtain ⟨is_rows, counted, place⟩ := at_.cached noCache
  generalize placed_eq : (env.passes (rows.drop start) (rows.drop start).tail count).zipIdx 1 ++
    [((rows.drop start).headD [], 0)] = placed at fetched
  have placed_length : placed.length = count + 1 := by
    rw [← placed_eq, length_append, length_zipIdx, passes, length_map, length_iterate]
    rfl
  have nodup : (placed.map Prod.snd).Nodup := by
    rw [← placed_eq, map_append, zipIdx_map_snd, passes, length_map, length_iterate]
    refine nodup_append.mpr ⟨nodup_range', pairwise_singleton _ _, fun slot member first last => ?_⟩
    have low := (mem_range'_1.mp member).1
    have none := mem_singleton.mp last
    omega
  obtain ⟨processed, last⟩ := counts_of_placed env c placed
  obtain ⟨result, numRows, -, -, position⟩ := foldl_accept_same env placed c.begun.beginRowset
  obtain ⟨e, bound, at_next, -, straight⟩ := @pointers env rows start inside count
  rw [at_next] at fetched
  obtain ⟨c', final⟩ : ∃ c' : RowCursor, c' = { placed.foldl (accept env) c.begun.beginRowset with
    next := rows.drop (start + e)
    resultCursor := env.advance (rows.drop start) (rows.drop start) } := ⟨_, rfl⟩
  rw [← final] at fetched
  have last' : c'.lastRowFetched = (count + 1 : Nat) := by
    rw [final, ← placed_length]
    exact last
  have place' : c'.position = start := by
    rw [final]
    exact (position (by show 0 ≤ c.position; omega)).trans place
  -- The next rowset of a cursor that is not dynamic.
  have next_source : env.cursorType ≠ .dynamic → c'.nextSource env =
      if start + (count + 1) < rows.length then rows.drop (start + e) else [] := by
    intro steady
    have nonempty : rows ≠ [] := ne_nil_of_length_pos (by omega)
    have result' : c'.result = rows := by
      rw [final]
      exact result.trans is_rows
    have numRows' : c'.numRows = rows.length := by
      rw [final]
      exact numRows.trans counted
    have next' : c'.next = rows.drop (start + e) := by rw [final]
    rw [nextSource_cached noCache steady nonempty result' numRows' fits place' last' (by omega)]
    split
    · rename_i further
      have full : ¬ (rows.drop (start + e)).isEmpty = true := by
        rw [List.isEmpty_iff, drop_eq_nil_iff]
        omega
      rw [if_pos ⟨by omega, scrollable⟩, next', if_neg full]
    · rfl
  constructor
  · intro isolated
    refine ⟨fun i j low before below back => ?_, ?_⟩
    · by_contra sound
      obtain ⟨read, -⟩ := isolated.slots j below sound
      rw [reads] at read
      rcases mem_append.mp read with round | first
      · obtain ⟨k, within, slot, pointer⟩ := of_mem_zip_iterate round
        obtain ⟨e', bound', at_e', -, straight'⟩ := @pointers env rows start inside k
        have same : e' = j := by
          have equal := eq_of_drop_eq (by omega) (by omega) (at_e'.symm.trans pointer.symm)
          omega
        have quiet := straight'.mp (by omega) i low (by omega)
        rw [back] at quiet
        cases quiet
      · have none : j = 0 := congrArg Prod.fst (mem_singleton.mp first)
        omega
    · by_cases dynamic : env.cursorType = .dynamic
      · exact Or.inl dynamic
      rcases Nat.lt_or_ge (start + c.arraySize) rows.length with further | ended
      · refine Or.inr (Or.inr fun k low below => ?_)
        have next := isolated.next
        rw [fetched] at next
        have source := next_source dynamic
        rw [if_pos (by omega)] at source
        have reached := eq_of_drop_eq (by omega) (by omega) (source.symm.trans next)
        exact straight.mp (by omega) k low (by omega)
      · exact Or.inr (Or.inl ended)
  · intro undisturbed
    refine ⟨fun i below sound => ?_, ?_, ?_⟩
    · have both : (i, rows.drop (start + i)) ∈ c.stmtFetchReads env ∧
          (rows.getD (start + i) [], i) ∈ placed := by
        rw [reads, ← placed_eq]
        cases i with
        | zero =>
          refine ⟨mem_append_right _ (mem_singleton_self _), mem_append_right _ ?_⟩
          rw [← getD_drop_rows, ← headD_drop, drop_zero]
          exact mem_singleton_self _
        | succ i =>
          obtain ⟨e', bound', at_e', -, straight'⟩ := @pointers env rows start inside i
          have reached : e' = i + 1 := by
            refine straight'.mpr fun k low high => ?_
            by_contra back
            exact sound (undisturbed.behind k (i + 1) low (by omega) below (by simpa using back))
          rw [reached] at at_e'
          have within : i < count := by omega
          have round : (1 + i, (env.advance (rows.drop start))^[i] (rows.drop start).tail) ∈
              (range' 1 count).zip
                (iterate (env.advance (rows.drop start)) (rows.drop start).tail count) :=
            mem_zip_iterate within
          rw [at_e', Nat.add_comm 1 i] at round
          refine ⟨mem_append_left _ round, mem_append_left _ ?_⟩
          refine mk_mem_zipIdx_iff_le_and_getElem?_sub.mpr ⟨Nat.le_add_left 1 i, ?_⟩
          rw [Nat.add_sub_cancel, passes, getElem?_map, getElem?_iterate _ _ _ _ within,
            at_e', Option.map_some, headD_drop]
      refine ⟨both.1, ?_⟩
      rw [fetched]
      exact slots_of_placed nodup (by rw [final]) (by rw [final]) both.2
    · rw [fetched, final, length, ← placed_length]
      exact processed
    · rw [fetched, length]
      show c'.nextSource env = _
      by_cases dynamic : env.cursorType = .dynamic
      · exact nextSource_dynamic dynamic (at_.steady dynamic) fits inside place' last' (by omega)
      · rw [next_source dynamic]
        split
        · have quiet : ∀ k, 1 ≤ k → k ≤ count → env.rewinds (rows.getD (start + k) []) = false := by
            intro k low high
            rcases undisturbed.next with is_dynamic | ended | quiet
            · exact absurd is_dynamic dynamic
            · omega
            · exact quiet k low (by omega)
          rw [straight.mpr quiet]
        · rename_i ended
          exact (drop_eq_nil_of_le (Nat.not_lt.mp ended)).symm

/-- **A failing row and the others.** A failing row of a rowset leaves the others alone exactly if the
rowset does not run past the end of a result that is read from the server with an error of a row left
behind, and in a scrollable cursor no row puts the row cursor back before the others are read. -/
theorem stmtFetch_isolated_iff (ready : env.Ready) (at_ : AtRowset env rows start c) :
    Isolated env rows start c ↔
      (env.noCache = true → EndsQuietly env rows start c) ∧
        (env.cursorType ≠ .forwardOnly → Undisturbed env rows start c) := by
  rcases rowset_cases env rows start c with ⟨ordered, whole⟩ | ⟨noCache, short⟩ | ⟨scrollable, count, length, more⟩
  · refine ⟨fun _ => ⟨fun noCache => Or.inl (whole noCache), fun scrollable => ?_⟩,
      fun _ => isolated_ordered ready at_ ordered whole⟩
    have single := ordered.resolve_left scrollable
    rw [rowset_length] at single
    exact ⟨fun i j low before below => by omega, Or.inr (Or.inr fun i low below => by omega)⟩
  · rw [isolated_short_iff ready at_ noCache short]
    constructor
    · exact fun quiet => ⟨fun _ => Or.inr quiet, fun scrollable => absurd (forwardOnly_of_noCache noCache) scrollable⟩
    · exact fun both => (both.1 noCache).resolve_left (Nat.not_le.mpr short)
  · rw [isolated_scrolled_iff ready at_ scrollable length more, noCache_of_scrollable scrollable]
    exact ⟨fun undisturbed => ⟨fun never => Bool.noConfusion never, fun _ => undisturbed⟩,
      fun both => both.2 scrollable⟩

/-- A column that is bound without an indicator. -/
def unindicated : FetchEnv := { ard := [{ hasIndicator := false }] }

theorem unindicated_ready : unindicated.Ready := ⟨by decide, rfl, rfl⟩

theorem atRowset_two (first second : Row) :
    AtRowset unindicated [first, second] 0
      { result := [first, second], numRows := 2, resultCursor := [first, second], position := 0, arraySize := 2 } :=
  ⟨rfl, by simp, by simp, by simp, by simp, fun _ => ⟨rfl, rfl, rfl⟩,
    fun never => Bool.noConfusion never, fun never => CursorType.noConfusion never⟩

theorem stmtFetch_isolated_last :
    let rows : List Row := [[some (lit "a")], [none]]
    let c : RowCursor :=
      { result := rows, numRows := 2, resultCursor := rows, position := 0, arraySize := 2 }
    Isolated unindicated rows 0 c := by
  intro rows c
  refine (stmtFetch_isolated_iff unindicated_ready (atRowset_two _ _)).mpr ⟨fun never => Bool.noConfusion never, fun _ => ⟨?_, ?_⟩⟩
  · intro i j low before below
    have short : j < 2 := below
    omega
  · exact Or.inr (Or.inl (by decide))

/-- A `NULL` in the second of three rows: the third slot gets the first row. -/
theorem stmtFetch_isolated_null :
    let rows : List Row := [[some (lit "a")], [none], [some (lit "c")]]
    let c : RowCursor :=
      { result := rows, numRows := 3, resultCursor := rows, position := 0, arraySize := 3 }
    ¬ Isolated unindicated rows 0 c := by
  intro rows c isolated
  have sound : ¬ unindicated.Fails (rows.getD (0 + 2) []) := by
    have success : unindicated.rowResult (rows.getD (0 + 2) []) = .success := by decide +kernel
    have converted : convertRow unindicated (rows.getD (0 + 2) []) = .success := by decide +kernel
    rintro (failed | failed)
    · rw [success] at failed
      cases failed
    · rw [converted] at failed
      cases failed
  have read := (isolated.slots 2 (by decide) sound).1
  have reads : c.stmtFetchReads unindicated = [(1, rows.drop 1), (2, rows.drop 0), (0, rows.drop 0)] := by
    decide +kernel
  rw [reads] at read
  revert read
  decide

/-! ### The result of the call -/

theorem rowResult_cases (row : Row) :
    env.rowResult row = .success ∨ env.rowResult row = .successWithInfo ∨ env.rowResult row = .error := by
  rw [rowResult]
  split
  · rename_i fixed
    exact Or.inr fixed.symm
  · rw [truncationDiag]
    split
    · cases env.truncation row with
      | none => exact Or.inl rfl
      | some code => exact Diag.returnOf_cases _
    · exact Or.inl rfl

theorem allRowsResult_cons {first : SqlReturn} (results : List SqlReturn)
    (known : first = .success ∨ first = .successWithInfo ∨ first = .error) :
    allRowsResult (first :: results) = if results.all (· == first) then first else .successWithInfo := by
  rw [allRowsResult, all_cons, all_cons]
  rcases known with rfl | rfl | rfl
  · cases results.all (· == .success) with
    | true | false => rfl
  · exact (ite_self _).symm
  · cases results.all (· == .error) with
    | true | false => rfl

theorem allRowsResult_append (results : List SqlReturn) (first : SqlReturn) :
    allRowsResult (results ++ [first]) = allRowsResult (first :: results) := by
  rw [allRowsResult, allRowsResult, all_append, all_append, all_cons, all_cons,
    all_nil, all_cons, all_cons, all_nil, Bool.and_true, Bool.and_true, Bool.and_comm,
    Bool.and_comm (results.all (· == .error))]

theorem allRowsResult_eq_error_iff {results : List SqlReturn} (some : results ≠ []) :
    allRowsResult results = .error ↔ ∀ result ∈ results, result = .error := by
  have all : results.all (· == .error) = true ↔ ∀ result ∈ results, result = .error := by
    rw [all_eq_true]
    exact forall₂_congr fun result _ => beq_iff_eq
  rw [allRowsResult, ← all]
  split
  · rename_i success
    refine ⟨fun never => SqlReturn.noConfusion never, fun error => ?_⟩
    obtain ⟨result, member⟩ := exists_mem_of_ne_nil results some
    have is_success := beq_iff_eq.mp (all_eq_true.mp success result member)
    rw [all.mp error result member] at is_success
    cases is_success
  · split
    · rename_i error
      exact ⟨fun _ => error, fun _ => rfl⟩
    · rename_i other
      exact ⟨fun never => SqlReturn.noConfusion never, fun error => absurd error other⟩

theorem acceptResult_zipIdx (result : SqlReturn) (chunk : List Row) (slot : Nat) :
    acceptResult env result (chunk.zipIdx (slot + 1)) =
      if (chunk.map env.rowResult).all (· == result) then result else .successWithInfo := by
  induction chunk generalizing result slot with
  | nil => rfl
  | cons row chunk ih =>
    have step : acceptResult env result ((row :: chunk).zipIdx (slot + 1)) =
        acceptResult env (calcAllRowsRc result (env.rowResult row) (slot + 1)) (chunk.zipIdx (slot + 2)) := rfl
    rw [step, ih, calcAllRowsRc, if_neg (Nat.succ_ne_zero slot), map_cons, all_cons]
    by_cases same : env.rowResult row = result
    · rw [if_neg (not_not_intro same), same, beq_self_eq_true, Bool.true_and]
    · rw [if_pos same, beq_false_of_ne same, Bool.false_and, if_neg Bool.false_ne_true]
      exact ite_self _

theorem acceptResult_ordered {shown : List Row} (some : shown ≠ []) :
    acceptResult env .success shown.zipIdx = allRowsResult (shown.map env.rowResult) := by
  cases shown with
  | nil => exact absurd rfl some
  | cons row chunk =>
    have step : acceptResult env .success (row :: chunk).zipIdx =
        acceptResult env (env.rowResult row) (chunk.zipIdx (0 + 1)) := rfl
    rw [step, acceptResult_zipIdx, map_cons, allRowsResult_cons _ (rowResult_cases row)]

theorem results_zip_iterate
    (some : ∀ pointer' ∈ iterate (env.advance save) pointer count, pointer' ≠ []) :
    ((range' first count).zip (iterate (env.advance save) pointer count)).filterMap
        (fun read => read.2.head?.map env.rowResult) =
      (env.passes save pointer count).map env.rowResult := by
  induction count generalizing pointer first with
  | zero => rfl
  | succ count ih =>
    cases pointer with
    | nil => exact absurd rfl (some [] mem_cons_self)
    | cons row rest =>
      rw [range'_succ, passes, iterate, zip_cons_cons, filterMap_cons]
      dsimp only [head?_cons, Option.map_some]
      rw [ih fun pointer' member => some pointer' (mem_cons_of_mem _ member)]
      rfl

theorem passes_rowset (at_ : AtRowset env rows start c) :
    env.passes [] (rows.drop start) (c.rowset rows start).length = c.rowset rows start ∧
      ∀ pointer ∈ iterate (env.advance []) (rows.drop start) (c.rowset rows start).length,
        pointer ≠ [] := by
  have straight : ([] : List Row) = [] ∨ ∀ row ∈ c.rowset rows start, env.rewinds row = false := Or.inl rfl
  obtain ⟨rows', -, some⟩ := iterate_advance straight
  rw [← at_.split, at_.reads] at rows' some
  exact ⟨rows', some⟩

variable (env rows start c) in
/-- The result of the first row of a rowset is that of the others that are read, or it is
`SQL_SUCCESS_WITH_INFO` anyway. A row that puts the row cursor back keeps those behind it from being read. -/
def FirstDecides : Prop :=
  env.rowResult (rows.getD start []) = .successWithInfo ∨
    ∀ i, 1 ≤ i → i < min c.arraySize (rows.length - start) →
      (∀ k, 1 ≤ k → k < i → env.rewinds (rows.getD (start + k) []) = false) →
        env.rowResult (rows.getD (start + i) []) = env.rowResult (rows.getD start [])

theorem returns_scrolled_iff (ready : env.Ready) (at_ : AtRowset env rows start c)
    (scrollable : env.cursorType ≠ .forwardOnly)
    (several : (c.rowset rows start).length = count + 1) (more : 1 ≤ count) :
    (c.stmtFetch env).1 = allRowsResult (c.rowResults env) ↔ FirstDecides env rows start c := by
  obtain ⟨fetched, reads⟩ := stmtFetch_scrolled ready at_ scrollable several more
  have length : min c.arraySize (rows.length - start) = count + 1 := by
    rw [← rowset_length]
    exact several
  have inside := at_.inside
  have head : (rows.drop start).head? = some (rows.getD start []) := by
    rw [head?_drop, getD_eq_getElem?_getD, getElem?_eq_getElem inside]
    rfl
  have headD : (rows.drop start).headD [] = rows.getD start [] := by
    rw [headD_drop]
  have nonempty := @iterate_some (rows.drop start) count env (by rw [length_drop]; omega)
  have results : c.rowResults env =
      (env.passes (rows.drop start) (rows.drop start).tail count).map env.rowResult ++
        [env.rowResult (rows.getD start [])] := by
    rw [rowResults, reads, filterMap_append, results_zip_iterate nonempty]
    refine congrArg (_ ++ ·) ?_
    rw [filterMap_cons]
    dsimp only
    rw [head]
    rfl
  have returned : (c.stmtFetch env).1 = env.rowResult (rows.getD start []) := by
    rw [fetched, acceptResult, foldl_append, headD]
    rfl
  have all : ((env.passes (rows.drop start) (rows.drop start).tail count).map env.rowResult).all
      (· == env.rowResult (rows.getD start [])) = true ↔
      ∀ i, 1 ≤ i → i < count + 1 →
        (∀ k, 1 ≤ k → k < i → env.rewinds (rows.getD (start + k) []) = false) →
          env.rowResult (rows.getD (start + i) []) = env.rowResult (rows.getD start []) := by
    rw [all_eq_true]
    constructor
    · intro same i low below quiet
      obtain ⟨e, bound, at_e, -, straight⟩ := @pointers env rows start inside (i - 1)
      have reached : e = i := by
        have equal := straight.mpr fun k low' high => quiet k low' (by omega)
        omega
      have member : env.rowResult (rows.getD (start + i) []) ∈
          (env.passes (rows.drop start) (rows.drop start).tail count).map env.rowResult := by
        rw [← reached, ← headD_drop, ← at_e]
        exact mem_map_of_mem (mem_map_of_mem (mem_iterate.mpr ⟨i - 1, by omega, rfl⟩))
      exact beq_iff_eq.mp (same _ member)
    · intro same result member
      obtain ⟨row, passed, rfl⟩ := mem_map.mp member
      obtain ⟨pointer, visited, rfl⟩ := mem_map.mp passed
      obtain ⟨i, below, rfl⟩ := mem_iterate.mp visited
      obtain ⟨e, bound, at_e, before, -⟩ := @pointers env rows start inside i
      rw [at_e, headD_drop, beq_iff_eq]
      cases e with
      | zero => rfl
      | succ e => exact same (e + 1) (Nat.succ_pos e) (by omega) before
  rw [returned, results, allRowsResult_append, allRowsResult_cons _ (rowResult_cases _), FirstDecides, length,
    ← all]
  cases ((env.passes (rows.drop start) (rows.drop start).tail count).map env.rowResult).all
      (· == env.rowResult (rows.getD start [])) with
  | true => exact ⟨fun _ => Or.inr rfl, fun _ => rfl⟩
  | false =>
    rw [if_neg Bool.false_ne_true]
    exact ⟨Or.inl, fun either => either.resolve_right Bool.false_ne_true⟩

/-- **The result of a rowset.** A call returns what the results of its rows say exactly if the rowset does
not run past the end of a result that is read from the server with an error of a row left behind, unless all
rows failed, and if in a scrollable cursor the first row decides. -/
theorem stmtFetch_returns_iff (ready : env.Ready) (at_ : AtRowset env rows start c) :
    (c.stmtFetch env).1 = allRowsResult (c.rowResults env) ↔
      (env.noCache = true → c.arraySize ≤ rows.length - start ∨
          (acceptDiag env Diag.clear (rows.drop start)).returnValue.succeeded = true ∨
          ∀ row ∈ rows.drop start, env.rowResult row = .error) ∧
        (env.cursorType ≠ .forwardOnly → FirstDecides env rows start c) := by
  have some : c.rowset rows start ≠ [] := ne_nil_of_length_pos at_.some
  obtain ⟨passes, nonempty⟩ := passes_rowset at_
  rcases rowset_cases env rows start c with ⟨ordered, whole⟩ | ⟨noCache, short⟩ | ⟨scrollable, count, length, more⟩
  · obtain ⟨fetched, reads⟩ := stmtFetch_ordered ready at_ ordered whole
    refine ⟨fun _ => ⟨fun noCache => Or.inl (whole noCache), fun scrollable => ?_⟩, fun _ => ?_⟩
    · have single := ordered.resolve_left scrollable
      rw [rowset_length] at single
      exact Or.inr fun i low below => by omega
    · rw [fetched, rowResults, reads, results_zip_iterate nonempty, passes]
      exact acceptResult_ordered some
  · have vacuous : env.cursorType ≠ .forwardOnly → FirstDecides env rows start c :=
      fun scrollable => absurd (forwardOnly_of_noCache noCache) scrollable
    have all : c.rowset rows start = rows.drop start := rowset_eq_drop short
    obtain ⟨fetched, missed, empty, reads⟩ := stmtFetch_short ready at_ noCache short
    have results : c.rowResults env = (c.rowset rows start).map env.rowResult := by
      have none : missed.filterMap (fun read => read.2.head?.map env.rowResult) = [] := by
        refine filterMap_eq_nil_iff.mpr fun read member => ?_
        rw [empty read member]
        rfl
      rw [rowResults, reads, filterMap_append, none, results_zip_iterate nonempty, passes,
        append_nil]
    rw [results]
    rw [all] at fetched
    split at fetched
    · rename_i quiet
      obtain ⟨c', returned, -⟩ := fetched
      refine ⟨fun _ => ⟨fun _ => Or.inr (Or.inl quiet), vacuous⟩, fun _ => ?_⟩
      rw [returned, ← all]
      exact acceptResult_ordered some
    · rename_i loud
      have failed : SqlReturn.error = allRowsResult ((c.rowset rows start).map env.rowResult) ↔
          ∀ row ∈ rows.drop start, env.rowResult row = .error := by
        rw [eq_comm, allRowsResult_eq_error_iff (fun none => some (map_eq_nil_iff.mp none)),
          forall_mem_map, all]
      rw [fetched]
      refine failed.trans ⟨fun every => ⟨fun _ => Or.inr (Or.inr every), vacuous⟩, fun both => ?_⟩
      rcases both.1 noCache with whole | quiet | every
      · omega
      · exact absurd quiet loud
      · exact every
  · rw [returns_scrolled_iff ready at_ scrollable length more, noCache_of_scrollable scrollable]
    exact ⟨fun decides => ⟨fun never => Bool.noConfusion never, fun _ => decides⟩,
      fun both => both.2 scrollable⟩

theorem stmtFetch_returns_failed :
    let rows : List Row := [[none], [none]]
    let c : RowCursor :=
      { result := rows, numRows := 2, resultCursor := rows, position := 0, arraySize := 2 }
    (c.stmtFetch unindicated).1 = allRowsResult (c.rowResults unindicated) := by
  intro rows c
  refine (stmtFetch_returns_iff unindicated_ready (atRowset_two _ _)).mpr ⟨fun never => Bool.noConfusion never, fun _ => Or.inr ?_⟩
  intro i low below _
  have second : i = 1 := by
    have short : i < 2 := below
    omega
  rw [second]
  rfl

/-- The first of two rows succeeds and the second fails: nothing is said of the failure. -/
theorem stmtFetch_returns_first :
    let rows : List Row := [[some (lit "a")], [none]]
    let c : RowCursor :=
      { result := rows, numRows := 2, resultCursor := rows, position := 0, arraySize := 2 }
    (c.stmtFetch unindicated).1 ≠ allRowsResult (c.rowResults unindicated) := by
  decide +kernel

end RowCursor

end MaOdbc
