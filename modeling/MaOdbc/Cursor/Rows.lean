/-
**What a row does.**

A round of the loop in `MADB_StmtFetch` brings a row into a slot of the rowset, whatever its values are.
What it does depends on the row alone, up to where the row cursor is put back to.

* `fixRow`: what `MADB_FixFetchedValues` makes of a row.
* `rowResult`, `rowDiag`: the result of the row, and the error record it leaves.
* `fetchRow_accepts`: a round, in these terms (`accept`).
* `stmtFetchReads`: which row is read into which slot of the rowset.
* `forEach_accepts`: rounds one after another. The row cursor advances from row to row, or goes back.
-/

import Mathlib.Data.List.Iterate
import MaOdbc.Cursor.Fetch

namespace MaOdbc

open List Function FetchEnv

/-- What `MADB_FixFetchedValues` makes of a row: what it returns, the error record it leaves, whether it puts
the row cursor back, and how many columns it gets to. -/
structure RowFix where
  rc : SqlReturn := .success
  error : Option Diag := none
  rewinds : Bool := false
  reach : Nat := 0
  deriving DecidableEq, Repr

namespace FetchEnv

variable (env : FetchEnv) (row : Row)

def fixStep (i : Nat) (fix : RowFix) : Flow RowFix RowFix :=
  let fix := { fix with reach := i + 1 }
  match env.column i with
  | none => .next fix
  | some column =>
    match row.value i with
    | none =>
      if column.hasIndicator then .next fix
      else
        let error := Diag.setError .err22002 none 0
        .next { fix with rc := error.returnValue, error := some error, rewinds := true }
    | some text =>
      match (env.convert i text).fixing with
      | .fixed => .next fix
      | .left error => .next { fix with error := some error }
      | .failed code =>
        let error := Diag.setError code none 0
        .next { fix with rc := calcAllFldsRc fix.rc error.returnValue, error := some error }
      | .stopped code =>
        let error := Diag.setError code none 0
        .leave { fix with rc := error.returnValue, error := some error }

/-- The row as `MADB_FixFetchedValues` sees it. -/
def fixRow : RowFix :=
  match forEach (env.fixStep row) (List.range env.columnCount) {} with
  | .next fix => fix
  | .leave fix => fix

/-- Whether the row has a `NULL` without an indicator, that puts the row cursor back. -/
def rewinds : Bool := (env.fixRow row).rewinds

def storedCell (i : Nat) (cell : Cell) : Cell :=
  match env.column i, row.value i with
  | none, _ => cell
  | some column, none => column.storeNull cell
  | some column, some text => column.storeValue (env.convert i text) cell

def stored (cells : Nat → Cell) (i : Nat) : Cell :=
  if i < (env.fixRow row).reach then env.storedCell row i (cells i) else cells i

/-- The error of the first column of the row that is cut off. -/
def truncation : Option ErrorCode :=
  ((List.range env.columnCount).find? fun i =>
    (env.column i).isSome && (env.truncationError i).isSome &&
      match row.value i with
      | some text => (env.convert i text).code == .truncated
      | none => false).bind env.truncationError

def truncationDiag : Option Diag :=
  if RowCursor.convertRow env row = .truncated then
    (env.truncation row).map (Diag.setError · none 0)
  else none

/-- **The result of a row**: what its values report, or that they are cut off. -/
def rowResult : SqlReturn :=
  let fixed := (env.fixRow row).rc
  if fixed = .error ∨ fixed = .successWithInfo then fixed
  else ((env.truncationDiag row).map (·.returnValue)).getD .success

def rowDiag (error : Diag) : Diag :=
  let converted := if RowCursor.convertRow env row = .error then Diag.setError .err22008 none 0 else error
  (env.fixRow row).error.getD ((env.truncationDiag row).getD converted)

/-- A result that can be fetched: it has columns, and they can be bound. -/
structure Ready : Prop where
  columns : env.columnCount ≠ 0
  bookmarks : env.bookmarkMismatch = false
  bind : env.prepareBind = none

def advance (saveCursor pointer : List Row) : List Row :=
  if env.rewinds (pointer.headD []) ∧ saveCursor.isEmpty = false then saveCursor else pointer.tail

def passes (saveCursor pointer : List Row) (count : Nat) : List Row :=
  (List.iterate (env.advance saveCursor) pointer count).map (·.headD [])

end FetchEnv

namespace RowCursor

variable (env : FetchEnv) (c : RowCursor)

def source : List Row := if env.noCache then c.unread else c.resultCursor

def setSource (rows : List Row) : RowCursor :=
  { c with
    unread := if env.noCache then rows else c.unread
    resultCursor := if env.noCache then c.resultCursor else rows }

/-- A row that is fetched: its values go into a slot of the rowset, and it counts. -/
def accept (placed : Row × Nat) : RowCursor :=
  { c.storeBookmark env placed.2 with
    rowsProcessed := c.rowsProcessed.map (· + 1)
    position := if c.position < 0 then 0 else c.position
    lastRowFetched := c.lastRowFetched + 1
    buffers := update c.buffers placed.2 (env.stored placed.1 (c.buffers placed.2))
    rowStatus := c.rowStatus.map
      (update · placed.2 (mapToRowStatus (env.rowResult placed.1)))
    error := env.rowDiag placed.1 c.error }

def acceptResult (result : SqlReturn) (placed : List (Row × Nat)) : SqlReturn :=
  placed.foldl (fun result placed => calcAllRowsRc result (env.rowResult placed.1) placed.2) result

def acceptDiag (error : Diag) (rows : List Row) : Diag :=
  rows.foldl (fun error row => env.rowDiag row error) error

def acceptStatus (placed : List (Row × Nat)) (status : Nat → RowStatus) : Nat → RowStatus :=
  placed.foldl
    (fun status item => update status item.2 (mapToRowStatus (env.rowResult item.1))) status

/-- The handle when `MADB_StmtFetch` starts on the rows. -/
def begun : RowCursor :=
  { c with error := Diag.clear, lastRowFetched := 0, rowsetSize := c.arraySize }

/-- The rounds of the loop in `MADB_StmtFetch`: for each of them its slot, and the row cursor that it
reads from. -/
def roundReads (rows2Fetch : Nat) (saveCursor : List Row) :
    List Nat → SqlReturn × RowCursor → List (Nat × List Row)
  | [], _ => []
  | j :: later, state =>
    let sought := state.2.seekRow rows2Fetch saveCursor j
    (sought.1, sought.2.source env) ::
      match fetchRow env rows2Fetch saveCursor j state with
      | .next state => roundReads rows2Fetch saveCursor later state
      | .leave _ => []

/-- The rounds of a call of `MADB_StmtFetch`. -/
def stmtFetchReads : List (Nat × List Row) :=
  let c := c.begun
  let rows2Fetch := if env.noCache then c.rowsetSize else c.rowsToFetch
  let c := c.beginRowset
  let scrolls := 1 < rows2Fetch ∧ env.cursorType ≠ .forwardOnly
  let saveCursor := if scrolls then c.resultCursor else []
  let c := if scrolls then c.moveNext env 1 else c
  roundReads env rows2Fetch saveCursor (List.range rows2Fetch) (.success, c)

variable {env c} {rows rest saveCursor : List Row} {row : Row} {rowNum : Nat} {placed : Row × Nat}

theorem source_setSource : (c.setSource env rows).source env = rows := by
  rw [setSource, source]
  cases env.noCache with
  | true | false => rfl

theorem setSource_setSource : (c.setSource env rows).setSource env rest = c.setSource env rest := by
  rw [setSource, setSource, setSource]
  cases env.noCache with
  | true | false => rfl

theorem fetchRowCsps_cons (reads : c.source env = row :: rest) :
    c.fetchRowCsps env = (some row, c.setSource env rest) := by
  rw [source] at reads
  rw [fetchRowCsps, setSource]
  split
  · rename_i noCache
    rw [if_pos noCache] at reads
    rw [reads]
  · rename_i cached
    rw [if_neg cached] at reads
    rw [reads]

/-! ### The columns of a row -/

variable (env c) in
/-- A handle that has been brought as far as a row has been fixed. -/
def fixedTo (rowNum : Nat) (saveCursor : List Row) (row : Row) (fix : RowFix) : RowCursor :=
  { c with
    buffers := update c.buffers rowNum fun i =>
      if i < fix.reach then env.storedCell row i (c.buffers rowNum i) else c.buffers rowNum i
    resultCursor := if fix.rewinds ∧ saveCursor.isEmpty = false then saveCursor else c.resultCursor
    error := fix.error.getD c.error }

theorem modifyCell_fixedTo {fix : RowFix} {i : Nat} (reached : fix.reach = i) {change : Cell → Cell}
    (stores : change (c.buffers rowNum i) = env.storedCell row i (c.buffers rowNum i)) :
    (c.fixedTo env rowNum saveCursor row fix).modifyCell rowNum i change =
      c.fixedTo env rowNum saveCursor row { fix with reach := i + 1 } := by
  subst reached
  rw [modifyCell, fixedTo, fixedTo]
  dsimp only
  rw [update_self, if_neg (Nat.lt_irrefl _), stores, update_idem]
  have grown : update (fun i => if i < fix.reach then
        env.storedCell row i (c.buffers rowNum i) else c.buffers rowNum i) fix.reach
        (env.storedCell row fix.reach (c.buffers rowNum fix.reach)) =
      fun i => if i < fix.reach + 1 then env.storedCell row i (c.buffers rowNum i)
        else c.buffers rowNum i := by
    funext i
    rcases Nat.lt_trichotomy i fix.reach with below | rfl | above
    · rw [update_of_ne (Nat.ne_of_lt below), if_pos below, if_pos (Nat.lt_succ_of_lt below)]
    · rw [update_self, if_pos (Nat.lt_succ_self _)]
    · rw [update_of_ne (Nat.ne_of_gt above), if_neg (Nat.lt_asymm above),
        if_neg (Nat.not_lt_of_ge above)]
  rw [grown]

theorem fixedTo_unbound {fix : RowFix} {i : Nat} (reached : fix.reach = i) (unbound : env.column i = none) :
    c.fixedTo env rowNum saveCursor row { fix with reach := i + 1 } =
      c.fixedTo env rowNum saveCursor row fix := by
  have keeps : id (c.buffers rowNum i) = env.storedCell row i (c.buffers rowNum i) := by
    rw [storedCell, unbound]
    rfl
  rw [← modifyCell_fixedTo reached keeps]
  show ({ c.fixedTo env rowNum saveCursor row fix with
    buffers := update (c.fixedTo env rowNum saveCursor row fix).buffers rowNum
      (update ((c.fixedTo env rowNum saveCursor row fix).buffers rowNum) i
        ((c.fixedTo env rowNum saveCursor row fix).buffers rowNum i)) } : RowCursor) = _
  rw [update_eq_self, update_eq_self]

theorem fixedTo_start : c.fixedTo env rowNum saveCursor row {} = c := by
  have same : (update c.buffers rowNum fun i =>
      if i < 0 then env.storedCell row i (c.buffers rowNum i) else c.buffers rowNum i) = c.buffers := by
    rw [update_eq_self_iff]
    funext i
    exact if_neg (Nat.not_lt_zero i)
  rw [fixedTo, same]
  rfl

/-- **A column of a row.** -/
theorem fixColumn_fixedTo {fix : RowFix} {i : Nat} (reached : fix.reach = i) :
    fixColumn env rowNum saveCursor row i (fix.rc, c.fixedTo env rowNum saveCursor row fix) =
      match env.fixStep row i fix with
      | .next fix => .next (fix.rc, c.fixedTo env rowNum saveCursor row fix)
      | .leave fix => .leave (fix.rc, c.fixedTo env rowNum saveCursor row fix) := by
  rw [fixColumn, fixStep]
  cases bound : env.column i with
  | none =>
    dsimp only
    rw [fixedTo_unbound reached bound]
  | some column =>
    cases value : row.value i with
    | none =>
      have stores : column.storeNull (c.buffers rowNum i) =
          env.storedCell row i (c.buffers rowNum i) := by
        rw [storedCell, bound, value]
      dsimp only
      rw [modifyCell_fixedTo reached stores]
      cases column.hasIndicator with
      | true => rfl
      | false =>
        cases saveCursor with
        | nil =>
          have kept : ¬ (fix.rewinds = true ∧ ([] : List Row).isEmpty = false) :=
            fun both => Bool.noConfusion both.2
          rw [if_neg Bool.false_ne_true, if_neg Bool.false_ne_true, if_pos isEmpty_nil,
            fixedTo, if_neg kept]
          rfl
        | cons first others => rfl
    | some text =>
      have stores : column.storeValue (env.convert i text) (c.buffers rowNum i) =
          env.storedCell row i (c.buffers rowNum i) := by
        rw [storedCell, bound, value]
      dsimp only
      rw [modifyCell_fixedTo reached stores]
      cases (env.convert i text).fixing with
      | fixed | left | failed | stopped => rfl

theorem fixStep_reach {fix fix' : RowFix} {i : Nat} (next : env.fixStep row i fix = .next fix') :
    fix'.reach = i + 1 := by
  rw [fixStep] at next
  split at next
  · cases next
    rfl
  · split at next
    · split at next <;> (cases next; rfl)
    · split at next <;> first | (cases next; rfl) | cases next

theorem forEach_fixColumn (count : Nat) (fix : RowFix) {i : Nat} (reached : fix.reach = i) :
    forEach (fixColumn env rowNum saveCursor row) (range' i count)
        (fix.rc, c.fixedTo env rowNum saveCursor row fix) =
      match forEach (env.fixStep row) (range' i count) fix with
      | .next fix => .next (fix.rc, c.fixedTo env rowNum saveCursor row fix)
      | .leave fix => .leave (fix.rc, c.fixedTo env rowNum saveCursor row fix) := by
  induction count generalizing i fix with
  | zero => rfl
  | succ count ih =>
    rw [range'_succ, forEach_cons, forEach_cons, fixColumn_fixedTo reached]
    cases step : env.fixStep row i fix with
    | leave fix' => rfl
    | next fix' => exact ih fix' (fixStep_reach step)

/-- **`MADB_FixFetchedValues`** on any row. -/
theorem fixFetchedValues_eq :
    c.fixFetchedValues env rowNum saveCursor row =
      ((env.fixRow row).rc, c.fixedTo env rowNum saveCursor row (env.fixRow row)) := by
  have start : ({} : RowFix).reach = 0 := rfl
  have columns : forEach (fixColumn env rowNum saveCursor row) (range' 0 env.columnCount)
      (({} : RowFix).rc, c.fixedTo env rowNum saveCursor row {}) = _ :=
    forEach_fixColumn env.columnCount {} start
  rw [fixedTo_start] at columns
  rw [fixFetchedValues, fixRow, range_eq_range', columns]
  cases forEach (env.fixStep row) (range' 0 env.columnCount) {} with
  | next | leave => rfl

/-! ### A round -/

theorem reportTruncation_eq :
    c.reportTruncation env row =
      match env.truncation row with
      | some code => c.setError code
      | none => (.success, c) := rfl

theorem finishRow_eq {code : ConvertCode} (converted : convertRow env row = code) (result : SqlReturn) :
    c.finishRow env code rowNum saveCursor row result =
      (calcAllRowsRc result (env.rowResult row) rowNum,
        { c with
          lastRowFetched := c.lastRowFetched + 1
          buffers := update c.buffers rowNum (env.stored row (c.buffers rowNum))
          resultCursor := if env.rewinds row ∧ saveCursor.isEmpty = false then saveCursor
            else c.resultCursor
          rowStatus := c.rowStatus.map (update · rowNum (mapToRowStatus (env.rowResult row)))
          error := (env.fixRow row).error.getD ((env.truncationDiag row).getD c.error) }) := by
  have report : (if code = .truncated then c.reportTruncation env row else (.success, c)) =
      (((env.truncationDiag row).map (·.returnValue)).getD .success,
        { c with error := (env.truncationDiag row).getD c.error }) := by
    rw [truncationDiag, converted]
    split
    · rw [reportTruncation_eq]
      cases env.truncation row with
      | none | some => rfl
    · rfl
  rw [finishRow, report]
  dsimp only
  rw [fixFetchedValues_eq, rowResult]
  rfl

/-- **A round of the loop** brings a row into a slot. The row cursor stands behind the row then, or at the
start of the rowset if the row puts it back. -/
theorem fetchRow_accepts (bind : env.prepareBind = none) {rows2Fetch j : Nat} {c' : RowCursor}
    (seeks : c.seekRow rows2Fetch saveCursor j = (rowNum, c')) (reads : c'.source env = row :: rest)
    (cached : saveCursor ≠ [] → env.noCache = false) (result : SqlReturn) :
    fetchRow env rows2Fetch saveCursor j (result, c) =
      .next (calcAllRowsRc result (env.rowResult row) rowNum,
        (c'.accept env (row, rowNum)).setSource env (env.advance saveCursor (row :: rest))) := by
  have behind : env.advance saveCursor (row :: rest) =
      if env.rewinds row = true ∧ saveCursor.isEmpty = false then saveCursor else rest := rfl
  have marked : (c'.storeBookmark env rowNum).source env = row :: rest := reads
  have fetched : (c'.storeBookmark env rowNum).fetchCsps env =
      (.converted (convertRow env row), row,
        { (c'.storeBookmark env rowNum).setSource env rest with
          error := if convertRow env row = .error then Diag.setError .err22008 none 0 else c'.error }) := by
    rw [fetchCsps, fetchRowCsps_cons marked]
    dsimp only
    split
    · rfl
    · rfl
  rw [fetchRow, seeks, bind]
  dsimp only
  rw [fetched]
  dsimp only
  rw [finishRow_eq rfl]
  refine congrArg (fun c : RowCursor => Flow.next (calcAllRowsRc result (env.rowResult row) rowNum, c)) ?_
  rw [behind]
  cases known : env.noCache with
  | false =>
    rw [setSource, setSource, known]
    rfl
  | true =>
    have empty : ¬ (env.rewinds row = true ∧ saveCursor.isEmpty = false) := by
      rintro ⟨-, some⟩
      have more : saveCursor ≠ [] := by
        rintro rfl
        cases some
      rw [cached more] at known
      cases known
    rw [if_neg empty, if_neg empty, setSource, setSource, known]
    rfl

/-! ### Rounds one after another -/

theorem setSource_self (reads : c.source env = rows) : c.setSource env rows = c := by
  rw [← reads, setSource, source]
  cases env.noCache with
  | true | false => rfl

theorem foldl_accept_setSource (placed : List (Row × Nat)) (c : RowCursor) :
    placed.foldl (accept env) (c.setSource env rows) =
      (placed.foldl (accept env) c).setSource env rows := by
  induction placed generalizing c with
  | nil => rfl
  | cons item placed ih =>
    rw [foldl_cons]
    exact ih (c.accept env item)

theorem roundReads_append {rows2Fetch : Nat} (rounds later : List Nat) (state : SqlReturn × RowCursor) :
    roundReads env rows2Fetch saveCursor (rounds ++ later) state =
      roundReads env rows2Fetch saveCursor rounds state ++
        match forEach (fetchRow env rows2Fetch saveCursor) rounds state with
        | .next state => roundReads env rows2Fetch saveCursor later state
        | .leave _ => [] := by
  induction rounds generalizing state with
  | nil => rfl
  | cons j rounds ih =>
    rw [cons_append, roundReads, roundReads, forEach_cons, cons_append]
    refine congrArg (_ :: ·) ?_
    cases fetchRow env rows2Fetch saveCursor j state with
    | next state => exact ih state
    | leave exit => rfl

/-- **Rounds** that put their rows into slots at a fixed distance. -/
theorem forEach_accepts (bind : env.prepareBind = none) (distance : Nat)
    (cached : saveCursor ≠ [] → env.noCache = false) {rows2Fetch count j : Nat} {pointer : List Row}
    (seeks : ∀ i (c : RowCursor), i < j + count →
      c.seekRow rows2Fetch saveCursor i = (i + distance, c))
    (reads : c.source env = pointer)
    (some : ∀ pointer' ∈ iterate (env.advance saveCursor) pointer count, pointer' ≠ [])
    (result : SqlReturn) :
    forEach (fetchRow env rows2Fetch saveCursor) (range' j count) (result, c) =
        .next (acceptResult env result ((env.passes saveCursor pointer count).zipIdx (j + distance)),
          (((env.passes saveCursor pointer count).zipIdx (j + distance)).foldl (accept env) c).setSource env
            ((env.advance saveCursor)^[count] pointer)) ∧
      roundReads env rows2Fetch saveCursor (range' j count) (result, c) =
        (range' (j + distance) count).zip (iterate (env.advance saveCursor) pointer count) := by
  induction count generalizing c j pointer result with
  | zero =>
    refine ⟨?_, rfl⟩
    rw [iterate_zero_apply]
    show Flow.next (result, c) = .next (result, c.setSource env pointer)
    rw [setSource_self reads]
  | succ count ih =>
    cases pointer with
    | nil => exact absurd rfl (some [] mem_cons_self)
    | cons row rest =>
      have here : c.seekRow rows2Fetch saveCursor j = (j + distance, c) :=
        seeks j c (Nat.lt_add_of_pos_right (Nat.succ_pos _))
      have round := fetchRow_accepts bind here reads cached result
      have later : ∀ i (c : RowCursor), i < j + 1 + count →
          c.seekRow rows2Fetch saveCursor i = (i + distance, c) := by
        intro i c inside
        exact seeks i c (by omega)
      obtain ⟨rounds, pointers⟩ := ih
        (c := (c.accept env (row, j + distance)).setSource env (env.advance saveCursor (row :: rest)))
        later source_setSource (fun pointer' member => some pointer' (mem_cons_of_mem _ member))
        (calcAllRowsRc result (env.rowResult row) (j + distance))
      rw [foldl_accept_setSource, setSource_setSource, Nat.add_right_comm j 1] at rounds
      rw [range'_succ, forEach_cons, roundReads, here, round, reads, iterate_succ_apply]
      dsimp only
      rw [rounds, pointers, Nat.add_right_comm j 1]
      exact ⟨rfl, rfl⟩

theorem iterate_advance {chunk : List Row}
    (straight : saveCursor = [] ∨ ∀ row ∈ chunk, env.rewinds row = false) :
    env.passes saveCursor (chunk ++ rest) chunk.length = chunk ∧
      (env.advance saveCursor)^[chunk.length] (chunk ++ rest) = rest ∧
      ∀ pointer ∈ iterate (env.advance saveCursor) (chunk ++ rest) chunk.length, pointer ≠ [] := by
  induction chunk with
  | nil => exact ⟨rfl, rfl, fun pointer none => absurd none not_mem_nil⟩
  | cons row chunk ih =>
    have onwards : env.advance saveCursor (row :: chunk ++ rest) = chunk ++ rest := by
      refine if_neg ?_
      rintro ⟨back, some⟩
      rcases straight with rfl | none
      · cases some
      · rw [cons_append, headD_cons, none row mem_cons_self] at back
        cases back
    obtain ⟨rows, last, nonempty⟩ :=
      ih (straight.imp_right fun none later member => none later (mem_cons_of_mem row member))
    rw [length_cons, passes, iterate, iterate_succ_apply, onwards]
    refine ⟨congrArg (row :: ·) rows, last, fun pointer member => ?_⟩
    rcases mem_cons.mp member with rfl | later
    · exact cons_ne_nil _ _
    · exact nonempty pointer later

variable (env) in
theorem forEach_accepts_forward (bind : env.prepareBind = none) (rows2Fetch : Nat) {chunk : List Row}
    (reads : c.source env = chunk ++ rest) (result : SqlReturn) :
    forEach (fetchRow env rows2Fetch []) (range' 0 chunk.length) (result, c) =
        .next (acceptResult env result chunk.zipIdx,
          (chunk.zipIdx.foldl (accept env) c).setSource env rest) ∧
      roundReads env rows2Fetch [] (range' 0 chunk.length) (result, c) =
        (range' 0 chunk.length).zip
          (iterate (env.advance []) (c.source env) chunk.length) := by
  have straight : ([] : List Row) = [] ∨ ∀ row ∈ chunk, env.rewinds row = false := Or.inl rfl
  obtain ⟨rows, last, some⟩ := iterate_advance straight
  obtain ⟨loop, rounds⟩ := @forEach_accepts env c [] bind 0 (absurd rfl) rows2Fetch chunk.length 0 _
    (fun _ _ _ => rfl) reads some result
  rw [rows, last] at loop
  rw [reads]
  exact ⟨loop, rounds⟩

/-! ### What rows leave behind -/

variable (env) in
theorem foldl_accept_same (placed : List (Row × Nat)) (c : RowCursor) :
    let c' := placed.foldl (accept env) c
    c'.result = c.result ∧ c'.numRows = c.numRows ∧ c'.next = c.next ∧
      c'.source env = c.source env ∧ (0 ≤ c.position → c'.position = c.position) := by
  induction placed generalizing c with
  | nil => exact ⟨rfl, rfl, rfl, rfl, fun _ => rfl⟩
  | cons item placed ih =>
    obtain ⟨result, numRows, next, source, position⟩ := ih (c.accept env item)
    refine ⟨result, numRows, next, source, fun started => ?_⟩
    have kept : (c.accept env item).position = c.position := if_neg (Int.not_lt.mpr started)
    rw [← kept]
    exact position (by rw [kept]; exact started)

variable (env) in
theorem foldl_accept_counts (placed : List (Row × Nat)) (c : RowCursor) :
    (placed.foldl (accept env) c).rowsProcessed = c.rowsProcessed.map (· + placed.length) ∧
      (placed.foldl (accept env) c).lastRowFetched = c.lastRowFetched + placed.length := by
  induction placed generalizing c with
  | nil => simp
  | cons item placed ih =>
    obtain ⟨processed, last⟩ := ih (c.accept env item)
    rw [foldl_cons, processed, last, length_cons]
    constructor
    · rw [accept, Option.map_map]
      refine congrArg (Option.map · c.rowsProcessed) (funext fun count => ?_)
      show count + 1 + placed.length = count + (placed.length + 1)
      omega
    · rw [accept]
      push_cast
      omega

variable (env) in
theorem foldl_accept_error (placed : List (Row × Nat)) (c : RowCursor) :
    (placed.foldl (accept env) c).error = acceptDiag env c.error (placed.map Prod.fst) := by
  induction placed generalizing c with
  | nil => rfl
  | cons item placed ih => exact ih (c.accept env item)

theorem foldl_accept_buffers_of_notMem {placed : List (Row × Nat)} {i : Nat}
    (outside : i ∉ placed.map Prod.snd) (c : RowCursor) :
    (placed.foldl (accept env) c).buffers i = c.buffers i := by
  induction placed generalizing c with
  | nil => rfl
  | cons item placed ih =>
    rw [map_cons, mem_cons, not_or] at outside
    rw [foldl_cons, ih outside.2]
    exact update_of_ne outside.1 _ _

theorem foldl_accept_buffers {placed : List (Row × Nat)} (nodup : (placed.map Prod.snd).Nodup) {i : Nat}
    (member : (row, i) ∈ placed) (c : RowCursor) :
    (placed.foldl (accept env) c).buffers i = env.stored row (c.buffers i) := by
  induction placed generalizing c with
  | nil => cases member
  | cons item placed ih =>
    rw [map_cons, nodup_cons] at nodup
    rw [foldl_cons]
    rcases mem_cons.mp member with rfl | later
    · rw [foldl_accept_buffers_of_notMem nodup.1]
      exact update_self _ _ _
    · have other : i ≠ item.2 := by
        rintro rfl
        exact nodup.1 (mem_map.mpr ⟨_, later, rfl⟩)
      rw [ih nodup.2 later]
      exact congrArg (env.stored row) (update_of_ne other _ _)

theorem foldl_accept_status (placed : List (Row × Nat)) (c : RowCursor) :
    (placed.foldl (accept env) c).rowStatus = c.rowStatus.map (acceptStatus env placed) := by
  induction placed generalizing c with
  | nil => exact Option.map_id'.symm
  | cons item placed ih =>
    rw [foldl_cons, ih, accept, Option.map_map]
    rfl

theorem acceptStatus_of_notMem {placed : List (Row × Nat)} {i : Nat}
    (outside : i ∉ placed.map Prod.snd) (status : Nat → RowStatus) :
    acceptStatus env placed status i = status i := by
  induction placed generalizing status with
  | nil => rfl
  | cons item placed ih =>
    rw [map_cons, mem_cons, not_or] at outside
    rw [acceptStatus, foldl_cons]
    exact (ih outside.2 _).trans (update_of_ne outside.1 _ _)

theorem acceptStatus_of_mem {placed : List (Row × Nat)} (nodup : (placed.map Prod.snd).Nodup) {i : Nat}
    (member : (row, i) ∈ placed) (status : Nat → RowStatus) :
    acceptStatus env placed status i = mapToRowStatus (env.rowResult row) := by
  induction placed generalizing status with
  | nil => cases member
  | cons item placed ih =>
    rw [map_cons, nodup_cons] at nodup
    rw [acceptStatus, foldl_cons]
    rcases mem_cons.mp member with rfl | later
    · exact (acceptStatus_of_notMem nodup.1 _).trans (update_self _ _ _)
    · exact ih nodup.2 later _

/-! ### The rows of `MADB_StmtFetch` -/

theorem stmtFetch_begun (ready : env.Ready) (sized : 1 ≤ c.arraySize) {count : Nat}
    (counted : (if env.noCache then c.arraySize else c.begun.rowsToFetch) = count) (some : 1 ≤ count) :
    c.stmtFetch env = c.begun.fetchRows env count := by
  subst counted
  rw [stmtFetch]
  dsimp only
  rw [if_neg ready.columns, ready.bookmarks, if_neg Bool.false_ne_true, if_neg (Nat.ne_of_gt sized)]
  exact if_neg (Nat.ne_of_gt some)

/-- **A rowset in order.** -/
theorem fetchRows_accepts (bind : env.prepareBind = none) {chunk : List Row}
    (forward : env.cursorType = .forwardOnly ∨ chunk.length ≤ 1) (reads : c.source env = chunk ++ rest) :
    c.fetchRows env chunk.length =
      (acceptResult env .success chunk.zipIdx,
        (chunk.zipIdx.foldl (accept env) c.beginRowset).setSource env rest) := by
  have unscrolled : ¬ (1 < chunk.length ∧ env.cursorType ≠ .forwardOnly) := by
    rintro ⟨several, scrollable⟩
    rcases forward with forward | single
    · exact scrollable forward
    · omega
  have begun : c.beginRowset.source env = chunk ++ rest := reads
  rw [fetchRows, if_neg unscrolled, if_neg unscrolled, range_eq_range',
    (forEach_accepts_forward env bind chunk.length begun .success).1]

theorem noCache_of_scrollable (scrollable : env.cursorType ≠ .forwardOnly) : env.noCache = false := by
  rw [noCache, beq_false_of_ne scrollable]
  rfl

/-- **A rowset from its second row on**, with its first row last. -/
theorem fetchRows_accepts_scroll (bind : env.prepareBind = none)
    (scrollable : env.cursorType ≠ .forwardOnly) {first : Row} {count : Nat} (several : 1 ≤ count)
    (reads : c.resultCursor = first :: rest)
    (some : ∀ pointer ∈ iterate (env.advance c.resultCursor) rest count, pointer ≠ []) :
    let placed := (env.passes c.resultCursor rest count).zipIdx 1 ++ [(first, 0)]
    c.fetchRows env (count + 1) =
        (acceptResult env .success placed, { placed.foldl (accept env) c.beginRowset with
          next := (env.advance c.resultCursor)^[count] rest
          resultCursor := env.advance c.resultCursor c.resultCursor }) ∧
      roundReads env (count + 1) c.resultCursor (range (count + 1))
          (.success, c.beginRowset.moveNext env 1) =
        (range' 1 count).zip (iterate (env.advance c.resultCursor) rest count) ++
          [(0, c.resultCursor)] := by
  have cached := noCache_of_scrollable scrollable
  have begun : c.beginRowset.source env = first :: rest := by
    rw [source, cached]
    exact reads
  have scrolls : 1 < count + 1 ∧ env.cursorType ≠ .forwardOnly := ⟨Nat.succ_lt_succ several, scrollable⟩
  have moved : c.beginRowset.moveNext env 1 = c.beginRowset.setSource env rest := by
    rw [moveNext, fetchRowCsps_cons begun]
    rfl
  have back_set : ¬ c.resultCursor.isEmpty = true := by
    rw [reads]
    exact Bool.false_ne_true
  have seeks : ∀ i (c' : RowCursor), i < 0 + count →
      c'.seekRow (count + 1) c.resultCursor i = (i + 1, c') := by
    intro i c' inside
    rw [seekRow, if_neg back_set, if_neg (by omega)]
  obtain ⟨loop, rounds⟩ := forEach_accepts (c := c.beginRowset.setSource env rest) bind 1 (fun _ => cached)
    seeks source_setSource some .success
  rw [foldl_accept_setSource, setSource_setSource, Nat.zero_add] at loop
  generalize (env.passes c.resultCursor rest count).zipIdx 1 = placed at loop ⊢
  generalize received : placed.foldl (accept env) c.beginRowset = c' at loop
  generalize (env.advance c.resultCursor)^[count] rest = next at loop ⊢
  have back : (c'.setSource env next).seekRow (count + 1) c.resultCursor count =
      (0, { c' with next := next, resultCursor := c.resultCursor }) := by
    rw [seekRow, if_neg back_set, if_pos rfl, setSource, cached]
    rfl
  have again : ({ c' with next := next, resultCursor := c.resultCursor } : RowCursor).source env =
      first :: rest := by
    rw [source, cached]
    exact reads
  have last := fetchRow_accepts bind back again (fun _ => cached) (acceptResult env .success placed)
  rw [← reads] at last
  have same : c.beginRowset.resultCursor = c.resultCursor := rfl
  rw [fetchRows, if_pos scrolls, if_pos scrolls, moved, range_succ, forEach_append, roundReads_append,
    range_eq_range', same, rounds, loop]
  dsimp only
  constructor
  · rw [forEach_cons, last, setSource, cached, foldl_append, received, acceptResult, acceptResult,
      foldl_append]
    rfl
  · rw [roundReads, back, last, again, reads]
    rfl

end RowCursor

end MaOdbc
