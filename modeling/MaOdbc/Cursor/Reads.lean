/-
**The rounds of a rowset.**

Which rows a call of `MADB_StmtFetch` reads, whatever their values are, and where the next rowset starts.

* `iterate_rewinds`: in a rowset that is read from its second row on, a row with a `NULL` without an
  indicator puts the row cursor back to the start of the rowset. From there on no slot gets its own row.
* `stmtFetch_ordered`, `stmtFetch_scrolled`, `stmtFetch_short`: what a call does with the rows that it reads
  in order, from the second one on, or past the end of a result that is read from the server.
* `nextSource_streamed`, `nextSource_cached`, `nextSource_dynamic`: where the next rowset starts.
-/

import MaOdbc.Cursor.Forward

namespace MaOdbc

open List

variable {save : List Row} {count : Nat}

namespace RowCursor

variable (env : FetchEnv) (c : RowCursor)

def nextSource : List Row :=
  match c.positioned env .next 0 with
  | .ok c => c.source env
  | .error _ => []

variable {env c} {rows rest saveCursor : List Row} {row : Row}

/-! ### The row cursor goes back -/

theorem headD_drop (pointer : List Row) (i : Nat) : (pointer.drop i).headD [] = pointer.getD i [] := by
  rw [headD_eq_head?_getD, head?_drop, getD_eq_getElem?_getD]

variable (env) in
/-- **Where the row cursor is** in a rowset that is read from its second row on, behind some rounds. It is at
the row of the next slot exactly if no row so far has put it back, and no row before it has. -/
theorem iterate_rewinds (some : saveCursor.isEmpty = false) (i : Nat) :
    ∃ e ≤ i + 1, (env.advance saveCursor)^[i] saveCursor.tail = saveCursor.drop e ∧
      (∀ k, 1 ≤ k → k < e → env.rewinds (saveCursor.getD k []) = false) ∧
      (e = i + 1 ↔ ∀ k, 1 ≤ k → k ≤ i → env.rewinds (saveCursor.getD k []) = false) := by
  induction i with
  | zero =>
    refine ⟨1, Nat.le_refl 1, drop_one.symm, fun k low high => by omega, ?_⟩
    exact ⟨fun _ k low high => by omega, fun _ => rfl⟩
  | succ i ih =>
    obtain ⟨e, bound, at_e, before, straight⟩ := ih
    have step : (env.advance saveCursor)^[i + 1] saveCursor.tail =
        if env.rewinds (saveCursor.getD e []) ∧ saveCursor.isEmpty = false then saveCursor
        else saveCursor.drop (e + 1) := by
      rw [Function.iterate_succ_apply', at_e, FetchEnv.advance, headD_drop, tail_drop]
    cases back : env.rewinds (saveCursor.getD e []) with
    | true =>
      refine ⟨0, Nat.zero_le _, ?_, fun k low high => by omega, ?_⟩
      · rw [step, back, if_pos ⟨rfl, some⟩, drop_zero]
      · refine ⟨fun equal => by omega, fun all => ?_⟩
        have reached := straight.mpr fun k low high => all k low (by omega)
        have here := all (i + 1) (by omega) (Nat.le_refl _)
        rw [← reached, back] at here
        cases here
    | false =>
      refine ⟨e + 1, by omega, ?_, fun k low high => ?_, ?_⟩
      · rw [step, back, if_neg fun both => Bool.noConfusion both.1]
      · rcases Nat.lt_or_ge k e with below | above
        · exact before k low below
        · obtain rfl : k = e := by omega
          exact back
      · constructor
        · intro equal k low high
          have reached : e = i + 1 := by omega
          rcases Nat.lt_or_ge k (i + 1) with below | above
          · exact straight.mp reached k low (by omega)
          · obtain rfl : k = e := by omega
            exact back
        · intro all
          have reached := straight.mpr fun k low high => all k low (by omega)
          omega

/-! ### A call -/

variable (env) in
/-- A cursor at a rowset that is about to be fetched. -/
structure AtRowset (rows : List Row) (start : Nat) (c : RowCursor) : Prop where
  reads : c.source env = rows.drop start
  inside : start < rows.length
  fits : rows.length < 2 ^ 62
  sized : 1 ≤ c.arraySize
  small : c.arraySize < 2 ^ 62
  cached : env.noCache = false → c.result = rows ∧ c.numRows = rows.length ∧ c.position = start
  streamed : env.noCache = true → env.readError = none ∧ (c.position = -1 ∨ c.position = 0)
  steady : env.cursorType = .dynamic → env.execute = .ok rows

variable (rows) (start : Nat) (c) in
def rowset : List Row := (rows.drop start).take c.arraySize

variable {start : Nat}

theorem rowset_length : (c.rowset rows start).length = min c.arraySize (rows.length - start) :=
  length_rowset rows start c.arraySize

theorem AtRowset.some (at_ : AtRowset env rows start c) : 1 ≤ (c.rowset rows start).length := by
  have inside := at_.inside
  have sized := at_.sized
  rw [rowset_length]
  omega

theorem AtRowset.split (at_ : AtRowset env rows start c) :
    c.source env = c.rowset rows start ++ rows.drop (start + (c.rowset rows start).length) := by
  have cut := (take_append_drop (c.rowset rows start).length (rows.drop start)).symm
  have same : (rows.drop start).take (c.rowset rows start).length = c.rowset rows start := by
    rw [rowset_length, ← length_drop, ← take_eq_take_min]
    rfl
  rw [same, drop_drop] at cut
  rw [at_.reads]
  exact cut

theorem AtRowset.rows2Fetch (at_ : AtRowset env rows start c) :
    (if env.noCache then c.begun.rowsetSize else c.begun.rowsToFetch) =
      if env.noCache then c.arraySize else (c.rowset rows start).length := by
  cases noCache : env.noCache with
  | true => rfl
  | false =>
    obtain ⟨-, numRows, position⟩ := at_.cached noCache
    have fits := at_.fits
    have small := at_.small
    have inside := at_.inside
    refine rowsToFetch_eq numRows position inside ?_
    show start + c.arraySize < 2 ^ 64
    omega

theorem stmtFetch_ordered (ready : env.Ready) (at_ : AtRowset env rows start c)
    (ordered : env.cursorType = .forwardOnly ∨ (c.rowset rows start).length ≤ 1)
    (whole : env.noCache = true → c.arraySize ≤ rows.length - start) :
    c.stmtFetch env =
        (acceptResult env .success (c.rowset rows start).zipIdx,
          ((c.rowset rows start).zipIdx.foldl (accept env) c.begun.beginRowset).setSource env
            (rows.drop (start + (c.rowset rows start).length))) ∧
      c.stmtFetchReads env = (range' 0 (c.rowset rows start).length).zip
        (iterate (env.advance []) (rows.drop start) (c.rowset rows start).length) := by
  have count : (if env.noCache then c.begun.rowsetSize else c.begun.rowsToFetch) =
      (c.rowset rows start).length := by
    rw [at_.rows2Fetch]
    split
    · rename_i noCache
      have enough := whole noCache
      rw [rowset_length]
      omega
    · rfl
  have unscrolled : ¬ (1 < (c.rowset rows start).length ∧ env.cursorType ≠ .forwardOnly) := by
    rintro ⟨several, scrollable⟩
    rcases ordered with forward | single
    · exact scrollable forward
    · omega
  have begun : c.begun.source env = c.rowset rows start ++ rows.drop (start + (c.rowset rows start).length) :=
    at_.split
  constructor
  · rw [stmtFetch_begun ready at_.sized count at_.some, fetchRows_accepts ready.bind ordered begun]
  · have started : c.begun.beginRowset.source env = rows.drop start := at_.reads
    have rounds := forEach_accepts_forward (c := c.begun.beginRowset) env ready.bind
      (c.rowset rows start).length begun .success
    rw [stmtFetchReads, count, if_neg unscrolled, if_neg unscrolled, range_eq_range', rounds.2, started]

variable (env) in
theorem iterate_some (length : count + 1 ≤ save.length) :
    ∀ pointer ∈ iterate (env.advance save) save.tail count, pointer ≠ [] := by
  have save_some : save.isEmpty = false := by
    cases save with
    | nil => exact absurd length (Nat.not_succ_le_zero count)
    | cons first rest => rfl
  intro pointer member
  obtain ⟨i, below, at_pointer⟩ := mem_iterate.mp member
  obtain ⟨e, bound, at_e, -, -⟩ := iterate_rewinds env save_some i
  rw [at_pointer, at_e]
  intro none
  have short := drop_eq_nil_iff.mp none
  omega

theorem stmtFetchReads_scrolled (ready : env.Ready) (scrollable : env.cursorType ≠ .forwardOnly)
    (total : c.begun.rowsToFetch = count + 1) (more : 1 ≤ count) (cursor : c.resultCursor = save)
    (length : count + 1 ≤ save.length) :
    c.stmtFetchReads env =
      (range' 1 count).zip (iterate (env.advance save) save.tail count) ++ [(0, save)] := by
  have noCache := noCache_of_scrollable scrollable
  have total' : (if env.noCache then c.begun.rowsetSize else c.begun.rowsToFetch) = count + 1 := by
    rw [noCache, if_neg Bool.false_ne_true, total]
  obtain ⟨first, rest, rfl⟩ : ∃ first rest, save = first :: rest :=
    exists_cons_of_ne_nil (ne_nil_of_length_pos (by omega))
  have begun : c.begun.resultCursor = first :: rest := cursor
  have scrolls : 1 < count + 1 ∧ env.cursorType ≠ .forwardOnly := ⟨Nat.succ_lt_succ more, scrollable⟩
  obtain ⟨-, rounds⟩ := fetchRows_accepts_scroll ready.bind scrollable more begun
    (by rw [begun]; exact iterate_some env length)
  rw [begun] at rounds
  rw [stmtFetchReads, total', if_pos scrolls, if_pos scrolls]
  have started : c.begun.beginRowset.resultCursor = first :: rest := cursor
  rw [started]
  exact rounds

theorem stmtFetch_scrolled (ready : env.Ready) (at_ : AtRowset env rows start c)
    (scrollable : env.cursorType ≠ .forwardOnly)
    (several : (c.rowset rows start).length = count + 1) (more : 1 ≤ count) :
    let save := rows.drop start
    let placed := (env.passes save save.tail count).zipIdx 1 ++ [(save.headD [], 0)]
    c.stmtFetch env =
        (acceptResult env .success placed, { placed.foldl (accept env) c.begun.beginRowset with
          next := (env.advance save)^[count] save.tail
          resultCursor := env.advance save save }) ∧
      c.stmtFetchReads env =
        (range' 1 count).zip (iterate (env.advance save) save.tail count) ++ [(0, save)] := by
  have noCache := noCache_of_scrollable scrollable
  have total : c.begun.rowsToFetch = count + 1 := by
    have asked := at_.rows2Fetch
    rw [noCache, if_neg Bool.false_ne_true, if_neg Bool.false_ne_true, several] at asked
    exact asked
  have length : count + 1 ≤ (rows.drop start).length := by
    rw [← several, rowset, length_take]
    exact Nat.min_le_right _ _
  have cursor : c.resultCursor = rows.drop start := by
    have reads := at_.reads
    rw [source, noCache] at reads
    exact reads
  intro save placed
  refine ⟨?_, stmtFetchReads_scrolled ready scrollable total more cursor length⟩
  have some := iterate_some env length
  obtain ⟨first, rest, cut⟩ : ∃ first rest, rows.drop start = first :: rest :=
    exists_cons_of_ne_nil (ne_nil_of_length_pos (by omega))
  have head : (rows.drop start).headD [] = first := by rw [cut, headD_cons]
  have tail : (rows.drop start).tail = rest := by rw [cut, tail_cons]
  have begun : c.begun.resultCursor = rows.drop start := cursor
  obtain ⟨fetched, -⟩ := fetchRows_accepts_scroll ready.bind scrollable more (begun.trans cut)
    (by rw [begun, ← tail]; exact some)
  rw [begun, ← tail, ← head] at fetched
  rw [stmtFetch_begun ready at_.sized (by rw [noCache, if_neg Bool.false_ne_true, total]) (Nat.succ_pos count)]
  exact fetched

/-! ### Behind the end of a result that is read from the server -/

theorem rowset_eq_drop (short : rows.length - start < c.arraySize) : c.rowset rows start = rows.drop start := by
  refine take_of_length_le ?_
  rw [length_drop]
  omega

theorem stmtFetch_short (ready : env.Ready) (at_ : AtRowset env rows start c)
    (noCache : env.noCache = true) (short : rows.length - start < c.arraySize) :
    let shown := c.rowset rows start
    let c₁ := (shown.zipIdx.foldl (accept env) c.begun.beginRowset).setSource env []
    (if (acceptDiag env Diag.clear shown).returnValue.succeeded then
        ∃ c', c.stmtFetch env = (acceptResult env .success shown.zipIdx, c') ∧
          c'.buffers = c₁.buffers ∧ c'.rowsProcessed = c₁.rowsProcessed ∧ c'.rowStatus = c₁.rowStatus ∧
          c'.lastRowFetched = c₁.lastRowFetched ∧ c'.unread = c₁.unread ∧
          (c'.position = -1 ∨ c'.position = 0)
      else c.stmtFetch env = (.error, c₁.failRound env shown.length)) ∧
    ∃ missed, (∀ read ∈ missed, read.2 = []) ∧ c.stmtFetchReads env =
      (range' 0 shown.length).zip (iterate (env.advance []) (rows.drop start) shown.length) ++
        missed := by
  obtain ⟨ended, place⟩ := at_.streamed noCache
  have all : c.rowset rows start = rows.drop start := rowset_eq_drop short
  have unread : c.unread = c.rowset rows start := by
    have reads := at_.reads
    rw [source, noCache] at reads
    rw [all]
    exact reads
  have total : (if env.noCache then c.begun.rowsetSize else c.begun.rowsToFetch) = c.arraySize := by
    rw [noCache, if_pos rfl]
    rfl
  have unscrolled : ¬ (1 < c.arraySize ∧ env.cursorType ≠ .forwardOnly) :=
    fun scrolls => scrolls.2 (forwardOnly_of_noCache noCache)
  have fetched := fetchRows_short ready.bind noCache ended unread at_.some (by rw [all, length_drop]; exact short)
    place
  rw [stmtFetch_begun ready at_.sized total at_.sized, stmtFetchReads, total, if_neg unscrolled,
    if_neg unscrolled, ← all]
  exact fetched

/-! ### Where the next rowset starts -/

theorem nextSource_streamed (noCache : env.noCache = true) (place : c.position = -1 ∨ c.position = 0)
    (nonneg : 0 ≤ c.lastRowFetched) (small : c.lastRowFetched < 2 ^ 62) :
    c.nextSource env = c.unread := by
  have forward := forwardOnly_of_noCache noCache
  have steady : ¬ env.cursorType = .dynamic := by
    rw [forward]
    decide
  have refreshed : c.refreshed env = .ok c := if_neg steady
  obtain ⟨position, asked, lower⟩ : ∃ position, c.scrollPosition env .next 0 = .ok position ∧ 0 ≤ position := by
    refine ⟨_, rfl, ?_⟩
    rw [toSqlLen_of_small (by omega) (by omega)]
    split <;> omega
  rw [nextSource, positioned_of_asked (fun _ => rfl) refreshed asked]
  rw [placedAt, if_neg (Int.not_lt.mpr lower), noCache, if_pos rfl,
    if_neg (fun cached => Bool.false_ne_true cached.1), seekRowset_forward forward]
  show c.source env = _
  rw [source, noCache]
  rfl

theorem nextSource_eq {c' : RowCursor} (refreshed : c.refreshed env = .ok c') {target : Nat}
    (position : c'.position = start) (last : c'.lastRowFetched = count)
    (here : start + count = target) (fits : target < 2 ^ 63) :
    c.nextSource env =
      match c'.placedAt env .next c.lastRowFetched target with
      | .ok c => c.source env
      | .error _ => [] := by
  have asked : c'.scrollPosition env .next 0 = .ok (target : Int) := by
    have sum : (start : Int) + (count : Int) = target := by omega
    rw [scrollPosition, position, last, sum]
    show Except.ok (if (start : Int) < 0 then 0 else toSqlLen (target : Int)) = _
    rw [if_neg (by omega), toSqlLen_of_small (by omega) (by omega)]
  rw [nextSource, positioned_of_asked (fun _ => rfl) refreshed asked]
  rfl

theorem nextSource_cached (noCache : env.noCache = false) (steady : env.cursorType ≠ .dynamic)
    (nonempty : rows ≠ []) (result : c.result = rows) (numRows : c.numRows = rows.length)
    (fits : rows.length < 2 ^ 62) (position : c.position = start) (last : c.lastRowFetched = count)
    (inside : start + count ≤ rows.length) :
    c.nextSource env =
      if start + count < rows.length then
        if 1 < count ∧ env.cursorType ≠ .forwardOnly then
          if c.next.isEmpty then rows.drop (start + count) else c.next
        else c.resultCursor
      else [] := by
  have refreshed : c.refreshed env = .ok c := if_neg steady
  have some : 0 < rows.length := length_pos_of_ne_nil nonempty
  rw [nextSource_eq refreshed position last rfl (by omega), last]
  rcases Nat.lt_or_ge (start + count) rows.length with more | ended
  · rw [placedAt_inside noCache (by omega) (by omega), if_pos more]
    by_cases several : 1 < count ∧ env.cursorType ≠ .forwardOnly
    · rw [seekRowset_moves (by rw [result]; exact nonempty) (Or.inr (Or.inl ⟨by omega, several.2⟩)),
        if_pos several]
      dsimp only
      rw [source, noCache, result]
      rfl
    · have stays : ¬ (FetchOrientation.next ≠ .next ∨
          (1 < (count : Int) ∧ env.cursorType ≠ .forwardOnly) ∨ env.cursorType = .dynamic) := by
        rintro (other | ⟨more', scrollable⟩ | dynamic)
        · exact other rfl
        · exact several ⟨by omega, scrollable⟩
        · exact steady dynamic
      rw [seekRowset, if_neg stays, if_neg several]
      dsimp only
      rw [source, noCache]
      rfl
  · rw [placedAt_past noCache (by omega) (by omega) (by omega), if_neg (Nat.not_lt.mpr ended)]

theorem nextSource_dynamic (dynamic : env.cursorType = .dynamic) (steady : env.execute = .ok rows)
    (fits : rows.length < 2 ^ 62) (inside : start < rows.length) (position : c.position = start)
    (last : c.lastRowFetched = count) (within : start + count ≤ rows.length) :
    c.nextSource env = rows.drop (start + count) := by
  have noCache : env.noCache = false := by
    rw [FetchEnv.noCache, dynamic]
    rfl
  obtain ⟨c', renewed⟩ : ∃ c' : RowCursor, c' = { c.resetCursor with
      result := rows, numRows := rows.length, resultCursor := rows, error := Diag.clear
      position := (start : Int), lastRowFetched := c.lastRowFetched } := ⟨_, rfl⟩
  have place : (let position := if 0 < c.position ∧ rows.length ≤ c.position.toNat
      then (rows.length : Int) - 1 else c.position
      if position < 0 then 0 else position) = (start : Int) := by
    have kept : ¬ (0 < (start : Int) ∧ rows.length ≤ (start : Int).toNat) := by omega
    rw [position, if_neg kept]
    exact if_neg (by omega)
  have refreshed : c.refreshed env = .ok c' := by
    rw [RowCursor.refreshed, if_pos dynamic, refreshDynamicCursor, steady, renewed, ← place]
    rfl
  have position' : c'.position = start := by rw [renewed]
  have last' : c'.lastRowFetched = count := by
    rw [renewed]
    exact last
  have numRows' : c'.numRows = rows.length := by rw [renewed]
  have result' : c'.result = rows := by rw [renewed]
  have next' : c'.next = [] := by
    rw [renewed]
    rfl
  rw [nextSource_eq refreshed position' last' rfl (by omega)]
  rcases Nat.lt_or_ge (start + count) rows.length with more | ended
  · rw [placedAt_inside noCache (by omega) (by omega),
      seekRowset_moves (by rw [result']; exact ne_nil_of_length_pos (by omega)) (Or.inr (Or.inr dynamic))]
    dsimp only
    rw [source, noCache, result', next']
    rfl
  · rw [placedAt_past noCache (by omega) (by omega) (by omega), drop_eq_nil_of_le ended]

end RowCursor

end MaOdbc
