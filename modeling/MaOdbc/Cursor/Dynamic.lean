/-
**A dynamic cursor over a table that does not change.**

Before every call a dynamic cursor executes its statement once more, and then brings its position back
(`MADB_RefreshDynamicCursor`). Over a table that does not change this should not be seen: a run of calls
should return what it returns on a static cursor.

* `scroll_dynamic`: a call starts from the position that was brought back. Before the start that is the
  first row, behind the end it is the last one.
* `target_alike_iff`: when that makes no difference for the row a call asks for.
* `scroll_sameRun_iff`: the two runs are the same exactly if it makes none for all of their calls.
-/

import MaOdbc.Cursor.Scroll

namespace MaOdbc

open List

/-- The same fetches for a dynamic cursor, whose statement keeps giving the same rows. -/
def FetchEnv.dynamic (env : FetchEnv) (rows : List Row) : FetchEnv :=
  { env with cursorType := .dynamic, execute := .ok rows }

theorem FetchEnv.Clean.dynamic {env : FetchEnv} {rows : List Row} (clean : env.Clean rows) :
    (env.dynamic rows).Clean rows :=
  ⟨clean.columns, clean.bookmarks, clean.bind, clean.indicator, clean.converts⟩

def refreshedPosition (numRows : Nat) (position : Int) : Int :=
  let position := if 0 < position ∧ numRows ≤ position.toNat then (numRows : Int) - 1 else position
  if position < 0 then 0 else position

/-- Two rows that a call may ask for are the same, or both before the start, or both behind the end. -/
def Alike (numRows : Nat) (a b : Int) : Prop :=
  a = b ∨ (a < 0 ∧ b < 0) ∨ (numRows ≤ a ∧ numRows ≤ b)

/-- A call goes to the same place from the position that was brought back. -/
def ScrollCall.Unmoved (call : ScrollCall) (numRows : Nat) (position lastRowFetched : Int) : Prop :=
  match call.orientation with
  | .next =>
    ¬ (position < 0 ∧ 0 < lastRowFetched) ∧ ¬ (position = numRows ∧ lastRowFetched = 0)
  | .prior => position = numRows → numRows < call.rowsetSize
  | .relative =>
    (position < 0 → call.offset < 0 ∨ numRows < call.offset) ∧
      (position = numRows → 0 < call.offset ∨
        (numRows + call.offset ≤ 0 ∧ -call.offset ≤ call.rowsetSize ∧ 1 < numRows) ∨
        (numRows + call.offset < 0 ∧ call.rowsetSize < -call.offset))
  | _ => True

namespace RowCursor

variable (env : FetchEnv) (rows : List Row)

/-- Two calls that return the same rows: their number and where they start, what is in the buffers, and
the return code. -/
structure SameCall (static dynamic : SqlReturn × RowCursor) : Prop where
  returned : static.1 = dynamic.1
  rowset : static.1.succeeded = true →
    static.2.position = dynamic.2.position ∧ static.2.lastRowFetched = dynamic.2.lastRowFetched
  buffers : static.2.buffers = dynamic.2.buffers

/-- A run on a static cursor and the same run on a dynamic one return the same rows. -/
def SameRun : RowCursor → RowCursor → List ScrollCall → Prop
  | _, _, [] => True
  | c, d, call :: calls =>
    SameCall (c.scroll env call) (d.scroll (env.dynamic rows) call) ∧
      SameRun (c.scroll env call).2 (d.scroll (env.dynamic rows) call).2 calls

/-- All calls of a run on a static cursor go to the same place from the position that a dynamic cursor is
brought back to. -/
def UnmovedAll : RowCursor → List ScrollCall → Prop
  | _, [] => True
  | c, call :: calls =>
    call.Unmoved rows.length c.position c.lastRowFetched ∧ UnmovedAll (c.scroll env call).2 calls

variable {env rows} {c d : RowCursor} {call : ScrollCall}

/-! ### A call on a dynamic cursor -/

variable (rows d call) in
/-- The handle of a dynamic cursor when the statement has been executed once more. -/
def renewed : RowCursor :=
  { d with
    arraySize := call.rowsetSize
    result := rows
    numRows := rows.length
    resultCursor := rows
    next := []
    position := refreshedPosition rows.length d.position
    error := Diag.clear }

/-- **A call on a dynamic cursor** goes to the row it asks for from the position that was brought back. -/
theorem scroll_dynamic (small : call.Small) (range : InRange rows.length (d.renewed rows call)) :
    d.scroll (env.dynamic rows) call =
      (d.renewed rows call).fetchAt (env.dynamic rows) call.orientation d.lastRowFetched
        (call.target rows.length (refreshedPosition rows.length d.position) d.lastRowFetched) := by
  have requested : (d.renewed rows call).scrollPosition (env.dynamic rows) call.orientation call.offset =
      .ok (call.target rows.length (refreshedPosition rows.length d.position) d.lastRowFetched) :=
    requested_eq small range
  have refreshed : ({ d with arraySize := call.rowsetSize } : RowCursor).refreshed (env.dynamic rows) =
      .ok (d.renewed rows call) := by
    have dynamic : (env.dynamic rows).cursorType = .dynamic := rfl
    rw [RowCursor.refreshed, if_pos dynamic]
    rfl
  have turned : ({ d.renewed rows call with
      next := if call.orientation = .next then (d.renewed rows call).next else [] } : RowCursor) =
      d.renewed rows call :=
    congrArg (fun next => { d.renewed rows call with next := next }) (ite_self _)
  have placed := positioned_of_asked (fun forward => CursorType.noConfusion forward) refreshed
    (by rw [turned]; exact requested)
  rw [turned] at placed
  rw [scroll, stmtFetchScroll_eq_positioned, placed, fetchAt_eq_placedAt]

/-! ### What is seen of a call -/

/-- What is seen of a call: the return code, the rowset and the buffers. -/
def seen (returned : SqlReturn × RowCursor) : SqlReturn × Int × Int × (Nat → Nat → Cell) :=
  (returned.1, returned.2.position, returned.2.lastRowFetched, returned.2.buffers)

variable (env rows c) in
/-- What is to be seen of a call that asks for a row of a result. -/
def outcome (size : Nat) (target : Int) : SqlReturn × Int × Int × (Nat → Nat → Cell) :=
  if target < 0 then (.noData, -1, c.lastRowFetched, c.buffers)
  else if rows.length ≤ target then (.noData, rows.length, c.lastRowFetched, c.buffers)
  else
    let count := min size (rows.length - target.toNat)
    (.success, target, count, fun i =>
      if i < count then env.stored (rows.getD (target.toNat + i) []) (c.buffers i) else c.buffers i)

variable {size : Nat} {a b position : Int} {calls : List ScrollCall}

theorem outcome_congr (last : c.lastRowFetched = d.lastRowFetched) (buffers : c.buffers = d.buffers)
    (alike : Alike rows.length a b) : c.outcome env rows size a = d.outcome env rows size b := by
  rw [outcome, outcome, last, buffers]
  rcases alike with rfl | ⟨before, before'⟩ | ⟨past, past'⟩
  · rfl
  · rw [if_pos before, if_pos before']
  · have started : ¬ a < 0 := by omega
    have started' : ¬ b < 0 := by omega
    rw [if_neg started, if_neg started', if_pos past, if_pos past']

theorem seen_of_shows {c₀ : RowCursor} {start : Nat} {returned : SqlReturn × RowCursor}
    (inside : start < rows.length) (success : returned.1 = .success)
    (shows : ShowsRowset env rows start c₀ returned.2) (sized : c₀.arraySize = size) :
    seen returned = c₀.outcome env rows size start := by
  have last := shows.brings.last
  rw [sized, length_rowset] at last
  have buffers : returned.2.buffers = fun i =>
      if i < min size (rows.length - start) then env.stored (rows.getD (start + i) []) (c₀.buffers i)
      else c₀.buffers i := by
    funext i
    split
    · rename_i within
      exact shows.slot_eq (by rw [sized]; exact within)
    · rename_i outside
      refine shows.brings.others i ?_
      rw [sized, length_rowset]
      omega
  rw [seen, outcome, if_neg (by omega), if_neg (by omega), success, shows.position, last, buffers]
  rfl

variable (env c) in
theorem seen_fetchAt_before (orientation : FetchOrientation) (rowsProcessed : Int)
    (before : position < 0) :
    seen (c.fetchAt env orientation rowsProcessed position) =
      (.noData, -1, c.lastRowFetched, c.buffers) := by
  rw [fetchAt, if_pos before, stmtDataSeek]
  split
  · rfl
  · rfl

theorem seen_static (static : env.cursorType = .static) (clean : env.Clean rows) (small : call.Small)
    (short : rows.length < 2 ^ 31) (nonempty : 0 < rows.length) (tracks : Tracks rows c) :
    seen (c.scroll env call) =
      c.outcome env rows call.rowsetSize (call.target rows.length c.position c.lastRowFetched) := by
  have scrolled := scroll_static static small (tracks.inRange short)
  have numRows : (c.turned call).numRows = rows.length := tracks.numRows
  by_cases before : call.target rows.length c.position c.lastRowFetched < 0
  · rw [scrolled, seen_fetchAt_before _ _ _ _ before, outcome, if_pos before]
    rfl
  obtain ⟨start, asked⟩ := Int.eq_ofNat_of_zero_le (Int.not_lt.mp before)
  rcases Nat.lt_or_ge start rows.length with inside | past
  · obtain ⟨success, shows, -⟩ := scroll_inside static clean small short tracks asked inside
    rw [asked, seen_of_shows inside success shows rfl]
    rfl
  · rw [scrolled, fetchAt_after (noCache_of_static static) (by rw [numRows]; omega)
      (by rw [numRows]; exact nonempty) (by rw [numRows]; omega), outcome, if_neg before,
      if_pos (by omega), ← numRows]
    rfl

theorem seen_dynamic (clean : env.Clean rows) (small : call.Small) (short : rows.length < 2 ^ 31)
    (nonempty : 0 < rows.length) (range : InRange rows.length (d.renewed rows call)) :
    seen (d.scroll (env.dynamic rows) call) =
      d.outcome env rows call.rowsetSize
        (call.target rows.length (refreshedPosition rows.length d.position) d.lastRowFetched) := by
  have scrolled : d.scroll (env.dynamic rows) call = _ := scroll_dynamic small range
  generalize call.target rows.length (refreshedPosition rows.length d.position) d.lastRowFetched =
    target at scrolled ⊢
  have cached : (env.dynamic rows).noCache = false := rfl
  have numRows : (d.renewed rows call).numRows = rows.length := rfl
  have sized := small.sized
  have sizeBound := small.small
  by_cases before : target < 0
  · rw [scrolled, seen_fetchAt_before _ _ _ _ before, outcome, if_pos before]
    rfl
  obtain ⟨start, rfl⟩ := Int.eq_ofNat_of_zero_le (Int.not_lt.mp before)
  rcases Nat.lt_or_ge start rows.length with inside | past
  · have sought : ({ d.renewed rows call with position := (start : Int) } : RowCursor).seekRowset
        (env.dynamic rows) call.orientation d.lastRowFetched = (.success, { d.renewed rows call with
          position := (start : Int), resultCursor := rows.drop start }) :=
      seekRowset_moves (ne_nil_of_length_pos nonempty) (Or.inr (Or.inr rfl))
    obtain ⟨success, shows⟩ := fetchAt_shows clean.dynamic cached numRows (by omega) inside sized
      (by show start + call.rowsetSize < 2 ^ 64; omega) sought
    rw [scrolled, seen_of_shows inside success shows rfl]
    rfl
  · rw [scrolled, fetchAt_after cached (by rw [numRows]; omega) nonempty (by rw [numRows]; omega), outcome,
      if_neg before, if_pos (by omega)]
    rfl

/-! ### The position that is brought back -/

/-- When it makes no difference that a dynamic cursor is brought back from before the start and from behind
the end. A call never goes to opposite ends. -/
theorem target_alike_iff {numRows : Nat} {last : Int} (small : call.Small) (nonempty : 0 < numRows)
    (lower : -1 ≤ position) (upper : position ≤ numRows) (nonneg : 0 ≤ last)
    (bounded : last ≤ numRows) :
    let a := call.target numRows position last
    let b := call.target numRows (refreshedPosition numRows position) last
    (call.Unmoved numRows position last ↔ Alike numRows a b) ∧
      ¬ (a < 0 ∧ numRows ≤ b) ∧ ¬ (numRows ≤ a ∧ b < 0) := by
  have sized := small.sized
  have place : (position = -1 ∧ refreshedPosition numRows position = 0) ∨
      (position = numRows ∧ refreshedPosition numRows position = numRows - 1) ∨
      (0 ≤ position ∧ position < numRows ∧ refreshedPosition numRows position = position) := by
    rw [refreshedPosition]
    split <;> split <;> omega
  generalize refreshedPosition numRows position = refreshed at place ⊢
  intro a b
  show (call.Unmoved numRows position last ↔ Alike numRows (call.target numRows position last)
      (call.target numRows refreshed last)) ∧
    ¬ (call.target numRows position last < 0 ∧ numRows ≤ call.target numRows refreshed last) ∧
    ¬ (numRows ≤ call.target numRows position last ∧ call.target numRows refreshed last < 0)
  have same : ∀ target : Int,
      (True ↔ target = target ∨ (target < 0 ∧ target < 0) ∨ (numRows ≤ target ∧ numRows ≤ target)) ∧
        ¬ (target < 0 ∧ numRows ≤ target) ∧ ¬ (numRows ≤ target ∧ target < 0) := by
    intro target
    exact ⟨⟨fun _ => Or.inl rfl, fun _ => trivial⟩, by omega, by omega⟩
  unfold ScrollCall.target ScrollCall.Unmoved Alike
  cases call.orientation with
  | next | prior =>
    dsimp only
    rcases place with ⟨rfl, rfl⟩ | ⟨rfl, rfl⟩ | ⟨started, within, rfl⟩
    · rw [if_pos (by omega), if_neg (by omega)]
      omega
    · rw [if_neg (by omega), if_neg (by omega)]
      omega
    · rw [if_neg (by omega)]
      omega
  | relative =>
    dsimp only
    rcases place with ⟨rfl, rfl⟩ | ⟨rfl, rfl⟩ | ⟨started, within, rfl⟩
    · rw [if_neg (by omega), if_neg (by omega)]
      omega
    · split <;> split <;> omega
    · split <;> omega
  | absolute | last | first | bookmark | other => exact same _

theorem inRange_renewed (tracks : Tracks rows c) (short : rows.length < 2 ^ 31)
    (position : d.position = c.position) (last : d.lastRowFetched = c.lastRowFetched) :
    InRange rows.length (d.renewed rows call) := by
  obtain ⟨-, -, lower, upper, nonneg, bounded⟩ := tracks.inRange short
  have place : 0 ≤ refreshedPosition rows.length d.position ∧
      refreshedPosition rows.length d.position ≤ rows.length := by
    rw [refreshedPosition, position]
    split <;> split <;> omega
  refine ⟨rfl, short, ?_, place.2, ?_, ?_⟩
  · show -1 ≤ refreshedPosition rows.length d.position
    omega
  · show 0 ≤ d.lastRowFetched
    rw [last]
    exact nonneg
  · show d.lastRowFetched ≤ _
    rw [last]
    exact bounded

theorem alike_of_outcome (returned : (c.outcome env rows size a).1 = (d.outcome env rows size b).1)
    (rowset : (c.outcome env rows size a).1.succeeded = true →
      (c.outcome env rows size a).2.1 = (d.outcome env rows size b).2.1)
    (apart : ¬ (a < 0 ∧ rows.length ≤ b)) (apart' : ¬ (rows.length ≤ a ∧ b < 0)) :
    Alike rows.length a b := by
  rw [outcome, outcome] at returned rowset
  rw [Alike]
  by_cases inside : 0 ≤ a ∧ a < rows.length
  · rw [if_neg (by omega), if_neg (by omega)] at returned rowset
    have place := rowset rfl
    by_cases inside' : 0 ≤ b ∧ b < rows.length
    · rw [if_neg (by omega), if_neg (by omega)] at place
      exact Or.inl place
    · split at returned
      · cases returned
      · rw [if_pos (by omega)] at returned
        cases returned
  · by_cases inside' : 0 ≤ b ∧ b < rows.length
    · have code : (d.outcome env rows size b).1 = .success := by
        rw [outcome, if_neg (by omega), if_neg (by omega)]
      rw [outcome] at code
      rw [code] at returned
      split at returned
      · cases returned
      · rw [if_pos (by omega)] at returned
        cases returned
    · omega

/-- **A call on a static cursor and on a dynamic one** that stands at the same place. -/
theorem scroll_sameCall_iff (static : env.cursorType = .static) (clean : env.Clean rows)
    (small : call.Small) (short : rows.length < 2 ^ 31) (nonempty : 0 < rows.length)
    (tracks : Tracks rows c) (position : d.position = c.position)
    (last : d.lastRowFetched = c.lastRowFetched) (buffers : d.buffers = c.buffers) :
    (SameCall (c.scroll env call) (d.scroll (env.dynamic rows) call) ↔
        call.Unmoved rows.length c.position c.lastRowFetched) ∧
      (call.Unmoved rows.length c.position c.lastRowFetched →
        seen (c.scroll env call) = seen (d.scroll (env.dynamic rows) call)) := by
  have range : InRange rows.length (d.renewed rows call) :=
    inRange_renewed tracks short position last
  obtain ⟨-, -, lower, upper, nonneg, bounded⟩ := tracks.inRange short
  have seen_c := seen_static static clean small short nonempty tracks
  have seen_d : seen (d.scroll (env.dynamic rows) call) = _ :=
    seen_dynamic clean small short nonempty range
  obtain ⟨unmoved, apart, apart'⟩ := target_alike_iff small nonempty lower upper nonneg bounded
  rw [position, last] at seen_d
  have same : call.Unmoved rows.length c.position c.lastRowFetched →
      seen (c.scroll env call) = seen (d.scroll (env.dynamic rows) call) := by
    intro stays
    rw [seen_c, seen_d]
    exact outcome_congr last.symm buffers.symm (unmoved.mp stays)
  refine ⟨⟨fun sameCall => unmoved.mpr ?_, fun stays => ?_⟩, same⟩
  · have returned : (seen (c.scroll env call)).1 = (seen (d.scroll (env.dynamic rows) call)).1 :=
      sameCall.returned
    have rowset : (seen (c.scroll env call)).1.succeeded = true →
        (seen (c.scroll env call)).2.1 = (seen (d.scroll (env.dynamic rows) call)).2.1 :=
      fun success => (sameCall.rowset success).1
    rw [seen_c, seen_d] at returned rowset
    exact alike_of_outcome returned rowset apart apart'
  · have equal := same stays
    exact ⟨congrArg (·.1) equal, fun _ => ⟨congrArg (·.2.1) equal, congrArg (·.2.2.1) equal⟩,
      congrArg (·.2.2.2) equal⟩

/-! ### Runs -/

theorem sameRun_iff_of_nonempty (static : env.cursorType = .static) (clean : env.Clean rows)
    (short : rows.length < 2 ^ 31) (nonempty : 0 < rows.length) (small : ∀ call ∈ calls, call.Small)
    (tracks : Tracks rows c) (position : d.position = c.position)
    (last : d.lastRowFetched = c.lastRowFetched) (buffers : d.buffers = c.buffers) :
    SameRun env rows c d calls ↔ UnmovedAll env rows c calls := by
  induction calls generalizing c d with
  | nil => exact Iff.rfl
  | cons call calls ih =>
    have smallCall := small call mem_cons_self
    obtain ⟨sameCall, same⟩ :=
      scroll_sameCall_iff static clean smallCall short nonempty tracks position last buffers
    have tracks' := scroll_tracks static clean smallCall short tracks
    rw [SameRun, UnmovedAll, sameCall]
    refine and_congr_right fun stays => ?_
    have equal := (same stays).symm
    exact ih (fun later member => small later (mem_cons_of_mem call member)) tracks'
      (congrArg (·.2.1) equal) (congrArg (·.2.2.1) equal) (congrArg (·.2.2.2) equal)

variable (env) in
theorem scroll_dynamic_empty (small : call.Small) (last : d.lastRowFetched = 0)
    (upper : d.position ≤ 0) :
    let returned := d.scroll (env.dynamic []) call
    returned.1 = .noData ∧ returned.2.buffers = d.buffers ∧ returned.2.lastRowFetched = 0 ∧
      returned.2.position ≤ 0 := by
  have place : refreshedPosition ([] : List Row).length d.position = 0 := by
    rw [refreshedPosition]
    split <;> split <;> omega
  have range : InRange ([] : List Row).length (d.renewed [] call) := by
    refine ⟨rfl, by decide, ?_, ?_, Int.le_of_eq last.symm, Int.le_of_eq last⟩
    · show -1 ≤ refreshedPosition ([] : List Row).length d.position
      omega
    · exact Int.le_of_eq place
  have near := target_lt small range
  have scrolled : d.scroll (env.dynamic []) call = _ := scroll_dynamic small range
  have renewedPlace : (d.renewed [] call).position = 0 := place
  rw [renewedPlace] at near
  rw [place] at scrolled
  rw [scrolled]
  by_cases before : call.target ([] : List Row).length 0 d.lastRowFetched < 0
  · have gone := seen_fetchAt_before (env.dynamic []) (d.renewed [] call) call.orientation
      d.lastRowFetched before
    have start : (-1 : Int) ≤ 0 := by decide
    exact ⟨congrArg (·.1) gone, congrArg (·.2.2.2) gone, (congrArg (·.2.2.1) gone).trans last,
      Int.le_trans (Int.le_of_eq (congrArg (·.2.1) gone)) start⟩
  · have cached : (env.dynamic []).noCache = false := rfl
    have lower := Int.not_lt.mp before
    have fits : (call.target ([] : List Row).length 0 d.lastRowFetched).toNat ≤
        toSqlULen (((d.renewed [] call).numRows : Int) - 1) := by
      show _ ≤ 18446744073709551615
      have bound : call.target ([] : List Row).length 0 d.lastRowFetched < 2 ^ 63 := near
      omega
    have zero : min (call.target ([] : List Row).length 0 d.lastRowFetched)
        ((d.renewed [] call).numRows : Int) = 0 := Int.min_eq_right lower
    have fails : ({ d.renewed [] call with position := 0 } : RowCursor).seekRowset (env.dynamic [])
        call.orientation d.lastRowFetched = (.noData, { d.renewed [] call with position := 0 }) := by
      have dynamic : (env.dynamic []).cursorType = .dynamic := rfl
      rw [seekRowset, if_pos (Or.inr (Or.inr dynamic))]
      rfl
    rw [fetchAt_seeks cached lower fits, zero, fails]
    dsimp only
    rw [finishScroll_of_none last]
    exact ⟨rfl, rfl, last, Int.le_refl 0⟩

theorem sameRun_empty (static : env.cursorType = .static) (clean : env.Clean [])
    (small : ∀ call ∈ calls, call.Small) (tracks : Tracks [] c) (last : d.lastRowFetched = 0)
    (upper : d.position ≤ 0) (buffers : d.buffers = c.buffers) : SameRun env [] c d calls := by
  induction calls generalizing c d with
  | nil => trivial
  | cons call calls ih =>
    have smallCall := small call mem_cons_self
    have short : ([] : List Row).length < 2 ^ 31 := by decide
    have nothing : (c.scroll env call).1 = .noData ∧ (c.scroll env call).2.buffers = c.buffers ∧
        Tracks [] (c.scroll env call).2 := by
      by_cases before : call.target ([] : List Row).length c.position c.lastRowFetched < 0
      · obtain ⟨returned, same, -, tracks'⟩ := scroll_before static smallCall short tracks before
        exact ⟨returned, same, tracks'⟩
      · obtain ⟨returned, same, -, tracks'⟩ :=
          scroll_after static clean smallCall short tracks (Int.not_lt.mp before)
        exact ⟨returned, same, tracks'⟩
    obtain ⟨returned, same, tracks'⟩ := nothing
    obtain ⟨returned', same', last', upper'⟩ := scroll_dynamic_empty env smallCall last upper
    have equal : (d.scroll (env.dynamic []) call).2.buffers = (c.scroll env call).2.buffers := by
      rw [same, same', buffers]
    refine ⟨⟨returned.trans returned'.symm, fun success => ?_, equal.symm⟩,
      ih (fun later member => small later (mem_cons_of_mem call member)) tracks' last' upper' equal⟩
    rw [returned] at success
    cases success

end RowCursor

end MaOdbc
