/-
**Fetching from the results of a batch.**

The handle that an application fetches from is the statement handle with the cursor over the result that it
shows. `MADB_InstallStmt` gives it another result: behind the execution that of the first statement, and
behind each call of `MADB_StmtMoreResults` that of the next one. Fetching in between moves the cursor only,
except for a dynamic cursor: it executes the whole batch once more, and so goes back to the first result.

* `fetchesRows_installed`: a result that was just installed is fetched row by row.
* `Answers.step`, `stmtExecute_answers`: each statement of a complete execution has one answer, and its handle
  keeps the count or the result of it.
* `followsBatch_of_steady`: whatever is fetched in between, the results are shown one after another.
* `exposesBatch_iff`: for which cursors.
-/

import MaOdbc.Cursor.Forward
import MaOdbc.Stmt.Pairs
import MaOdbc.Stmt.RowCounts

namespace MaOdbc

open List Exec

structure ResultHandle where
  stmt : Stmt
  cursor : RowCursor

structure ResultEnv where
  exec : Env
  /-- The rows of a result, by the position in the trace of the request that stored it. -/
  rowsOf : Nat → List Row
  cursorType : CursorType := .static
  dsnNoCache : Bool := false

namespace ResultEnv

variable (env : ResultEnv)

def shownRows (s : Stmt) : List Row := (s.cspsResult.map env.rowsOf).getD []

/-- What `MADB_InstallStmt` does to the cursor. -/
def installed (s : Stmt) (c : RowCursor) : RowCursor :=
  if s.handle.fieldCount = 0 then { c with result := [], numRows := 0, resultCursor := [] }
  else
    { c.resetCursor with
      result := env.shownRows s
      numRows := (env.shownRows s).length
      resultCursor := env.shownRows s
      lastRowFetched := 0 }

def fetchEnv (bound : FetchEnv) (s : Stmt) (execute : Except Diag (List Row)) : FetchEnv :=
  { bound with
    cursorType := env.cursorType
    dsnNoCache := env.dsnNoCache
    columnCount := s.handle.fieldCount
    execute := execute }

end ResultEnv

namespace ResultHandle

variable (env : ResultEnv)

/-- `MADB_StmtExecute` for a batch. -/
def execute (s : Stmt) (c : RowCursor) : SqlReturn × ResultHandle :=
  match s.stmtExecute env.exec with
  | (ret, s) => (ret, ⟨s, if ret.succeeded then env.installed s c else c⟩)

/-- `MADB_StmtFetchScroll`: a dynamic cursor executes its statement first. -/
def fetchScroll (bound : FetchEnv) (call : ScrollCall) (h : ResultHandle) : SqlReturn × ResultHandle :=
  if env.cursorType = .dynamic then
    match h.stmt.stmtExecute env.exec with
    | (ret, s) =>
      let execute := if ret.succeeded then .ok (env.shownRows s) else .error s.error
      match h.cursor.scroll (env.fetchEnv bound s execute) call with
      | (ret, c) => (ret, ⟨s, c⟩)
  else
    match h.cursor.scroll (env.fetchEnv bound h.stmt (.ok [])) call with
    | (ret, c) => (ret, ⟨h.stmt, c⟩)

/-- `MADB_StmtMoreResults` for a batch. -/
def moreResults (h : ResultHandle) : SqlReturn × ResultHandle :=
  match h.stmt.batchMoreResults env.exec (h.stmt.multiStmts.getD []) with
  | (ret, s) => (ret, ⟨s, if ret.succeeded then env.installed s h.cursor else h.cursor⟩)

/-- Fetching row by row brings the rows of a result into the first slot of the buffers, one after another,
and then nothing more. -/
def FetchesRows (bound : FetchEnv) : List Row → ResultHandle → Prop
  | [], h => (h.fetchScroll env bound ⟨.next, 0, 1⟩).1 = .noData
  | row :: rows, h =>
    (h.fetchScroll env bound ⟨.next, 0, 1⟩).1 = .success ∧
      (h.fetchScroll env bound ⟨.next, 0, 1⟩).2.cursor.buffers 0 =
        (env.fetchEnv bound h.stmt (.ok [])).stored row (h.cursor.buffers 0) ∧
      FetchesRows bound rows (h.fetchScroll env bound ⟨.next, 0, 1⟩).2

/-- The handle exposes a result, given the server's answer to the query and the position behind it: the
count of the rows, or the rows themselves, for all buffers that take them. -/
structure Exposes (answer : Outcome × Nat) (h : ResultHandle) : Prop where
  columns : h.stmt.handle.fieldCount = answer.1.fieldCount
  affectedRows : answer.1.fieldCount = 0 → h.stmt.affectedRows = answer.1.affectedRows
  rows : answer.1.fieldCount ≠ 0 → ∀ bound : FetchEnv,
    (env.fetchEnv bound h.stmt (.ok [])).Clean (env.rowsOf answer.2) →
      FetchesRows env bound (env.rowsOf answer.2) h

end ResultHandle

def Event.answerOf (k : Nat) : Event → Option Outcome
  | .asked (.query _) purpose (.ok outcome) =>
    if purpose.pairs.any (·.1 == k) then some outcome else none
  | _ => none

/-- The answers to the queries that were sent for a statement, each with the position behind it. -/
def answersOf (k start : Nat) (events : List Event) : List (Outcome × Nat) :=
  (events.zipIdx start).filterMap fun item => (item.1.answerOf k).map (·, item.2 + 1)

inductive ResultCall
  | fetch (bound : FetchEnv) (call : ScrollCall)
  | moreResults

namespace ResultHandle

variable (env : ResultEnv) (s : Stmt)

/-- The handle exposes the result of a statement of the batch: the one answer to its queries in the
execution. -/
def ShowsStatement (k : Nat) (h : ResultHandle) : Prop :=
  ∃ answer, answersOf k s.trace.length (s.executeEvents env.exec) = [answer] ∧ h.Exposes env answer

/-- The calls behind an execution: each `MADB_StmtMoreResults` succeeds and shows the next statement, up to
the last one, whatever is fetched in between. -/
def FollowsBatch : Nat → ResultHandle → List ResultCall → Prop
  | _, _, [] => True
  | k, h, .fetch bound call :: calls => FollowsBatch k (h.fetchScroll env bound call).2 calls
  | k, h, .moreResults :: calls =>
    if k + 1 < s.query.stmtCount then
      (h.moreResults env).1 = .success ∧ ShowsStatement env s (k + 1) (h.moreResults env).2 ∧
        FollowsBatch (k + 1) (h.moreResults env).2 calls
    else (h.moreResults env).1 = .noData

def ExposesBatch (c : RowCursor) : Prop :=
  (execute env s c).1 = .success ∧ ShowsStatement env s 0 (execute env s c).2 ∧
    ∀ calls, FollowsBatch env s 0 (execute env s c).2 calls

end ResultHandle

/-! ### Fetching -/

namespace ResultHandle

variable {env : ResultEnv} {bound : FetchEnv} {h : ResultHandle} {rows : List Row}

theorem fetchScroll_steady (steady : env.cursorType ≠ .dynamic) (call : ScrollCall) :
    h.fetchScroll env bound call =
      ((h.cursor.scroll (env.fetchEnv bound h.stmt (.ok [])) call).1,
        ⟨h.stmt, (h.cursor.scroll (env.fetchEnv bound h.stmt (.ok [])) call).2⟩) := by
  rw [fetchScroll, if_neg steady]

theorem fetchesRows_cached (steady : env.cursorType ≠ .dynamic)
    (clean : (env.fetchEnv bound h.stmt (.ok [])).Clean rows)
    (cached : (env.fetchEnv bound h.stmt (.ok [])).noCache = false) (fits : rows.length < 2 ^ 62)
    {asked : Nat} (state : RowCursor.Cached rows asked h.cursor) (single : h.cursor.lastRowFetched ≤ 1)
    (within : asked ≤ rows.length) : FetchesRows env bound (rows.drop asked) h := by
  have straight : ∀ c : RowCursor, c.lastRowFetched ≤ 1 →
      RowCursor.Straight (env.fetchEnv bound h.stmt (.ok [])) 1 c.lastRowFetched :=
    fun c single => .inr ⟨steady, Nat.le_refl 1, single⟩
  -- the rows that are left
  induction left : rows.length - asked generalizing asked h with
  | zero =>
    rw [drop_eq_nil_of_le (by omega), FetchesRows, fetchScroll_steady steady]
    rcases Nat.eq_zero_or_pos rows.length with none | nonempty
    · obtain rfl : rows = [] := length_eq_zero_iff.mp none
      exact (RowCursor.fetchNext_cached_empty (straight h.cursor single) clean cached (Nat.le_refl 1)
        (by decide) state).1.ended (Nat.zero_le asked)
    · exact (RowCursor.fetchNext_cached_past 1 steady cached fits nonempty state (by omega)).1
  | succ left' ih =>
    have inside : asked < rows.length := by omega
    obtain ⟨delivers, state', single'⟩ := RowCursor.fetchNext_cached_inside (straight h.cursor single) clean
      cached fits (Nat.le_refl 1) (by decide) state inside
    have slot := delivers.slot 0 (by omega)
    rw [Nat.add_zero, getD_eq_getElem _ _ inside] at slot
    rw [drop_eq_getElem_cons inside, FetchesRows, fetchScroll_steady steady]
    refine ⟨delivers.success inside, slot, ?_⟩
    have rest := ih (h := ⟨h.stmt, (h.cursor.fetchNext (env.fetchEnv bound h.stmt (.ok [])) 1).2⟩) clean cached
      state' single' (by omega) straight (by omega)
    exact rest

/-- **A result that was just installed** is fetched row by row. -/
theorem fetchesRows_installed {c : RowCursor} {position : Nat} (steady : env.cursorType ≠ .dynamic)
    (cached : (env.cursorType == .forwardOnly && env.dsnNoCache) = false)
    (fits : (env.rowsOf position).length < 2 ^ 62) (installed : h.cursor = env.installed h.stmt c)
    (columns : h.stmt.handle.fieldCount ≠ 0) (result : h.stmt.cspsResult = some position)
    (clean : (env.fetchEnv bound h.stmt (.ok [])).Clean (env.rowsOf position)) :
    FetchesRows env bound (env.rowsOf position) h := by
  have shown : env.shownRows h.stmt = env.rowsOf position := by
    rw [ResultEnv.shownRows, result]
    rfl
  rw [ResultEnv.installed, if_neg columns, shown] at installed
  have state : RowCursor.Cached (env.rowsOf position) 0 h.cursor := by
    rw [installed]
    refine ⟨rfl, rfl, Int.le_refl (-1), ?_, Int.le_refl 0, Int.natCast_nonneg _, fun _ => rfl, fun none => ?_⟩
    · show (-1 : Int) ≤ _
      omega
    · show ((env.rowsOf position).length : Int) ≤ 0
      omega
  have single : h.cursor.lastRowFetched ≤ 1 := by
    rw [installed]
    exact Int.zero_le_ofNat 1
  exact fetchesRows_cached steady clean cached fits state single (Nat.zero_le _)

end ResultHandle

/-! ### The answers along a batch -/

theorem answersOf_append (k start : Nat) (first second : List Event) :
    answersOf k start (first ++ second) =
      answersOf k start first ++ answersOf k (start + first.length) second := by
  rw [answersOf, zipIdx_append, filterMap_append]
  rfl

theorem answersOf_of_none {k start : Nat} {events : List Event}
    (none : ∀ event ∈ events, event.answerOf k = none) : answersOf k start events = [] := by
  rw [answersOf, filterMap_eq_nil_iff]
  intro item member
  rw [none item.1 (fst_mem_of_mem_zipIdx member)]
  rfl

theorem answersOf_query {k m start : Nat} (builds : List Build) (text : Text) {purpose : Purpose}
    (pairs : purpose.pairs = [(m, 0)]) (outcome : Outcome) :
    answersOf k start (builds.map Build.event ++ [.asked (.query text) purpose (.ok outcome)]) =
      if k = m then [(outcome, start + builds.length + 1)] else [] := by
  have built : answersOf k start (builds.map Build.event) = [] := by
    refine answersOf_of_none fun event member => ?_
    obtain ⟨build, -, rfl⟩ := mem_map.mp member
    rfl
  rw [answersOf_append, built, nil_append, length_map]
  by_cases here : k = m
  · simp [answersOf, Event.answerOf, pairs, here]
  · simp [answersOf, Event.answerOf, pairs, here, Ne.symm here]

namespace Stmt

variable {env : Env} {s : Stmt} {ids : List Nat} {k : Nat}

theorem hasHandle_batch {course : Course} (handles : course.handles = some (ids.map fun _ => true))
    (inside : k < ids.length) : course.hasHandle k = true := by
  rw [Course.hasHandle, handles, Option.bind_some, getElem?_map, getElem?_eq_getElem inside]
  rfl

theorem course_handles (batch : s.Batch ids) (within : k ≤ ids.length) :
    (s.course k).handles = some (ids.map fun _ => true) := by
  induction k with
  | zero =>
    rw [course, batch.named, Option.map_some, map_map]
    rfl
  | succ k ih =>
    have handles := ih (Nat.le_of_succ_le within)
    rw [course, Course.begun, if_pos batch.multi, if_pos (hasHandle_batch handles within)]
    dsimp only
    rw [Course.passed, if_pos batch.multi]
    exact handles

theorem begun_batch (batch : s.Batch ids) (inside : k < ids.length) :
    (s.course k).begun s.query k = some ((s.course k).counted s.query) := by
  have handles := course_handles batch (Nat.le_of_lt inside)
  rw [Course.begun, if_pos batch.multi, if_pos (hasHandle_batch handles inside)]

theorem statementPlan_one (batch : s.Batch ids) (complete : (s.plan env).stop = none)
    (single : env.arraySize = 1) (taken : env.ignored 0 = false) (inside : k < ids.length) :
    ∃ slot, (s.statementPlan env k).slots = [slot] ∧ slot.purpose.pairs = [(k, 0)] := by
  have stop : (s.statementPlan env k).stop = none := by
    refine Plan.stop_of_seq complete _ (mem_map_of_mem (mem_range.mpr ?_))
    rw [← batch.length]
    exact inside
  rw [statementPlan, begun_batch batch inside] at stop ⊢
  dsimp only at stop ⊢
  have query : (((s.course k).counted s.query).place s.query).query = s.query := rfl
  generalize ((s.course k).counted s.query).place s.query = place at query stop ⊢
  have one : place.rowCount env = 1 := by
    rw [Place.rowCount, single]
    exact ite_self 1
  have apart : ¬ place.rewrites env = true := by simp [Place.rewrites, query, batch.multi]
  rw [Place.plan, if_neg apart, one, range_one, map_singleton, Plan.seq_singleton, Place.rowPlan,
    if_neg (by rw [taken]; exact Bool.false_ne_true)] at stop ⊢
  cases build : place.build env 0 with
  | error failure =>
    rw [build] at stop
    cases stop
  | ok text => exact ⟨_, rfl, rfl⟩

end Stmt

namespace Exec

variable {env : Env} {ids : List Nat} {start s s' : Stmt} {m : Nat} {events queries : List Event}

/-- What the handle of a statement keeps of an answer. -/
structure Keeps (ids : List Nat) (k : Nat) (s : Stmt) (answer : Outcome × Nat) : Prop where
  columns : (s.batchHandle ids k).fieldCount = answer.1.fieldCount
  count : answer.1.fieldCount = 0 → (s.batchHandle ids k).affectedRows = answer.1.affectedRows
  result : answer.1.fieldCount ≠ 0 → s.batchResult k = some answer.2

theorem Keeps.congr {k : Nat} {answer : Outcome × Nat} (keeps : Keeps ids k s answer)
    (handle : s'.batchHandle ids k = s.batchHandle ids k) (result : s'.batchResult k = s.batchResult k) :
    Keeps ids k s' answer :=
  ⟨handle ▸ keeps.columns, handle ▸ keeps.count, result ▸ keeps.result⟩

/-- The answers to the statements before one, and what the handles keep of them. -/
structure Answers (ids : List Nat) (start : Stmt) (m : Nat) (events : List Event) (s : Stmt) : Prop where
  trace : s.trace = start.trace ++ events
  done : ∀ k < m, ∃ answer, answersOf k start.trace.length events = [answer] ∧ Keeps ids k s answer
  ahead : ∀ k, m ≤ k → answersOf k start.trace.length events = []
  fresh : ∀ k < ids.length, m ≤ k → (s.batchHandle ids k).affectedRows = 0

theorem Answers.step (before : Answers ids start m events s) (inside : m < ids.length) (accepts : env.Accepts)
    {slot : Slot} (pairs : slot.purpose.pairs = [(m, 0)]) (answered : Answered env [slot] queries)
    (done : StatementDone env ids m queries s s') : ∃ events', Answers ids start (m + 1) events' s' := by
  obtain ⟨position, sent⟩ : ∃ position, queries = slot.builds.map Build.event ++
      [.asked (.query slot.query) slot.purpose (env.server (.query slot.query) position)] := by
    cases answered with
    | cons position rest =>
      cases rest with
      | nil => exact ⟨position, rfl⟩
  obtain ⟨outcome, answer⟩ := accepts.answer (.query slot.query) position
  rw [answer] at sent
  have conn : s'.connFieldCount = outcome.fieldCount := by
    rw [done.conn, sent, fieldCountAfter_builds, fieldCountAfter_cons]
    rfl
  have count : affectedRows queries = if outcome.fieldCount = 0 then outcome.affectedRows else 0 := by
    rw [sent, affectedRows_append, affectedRows_builds, Nat.zero_add]
    rfl
  let stored : List Event := if 0 < s'.connFieldCount then
    [.asked .storeResult {} (env.server .storeResult (s.trace ++ queries).length)] else []
  have silent : ∀ k start, answersOf k start stored = [] := by
    intro k start
    dsimp only [stored]
    split
    · rfl
    · rfl
  have whole : ∀ k, answersOf k start.trace.length (events ++ queries ++ stored) =
      answersOf k start.trace.length events ++
        if k = m then [(outcome, (s.trace ++ queries).length)] else [] := by
    intro k
    have length : start.trace.length + events.length + slot.builds.length + 1 =
        (s.trace ++ queries).length := by
      rw [before.trace, sent]
      simp only [length_append, length_map, length_singleton]
      omega
    rw [answersOf_append, silent, append_nil, answersOf_append, sent, answersOf_query _ _ pairs, ← sent,
      length]
  refine ⟨events ++ queries ++ stored, ?_, fun k reached => ?_, fun k later => ?_, fun k within later => ?_⟩
  · have added : s'.trace = s.trace ++ queries ++ stored := done.trace
    rw [added, before.trace]
    simp only [append_assoc]
  · rw [whole]
    by_cases here : k = m
    · rw [here, before.ahead m (Nat.le_refl m), if_pos rfl]
      refine ⟨_, rfl, ?_⟩
      have result := done.result
      simp only [conn, accepts _ _, and_true] at result
      refine ⟨?_, fun plain => ?_, fun columns => ?_⟩
      · rw [done.columns, result, conn]
        by_cases columns : 0 < outcome.fieldCount
        · rw [if_pos columns]
          rfl
        · rw [if_neg columns]
          exact (Nat.eq_zero_of_not_pos columns).symm
      · rw [done.count, before.fresh m inside (Nat.le_refl m), count, if_pos plain, Nat.zero_add]
      · rw [result, if_pos (Nat.pos_of_ne_zero columns)]
    · obtain ⟨answer, own, keeps⟩ := before.done k (by omega)
      obtain ⟨handle, result⟩ := done.others k (by omega) here
      rw [own, if_neg here]
      exact ⟨answer, rfl, keeps.congr handle result⟩
  · rw [whole, before.ahead k (by omega), if_neg (by omega)]
    rfl
  · rw [(done.others k within (by omega)).1]
    exact before.fresh k within (by omega)

end Exec

/-! ### One execution, and another one -/

namespace Stmt

variable {env : Env} {s : Stmt} {ids : List Nat}

structure Executable (env : Env) (s : Stmt) : Prop where
  plain : s.Plain env
  complete : (s.plan env).stop = none
  small : IsSmallInt s.paramCount

theorem Executable.ran (ready : s.Executable env) (accepts : env.Accepts) :
    s.stmtExecute env = (.success, (executeCsps env s.entered).stmt.emit .unlock) := by
  have code := returnCode_accepted accepts ready.complete
  rw [stmtExecute_succeeded ready.plain (by rw [code]; rfl), code]

theorem Executable.moreResults (ready : s.Executable env) (multiStmts : List (Option Nat)) :
    (s.batchMoreResults env multiStmts).2.Executable env := by
  have same : let s' := (s.batchMoreResults env multiStmts).2
      s'.setting = s.setting ∧ s'.paramCount = s.paramCount ∧ s'.state = s.state := by
    rw [batchMoreResults]
    split
    · exact ⟨rfl, rfl, rfl⟩
    · dsimp only
      split
      · exact ⟨rfl, rfl, rfl⟩
      · exact ⟨rfl, rfl, rfl⟩
  obtain ⟨setting, paramCount, state⟩ := same
  obtain ⟨query, named, -⟩ := batchMoreResults_same env s multiStmts
  simp only [Stmt.setting, Prod.mk.injEq] at setting
  obtain ⟨force, command, -, params⟩ := setting
  refine ⟨⟨?_, ?_, ?_, ?_⟩, ?_, ?_⟩
  · rw [sspsDisabled, force]
    exact ready.plain.client
  · rw [state]
    exact ready.plain.notEmulated
  · rw [command]
    exact ready.plain.notPositioned
  · rw [params]
    exact ready.plain.hasMemory
  · rw [plan_congr query paramCount named]
    exact ready.complete
  · rw [paramCount]
    exact ready.small

theorem Executable.again (ready : s.Executable env) (accepts : env.Accepts) (batch : s.Batch ids) :
    (s.stmtExecute env).2.Executable env := by
  have planned : s.entered.plan env = s.plan env := plan_congr rfl rfl rfl
  have setting := executeCsps_setting env s.entered
  obtain ⟨e, arrived, final⟩ := executeCsps_complete (planned ▸ ready.complete)
  have entered : s.entered.Batch ids := batch.of_same rfl rfl rfl rfl
  obtain ⟨executed, -⟩ := @executeCsps_batch env ids _ (fun _ _ => True) entered trivial
    (fun _ _ _ _ _ _ _ _ _ => trivial)
  have small : IsSmallInt (executeCsps env s.entered).stmt.paramCount := by
    have counted : e.stmt.paramCount = (s.entered.course s.entered.query.stmtCount).paramCount :=
      congrArg Course.paramCount arrived.course
    obtain ⟨_, _, _, _, finished⟩ := cspsFinish_eq e.stmt
    rw [final, finished, counted]
    exact (course_recounted entered.multi rfl rfl ready.small ready.small _).2.1
  have state : (executeCsps env s.entered).stmt.state = .executed := by
    rw [final]
    rfl
  have query : (executeCsps env s.entered).stmt.query = s.query := by
    obtain ⟨-, -, -, same, -⟩ := executeCsps_course env s.entered
    exact same
  rw [ready.ran accepts]
  generalize (executeCsps env s.entered).stmt = s' at setting executed small state query
  simp only [Stmt.setting, Prod.mk.injEq] at setting
  obtain ⟨force, command, -, params⟩ := setting
  refine ⟨⟨?_, ?_, ?_, ?_⟩, ?_, small⟩
  · show s'.sspsDisabled env = true
    rw [sspsDisabled, force]
    exact ready.plain.client
  · show s'.state ≠ _
    rw [state]
    decide
  · exact command.trans ready.plain.notPositioned
  · show (!s'.hasParams && !env.allocParams) = false
    rw [params]
    rfl
  · have named : s'.multiStmts = s.multiStmts := executed.named.trans batch.named.symm
    have again : (s'.emit .unlock).plan env = s.plan env :=
      plan_recounted batch.multi query named ready.small small
    rw [again]
    exact ready.complete

/-- **Each statement has one answer**, and its handle keeps what it needs of it. -/
theorem stmtExecute_answers (batch : s.Batch ids) (reset : s.OthersReset) (ready : s.Executable env)
    (accepts : env.Accepts) (single : env.arraySize = 1) (taken : env.ignored 0 = false) :
    let s' := (s.stmtExecute env).2
    Shows ids 0 s' ∧ s'.Batch ids ∧ ∀ k < ids.length, ∃ answer,
      answersOf k s.trace.length (s.executeEvents env) = [answer] ∧ Exec.Keeps ids k s' answer := by
  have code := returnCode_accepted accepts ready.complete
  let start := begunCsps s.entered
  obtain ⟨s₁, ⟨events, answers⟩, shows, after, -, handles, results, trace⟩ := stmtExecute_batch
    (fun m s' => ∃ events, Exec.Answers ids start m events s')
    (stmtExecute_succeeded ready.plain (by rw [code]; rfl)) ready.plain.client batch ready.complete
    ⟨[], (append_nil _).symm, fun _ none => absurd none (Nat.not_lt_zero _), fun _ _ => rfl,
      fun _ inside _ => begun_reset batch reset inside⟩
    fun m inside s₁ s₂ queries _ kept answered done => by
      obtain ⟨events, answers⟩ := kept
      obtain ⟨slot, slots, pairs⟩ := statementPlan_one batch ready.complete single taken inside
      rw [slots] at answered
      exact answers.step inside accepts pairs answered done
  refine ⟨shows, after, fun k inside => ?_⟩
  obtain ⟨answer, own, keeps⟩ := answers.done k inside
  have whole : s.executeEvents env = [.enter, .lock] ++ (events ++ [.unlock]) := by
    have began : start.trace = s.trace ++ [.enter] ++ [.lock] := rfl
    rw [executeEvents, trace, answers.trace, began]
    simp only [append_assoc, drop_left]
    rfl
  have length : s.trace.length + 2 = start.trace.length := by
    show _ = (s.trace ++ [Event.enter] ++ [Event.lock]).length
    simp only [length_append, length_singleton]
  have outer : answersOf k s.trace.length [.enter, .lock] = [] := rfl
  have last : ∀ position, answersOf k position [.unlock] = [] := fun _ => rfl
  refine ⟨answer, ?_, keeps.congr ?_ ?_⟩
  · rw [whole, answersOf_append, outer, nil_append, answersOf_append, last, append_nil,
      ← own, ← length]
    rfl
  · rw [batchHandle, handles]
    rfl
  · rw [batchResult, results]
    rfl

end Stmt

/-! ### The calls behind an execution -/

namespace ResultHandle

variable {env : ResultEnv} {s : Stmt} {ids : List Nat} {k : Nat} {h : ResultHandle}

/-- A handle that shows one of the results of an execution, and keeps all of them. -/
structure Holds (env : ResultEnv) (s : Stmt) (ids : List Nat) (k : Nat) (h : ResultHandle) : Prop where
  shows : Stmt.Shows ids k h.stmt
  batch : h.stmt.Batch ids
  ready : h.stmt.Executable env.exec
  keeps : ∀ k < ids.length, ∃ answer,
    answersOf k s.trace.length (s.executeEvents env.exec) = [answer] ∧ Exec.Keeps ids k h.stmt answer

theorem Holds.named (holds : Holds env s ids k h) : h.stmt.multiStmts.getD [] = ids.map some := by
  rw [holds.batch.named]
  rfl

theorem Holds.showsStatement (holds : Holds env s ids k h) (inside : k < ids.length)
    (steady : env.cursorType ≠ .dynamic) (cached : (env.cursorType == .forwardOnly && env.dsnNoCache) = false)
    (fits : ∀ position, (env.rowsOf position).length < 2 ^ 62) {c : RowCursor}
    (installed : h.cursor = env.installed h.stmt c) : ShowsStatement env s k h := by
  obtain ⟨answer, own, keeps⟩ := holds.keeps k inside
  have handle : h.stmt.handle = h.stmt.batchHandle ids k := by
    rw [Stmt.handle, holds.shows.stmt]
    rfl
  have columns : h.stmt.handle.fieldCount = answer.1.fieldCount := by
    rw [handle]
    exact keeps.columns
  refine ⟨answer, own, columns, fun plain => ?_, fun shown bound clean => ?_⟩
  · rw [holds.shows.affectedRows, if_pos (keeps.columns.trans plain), keeps.count plain]
  · exact fetchesRows_installed steady cached (fits _) installed (by rw [columns]; exact shown)
      (holds.shows.result.trans (keeps.result shown)) clean

theorem Holds.next (holds : Holds env s ids k h) (more : k + 1 < ids.length) :
    (h.moreResults env).1 = .success ∧ Holds env s ids (k + 1) (h.moreResults env).2 ∧
      (h.moreResults env).2.cursor = env.installed (h.moreResults env).2.stmt h.cursor := by
  obtain ⟨success, shows⟩ := holds.shows.next holds.batch holds.ready.plain.client more
  have ready := holds.ready.moreResults (ids.map some)
  have batch := @Stmt.batch_batchMoreResults env.exec _ _ holds.batch (ids.map some)
  obtain ⟨-, -, handles, results, -⟩ := Stmt.batchMoreResults_same env.exec h.stmt (ids.map some)
  rw [moreResults, holds.named]
  generalize h.stmt.batchMoreResults env.exec (ids.map some) = returned
    at success shows ready batch handles results
  obtain ⟨ret, s'⟩ := returned
  obtain rfl : ret = .success := success
  refine ⟨rfl, ⟨shows, batch, ready, fun k inside => ?_⟩, rfl⟩
  obtain ⟨answer, own, keeps⟩ := holds.keeps k inside
  refine ⟨answer, own, keeps.congr ?_ ?_⟩
  · show s'.handles.getD _ _ = _
    rw [handles]
    rfl
  · show (s'.cspsMultiStmtResult[k]?).join = _
    rw [results]
    rfl

theorem Holds.last (holds : Holds env s ids k h) (last : k + 1 = ids.length) :
    (h.moreResults env).1 = .noData := by
  rw [moreResults, holds.named, holds.shows.last holds.batch last]

/-- **Whatever is fetched in between**, the results are shown one after another. -/
theorem followsBatch_of_steady (steady : env.cursorType ≠ .dynamic)
    (cached : (env.cursorType == .forwardOnly && env.dsnNoCache) = false)
    (fits : ∀ position, (env.rowsOf position).length < 2 ^ 62) (count : ids.length = s.query.stmtCount)
    (holds : Holds env s ids k h) (inside : k < ids.length) (calls : List ResultCall) :
    FollowsBatch env s k h calls := by
  -- the handle holds the results before each call
  induction calls generalizing k h with
  | nil => trivial
  | cons call calls ih =>
    cases call with
    | fetch bound call =>
      rw [FollowsBatch, fetchScroll_steady steady]
      exact ih ⟨holds.shows, holds.batch, holds.ready, holds.keeps⟩ inside
    | moreResults =>
      rw [FollowsBatch, ← count]
      split
      · rename_i more
        obtain ⟨success, next, installed⟩ := holds.next more
        exact ⟨success, next.showsStatement more steady cached fits installed, ih next more⟩
      · exact holds.last (by omega)

variable (env) in
theorem holds_execute (batch : s.Batch ids) (reset : s.OthersReset) (ready : s.Executable env.exec)
    (accepts : env.exec.Accepts) (single : env.exec.arraySize = 1) (taken : env.exec.ignored 0 = false)
    (c : RowCursor) :
    (execute env s c).1 = .success ∧ Holds env s ids 0 (execute env s c).2 ∧
      (execute env s c).2.cursor = env.installed (execute env s c).2.stmt c := by
  obtain ⟨shows, after, keeps⟩ := Stmt.stmtExecute_answers batch reset ready accepts single taken
  have again := ready.again accepts batch
  have ran := ready.ran accepts
  rw [execute]
  generalize s.stmtExecute env.exec = returned at shows after keeps again ran
  subst ran
  exact ⟨rfl, ⟨shows, after, again, keeps⟩, rfl⟩

theorem Holds.fetch_dynamic (holds : Holds env s ids k h) (accepts : env.exec.Accepts)
    (dynamic : env.cursorType = .dynamic) (bound : FetchEnv) (call : ScrollCall) (two : 1 < ids.length) :
    ((h.fetchScroll env bound call).2.moreResults env).1 = .success := by
  have code := Stmt.returnCode_accepted accepts holds.ready.complete
  obtain ⟨-, -, shows, batch, client, -⟩ := Stmt.stmtExecute_batch (fun _ _ => True)
    (Stmt.stmtExecute_succeeded holds.ready.plain (by rw [code]; rfl)) holds.ready.plain.client holds.batch
    holds.ready.complete trivial (fun _ _ _ _ _ _ _ _ _ => trivial)
  have stmt : (h.fetchScroll env bound call).2.stmt = (h.stmt.stmtExecute env.exec).2 := by
    rw [fetchScroll, if_pos dynamic]
  have named : (h.stmt.stmtExecute env.exec).2.multiStmts.getD [] = ids.map some := by
    rw [batch.named]
    rfl
  rw [moreResults, stmt, named]
  exact (shows.next batch client two).1

theorem Holds.reaches_last (calls : List ResultCall) (count : ids.length = s.query.stmtCount)
    (holds : Holds env s ids k h) {left : Nat} (rest : k + left + 1 = ids.length)
    (follows : FollowsBatch env s k h (replicate left .moreResults ++ calls)) :
    ∃ h', Holds env s ids (k + left) h' ∧ FollowsBatch env s (k + left) h' calls := by
  induction left generalizing k h with
  | zero => exact ⟨h, holds, follows⟩
  | succ left ih =>
    have more : k + 1 < ids.length := by omega
    rw [replicate_succ, cons_append, FollowsBatch, ← count, if_pos more] at follows
    obtain ⟨h', holds', follows'⟩ := ih (holds.next more).2.1 (by omega) follows.2.2
    rw [Nat.add_assoc, Nat.add_comm 1 left] at holds' follows'
    exact ⟨h', holds', follows'⟩

/-- **For which cursors.** The results of a batch are exposed one after another, whatever is fetched in
between, unless the cursor is dynamic. -/
theorem exposesBatch_iff (prepared : s.PreparedBatch) (ready : s.Executable env.exec)
    (accepts : env.exec.Accepts) (single : env.exec.arraySize = 1) (taken : env.exec.ignored 0 = false)
    (cached : (env.cursorType == .forwardOnly && env.dsnNoCache) = false)
    (fits : ∀ position, (env.rowsOf position).length < 2 ^ 62) (c : RowCursor) :
    ExposesBatch env s c ↔ env.cursorType ≠ .dynamic := by
  obtain ⟨ids, new⟩ := prepared.newBatch
  obtain ⟨success, holds, installed⟩ :=
    holds_execute env new.toBatch new.othersReset ready accepts single taken c
  have two : 1 < ids.length := by
    have multi := new.multi
    rw [Query.isMultiStmt, decide_eq_true_iff] at multi
    rw [new.length]
    exact multi
  constructor
  · intro exposes dynamic
    -- the last result, a fetch, and a call that should find nothing more
    have follows := exposes.2.2 (List.replicate (ids.length - 1) .moreResults ++
      [.fetch {} ⟨.next, 0, 1⟩, .moreResults])
    obtain ⟨h, holds', follows'⟩ := holds.reaches_last _ new.length (by omega) follows
    rw [FollowsBatch, FollowsBatch, ← new.length, if_neg (by omega),
      holds'.fetch_dynamic accepts dynamic _ _ two] at follows'
    cases follows'
  · intro steady
    have inside : 0 < ids.length := Nat.zero_lt_of_lt two
    exact ⟨success, holds.showsStatement inside steady cached fits installed,
      followsBatch_of_steady steady cached fits new.length holds inside⟩

open Stmt

/-- A batch that selects and deletes, with a cursor over the rows of the first result. -/
def selecting (cursorType : CursorType) : ResultEnv where
  exec := deleting
  rowsOf := fun _ => [[some (lit "1")], [some (lit "2")]]
  cursorType := cursorType

theorem deleting_accepts : deleting.Accepts := by
  intro request position
  simp only [deleting]
  split
  · split
    · rfl
    · rfl
  · rfl

theorem preparedDelete_executable : preparedDelete.Executable deleting where
  plain := ⟨rfl, by decide +kernel, by decide +kernel, by decide +kernel⟩
  complete := by decide +kernel
  small := by
    rw [Stmt.IsSmallInt]
    decide +kernel

theorem exposesBatch_static :
    ExposesBatch (selecting .static) preparedDelete {} ↔ (selecting .static).cursorType ≠ .dynamic := by
  have fits : ∀ position, ((selecting .static).rowsOf position).length < 2 ^ 62 :=
    fun _ => (by decide : 2 < 2 ^ 62)
  exact exposesBatch_iff preparedDelete_prepared preparedDelete_executable deleting_accepts rfl rfl rfl fits {}

/-- The second result, a fetch, and `MADB_StmtMoreResults` succeeds once more. -/
theorem exposesBatch_refetched :
    preparedDelete.PreparedBatch ∧ preparedDelete.Executable deleting ∧ deleting.Accepts ∧
      ¬ ExposesBatch (selecting .dynamic) preparedDelete {} := by
  refine ⟨preparedDelete_prepared, preparedDelete_executable, deleting_accepts, fun exposes => ?_⟩
  have follows := exposes.2.2 [.moreResults, .fetch {} ⟨.next, 0, 1⟩, .moreResults]
  have last :
      ((((execute (selecting .dynamic) preparedDelete {}).2.moreResults (selecting .dynamic)).2.fetchScroll
        (selecting .dynamic) {} ⟨.next, 0, 1⟩).2.moreResults (selecting .dynamic)).1 = .success := by
    decide +kernel
  rw [FollowsBatch, FollowsBatch, FollowsBatch, preparedDelete_stmtCount, if_pos (by decide),
    if_neg (by decide), last] at follows
  cases follows.2.2

end ResultHandle

end MaOdbc
