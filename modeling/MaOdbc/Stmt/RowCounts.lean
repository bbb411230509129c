/-
**Row counts of a batch.**

Behind the execution of a batch the handle shows the result of its first statement, and each call of
`MADB_StmtMoreResults` shows that of the next one, up to the last.

The rows that the queries of a statement affect are added to what its handle has counted before, and only
the handle that is current when `MADB_StmtExecute` starts is set to zero. The counts that a complete
execution reports are those of this execution where all other handles of the batch were at zero
(`stmtExecute_rowCounts`). They are not in a batch that has counted rows behind its first statement and
is executed again.
-/

import MaOdbc.Stmt.Batches
import MaOdbc.Stmt.Client
import MaOdbc.Stmt.PreparedBatch

namespace MaOdbc

open List Exec

namespace Stmt

variable (env : Env) (s : Stmt)

/-- `MADB_StmtMoreResults` for a batch, with the handles in `Stmt->MultiStmts`. -/
def batchMoreResults (multiStmts : List (Option Nat)) : SqlReturn × Stmt :=
  if s.multiStmtNr = s.query.stmtCount - 1 then (.noData, s)
  else
    let s := { s with multiStmtNr := s.multiStmtNr + 1 }
    let s := s.installStmt ((multiStmts[s.multiStmtNr]?).join.getD 0)
    if s.sspsDisabled env then
      (.success, { s with cspsResult := (s.cspsMultiStmtResult[s.multiStmtNr]?).join })
    else (.success, s)

/-- A batch behind some calls of `MADB_StmtMoreResults`. -/
def afterMoreResults : Nat → Stmt
  | 0 => s
  | calls + 1 =>
    let s := afterMoreResults calls
    (s.batchMoreResults env (s.multiStmts.getD [])).2

structure Shows (ids : List Nat) (k : Nat) (s : Stmt) : Prop where
  nr : s.multiStmtNr = k
  stmt : s.stmt = ids.getD k 0
  affectedRows : s.affectedRows =
    if (s.batchHandle ids k).fieldCount = 0 then ((s.batchHandle ids k).affectedRows : Int) else 0
  result : s.cspsResult = s.batchResult k

variable {env s} {ids : List Nat} {k : Nat}

theorem batchMoreResults_same (env : Env) (s : Stmt) (multiStmts : List (Option Nat)) :
    let s' := (s.batchMoreResults env multiStmts).2
    s'.query = s.query ∧ s'.multiStmts = s.multiStmts ∧ s'.handles = s.handles ∧
      s'.cspsMultiStmtResult = s.cspsMultiStmtResult ∧ s'.forceCsps = s.forceCsps := by
  rw [batchMoreResults]
  split
  · exact ⟨rfl, rfl, rfl, rfl, rfl⟩
  · dsimp only
    split
    · exact ⟨rfl, rfl, rfl, rfl, rfl⟩
    · exact ⟨rfl, rfl, rfl, rfl, rfl⟩

theorem batch_batchMoreResults (batch : s.Batch ids) (multiStmts : List (Option Nat)) :
    (s.batchMoreResults env multiStmts).2.Batch ids := by
  obtain ⟨query, named, handles, results, -⟩ := batchMoreResults_same env s multiStmts
  exact batch.of_same query named handles results

theorem batchMoreResults_client (client : s.sspsDisabled env = true)
    (more : ¬ s.multiStmtNr = s.query.stmtCount - 1) (multiStmts : List (Option Nat)) :
    s.batchMoreResults env multiStmts =
      (.success, { ({ s with multiStmtNr := s.multiStmtNr + 1 } : Stmt).installStmt
          ((multiStmts[s.multiStmtNr + 1]?).join.getD 0) with
        cspsResult := s.batchResult (s.multiStmtNr + 1) }) := by
  rw [batchMoreResults, if_neg more]
  exact if_pos client

theorem Shows.next (shows : Shows ids k s) (batch : s.Batch ids) (client : s.sspsDisabled env = true)
    (more : k + 1 < ids.length) :
    (s.batchMoreResults env (ids.map some)).1 = .success ∧
      Shows ids (k + 1) (s.batchMoreResults env (ids.map some)).2 := by
  have before : ¬ s.multiStmtNr = s.query.stmtCount - 1 := by
    rw [shows.nr, ← batch.length]
    omega
  have handle : ((ids.map some)[k + 1]?).join.getD 0 = ids.getD (k + 1) 0 := by
    rw [getElem?_map, getElem?_eq_getElem more, getD_eq_getElem _ _ more]
    rfl
  rw [batchMoreResults_client client before, shows.nr, handle]
  exact ⟨rfl, rfl, rfl, rfl, rfl⟩

theorem Shows.last (shows : Shows ids k s) (batch : s.Batch ids) (last : k + 1 = ids.length) :
    s.batchMoreResults env (ids.map some) = (.noData, s) := by
  rw [batchMoreResults, shows.nr, ← batch.length, if_pos (by omega)]

/-- **The results of a batch are shown one by one.** -/
theorem Shows.afterMoreResults (shows : Shows ids 0 s) (batch : s.Batch ids)
    (client : s.sspsDisabled env = true) (inside : k < ids.length) :
    let s' := s.afterMoreResults env k
    Shows ids k s' ∧ s'.Batch ids ∧ s'.handles = s.handles ∧
      s'.cspsMultiStmtResult = s.cspsMultiStmtResult ∧ s'.sspsDisabled env = true := by
  induction k with
  | zero => exact ⟨shows, batch, rfl, rfl, client⟩
  | succ k ih =>
    obtain ⟨shows', batch', handles, results, client'⟩ := ih (Nat.lt_of_succ_lt inside)
    have named : ((s.afterMoreResults env k).multiStmts.getD []) = ids.map some := by
      rw [batch'.named]
      rfl
    obtain ⟨-, next⟩ := shows'.next batch' client' inside
    obtain ⟨query, multiStmts, handles', results', force⟩ :=
      batchMoreResults_same env (s.afterMoreResults env k) (ids.map some)
    rw [Stmt.afterMoreResults, named]
    refine ⟨next, batch'.of_same query multiStmts handles' results', handles'.trans handles,
      results'.trans results, ?_⟩
    rw [sspsDisabled, force]
    exact client'

end Stmt

/-! ### Behind an execution -/

/-- What an execution on the client side leaves alone. -/
def Stmt.setting (s : Stmt) : Bool × Bool × Option PositionedCursor × Bool :=
  (s.forceCsps, s.positionedCommand, s.positionedCursor, s.hasParams)

namespace Exec

variable {env : Env} {e e' : Exec} {setting : Bool × Bool × Option PositionedCursor × Bool}

theorem setting_of_core {events : List Event} (core : e'.core = events.foldl observe e.core) :
    e'.stmt.setting = e.stmt.setting := by
  have still : (events.foldl observe e.core).still = e.core.still := still_foldl_observe e.core events
  rw [← core] at still
  exact congrArg (·.stmt.setting) still

theorem setting_of_failed {events : List Event} {failure : Failure}
    (core : e'.core = (events.foldl observe e.core).failed failure) :
    e'.stmt.setting = e.stmt.setting := by
  have still : (events.foldl observe e.core).still = e.core.still := still_foldl_observe e.core events
  have same : e'.core.stmt.setting = (events.foldl observe e.core).stmt.setting :=
    congrArg (·.stmt.setting) core
  exact same.trans (congrArg (·.stmt.setting) still)

theorem cspsInit_setting {nr : Nat} (init : e.cspsInitStatementFromMultistatement nr = some e') :
    e'.stmt.setting = e.stmt.setting := by
  obtain ⟨_, _, _, _, _, _, _, rfl⟩ := cspsInit_eq init
  rfl

theorem afterLoop_setting (rewritten : Bool) (rows : Nat) :
    (e.afterLoop env rewritten rows).stmt.setting = e.stmt.setting := by
  rw [afterLoop]
  cases rewritten with
  | true => rfl
  | false =>
    rw [if_neg Bool.false_ne_true]
    obtain ⟨handles, result, rows, kept | asked⟩ := cspsReceiveStatementResults_cases env e
    · rw [kept]
      rfl
    · cases answered : env.server .storeResult e.stmt.trace.length with
      | failed | ok =>
        rw [answered] at asked
        rw [asked]
        rfl

theorem cspsNext_setting (nr : Nat) : (e.cspsNext nr).stmt.setting = e.stmt.setting := by
  rw [cspsNext]
  split
  · rfl
  · rfl

theorem cspsStatement_setting (before : e.stmt.setting = setting) (nr : Nat) :
    (cspsStatement env nr e).All (·.stmt.setting = setting) (·.stmt.setting = setting) := by
  refine cspsStatement_keeps before nr (fun e' init => (cspsInit_setting init).trans before)
    (fun e' e'' begun follows => ?_) fun e' e'' begun follows => ?_
  · generalize e'.place.plan env nr = planned at follows
    cases follows with
    | leave _ core => exact (setting_of_failed core).trans begun
  · generalize e'.place.plan env nr = planned at follows
    cases follows with
    | next _ core =>
      exact (cspsNext_setting nr).trans ((afterLoop_setting _ _).trans ((setting_of_core core).trans begun))

theorem executeCsps_setting (env : Env) (s : Stmt) : (executeCsps env s).stmt.setting = s.setting := by
  have statements : (forEach (cspsStatement env) (range s.query.stmtCount) { stmt := begunCsps s }).All
      (·.stmt.setting = s.setting) (·.stmt.setting = s.setting) :=
    forEach_rule (fun _ (e : Exec) => e.stmt.setting = s.setting)
      (fun _ nr _ _ _ before => cspsStatement_setting before nr) (nil_append _).symm rfl
  rw [executeCsps_begun]
  split
  · rename_i left
    rw [left] at statements
    exact statements
  · rename_i e' ended
    rw [ended] at statements
    obtain ⟨_, _, _, _, finished⟩ := cspsFinish_eq e'.stmt
    rw [finished]
    exact statements

end Exec

namespace Stmt

variable {env : Env} {s : Stmt} {ids : List Nat}

theorem batch_stmtExecute (supports : env.Supports) (plain : s.Plain env) (batch : s.Batch ids) :
    (s.stmtExecute env).2.Batch ids := by
  have entered : s.entered.Batch ids := batch.of_same rfl rfl rfl rfl
  obtain ⟨executed, -⟩ := executeCsps_batch (fun _ _ => True) entered trivial
    (fun _ _ _ _ _ _ _ _ _ => trivial)
  rw [stmtExecute_client supports plain]
  exact executed.of_same rfl rfl rfl rfl

/-- **A complete execution of a batch** shows the result of the first statement, and has brought about
what the statements bring about one by one. -/
theorem stmtExecute_batch (property : Nat → Stmt → Prop)
    (ran : s.stmtExecute env = (returnCode env (executeCsps env s.entered),
      (executeCsps env s.entered).stmt.emit .unlock)) (client : s.sspsDisabled env = true)
    (batch : s.Batch ids) (complete : (s.plan env).stop = none)
    (start : property 0 (begunCsps s.entered))
    (step : ∀ k < ids.length, ∀ s₁ s₂ queries, s₁.Batch ids → property k s₁ →
      Answered env (s.statementPlan env k).slots queries → Exec.StatementDone env ids k queries s₁ s₂ →
      property (k + 1) s₂) :
    ∃ s₁ : Stmt, property ids.length s₁ ∧
      let s' := (s.stmtExecute env).2
      Shows ids 0 s' ∧ s'.Batch ids ∧ s'.sspsDisabled env = true ∧ s'.handles = s₁.handles ∧
        s'.cspsMultiStmtResult = s₁.cspsMultiStmtResult ∧ s'.trace = s₁.trace ++ [.unlock] := by
  have entered : s.entered.Batch ids := batch.of_same rfl rfl rfl rfl
  have planned : s.entered.plan env = s.plan env := plan_congr rfl rfl rfl
  have statements : ∀ k, s.entered.statementPlan env k = s.statementPlan env k :=
    statementPlan_congr rfl rfl rfl
  obtain ⟨executed, finished⟩ := executeCsps_batch property entered start
    fun k inside s₁ s₂ queries before kept answered done =>
      step k inside s₁ s₂ queries before kept (statements k ▸ answered) done
  obtain ⟨s₁, batch₁, reached, final⟩ := finished (planned ▸ complete)
  have force := congrArg Prod.fst (executeCsps_setting env s.entered)
  refine ⟨s₁, reached, ?_⟩
  rw [ran]
  dsimp only
  rw [final] at executed force ⊢
  refine ⟨?_, executed.of_same rfl rfl rfl rfl, ?_, ?_, ?_, ?_⟩
  · rw [cspsFinish_batch batch₁]
    exact ⟨rfl, rfl, rfl, rfl⟩
  · rw [sspsDisabled] at client ⊢
    rw [← client]
    exact congrArg (env.noSsps || ·) force
  · rw [cspsFinish_batch batch₁]
    rfl
  · rw [cspsFinish_batch batch₁]
    rfl
  · rw [cspsFinish_batch batch₁]
    rfl

end Stmt

/-! ### Rows that are counted -/

/-- The rows that a query affected, if it executed a statement. -/
def Event.affectedRowsOf (k : Nat) : Event → Nat
  | .asked request purpose answer =>
    if purpose.pairs.any (·.1 == k) then (Event.asked request purpose answer).affectedRows else 0
  | _ => 0

def affectedRowsOf (k : Nat) (events : List Event) : Nat := (events.map (Event.affectedRowsOf k)).sum

theorem affectedRowsOf_append (k : Nat) (first second : List Event) :
    affectedRowsOf k (first ++ second) = affectedRowsOf k first + affectedRowsOf k second := by
  rw [affectedRowsOf, map_append, sum_append]
  rfl

theorem affectedRowsOf_cons (k : Nat) (event : Event) (events : List Event) :
    affectedRowsOf k (event :: events) = event.affectedRowsOf k + affectedRowsOf k events :=
  sum_cons

theorem affectedRowsOf_builds (k : Nat) (builds : List Build) :
    affectedRowsOf k (builds.map Build.event) = 0 := by
  induction builds with
  | nil => rfl
  | cons build builds ih =>
    rw [map_cons, affectedRowsOf_cons, ih]
    rfl

theorem affectedRows_builds (builds : List Build) : affectedRows (builds.map Build.event) = 0 := by
  induction builds with
  | nil => rfl
  | cons build builds ih =>
    rw [map_cons, ← singleton_append, affectedRows_append, ih]
    rfl

theorem fieldCountAfter_builds (before : Nat) (builds : List Build) (events : List Event) :
    fieldCountAfter before (builds.map Build.event ++ events) = fieldCountAfter before events := by
  induction builds with
  | nil => rfl
  | cons build builds ih =>
    rw [map_cons, cons_append, fieldCountAfter_cons]
    exact ih

/-! ### The queries of one statement -/

theorem Plan.mem_seq_slots {plans : List Plan} {slot : Slot} (member : slot ∈ (Plan.seq plans).slots) :
    ∃ plan ∈ plans, slot ∈ plan.slots := by
  induction plans with
  | nil => exact absurd member not_mem_nil
  | cons plan plans ih =>
    rw [Plan.seq, foldr_cons, ← Plan.seq, Plan.andThen] at member
    split at member
    · exact ⟨plan, mem_cons_self, member⟩
    · rcases mem_append.mp member with here | later
      · exact ⟨plan, mem_cons_self, here⟩
      · obtain ⟨plan', among, there⟩ := ih later
        exact ⟨plan', mem_cons_of_mem _ among, there⟩

section Queries

variable {env : Env} {s : Stmt} {k : Nat} {slots : List Slot} {queries : List Event}

theorem Stmt.statementPlan_pairs (multi : s.query.isMultiStmt = true) {slot : Slot}
    (member : slot ∈ (s.statementPlan env k).slots) : ∃ row, slot.purpose.pairs = [(k, row)] := by
  rw [statementPlan] at member
  split at member
  · exact absurd member not_mem_nil
  · rename_i begun _
    have single : (begun.place s.query).rewrites env = false := by
      simp [Place.rewrites, Course.place, multi]
    rw [Place.plan, single, if_neg Bool.false_ne_true] at member
    obtain ⟨plan, among, here⟩ := Plan.mem_seq_slots member
    obtain ⟨row, -, rfl⟩ := mem_map.mp among
    rw [Place.rowPlan] at here
    split at here
    · exact absurd here not_mem_nil
    · split at here
      · exact absurd here not_mem_nil
      · exact ⟨row, by rw [mem_singleton.mp here]⟩

theorem affectedRowsOf_answered (answered : Answered env slots queries)
    (pairs : ∀ slot ∈ slots, ∃ row, slot.purpose.pairs = [(k, row)]) (j : Nat) :
    affectedRowsOf j queries = if j = k then affectedRows queries else 0 := by
  induction answered with
  | nil =>
    split
    · rfl
    · rfl
  | @cons slot slots events position _ ih =>
    obtain ⟨row, own⟩ := pairs slot mem_cons_self
    rw [affectedRowsOf_append, affectedRowsOf_builds, affectedRowsOf_cons, Nat.zero_add,
      ih fun slot member => pairs slot (mem_cons_of_mem _ member), Event.affectedRowsOf, own,
      affectedRows_append, affectedRows_builds, Nat.zero_add]
    by_cases here : j = k
    · rw [if_pos here, if_pos here, if_pos (by simp [here])]
      rfl
    · rw [if_neg here, if_neg here, if_neg (by simpa using Ne.symm here)]

/-- Whether successful answers to planned queries have columns is the same for all of them. -/
def AnswersAlike (env : Env) (slots : List Slot) : Prop :=
  ∀ slot ∈ slots, ∀ slot' ∈ slots, ∀ position position' outcome outcome',
    env.server (.query slot.query) position = .ok outcome →
      env.server (.query slot'.query) position' = .ok outcome' →
        outcome.fieldCount = 0 → outcome'.fieldCount = 0

theorem AnswersAlike.of_single (few : slots.length ≤ 1)
    (constant : ∀ request position position', env.server request position = env.server request position') :
    AnswersAlike env slots := by
  intro slot member slot' member' position position' outcome outcome' answer answer' plain
  have same : slot' = slot := by
    match slots, few with
    | [], _ => exact absurd member not_mem_nil
    | [only], _ => rw [mem_singleton.mp member', mem_singleton.mp member]
  rw [same, constant _ position' position, answer] at answer'
  cases answer'
  exact plain

theorem exists_plain_of_affectedRows (answered : Answered env slots queries)
    (some : affectedRows queries ≠ 0) :
    ∃ slot ∈ slots, ∃ position outcome, env.server (.query slot.query) position = .ok outcome ∧
      outcome.fieldCount = 0 := by
  induction answered with
  | nil => exact absurd rfl some
  | @cons slot slots events position _ ih =>
    rw [affectedRows_append, affectedRows_builds, Nat.zero_add, ← singleton_append,
      affectedRows_append] at some
    by_cases later : affectedRows events = 0
    · rw [later, affectedRows, map_singleton, sum_singleton, Nat.add_zero] at some
      refine ⟨slot, mem_cons_self, position, ?_⟩
      cases answer : env.server (.query slot.query) position with
      | failed native =>
        rw [answer] at some
        exact absurd rfl some
      | ok outcome =>
        rw [answer, Event.affectedRows] at some
        refine ⟨outcome, rfl, ?_⟩
        by_contra columns
        exact some (if_neg columns)
    · obtain ⟨slot', member, plain⟩ := ih later
      exact ⟨slot', mem_cons_of_mem _ member, plain⟩

theorem fieldCountAfter_eq_zero (answered : Answered env slots queries)
    (plain : ∀ slot ∈ slots, ∀ position outcome, env.server (.query slot.query) position = .ok outcome →
      outcome.fieldCount = 0) {before : Nat} (empty : before = 0 ∨ slots ≠ []) :
    fieldCountAfter before queries = 0 := by
  induction answered generalizing before with
  | nil =>
    rcases empty with rfl | none
    · rfl
    · exact absurd rfl none
  | @cons slot slots events position _ ih =>
    rw [fieldCountAfter_builds, fieldCountAfter_cons]
    refine ih (fun slot member => plain slot (mem_cons_of_mem _ member)) (.inl ?_)
    cases answer : env.server (.query slot.query) position with
    | failed native => rfl
    | ok outcome => exact plain slot mem_cons_self position outcome answer

theorem affectedRows_of_columns (answered : Answered env slots queries) (alike : AnswersAlike env slots)
    {before : Nat} (columns : fieldCountAfter before queries ≠ 0) : affectedRows queries = 0 := by
  by_contra some
  obtain ⟨slot, member, position, outcome, answer, plain⟩ := exists_plain_of_affectedRows answered some
  refine columns (fieldCountAfter_eq_zero answered ?_ (.inr (ne_nil_of_mem member)))
  intro slot' member' position' outcome' answer'
  exact alike slot member slot' member' position position' outcome outcome' answer answer' plain

end Queries

/-! ### The counts along a batch -/

namespace Exec

variable {env : Env} {ids : List Nat} {start s s' : Stmt} {k m : Nat} {events queries : List Event}

/-- What has been counted before statement `m`. -/
structure Tallied (ids : List Nat) (start : Stmt) (m : Nat) (events : List Event) (s : Stmt) : Prop where
  trace : s.trace = start.trace ++ events
  count : ∀ k < ids.length, (s.batchHandle ids k).affectedRows =
    (start.batchHandle ids k).affectedRows + affectedRowsOf k events
  columns : ∀ k < m, (s.batchHandle ids k).fieldCount ≠ 0 → affectedRowsOf k events = 0
  ahead : ∀ k, m ≤ k → affectedRowsOf k events = 0

theorem Tallied.step {slots : List Slot} (before : Tallied ids start m events s) (inside : m < ids.length)
    (answered : Answered env slots queries) (pairs : ∀ slot ∈ slots, ∃ row, slot.purpose.pairs = [(m, row)])
    (alike : AnswersAlike env slots) (done : StatementDone env ids m queries s s') :
    ∃ events', Tallied ids start (m + 1) events' s' := by
  let stored : List Event := if 0 < s'.connFieldCount then
    [.asked .storeResult {} (env.server .storeResult (s.trace ++ queries).length)] else []
  have uncounted : ∀ j, affectedRowsOf j stored = 0 := by
    intro j
    dsimp only [stored]
    split
    · rfl
    · rfl
  have own := affectedRowsOf_answered answered pairs
  have whole : ∀ j, affectedRowsOf j (events ++ queries ++ stored) =
      affectedRowsOf j events + if j = m then affectedRows queries else 0 := by
    intro j
    rw [affectedRowsOf_append, affectedRowsOf_append, uncounted, own, Nat.add_zero]
  refine ⟨events ++ queries ++ stored, ?_, fun j within => ?_, fun j reached columns => ?_, fun j later => ?_⟩
  · have added : s'.trace = s.trace ++ queries ++ stored := done.trace
    rw [added, before.trace]
    simp only [append_assoc]
  · rw [whole]
    by_cases here : j = m
    · rw [here, done.count, before.count m inside, if_pos rfl, Nat.add_assoc]
    · rw [(done.others j within here).1, before.count j within, if_neg here, Nat.add_zero]
  · rw [whole]
    by_cases here : j = m
    · rw [here, done.columns] at columns
      rw [here, before.ahead m (Nat.le_refl m), if_pos rfl, Nat.zero_add]
      have behind : fieldCountAfter s.connFieldCount queries ≠ 0 := by
        intro none
        rw [done.conn, none, ite_self] at columns
        exact columns rfl
      exact affectedRows_of_columns answered alike behind
    · rw [(done.others j (by omega) here).1] at columns
      rw [before.columns j (by omega) columns, if_neg here]
  · rw [whole, before.ahead j (by omega), if_neg (by omega)]

end Exec

/-! ### Executions of a prepared batch -/

namespace Stmt

/-- What an application does with a prepared batch: it executes it on the client side, and asks for its
results. -/
inductive BatchRun (s : Stmt) : Stmt → Prop
  | prepared : BatchRun s s
  | execute {s' : Stmt} (env : Env) : BatchRun s s' → s'.Plain env → env.Supports →
      BatchRun s (s'.stmtExecute env).2
  | moreResults {s' : Stmt} (env : Env) : BatchRun s s' →
      BatchRun s (s'.batchMoreResults env (s'.multiStmts.getD [])).2

/-- All handles of the batch but the current one have counted nothing. -/
def OthersReset (s : Stmt) : Prop :=
  ∀ id, some id ∈ s.multiStmts.getD [] → id ≠ s.stmt → (s.handles.getD id {}).affectedRows = 0

/-- The answers to the queries of each statement have columns for all rows or for none. -/
def StatementsAlike (env : Env) (s : Stmt) : Prop :=
  ∀ k < s.query.stmtCount, AnswersAlike env (s.statementPlan env k).slots

variable {env : Env} {s s₀ : Stmt} {ids : List Nat}

theorem BatchRun.batch (run : BatchRun s₀ s) (batch : s₀.Batch ids) : s.Batch ids := by
  induction run with
  | prepared => exact batch
  | execute env _ plain supports ih => exact batch_stmtExecute supports plain ih
  | moreResults env _ ih => exact batch_batchMoreResults ih _

theorem begun_reset (batch : s.Batch ids) (reset : s.OthersReset) {k : Nat} (inside : k < ids.length) :
    ((Exec.begunCsps s.entered).batchHandle ids k).affectedRows = 0 := by
  have entered : s.entered.Batch ids := batch.of_same rfl rfl rfl rfl
  rw [((Exec.begunCsps_batch entered).2 k inside).2]
  split
  · rfl
  · rename_i other
    refine reset _ ?_ (Ne.symm other)
    rw [batch.named]
    exact mem_map.mpr ⟨_, Exec.getD_mem inside, rfl⟩

theorem NewBatch.othersReset (new : NewBatch ids s) : s.OthersReset := by
  intro id member other
  rw [new.named] at member
  obtain ⟨id', among, same⟩ := mem_map.mp member
  obtain rfl := Option.some.inj same
  obtain ⟨k, inside, rfl⟩ := getElem_of_mem among
  rw [← getD_eq_getElem _ 0 inside] at other ⊢
  refine new.noCounts k inside (Nat.pos_of_ne_zero fun zero => other ?_)
  rw [zero, new.current]

/-- **The row counts of an execution.** In every run of a prepared batch, a complete execution that finds
all handles but the current one at zero reports, for each statement, the rows that its queries affected in
this execution. -/
theorem stmtExecute_rowCounts (prepared : s₀.PreparedBatch) (run : BatchRun s₀ s) (plain : s.Plain env)
    (supports : env.Supports) (complete : (s.plan env).stop = none) (alike : s.StatementsAlike env)
    (reset : s.OthersReset) {k : Nat} (inside : k < s.query.stmtCount) :
    ((s.stmtExecute env).2.afterMoreResults env k).affectedRows =
      affectedRowsOf k (s.executeEvents env) := by
  obtain ⟨ids, new⟩ := prepared.newBatch
  have batch : s.Batch ids := run.batch new.toBatch
  have within : k < ids.length := batch.length ▸ inside
  let start := Exec.begunCsps s.entered
  obtain ⟨s₁, ⟨events, tallied⟩, shows, after, client, handles, -, trace⟩ := stmtExecute_batch
    (fun m s' => ∃ events, Exec.Tallied ids start m events s') (stmtExecute_client supports plain)
    plain.client batch complete
    ⟨[], (append_nil _).symm, fun _ _ => rfl, fun _ none => absurd none (Nat.not_lt_zero _),
      fun _ _ => rfl⟩
    fun m inside' s₁ s₂ queries before kept answered done => by
      obtain ⟨events, tallied⟩ := kept
      exact tallied.step inside' answered (fun _ => statementPlan_pairs batch.multi)
        (alike m (batch.length ▸ inside')) done
  obtain ⟨shows', -, handles', -⟩ := shows.afterMoreResults after client within
  have handle : ((s.stmtExecute env).2.afterMoreResults env k).batchHandle ids k = s₁.batchHandle ids k := by
    rw [batchHandle, handles', handles]
    rfl
  have whole : s.executeEvents env = .enter :: .lock :: (events ++ [.unlock]) := by
    have began : start.trace = s.trace ++ [.enter] ++ [.lock] := rfl
    rw [executeEvents, trace, tallied.trace, began]
    simp only [append_assoc, drop_left]
    rfl
  have counted : affectedRowsOf k (s.executeEvents env) = affectedRowsOf k events := by
    rw [whole, affectedRowsOf_cons, affectedRowsOf_cons, affectedRowsOf_append]
    simp [Event.affectedRowsOf, affectedRowsOf]
  rw [shows'.affectedRows, handle, tallied.count k within, begun_reset batch reset within, Nat.zero_add,
    counted]
  split
  · rfl
  · rename_i columns
    rw [tallied.columns k within columns]
    rfl

/-- A query with columns and one without. -/
def selectAndDelete : Text := lit "SELECT ? ;DELETE FROM t"

/-- The server answers the first one with a column, and deletes a row each time. -/
def deleting : Env where
  server := fun request _ =>
    match request with
    | .query (first :: _) => if first = ch 'S' then .ok { fieldCount := 1 } else .ok { affectedRows := 1 }
    | _ => .ok {}
  noSsps := true
  multiStatements := true

def preparedDelete : Stmt := (({} : Stmt).stmtPrepare deleting selectAndDelete false).2

theorem deleting_supports : deleting.Supports := by
  refine ⟨fun request position native failed => ?_, nofun⟩
  simp only [deleting] at failed
  split at failed
  · split at failed
    · cases failed
    · cases failed
  · cases failed

theorem fit_new : ({} : Stmt).Fit := ⟨Nat.zero_lt_one, nofun, fun _ _ => rfl⟩

theorem preparedDelete_prepared : preparedDelete.PreparedBatch := by
  refine ⟨⟨{}, deleting, selectAndDelete, false, fit_new, ?_, ?_, rfl, ?_⟩, ?_⟩
  · rintro unescaped ⟨⟩
    decide
  · decide +kernel
  · decide +kernel
  · decide +kernel

theorem preparedDelete_stmtCount : preparedDelete.query.stmtCount = 2 := by decide +kernel

theorem statementsAlike_deleting {s : Stmt} (two : s.query.stmtCount = 2)
    (few : ∀ k < 2, (s.statementPlan deleting k).slots.length ≤ 1) : s.StatementsAlike deleting := by
  intro k inside
  exact .of_single (few k (two ▸ inside)) fun _ _ _ => rfl

theorem stmtExecute_rowCounts_first :
    ((preparedDelete.stmtExecute deleting).2.afterMoreResults deleting 1).affectedRows =
      affectedRowsOf 1 (preparedDelete.executeEvents deleting) := by
  obtain ⟨ids, new⟩ := preparedDelete_prepared.newBatch
  exact stmtExecute_rowCounts preparedDelete_prepared .prepared
    ⟨rfl, by decide +kernel, by decide +kernel, by decide +kernel⟩ deleting_supports (by decide +kernel)
    (statementsAlike_deleting preparedDelete_stmtCount (by decide +kernel)) new.othersReset
    (by rw [preparedDelete_stmtCount]; decide)

/-- The batch is executed twice. The second execution reports the rows of both for its second
statement. -/
theorem stmtExecute_rowCounts_second :
    let executed := (preparedDelete.stmtExecute deleting).2
    preparedDelete.PreparedBatch ∧ BatchRun preparedDelete executed ∧ executed.Plain deleting ∧
      (executed.plan deleting).stop.isNone ∧ executed.StatementsAlike deleting ∧
      ((executed.stmtExecute deleting).2.afterMoreResults deleting 1).affectedRows = 2 ∧
      affectedRowsOf 1 (executed.executeEvents deleting) = 1 := by
  have plain : preparedDelete.Plain deleting :=
    ⟨rfl, by decide +kernel, by decide +kernel, by decide +kernel⟩
  refine ⟨preparedDelete_prepared, .execute deleting .prepared plain deleting_supports,
    ⟨rfl, ?_, ?_, ?_⟩, ?_, statementsAlike_deleting ?_ ?_, ?_, ?_⟩
  · decide +kernel
  · decide +kernel
  · decide +kernel
  · decide +kernel
  · decide +kernel
  · decide +kernel
  · decide +kernel
  · decide +kernel

end Stmt

end MaOdbc
