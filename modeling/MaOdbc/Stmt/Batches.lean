/-
**The handles of a batch.**

A prepared batch has a handle and a result for each of its statements. `StatementDone` says what the
execution of one statement does to them on the client side: the rows that its queries affected are added
to what its own handle has counted, its result is received if the connection has one, and the handles and
results of all other statements stay as they were.
-/

import Mathlib.Data.List.GetD
import MaOdbc.Stmt.Course

namespace MaOdbc

open List Stmt Option

def Event.affectedRows : Event → Nat
  | .asked (.query _) _ (.ok outcome) => if outcome.fieldCount = 0 then outcome.affectedRows else 0
  | _ => 0

def Event.fieldCount : Event → Option Nat
  | .asked (.query _) _ (.ok outcome) => some outcome.fieldCount
  | .asked (.query _) _ (.failed _) => some 0
  | _ => none

def affectedRows (events : List Event) : Nat := (events.map Event.affectedRows).sum

/-- The number of columns that the connection has behind the queries of a trace. -/
def fieldCountAfter (before : Nat) (events : List Event) : Nat :=
  (events.filterMap Event.fieldCount).getLast?.getD before

theorem affectedRows_append (first second : List Event) :
    affectedRows (first ++ second) = affectedRows first + affectedRows second := by
  rw [affectedRows, map_append, sum_append]
  rfl

theorem fieldCountAfter_cons (before : Nat) (event : Event) (events : List Event) :
    fieldCountAfter before (event :: events) = fieldCountAfter (event.fieldCount.getD before) events := by
  rw [fieldCountAfter, fieldCountAfter, filterMap_cons]
  cases event.fieldCount with
  | none => rfl
  | some count =>
    dsimp only
    rw [getLast?_cons]
    cases (events.filterMap Event.fieldCount).getLast? with
    | none | some => rfl

namespace Stmt

variable (ids : List Nat) (s : Stmt)

def batchHandle (k : Nat) : Handle := s.handles.getD (ids.getD k 0) {}

def batchResult (k : Nat) : Option Nat := (s.cspsMultiStmtResult[k]?).join

/-- **A batch** with a handle of its own for each of its statements. A handle with columns has a
result. -/
structure Batch : Prop where
  multi : s.query.isMultiStmt = true
  named : s.multiStmts = some (ids.map some)
  length : ids.length = s.query.stmtCount
  distinct : ids.Nodup
  owned : ∀ id ∈ ids, id < s.handles.length
  results : s.cspsMultiStmtResult.length = ids.length
  columns : ∀ k < ids.length, (s.batchHandle ids k).fieldCount ≠ 0 → (s.batchResult k).isSome = true

end Stmt

variable {k : Nat} {handles handles' : List Handle} {f : Nat → Handle → Handle} {s' s₁ s₂ : Stmt}
  {events queries : List Event}

namespace Exec

variable {env : Env} {ids : List Nat} {e e' : Exec}

/-! ### The rows of a statement -/

theorem observe_handles (e : Exec) (event : Event) (id : Nat) :
    (e.observe event).stmt.handles[id]? =
      (e.stmt.handles[id]?).map fun handle =>
        if e.stmt.stmt = id then { handle with affectedRows := handle.affectedRows + event.affectedRows }
        else handle := by
  have same : ∀ handles : Option Handle, handles = handles.map fun handle =>
      if e.stmt.stmt = id then { handle with affectedRows := handle.affectedRows + 0 } else handle := by
    intro handles
    simp
  cases event with
  | asked request purpose answer =>
    cases request with
    | query text =>
      cases answer with
      | failed native => exact same _
      | ok outcome =>
        rw [observe]
        dsimp only [Event.affectedRows]
        split
        · rw [modifyHandle]
          dsimp only
          rw [getElem?_modify]
          rfl
        · exact same _
    | _ => exact same _
  | _ => exact same _

theorem observe_connFieldCount (e : Exec) (event : Event) :
    (e.observe event).stmt.connFieldCount = event.fieldCount.getD e.stmt.connFieldCount := by
  cases event with
  | asked request purpose answer =>
    cases request with
    | query text =>
      cases answer with
      | failed native => rfl
      | ok outcome =>
        rw [observe]
        dsimp only
        split
        · rfl
        · rfl
    | _ => rfl
  | _ => rfl

theorem still_stmt (still : e'.still = e.still) : e'.stmt.stmt = e.stmt.stmt :=
  congrArg (·.stmt.stmt) still

theorem foldl_observe_handles (events : List Event) (e : Exec) (id : Nat) :
    (events.foldl observe e).stmt.handles[id]? =
        ((e.stmt.handles[id]?).map fun handle =>
          if e.stmt.stmt = id then { handle with affectedRows := handle.affectedRows + affectedRows events }
          else handle) ∧
      (events.foldl observe e).stmt.connFieldCount = fieldCountAfter e.stmt.connFieldCount events := by
  induction events generalizing e with
  | nil =>
    refine ⟨?_, rfl⟩
    simp [affectedRows]
  | cons event events ih =>
    obtain ⟨handles, conn⟩ := ih (e.observe event)
    rw [foldl_cons]
    constructor
    · rw [handles, observe_handles, still_stmt (still_observe e event), Option.map_map]
      refine congrArg (Option.map · _) (funext fun handle => ?_)
      rw [Function.comp_apply, ← singleton_append, affectedRows_append]
      split
      · simp [affectedRows, Nat.add_assoc]
      · rfl
    · rw [conn, observe_connFieldCount, fieldCountAfter_cons]

/-! ### The result of a statement -/

def stores (env : Env) (s : Stmt) : Bool :=
  decide (0 < s.connFieldCount) && (env.server .storeResult s.trace.length).isOk

def columnsAfter (env : Env) (s : Stmt) (before : Nat) : Nat :=
  if stores env s then s.connFieldCount else if s.cspsResult.isSome then 0 else before

structure Receives (env : Env) (s s' : Stmt) : Prop where
  trace : s'.trace = s.trace ++ if 0 < s.connFieldCount then
    [.asked .storeResult {} (env.server .storeResult s.trace.length)] else []
  query : s'.query = s.query
  stmt : s'.stmt = s.stmt
  multiStmts : s'.multiStmts = s.multiStmts
  results : s'.cspsMultiStmtResult = s.cspsMultiStmtResult
  conn : s'.connFieldCount = s.connFieldCount
  result : s'.cspsResult = if stores env s then some s.trace.length else none
  handles : ∀ id, s'.handles[id]? = (s.handles[id]?).map fun handle =>
    if s.stmt = id then { handle with fieldCount := columnsAfter env s handle.fieldCount } else handle

theorem cspsFreeResult_receives (s : Stmt) :
    (cspsFreeResult s).trace = s.trace ∧ (cspsFreeResult s).query = s.query ∧
      (cspsFreeResult s).stmt = s.stmt ∧ (cspsFreeResult s).multiStmts = s.multiStmts ∧
      (cspsFreeResult s).cspsMultiStmtResult = s.cspsMultiStmtResult ∧
      (cspsFreeResult s).connFieldCount = s.connFieldCount ∧ (cspsFreeResult s).cspsResult = none ∧
      ∀ id, (cspsFreeResult s).handles[id]? = (s.handles[id]?).map fun handle =>
        if s.stmt = id then
          { handle with fieldCount := if s.cspsResult.isSome then 0 else handle.fieldCount }
        else handle := by
  rw [cspsFreeResult]
  split
  · rename_i some
    refine ⟨rfl, rfl, rfl, rfl, rfl, rfl, rfl, fun id => ?_⟩
    simp only [modifyHandle, getElem?_modify]
    rfl
  · rename_i none
    refine ⟨rfl, rfl, rfl, rfl, rfl, rfl, not_isSome_iff_eq_none.mp none, fun id => ?_⟩
    simp

theorem cspsReceiveStatementResults_receives (env : Env) (multi : e.stmt.multiStmts.isSome = true) :
    Receives env e.stmt (e.cspsReceiveStatementResults env).stmt := by
  obtain ⟨trace, query, stmt, multiStmts, results, conn, result, handles⟩ := cspsFreeResult_receives e.stmt
  rw [cspsReceiveStatementResults]
  dsimp only
  rw [conn]
  by_cases columns : 0 < e.stmt.connFieldCount
  · rw [if_pos columns]
    rcases answered : (cspsFreeResult e.stmt).ask env .storeResult {} with ⟨answer, s⟩
    obtain rfl := eq_of_ask answered
    have same : env.server .storeResult e.stmt.trace.length = answer := by
      rw [← trace]
      exact congrArg Prod.fst answered
    cases answer with
    | failed native =>
      have unstored : stores env e.stmt = false := by simp [stores, same, Answer.isOk]
      refine ⟨?_, query, stmt, multiStmts, results, conn, ?_, fun id => ?_⟩
      · rw [if_pos columns, same, ← trace]
        rfl
      · rw [unstored]
        exact result
      · simp only [columnsAfter, unstored]
        exact handles id
    | ok outcome =>
      have stored : stores env e.stmt = true := by simp [stores, same, Answer.isOk, columns]
      refine ⟨?_, query, stmt, multiStmts, results, conn, ?_, fun id => ?_⟩
      · rw [if_pos columns, same, ← trace]
        rfl
      · rw [stored, ← trace]
        rfl
      · have modified : (((cspsFreeResult e.stmt).emit (.asked .storeResult {} (.ok outcome))).modifyHandle
            fun handle => { handle with fieldCount := (cspsFreeResult e.stmt).connFieldCount }).handles[id]? =
            ((cspsFreeResult e.stmt).handles[id]?).map fun handle =>
              if (cspsFreeResult e.stmt).stmt = id then
                { handle with fieldCount := (cspsFreeResult e.stmt).connFieldCount }
              else handle :=
          getElem?_modify _ _ _ _
        refine modified.trans ?_
        rw [handles, stmt, conn, Option.map_map]
        refine congrArg (Option.map · _) (funext fun handle => ?_)
        rw [Function.comp_apply]
        split
        · rw [columnsAfter, stored, if_pos rfl]
        · rfl
  · have unstored : stores env e.stmt = false := by simp [stores, columns]
    have inBatch : ¬ (e.ret.succeeded && (cspsFreeResult e.stmt).multiStmts.isNone) = true := by
      rw [multiStmts, isSome_iff_ne_none] at *
      simp [multi]
    rw [if_neg columns, if_neg inBatch]
    refine ⟨?_, query, stmt, multiStmts, results, conn, ?_, fun id => ?_⟩
    · rw [if_neg columns, append_nil, trace]
    · rw [unstored]
      exact result
    · simp only [columnsAfter, unstored]
      exact handles id

/-! ### One statement -/

/-- **What a statement of a batch does** to the handles and the results: its queries and then the request
for its result. -/
structure StatementDone (env : Env) (ids : List Nat) (k : Nat) (queries : List Event) (s s' : Stmt) :
    Prop where
  trace : s'.trace = s.trace ++ queries ++ if 0 < s'.connFieldCount then
    [.asked .storeResult {} (env.server .storeResult (s.trace ++ queries).length)] else []
  conn : s'.connFieldCount = fieldCountAfter s.connFieldCount queries
  count : (s'.batchHandle ids k).affectedRows =
    (s.batchHandle ids k).affectedRows + affectedRows queries
  columns : (s'.batchHandle ids k).fieldCount = if (s'.batchResult k).isSome then s'.connFieldCount else 0
  result : s'.batchResult k =
    if 0 < s'.connFieldCount ∧ (env.server .storeResult (s.trace ++ queries).length).isOk = true then
      some (s.trace ++ queries).length
    else none
  others : ∀ j < ids.length, j ≠ k →
    s'.batchHandle ids j = s.batchHandle ids j ∧ s'.batchResult j = s.batchResult j

theorem cspsInit_batch (batch : e.stmt.Batch ids) (inside : k < ids.length) :
    ∃ e', e.cspsInitStatementFromMultistatement k = some e' ∧
      e'.stmt = { e.stmt with
        stmt := ids.getD k 0, cspsResult := e.stmt.batchResult k, rebindParams := e'.stmt.rebindParams,
        paramCount := e'.stmt.paramCount } := by
  have known : e.multiStmt k = some (ids.getD k 0) := by
    rw [multiStmt, batch.named, bind_some, getElem?_map, getElem?_eq_getElem inside,
      getD_eq_getElem _ _ inside]
    rfl
  rw [cspsInitStatementFromMultistatement, known]
  exact ⟨_, rfl, rfl⟩

theorem getD_handles (same : ∀ id, handles'[id]? = (handles[id]?).map (f id)) {id : Nat}
    (inside : id < handles.length) : handles'.getD id {} = f id (handles.getD id {}) := by
  rw [getD_eq_getElem?_getD, same, getElem?_eq_getElem inside, getD_eq_getElem _ _ inside]
  rfl

theorem length_handles (same : ∀ id, handles'[id]? = (handles[id]?).map (f id)) :
    handles'.length = handles.length := by
  have none : ∀ id, handles'.length ≤ id ↔ handles.length ≤ id := by
    intro id
    rw [← List.getElem?_eq_none_iff, ← List.getElem?_eq_none_iff, same, map_eq_none_iff]
  have one := (none handles.length).mpr (Nat.le_refl _)
  have other := (none handles'.length).mp (Nat.le_refl _)
  omega

theorem getD_ne {j : Nat} (distinct : ids.Nodup) (inside : k < ids.length) (within : j < ids.length)
    (other : j ≠ k) : ids.getD k 0 ≠ ids.getD j 0 := by
  rw [getD_eq_getElem _ _ inside, getD_eq_getElem _ _ within]
  exact fun same => other ((distinct.getElem_inj_iff.mp same).symm)

theorem getD_mem (inside : k < ids.length) : ids.getD k 0 ∈ ids := by
  rw [getD_eq_getElem _ _ inside]
  exact getElem_mem inside

theorem batch_of_handles {s : Stmt} (batch : s.Batch ids) (query : s'.query = s.query)
    (multiStmts : s'.multiStmts = s.multiStmts)
    (handles : ∀ id, s'.handles[id]? = (s.handles[id]?).map (f id))
    (results : s'.cspsMultiStmtResult.length = s.cspsMultiStmtResult.length)
    (columns : ∀ j < ids.length, (f (ids.getD j 0) (s.batchHandle ids j)).fieldCount ≠ 0 →
      (s'.batchResult j).isSome = true) :
    s'.Batch ids ∧ ∀ j < ids.length, s'.batchHandle ids j = f (ids.getD j 0) (s.batchHandle ids j) := by
  have own : ∀ j < ids.length, s'.batchHandle ids j = f (ids.getD j 0) (s.batchHandle ids j) := by
    intro j inside
    rw [batchHandle, getD_handles handles (batch.owned _ (getD_mem inside))]
    rfl
  refine ⟨⟨query ▸ batch.multi, multiStmts.trans batch.named, query ▸ batch.length, batch.distinct,
    fun id member => ?_, results.trans batch.results, fun j inside => ?_⟩, own⟩
  · rw [length_handles handles]
    exact batch.owned id member
  · rw [own j inside]
    exact columns j inside

theorem batch_of_handle {s : Stmt} (batch : s.Batch ids) (inside : k < ids.length)
    (query : s'.query = s.query) (multiStmts : s'.multiStmts = s.multiStmts)
    (handles : ∀ id, s'.handles[id]? =
      (s.handles[id]?).map fun handle => if ids.getD k 0 = id then f id handle else handle)
    (results : s'.cspsMultiStmtResult.length = s.cspsMultiStmtResult.length)
    (same : ∀ j ≠ k, s'.batchResult j = s.batchResult j)
    (columns : (f (ids.getD k 0) (s.batchHandle ids k)).fieldCount ≠ 0 →
      (s'.batchResult k).isSome = true) :
    s'.Batch ids ∧ s'.batchHandle ids k = f (ids.getD k 0) (s.batchHandle ids k) ∧
      ∀ j < ids.length, j ≠ k → s'.batchHandle ids j = s.batchHandle ids j := by
  obtain ⟨after, own⟩ := batch_of_handles batch query multiStmts handles results fun j within => by
    by_cases here : j = k
    · rw [here, if_pos rfl]
      exact columns
    · rw [if_neg (getD_ne batch.distinct inside within here), same j here]
      exact batch.columns j within
  refine ⟨after, (own k inside).trans (if_pos rfl), fun j within other => ?_⟩
  exact (own j within).trans (if_neg (getD_ne batch.distinct inside within other))

structure RowsObserved (queries : List Event) (s s' : Stmt) : Prop where
  trace : s'.trace = s.trace ++ queries
  conn : s'.connFieldCount = fieldCountAfter s.connFieldCount queries
  query : s'.query = s.query
  stmt : s'.stmt = s.stmt
  multiStmts : s'.multiStmts = s.multiStmts
  result : s'.cspsResult = s.cspsResult
  results : s'.cspsMultiStmtResult = s.cspsMultiStmtResult
  handles : ∀ id, s'.handles[id]? = (s.handles[id]?).map fun handle =>
    if s.stmt = id then { handle with affectedRows := handle.affectedRows + affectedRows queries }
    else handle

theorem rowsObserved_foldl (e : Exec) (events : List Event) :
    RowsObserved events e.stmt (events.foldl observe e).stmt := by
  have still : (events.foldl observe e).still = e.still := still_foldl_observe e events
  exact
    { trace := trace_foldl_observe e events
      conn := (foldl_observe_handles events e 0).2
      query := congrArg (·.stmt.query) still
      stmt := congrArg (·.stmt.stmt) still
      multiStmts := congrArg (·.stmt.multiStmts) still
      result := congrArg (·.stmt.cspsResult) still
      results := congrArg (·.stmt.cspsMultiStmtResult) still
      handles := fun id => (foldl_observe_handles events e id).1 }

theorem RowsObserved.of_core (core : e'.core = events.foldl observe e.core) :
    RowsObserved events e.stmt e'.stmt := by
  have observed := rowsObserved_foldl e.core events
  rw [← core] at observed
  exact { observed with }

theorem RowsObserved.of_failed {failure : Failure}
    (core : e'.core = (events.foldl observe e.core).failed failure) :
    RowsObserved events e.stmt e'.stmt := by
  have observed := rowsObserved_foldl e.core events
  have failed : RowsObserved events e.core.stmt ((events.foldl observe e.core).failed failure).stmt :=
    { observed with }
  rw [← core] at failed
  exact { failed with }

theorem cspsNext_batch (k : Nat) (multi : e.stmt.query.isMultiStmt = true) :
    (e.cspsNext k).stmt = { e.stmt with
      cspsMultiStmtResult := e.stmt.cspsMultiStmtResult.set k e.stmt.cspsResult
      cspsResult := none } := by
  rw [cspsNext, if_pos multi]

theorem batchResult_set {s : Stmt} {result : Option Nat} (inside : k < s.cspsMultiStmtResult.length)
    (results : s'.cspsMultiStmtResult = s.cspsMultiStmtResult.set k result) :
    s'.batchResult k = result ∧ ∀ j ≠ k, s'.batchResult j = s.batchResult j := by
  constructor
  · rw [batchResult, results, getElem?_set_self inside]
    rfl
  · intro j other
    rw [batchResult, results, getElem?_set_ne (Ne.symm other)]
    rfl

section

variable {s : Stmt} (batch : s.Batch ids) (inside : k < ids.length)
  (begun : s₁ = { s with stmt := ids.getD k 0, cspsResult := s.batchResult k, rebindParams := s₁.rebindParams, paramCount := s₁.paramCount })
  (rows : RowsObserved queries s₁ s₂)

include batch inside begun rows

theorem statementDone {s₃ s₄ : Stmt} (receives : Receives env s₂ s₃) (next : s₄ = { s₃ with
      cspsMultiStmtResult := s₃.cspsMultiStmtResult.set k s₃.cspsResult, cspsResult := none }) :
    s₄.Batch ids ∧ StatementDone env ids k queries s s₄ := by
  have current : s₁.stmt = ids.getD k 0 := by rw [begun]
  have trace : s₂.trace = s.trace ++ queries := by rw [rows.trace, begun]
  have conn : s₄.connFieldCount = s₂.connFieldCount := by rw [next]; exact receives.conn
  have stored : stores env s₂ = true ↔
      0 < s₄.connFieldCount ∧ (env.server .storeResult (s.trace ++ queries).length).isOk = true := by
    rw [stores, trace, conn, Bool.and_eq_true, decide_eq_true_iff]
  have before : s₂.cspsResult = s.batchResult k := by rw [rows.result, begun]
  have results : s₄.cspsMultiStmtResult = s.cspsMultiStmtResult.set k s₃.cspsResult := by
    rw [next]
    dsimp only
    rw [receives.results, rows.results, begun]
  obtain ⟨result, same⟩ := batchResult_set (batch.results ▸ inside) results
  have handles : ∀ id, s₄.handles[id]? = (s.handles[id]?).map fun handle =>
      if ids.getD k 0 = id then
        { handle with
          affectedRows := handle.affectedRows + affectedRows queries
          fieldCount := columnsAfter env s₂ handle.fieldCount }
      else handle := by
    intro id
    have received : s₄.handles[id]? = s₃.handles[id]? := by rw [next]
    have started : s₁.handles[id]? = s.handles[id]? := by rw [begun]
    rw [received, receives.handles, rows.handles, rows.stmt, current, started, Option.map_map]
    refine congrArg (Option.map · _) (funext fun handle => ?_)
    rw [Function.comp_apply]
    split
    · rfl
    · rfl
  have fieldCount : columnsAfter env s₂ (s.batchHandle ids k).fieldCount =
      if (s₄.batchResult k).isSome then s₄.connFieldCount else 0 := by
    rw [columnsAfter, result, receives.result, before, conn]
    cases stores env s₂ with
    | true => rfl
    | false =>
      rw [if_neg Bool.false_ne_true, if_neg Bool.false_ne_true]
      show _ = 0
      split
      · rfl
      · rename_i none
        by_contra columns
        exact none (batch.columns k inside columns)
  have query : s₄.query = s.query := by
    rw [next]
    dsimp only
    rw [receives.query, rows.query, begun]
  have multiStmts : s₄.multiStmts = s.multiStmts := by
    rw [next]
    dsimp only
    rw [receives.multiStmts, rows.multiStmts, begun]
  obtain ⟨after, own, others⟩ := batch_of_handle batch inside query multiStmts handles
    (by rw [results, length_set]) same fun columns => by
      by_contra none
      rw [if_neg none] at fieldCount
      exact columns fieldCount
  refine ⟨after, ⟨?_, ?_, ?_, ?_, ?_, fun j within other => ⟨others j within other, same j other⟩⟩⟩
  · have received : s₄.trace = s₃.trace := by rw [next]
    rw [received, receives.trace, trace, conn]
  · rw [conn, rows.conn, begun]
  · rw [own]
  · rw [own]
    exact fieldCount
  · rw [result, receives.result, trace]
    simp only [stored]

theorem statementLeft : s₂.Batch ids := by
  have current : s₁.stmt = ids.getD k 0 := by rw [begun]
  have results : s₂.cspsMultiStmtResult = s.cspsMultiStmtResult := by rw [rows.results, begun]
  have result : ∀ j, s₂.batchResult j = s.batchResult j := by
    intro j
    rw [batchResult, results]
    rfl
  have handles : ∀ id, s₂.handles[id]? = (s.handles[id]?).map fun handle =>
      if ids.getD k 0 = id then
        { handle with affectedRows := handle.affectedRows + affectedRows queries } else handle := by
    intro id
    have started : s₁.handles[id]? = s.handles[id]? := by rw [begun]
    rw [rows.handles, current, started]
  refine (batch_of_handle batch inside ?_ ?_ handles (congrArg length results)
    (fun j _ => result j) fun columns => ?_).1
  · rw [rows.query, begun]
  · rw [rows.multiStmts, begun]
  · rw [result]
    exact batch.columns k inside columns

end

/-- **One statement of a batch.** -/
theorem cspsStatement_batch {s : Stmt} (batch : e.stmt.Batch ids) (inside : k < ids.length)
    (here : At s k e) :
    (cspsStatement env k e).All
      (fun e' => e'.stmt.Batch ids ∧ ∃ queries, Answered env (s.statementPlan env k).slots queries ∧
        StatementDone env ids k queries e.stmt e'.stmt)
      (fun e' => e'.stmt.Batch ids) := by
  have multi : e.stmt.query.isMultiStmt = true := batch.multi
  obtain ⟨e₁, init, begun⟩ := cspsInit_batch batch inside
  have query : e₁.stmt.query = e.stmt.query := by rw [begun]
  have planned : e₁.place.plan env k = s.statementPlan env k := by
    have course := cspsInit_course e k multi
    rw [init] at course
    rw [statementPlan, ← here.same, ← here.course]
    cases standing : e.course.begun e.stmt.query k with
    | none =>
      rw [standing] at course
      cases course
    | some course' =>
      rw [standing] at course
      obtain ⟨e', same, standing', -⟩ := course
      obtain rfl := some.inj same
      dsimp only
      rw [← standing', ← query]
      rfl
  have single : e₁.rewriteInsert env = false := by simp [rewriteInsert, query, multi]
  have follows : Follows env e₁ (s.statementPlan env k) (cspsLoop env k e₁) :=
    planned ▸ cspsLoop_follows k
  rw [cspsStatement, multi, if_pos rfl, init]
  dsimp only
  rw [cspsRows_eq, single]
  generalize cspsLoop env k e₁ = flow at follows
  generalize s.statementPlan env k = plan at follows
  cases follows with
  | leave answered core => exact statementLeft batch inside begun (.of_failed core)
  | @next slots queries e₂ answered core =>
    have rows : RowsObserved queries e₁.stmt e₂.stmt := .of_core core
    have several : e₂.stmt.multiStmts.isSome = true := by
      rw [rows.multiStmts, begun]
      exact batch.named ▸ rfl
    have receives := cspsReceiveStatementResults_receives env several
    have multi' : (e₂.cspsReceiveStatementResults env).stmt.query.isMultiStmt = true := by
      rw [receives.query, rows.query, query, multi]
    obtain ⟨after, done⟩ := statementDone batch inside begun rows receives (cspsNext_batch k multi')
    exact ⟨after, queries, answered, done⟩

/-! ### All statements -/

/-- **The rule of a batch**: what each statement keeps or brings about holds behind the last one. -/
theorem cspsStatements_batch {s : Stmt} (property : Nat → Stmt → Prop) (batch : e.stmt.Batch ids)
    (here : At s 0 e) (start : property 0 e.stmt)
    (step : ∀ k < ids.length, ∀ s₁ s₂ queries, s₁.Batch ids → property k s₁ →
      Answered env (s.statementPlan env k).slots queries → StatementDone env ids k queries s₁ s₂ →
      property (k + 1) s₂) :
    (forEach (cspsStatement env) (range s.query.stmtCount) e).All
      (fun e' => e'.stmt.Batch ids ∧ property ids.length e'.stmt) (fun e' => e'.stmt.Batch ids) := by
  have count : s.query.stmtCount = ids.length := by rw [batch.length, here.same]
  have round : ∀ k e', 0 ≤ k → k < 0 + ids.length →
      (At s k e' ∧ e'.stmt.Batch ids ∧ property k e'.stmt) →
      (cspsStatement env k e').All
        (fun e'' => At s (k + 1) e'' ∧ e''.stmt.Batch ids ∧ property (k + 1) e''.stmt)
        (fun e'' => e''.stmt.Batch ids) := by
    rintro k e' - within ⟨arrived, before, kept⟩
    rw [Nat.zero_add] at within
    have walks : Walks env s e' (k + 1) (s.statementPlan env k) (cspsStatement env k e') :=
      cspsStatement_walks arrived
    have statement : (cspsStatement env k e').All
        (fun e'' => e''.stmt.Batch ids ∧ ∃ queries, Answered env (s.statementPlan env k).slots queries ∧
          StatementDone env ids k queries e'.stmt e''.stmt)
        (fun e'' => e''.stmt.Batch ids) :=
      cspsStatement_batch before within arrived
    have next := step k within e'.stmt
    generalize s.statementPlan env k = plan at walks statement next
    generalize cspsStatement env k e' = flow at walks statement
    cases walks with
    | next _ _ arrived' =>
      obtain ⟨after, queries, answered, done⟩ := statement
      exact ⟨arrived', after, next _ queries before kept answered done⟩
    | leave => exact statement
  rw [range_eq_range', count]
  have loop := forEach_range'_rule
    (fun k e' => At s k e' ∧ e'.stmt.Batch ids ∧ property k e'.stmt) round ⟨here, batch, start⟩
  rw [Nat.zero_add] at loop
  exact loop.imp (fun _ both => both.2) fun _ left => left

/-- The handle as the statements find it. -/
def begunCsps (s : Stmt) : Stmt :=
  ({ s.emit .lock with affectedRows := 0, rowsProcessed := s.rowsProcessed.map fun _ => 0 } :
    Stmt).modifyHandle fun handle => { handle with affectedRows := 0 }

theorem executeCsps_begun (env : Env) (s : Stmt) :
    executeCsps env s =
      match forEach (cspsStatement env) (range s.query.stmtCount) { stmt := begunCsps s } with
      | .leave e => e
      | .next e => { e with stmt := cspsFinish e.stmt } := rfl

theorem begunCsps_at (s : Stmt) : At s 0 { stmt := begunCsps s } := ⟨rfl, rfl⟩

theorem begunCsps_batch {s : Stmt} (batch : s.Batch ids) :
    (begunCsps s).Batch ids ∧
      ∀ k < ids.length, (begunCsps s).batchResult k = s.batchResult k ∧
        (begunCsps s).batchHandle ids k =
          if s.stmt = ids.getD k 0 then { s.batchHandle ids k with affectedRows := 0 }
          else s.batchHandle ids k := by
  have handles : ∀ id, (begunCsps s).handles[id]? = (s.handles[id]?).map fun handle =>
      if s.stmt = id then { handle with affectedRows := 0 } else handle := by
    intro id
    exact getElem?_modify _ _ _ _
  have query : (begunCsps s).query = s.query := rfl
  obtain ⟨begun, own⟩ := batch_of_handles batch query rfl handles rfl fun k inside columns => by
    refine batch.columns k inside fun none => columns ?_
    split
    · exact none
    · exact none
  exact ⟨begun, fun k inside => ⟨rfl, own k inside⟩⟩

theorem cspsFinish_batch {s : Stmt} (batch : s.Batch ids) :
    cspsFinish s = { ({ s with multiStmtNr := 0 } : Stmt).installStmt (ids.getD 0 0) with
      cspsResult := s.batchResult 0
      state := .executed } := by
  have some : 0 < ids.length := by
    have multi := batch.multi
    rw [Query.isMultiStmt, decide_eq_true_iff] at multi
    rw [batch.length]
    omega
  have first : ((ids.map Option.some).headD none).getD 0 = ids.getD 0 0 := by
    obtain ⟨id, rest, rfl⟩ := exists_cons_of_length_pos some
    rfl
  have result : s.cspsMultiStmtResult.headD none = s.batchResult 0 := by
    obtain ⟨result, rest, cut⟩ := exists_cons_of_length_pos (batch.results ▸ some)
    rw [batchResult, cut]
    rfl
  rw [cspsFinish, batch.named]
  dsimp only
  rw [first, result]

end Exec

theorem Stmt.Batch.of_same {ids : List Nat} {s : Stmt} (batch : s.Batch ids)
    (query : s'.query = s.query) (multiStmts : s'.multiStmts = s.multiStmts)
    (handles : s'.handles = s.handles) (results : s'.cspsMultiStmtResult = s.cspsMultiStmtResult) :
    s'.Batch ids := by
  refine (Exec.batch_of_handles (f := fun _ => id) batch query multiStmts (fun id => ?_)
    (results ▸ rfl) fun k inside columns => ?_).1
  · rw [handles, Option.map_id_fun, id_eq]
  · rw [batchResult, results]
    exact batch.columns k inside columns

namespace Exec

variable {env : Env} {ids : List Nat}

/-- **A batch on the client side.** -/
theorem executeCsps_batch {s : Stmt} (property : Nat → Stmt → Prop) (batch : s.Batch ids)
    (start : property 0 (begunCsps s))
    (step : ∀ k < ids.length, ∀ s₁ s₂ queries, s₁.Batch ids → property k s₁ →
      Answered env (s.statementPlan env k).slots queries → StatementDone env ids k queries s₁ s₂ →
      property (k + 1) s₂) :
    (executeCsps env s).stmt.Batch ids ∧
      ((s.plan env).stop = none → ∃ s₁ : Stmt, s₁.Batch ids ∧ property ids.length s₁ ∧
        (executeCsps env s).stmt = cspsFinish s₁) := by
  have loop : (forEach (cspsStatement env) (range s.query.stmtCount) { stmt := begunCsps s }).All
      (fun e' => e'.stmt.Batch ids ∧ property ids.length e'.stmt) (fun e' => e'.stmt.Batch ids) :=
    cspsStatements_batch property (begunCsps_batch batch).1 (begunCsps_at s) start step
  have walks : Walks env s { stmt := begunCsps s } (0 + s.query.stmtCount) (s.plan env)
      (forEach (cspsStatement env) (range s.query.stmtCount) { stmt := begunCsps s }) := by
    rw [plan, range_eq_range']
    exact cspsStatements_walk (begunCsps_at s)
  rw [executeCsps_begun]
  generalize forEach (cspsStatement env) (range s.query.stmtCount) { stmt := begunCsps s } = flow
    at loop walks
  generalize s.plan env = plan at walks
  cases walks with
  | leave => exact ⟨loop, by rintro ⟨⟩⟩
  | @next slots events e _ _ _ =>
    refine ⟨?_, fun _ => ⟨e.stmt, loop.1, loop.2, rfl⟩⟩
    dsimp only
    rw [cspsFinish_batch loop.1]
    exact loop.1.of_same rfl rfl rfl rfl

end Exec

end MaOdbc
