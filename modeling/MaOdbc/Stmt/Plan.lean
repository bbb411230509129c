/-
**The plan of a client-side execution.**

What the loops of the client side send does not depend on the answers: a statement has a list of queries,
each with the texts built for it, up to its end or to the first parameter that cannot be inserted.
`Place.plan` says which. **`cspsLoop_follows`**: the loops over the rows of a statement follow its plan,
and what they do to the handle is what the events of the trace tell.
-/

import MaOdbc.Stmt.Execute

namespace MaOdbc

open List

/-! ### Plans -/

structure Build where
  nr : Nat
  row : Nat
  paramOffset : Nat
  paramCount : Nat
  text : Text

def Build.event (build : Build) : Event :=
  .built build.nr build.row build.paramOffset build.paramCount build.text

/-- A query: the texts built for it, its own text, and what it is for. -/
structure Slot where
  builds : List Build
  query : Text
  purpose : Purpose

/-- Queries in their order. A plan may stop short, with the texts built since the last query and the
failure. -/
structure Plan where
  slots : List Slot := []
  stop : Option (List Build × Failure) := none

namespace Plan

def andThen (first second : Plan) : Plan :=
  match first.stop with
  | some _ => first
  | none => { second with slots := first.slots ++ second.slots }

def seq (plans : List Plan) : Plan := plans.foldr andThen {}

theorem seq_singleton (plan : Plan) : Plan.seq [plan] = plan := by
  obtain ⟨slots, stop⟩ := plan
  cases stop with
  | none => exact congrArg (Plan.mk · none) (append_nil slots)
  | some stop => rfl

theorem stop_of_seq {plans : List Plan} (done : (Plan.seq plans).stop = none) :
    ∀ plan ∈ plans, plan.stop = none := by
  induction plans with
  | nil => exact fun plan member => absurd member not_mem_nil
  | cons plan plans ih =>
    rw [Plan.seq, foldr_cons, ← Plan.seq, andThen] at done
    cases stop : plan.stop with
    | some stop' =>
      rw [stop] at done
      exact absurd (stop.symm.trans done) (Option.some_ne_none stop')
    | none =>
      rw [stop] at done
      exact forall_mem_cons.mpr ⟨stop, ih done⟩

end Plan

open Plan

structure Place where
  query : Query
  curQuery : Nat
  paramOffset : Nat
  paramCount : Nat

def Exec.place (e : Exec) : Place where
  query := e.stmt.query
  curQuery := e.curQuery
  paramOffset := e.paramOffset
  paramCount := e.paramCount

namespace Place

variable (env : Env) (place : Place)

def statement : Text := cstr (place.query.refinedText.drop place.curQuery)

def build (row : Nat) : Except Failure Text :=
  insertParams env place.query place.curQuery row place.paramOffset place.paramCount

def built (nr row : Nat) (text : Text) : Build where
  nr := nr
  row := row
  paramOffset := place.paramOffset
  paramCount := place.paramCount
  text := text

def rowCount : Nat := if 0 < place.paramCount then env.arraySize else 1

def rowPlan (nr row : Nat) : Plan :=
  if env.ignored row then {}
  else
    match place.build env row with
    | .error failure => { stop := some ([], failure) }
    | .ok text =>
      { slots := [
          { builds := [place.built nr row text]
            query := text
            purpose := { statement := place.statement, pairs := [(nr, row)] } }] }

/-- The number of rows in a combined `INSERT`. -/
def rowsInBatch : Nat := Exec.maxParams / place.paramCount

def valuesOffset : Nat := place.query.findToken (lit "VALUES") + 6

/-- What a row adds to a combined `INSERT`. -/
def tuple (row : Nat) (text : Text) : Text :=
  if 0 < text.length then
    (if row % place.rowsInBatch = 0 then [] else lit ",") ++ cstr (text.drop place.valuesOffset)
  else []

/-- The rows of a combined `INSERT`: what is built for them and what they add. -/
def combine : List Nat → Except (List Build × Failure) (List Build × Text)
  | [] => .ok ([], [])
  | row :: rows =>
    if env.ignored row then combine rows
    else
      match place.build env row with
      | .error failure => .error ([], failure)
      | .ok text =>
        match combine rows with
        | .error (builds, failure) => .error (place.built 0 row text :: builds, failure)
        | .ok (builds, tuples) => .ok (place.built 0 row text :: builds, place.tuple row text ++ tuples)

def batchRows (batchNum : Nat) : List Nat :=
  (List.range' (batchNum * place.rowsInBatch) place.rowsInBatch).filter (· < place.rowCount env)

def beforeTuples : Text := ((place.query.token 0).getD []).take place.valuesOffset

/-- A combined `INSERT`. -/
def batchPlan (batchNum : Nat) : Plan :=
  match place.combine env (place.batchRows env batchNum) with
  | .error stop => { stop := some stop }
  | .ok (builds, tuples) =>
    { slots := [
        { builds := builds
          query := place.beforeTuples ++ tuples
          purpose :=
            { statement := place.statement
              pairs := ((place.batchRows env batchNum).filter (!env.ignored ·)).map (0, ·) } }] }

def rewrites : Bool :=
  decide (1 < place.rowCount env) && place.query.queryType == .insert &&
    place.query.findToken (lit "VALUES") != 0 && place.query.findToken (lit "RETURNING") == 0 &&
    decide (place.query.findToken (lit "VALUES") < place.query.findToken (lit "?")) &&
    place.query.findToken (lit "ON DUPLICATE KEY UPDATE") == 0 && !place.query.isMultiStmt

def batchCount : Nat := (place.rowCount env + place.rowsInBatch - 1) / place.rowsInBatch

def plan (nr : Nat) : Plan :=
  if place.rewrites env then
    seq ((List.range (place.batchCount env)).map (place.batchPlan env))
  else seq ((List.range (place.rowCount env)).map (place.rowPlan env nr))

end Place

/-- The events of planned queries: what was built, and the query with its answer. -/
inductive Answered (env : Env) : List Slot → List Event → Prop
  | nil : Answered env [] []
  | cons {slot : Slot} {slots : List Slot} {events : List Event} (position : Nat) :
      Answered env slots events →
      Answered env (slot :: slots)
        (slot.builds.map Build.event ++ .asked (.query slot.query) slot.purpose
          (env.server (.query slot.query) position) :: events)

theorem Answered.append {env : Env} {slots slots' : List Slot} {events events' : List Event}
    (first : Answered env slots events) (second : Answered env slots' events') :
    Answered env (slots ++ slots') (events ++ events') := by
  induction first with
  | nil => exact second
  | cons position _ ih =>
    rw [append_assoc]
    exact .cons position ih

/-! ### What events do -/

namespace Exec

/-- What an event of the loops does to the handle and the local variables. -/
def observe (e : Exec) (event : Event) : Exec :=
  let s := e.stmt.emit event
  match event with
  | .built .. => { e with stmt := s, ret := .success }
  | .asked (.query _) _ (.failed native) =>
    let error := Diag.setNativeError native
    { e with
      stmt := { s with error := error, connFieldCount := 0 }
      ret := error.returnValue
      errorCount := e.errorCount + 1 }
  | .asked (.query _) _ (.ok outcome) =>
    let s := { s with connFieldCount := outcome.fieldCount }
    { e with
      ret := .success
      stmt :=
        if outcome.fieldCount = 0 then
          s.modifyHandle fun handle =>
            { handle with affectedRows := handle.affectedRows + outcome.affectedRows }
        else s }
  | _ => { e with stmt := s }

/-- The execution without what only the application and the binding of parameters see. -/
def core (e : Exec) : Exec :=
  { e with stmt := { e.stmt with rebindParams := false, rowsProcessed := none, ipdStatus := none } }

/-- The execution where a parameter could not be inserted. -/
def failed (e : Exec) (failure : Failure) : Exec :=
  { e with stmt := e.stmt.fail failure, ret := failure.ret }

def still (e : Exec) : Exec :=
  { e with
    ret := .success
    errorCount := 0
    stmt := { e.stmt with error := {}, connFieldCount := 0, handles := [], trace := [] } }

theorem still_observe (e : Exec) (event : Event) : (e.observe event).still = e.still := by
  unfold observe
  split
  · rfl
  · rfl
  · dsimp only
    split
    · rfl
    · rfl
  · rfl

theorem still_foldl_observe (e : Exec) (events : List Event) :
    (events.foldl observe e).still = e.still := by
  induction events generalizing e with
  | nil => rfl
  | cons event events ih => rw [foldl_cons, ih, still_observe]

theorem place_of_still {e e' : Exec} (same : e'.still = e.still) : e'.place = e.place := by
  have query : e'.stmt.query = e.stmt.query := congrArg (·.stmt.query) same
  have paramCount : e'.stmt.paramCount = e.stmt.paramCount := congrArg (·.stmt.paramCount) same
  have curQuery : e'.curQuery = e.curQuery := congrArg (·.curQuery) same
  have paramOffset : e'.paramOffset = e.paramOffset := congrArg (·.paramOffset) same
  rw [place, place, Exec.paramCount, Exec.paramCount, query, paramCount, curQuery, paramOffset]

theorem core_observe (e : Exec) (event : Event) : (e.observe event).core = e.core.observe event := by
  unfold observe
  split
  · rfl
  · rfl
  · dsimp only
    split
    · rfl
    · rfl
  · rfl

theorem place_core (e : Exec) : e.core.place = e.place := rfl

/-! ### The functions -/

variable (env : Env) (e : Exec)

theorem cspsRunStatementQuery_eq (query : Text) (purpose : Purpose) :
    e.cspsRunStatementQuery env query purpose =
      e.observe (.asked (.query query) purpose (env.server (.query query) e.stmt.trace.length)) := by
  rcases answered : e.stmt.ask env (.query query) purpose with ⟨answer, s⟩
  have same : answer = env.server (.query query) e.stmt.trace.length := congrArg Prod.fst answered.symm
  have after : s = e.stmt.emit (.asked (.query query) purpose answer) := by
    rw [same]
    exact congrArg Prod.snd answered.symm
  rw [← same, cspsRunStatementQuery, answered]
  cases answer with
  | failed | ok => rw [after]; rfl

theorem cspsInitStatementParams_ignored (nr : Nat) {row : Nat} (ignored : env.ignored row = true) :
    ∃ e', e.cspsInitStatementParams env nr row = .skip e' ∧ e'.core = e.core := by
  rw [cspsInitStatementParams, if_pos ignored]
  exact ⟨_, rfl, rfl⟩

theorem cspsInitStatementParams_failed (nr : Nat) {row : Nat} (taken : env.ignored row = false)
    {failure : Failure} (build : e.place.build env row = .error failure) :
    ∃ e', e.cspsInitStatementParams env nr row = .failed e' ∧ e'.core = e.core.failed failure := by
  have inserted : insertParams env e.stmt.countRow.query e.curQuery row e.paramOffset e.paramCount =
      .error failure := build
  rw [cspsInitStatementParams, if_neg (by simp [taken])]
  simp only [inserted]
  exact ⟨_, rfl, rfl⟩

theorem cspsInitStatementParams_built (nr : Nat) {row : Nat} (taken : env.ignored row = false)
    {text : Text} (build : e.place.build env row = .ok text) :
    ∃ e', e.cspsInitStatementParams env nr row = .ok e' text ∧
      e'.core = e.core.observe (e.place.built nr row text).event := by
  have inserted : insertParams env e.stmt.countRow.query e.curQuery row e.paramOffset e.paramCount =
      .ok text := build
  rw [cspsInitStatementParams, if_neg (by simp [taken])]
  simp only [inserted]
  exact ⟨_, rfl, rfl⟩

theorem core_rowStatus (row : Nat) : (e.rowStatus env row).core = e.core := by
  rw [rowStatus]
  split
  · rfl
  · rfl

theorem core_batchStatuses (rows : List Nat) :
    (rows.foldl (fun e row => e.batchStatus env row) e).core = e.core := by
  induction rows generalizing e with
  | nil => rfl
  | cons row rows ih =>
    rw [foldl_cons, ih, batchStatus]
    split
    · rfl
    · rfl

/-! ### Following a plan -/

/-- A loop follows a plan: it sends the queries of the plan, and stops where the plan stops. -/
inductive Follows (env : Env) (e : Exec) : Plan → Flow Exec Exec → Prop
  | next {slots : List Slot} {events : List Event} {e' : Exec} : Answered env slots events →
      e'.core = events.foldl observe e.core → Follows env e ⟨slots, none⟩ (.next e')
  | leave {slots : List Slot} {events : List Event} {builds : List Build} {failure : Failure}
      {e' : Exec} : Answered env slots events →
      e'.core = ((events ++ builds.map Build.event).foldl observe e.core).failed failure →
      Follows env e ⟨slots, some (builds, failure)⟩ (.leave e')

variable {env e}

theorem place_of_core {e' : Exec} {events : List Event} (core : e'.core = events.foldl observe e.core) :
    e'.place = e.place := by
  rw [← place_core e', core]
  exact (place_of_still (still_foldl_observe e.core events)).trans (place_core e)

theorem forEach_follows {α : Type*} {body : α → Exec → Flow Exec Exec} {plan : α → Plan}
    {items : List α}
    (step : ∀ item ∈ items, ∀ e', e'.place = e.place → Follows env e' (plan item) (body item e')) :
    Follows env e (seq (items.map plan)) (forEach body items e) := by
  induction items generalizing e with
  | nil => exact .next .nil rfl
  | cons item items ih =>
    have first := step item mem_cons_self e rfl
    rw [map_cons, seq, foldr_cons, ← seq, forEach_cons, andThen]
    generalize taken : body item e = flow at first
    generalize chosen : plan item = planned at first
    cases first with
    | leave answered core => exact .leave answered core
    | next answered core =>
      have same := place_of_core core
      have rest := ih fun item member e' place =>
        step item (mem_cons_of_mem _ member) e' (place.trans same)
      dsimp only
      generalize seq (items.map plan) = more at rest
      generalize forEach body items _ = flow at rest
      cases rest with
      | leave answered' core' =>
        refine .leave (answered.append answered') ?_
        rw [core', core, append_assoc, foldl_append, foldl_append, foldl_append]
      | next answered' core' =>
        refine .next (answered.append answered') ?_
        rw [core', core, foldl_append]

theorem cspsRow_follows (nr row : Nat) :
    Follows env e (e.place.rowPlan env nr row) (cspsRow env nr row e) := by
  rw [Place.rowPlan, cspsRow]
  cases ignored : env.ignored row with
  | true =>
    obtain ⟨e', init, core⟩ := cspsInitStatementParams_ignored env e nr ignored
    rw [init, if_pos rfl]
    exact .next .nil core
  | false =>
    rw [if_neg Bool.false_ne_true]
    cases build : e.place.build env row with
    | error failure =>
      obtain ⟨e', init, core⟩ := cspsInitStatementParams_failed env e nr ignored build
      rw [init]
      exact .leave .nil core
    | ok text =>
      obtain ⟨e', init, core⟩ := cspsInitStatementParams_built env e nr ignored build
      have same : e'.place = e.place :=
        place_of_core (show e'.core = [(e.place.built nr row text).event].foldl observe e.core from core)
      have statement : e'.curText = e.place.statement := congrArg Place.statement same
      rw [init]
      refine .next (.cons e'.stmt.trace.length .nil) ?_
      rw [core_rowStatus, cspsRunStatementQuery_eq, core_observe, core, statement]
      rfl

theorem combineRows_follow (env : Env) (rows : List Nat) (c : Combining) :
    match c.exec.place.combine env rows with
    | .error (builds, failure) =>
      ∃ e', forEach (combineRow env) rows c = .leave e' ∧
        e'.core = ((builds.map Build.event).foldl observe c.exec.core).failed failure
    | .ok (builds, tuples) =>
      ∃ c', forEach (combineRow env) rows c = .next c' ∧ c'.query = c.query ++ tuples ∧
        c'.exec.core = (builds.map Build.event).foldl observe c.exec.core := by
  induction rows generalizing c with
  | nil => exact ⟨c, rfl, (append_nil _).symm, rfl⟩
  | cons row rows ih =>
    rw [Place.combine, forEach_cons, combineRow]
    cases ignored : env.ignored row with
    | true =>
      obtain ⟨e', init, core⟩ := cspsInitStatementParams_ignored env c.exec 0 ignored
      have same : e'.place = c.exec.place := by rw [← place_core e', core, place_core]
      have rest := ih { c with exec := e' }
      rw [same, core] at rest
      rw [init, if_pos rfl]
      exact rest
    | false =>
      rw [if_neg Bool.false_ne_true]
      cases build : c.exec.place.build env row with
      | error failure =>
        obtain ⟨e', init, core⟩ := cspsInitStatementParams_failed env c.exec 0 ignored build
        rw [init]
        exact ⟨e', rfl, core⟩
      | ok text =>
        obtain ⟨e', init, core⟩ := cspsInitStatementParams_built env c.exec 0 ignored build
        have same : e'.place = c.exec.place := place_of_core
          (show e'.core = [(c.exec.place.built 0 row text).event].foldl observe c.exec.core from core)
        have added : (if 0 < text.length then
            c.query ++ (if row % e'.rowsInBatch = 0 then [] else lit ",") ++
              cstr (text.drop e'.valuesOffset)
            else c.query) = c.query ++ c.exec.place.tuple row text := by
          have rowsInBatch : e'.rowsInBatch = c.exec.place.rowsInBatch :=
            congrArg Place.rowsInBatch same
          have valuesOffset : e'.valuesOffset = c.exec.place.valuesOffset :=
            congrArg Place.valuesOffset same
          rw [Place.tuple, rowsInBatch, valuesOffset]
          split
          · rw [append_assoc]
          · rw [append_nil]
        have rest := ih { exec := e', query := c.query ++ c.exec.place.tuple row text }
        rw [same, core] at rest
        rw [init]
        dsimp only
        rw [added]
        cases combined : c.exec.place.combine env rows with
        | error stop =>
          rw [combined] at rest
          exact rest
        | ok made =>
          rw [combined] at rest
          obtain ⟨c', ended, query, core'⟩ := rest
          exact ⟨c', ended, by rw [query, append_assoc], core'⟩

theorem place_rowCount : e.place.rowCount env = e.numParamRows env := by
  have same : 0 < e.place.paramCount ↔ 0 < e.stmt.paramCount := Int.lt_toNat
  rw [Place.rowCount, numParamRows]
  simp only [same]

theorem place_rewrites : e.place.rewrites env = e.rewriteInsert env := by
  rw [Place.rewrites, place_rowCount]
  rfl

theorem place_batchRows (batchNum : Nat) :
    e.place.batchRows env batchNum = e.batchRows env batchNum := by
  rw [Place.batchRows, place_rowCount]
  rfl

theorem place_batchCount : e.place.batchCount env = e.batchCount env := by
  rw [Place.batchCount, place_rowCount]
  rfl

theorem cspsBatch_follows (batchNum : Nat) :
    Follows env e (e.place.batchPlan env batchNum) (cspsBatch env batchNum e) := by
  have rows := combineRows_follow env (e.batchRows env batchNum)
    ⟨e, ((e.stmt.query.token 0).getD []).take e.valuesOffset⟩
  rw [Place.batchPlan, cspsBatch, place_batchRows]
  dsimp only at rows ⊢
  cases combined : e.place.combine env (e.batchRows env batchNum) with
  | error stop =>
    rw [combined] at rows
    obtain ⟨e', ended, core⟩ := rows
    rw [ended]
    exact .leave .nil core
  | ok made =>
    rw [combined] at rows
    obtain ⟨c, ended, query, core⟩ := rows
    rw [ended]
    refine .next (.cons c.exec.stmt.trace.length .nil) ?_
    rw [core_batchStatuses, cspsRunStatementQuery_eq, core_observe, core, foldl_append, query]
    rfl

def cspsLoop (env : Env) (nr : Nat) (e : Exec) : Flow Exec Exec :=
  if e.rewriteInsert env then forEach (cspsBatch env) (List.range (e.batchCount env)) e
  else forEach (cspsRow env nr) (List.range (e.numParamRows env)) e

def afterLoop (env : Env) (rewritten : Bool) (rows : Nat) (e : Exec) : Exec :=
  if rewritten then
    { e with
      stmt := { e.stmt with affectedRows := e.stmt.handle.affectedRows }
      errorCount := if e.ret = .error then rows else e.errorCount }
  else e.cspsReceiveStatementResults env

theorem cspsRows_eq (nr : Nat) :
    (if e.rewriteInsert env then e.cspsRewritten env else e.cspsRowByRow env nr) =
      match cspsLoop env nr e with
      | .leave exit => .leave exit
      | .next e' => .next (e'.afterLoop env (e.rewriteInsert env) (e.numParamRows env)) := by
  cases rewritten : e.rewriteInsert env with
  | true | false =>
    rw [cspsLoop, rewritten]
    rfl

/-- **The loops of a statement follow its plan.** -/
theorem cspsLoop_follows (nr : Nat) : Follows env e (e.place.plan env nr) (cspsLoop env nr e) := by
  rw [Place.plan, cspsLoop, place_rewrites, place_batchCount, place_rowCount]
  split
  · refine forEach_follows fun batchNum _ e' same => ?_
    rw [← same]
    exact cspsBatch_follows batchNum
  · refine forEach_follows fun row _ e' same => ?_
    rw [← same]
    exact cspsRow_follows nr row

/-! ### What the other steps of a statement change -/

theorem cspsInit_eq {nr : Nat} (init : e.cspsInitStatementFromMultistatement nr = some e') :
    ∃ posId stmt handles multiStmts results result count, e' = { e with
      paramPosId := posId
      stmt := { e.stmt with
        stmt := stmt, handles := handles, multiStmts := multiStmts, cspsMultiStmtResult := results
        cspsResult := result, rebindParams := true, paramCount := count } } := by
  rw [cspsInitStatementFromMultistatement] at init
  split at init
  · cases init
    exact ⟨_, _, _, _, _, _, _, rfl⟩
  · split at init
    · cases init
    · cases init
      split
      · exact ⟨_, _, _, _, _, _, _, rfl⟩
      · exact ⟨_, _, _, _, _, _, _, rfl⟩

theorem cspsFreeResult_eq (s : Stmt) :
    ∃ handles result, cspsFreeResult s = { s with handles := handles, cspsResult := result } := by
  rw [cspsFreeResult]
  split
  · exact ⟨_, _, rfl⟩
  · exact ⟨s.handles, s.cspsResult, rfl⟩

theorem cspsReceiveStatementResults_cases (env : Env) (e : Exec) :
    ∃ handles result rows,
      let s : Stmt := { e.stmt with handles := handles, cspsResult := result, affectedRows := rows }
      let asked := s.emit (.asked .storeResult {} (env.server .storeResult e.stmt.trace.length))
      e.cspsReceiveStatementResults env = { e with stmt := s } ∨
        match env.server .storeResult e.stmt.trace.length with
        | .ok _ => e.cspsReceiveStatementResults env = { e with stmt := asked }
        | .failed native => e.cspsReceiveStatementResults env = { e with
            stmt := { asked with error := Diag.setError .errHY001 (some native.message) native.errno }
            ret := .error } := by
  obtain ⟨handles, result, freed⟩ := cspsFreeResult_eq e.stmt
  rw [cspsReceiveStatementResults, freed, Stmt.ask]
  dsimp only
  split
  · cases env.server .storeResult e.stmt.trace.length with
    | failed native => exact ⟨handles, result, e.stmt.affectedRows, .inr rfl⟩
    | ok outcome => exact ⟨_, _, e.stmt.affectedRows, .inr rfl⟩
  · split
    · exact ⟨handles, result, _, .inl rfl⟩
    · exact ⟨handles, result, e.stmt.affectedRows, .inl rfl⟩

theorem cspsFinish_eq (s : Stmt) : ∃ stmt nr result rows, cspsFinish s =
    { s with stmt := stmt, multiStmtNr := nr, cspsResult := result, affectedRows := rows, state := .executed } := by
  unfold cspsFinish
  split
  · exact ⟨_, _, _, _, rfl⟩
  · by_cases columns : 0 < s.handle.fieldCount
    · exact ⟨s.stmt, s.multiStmtNr, s.cspsResult, -1, by rw [if_pos columns]⟩
    · exact ⟨s.stmt, s.multiStmtNr, s.cspsResult, s.affectedRows, by rw [if_neg columns]⟩

/-- **What a statement keeps**: what its start and its loops keep. -/
theorem cspsStatement_keeps {property : Exec → Prop} (before : property e) (nr : Nat)
    (init : ∀ e', e.cspsInitStatementFromMultistatement nr = some e' → property e')
    (leaves : ∀ e' e'', property e' → Follows env e' (e'.place.plan env nr) (.leave e'') → property e'')
    (goes : ∀ e' e'', property e' → Follows env e' (e'.place.plan env nr) (.next e'') →
      property ((e''.afterLoop env (e'.rewriteInsert env) (e'.numParamRows env)).cspsNext nr)) :
    (cspsStatement env nr e).All property property := by
  rw [cspsStatement]
  split
  · exact before
  · rename_i e' begun
    have start : property e' := by
      split at begun
      · exact init e' begun
      · cases begun
        exact before
    have follows : Follows env e' (e'.place.plan env nr) (cspsLoop env nr e') := cspsLoop_follows nr
    rw [cspsRows_eq]
    cases ended : cspsLoop env nr e' with
    | leave e'' => exact leaves e' e'' start (ended ▸ follows)
    | next e'' => exact goes e' e'' start (ended ▸ follows)

end Exec

end MaOdbc
