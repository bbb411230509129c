/-
**Plain executions on the client side.**

A call of `MADB_StmtExecute` that is neither emulated nor positioned runs the client-side part once. It
runs again, with the text as it was given, only after error 1295; where neither the server nor a
parameter reports that error, the call sends its plan and returns.
-/

import MaOdbc.Stmt.Prepared

namespace MaOdbc

open List Exec

/-- Neither the server nor a parameter reports that preparing is not supported. -/
structure Env.Supports (env : Env) : Prop where
  server : ∀ request position native, env.server request position = .failed native →
    native.errno ≠ unsupportedPs
  literal : ∀ i row failure error, env.literal i row = .error failure → failure.error = some error →
    error.nativeError ≠ unsupportedPs

def Failure.Supported (failure : Failure) : Prop :=
  ∀ error, failure.error = some error → error.nativeError ≠ unsupportedPs

variable {failure : Failure} {place : Place} {builds : List Build} {nr : Nat} {e' : Exec}

section Failures

variable {env : Env} (supports : env.Supports)
include supports

theorem insertNext_supported (query : Query) (row i : Nat) (building : Building) :
    (insertNext env query row i building).All (fun _ => True) Failure.Supported := by
  rw [insertNext]
  split
  · trivial
  · intro error same
    cases same
    decide
  · dsimp only
    split
    · rename_i failure failed
      exact fun error same => supports.literal i row failure error failed same
    · trivial

theorem insertParams_supported {query : Query} {queryOffset row paramOffset paramCount : Nat}
    (failed : insertParams env query queryOffset row paramOffset paramCount = .error failure) :
    failure.Supported := by
  have loop : (forEach (insertNext env query row) (range' paramOffset paramCount)
      { query := queryOffset }).All (fun _ => True) Failure.Supported :=
    forEach_rule (fun _ _ => True) (fun _ i _ building _ _ => insertNext_supported supports query row i building)
      (nil_append _).symm trivial
  rw [insertParams] at failed
  split at failed
  · rename_i left
    cases failed
    rw [left] at loop
    exact loop
  · cases failed

theorem Place.combine_supported {rows : List Nat}
    (failed : place.combine env rows = .error (builds, failure)) : failure.Supported := by
  induction rows generalizing builds with
  | nil => cases failed
  | cons row rows ih =>
    rw [combine] at failed
    split at failed
    · exact ih failed
    · split at failed
      · rename_i build
        cases failed
        exact insertParams_supported supports build
      · split at failed
        · rename_i combined
          cases failed
          exact ih combined
        · cases failed

end Failures

theorem Plan.stop_seq {property : Failure → Prop} {plans : List Plan}
    (all : ∀ plan ∈ plans, ∀ builds failure, plan.stop = some (builds, failure) → property failure)
    (stop : (Plan.seq plans).stop = some (builds, failure)) : property failure := by
  induction plans with
  | nil => cases stop
  | cons plan plans ih =>
    rw [Plan.seq, foldr_cons, ← Plan.seq, Plan.andThen] at stop
    cases first : plan.stop with
    | some left =>
      simp only [first] at stop
      exact all plan mem_cons_self builds failure (first.trans stop)
    | none =>
      simp only [first] at stop
      exact ih (fun plan member => all plan (mem_cons_of_mem _ member)) stop

theorem Place.plan_supported {env : Env} (supports : env.Supports)
    (stop : (place.plan env nr).stop = some (builds, failure)) : failure.Supported := by
  rw [plan] at stop
  split at stop
  · refine Plan.stop_seq ?_ stop
    rw [forall_mem_map]
    intro batchNum _ builds failure stopped
    rw [batchPlan] at stopped
    split at stopped
    · rename_i left combined
      cases stopped
      exact combine_supported supports combined
    · cases stopped
  · refine Plan.stop_seq ?_ stop
    rw [forall_mem_map]
    intro row _ builds failure stopped
    rw [rowPlan] at stopped
    split at stopped
    · cases stopped
    · split at stopped
      · rename_i build
        cases stopped
        exact insertParams_supported supports build
      · cases stopped

namespace Exec

variable {env : Env} {e : Exec}

/-- The error recorded last is not that preparing is not supported. -/
def Supported (e : Exec) : Prop := e.stmt.error.nativeError ≠ unsupportedPs

theorem Supported.observe {event : Event} (before : e.Supported)
    (answered : ∀ text purpose native, event = .asked (.query text) purpose (.failed native) →
      native.errno ≠ unsupportedPs) : (e.observe event).Supported := by
  unfold Exec.observe
  split
  · exact before
  · exact answered _ _ _ rfl
  · dsimp only
    split
    · exact before
    · exact before
  · exact before

theorem Supported.built (before : e.Supported) (builds : List Build) :
    ((builds.map Build.event).foldl Exec.observe e).Supported := by
  induction builds generalizing e with
  | nil => exact before
  | cons build builds ih => exact ih (before.observe nofun)

theorem Supported.failed (before : e.Supported) (supported : failure.Supported) :
    (e.failed failure).Supported := by
  show (failure.error.getD e.stmt.error).nativeError ≠ unsupportedPs
  cases reported : failure.error with
  | none => exact before
  | some error => exact supported error reported

theorem Supported.answered (supports : env.Supports) {slots : List Slot} {events : List Event}
    (answered : Answered env slots events) (before : e.Supported) :
    (events.foldl Exec.observe e).Supported := by
  induction answered generalizing e with
  | nil => exact before
  | cons position _ ih =>
    rw [foldl_append, foldl_cons]
    refine ih ((before.built _).observe ?_)
    intro text purpose native same
    exact supports.server _ position native (Event.asked.inj same).2.2

theorem Supported.of_error (before : e.Supported) (same : e'.stmt.error = e.stmt.error) :
    e'.Supported := by
  rw [Supported, same]
  exact before

theorem cspsInit_error (init : e.cspsInitStatementFromMultistatement nr = some e') :
    e'.stmt.error = e.stmt.error := by
  obtain ⟨_, _, _, _, _, _, _, rfl⟩ := cspsInit_eq init
  rfl

theorem cspsNext_error (nr : Nat) : (e.cspsNext nr).stmt.error = e.stmt.error := by
  rw [cspsNext]
  split
  · rfl
  · rfl

theorem afterLoop_supported (supports : env.Supports) (before : e.Supported) (rewritten : Bool)
    (rows : Nat) : (e.afterLoop env rewritten rows).Supported := by
  rw [afterLoop]
  cases rewritten with
  | true => exact before
  | false =>
    rw [if_neg Bool.false_ne_true]
    obtain ⟨handles, result, rows, kept | asked⟩ := cspsReceiveStatementResults_cases env e
    · rw [kept]
      exact before
    · cases answered : env.server .storeResult e.stmt.trace.length with
      | failed native =>
        rw [answered] at asked
        rw [asked]
        exact supports.server _ _ native answered
      | ok outcome =>
        rw [answered] at asked
        rw [asked]
        exact before

theorem cspsStatement_supported (supports : env.Supports) (before : e.Supported) (nr : Nat) :
    (cspsStatement env nr e).All Supported Supported := by
  refine cspsStatement_keeps before nr (fun e' init => before.of_error (cspsInit_error init))
    (fun e' e'' begun follows => ?_) fun e' e'' begun follows => ?_
  · have stops : ∀ builds failure, (e'.place.plan env nr).stop = some (builds, failure) →
        failure.Supported := fun _ _ => Place.plan_supported supports
    generalize e'.place.plan env nr = planned at follows stops
    cases follows with
    | @leave slots events builds failure _ answered core =>
      have after : (events.foldl observe e'.core).Supported := .answered supports answered begun
      have left := (after.built builds).failed (stops builds failure rfl)
      rw [← foldl_append, ← core] at left
      exact left
  · generalize e'.place.plan env nr = planned at follows
    cases follows with
    | @next slots events _ answered core =>
      have loop : (events.foldl observe e'.core).Supported := .answered supports answered begun
      rw [← core] at loop
      have reached : e''.Supported := loop
      exact (afterLoop_supported supports reached _ _).of_error (cspsNext_error nr)

theorem executeCsps_supported (supports : env.Supports) {s : Stmt}
    (before : s.error.nativeError ≠ unsupportedPs) : (executeCsps env s).Supported := by
  have loop : ∀ e : Exec, e.Supported →
      (forEach (cspsStatement env) (range s.query.stmtCount) e).All Supported Supported :=
    fun _ begun => forEach_rule (fun _ e => Supported e)
      (fun _ nr _ _ _ before => cspsStatement_supported supports before nr) (nil_append _).symm begun
  rw [executeCsps]
  split
  · rename_i exit ended
    exact (congrArg (Flow.All Supported Supported) ended).mp (loop _ before)
  · rename_i e' ended
    have reached := (congrArg (Flow.All Supported Supported) ended).mp (loop _ before)
    obtain ⟨_, _, _, _, finished⟩ := cspsFinish_eq e'.stmt
    rw [finished]
    exact reached

end Exec

/-! ### The call -/

namespace Stmt

variable {env : Env} {s : Stmt}

structure Plain (env : Env) (s : Stmt) : Prop where
  client : s.sspsDisabled env = true
  notEmulated : s.state ≠ .emulated
  notPositioned : s.positionedCommand = false
  hasMemory : (!s.hasParams && !env.allocParams) = false

def entered (s : Stmt) : Stmt := { s.emit .enter with error := Diag.clear, hasParams := true }

/-- The return code of `MADB_StmtExecute`. -/
def returnCode (env : Env) (e : Exec) : SqlReturn :=
  if e.errorCount = 0 then e.ret
  else if e.errorCount < env.arraySize then .successWithInfo else .error

theorem executeEnd_eq (e : Exec) :
    executeEnd env e =
      if (returnCode env e).succeeded then (returnCode env e, e.stmt.emit .unlock)
      else if e.stmt.error.nativeError = unsupportedPs then
        { e.stmt.emit .unlock with state := .emulated }.executeEmulated env
      else (returnCode env e, e.stmt.emit .unlock) := rfl

theorem executePlain_client (client : s.sspsDisabled env = true)
    (hasMemory : (!s.hasParams && !env.allocParams) = false) :
    s.executePlain env = executeEnd env (executeCsps env { s with hasParams := true }) := by
  have same : { s with hasParams := true }.sspsDisabled env = true := client
  rw [executePlain, hasMemory, if_neg Bool.false_ne_true]
  dsimp only
  rw [if_pos same]

theorem stmtExecute_executePlain (state : s.state ≠ .emulated) (command : s.positionedCommand = false) :
    s.stmtExecute env = { s.emit .enter with error := Diag.clear }.executePlain env := by
  rw [stmtExecute]
  exact (if_neg state).trans (by simp only [emit, command])

theorem stmtExecute_plain (plain : s.Plain env) :
    s.stmtExecute env = executeEnd env (executeCsps env s.entered) := by
  rw [stmtExecute_executePlain plain.notEmulated plain.notPositioned]
  exact executePlain_client plain.client plain.hasMemory

theorem stmtExecute_succeeded (plain : s.Plain env)
    (succeeded : (returnCode env (executeCsps env s.entered)).succeeded = true) :
    s.stmtExecute env =
      (returnCode env (executeCsps env s.entered),
        (executeCsps env s.entered).stmt.emit .unlock) := by
  rw [stmtExecute_plain plain, executeEnd_eq, if_pos succeeded]

/-- **A plain call on the client side** runs the client-side part once. -/
theorem stmtExecute_client (supports : env.Supports) (plain : s.Plain env) :
    s.stmtExecute env =
      (returnCode env (executeCsps env s.entered),
        (executeCsps env s.entered).stmt.emit .unlock) := by
  have supported : (executeCsps env s.entered).stmt.error.nativeError ≠ unsupportedPs :=
    executeCsps_supported supports (show (0 : Nat) ≠ unsupportedPs by decide)
  rw [stmtExecute_plain plain, executeEnd_eq, if_neg supported, ite_self]

theorem executeEvents_client (laid : s.Laid) (supports : env.Supports) (plain : s.Plain env) :
    ∃ events, Sent env (s.query.plan env).slots events ∧
      s.executeEvents env =
        .enter :: .lock :: (events ++ (s.query.plan env).unsent ++ [.unlock]) := by
  have ready : s.entered.Laid := ⟨laid.query, laid.single⟩
  obtain ⟨events, sent, trace, -⟩ := executeCsps_walks env ready
  refine ⟨events, sent, ?_⟩
  have whole : (s.stmtExecute env).2.trace = s.trace ++
      .enter :: .lock :: (events ++ (s.query.plan env).unsent ++ [.unlock]) := by
    rw [stmtExecute_client supports plain]
    show (executeCsps env s.entered).stmt.trace ++ [.unlock] = _
    rw [trace]
    simp [entered, emit]
  rw [executeEvents, whole, drop_left]

end Stmt

end MaOdbc
