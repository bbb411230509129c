/-
**The end of transactions** (`MA_SQLEndTran` of `odbc_3_api.c` and `MADB_DbcEndTran` of `ma_connection.c`).

For an environment the function walks over its connections and ends the transaction of each. Every connection keeps
its own diagnostics; the function itself returns what it started with.

* `calls_walk`: each connection that is connected gets exactly one call, in the order of the list.
* `endTran_env_iff`: for which environments the return code tells what happened.
-/

import MaOdbc.Stmt.Error

namespace MaOdbc

namespace EndTran

/-- `SQL_COMMIT`. -/
def sqlCommit : Int16 := 0

/-- `SQL_ROLLBACK`. -/
def sqlRollback : Int16 := 1

/-- `MADB_Dbc`: the session with the server, if there is one, and the diagnostics. -/
structure Dbc where
  mariadb : Option Nat
  error : Diag := {}
  deriving DecidableEq, Repr

/-- A call of `mysql_commit` or `mysql_rollback`. -/
inductive Call
  | commit (session : Nat)
  | rollback (session : Nat)
  deriving DecidableEq, Repr

abbrev Server := Call → Option NativeError

variable (server : Server)

/-- A call for a connection, if it is connected, and what becomes of its diagnostics. -/
def attempt (call : Nat → Call) (dbc : Dbc) : List Call × Dbc :=
  match dbc.mariadb with
  | none => ([], dbc)
  | some session =>
    match server (call session) with
    | none => ([call session], dbc)
    | some native => ([call session], { dbc with error := Diag.setNativeError native })

/-- `MADB_DbcEndTran`: the calls, and the connection behind them. -/
def dbcEndTran (dbc : Dbc) (completionType : Int16) : List Call × Dbc :=
  let dbc := { dbc with error := Diag.clear }
  if completionType = sqlRollback then attempt server .rollback dbc
  else if completionType = sqlCommit then attempt server .commit dbc
  else ([], { dbc with error := Diag.setError .errHY012 none 0 })

def walk (completionType : Int16) : List Dbc → List Call × List Dbc
  | [] => ([], [])
  | dbc :: dbcs =>
    let (calls, dbc) := dbcEndTran server dbc completionType
    let (more, dbcs) := walk completionType dbcs
    (calls ++ more, dbc :: dbcs)

inductive Handle
  | env (dbcs : List Dbc)
  | dbc (dbc : Dbc)
  | other
  deriving DecidableEq, Repr

/-- `MA_SQLEndTran`: the return code, the calls, and what the handle stands for behind them. -/
def maSqlEndTran (handle : Handle) (completionType : Int16) : SqlReturn × List Call × Handle :=
  match handle with
  | .env dbcs =>
    let (calls, dbcs) := walk server completionType dbcs
    (.success, calls, .env dbcs)
  | .dbc dbc =>
    match dbc.mariadb with
    | none =>
      let dbc := { dbc with error := Diag.setError .err08002 none 0 }
      (dbc.error.returnValue, [], .dbc dbc)
    | some _ =>
      let (calls, dbc) := dbcEndTran server dbc completionType
      (dbc.error.returnValue, calls, .dbc dbc)
  | .other => (.success, [], .other)

/-! ### The calls -/

def callOf (completionType : Int16) (session : Nat) : Option Call :=
  if completionType = sqlRollback then some (.rollback session)
  else if completionType = sqlCommit then some (.commit session)
  else none

theorem calls_attempt (call : Nat → Call) (dbc : Dbc) :
    (attempt server call dbc).1 = (dbc.mariadb.map call).toList := by
  rw [attempt]
  cases dbc.mariadb with
  | none => rfl
  | some session =>
    dsimp only
    split
    · rfl
    · rfl

theorem calls_dbcEndTran (dbc : Dbc) (completionType : Int16) :
    (dbcEndTran server dbc completionType).1 = (dbc.mariadb.bind (callOf completionType)).toList := by
  rw [dbcEndTran]
  unfold callOf
  split
  · rw [calls_attempt]
    cases dbc.mariadb with
    | none | some => rfl
  · split
    · rw [calls_attempt]
      cases dbc.mariadb with
      | none | some => rfl
    · cases dbc.mariadb with
      | none | some => rfl

/-- **Every connection that is connected gets its call**, whatever the other ones return. -/
theorem calls_walk (completionType : Int16) (dbcs : List Dbc) :
    (walk server completionType dbcs).1 =
      dbcs.filterMap fun dbc => dbc.mariadb.bind (callOf completionType) := by
  induction dbcs with
  | nil => rfl
  | cons dbc dbcs ih =>
    rw [walk]
    dsimp only
    rw [calls_dbcEndTran, ih, List.filterMap_cons]
    cases dbc.mariadb.bind (callOf completionType) with
    | none | some => rfl

/-! ### The return code -/

/-- The completion type is a commit or a rollback. -/
def Known (completionType : Int16) : Prop := completionType = sqlCommit ∨ completionType = sqlRollback

instance (completionType : Int16) : Decidable (Known completionType) := inferInstanceAs (Decidable (_ ∨ _))

/-- The server carries out each of the calls that an environment needs. -/
def AllSucceed (completionType : Int16) (dbcs : List Dbc) : Prop :=
  ∀ dbc ∈ dbcs, ∀ session ∈ dbc.mariadb, ∀ call ∈ callOf completionType session, server call = none

/-- The operation is attempted on every connection that is connected, success is returned only if all calls
succeeded, and a completion type that is not known is an error. -/
def EnvReports (completionType : Int16) (dbcs : List Dbc) : Prop :=
  let (ret, calls, _) := maSqlEndTran server (.env dbcs) completionType
  (Known completionType → ∀ dbc ∈ dbcs, ∀ session ∈ dbc.mariadb, ∃ call ∈ callOf completionType session, call ∈ calls) ∧
    (Known completionType → ret = .success → AllSucceed server completionType dbcs) ∧
      (¬ Known completionType → ret = .error)

theorem callOf_isSome {completionType : Int16} (known : Known completionType) (session : Nat) :
    ∃ call, callOf completionType session = some call := by
  rcases known with rfl | rfl
  · exact ⟨.commit session, rfl⟩
  · exact ⟨.rollback session, rfl⟩

/-- **When the return code tells what happened**: for a commit or rollback that the server carries out on every
connection. -/
theorem endTran_env_iff (completionType : Int16) (dbcs : List Dbc) :
    EnvReports server completionType dbcs ↔ Known completionType ∧ AllSucceed server completionType dbcs := by
  constructor
  · rintro ⟨-, succeeded, refused⟩
    have known : Known completionType := by
      by_contra unknown
      cases refused unknown
    exact ⟨known, succeeded known rfl⟩
  · rintro ⟨known, succeed⟩
    refine ⟨fun _ dbc member session connected => ?_, fun _ _ => succeed, fun unknown => absurd known unknown⟩
    obtain ⟨call, found⟩ := callOf_isSome known session
    refine ⟨call, found, ?_⟩
    show call ∈ (walk server completionType dbcs).1
    rw [calls_walk, List.mem_filterMap]
    refine ⟨dbc, member, ?_⟩
    rw [Option.mem_def.mp connected]
    exact found

/-- A commit that fails on one of two connections. -/
theorem endTran_env_fails :
    ¬ EnvReports (fun call => if call = .commit 2 then some { errno := 1213, sqlState := lit "40001" } else none)
      sqlCommit [{ mariadb := some 1 }, { mariadb := some 2 }] := by
  rintro ⟨-, succeeded, -⟩
  have failed := succeeded (.inl rfl) rfl { mariadb := some 2 } (by simp) 2 rfl (.commit 2) rfl
  cases failed

end EndTran

end MaOdbc
