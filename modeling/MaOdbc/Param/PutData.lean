/-
**Data at execution.**

`MADB_StmtParamData` asks for the data of one parameter after another, `MADB_StmtPutData` gathers them in the IPD
record of the parameter, and the execution that follows the last parameter reads them there. The record keeps a
buffer with its length, which is enlarged with every piece.

`Gathering` is what this is for: each parameter has a text, and a piece is put behind it.

* **`dae_run_refines`**: whatever calls are made, the driver returns and executes what the gathering does, as long as
  NULL is only given for a statement of the server. NULL is looked up in `stmt->params`, which the client library
  does not have for other statements.
* NULL changes nothing, also behind other pieces, and a cancellation keeps what has been put.
-/

import MaOdbc.Param.InsertParam

namespace MaOdbc

open List Function

/-- The SQLSTATEs that `MADB_StmtPutData` can report. -/
inductive PutError
  | errHY000
  | errHY001
  | errHY009
  | errHY019
  | errHY020
  | errHY090
  | errHYC00
  deriving DecidableEq, Repr

/-- `isStringType`. -/
def CType.isStringType : CType → Bool
  | .char | .varchar | .longvarchar | .wchar | .wvarchar | .wlongvarchar | .binary | .varbinary | .longvarbinary => true
  | _ => false

/-- A call of `SQLPutData`: the bytes at `DataPtr`, `StrLen_or_Ind`, and whether there is memory for them. -/
structure PutCall where
  data : Option Text
  strLenOrInd : Int
  memory : Bool

/-- What the calls depend on: the parameters, and `MADB_ConvertFromWChar`. -/
structure DaeEnv where
  paramCount : Nat
  isDae : Nat → Bool
  conciseType : Nat → CType
  arraySize : Nat := 1
  sspsDisabled : Bool := true
  /-- The length of `stmt->params`, which `mysql_stmt_prepare` allocates. -/
  stmtParams : Nat := 0
  convertFromWChar : Text → Int → Option Text

/-- The records of a parameter in the APD and the IPD. -/
structure DaeRecord where
  apdInternalLength : Nat := 0
  longDataUsed : Bool := false
  dataPtr : Option Text := none
  internalLength : Nat := 0
  octetLength : Nat := 0

structure DaeHandle where
  records : Nat → DaeRecord := fun _ => {}
  putParam : Option Nat := none

inductive DaeCall
  | paramData
  | putData (call : PutCall)
  /-- `SQL_CLOSE`, as `MA_SQLCancel` does it. -/
  | close

/-- What a call returns. An execution gets the data of the parameters. -/
inductive DaeResult
  | needData (i : Nat)
  | executed (values : List Text)
  | returned (error : Option PutError)
  | sequenceError
  | closed
  /-- `stmt->params` is read where it is not. -/
  | overrun

namespace DaeEnv

variable (env : DaeEnv)

/-- The piece of a call, if it can be converted. -/
def piece (i : Nat) (call : PutCall) : Option Text :=
  let data := call.data.getD []
  if env.conciseType i = .wchar then
    let converted := (env.convertFromWChar data (call.strLenOrInd / 2)).getD []
    if converted = [] ∧ 0 < call.strLenOrInd then none else some converted
  else if call.strLenOrInd = sqlNts then some (cstr data)
  else some (data.take call.strLenOrInd.toNat)

/-- What a call brings: a piece, or NULL. -/
def argument (i : Nat) (call : PutCall) : Except PutError (Option Text) :=
  if call.data.isSome ∧ call.strLenOrInd < 0 ∧ call.strLenOrInd ≠ sqlNts ∧ call.strLenOrInd ≠ sqlNullData then
    .error .errHY090
  else if call.strLenOrInd = sqlNullData then .ok none
  else if call.data.isNone ∧ call.strLenOrInd ≠ 0 then .error .errHY009
  else
    match env.piece i call with
    | none => .error .errHY001
    | some piece =>
      if !env.sspsDisabled then .error .errHYC00
      else if 1 < env.arraySize then .error .errHY000
      else .ok (some piece)

/-- The parameters that have their data at execution. -/
def daeParams : List Nat := (List.range env.paramCount).filter env.isDae

def nextDae (putParam : Option Nat) : Option Nat :=
  let start := putParam.elim 0 (· + 1)
  (List.range' start (env.paramCount - start)).find? env.isDae

end DaeEnv

namespace DaeRecord

/-- The record with another buffer, which has a piece more. -/
def grown (record : DaeRecord) (dataBuffer piece : Text) : DaeRecord :=
  { record with
    dataPtr := some dataBuffer
    internalLength := record.internalLength + piece.length
    octetLength := record.internalLength + piece.length }

/-- The part of `MADB_StmtPutData` that keeps a piece. -/
def keep (record : DaeRecord) (isStringType memory : Bool) (piece : Text) : Except PutError DaeRecord :=
  if record.internalLength = 0 then
    if memory then .ok (record.grown (piece ++ if isStringType then [0] else []) piece) else .error .errHY001
  else if !isStringType then .error .errHY019
  else if memory then
    .ok (record.grown ((record.dataPtr.getD []).take record.internalLength ++ piece ++ [0]) piece)
  else .error .errHY001

/-- What `MADB_InsertParam` reads of a parameter. -/
def value (record : DaeRecord) : Text := (record.dataPtr.getD []).take record.octetLength

end DaeRecord

namespace DaeHandle

variable (env : DaeEnv) (h : DaeHandle)

/-- `MADB_StmtPutData`. -/
def stmtPutData (i : Nat) (call : PutCall) : DaeResult × DaeHandle :=
  let record := h.records i
  match env.argument i call with
  | .error error => (.returned (some error), h)
  | .ok none =>
    if env.stmtParams ≤ i then (.overrun, h)
    else if record.longDataUsed || decide (0 < record.apdInternalLength) then (.returned (some .errHY020), h)
    else (.returned none, h)
  | .ok (some piece) =>
    match record.keep (env.conciseType i).isStringType call.memory piece with
    | .error error => (.returned (some error), h)
    | .ok record => (.returned none, { h with records := update h.records i record })

/-- `MADB_CspsFreeDAE`. -/
def cspsFreeDae : DaeHandle :=
  { h with records := fun i => { h.records i with dataPtr := none, octetLength := 0, internalLength := 0 } }

/-- `MADB_StmtParamData` for an execution. -/
def stmtParamData : DaeResult × DaeHandle :=
  if env.paramCount = 0 then (.sequenceError, h)
  else
    match env.nextDae h.putParam with
    | some i => (.needData i, { h with putParam := some i })
    | none => (.executed (env.daeParams.map fun i => (h.records i).value), { h with putParam := none }.cspsFreeDae)

/-- A call. The driver manager refuses data that no parameter asks for. -/
def step : DaeCall → DaeResult × DaeHandle
  | .paramData => h.stmtParamData env
  | .putData call =>
    match h.putParam with
    | none => (.sequenceError, h)
    | some i => h.stmtPutData env i call
  | .close => (.closed, { h with putParam := none })

def run : DaeHandle → List DaeCall → List DaeResult
  | _, [] => []
  | h, call :: calls =>
    match h.step env call with
    | (.overrun, _) => [.overrun]
    | (result, h) => result :: run h calls

end DaeHandle

/-! ### Gathering -/

/-- The texts of the parameters, and the parameter that is asked for. -/
structure Gathering where
  texts : Nat → Text := fun _ => []
  current : Option Nat := none

namespace Gathering

variable (env : DaeEnv) (g : Gathering)

/-- A piece behind a text. Only strings come in pieces. -/
def keep (text : Text) (isStringType memory : Bool) (piece : Text) : Except PutError Text :=
  if text ≠ [] ∧ isStringType = false then .error .errHY019
  else if memory then .ok (text ++ piece) else .error .errHY001

def put (i : Nat) (call : PutCall) : DaeResult × Gathering :=
  match env.argument i call with
  | .error error => (.returned (some error), g)
  | .ok none => (.returned none, g)
  | .ok (some piece) =>
    match keep (g.texts i) (env.conciseType i).isStringType call.memory piece with
    | .error error => (.returned (some error), g)
    | .ok text => (.returned none, { g with texts := update g.texts i text })

def step : DaeCall → DaeResult × Gathering
  | .paramData =>
    if env.paramCount = 0 then (.sequenceError, g)
    else
      match env.nextDae g.current with
      | some i => (.needData i, { g with current := some i })
      | none => (.executed (env.daeParams.map g.texts), {})
  | .putData call =>
    match g.current with
    | none => (.sequenceError, g)
    | some i => g.put env i call
  | .close => (.closed, { g with current := none })

def run : Gathering → List DaeCall → List DaeResult
  | _, [] => []
  | g, call :: calls => (g.step env call).1 :: run (g.step env call).2 calls

end Gathering

/-! ### The driver gathers -/

/-- The client library has the parameters of the statement if a call gives NULL. -/
def DaeEnv.LooksUp (env : DaeEnv) : DaeCall → Prop
  | .putData call => call.strLenOrInd = sqlNullData → env.paramCount ≤ env.stmtParams
  | _ => True

theorem DaeEnv.nextDae_lt {env : DaeEnv} {putParam : Option Nat} {i : Nat} (next : env.nextDae putParam = some i) :
    i < env.paramCount := by
  have inside := mem_range'_1.mp (mem_of_find?_eq_some next)
  omega

theorem DaeEnv.null_of_argument {env : DaeEnv} {i : Nat} {call : PutCall} (null : env.argument i call = .ok none) :
    call.strLenOrInd = sqlNullData := by
  by_contra other
  rw [argument] at null
  grind

theorem Gathering.step_ne_overrun (env : DaeEnv) (g : Gathering) (call : DaeCall) : (g.step env call).1 ≠ .overrun := by
  unfold step put
  repeat' split
  all_goals nofun

theorem DaeHandle.run_cons {env : DaeEnv} {h : DaeHandle} {call : DaeCall} (returns : (h.step env call).1 ≠ .overrun)
    (calls : List DaeCall) : h.run env (call :: calls) = (h.step env call).1 :: (h.step env call).2.run env calls := by
  rw [run]
  split
  · rename_i overrun
    exact absurd (congrArg Prod.fst overrun) returns
  · rename_i returned
    rw [returned]

/-- A record holds a text. -/
structure DaeRecord.Holds (record : DaeRecord) (text : Text) : Prop where
  starts : text <+: record.dataPtr.getD []
  internal : record.internalLength = text.length
  octets : record.octetLength = text.length
  apd : record.apdInternalLength = 0
  long : record.longDataUsed = false

theorem DaeRecord.Holds.value_eq {record : DaeRecord} {text : Text} (holds : record.Holds text) :
    record.value = text := by
  rw [value, holds.octets]
  exact (prefix_iff_eq_take.mp holds.starts).symm

/-- **A piece** is kept behind the text, or refused for the same reason. -/
theorem DaeRecord.Holds.keep {record : DaeRecord} {text : Text} (holds : record.Holds text)
    (isStringType memory : Bool) (piece : Text) :
    match record.keep isStringType memory piece, Gathering.keep text isStringType memory piece with
    | .ok record', .ok text' => record'.Holds text'
    | .error error, .error error' => error = error'
    | _, _ => False := by
  have start : (record.dataPtr.getD []).take record.internalLength = text := by
    rw [holds.internal]
    exact (prefix_iff_eq_take.mp holds.starts).symm
  have length : record.internalLength + piece.length = (text ++ piece).length := by
    rw [holds.internal, length_append]
  have empty : record.internalLength = 0 ↔ text = [] := by rw [holds.internal, length_eq_zero_iff]
  unfold DaeRecord.keep Gathering.keep
  by_cases first : text = []
  · subst first
    rw [if_pos (empty.mpr rfl), if_neg fun refused : [] ≠ [] ∧ isStringType = false => refused.1 rfl]
    cases memory with
    | false => rfl
    | true => exact ⟨prefix_append piece _, length, length, holds.apd, holds.long⟩
  · rw [if_neg (empty.not.mpr first), start]
    cases isStringType with
    | false =>
      rw [if_pos (⟨first, rfl⟩ : text ≠ [] ∧ false = false)]
      rfl
    | true =>
      rw [if_neg (fun refused : text ≠ [] ∧ true = false => Bool.noConfusion refused.2)]
      cases memory with
      | false => rfl
      | true => exact ⟨prefix_append _ _, length, length, holds.apd, holds.long⟩

/-- The handle stands where the gathering does. -/
structure DaeHandle.Gathers (env : DaeEnv) (g : Gathering) (h : DaeHandle) : Prop where
  current : h.putParam = g.current
  asked : ∀ i, g.current = some i → i < env.paramCount
  holds : ∀ i, (h.records i).Holds (g.texts i)

variable {env : DaeEnv} {g : Gathering} {h : DaeHandle}

theorem DaeHandle.Gathers.update {record : DaeRecord} {text : Text} (gathers : h.Gathers env g) (i : Nat)
    (holds : record.Holds text) :
    { h with records := update h.records i record }.Gathers env { g with texts := update g.texts i text } := by
  refine ⟨gathers.current, gathers.asked, fun j => ?_⟩
  by_cases same : j = i
  · subst same
    simpa using holds
  · simpa [same] using gathers.holds j

theorem DaeHandle.Gathers.put (gathers : h.Gathers env g) {i : Nat} (asked : i < env.paramCount) {call : PutCall}
    (looksUp : env.LooksUp (.putData call)) :
    (h.stmtPutData env i call).1 = (g.put env i call).1 ∧
      (h.stmtPutData env i call).2.Gathers env (g.put env i call).2 := by
  have holds := gathers.holds i
  rw [DaeHandle.stmtPutData, Gathering.put]
  cases given : env.argument i call with
  | error error => exact ⟨rfl, gathers⟩
  | ok argument =>
    cases argument with
    | none =>
      have there := looksUp (DaeEnv.null_of_argument given)
      dsimp only
      rw [if_neg (by omega), if_neg (by simp [holds.long, holds.apd])]
      exact ⟨rfl, gathers⟩
    | some piece =>
      have kept := holds.keep (env.conciseType i).isStringType call.memory piece
      dsimp only
      split at kept
      · rename_i driver abstract
        rw [driver, abstract]
        exact ⟨rfl, gathers.update i kept⟩
      · rename_i driver abstract
        rw [driver, abstract]
        exact ⟨congrArg (DaeResult.returned ∘ some) kept, gathers⟩
      · exact kept.elim

theorem DaeHandle.Gathers.step (gathers : h.Gathers env g) {call : DaeCall} (looksUp : env.LooksUp call) :
    (h.step env call).1 = (g.step env call).1 ∧ (h.step env call).2.Gathers env (g.step env call).2 := by
  cases call with
  | paramData =>
    rw [DaeHandle.step, DaeHandle.stmtParamData, Gathering.step, gathers.current]
    split
    · exact ⟨rfl, gathers⟩
    · split
      · rename_i i next
        exact ⟨rfl, rfl, fun j same => Option.some.inj same ▸ DaeEnv.nextDae_lt next, gathers.holds⟩
      · refine ⟨?_, rfl, nofun, fun i => ⟨ nil_prefix, rfl, rfl, (gathers.holds i).apd, (gathers.holds i).long⟩⟩
        exact congrArg DaeResult.executed (map_congr_left fun i _ => (gathers.holds i).value_eq)
  | putData call =>
    rw [DaeHandle.step, Gathering.step, gathers.current]
    cases asked : g.current with
    | none => exact ⟨rfl, gathers⟩
    | some i => exact gathers.put (gathers.asked i asked) looksUp
  | close => exact ⟨rfl, rfl, nofun, gathers.holds⟩

/-- **Data at execution.** Whatever calls are made, in whatever order, they return what the gathering returns, and
each execution gets for each parameter the pieces that were put since the last one, in order. -/
theorem dae_run_refines (env : DaeEnv) {calls : List DaeCall} (looksUp : ∀ call ∈ calls, env.LooksUp call) :
    ({} : DaeHandle).run env calls = ({} : Gathering).run env calls := by
  have start : ({} : DaeHandle).Gathers env {} := ⟨rfl, nofun, fun _ => ⟨ nil_prefix, rfl, rfl, rfl, rfl⟩⟩
  generalize ({} : DaeHandle) = h at start
  generalize ({} : Gathering) = g at start
  induction calls generalizing h g with
  | nil => rfl
  | cons call calls ih =>
    obtain ⟨looksUpCall, looksUpCalls⟩ := forall_mem_cons.mp looksUp
    obtain ⟨same, after⟩ := start.step looksUpCall
    have returns : (h.step env call).1 ≠ .overrun := by
      rw [same]
      exact g.step_ne_overrun env call
    rw [DaeHandle.run_cons returns, Gathering.run, same, ih looksUpCalls _ _ after]

/-- One parameter of a statement that is not prepared on the server. -/
def clientDae : DaeEnv where
  paramCount := 1
  isDae _ := true
  conciseType _ := .char
  convertFromWChar _ _ := none

theorem dae_run_pieces :
    ({} : DaeHandle).run clientDae
        [.paramData, .putData ⟨some (lit "ab"), 2, true⟩, .putData ⟨some (lit "c"), 1, true⟩, .paramData] =
      [.needData 0, .returned none, .returned none, .executed [lit "abc"]] :=
  (dae_run_refines clientDae (by simp [DaeEnv.LooksUp, sqlNullData])).trans rfl

example : ({} : DaeHandle).run clientDae [.paramData, .putData ⟨none, sqlNullData, true⟩] = [.needData 0, .overrun] :=
  rfl

end MaOdbc
