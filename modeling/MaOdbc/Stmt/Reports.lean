/-
**What an execution reports.**

The client side counts the queries that fail, compares the count with the size of the parameter array,
and writes a status for every row. `Tells` says what the loops report of the queries in the trace: the
number of failures, the return code of the last query, and for every row that is not ignored the outcome
of the last query that carried it.
-/

import MaOdbc.Stmt.Client

namespace MaOdbc

open List Option

def Event.answered : Event → Option (Purpose × Bool)
  | .asked (.query _) purpose answer => some (purpose, answer.isOk)
  | _ => none

def queriesOf (events : List Event) : List (Purpose × Bool) := events.filterMap Event.answered

def failures (events : List Event) : Nat := (queriesOf events).countP (!·.2)

def Purpose.carries (purpose : Purpose) (row : Nat) : Bool := purpose.pairs.any (·.2 == row)

def carriersOf (events : List Event) (row : Nat) : List Bool :=
  ((queriesOf events).filter (·.1.carries row)).map (·.2)

/-- Whether a row is marked as a success, in a status array that has it. -/
def markOf (status : Option (List ParamStatus)) (row : Nat) : Option Bool :=
  (status.bind (·[row]?)).map (· == .success)

/-- The rows that are not ignored are marked as the last query that carried them. -/
def Marks (env : Env) (events : List Event) (before after : Option (List ParamStatus)) : Prop :=
  ∀ row, env.ignored row = false →
    markOf after row = (markOf before row).map ((carriersOf events row).getLast?.getD ·)

section Append

variable (first second : List Event)

theorem queriesOf_append : queriesOf (first ++ second) = queriesOf first ++ queriesOf second :=
  filterMap_append

theorem failures_append : failures (first ++ second) = failures first + failures second := by
  rw [failures, queriesOf_append, countP_append]
  rfl

theorem carriersOf_append (row : Nat) :
    carriersOf (first ++ second) row = carriersOf first row ++ carriersOf second row := by
  rw [carriersOf, queriesOf_append, filter_append, map_append]
  rfl

end Append

theorem Marks.refl (env : Env) (status : Option (List ParamStatus)) : Marks env [] status status :=
  fun _ _ => map_id'.symm

theorem Marks.trans {env : Env} {events events' : List Event} {before between after : Option (List ParamStatus)}
    (first : Marks env events before between) (second : Marks env events' between after) :
    Marks env (events ++ events') before after := by
  intro row taken
  rw [second row taken, first row taken, Option.map_map, carriersOf_append, getLast?_append]
  refine congrArg (Option.map · _) (funext fun old => ?_)
  rw [Function.comp_apply, getD_or]

theorem markOf_set (status : Option (List ParamStatus)) (row row' : Nat) (value : ParamStatus) :
    markOf (status.map (·.set row value)) row' =
      if row = row' then (markOf status row').map fun _ => value == .success else markOf status row' := by
  cases status with
  | none => simp [markOf]
  | some statuses =>
    simp only [markOf, map_some, bind_some, getElem?_set]
    by_cases same : row = row'
    · subst same
      rw [if_pos rfl, if_pos rfl]
      by_cases inside : row < statuses.length
      · rw [if_pos inside, getElem?_eq_getElem inside]
        rfl
      · rw [if_neg inside, getElem?_eq_none (Nat.le_of_not_lt inside)]
        rfl
    · rw [if_neg same, if_neg same]

theorem Marks.ignored {env : Env} {row : Nat} (ignored : env.ignored row = true)
    (status : Option (List ParamStatus)) (value : ParamStatus) :
    Marks env [] status (status.map (·.set row value)) := by
  intro row' taken
  rw [markOf_set, if_neg (by rintro rfl; rw [ignored] at taken; cases taken)]
  exact map_id'.symm

namespace Exec

variable {env : Env} {events events' : List Event} {e e' e'' : Exec}

/-- What is reported of some queries, also where a parameter could not be inserted. -/
structure TellsUpTo (env : Env) (events : List Event) (e e' : Exec) : Prop where
  trace : e'.stmt.trace = e.stmt.trace ++ events
  errorCount : e'.errorCount = e.errorCount + failures events
  marks : Marks env events e.stmt.ipdStatus e'.stmt.ipdStatus

def codeOf (query : Purpose × Bool) : SqlReturn := if query.2 then .success else .error

theorem lastCode_of_failures {events : List Event} (none : failures events = 0) :
    ((queriesOf events).getLast?.map codeOf).getD .success = .success := by
  cases last : (queriesOf events).getLast? with
  | none => rfl
  | some query =>
    have ok := countP_eq_zero.mp none query (mem_of_getLast? last)
    have succeeded : query.2 = true := by simpa using ok
    rw [map_some, getD_some, codeOf, if_pos succeeded]

structure Tells (env : Env) (events : List Event) (e e' : Exec) : Prop
    extends TellsUpTo env events e e' where
  ret : e'.ret = ((queriesOf events).getLast?.map codeOf).getD e.ret
  error : failures events = 0 → e'.stmt.error = e.stmt.error

/-- What is reported by a part of the loops, whether or not it leaves them. -/
def Telling (env : Env) (e : Exec) : Flow Exec Exec → Prop :=
  Flow.All (fun e' => ∃ events, Tells env events e e') (fun e' => ∃ events, TellsUpTo env events e e')

theorem TellsUpTo.trans (first : TellsUpTo env events e e') (second : TellsUpTo env events' e' e'') :
    TellsUpTo env (events ++ events') e e'' where
  trace := by rw [second.trace, first.trace, append_assoc]
  errorCount := by rw [second.errorCount, first.errorCount, failures_append, Nat.add_assoc]
  marks := first.marks.trans second.marks

theorem Tells.refl (env : Env) (e : Exec) : Tells env [] e e :=
  ⟨⟨(append_nil _).symm, rfl, .refl env _⟩, rfl, fun _ => rfl⟩

theorem Tells.trans (first : Tells env events e e') (second : Tells env events' e' e'') :
    Tells env (events ++ events') e e'' := by
  refine ⟨first.toTellsUpTo.trans second.toTellsUpTo, ?_, fun none => ?_⟩
  · rw [second.ret, first.ret, queriesOf_append, getLast?_append, map_or, getD_or]
  · rw [failures_append] at none
    rw [second.error (by omega), first.error (by omega)]

/-! ### The rows -/

structure Builds (env : Env) (events : List Event) (e e' : Exec) : Prop
    extends TellsUpTo env events e e' where
  silent : queriesOf events = []
  error : e'.stmt.error = e.stmt.error

theorem Builds.refl (env : Env) (e : Exec) : Builds env [] e e :=
  ⟨(Tells.refl env e).toTellsUpTo, rfl, rfl⟩

theorem Builds.trans (first : Builds env events e e') (second : Builds env events' e' e'') :
    Builds env (events ++ events') e e'' where
  toTellsUpTo := first.toTellsUpTo.trans second.toTellsUpTo
  silent := by rw [queriesOf_append, first.silent, second.silent]; rfl
  error := second.error.trans first.error

theorem cspsInitStatementParams_builds (env : Env) (e : Exec) (nr row : Nat) :
    match e.cspsInitStatementParams env nr row with
    | .skip e' => env.ignored row = true ∧ Tells env [] e e'
    | .failed e' => TellsUpTo env [] e e'
    | .ok e' _ => env.ignored row = false ∧ ∃ events, Builds env events e e' := by
  rw [cspsInitStatementParams]
  dsimp only
  cases ignored : env.ignored row with
  | true =>
    rw [if_pos rfl]
    exact ⟨rfl, ⟨(append_nil _).symm, rfl, .ignored ignored _ _⟩, rfl, fun _ => rfl⟩
  | false =>
    rw [if_neg Bool.false_ne_true]
    split
    · rename_i e' text built
      split at built <;> cases built
    · rename_i e' failed
      split at failed <;> cases failed
      exact ⟨(append_nil _).symm, rfl, .refl env _⟩
    · rename_i e' text built
      split at built <;> cases built
      exact ⟨rfl, [.built nr row e.paramOffset e.paramCount text], ⟨rfl, rfl, .refl env _⟩, rfl, rfl⟩

end Exec

/-- The server's failures come with a SQLSTATE of a failure, and results are received. -/
structure Env.AnswersPlainly (env : Env) : Prop where
  fails : ∀ text position native, env.server (.query text) position = .failed native →
    (Diag.setNativeError native).returnValue = .error
  stores : ∀ position, (env.server .storeResult position).isOk = true

namespace Exec

variable {env : Env} {events events' : List Event} {e e' e'' : Exec}

theorem observe_query (plainly : env.AnswersPlainly) (e : Exec) (text : Text) (purpose : Purpose)
    (position : Nat) :
    let answer := env.server (.query text) position
    let e' := e.observe (.asked (.query text) purpose answer)
    e'.stmt.trace = e.stmt.trace ++ [.asked (.query text) purpose answer] ∧
      e'.errorCount = e.errorCount + failures [.asked (.query text) purpose answer] ∧
      e'.ret = codeOf (purpose, answer.isOk) ∧ (answer.isOk = true → e'.stmt.error = e.stmt.error) ∧
      e'.stmt.ipdStatus = e.stmt.ipdStatus := by
  dsimp only
  cases answered : env.server (.query text) position with
  | failed native => exact ⟨rfl, rfl, plainly.fails text position native answered, nofun, rfl⟩
  | ok outcome =>
    rw [observe]
    dsimp only
    split
    · exact ⟨rfl, rfl, rfl, fun _ => rfl, rfl⟩
    · exact ⟨rfl, rfl, rfl, fun _ => rfl, rfl⟩

structure Writes (env : Env) (purpose : Purpose) (ok : Bool) (e e' : Exec) : Prop where
  trace : e'.stmt.trace = e.stmt.trace
  errorCount : e'.errorCount = e.errorCount
  ret : e'.ret = e.ret
  error : e'.stmt.error = e.stmt.error
  marks : ∀ row, env.ignored row = false →
    markOf e'.stmt.ipdStatus row =
      if purpose.carries row then (markOf e.stmt.ipdStatus row).map fun _ => ok
      else markOf e.stmt.ipdStatus row

theorem Builds.send (builds : Builds env events e e') (plainly : env.AnswersPlainly) {text : Text}
    {purpose : Purpose}
    (writes : Writes env purpose (env.server (.query text) e'.stmt.trace.length).isOk
      (e'.cspsRunStatementQuery env text purpose) e'') :
    ∃ events, Tells env events e e'' := by
  obtain ⟨trace, errorCount, ret, error, status⟩ :=
    observe_query plainly e' text purpose e'.stmt.trace.length
  rw [cspsRunStatementQuery_eq] at writes
  generalize env.server (.query text) e'.stmt.trace.length = answer at *
  have queries : queriesOf (events ++ [.asked (.query text) purpose answer]) = [(purpose, answer.isOk)] := by
    rw [queriesOf_append, builds.silent]
    rfl
  refine ⟨events ++ [.asked (.query text) purpose answer], ⟨?_, ?_, fun row taken => ?_⟩, ?_, fun none => ?_⟩
  · rw [writes.trace, trace, builds.trace, append_assoc]
  · rw [writes.errorCount, errorCount, builds.errorCount, failures_append, Nat.add_assoc]
  · have before := builds.marks row taken
    have unmarked : carriersOf events row = [] := by rw [carriersOf, builds.silent]; rfl
    rw [unmarked] at before
    have carriers : carriersOf (events ++ [.asked (.query text) purpose answer]) row =
        if purpose.carries row then [answer.isOk] else [] := by
      rw [carriersOf, queries]
      cases carried : purpose.carries row with
      | true | false => simp [carried]
    rw [writes.marks row taken, status, before, carriers]
    split
    · rw [Option.map_map]
      rfl
    · rfl
  · rw [writes.ret, ret, queries]
    rfl
  · rw [failures, queries] at none
    have ok : answer.isOk = true := by simpa using none
    rw [writes.error, error ok, builds.error]

theorem cspsRunStatementQuery_ret (plainly : env.AnswersPlainly) (e : Exec) (text : Text)
    (purpose : Purpose) :
    (e.cspsRunStatementQuery env text purpose).ret.succeeded =
      (env.server (.query text) e.stmt.trace.length).isOk := by
  rw [cspsRunStatementQuery_eq, (observe_query plainly e text purpose e.stmt.trace.length).2.2.1]
  cases (env.server (.query text) e.stmt.trace.length).isOk with
  | true | false => rfl

theorem rowStatus_writes (e : Exec) (statement : Text) (nr : Nat) {row : Nat}
    (taken : env.ignored row = false) :
    Writes env ⟨statement, [(nr, row)]⟩ e.ret.succeeded e (e.rowStatus env row) := by
  have carries : ∀ row', (⟨statement, [(nr, row)]⟩ : Purpose).carries row' = true ↔ row = row' := by
    intro row'
    simp [Purpose.carries]
  have value : ((if e.ret.succeeded then ParamStatus.success
      else if row + 1 = env.arraySize then .error else .diagUnavailable) == .success) =
        e.ret.succeeded := by
    cases e.ret.succeeded with
    | true => rfl
    | false =>
      rw [if_neg Bool.false_ne_true]
      split
      · rfl
      · rfl
  rw [rowStatus, taken, if_neg Bool.false_ne_true]
  refine ⟨rfl, rfl, rfl, rfl, fun row' _ => ?_⟩
  rw [Stmt.setStatus, markOf_set, value]
  simp only [carries]

theorem cspsRow_tells (plainly : env.AnswersPlainly) (nr row : Nat) (e : Exec) :
    Telling env e (cspsRow env nr row e) := by
  have params := cspsInitStatementParams_builds env e nr row
  rw [cspsRow]
  cases begun : e.cspsInitStatementParams env nr row with
  | skip e' =>
    rw [begun] at params
    exact ⟨[], params.2⟩
  | failed e' =>
    rw [begun] at params
    exact ⟨[], params⟩
  | ok e' text =>
    rw [begun] at params
    obtain ⟨taken, events, builds⟩ := params
    have writes := rowStatus_writes
      (e'.cspsRunStatementQuery env text { statement := e'.curText, pairs := [(nr, row)] })
      e'.curText nr taken
    rw [cspsRunStatementQuery_ret plainly] at writes
    exact builds.send plainly writes

theorem batchStatuses_marks (env : Env) (rows : List Nat) (e : Exec) :
    let e' := rows.foldl (fun e row => e.batchStatus env row) e
    e'.stmt.trace = e.stmt.trace ∧ e'.errorCount = e.errorCount ∧ e'.ret = e.ret ∧
      e'.stmt.error = e.stmt.error ∧
      ∀ row, env.ignored row = false →
        markOf e'.stmt.ipdStatus row =
          if row ∈ rows then (markOf e.stmt.ipdStatus row).map fun _ => e.ret.succeeded
          else markOf e.stmt.ipdStatus row := by
  induction rows generalizing e with
  | nil => exact ⟨rfl, rfl, rfl, rfl, fun row _ => (if_neg not_mem_nil).symm⟩
  | cons row rows ih =>
    rw [foldl_cons]
    cases ignored : env.ignored row with
    | true =>
      have skipped : e.batchStatus env row = e := by rw [batchStatus, ignored, if_pos rfl]
      rw [skipped]
      obtain ⟨trace, errorCount, ret, error, marks⟩ := ih e
      refine ⟨trace, errorCount, ret, error, fun row' taken => ?_⟩
      have other : row' ≠ row := by
        rintro rfl
        rw [ignored] at taken
        cases taken
      rw [marks row' taken]
      simp only [mem_cons, other, false_or]
    | false =>
      rw [batchStatus, ignored, if_neg Bool.false_ne_true]
      obtain ⟨trace, errorCount, ret, error, marks⟩ := ih { e with
        stmt := e.stmt.setStatus row (if e.ret.succeeded then .success else .error) }
      refine ⟨trace, errorCount, ret, error, fun row' taken => ?_⟩
      have value : ((if e.ret.succeeded then ParamStatus.success else .error) == .success) =
          e.ret.succeeded := by
        cases e.ret.succeeded with
        | true | false => rfl
      rw [marks row' taken, Stmt.setStatus, markOf_set, value]
      by_cases same : row = row'
      · rw [if_pos same, if_pos (mem_cons.mpr (.inl same.symm)), Option.map_map]
        exact ite_self _
      · have still : row' ∈ row :: rows ↔ row' ∈ rows := by simp [Ne.symm same]
        simp only [if_neg same, still]

theorem batchStatuses_writes (env : Env) (e : Exec) (statement : Text) (rows : List Nat) :
    Writes env ⟨statement, (rows.filter (!env.ignored ·)).map (0, ·)⟩ e.ret.succeeded e
      (rows.foldl (fun e row => e.batchStatus env row) e) := by
  obtain ⟨trace, errorCount, ret, error, marks⟩ := batchStatuses_marks env rows e
  refine ⟨trace, errorCount, ret, error, fun row taken => ?_⟩
  have carries : (⟨statement, (rows.filter (!env.ignored ·)).map (0, ·)⟩ : Purpose).carries row = true ↔
      row ∈ rows := by
    simp [Purpose.carries, taken]
  rw [marks row taken]
  simp only [carries]

theorem combineRows_builds (env : Env) (rows : List Nat) (c : Combining) :
    (forEach (combineRow env) rows c).All
      (fun c' : Combining => ∃ events, Builds env events c.exec c'.exec)
      (fun e' => ∃ events, TellsUpTo env events c.exec e') := by
  refine forEach_rule (fun _ (c' : Combining) => ∃ events, Builds env events c.exec c'.exec) ?_
    (nil_append rows).symm ⟨[], .refl env c.exec⟩
  rintro done row todo c' - ⟨events, before⟩
  have params := cspsInitStatementParams_builds env c'.exec 0 row
  rw [combineRow]
  cases begun : c'.exec.cspsInitStatementParams env 0 row with
  | skip e' =>
    rw [begun] at params
    have skipped : Builds env [] c'.exec e' := ⟨params.2.toTellsUpTo, rfl, params.2.error rfl⟩
    exact ⟨events ++ [], before.trans skipped⟩
  | failed e' =>
    rw [begun] at params
    exact ⟨events ++ [], before.toTellsUpTo.trans params⟩
  | ok e' text =>
    rw [begun] at params
    obtain ⟨-, events', builds⟩ := params
    exact ⟨events ++ events', before.trans builds⟩

theorem cspsBatch_tells (plainly : env.AnswersPlainly) (batchNum : Nat) (e : Exec) :
    Telling env e (cspsBatch env batchNum e) := by
  have rows := combineRows_builds env (e.batchRows env batchNum)
    ⟨e, ((e.stmt.query.token 0).getD []).take e.valuesOffset⟩
  rw [cspsBatch]
  dsimp only at rows ⊢
  cases ended : forEach (combineRow env) (e.batchRows env batchNum)
    ⟨e, ((e.stmt.query.token 0).getD []).take e.valuesOffset⟩ with
  | leave e' =>
    rw [ended] at rows
    exact rows
  | next c =>
    rw [ended] at rows
    obtain ⟨events, builds⟩ := rows
    have writes := batchStatuses_writes env
      (c.exec.cspsRunStatementQuery env c.query
        { statement := e.curText
          pairs := ((e.batchRows env batchNum).filter (!env.ignored ·)).map (0, ·) })
      e.curText (e.batchRows env batchNum)
    rw [cspsRunStatementQuery_ret plainly] at writes
    exact builds.send plainly writes

theorem forEach_tells {α : Type*} {body : α → Exec → Flow Exec Exec} (items : List α) (e : Exec)
    (step : ∀ item ∈ items, ∀ e, Telling env e (body item e)) :
    Telling env e (forEach body items e) := by
  refine forEach_rule (fun _ e' => ∃ events, Tells env events e e') ?_
    (nil_append items).symm ⟨[], .refl env e⟩
  rintro done item todo e' split ⟨events, before⟩
  refine (step item (by rw [split]; simp) e').imp ?_ ?_
  · rintro e'' ⟨events', round⟩
    exact ⟨events ++ events', before.trans round⟩
  · rintro e'' ⟨events', round⟩
    exact ⟨events ++ events', before.toTellsUpTo.trans round⟩

theorem cspsLoop_tells (plainly : env.AnswersPlainly) (nr : Nat) (e : Exec) :
    Telling env e (cspsLoop env nr e) := by
  rw [cspsLoop]
  split
  · exact forEach_tells _ e fun batchNum _ => cspsBatch_tells plainly batchNum
  · exact forEach_tells _ e fun row _ => cspsRow_tells plainly nr row

theorem cspsReceiveStatementResults_tells (plainly : env.AnswersPlainly) (e : Exec) :
    ∃ events, queriesOf events = [] ∧ Tells env events e (e.cspsReceiveStatementResults env) := by
  obtain ⟨handles, result, rows, kept | asked⟩ := cspsReceiveStatementResults_cases env e
  · rw [kept]
    exact ⟨[], rfl, ⟨(append_nil _).symm, rfl, .refl env _⟩, rfl, fun _ => rfl⟩
  · have stored := plainly.stores e.stmt.trace.length
    cases answered : env.server .storeResult e.stmt.trace.length with
    | failed native =>
      rw [answered] at stored
      cases stored
    | ok outcome =>
      rw [answered] at asked
      rw [asked]
      exact ⟨[.asked .storeResult {} (.ok outcome)], rfl, ⟨rfl, rfl, .refl env _⟩, rfl, fun _ => rfl⟩

/-! ### The statements -/

/-- Behind the rows of a statement. -/
structure Settles (rewritten : Bool) (rows : Nat) (e e' : Exec) : Prop where
  trace : e'.stmt.trace = e.stmt.trace
  errorCount : e'.errorCount = if rewritten = true ∧ e.ret = .error then rows else e.errorCount
  ret : e'.ret = e.ret
  error : e'.stmt.error = e.stmt.error
  status : e'.stmt.ipdStatus = e.stmt.ipdStatus

theorem Settles.tells {rows : Nat} (settles : Settles false rows e' e'') (tells : Tells env events e e') :
    Tells env events e e'' where
  trace := settles.trace.trans tells.trace
  errorCount := by
    rw [settles.errorCount, if_neg (fun both => Bool.false_ne_true both.1), tells.errorCount]
  marks := settles.status ▸ tells.marks
  ret := settles.ret.trans tells.ret
  error none := settles.error.trans (tells.error none)

theorem cspsNext_settles (e : Exec) (nr rows : Nat) : Settles false rows e (e.cspsNext nr) := by
  rw [cspsNext]
  split
  · exact ⟨rfl, rfl, rfl, rfl, rfl⟩
  · exact ⟨rfl, rfl, rfl, rfl, rfl⟩

theorem cspsRows_tell (plainly : env.AnswersPlainly) (nr : Nat) (e : Exec) :
    (match if e.rewriteInsert env then e.cspsRewritten env else e.cspsRowByRow env nr with
      | .leave exit => .leave exit
      | .next e => .next (e.cspsNext nr) : Flow Exec Exec).All
      (fun e'' => ∃ events e', Tells env events e e' ∧
        Settles (e.rewriteInsert env) (e.numParamRows env) e' e'')
      (fun e' => ∃ events, TellsUpTo env events e e') := by
  have loop := cspsLoop_tells plainly nr e
  rw [cspsRows_eq]
  cases ended : cspsLoop env nr e with
  | leave e' =>
    rw [ended] at loop
    exact loop
  | next e' =>
    rw [ended] at loop
    obtain ⟨events, tells⟩ := loop
    dsimp only
    rw [afterLoop]
    cases rewritten : e.rewriteInsert env with
    | true =>
      have next := cspsNext_settles { e' with
        stmt := { e'.stmt with affectedRows := e'.stmt.handle.affectedRows }
        errorCount := if e'.ret = .error then e.numParamRows env else e'.errorCount } nr 0
      rw [if_pos rfl]
      refine ⟨events, e', tells, next.trace, ?_, next.ret, next.error, next.status⟩
      rw [next.errorCount, if_neg (fun both => Bool.false_ne_true both.1)]
      simp only [true_and]
    | false =>
      rw [if_neg Bool.false_ne_true]
      obtain ⟨events', -, received⟩ := cspsReceiveStatementResults_tells plainly e'
      have next := cspsNext_settles (e'.cspsReceiveStatementResults env) nr (e.numParamRows env)
      exact ⟨events ++ events', _, tells.trans received, next⟩

theorem cspsInit_tells (env : Env) {nr : Nat}
    (init : (if e.stmt.query.isMultiStmt then e.cspsInitStatementFromMultistatement nr else some e) =
      some e') : Tells env [] e e' ∧ e'.stmt.query = e.stmt.query := by
  split at init
  · obtain ⟨_, _, _, _, _, _, _, rfl⟩ := cspsInit_eq init
    exact ⟨⟨⟨(append_nil _).symm, rfl, .refl env _⟩, rfl, fun _ => rfl⟩, rfl⟩
  · cases init
    exact ⟨.refl env e, rfl⟩

theorem cspsStatement_tells (plainly : env.AnswersPlainly) (nr : Nat) {e : Exec}
    (multi : e.stmt.query.isMultiStmt = true) :
    Telling env e (cspsStatement env nr e) := by
  rw [cspsStatement]
  split
  · exact ⟨[], .refl env e⟩
  · rename_i e' init
    obtain ⟨begun, same⟩ := cspsInit_tells env init
    have plain : e'.rewriteInsert env = false := by simp [rewriteInsert, same, multi]
    refine (cspsRows_tell plainly nr e').imp ?_ ?_
    · rintro e''' ⟨events, e'', tells, settles⟩
      rw [plain] at settles
      exact ⟨[] ++ events, begun.trans (settles.tells tells)⟩
    · rintro e'' ⟨events, tells⟩
      exact ⟨[] ++ events, begun.toTellsUpTo.trans tells⟩

theorem cspsStatements_tell_multi (plainly : env.AnswersPlainly) {s : Stmt} (here : At s 0 e)
    (multi : s.query.isMultiStmt = true) :
    Telling env e (forEach (cspsStatement env) (range s.query.stmtCount) e) := by
  have step : ∀ nr e', 0 ≤ nr → nr < 0 + s.query.stmtCount →
      (At s nr e' ∧ ∃ events, Tells env events e e') →
      (cspsStatement env nr e').All (fun e'' => At s (nr + 1) e'' ∧ ∃ events, Tells env events e e'')
        (fun e'' => ∃ events, TellsUpTo env events e e'') := by
    rintro nr e' - - ⟨arrived, events, before⟩
    have walks : Walks env s e' (nr + 1) (s.statementPlan env nr) (cspsStatement env nr e') :=
      cspsStatement_walks arrived
    have round := cspsStatement_tells plainly nr (by rw [arrived.same, multi] : e'.stmt.query.isMultiStmt = true)
    generalize s.statementPlan env nr = planned at walks
    generalize cspsStatement env nr e' = flow at walks round
    cases walks with
    | next _ _ next =>
      obtain ⟨events', tells⟩ := round
      exact ⟨next, events ++ events', before.trans tells⟩
    | leave =>
      obtain ⟨events', tells⟩ := round
      exact ⟨events ++ events', before.toTellsUpTo.trans tells⟩
  rw [range_eq_range']
  exact (forEach_range'_rule (fun nr e' => At s nr e' ∧ ∃ events, Tells env events e e') step
    ⟨here, [], .refl env e⟩).imp (fun _ both => both.2) fun _ left => left

theorem cspsStatements_tell (plainly : env.AnswersPlainly) {s : Stmt} (here : At s 0 e)
    (ret : e.ret = .success) :
    (forEach (cspsStatement env) (range s.query.stmtCount) e).All
      (fun e'' => ∃ events e', Tells env events e e' ∧
        Settles (e.rewriteInsert env) (e.numParamRows env) e' e'')
      (fun e' => ∃ events, TellsUpTo env events e e') := by
  cases multi : s.query.isMultiStmt with
  | true =>
    have plain : e.rewriteInsert env = false := by simp [rewriteInsert, here.same, multi]
    refine (cspsStatements_tell_multi plainly here multi).imp ?_ fun _ left => left
    rintro e' ⟨events, tells⟩
    rw [plain]
    exact ⟨events, e', tells, rfl, by simp, rfl, rfl, rfl⟩
  | false =>
    have few : s.query.stmtCount = 0 ∨ s.query.stmtCount = 1 := by
      rw [Query.isMultiStmt, decide_eq_false_iff_not] at multi
      omega
    rcases few with none | one
    · rw [none]
      exact ⟨[], e, .refl env e, rfl, by simp [ret], rfl, rfl, rfl⟩
    · have alone : forEach (cspsStatement env) [0] e = cspsStatement env 0 e := by
        rw [forEach_cons]
        cases cspsStatement env 0 e with
        | next | leave => rfl
      rw [one, range_one, alone, cspsStatement, here.same, multi, if_neg Bool.false_ne_true]
      exact cspsRows_tell plainly 0 e

theorem Walks.stop {s : Stmt} {next : Nat} {plan : Plan} {flow : Flow Exec Exec}
    (walks : Walks env s e next plan flow) :
    flow.All (fun _ => plan.stop = none)
      (fun e' => ∃ builds failure, plan.stop = some (builds, failure) ∧ e'.ret = failure.ret) := by
  cases walks with
  | next => exact rfl
  | leave _ _ _ _ ret => exact ⟨_, _, rfl, ret⟩

end Exec

def Stmt.combinesRows (env : Env) (s : Stmt) : Bool := Exec.rewriteInsert env { stmt := s }

namespace Exec

variable {env : Env} {events : List Event} {e e' : Exec}

theorem combinesRows_rows {s : Stmt} (combines : s.combinesRows env = true) :
    numParamRows env { stmt := s } = env.arraySize ∧ 1 < env.arraySize := by
  have several : 1 < numParamRows env { stmt := s } := by
    simp only [Stmt.combinesRows, rewriteInsert, Bool.and_eq_true, decide_eq_true_eq] at combines
    omega
  rw [numParamRows] at several ⊢
  split at several
  · rename_i some
    rw [if_pos some]
    exact ⟨rfl, several⟩
  · omega

/-- **What a client-side execution reports.** A combined `INSERT` whose last query failed counts as a
failure of all rows. -/
theorem executeCsps_tells (plainly : env.AnswersPlainly) (s : Stmt) :
    ∃ events, (executeCsps env s).stmt.trace = s.trace ++ .lock :: events ∧
      Marks env events s.ipdStatus (executeCsps env s).stmt.ipdStatus ∧
      match (s.plan env).stop with
      | some (_, failure) =>
        (executeCsps env s).errorCount = failures events ∧ (executeCsps env s).ret = failure.ret
      | none =>
        (executeCsps env s).ret = ((queriesOf events).getLast?.map codeOf).getD .success ∧
          (executeCsps env s).errorCount =
            (if s.combinesRows env = true ∧ (executeCsps env s).ret = .error then env.arraySize
              else failures events) ∧
          (failures events = 0 → (executeCsps env s).stmt.error = s.error) := by
  obtain ⟨e, here, trace, errorCount, ret, error, status, walks, executed⟩ := executeCsps_onCourse env s
  have stop := walks.stop
  have tells := cspsStatements_tell plainly here ret
  have paramCount : e.stmt.paramCount = s.paramCount := congrArg Course.paramCount here.course
  have rewrites : e.rewriteInsert env = s.combinesRows env := by
    rw [Stmt.combinesRows, rewriteInsert, rewriteInsert, numParamRows, numParamRows, here.same, paramCount]
  have rows : e.numParamRows env = numParamRows env { stmt := s } := by
    simp only [numParamRows, paramCount]
  rw [executed]
  cases ended : forEach (cspsStatement env) (range s.query.stmtCount) e with
  | leave e' =>
    rw [ended] at stop tells
    obtain ⟨builds, failure, stopped, code⟩ := stop
    obtain ⟨events, told⟩ := tells
    refine ⟨events, ?_, status ▸ told.marks, ?_⟩
    · dsimp only
      rw [told.trace, trace, append_assoc]
      rfl
    · rw [stopped]
      refine ⟨?_, code⟩
      rw [told.errorCount, errorCount, Nat.zero_add]
  | next e'' =>
    rw [ended] at stop tells
    obtain ⟨events, e', told, settles⟩ := tells
    obtain ⟨_, _, _, _, finished⟩ := cspsFinish_eq e''.stmt
    dsimp only
    rw [finished]
    refine ⟨events, ?_, ?_, ?_⟩
    · dsimp only
      rw [settles.trace, told.trace, trace, append_assoc]
      rfl
    · dsimp only
      rw [settles.status, ← status]
      exact told.marks
    · rw [show (s.plan env).stop = none from stop]
      dsimp only
      refine ⟨?_, ?_, fun none => ?_⟩
      · rw [settles.ret, told.ret, ret]
      · rw [settles.errorCount, settles.ret, rewrites, rows, told.errorCount, errorCount, Nat.zero_add]
        by_cases combined : s.combinesRows env = true ∧ e'.ret = .error
        · rw [if_pos combined, if_pos combined, (combinesRows_rows combined.1).1]
        · rw [if_neg combined, if_neg combined]
      · rw [settles.error, told.error none, error]

end Exec

end MaOdbc
