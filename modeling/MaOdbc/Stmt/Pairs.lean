/-
**Both sides execute the same pairs.**

Where every statement has parameters, all of them can be inserted or converted, and the server accepts
everything, the client side and the server side execute the same pairs of statement and row: all pairs
with a row that is not ignored, statement by statement and row by row. A combined `INSERT` executes the
rows whose tuples it contains.
-/

import MaOdbc.Stmt.Reports
import MaOdbc.Stmt.Statements

namespace MaOdbc

open List Exec Place Option

def Env.Accepts (env : Env) : Prop := ∀ request position, (env.server request position).isOk = true

theorem Env.Accepts.answer {env : Env} (accepts : env.Accepts) (request : Request) (position : Nat) :
    ∃ outcome, env.server request position = .ok outcome := by
  have accepted := accepts request position
  cases answered : env.server request position with
  | ok outcome => exact ⟨outcome, rfl⟩
  | failed native =>
    rw [answered] at accepted
    cases accepted

/-- What a part of an execution adds to the trace, with the pairs that it executes. -/
def Stmt.Adds (pairs : List (Nat × Nat)) (s s' : Stmt) : Prop :=
  ∃ events, s'.trace = s.trace ++ events ∧ sending.keysOf events = pairs

theorem Stmt.Adds.silent {s s' : Stmt} (trace : s'.trace = s.trace) : Adds [] s s' :=
  ⟨[], by rw [trace, append_nil], rfl⟩

theorem Stmt.Adds.trans {pairs pairs' : List (Nat × Nat)} {s s' s'' : Stmt} (first : Adds pairs s s')
    (second : Adds pairs' s' s'') : Adds (pairs ++ pairs') s s'' := by
  obtain ⟨events, trace, rfl⟩ := first
  obtain ⟨events', trace', rfl⟩ := second
  exact ⟨events ++ events', by rw [trace', trace, append_assoc], sending.keysOf_append _ _⟩

namespace Exec

variable {env : Env} {e e' e'' : Exec} {pairs pairs' : List (Nat × Nat)}

/-- What the rows of a statement keep on the server side when nothing fails, and the pairs they
execute. -/
structure Exact (pairs : List (Nat × Nat)) (e e' : Exec) : Prop where
  query : e'.stmt.query = e.stmt.query
  paramCount : e'.stmt.paramCount = e.stmt.paramCount
  curQuery : e'.curQuery = e.curQuery
  paramOffset : e'.paramOffset = e.paramOffset
  stmt : e'.stmt.stmt = e.stmt.stmt
  multiStmts : e'.stmt.multiStmts = e.stmt.multiStmts
  handles : e'.stmt.handles.length = e.stmt.handles.length
  error : e'.stmt.error = e.stmt.error
  executed : ∃ events, e'.stmt.trace = e.stmt.trace ++ events ∧ sending.keysOf events = pairs

theorem Exact.refl (e : Exec) : Exact [] e e :=
  ⟨rfl, rfl, rfl, rfl, rfl, rfl, rfl, rfl, Stmt.Adds.silent rfl⟩

theorem Exact.trans (first : Exact pairs e e') (second : Exact pairs' e' e'') :
    Exact (pairs ++ pairs') e e'' where
  query := second.query.trans first.query
  paramCount := second.paramCount.trans first.paramCount
  curQuery := second.curQuery.trans first.curQuery
  paramOffset := second.paramOffset.trans first.paramOffset
  stmt := second.stmt.trans first.stmt
  multiStmts := second.multiStmts.trans first.multiStmts
  handles := second.handles.trans first.handles
  error := second.error.trans first.error
  executed := Stmt.Adds.trans first.executed second.executed

theorem Exact.silent (query : e'.stmt.query = e.stmt.query)
    (paramCount : e'.stmt.paramCount = e.stmt.paramCount) (curQuery : e'.curQuery = e.curQuery)
    (paramOffset : e'.paramOffset = e.paramOffset) (stmt : e'.stmt.stmt = e.stmt.stmt)
    (multiStmts : e'.stmt.multiStmts = e.stmt.multiStmts)
    (handles : e'.stmt.handles.length = e.stmt.handles.length) (error : e'.stmt.error = e.stmt.error)
    (trace : e'.stmt.trace = e.stmt.trace) : Exact [] e e' :=
  ⟨query, paramCount, curQuery, paramOffset, stmt, multiStmts, handles, error, Stmt.Adds.silent trace⟩

theorem Exact.after (first : Exact pairs e e') (second : Exact [] e' e'') : Exact pairs e e'' := by
  have both := first.trans second
  rwa [append_nil] at both

theorem converted_exact {row : Nat} {indices : List Nat}
    (bound : ∀ i ∈ indices, env.record i = some true ∧ env.convert i row = .ok ()) :
    (forEach (convertNext env row) indices e).All (Exact [] e) fun _ => False := by
  have none : indices.flatMap (fun _ => ([] : List (Nat × Nat))) = [] := by simp
  rw [← none]
  refine forEach_collect (fun _ _ _ => False) Exact.refl Exact.trans (fun _ left _ => left) ?_
  intro i member _ e' _
  obtain ⟨record, convert⟩ := bound i member
  rw [convertNext, record, convert]
  exact .silent rfl rfl rfl rfl rfl rfl rfl rfl rfl

theorem ask_accepted (accepts : env.Accepts) (s : Stmt) (request : Request) (purpose : Purpose) :
    ∃ outcome, s.ask env request purpose = (.ok outcome, s.emit (.asked request purpose (.ok outcome))) := by
  obtain ⟨outcome, answered⟩ := accepts.answer request s.trace.length
  rw [Stmt.ask, answered]
  exact ⟨outcome, rfl⟩

theorem getOutParams_exact (accepts : env.Accepts) {s : Stmt}
    (reached : Exact pairs e { e with stmt := s }) :
    Exact pairs e (e.getOutParams env s) := by
  obtain ⟨outcome, asked⟩ := ask_accepted accepts s .storeResult {}
  simp only [getOutParams, asked]
  refine reached.after ?_
  exact ⟨rfl, rfl, rfl, rfl, rfl, rfl, rfl, rfl, _, rfl, rfl⟩

theorem doExecute_exact (accepts : env.Accepts) (purpose : Purpose) :
    Exact purpose.pairs e (e.doExecute env purpose) := by
  obtain ⟨outcome, asked⟩ := ask_accepted accepts e.stmt (.stmtExecute e.stmt.handle.text) purpose
  have keys : sending.keysOf [.asked (.stmtExecute e.stmt.handle.text) purpose (.ok outcome)] =
      purpose.pairs := by
    simp [Reading.keysOf, sending, Event.pairs]
  simp only [doExecute, asked]
  split
  · refine getOutParams_exact accepts ?_
    exact ⟨rfl, rfl, rfl, rfl, rfl, rfl, length_modify _ _ _, rfl, _, rfl, keys⟩
  · exact ⟨rfl, rfl, rfl, rfl, rfl, rfl, length_modify _ _ _, rfl, _, rfl, keys⟩

theorem sspsRowDone_exact (row : Nat) : Exact [] e (e.sspsRowDone env row) := by
  rw [sspsRowDone]
  generalize (if e.ret.succeeded then ParamStatus.success else _) = status
  generalize (if e.ret.succeeded then e.errorCount else _) = errorCount
  split
  · exact .silent rfl rfl rfl rfl rfl rfl rfl rfl rfl
  · exact .silent rfl rfl rfl rfl rfl rfl rfl rfl rfl

theorem sspsRow_exact (accepts : env.Accepts) (nr : Nat) (statement : Text) {row : Nat}
    (bound : env.ignored row = false → ∀ i ∈ range' e.paramOffset e.paramCount,
      env.record i = some true ∧ env.convert i row = .ok ()) :
    (sspsRow env nr statement row e).All (Exact ((takenRows env [row]).map (nr, ·)) e)
      fun _ => False := by
  rw [sspsRow, takenRows]
  cases ignored : env.ignored row with
  | true =>
    rw [if_pos rfl, filter_cons_of_neg (by simp [ignored])]
    exact .silent rfl rfl rfl rfl rfl rfl rfl rfl rfl
  | false =>
    rw [if_neg Bool.false_ne_true, filter_cons_of_pos (by simp [ignored])]
    let counted : Exec := { e with stmt := e.stmt.countRow }
    have counting : Exact [] e counted := .silent rfl rfl rfl rfl rfl rfl rfl rfl rfl
    have converted := converted_exact (e := counted) (bound ignored)
    split
    · rename_i exit left
      rw [left] at converted
      exact converted.elim
    · rename_i e' reached
      rw [reached] at converted
      let rebound : Exec := { e' with
        stmt := { e'.stmt with rebindParams := e'.stmt.rebindParams && e'.paramCount = 0 } }
      have binding : Exact [] e' rebound := .silent rfl rfl rfl rfl rfl rfl rfl rfl rfl
      have ran := doExecute_exact (e := rebound) accepts
        { statement := statement, pairs := [(nr, row)] }
      exact (((counting.after converted).after binding).trans ran).after (sspsRowDone_exact row)

theorem sspsRows_exact (accepts : env.Accepts) (nr : Nat) (statement : Text)
    (bound : ∀ row < env.arraySize, env.ignored row = false →
      ∀ i ∈ range' e.paramOffset e.paramCount,
        env.record i = some true ∧ env.convert i row = .ok ()) :
    (forEach (sspsRow env nr statement) (range env.arraySize) e).All
      (Exact ((takenRows env (range env.arraySize)).map (nr, ·)) e) fun _ => False := by
  have parts : (takenRows env (range env.arraySize)).map ((nr, ·) : Nat → Nat × Nat) =
      (range env.arraySize).flatMap fun row => (takenRows env [row]).map (nr, ·) := by
    conv_lhs =>
      rw [takenRows, ← flatMap_singleton' (range _), filter_flatMap, map_flatMap]
    rfl
  rw [parts]
  refine forEach_collect (fun _ _ _ => False) Exact.refl Exact.trans (fun _ left _ => left) ?_
  intro row member _ e' before
  refine sspsRow_exact accepts nr statement fun taken => ?_
  rw [before.paramOffset, show e'.paramCount = e.paramCount from congrArg Int.toNat before.paramCount]
  exact bound row (mem_range.mp member) taken

end Exec

structure Stmt.Owned (s : Stmt) : Prop where
  stmt : s.stmt < s.handles.length
  batch : ∀ multiStmts, s.multiStmts = some multiStmts → ∀ i, some i ∈ multiStmts → i < s.handles.length

theorem Stmt.Owned.newStmtHandle {s : Stmt} (owned : s.Owned) : s.newStmtHandle.Owned := by
  have longer : s.newStmtHandle.handles.length = s.handles.length + 1 := by
    simp [Stmt.newStmtHandle]
  refine ⟨?_, fun multiStmts found i member => ?_⟩
  · rw [longer]
    exact Nat.lt_succ_self _
  · rw [longer]
    exact (owned.batch multiStmts found i member).trans (Nat.lt_succ_self _)

theorem Stmt.Owned.register {s : Stmt} (owned : s.Owned) (nr : Nat) :
    Stmt.Owned { s with multiStmts := s.multiStmts.map (·.set nr (some s.stmt)) } := by
  refine ⟨owned.stmt, fun multiStmts found i member => ?_⟩
  obtain ⟨before, known, rfl⟩ := map_eq_some_iff.mp found
  rcases mem_or_eq_of_mem_set member with old | new
  · exact owned.batch before known i old
  · rw [some.inj new]
    exact owned.stmt

namespace Exec

variable {env : Env} {query : Query} {k : Nat} {e : Exec}

theorem multiStmt_owned {nr i : Nat} (owned : e.stmt.Owned) (found : e.multiStmt nr = some i) :
    i < e.stmt.handles.length := by
  rw [multiStmt, join_eq_some_iff] at found
  obtain ⟨multiStmts, known, here⟩ := bind_eq_some_iff.mp found
  exact owned.batch multiStmts known i (mem_of_getElem? here)

structure ServerAt (query : Query) (k : Nat) (e : Exec) : Prop where
  same : e.stmt.query = query
  curQuery : query.isMultiStmt = true → e.curQuery = query.start k
  paramOffset : e.paramOffset = query.markOffset (walked query k)
  single : query.isMultiStmt = false → e.stmt.paramCount = query.paramPositions.length
  owned : e.stmt.Owned
  first : k = 0 → ∀ i, e.multiStmt 0 = some i →
    (e.stmt.handles.getD i {}).paramCount = (query.marks 0).length
  error : e.stmt.error.nativeError ≠ unsupportedPs

theorem sspsSelect_owned (here : ServerAt query k e) (before : e.curQuery < query.refinedText.length) :
    ∃ s toPrepare, e.sspsSelect k = some (s, toPrepare) ∧ s.Owned ∧ s.query = query ∧
      s.trace = e.stmt.trace ∧ s.error = e.stmt.error ∧
      (toPrepare = false → s.handle.paramCount = (query.marks k).length) := by
  have notEnd : ¬ e.stmt.query.refinedText.length ≤ e.curQuery := by
    rw [here.same]
    exact Nat.not_le.mpr before
  rw [sspsSelect]
  dsimp only
  cases found : e.multiStmt k with
  | some i =>
    have inside := multiStmt_owned here.owned found
    dsimp only
    rw [if_neg notEnd]
    refine ⟨_, _, rfl, ⟨inside, here.owned.batch⟩, here.same, rfl, rfl, fun first => ?_⟩
    obtain rfl : k = 0 := by simpa using first
    exact here.first rfl i found
  | none =>
    dsimp only
    rw [if_neg notEnd]
    refine ⟨_, _, rfl, ?_, ?_, ?_, ?_, by rintro ⟨⟩⟩
    · split
      · exact here.owned.newStmtHandle.register k
      · refine Stmt.Owned.register (s := { e.stmt with
          multiStmts := some (replicate e.stmt.query.stmtCount none) }) ⟨here.owned.stmt, ?_⟩ k
        rintro multiStmts ⟨⟩ i member
        cases eq_of_mem_replicate member
    · split
      · exact here.same
      · exact here.same
    · split
      · rfl
      · rfl
    · split
      · rfl
      · rfl

structure ServerBegun (query : Query) (k : Nat) (e : Exec) : Prop where
  same : e.stmt.query = query
  curQuery : query.isMultiStmt = true → e.curQuery = query.start (k + 1)
  paramOffset : e.paramOffset = query.markOffset (walked query k)
  paramCount : e.stmt.paramCount = (query.marks k).length
  owned : e.stmt.Owned
  error : e.stmt.error.nativeError ≠ unsupportedPs

theorem stmtPrepare_accepted (accepts : env.Accepts) {s : Stmt} (owned : s.Owned) (text : Text) :
    ∃ s' outcome, stmtPrepare env s text = .ok s' ∧
      env.server (.stmtPrepare text) s.trace.length = .ok outcome ∧ s'.Owned ∧ s'.query = s.query ∧
      s'.error = s.error ∧ s'.handle.paramCount = outcome.paramCount ∧
      s'.trace = s.trace ++ [.asked (.stmtPrepare text) {} (.ok outcome)] := by
  obtain ⟨outcome, asked⟩ := ask_accepted accepts s (.stmtPrepare text) {}
  have answered : env.server (.stmtPrepare text) s.trace.length = .ok outcome :=
    congrArg Prod.fst asked
  simp only [stmtPrepare, asked]
  refine ⟨_, outcome, rfl, answered, ⟨?_, ?_⟩, rfl, rfl, ?_, rfl⟩
  · exact (length_modify _ _ _).symm ▸ owned.stmt
  · intro multiStmts found i member
    exact (length_modify _ _ _).symm ▸ owned.batch multiStmts found i member
  · show ((s.handles.modify s.stmt _).getD s.stmt {}).paramCount = _
    rw [getD_eq_getElem?_getD, getElem?_modify, getElem?_eq_getElem owned.stmt]
    simp

/-- The server counts the parameters of the statements as the driver does. -/
def Counts (env : Env) (query : Query) : Prop :=
  ∀ k < query.stmtCount, ∀ position outcome,
    env.server (.stmtPrepare (query.text k)) position = .ok outcome →
      outcome.paramCount = (query.marks k).length

theorem sspsParams_paramCount (laid : query.Laid) {s : Stmt}
    (count : s.handle.paramCount = (query.marks k).length) :
    (sspsParams s).paramCount = (query.marks k).length := by
  rw [sspsParams]
  dsimp only
  rw [count]
  split
  · assumption
  · exact laid.toSmallInt_marks k

section

variable (laid : query.Laid) (accepts : env.Accepts)

include laid accepts

theorem sspsInit_begun (counts : Counts env query) (inside : k < query.stmtCount)
    (multi : query.isMultiStmt = true) (here : ServerAt query k e) :
    ∃ e', e.sspsInit env k = .next (some e') ∧ ServerBegun query k e' ∧ Stmt.Adds [] e.stmt e'.stmt := by
  have within : k < query.texts.length := laid.length_texts ▸ inside
  have curQuery := here.curQuery multi
  have text : e.curText = query.text k := by
    rw [curText, here.same, curQuery]
    exact Query.cstr_start within
  have next : e.curQuery + e.curText.length + 1 = query.start (k + 1) := by
    rw [text, curQuery, Query.start_succ within]
  obtain ⟨s, toPrepare, selected, owned, same, trace, error, known⟩ :=
    sspsSelect_owned here (curQuery ▸ laid.start_lt inside)
  have begun : ∀ s' : Stmt, s'.Owned → s'.query = query → s'.error = e.stmt.error →
      s'.handle.paramCount = (query.marks k).length →
      ServerBegun query k
        { e with stmt := sspsParams s', curQuery := e.curQuery + e.curText.length + 1 } := by
    intro s' owned same error count
    exact
      { same := same
        curQuery := fun _ => next
        paramOffset := here.paramOffset
        paramCount := sspsParams_paramCount laid count
        owned := ⟨owned.stmt, owned.batch⟩
        error := by
          show s'.error.nativeError ≠ _
          rw [error]
          exact here.error }
  rw [sspsInit, selected]
  dsimp only
  cases toPrepare with
  | false =>
    rw [if_neg Bool.false_ne_true]
    exact ⟨_, rfl, begun s owned same error (known rfl), .silent trace⟩
  | true =>
    obtain ⟨s', outcome, prepared, answered, owned', same', error', count, grown⟩ :=
      stmtPrepare_accepted accepts owned e.curText
    rw [if_pos rfl, prepared]
    rw [text] at answered
    refine ⟨_, rfl, begun s' owned' (same'.trans same) (error'.trans error)
      (count.trans (counts k inside _ outcome answered)), _, grown.trans (by rw [trace]), rfl⟩

theorem sspsNext_exact (inside : k < query.stmtCount) (begun : ServerBegun query k e) :
    ServerAt query (k + 1) (e.sspsNext env) ∧ Stmt.Adds [] e.stmt (e.sspsNext env).stmt := by
  have within : k < query.texts.length := laid.length_texts ▸ inside
  have count : e.paramCount = (query.marks k).length := congrArg Int.toNat begun.paramCount
  rw [sspsNext, begun.same]
  cases multi : query.isMultiStmt with
  | true =>
    have walks : walked query k = k := if_pos multi
    have walks' : walked query (k + 1) = k + 1 := if_pos multi
    have offset : e.paramOffset + e.paramCount = query.markOffset (walked query (k + 1)) := by
      rw [walks', laid.marked.markOffset_succ within, count, begun.paramOffset, walks]
    rw [if_pos rfl]
    dsimp only
    split
    · obtain ⟨outcome, asked⟩ := ask_accepted accepts e.stmt .storeResult {}
      rw [asked]
      exact ⟨⟨begun.same, begun.curQuery, offset, fun one => by simp [multi] at one,
        ⟨begun.owned.stmt, begun.owned.batch⟩, by simp, begun.error⟩, _, rfl, rfl⟩
    · exact ⟨⟨begun.same, begun.curQuery, offset, fun one => by simp [multi] at one, begun.owned,
        by simp, begun.error⟩, .silent rfl⟩
  | false =>
    have none : walked query k = walked query (k + 1) := by simp [walked, multi]
    rw [if_neg Bool.false_ne_true]
    refine ⟨⟨begun.same, fun one => by simp [multi] at one, none ▸ begun.paramOffset, fun _ => ?_,
      begun.owned, by simp, begun.error⟩, .silent rfl⟩
    rw [begun.paramCount, laid.marks_single inside multi]

/-- The parameters of all rows that are not ignored are bound and can be converted. -/
def Converts (env : Env) (query : Query) : Prop :=
  ∀ row < env.arraySize, env.ignored row = false → ∀ i < query.paramPositions.length,
    env.record i = some true ∧ env.convert i row = .ok ()

def rowPairsTaken (env : Env) (k : Nat) : List (Nat × Nat) :=
  (takenRows env (List.range env.arraySize)).map (k, ·)

theorem sspsStatement_exact (counts : Counts env query) (converts : Converts env query)
    (inside : k < query.stmtCount) (here : ServerAt query k e) :
    (sspsStatement env k e).All
      (fun e' => ServerAt query (k + 1) e' ∧ Stmt.Adds (rowPairsTaken env k) e.stmt e'.stmt) fun _ => False := by
  have started : ∃ e₁, (if e.stmt.query.isMultiStmt then e.sspsInit env k else .next (some e)) =
      .next (some e₁) ∧ ServerBegun query k e₁ ∧ Stmt.Adds [] e.stmt e₁.stmt := by
    rw [here.same]
    cases multi : query.isMultiStmt with
    | true =>
      rw [if_pos rfl]
      exact sspsInit_begun laid accepts counts inside multi here
    | false =>
      rw [if_neg Bool.false_ne_true]
      refine ⟨e, rfl, ⟨here.same, fun one => by simp [multi] at one, here.paramOffset, ?_, here.owned,
        here.error⟩, .silent rfl⟩
      rw [here.single multi, laid.marks_single inside multi]
  obtain ⟨e₁, init, begun, before⟩ := started
  have bound : ∀ row < env.arraySize, env.ignored row = false →
      ∀ i ∈ range' e₁.paramOffset e₁.paramCount,
        env.record i = some true ∧ env.convert i row = .ok () := by
    intro row less taken i member
    have walks : walked query k = k := by
      rw [walked]
      split
      · rfl
      · rename_i one
        rw [Query.isMultiStmt, decide_eq_true_eq] at one
        omega
    rw [begun.paramOffset, walks, show e₁.paramCount = (query.marks k).length from
      congrArg Int.toNat begun.paramCount, mem_range'_1] at member
    exact converts row less taken i
      (laid.marked.getD_bounds (laid.length_texts ▸ inside) member.1 member.2).2.2
  have rows := sspsRows_exact (e := e₁) accepts k e.curText bound
  rw [sspsStatement, init]
  dsimp only
  split
  · rename_i exit left
    rw [left] at rows
    exact rows.elim
  · rename_i e₂ reached
    rw [reached] at rows
    have after : ServerBegun query k e₂ :=
      { same := rows.query.trans begun.same
        curQuery := fun multi => rows.curQuery.trans (begun.curQuery multi)
        paramOffset := rows.paramOffset.trans begun.paramOffset
        paramCount := rows.paramCount.trans begun.paramCount
        owned := by
          refine ⟨by rw [rows.stmt, rows.handles]; exact begun.owned.stmt, ?_⟩
          rw [rows.multiStmts, rows.handles]
          exact begun.owned.batch
        error := by rw [rows.error]; exact begun.error }
    obtain ⟨arrived, behind⟩ := sspsNext_exact laid accepts inside after
    have all := (before.trans rows.executed).trans behind
    rw [append_nil] at all
    exact ⟨arrived, all⟩

theorem sspsStatements_exact (counts : Counts env query) (converts : Converts env query)
    (here : ServerAt query 0 e) :
    (forEach (sspsStatement env) (range query.stmtCount) e).All
      (fun e' => ServerAt query query.stmtCount e' ∧
        Stmt.Adds ((range query.stmtCount).flatMap (rowPairsTaken env)) e.stmt e'.stmt) fun _ => False := by
  have step : ∀ k e', 0 ≤ k → k < 0 + query.stmtCount →
      (ServerAt query k e' ∧ Stmt.Adds ((range k).flatMap (rowPairsTaken env)) e.stmt e'.stmt) →
      (sspsStatement env k e').All (fun e'' => ServerAt query (k + 1) e'' ∧
        Stmt.Adds ((range (k + 1)).flatMap (rowPairsTaken env)) e.stmt e''.stmt) fun _ => False := by
    rintro k e' - upper ⟨arrived, adds⟩
    refine (sspsStatement_exact laid accepts counts converts (by omega) arrived).imp ?_ fun _ left => left
    rintro e'' ⟨next, adds'⟩
    refine ⟨next, ?_⟩
    rw [range_succ, flatMap_append, flatMap_singleton]
    exact adds.trans adds'
  have rule := forEach_range'_rule _ step ⟨here, .silent rfl⟩
  rwa [Nat.zero_add, ← range_eq_range'] at rule

end

theorem sspsFinish_exact (accepts : env.Accepts) :
    ∃ e', e.sspsFinish env = .toEnd e' ∧ e'.stmt.error = e.stmt.error ∧ Stmt.Adds [] e.stmt e'.stmt := by
  rw [sspsFinish]
  split
  · exact ⟨_, rfl, rfl, .silent rfl⟩
  · split
    · split
      · obtain ⟨outcome, asked⟩ := ask_accepted accepts e.stmt .storeResult {}
        rw [asked]
        exact ⟨_, rfl, rfl, _, rfl, rfl⟩
      · exact ⟨_, rfl, rfl, .silent rfl⟩
    · exact ⟨_, rfl, rfl, .silent rfl⟩

end Exec

namespace Stmt

variable {env : Env} {s : Stmt}

structure ServerReady (s : Stmt) : Prop where
  owned : s.Owned
  single : s.query.isMultiStmt = false → s.paramCount = s.query.paramPositions.length
  first : ∀ multiStmts i, s.multiStmts = some multiStmts → multiStmts[0]? = some (some i) →
    (s.handles.getD i {}).paramCount = (s.query.marks 0).length

structure PlainServer (env : Env) (s : Stmt) : Prop where
  server : s.sspsDisabled env = false
  notEmulated : s.state ≠ .emulated
  notPositioned : s.positionedCommand = false
  hasMemory : (!s.hasParams && !env.allocParams) = false
  noData : env.needsData = false

/-- A call carries out its statements, each for the rows that it takes. -/
def Carries (env : Env) (s : Stmt) (exit : Exit) : Prop :=
  ∃ e', exit = .toEnd e' ∧ e'.stmt.error.nativeError ≠ unsupportedPs ∧
    ∃ events, e'.stmt.trace = s.trace ++ .lock :: events ∧
      sending.keysOf events = (List.range s.query.stmtCount).flatMap (rowPairsTaken env)

theorem sspsStatements_carries (laid : s.query.Laid) (accepts : env.Accepts) (counts : Exec.Counts env s.query)
    (converts : Exec.Converts env s.query) {e : Exec} (here : Exec.ServerAt s.query 0 e)
    (trace : e.stmt.trace = s.trace ++ [.lock]) :
    Carries env s
      (match forEach (sspsStatement env) (range s.query.stmtCount) e with
        | .leave exit => exit
        | .next e => e.sspsFinish env) := by
  have loop := sspsStatements_exact laid accepts counts converts here
  split
  · rename_i exit left
    rw [left] at loop
    exact loop.elim
  · rename_i e' reached
    rw [reached] at loop
    obtain ⟨arrived, adds⟩ := loop
    obtain ⟨e'', finished, error', silent⟩ := sspsFinish_exact (e := e') accepts
    obtain ⟨events, trace', keys⟩ := adds.trans silent
    rw [trace, append_assoc] at trace'
    exact ⟨e'', finished, by rw [error']; exact arrived.error, events, trace', keys.trans (append_nil _)⟩

theorem executeSsps_exact (laid : s.query.Laid) (ready : s.ServerReady) (error : s.error.nativeError ≠ unsupportedPs)
    (noData : env.needsData = false) (accepts : env.Accepts) (counts : Exec.Counts env s.query)
    (converts : Exec.Converts env s.query) : Carries env s (executeSsps env s) := by
  have first : walked s.query 0 = 0 := ite_self 0
  rw [executeSsps, noData, if_neg Bool.false_ne_true]
  refine sspsStatements_carries laid accepts counts converts ⟨rfl, fun _ => rfl, ?_, ready.single,
    ⟨ready.owned.stmt, ready.owned.batch⟩, ?_, error⟩ rfl
  · rw [first, Query.markOffset_zero]
  · rintro - i found
    rw [multiStmt, join_eq_some_iff] at found
    obtain ⟨multiStmts, known, here⟩ := bind_eq_some_iff.mp found
    exact ready.first multiStmts i known here

theorem executePlain_server {e : Exec} (server : s.sspsDisabled env = false)
    (hasMemory : (!s.hasParams && !env.allocParams) = false)
    (ended : executeSsps env { s with hasParams := true } = .toEnd e) :
    s.executePlain env = executeEnd env e := by
  have disabled : { s with hasParams := true }.sspsDisabled env = false := server
  have same : ¬ { s with hasParams := true }.sspsDisabled env = true := by
    rw [disabled]
    exact Bool.false_ne_true
  rw [executePlain, hasMemory, if_neg Bool.false_ne_true]
  dsimp only
  rw [if_neg same, ended]

theorem keysOf_executeEvents {events : List Event}
    (whole : (s.stmtExecute env).2.trace = s.trace ++ .enter :: .lock :: (events ++ [.unlock])) :
    sending.keysOf (s.executeEvents env) = sending.keysOf events := by
  have silent : sending.keysOf [.unlock] = [] := rfl
  have outer : sending.keysOf (.enter :: .lock :: (events ++ [.unlock])) =
      sending.keysOf (events ++ [.unlock]) := rfl
  rw [executeEvents, whole, drop_left, outer, sending.keysOf_append, silent, append_nil]

theorem serverPairs (laid : s.query.Laid) (ready : s.ServerReady) (plain : s.PlainServer env) (accepts : env.Accepts)
    (counts : Exec.Counts env s.query) (converts : Exec.Converts env s.query) :
    sending.keysOf (s.executeEvents env) =
      (range s.query.stmtCount).flatMap (rowPairsTaken env) := by
  have ready' : s.entered.ServerReady := 
    ⟨⟨ready.owned.stmt, ready.owned.batch⟩, ready.single, ready.first⟩
  obtain ⟨e', ended, error, events, trace, keys⟩ := executeSsps_exact (s := s.entered) laid ready'
    (show (0 : Nat) ≠ unsupportedPs by decide) plain.noData accepts counts converts
  have executed : s.stmtExecute env = executeEnd env e' := by
    rw [stmtExecute_executePlain plain.notEmulated plain.notPositioned]
    exact executePlain_server plain.server plain.hasMemory ended
  have whole : (s.stmtExecute env).2.trace = s.trace ++ .enter :: .lock :: (events ++ [.unlock]) := by
    rw [executed, executeEnd_eq, if_neg error, ite_self]
    show e'.stmt.trace ++ [.unlock] = _
    rw [trace]
    simp [entered, emit]
  exact (keysOf_executeEvents whole).trans keys

/-! ### The client side -/

end Stmt

theorem Query.pairs_of_marks {env : Env} {query : Query}
    (params : ∀ k < query.stmtCount, query.marks k ≠ []) :
    query.pairs env = (range query.stmtCount).flatMap (rowPairsTaken env) := by
  refine flatMap_congr fun k member => ?_
  have some : 0 < (query.place k).paramCount :=
    length_pos_of_ne_nil (params k (mem_range.mp member))
  rw [rowCount, if_pos some]
  rfl

theorem Query.Laid.of_parsed {query : Query} (text : QueryText) (replace batchAllowed : Bool)
    (parsed : query = { text.parse replace batchAllowed with returnsResult := query.returnsResult })
    (corresponds : Corresponds query.refinedText (query.subQuery.map (·.queryText)))
    (few : query.paramPositions.length < 2 ^ 15) : query.Laid := by
  refine ⟨?_, corresponds, few⟩
  rw [parsed]
  exact ⟨(madbParseQuery_marked _ replace).rising, (madbParseQuery_marked _ replace).marks⟩

theorem Env.Accepts.answersPlainly {env : Env} (accepts : env.Accepts) : env.AnswersPlainly where
  fails text position native failed := by
    obtain ⟨outcome, answered⟩ := accepts.answer (.query text) position
    rw [failed] at answered
    cases answered
  stores := accepts .storeResult

theorem Sent.failures {env : Env} (accepts : env.Accepts) {slots : List Slot} {events : List Event}
    (sent : Sent env slots events) : failures events = 0 := by
  have built : ∀ builds : List Build, MaOdbc.failures (builds.map Build.event) = 0 := by
    intro builds
    induction builds with
    | nil => rfl
    | cons _ _ ih => exact ih
  induction sent with
  | nil => rfl
  | @cons slot slots events position _ ih =>
    have ok := accepts (.query slot.query) position
    rw [failures_append, built, Nat.zero_add, ← singleton_append, failures_append, ih, MaOdbc.failures]
    simp [queriesOf, Event.answered, ok]
  | store _ _ ih => exact ih

namespace Stmt

variable {env : Env} {s : Stmt}

theorem returnCode_accepted (accepts : env.Accepts) (complete : (s.plan env).stop = none) :
    returnCode env (executeCsps env s.entered) = .success := by
  have planned : s.entered.plan env = s.plan env := plan_congr rfl rfl rfl
  obtain ⟨events, sent, trace, -⟩ := executeCsps_course env s.entered
  obtain ⟨events', trace', -, told⟩ := executeCsps_tells accepts.answersPlainly s.entered
  rw [planned, Plan.unsent, complete, append_nil, trace'] at trace
  obtain rfl : events' = events := (cons_inj_right _).mp (append_cancel_left trace)
  rw [planned, complete] at told
  obtain ⟨ret, errorCount, -⟩ := told
  have none := sent.failures accepts
  rw [lastCode_of_failures none] at ret
  have zero : (executeCsps env s.entered).errorCount = 0 := by
    rw [errorCount, ret, if_neg (by simp), none]
  rw [returnCode, if_pos zero, ret]

theorem clientPairs (laid : s.Laid) (plain : s.Plain env) (accepts : env.Accepts)
    (inserts : s.query.Inserts env) : sending.keysOf (s.executeEvents env) = s.query.pairs env := by
  have ready : s.entered.Laid := ⟨laid.query, laid.single⟩
  obtain ⟨stop, pairs⟩ := laid.query.plan_pairs inserts
  obtain ⟨events, sent, trace, -⟩ := executeCsps_walks env ready
  have unsent : (s.query.plan env).unsent = [] := by rw [Plan.unsent, stop]
  have same : s.entered.query.plan env = s.query.plan env := rfl
  rw [same] at sent trace
  rw [unsent, append_nil] at trace
  have code := returnCode_accepted accepts (laid.plan_eq ▸ stop)
  have whole : (s.stmtExecute env).2.trace = s.trace ++ .enter :: .lock :: (events ++ [.unlock]) := by
    rw [stmtExecute_succeeded plain (by rw [code]; rfl)]
    show (executeCsps env s.entered).stmt.trace ++ [.unlock] = _
    rw [trace]
    simp [entered, emit]
  rw [keysOf_executeEvents whole, sent.keysOf, pairs]

/-- **Both sides execute the same pairs**, in the same order. -/
theorem stmtExecute_pairs {client server : Stmt} {env env' : Env} (text : QueryText)
    (replace batchAllowed : Bool)
    (parsed : client.query =
      { text.parse replace batchAllowed with returnsResult := client.query.returnsResult })
    (corresponds : Corresponds client.query.refinedText (client.query.subQuery.map (·.queryText)))
    (few : client.query.paramPositions.length < 2 ^ 15)
    (params : ∀ k < client.query.stmtCount, client.query.marks k ≠ [])
    -- the client side
    (counted : client.query.isMultiStmt = false →
      client.paramCount = toSmallInt client.query.paramPositions.length)
    (plain : client.Plain env) (accepts : env.Accepts) (inserts : client.query.Inserts env)
    -- the server side
    (same : server.query = client.query) (sameRows : env'.arraySize = env.arraySize)
    (sameIgnored : env'.ignored = env.ignored) (ready : server.ServerReady)
    (plain' : server.PlainServer env') (accepts' : env'.Accepts)
    (counts : Exec.Counts env' server.query) (converts : Exec.Converts env' server.query) :
    sending.keysOf (client.executeEvents env) =
        (List.range client.query.stmtCount).product
          ((List.range env.arraySize).filter (!env.ignored ·)) ∧
      sending.keysOf (server.executeEvents env') =
        (List.range client.query.stmtCount).product
          ((List.range env.arraySize).filter (!env.ignored ·)) := by
  have laid : client.query.Laid := .of_parsed text replace batchAllowed parsed corresponds few
  have exact : toSmallInt client.query.paramPositions.length = client.query.paramPositions.length :=
    toSmallInt_of_lt few
  constructor
  · have ready : client.Laid := ⟨laid, fun single => (counted single).trans exact⟩
    rw [clientPairs ready plain accepts inserts, Query.pairs_of_marks params]
    rfl
  · have taken : rowPairsTaken env' = rowPairsTaken env := by
      funext k
      rw [rowPairsTaken, rowPairsTaken, takenRows, takenRows, sameRows, sameIgnored]
    rw [serverPairs (same ▸ laid) ready plain' accepts' counts converts, same, taken]
    rfl

/-- Two statements with a parameter each. -/
def twoStatements : Text := lit "SELECT ? ;SELECT ?"

def clientRows : Env where
  server := fun _ _ => .ok {}
  noSsps := true
  multiStatements := true
  arraySize := 3
  ignored := (· == 1)

def serverRows : Env where
  server := fun _ _ => .ok { paramCount := 1 }
  multiStatements := true
  arraySize := 3
  ignored := (· == 1)

def preparedRows (env : Env) : Stmt := (({} : Stmt).stmtPrepare env twoStatements false).2

theorem preparedRows_ready : (preparedRows serverRows).ServerReady where
  owned := ⟨by decide +kernel, fun multiStmts found i member => by
    obtain rfl : multiStmts = [some 0, some 1] :=
      some.inj (found.symm.trans (by decide +kernel))
    have two : (preparedRows serverRows).handles.length = 2 := by decide +kernel
    simp only [mem_cons, some.injEq, not_mem_nil, or_false] at member
    omega⟩
  single := by decide +kernel
  first multiStmts i found here := by
    obtain rfl : multiStmts = [some 0, some 1] :=
      some.inj (found.symm.trans (by decide +kernel))
    obtain rfl : i = 0 := (some.inj (some.inj here)).symm
    decide +kernel

/-- Both sides execute both statements for the first and the third row. -/
theorem stmtExecute_pairs_two :
    sending.keysOf ((preparedRows clientRows).executeEvents clientRows) = [(0, 0), (0, 2), (1, 0), (1, 2)] ∧
      sending.keysOf ((preparedRows serverRows).executeEvents serverRows) =
        [(0, 0), (0, 2), (1, 0), (1, 2)] := by
  have pairs : (List.range (preparedRows clientRows).query.stmtCount).product
      ((List.range clientRows.arraySize).filter (!clientRows.ignored ·)) =
        [(0, 0), (0, 2), (1, 0), (1, 2)] := by
    decide +kernel
  rw [← pairs]
  exact @stmtExecute_pairs (preparedRows clientRows) (preparedRows serverRows) clientRows serverRows
    ⟨twoStatements, by decide +kernel⟩ false true rfl
    ⟨by decide +kernel, by decide +kernel⟩ (by decide +kernel) (by decide +kernel) (by decide +kernel)
    ⟨by decide +kernel, by decide +kernel, by decide +kernel, by decide +kernel⟩ (fun _ _ => rfl)
    (fun _ _ _ _ _ => ⟨rfl, rfl⟩) (by decide +kernel) rfl rfl preparedRows_ready
    ⟨by decide +kernel, by decide +kernel, by decide +kernel, by decide +kernel, rfl⟩ (fun _ _ => rfl)
    (fun k inside _ outcome answered => by
      cases answered
      revert inside
      revert k
      decide +kernel)
    (fun _ _ _ _ _ => ⟨rfl, rfl⟩)

end Stmt

end MaOdbc
