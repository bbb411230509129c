/-
**What the loops of an execution do.**

Inside the loops of `MADB_StmtExecute` nothing locks, and the pairs of statement and row are executed in
order and at most once: `Works pairs s s'` says that the trace grew by such work, and that the pairs
executed are among `pairs`, in their order. Each function of the server-side part has one lemma.
-/

import MaOdbc.Library.Attempts
import MaOdbc.Stmt.Execute

namespace MaOdbc

open List

/-! ### Work -/

/-- Events of the loops. A statement that cannot be prepared ends them. -/
def Event.isWork : Event → Bool
  | .built .. => true
  | .asked (.stmtPrepare _) _ (.failed _) => false
  | .asked .. => true
  | _ => false

def Event.pairs : Event → List (Nat × Nat)
  | .asked _ purpose _ => purpose.pairs
  | _ => []

def Event.isOk : Event → Bool
  | .asked _ _ answer => answer.isOk
  | _ => false

/-- A trace as a run of attempts: each entry of `MADB_StmtExecute` starts one. -/
def sending : Reading Event (Nat × Nat) where
  keys := Event.pairs
  succeeded := Event.isOk
  starts event := event == .enter

/-- **Work**: the trace grows by events of the loops, which execute some of the pairs, in order. -/
def Works (pairs : List (Nat × Nat)) (s s' : Stmt) : Prop :=
  ∃ events, s'.trace = s.trace ++ events ∧ (∀ event ∈ events, event.isWork = true) ∧
    (sending.keysOf events).Sublist pairs

variable {all : List (Nat × Nat)} {request : Request} {purpose : Purpose} {answer : Answer}

section Works

variable {pairs pairs' : List (Nat × Nat)} {s s' s'' : Stmt}

theorem Works.of_trace (same : s'.trace = s.trace) : Works [] s s' :=
  ⟨[], by rw [same, append_nil], by simp, List.Sublist.refl _⟩

theorem Works.trans (first : Works pairs s s') (second : Works pairs' s' s'') :
    Works (pairs ++ pairs') s s'' := by
  obtain ⟨events, trace, work, sub⟩ := first
  obtain ⟨events', trace', work', sub'⟩ := second
  refine ⟨events ++ events', by rw [trace', trace, append_assoc], ?_, ?_⟩
  · intro event member
    rcases mem_append.mp member with before | after
    · exact work event before
    · exact work' event after
  · rw [sending.keysOf_append]
    exact sub.append sub'

theorem Works.mono (works : Works pairs s s') (sub : pairs.Sublist pairs') : Works pairs' s s' := by
  obtain ⟨events, trace, work, sub'⟩ := works
  exact ⟨events, trace, work, sub'.trans sub⟩

theorem Works.leave (first : Works pairs s s') (second : Works pairs' s' s'')
    (sub : (pairs ++ pairs').Sublist all) : Works all s s'' :=
  (first.trans second).mono sub

theorem Works.after (first : Works pairs s s') (second : Works [] s' s'') : Works pairs s s'' := by
  have both := first.trans second
  rwa [append_nil] at both

theorem Works.congr (works : Works pairs s s') (same : s''.trace = s'.trace) : Works pairs s s'' := by
  obtain ⟨events, trace, rest⟩ := works
  exact ⟨events, same.trans trace, rest⟩

theorem works_asked (s : Stmt) (work : (Event.asked request purpose answer).isWork = true) :
    Works purpose.pairs s (s.emit (.asked request purpose answer)) := by
  refine ⟨[.asked request purpose answer], rfl, by simpa using work, ?_⟩
  rw [Reading.keysOf, flatMap_singleton]
  exact List.Sublist.refl _

theorem Stmt.eq_of_ask {env : Env} (answered : s.ask env request purpose = (answer, s')) :
    s' = s.emit (.asked request purpose answer) := by
  cases answered
  rfl

end Works

namespace Exec

variable {e e' : Exec} {pairs pairs' : List (Nat × Nat)}

abbrev Done (pairs : List (Nat × Nat)) (e e' : Exec) : Prop := Works pairs e.stmt e'.stmt

theorem Done.refl (e : Exec) : Done [] e e := .of_trace rfl

/-! ### Rows and statements -/

def rowPairs (env : Env) (statementNr : Nat) : List (Nat × Nat) :=
  (List.range (max 1 env.arraySize)).map (statementNr, ·)

def runPairs (env : Env) (count : Nat) : List (Nat × Nat) := (List.range count).flatMap (rowPairs env)

theorem batches_eq (n r : Nat) (k : Nat) :
    ((range k).flatMap fun b => (range' (b * r) r).filter (· < n)) =
      (range (k * r)).filter (· < n) := by
  induction k with
  | zero => simp
  | succ k ih =>
    have all : range ((k + 1) * r) = range (k * r) ++ range' (k * r) r := by
      rw [range_eq_range', range_eq_range', Nat.succ_mul, ← range'_append_1, Nat.zero_add]
    rw [range_succ, flatMap_append, flatMap_singleton, ih, all, filter_append]

theorem filter_range (m n : Nat) : (range m).filter (· < n) = range (min m n) := by
  induction m with
  | zero => simp
  | succ m ih =>
    rw [range_succ, filter_append, ih]
    by_cases inside : m < n
    · rw [filter_cons_of_pos (by simpa using inside), filter_nil, Nat.min_eq_left inside.le,
        Nat.min_eq_left inside, range_succ]
    · rw [filter_cons_of_neg (by simpa using inside), filter_nil, append_nil]
      congr 1
      omega

variable (env : Env) (e : Exec)

/-! ### The server side -/

theorem getOutParams_done {s : Stmt} (works : Works pairs e.stmt s) : Done pairs e (e.getOutParams env s) := by
  rcases answered : s.ask env .storeResult {} with ⟨answer, s'⟩
  obtain rfl := Stmt.eq_of_ask answered
  have stored : Works [] s (s.emit (.asked .storeResult {} answer)) := works_asked s rfl
  cases answer with
  | failed | ok =>
    simp only [getOutParams, answered]
    exact works.after stored

theorem doExecute_done (purpose : Purpose) : Done purpose.pairs e (e.doExecute env purpose) := by
  rcases answered : e.stmt.ask env (.stmtExecute e.stmt.handle.text) purpose with ⟨answer, s⟩
  obtain rfl := Stmt.eq_of_ask answered
  have works : Works purpose.pairs e.stmt
      (e.stmt.emit (.asked (.stmtExecute e.stmt.handle.text) purpose answer)) :=
    works_asked e.stmt rfl
  cases answer with
  | failed native =>
    simp only [doExecute, answered]
    exact works
  | ok outcome =>
    simp only [doExecute, answered]
    split
    · exact getOutParams_done env e works
    · exact works

theorem sspsRowDone_done (row : Nat) : Done [] e (e.sspsRowDone env row) := by
  rw [sspsRowDone]
  generalize (if e.ret.succeeded then ParamStatus.success else _) = status
  generalize (if e.ret.succeeded then e.errorCount else _) = errorCount
  split
  · exact .of_trace rfl
  · exact .of_trace rfl

/-- How the loops of the server-side part are left: to the label `end`, or at a statement that the server
could not prepare. -/
inductive Left (pairs : List (Nat × Nat)) (e : Exec) : Exit → Prop
  | toEnd (reached : Exec) : Done pairs e reached → Left pairs e (.toEnd reached)
  | out (reached returned : Exec) (text : Text) (native : NativeError) : Done pairs e reached →
      returned.stmt.trace =
        reached.stmt.trace ++ [.asked (.stmtPrepare text) {} (.failed native)] →
      Left pairs e (.out returned)

theorem Left.leave {e e' : Exec} {exit : Exit} (first : Done pairs e e')
    (second : Left pairs' e' exit) (sub : (pairs ++ pairs').Sublist all) : Left all e exit := by
  cases second with
  | toEnd reached done => exact .toEnd reached (first.leave done sub)
  | out reached returned text native done trace =>
    exact .out reached returned text native (first.leave done sub) trace

theorem convertNext_done (row i : Nat) :
    (convertNext env row i e).All (Done [] e) (Left [] e) := by
  rw [convertNext]
  split
  · exact .refl e
  · exact .toEnd _ (.of_trace rfl)
  · split
    · exact .toEnd _ (.of_trace rfl)
    · exact .of_trace rfl

theorem converted_done (row : Nat) (indices : List Nat) :
    (forEach (convertNext env row) indices e).All (Done [] e) (Left [] e) := by
  have none : indices.flatMap (fun _ => ([] : List (Nat × Nat))) = [] := by simp
  rw [← none]
  exact forEach_collect Left Done.refl Works.trans Left.leave
    fun i _ _ e' _ => convertNext_done env e' row i

theorem sspsRow_done (nr row : Nat) (statement : Text) :
    (sspsRow env nr statement row e).All (Done [(nr, row)] e) (Left [(nr, row)] e) := by
  have counted : Done [] e { e with stmt := e.stmt.countRow } :=
    .of_trace rfl
  rw [sspsRow]
  split
  · exact Works.mono (.of_trace rfl) (nil_sublist _)
  · have converted := converted_done env { e with stmt := e.stmt.countRow } row
      (range' e.paramOffset e.paramCount)
    split
    · rename_i exit ended
      rw [ended] at converted
      exact converted.leave counted (nil_sublist _)
    · rename_i e' ended
      rw [ended] at converted
      have bound : Done [] e' { e' with
          stmt := { e'.stmt with rebindParams := e'.stmt.rebindParams && e'.paramCount = 0 } } :=
        .of_trace rfl
      have ran := doExecute_done env { e' with
          stmt := { e'.stmt with rebindParams := e'.stmt.rebindParams && e'.paramCount = 0 } }
        { statement := statement, pairs := [(nr, row)] }
      exact (((counted.after converted).after bound).trans ran).after (sspsRowDone_done env _ row)

theorem sspsNext_done : Done [] e (e.sspsNext env) := by
  rw [sspsNext]
  split
  · dsimp only
    split
    · exact works_asked e.stmt rfl
    · exact .of_trace rfl
  · exact .refl e

theorem sspsSelect_done {nr : Nat} {s : Stmt} {toPrepare : Bool}
    (selected : e.sspsSelect nr = some (s, toPrepare)) :
    s.trace = e.stmt.trace := by
  rw [sspsSelect] at selected
  split at selected
  · split at selected
    · cases selected
    · cases selected
      rfl
  · split at selected
    · cases selected
    · cases selected
      split
      · rfl
      · rfl

theorem sspsInit_done (nr : Nat) :
    (e.sspsInit env nr).All (fun started => ∀ e', started = some e' → Done [] e e') (Left [] e) := by
  rw [sspsInit]
  split
  · intro e' none
    cases none
  · rename_i s toPrepare selected
    have trace := sspsSelect_done e selected
    cases toPrepare with
    | false =>
      intro e' started
      cases started
      exact (.of_trace trace)
    | true =>
      simp only [if_true]
      rcases stmtPrepare_cases env s e.curText with ⟨native, -, failed⟩ | ⟨outcome, handles, -, prepared⟩
      · rw [failed]
        exact .out { e with stmt := s } _ e.curText native (.of_trace trace) rfl
      · rw [prepared]
        rintro e' ⟨⟩
        refine ⟨[.asked (.stmtPrepare e.curText) {} (.ok outcome)], congrArg (· ++ [_]) trace, ?_, ?_⟩
        · simp [Event.isWork]
        · simp [Reading.keysOf, sending, Event.pairs]

theorem sspsRows_done (nr : Nat) (statement : Text) :
    (forEach (sspsRow env nr statement) (range env.arraySize) e).All
      (Done (rowPairs env nr) e) (Left (rowPairs env nr) e) := by
  have rows : ((range env.arraySize).map ((nr, ·) : Nat → Nat × Nat)).Sublist
      (rowPairs env nr) :=
    (range_sublist.mpr (Nat.le_max_right 1 _)).map _
  have loop : (forEach (sspsRow env nr statement) (range env.arraySize) e).All
      (Done ((range env.arraySize).map (nr, ·)) e)
      (Left ((range env.arraySize).map (nr, ·)) e) := by
    rw [map_eq_flatMap]
    exact forEach_collect Left Done.refl Works.trans Left.leave
      fun row _ _ e' _ => sspsRow_done env e' nr row statement
  exact loop.imp (fun _ done => done.mono rows)
    fun _ left => left.leave (Done.refl e) rows

theorem sspsStatement_done (nr : Nat) :
    (sspsStatement env nr e).All (Done (rowPairs env nr) e) (Left (rowPairs env nr) e) := by
  have step : ∀ e', Done [] e e' →
      (forEach (sspsRow env nr e.curText) (range env.arraySize) e').All
        (fun e'' => Done (rowPairs env nr) e (e''.sspsNext env)) (Left (rowPairs env nr) e) :=
    fun e' init => (sspsRows_done env e' nr e.curText).imp
      (fun e'' rows => (init.trans rows).after (sspsNext_done env e''))
      (fun _ left => left.leave init (List.Sublist.refl _))
  have init := sspsInit_done env e nr
  rw [sspsStatement]
  split
  · rename_i exit started
    split at started
    · rw [started] at init
      exact init.leave (Done.refl e) (nil_sublist _)
    · cases started
  · exact (Done.refl e).mono (nil_sublist _)
  · rename_i e' started
    have begun : Done [] e e' := by
      split at started
      · rw [started] at init
        exact init e' rfl
      · cases started
        exact .refl e
    have rows := step e' begun
    split
    · rename_i exit ended
      rw [ended] at rows
      exact rows
    · rename_i e'' ended
      rw [ended] at rows
      exact rows

/-- How the server-side part ends, behind its lock: at the label `end`, at a statement that could not be
prepared, or at a result that could not be stored. Only the last of the two returns unlocks. -/
inductive Ended (pairs : List (Nat × Nat)) (s : Stmt) : Exit → Prop
  | toEnd (reached : Exec) : Works pairs s reached.stmt → Ended pairs s (.toEnd reached)
  | notPrepared (reached : Stmt) (returned : Exec) (text : Text) (native : NativeError) :
      Works pairs s reached →
      returned.stmt.trace = reached.trace ++ [.asked (.stmtPrepare text) {} (.failed native)] →
      Ended pairs s (.out returned)
  | notStored (reached : Stmt) (returned : Exec) : Works pairs s reached →
      returned.stmt.trace = reached.trace ++ [.unlock] → Ended pairs s (.out returned)

theorem sspsFinish_ended {s : Stmt} (works : Works pairs s e.stmt) :
    Ended pairs s (e.sspsFinish env) := by
  rw [sspsFinish]
  split
  · exact .toEnd _ (works.congr rfl)
  · split
    · split
      · rcases answered : e.stmt.ask env .storeResult {} with ⟨answer, s'⟩
        obtain rfl := Stmt.eq_of_ask answered
        have stored : Works pairs s (e.stmt.emit (.asked .storeResult {} answer)) := works.after (works_asked e.stmt rfl)
        cases answer with
        | failed native => exact .notStored _ _ stored rfl
        | ok outcome => exact .toEnd _ (stored.congr rfl)
      · exact .toEnd _ (works.congr rfl)
    · exact .toEnd _ works

theorem sspsStatements_ended {s : Stmt} (count : Nat) (e : Exec) (trace : e.stmt.trace = s.trace) :
    Ended (runPairs env count) s
      (match forEach (sspsStatement env) (range count) e with
        | .leave exit => exit
        | .next e => e.sspsFinish env) := by
  have loop : (forEach (sspsStatement env) (range count) e).All
      (Done (runPairs env count) e) (Left (runPairs env count) e) :=
    forEach_collect Left Done.refl Works.trans Left.leave
      fun nr _ _ e' _ => sspsStatement_done env e' nr
  have begun : Works [] s e.stmt := .of_trace trace
  split
  · rename_i exit ended
    rw [ended] at loop
    cases loop with
    | toEnd reached done => exact .toEnd reached (begun.trans done)
    | out reached returned text native done asked =>
      exact .notPrepared reached.stmt returned text native (begun.trans done) asked
  · rename_i e' ended
    rw [ended] at loop
    exact sspsFinish_ended env e' (begun.trans loop)

theorem executeSsps_ended (s : Stmt) :
    Ended (runPairs env s.query.stmtCount) (s.emit .lock) (executeSsps env s) := by
  cases needsData : env.needsData with
  | true | false =>
    rw [executeSsps, needsData]
    exact sspsStatements_ended env _ _ rfl

end Exec

end MaOdbc
