/-
**The course of a client-side execution.**

On the client side the executor finds the statements of a batch by walking over the refined text, and
their parameters by counting the recorded positions. Where it stands is a function of the handle alone:
no answer of the server changes it. `Stmt.plan` are the queries of all statements on this course, for
every query, whether or not its entries match the segments of its text. **`executeCsps_course`**: the
execution sends the queries of the plan, and nothing else but requests for results. `executeCsps_works`: so it
executes pairs of statement and row in order and at most once.
-/

import Mathlib.Data.List.Flatten
import MaOdbc.Stmt.Plan
import MaOdbc.Stmt.Work

namespace MaOdbc

open List Plan Stmt Option

/-! ### Courses -/

/-- Where the executor stands, and which statements of the batch have a handle. -/
structure Course where
  curQuery : Nat := 0
  paramOffset : Nat := 0
  paramPosId : Nat := 0
  paramCount : Int
  handles : Option (List Bool)

namespace Course

variable (query : Query) (course : Course)

def place : Place where
  query := query
  curQuery := course.curQuery
  paramOffset := course.paramOffset
  paramCount := course.paramCount.toNat

def counted : Course :=
  let count := Exec.countParams (query.paramPositions.drop course.paramPosId)
    (course.curQuery + (course.place query).statement.length)
  { course with
    paramPosId := course.paramPosId + count
    paramCount := if course.paramCount = count then course.paramCount else toSmallInt count }

def hasHandle (nr : Nat) : Bool := (course.handles.bind (·[nr]?)).getD false

def withHandle (nr : Nat) : Course :=
  let handles := if 0 < nr then course.handles else some (List.replicate query.stmtCount false)
  { course with handles := handles.map (·.set nr true) }

/-- The start of a statement, which is skipped where the text has come to its end. -/
def begun (nr : Nat) : Option Course :=
  if query.isMultiStmt then
    if course.hasHandle nr then some (course.counted query)
    else if query.refinedText.length ≤ course.curQuery then none
    else some ((course.withHandle query nr).counted query)
  else some course

def passed : Course :=
  if query.isMultiStmt then
    { course with
      curQuery := course.curQuery + (course.place query).statement.length + 1
      paramOffset := course.paramOffset + course.paramCount.toNat }
  else course

end Course

open Course

namespace Stmt

variable (env : Env) (s : Stmt)

/-- Where the executor stands before a statement. -/
def course : Nat → Course
  | 0 => { paramCount := s.paramCount, handles := s.multiStmts.map (·.map isSome) }
  | nr + 1 =>
    match (course nr).begun s.query nr with
    | none => course nr
    | some begun => begun.passed s.query

def statementPlan (nr : Nat) : Plan :=
  match (s.course nr).begun s.query nr with
  | none => {}
  | some begun => (begun.place s.query).plan env nr

def plan : Plan := seq ((List.range s.query.stmtCount).map (s.statementPlan env))

theorem course_single {s : Stmt} (single : s.query.isMultiStmt = false) (nr : Nat) :
    s.course nr = s.course 0 := by
  induction nr with
  | zero => rfl
  | succ nr ih => simp [course, ih, begun, passed, single]

theorem counted_congr {query : Query} {course course' : Course}
    (same : course' = { course with paramCount := course'.paramCount }) (small : IsSmallInt course.paramCount)
    (small' : IsSmallInt course'.paramCount) :
    course'.counted query = course.counted query ∧ IsSmallInt (course.counted query).paramCount := by
  have exact : ∀ (count : Nat) (n : Int), IsSmallInt n →
      (if n = count then n else toSmallInt count) = toSmallInt count := by
    intro count n small
    split
    · rename_i equal
      have few : count < 2 ^ 15 := by exact_mod_cast equal ▸ small.2
      rw [equal, toSmallInt_of_lt few]
    · rfl
  rw [same, counted, counted]
  dsimp only
  rw [exact _ _ small, exact _ _ small']
  exact ⟨rfl, Int.le_bmod (by decide), Int.bmod_lt (by decide)⟩

theorem begun_congr {query : Query} {course course' : Course} (multi : query.isMultiStmt = true) (nr : Nat)
    (same : course' = { course with paramCount := course'.paramCount }) (small : IsSmallInt course.paramCount)
    (small' : IsSmallInt course'.paramCount) :
    course'.begun query nr = course.begun query nr ∧
      ∀ begun, course.begun query nr = some begun → IsSmallInt begun.paramCount := by
  have handle : course'.hasHandle nr = course.hasHandle nr := by
    rw [same]
    rfl
  have curQuery : course'.curQuery = course.curQuery := by rw [same]
  have named : course'.withHandle query nr =
      { course.withHandle query nr with paramCount := (course'.withHandle query nr).paramCount } := by
    rw [same]
    rfl
  obtain ⟨first, counts⟩ := @counted_congr query _ _ same small small'
  obtain ⟨made, counts'⟩ := @counted_congr query _ _ named small small'
  rw [begun, begun, if_pos multi, if_pos multi, handle, curQuery, first, made]
  refine ⟨rfl, fun begun standing => ?_⟩
  split at standing
  · cases standing
    exact counts
  · split at standing
    · cases standing
    · cases standing
      exact counts'

section Congr

variable {env : Env} {s s' : Stmt} (query : s'.query = s.query) (paramCount : s'.paramCount = s.paramCount)
  (multiStmts : s'.multiStmts = s.multiStmts)
include query paramCount multiStmts

theorem statementPlan_congr (nr : Nat) : s'.statementPlan env nr = s.statementPlan env nr := by
  have course : s'.course nr = s.course nr := by
    induction nr with
    | zero => rw [course, course, paramCount, multiStmts]
    | succ nr ih => rw [course, course, ih, query]
  rw [statementPlan, statementPlan, course, query]

theorem plan_congr : s'.plan env = s.plan env := by
  have statements : s'.statementPlan env = s.statementPlan env :=
    funext fun nr => statementPlan_congr query paramCount multiStmts nr
  rw [plan, plan, statements, query]

end Congr

section Recounted

variable {env : Env} {s s' : Stmt} (multi : s.query.isMultiStmt = true) (query : s'.query = s.query)
  (multiStmts : s'.multiStmts = s.multiStmts) (small : IsSmallInt s.paramCount)
  (small' : IsSmallInt s'.paramCount)
include multi query multiStmts small small'

theorem course_recounted (nr : Nat) :
    s'.course nr = { s.course nr with paramCount := (s'.course nr).paramCount } ∧
      IsSmallInt (s.course nr).paramCount ∧ IsSmallInt (s'.course nr).paramCount := by
  induction nr with
  | zero =>
    refine ⟨?_, small, small'⟩
    rw [course, course, multiStmts]
  | succ nr ih =>
    obtain ⟨alike, counts⟩ := begun_congr multi nr ih.1 ih.2.1 ih.2.2
    rw [course, course, query, alike]
    cases standing : (s.course nr).begun s.query nr with
    | none => exact ih
    | some begun =>
      have counted : IsSmallInt (begun.passed s.query).paramCount := by
        rw [passed, if_pos multi]
        exact counts begun standing
      exact ⟨rfl, counted, counted⟩

theorem plan_recounted : s'.plan env = s.plan env := by
  have statements : s'.statementPlan env = s.statementPlan env := by
    funext nr
    obtain ⟨same, counts, counts'⟩ := course_recounted multi query multiStmts small small' nr
    rw [statementPlan, statementPlan, query, (begun_congr multi nr same counts counts').1]
  rw [plan, plan, statements, query]

end Recounted

end Stmt

def Plan.unsent (plan : Plan) : List Event :=
  match plan.stop with
  | some (builds, _) => builds.map Build.event
  | none => []

/-- The events of an execution: planned queries with their answers, and requests for results. -/
inductive Sent (env : Env) : List Slot → List Event → Prop
  | nil : Sent env [] []
  | cons {slot : Slot} {slots : List Slot} {events : List Event} (position : Nat) :
      Sent env slots events →
      Sent env (slot :: slots)
        (slot.builds.map Build.event ++ .asked (.query slot.query) slot.purpose
          (env.server (.query slot.query) position) :: events)
  | store {slots : List Slot} {events : List Event} (position : Nat) : Sent env slots events →
      Sent env slots (.asked .storeResult {} (env.server .storeResult position) :: events)

section Sent

variable {env : Env} {slots slots' : List Slot} {events events' : List Event}

theorem Answered.sent (answered : Answered env slots events) : Sent env slots events := by
  induction answered with
  | nil => exact .nil
  | cons position _ ih => exact .cons position ih

theorem Sent.append (first : Sent env slots events) (second : Sent env slots' events') :
    Sent env (slots ++ slots') (events ++ events') := by
  induction first with
  | nil => exact second
  | cons position _ ih =>
    rw [append_assoc]
    exact .cons position ih
  | store position _ ih => exact .store position ih

end Sent

namespace Exec

variable {env : Env} {s : Stmt} {nr : Nat} {e e' e'' : Exec}

/-- Where an execution stands. -/
def course (e : Exec) : Course where
  curQuery := e.curQuery
  paramOffset := e.paramOffset
  paramPosId := e.paramPosId
  paramCount := e.stmt.paramCount
  handles := e.stmt.multiStmts.map (·.map isSome)

structure Kept (e e' : Exec) : Prop where
  query : e'.stmt.query = e.stmt.query
  course : e'.course = e.course

theorem Kept.trans (first : Kept e e') (second : Kept e' e'') : Kept e e'' where
  query := second.query.trans first.query
  course := second.course.trans first.course

theorem Kept.of_still (still : e'.still = e.still) : Kept e e' := by
  refine ⟨congrArg (·.stmt.query) still, ?_⟩
  have same : e'.still.course = e.still.course := congrArg Exec.course still
  exact same

theorem Kept.of_core {events : List Event} (core : e'.core = events.foldl observe e.core) :
    Kept e e' := by
  have still : e'.core.still = e.core.still := by rw [core, still_foldl_observe]
  have kept := Kept.of_still still
  exact ⟨kept.query, kept.course⟩

theorem trace_foldl_observe (e : Exec) (events : List Event) :
    (events.foldl observe e).stmt.trace = e.stmt.trace ++ events := by
  have one : ∀ (e : Exec) (event : Event), (e.observe event).stmt.trace = e.stmt.trace ++ [event] := by
    intro e event
    unfold observe
    split
    · rfl
    · rfl
    · dsimp only
      split
      · rfl
      · rfl
    · rfl
  induction events generalizing e with
  | nil => exact (append_nil _).symm
  | cons event events ih => rw [foldl_cons, ih, one, append_assoc, singleton_append]

theorem afterLoop_sent (env : Env) (e : Exec) (rewritten : Bool) (rows : Nat) :
    ∃ events, Sent env [] events ∧ (e.afterLoop env rewritten rows).stmt.trace = e.stmt.trace ++ events ∧
      Kept e (e.afterLoop env rewritten rows) := by
  rw [afterLoop]
  cases rewritten with
  | true => exact ⟨[], .nil, (append_nil _).symm, rfl, rfl⟩
  | false =>
    rw [if_neg Bool.false_ne_true]
    obtain ⟨handles, result, rows, kept | asked⟩ := cspsReceiveStatementResults_cases env e
    · rw [kept]
      exact ⟨[], .nil, (append_nil _).symm, rfl, rfl⟩
    · refine ⟨_, .store e.stmt.trace.length .nil, ?_⟩
      cases answered : env.server .storeResult e.stmt.trace.length with
      | failed | ok =>
        rw [answered] at asked
        rw [asked]
        exact ⟨rfl, rfl, rfl⟩

structure At (s : Stmt) (nr : Nat) (e : Exec) : Prop where
  same : e.stmt.query = s.query
  course : e.course = s.course nr

theorem hasHandle_course (e : Exec) (nr : Nat) : e.course.hasHandle nr = (e.multiStmt nr).isSome := by
  rw [hasHandle, multiStmt, course]
  cases e.stmt.multiStmts with
  | none => rfl
  | some multiStmts =>
    simp only [map_some, bind_some, getElem?_map]
    cases multiStmts[nr]? with
    | none => rfl
    | some handle =>
      cases handle with
      | none | some => rfl

theorem installed_course (e : Exec) (nr : Nat) {s : Stmt} (same : s.query = e.stmt.query)
    (paramCount : s.paramCount = e.stmt.paramCount) {handles : Option (List Bool)}
    (made : s.multiStmts.map (·.map isSome) = handles) :
    (cspsInitStatementFromMultistatement.installed e nr
        { s with multiStmts := s.multiStmts.map (·.set nr (some s.stmt)) }).initParams.course =
      counted e.stmt.query { e.course with handles := handles.map (·.set nr true) } := by
  have added : (s.multiStmts.map (·.set nr (some s.stmt))).map (·.map isSome) =
      handles.map (·.set nr true) := by
    rw [← made, Option.map_map, Option.map_map]
    refine congrArg (Option.map · s.multiStmts) (funext fun multiStmts => ?_)
    exact map_set
  have standing : counted s.query { e.course with
      paramCount := s.paramCount
      handles := (s.multiStmts.map (·.set nr (some s.stmt))).map (·.map isSome) } =
      counted e.stmt.query { e.course with handles := handles.map (·.set nr true) } := by
    rw [same, paramCount, added]
    rfl
  exact standing

theorem cspsInit_course (e : Exec) (nr : Nat) (multi : e.stmt.query.isMultiStmt = true) :
    match e.course.begun e.stmt.query nr with
    | none => e.cspsInitStatementFromMultistatement nr = none
    | some begun =>
      ∃ e', e.cspsInitStatementFromMultistatement nr = some e' ∧ e'.course = begun ∧
        e'.stmt.query = e.stmt.query ∧ e'.stmt.trace = e.stmt.trace := by
  rw [begun, if_pos multi, hasHandle_course, cspsInitStatementFromMultistatement]
  cases e.multiStmt nr with
  | some stmt =>
    rw [if_pos isSome_some]
    exact ⟨_, rfl, rfl, rfl, rfl⟩
  | none =>
    rw [if_neg (by decide)]
    dsimp only
    by_cases ended : e.stmt.query.refinedText.length ≤ e.curQuery
    · rw [if_pos ended, if_pos (show _ ≤ e.course.curQuery from ended)]
    · rw [if_neg ended, if_neg (show ¬ _ ≤ e.course.curQuery from ended)]
      -- the first statement makes the array, every later one a handle of its own
      by_cases later : 0 < nr
      · rw [if_pos later]
        refine ⟨_, rfl, ?_, rfl, rfl⟩
        rw [withHandle, if_pos later]
        exact installed_course e nr (s := e.stmt.newStmtHandle) rfl rfl rfl
      · rw [if_neg later]
        refine ⟨_, rfl, ?_, rfl, rfl⟩
        rw [withHandle, if_neg later]
        exact installed_course e nr
          (s := { e.stmt with
            multiStmts := some (replicate e.stmt.query.stmtCount none)
            cspsMultiStmtResult := replicate e.stmt.query.stmtCount none })
          rfl rfl (congrArg some map_replicate)

/-- A part of the walk: the queries of a plan are sent, up to the next statement or to the failure. -/
inductive Walks (env : Env) (s : Stmt) (e : Exec) (next : Nat) : Plan → Flow Exec Exec → Prop
  | next {slots : List Slot} {events : List Event} {e' : Exec} : Sent env slots events →
      e'.stmt.trace = e.stmt.trace ++ events → At s next e' →
      Walks env s e next ⟨slots, none⟩ (.next e')
  | leave {slots : List Slot} {events : List Event} {builds : List Build} {failure : Failure}
      {e' : Exec} : Sent env slots events →
      e'.stmt.trace = e.stmt.trace ++ (events ++ builds.map Build.event) → e'.stmt.query = s.query →
      (s.query.isMultiStmt = false → e'.stmt.paramCount = s.paramCount) → e'.ret = failure.ret →
      Walks env s e next ⟨slots, some (builds, failure)⟩ (.leave e')

theorem Walks.of_trace {next : Nat} {plan : Plan} {flow : Flow Exec Exec}
    (walks : Walks env s e' next plan flow) (trace : e'.stmt.trace = e.stmt.trace) :
    Walks env s e next plan flow := by
  cases walks with
  | next sent after arrived => exact .next sent (trace ▸ after) arrived
  | leave sent after same single ret => exact .leave sent (trace ▸ after) same single ret

theorem cspsNext_course (e : Exec) (nr : Nat) :
    (e.cspsNext nr).course = e.course.passed e.stmt.query ∧ (e.cspsNext nr).stmt.query = e.stmt.query ∧
      (e.cspsNext nr).stmt.trace = e.stmt.trace := by
  rw [cspsNext, passed]
  split
  · exact ⟨rfl, rfl, rfl⟩
  · exact ⟨rfl, rfl, rfl⟩

theorem cspsRows_walk {begun : Course} (course : e.course = begun) (same : e.stmt.query = s.query)
    (single : s.query.isMultiStmt = false → e.stmt.paramCount = s.paramCount)
    (after : s.course (nr + 1) = begun.passed s.query) :
    Walks env s e (nr + 1) ((begun.place s.query).plan env nr)
      (match if e.rewriteInsert env then e.cspsRewritten env else e.cspsRowByRow env nr with
        | .leave exit => .leave exit
        | .next e => .next (e.cspsNext nr)) := by
  have place : e.place = begun.place s.query := by
    rw [← course, ← same]
    rfl
  have follows : Follows env e ((begun.place s.query).plan env nr) (cspsLoop env nr e) :=
    place ▸ cspsLoop_follows nr
  rw [cspsRows_eq]
  generalize cspsLoop env nr e = flow at follows
  generalize (begun.place s.query).plan env nr = planned at follows
  cases follows with
  | @leave slots events builds failure e' answered core =>
    have still : e'.core.still = e.core.still := by rw [core]; exact still_foldl_observe _ _
    have paramCount : e'.stmt.paramCount = e.stmt.paramCount := congrArg (·.stmt.paramCount) still
    refine .leave answered.sent ?_ ((congrArg (·.stmt.query) still).trans same)
      (fun one => paramCount.trans (single one)) (congrArg (·.ret) core)
    exact (congrArg (·.stmt.trace) core).trans (trace_foldl_observe e.core _)
  | @next slots events e' answered core =>
    obtain ⟨stored, sent, trace, kept⟩ := afterLoop_sent env e' (e.rewriteInsert env)
      (e.numParamRows env)
    have both := (Kept.of_core core).trans kept
    have all := answered.sent.append sent
    rw [append_nil] at all
    dsimp only
    generalize e'.afterLoop env (e.rewriteInsert env) (e.numParamRows env) = e'' at trace both ⊢
    obtain ⟨passed, query, unchanged⟩ := cspsNext_course e'' nr
    refine .next all ?_ ⟨query.trans (both.query.trans same), ?_⟩
    · have observed : e'.stmt.trace = _ := (congrArg (·.stmt.trace) core).trans (trace_foldl_observe _ _)
      rw [unchanged, trace, observed, append_assoc]
      rfl
    · rw [passed, both.course, both.query, course, same, after]

theorem cspsStatement_walks (here : At s nr e) :
    Walks env s e (nr + 1) (s.statementPlan env nr) (cspsStatement env nr e) := by
  have course := here.course
  have after : s.course (nr + 1) =
      match (s.course nr).begun s.query nr with
      | none => s.course nr
      | some begun => begun.passed s.query := rfl
  rw [statementPlan, cspsStatement, here.same]
  cases multi : s.query.isMultiStmt with
  | true =>
    have init := cspsInit_course e nr (by rw [here.same, multi])
    rw [here.same, course] at init
    rw [if_pos rfl]
    cases standing : (s.course nr).begun s.query nr with
    | none =>
      rw [standing] at init after
      rw [init]
      exact .next .nil (append_nil _).symm ⟨here.same, course.trans after.symm⟩
    | some begun =>
      rw [standing] at init after
      obtain ⟨e', started, course', same, trace⟩ := init
      rw [started]
      exact (cspsRows_walk course' same (fun one => by simp [multi] at one) after).of_trace trace
  | false =>
    have standing : (s.course nr).begun s.query nr = some (s.course nr) := by
      rw [begun, multi, if_neg Bool.false_ne_true]
    rw [standing] at after
    rw [if_neg Bool.false_ne_true, standing]
    refine cspsRows_walk course here.same (fun _ => ?_) after
    rw [course_single multi] at course
    exact congrArg Course.paramCount course

theorem cspsStatements_walk {count : Nat} (here : At s nr e) :
    Walks env s e (nr + count) (seq ((range' nr count).map (s.statementPlan env)))
      (forEach (cspsStatement env) (range' nr count) e) := by
  induction count generalizing nr e with
  | zero => exact .next .nil (append_nil _).symm here
  | succ count ih =>
    have first : Walks env s e (nr + 1) (s.statementPlan env nr) (cspsStatement env nr e) :=
      cspsStatement_walks here
    rw [range'_succ, map_cons, seq, foldr_cons, ← seq, forEach_cons, andThen]
    generalize cspsStatement env nr e = flow at first
    generalize s.statementPlan env nr = planned at first
    cases first with
    | leave sent trace same single ret => exact .leave sent trace same single ret
    | next sent trace arrived =>
      have rest := ih arrived
      rw [Nat.add_right_comm, Nat.add_assoc] at rest
      dsimp only
      generalize seq _ = more at rest
      generalize forEach (cspsStatement env) _ _ = flow at rest
      cases rest with
      | leave sent' trace' same single ret =>
        refine .leave (sent.append sent') ?_ same single ret
        rw [trace', trace, append_assoc, append_assoc]
      | next sent' trace' arrived' =>
        refine .next (sent.append sent') ?_ arrived'
        rw [trace', trace, append_assoc]

/-- **The walk of an execution**: from the first statement to the end of the plan. -/
theorem executeCsps_onCourse (env : Env) (s : Stmt) :
    ∃ e : Exec, At s 0 e ∧ e.stmt.trace = s.trace ++ [.lock] ∧ e.errorCount = 0 ∧ e.ret = .success ∧
      e.stmt.error = s.error ∧ e.stmt.ipdStatus = s.ipdStatus ∧
      Walks env s e (0 + s.query.stmtCount) (s.plan env)
        (forEach (cspsStatement env) (range s.query.stmtCount) e) ∧
      executeCsps env s =
        match forEach (cspsStatement env) (range s.query.stmtCount) e with
        | .leave e => e
        | .next e => { e with stmt := cspsFinish e.stmt } := by
  refine ⟨_, ⟨rfl, rfl⟩, rfl, rfl, rfl, rfl, rfl, ?_, rfl⟩
  rw [plan, range_eq_range']
  exact cspsStatements_walk ⟨rfl, rfl⟩

theorem executeCsps_complete {env : Env} {s : Stmt} (complete : (s.plan env).stop = none) :
    ∃ e, At s s.query.stmtCount e ∧ (executeCsps env s).stmt = cspsFinish e.stmt := by
  obtain ⟨e, -, -, -, -, -, -, walks, executed⟩ := executeCsps_onCourse env s
  rw [executed]
  generalize s.plan env = planned at walks complete
  generalize forEach (cspsStatement env) (range s.query.stmtCount) e = flow at walks
  cases walks with
  | leave => cases complete
  | @next _ _ e' _ _ arrived => exact ⟨e', Nat.zero_add s.query.stmtCount ▸ arrived, rfl⟩

/-- **The client-side execution sends its plan.** What is built last may not be sent. -/
theorem executeCsps_course (env : Env) (s : Stmt) :
    ∃ events, Sent env (s.plan env).slots events ∧
      (executeCsps env s).stmt.trace = s.trace ++ .lock :: (events ++ (s.plan env).unsent) ∧
      (executeCsps env s).stmt.query = s.query ∧
      (s.query.isMultiStmt = false → (executeCsps env s).stmt.paramCount = s.paramCount) ∧
      ∀ builds failure, (s.plan env).stop = some (builds, failure) →
        (executeCsps env s).ret = failure.ret := by
  obtain ⟨e, -, trace, -, -, -, -, walks, executed⟩ := executeCsps_onCourse env s
  rw [executed]
  generalize s.plan env = planned at walks
  generalize forEach (cspsStatement env) (range s.query.stmtCount) e = flow at walks
  cases walks with
  | leave sent trace' same single ret =>
    refine ⟨_, sent, ?_, same, single, ?_⟩
    · dsimp only
      rw [trace', trace, append_assoc]
      rfl
    · rintro builds failure ⟨⟩
      exact ret
  | @next slots events e' sent trace' arrived =>
    obtain ⟨_, _, _, _, finished⟩ := cspsFinish_eq e'.stmt
    dsimp only
    rw [finished]
    refine ⟨events, sent, ?_, arrived.same, fun one => ?_, nofun⟩
    · rw [unsent, append_nil]
      exact trace'.trans (by rw [trace, append_assoc]; rfl)
    · have course := arrived.course
      rw [course_single one] at course
      exact congrArg Course.paramCount course

end Exec

/-! ### The pairs of a plan -/

theorem keysOf_builds (builds : List Build) : sending.keysOf (builds.map Build.event) = [] := by
  induction builds with
  | nil => rfl
  | cons _ _ ih => exact ih

theorem Sent.keysOf {env : Env} {slots : List Slot} {events : List Event} (sent : Sent env slots events) :
    sending.keysOf events = slots.flatMap (·.purpose.pairs) := by
  induction sent with
  | nil => rfl
  | cons _ _ ih =>
    rw [sending.keysOf_append, keysOf_builds, flatMap_cons, ← ih]
    rfl
  | store _ _ ih => exact ih

theorem Sent.isWork {env : Env} {slots : List Slot} {events : List Event} (sent : Sent env slots events) :
    ∀ event ∈ events, event.isWork = true := by
  induction sent with
  | nil => exact fun event member => absurd member not_mem_nil
  | cons _ _ ih =>
    intro event member
    rcases mem_append.mp member with built | later
    · obtain ⟨build, -, rfl⟩ := mem_map.mp built
      rfl
    · rcases mem_cons.mp later with rfl | behind
      · rfl
      · exact ih event behind
  | store _ _ ih => exact forall_mem_cons.mpr ⟨rfl, ih⟩

theorem Plan.pairs_seq (plans : List Plan) : ((seq plans).slots.flatMap (·.purpose.pairs)).Sublist
    (plans.flatMap fun plan => plan.slots.flatMap (·.purpose.pairs)) := by
  induction plans with
  | nil => exact .slnil
  | cons plan plans ih =>
    rw [seq, foldr_cons, ← seq, andThen, flatMap_cons]
    cases plan.stop with
    | some stop => exact sublist_append_left _ _
    | none =>
      dsimp only
      rw [flatMap_append]
      exact (List.Sublist.refl _).append ih

namespace Place

variable (env : Env) (place : Place)

theorem single_of_rewrites {env : Env} {place : Place} (combined : place.rewrites env = true) :
    place.query.isMultiStmt = false := by
  simp only [rewrites, Bool.and_eq_true, Bool.not_eq_true'] at combined
  exact combined.2

theorem pairs_rowPlan (nr row : Nat) :
    ((place.rowPlan env nr row).slots.flatMap (·.purpose.pairs)).Sublist [(nr, row)] := by
  rw [rowPlan]
  split
  · exact nil_sublist _
  · split
    · exact nil_sublist _
    · exact List.Sublist.refl _

theorem pairs_batchPlan (batchNum : Nat) :
    ((place.batchPlan env batchNum).slots.flatMap (·.purpose.pairs)).Sublist
      ((place.batchRows env batchNum).map (0, ·)) := by
  rw [batchPlan]
  split
  · exact nil_sublist _
  · dsimp only
    rw [flatMap_singleton]
    exact filter_sublist.map _

theorem pairs_plan {nr : Nat} (inside : nr < place.query.stmtCount) :
    ((place.plan env nr).slots.flatMap (·.purpose.pairs)).Sublist (Exec.rowPairs env nr) := by
  have few : place.rowCount env ≤ max 1 env.arraySize := by
    rw [rowCount]
    split <;> omega
  have rows : ((range (place.rowCount env)).map ((nr, ·) : Nat → Nat × Nat)).Sublist (Exec.rowPairs env nr) :=
    (range_sublist.mpr few).map _
  refine List.Sublist.trans ?_ rows
  rw [plan]
  split
  · rename_i combined
    have first : nr = 0 := by
      have single := single_of_rewrites combined
      rw [Query.isMultiStmt, decide_eq_false_iff_not] at single
      omega
    subst first
    refine (pairs_seq _).trans ?_
    rw [flatMap_map]
    refine (List.Sublist.flatMap_right _ fun batchNum _ => place.pairs_batchPlan env batchNum).trans ?_
    rw [← map_flatMap]
    unfold batchRows
    rw [Exec.batches_eq, Exec.filter_range]
    exact (range_sublist.mpr (Nat.min_le_right _ _)).map _
  · refine (pairs_seq _).trans ?_
    rw [flatMap_map, map_eq_flatMap]
    exact List.Sublist.flatMap_right _ fun row _ => place.pairs_rowPlan env nr row

end Place

/-- **The client-side part**, behind its lock. -/
theorem Exec.executeCsps_works (env : Env) (s : Stmt) :
    Works (runPairs env s.query.stmtCount) (s.emit .lock) (executeCsps env s).stmt := by
  obtain ⟨events, sent, trace, -⟩ := executeCsps_course env s
  have unsent : sending.keysOf (s.plan env).unsent = [] ∧ ∀ event ∈ (s.plan env).unsent, event.isWork = true := by
    rw [unsent]
    split
    · refine ⟨keysOf_builds _, fun event member => ?_⟩
      obtain ⟨build, -, rfl⟩ := mem_map.mp member
      rfl
    · exact ⟨rfl, fun event member => absurd member not_mem_nil⟩
  refine ⟨events ++ (s.plan env).unsent, ?_, fun event member => ?_, ?_⟩
  · rw [trace, emit, append_assoc]
    rfl
  · exact (mem_append.mp member).elim (sent.isWork event) (unsent.2 event)
  · rw [sending.keysOf_append, unsent.1, append_nil, sent.keysOf]
    refine (pairs_seq _).trans ?_
    rw [flatMap_map]
    refine List.Sublist.flatMap_right _ fun nr member => ?_
    rw [statementPlan]
    split
    · exact nil_sublist _
    · exact Place.pairs_plan env _ (mem_range.mp member)

end MaOdbc
