/-
**When the return code and the status array tell the truth.**

`MADB_StmtExecute` should succeed if no query failed, fail if all of them did, and warn otherwise, and it
should mark a row as a success exactly when the queries that carried it succeeded. The client side counts
failures of queries and compares the count with the number of rows, so that the return code is right only
where the two happen to agree; and in a batch the last statement overwrites the status of a row.
**`Stmt.stmtExecute_reports_iff`** says for which failures both are right.
-/

import Mathlib.Algebra.Order.Floor.Div
import MaOdbc.Stmt.Reports

namespace MaOdbc

open List Exec Plan

def SqlReturn.ofQueries (outcomes : List Bool) : SqlReturn :=
  if outcomes.all id then .success else if outcomes.any id then .successWithInfo else .error

def Plan.carrying (plan : Plan) (row : Nat) : List Nat :=
  (List.range plan.slots.length).filter fun i => plan.slots[i]?.any (·.purpose.carries row)

namespace Stmt

variable (env : Env) (s : Stmt)

def executedQueries : List (Purpose × Bool) := queriesOf (s.executeEvents env)

def ServedBy (fails : Nat → Bool) : Prop :=
  ∀ i ok, ((s.executedQueries env).map (·.2))[i]? = some ok → ok = !fails i

/-- The return code and the status array tell what became of the queries. -/
structure ReportsQueries : Prop where
  returned : (s.stmtExecute env).1 = .ofQueries ((s.executedQueries env).map (·.2))
  marked : ∀ row, env.ignored row = false →
    markOf (s.stmtExecute env).2.ipdStatus row =
      (markOf s.ipdStatus row).map fun old =>
        if carriersOf (s.executeEvents env) row = [] then old
        else (carriersOf (s.executeEvents env) row).all id

def failed (fails : Nat → Bool) : Nat := (List.range (s.plan env).slots.length).countP fails

structure Reportable (fails : Nat → Bool) : Prop where
  returned :
    if s.failed env fails = 0 then (s.plan env).stop = none
    else if s.combinesRows env = true ∧ (s.plan env).stop = none then
      fails ((s.plan env).slots.length - 1) = true → s.failed env fails = (s.plan env).slots.length
    else (s.failed env fails < env.arraySize ↔ s.failed env fails < (s.plan env).slots.length)
  marked : ∀ row, env.ignored row = false → (markOf s.ipdStatus row).isSome = true →
    ∀ last ∈ ((s.plan env).carrying row).getLast?, fails last = false →
      ∀ i ∈ (s.plan env).carrying row, fails i = false

end Stmt

/-! ### Queries of a plan -/

theorem Sent.queries {env : Env} {slots : List Slot} {events : List Event} (sent : Sent env slots events) :
    (queriesOf events).map (·.1) = slots.map (·.purpose) := by
  have built : ∀ builds : List Build, queriesOf (builds.map Build.event) = [] := by
    intro builds
    induction builds with
    | nil => rfl
    | cons _ _ ih => exact ih
  induction sent with
  | nil => rfl
  | @cons slot slots events position _ ih =>
    rw [queriesOf_append, built, nil_append, map_cons, ← ih]
    rfl
  | store _ _ ih => exact ih

theorem queriesOf_unsent (plan : Plan) : queriesOf plan.unsent = [] := by
  rw [unsent]
  cases plan.stop with
  | none => rfl
  | some stop =>
    obtain ⟨builds, failure⟩ := stop
    dsimp only
    induction builds with
    | nil => rfl
    | cons _ _ ih => exact ih

namespace Stmt

variable {env : Env} {s : Stmt} {fails : Nat → Bool}

def codeFor (env : Env) (s : Stmt) (queries : List (Purpose × Bool)) : SqlReturn :=
  let failed := queries.countP (!·.2)
  match (s.plan env).stop with
  | some (_, failure) =>
    if failed = 0 then failure.ret else if failed < env.arraySize then .successWithInfo else .error
  | none =>
    if failed = 0 then .success
    else if s.combinesRows env = true ∧ (queries.getLast?.map codeOf).getD .success = .error then
      .error
    else if failed < env.arraySize then .successWithInfo else .error

theorem executeEvents_told (supports : env.Supports) (plain : s.Plain env) (plainly : env.AnswersPlainly) :
    ∃ events, s.executeEvents env = .enter :: .lock :: (events ++ [.unlock]) ∧
      (queriesOf events).map (·.1) = (s.plan env).slots.map (·.purpose) ∧
      Marks env events s.ipdStatus (s.stmtExecute env).2.ipdStatus ∧
      (s.stmtExecute env).1 = s.codeFor env (queriesOf events) := by
  have planned : s.entered.plan env = s.plan env := plan_congr rfl rfl rfl
  have combines : s.entered.combinesRows env = s.combinesRows env := rfl
  obtain ⟨events, sent, trace, -⟩ := executeCsps_course env s.entered
  obtain ⟨told, trace', marks, report⟩ := executeCsps_tells plainly s.entered
  rw [planned] at sent trace report
  rw [combines] at report
  rw [trace] at trace'
  obtain rfl := (cons_inj_right _).mp (append_cancel_left trace')
  have called := stmtExecute_client supports plain
  refine ⟨events ++ (s.plan env).unsent, ?_, ?_, ?_, ?_⟩
  · have whole : (s.stmtExecute env).2.trace = s.trace ++
        .enter :: .lock :: (events ++ (s.plan env).unsent ++ [.unlock]) := by
      rw [called]
      show (executeCsps env s.entered).stmt.trace ++ [.unlock] = _
      rw [trace]
      simp [entered, emit]
    rw [executeEvents, whole, drop_left]
  · rw [queriesOf_append, queriesOf_unsent, append_nil, sent.queries]
  · rw [called]
    exact marks
  · rw [called]
    dsimp only
    rw [returnCode, codeFor]
    generalize events ++ (s.plan env).unsent = events at report
    cases stopped : (s.plan env).stop with
    | some stop =>
      rw [stopped] at report
      rw [report.1, report.2]
      rfl
    | none =>
      rw [stopped] at report
      obtain ⟨ret, errorCount, -⟩ := report
      dsimp only
      rw [← ret, ← failures]
      by_cases none : failures events = 0
      · rw [lastCode_of_failures none] at ret
        have zero : (executeCsps env s.entered).errorCount = 0 := by
          rw [errorCount, ret, if_neg (by simp), none]
        rw [if_pos zero, if_pos none, ret]
      · rw [if_neg none]
        by_cases combined : s.combinesRows env = true ∧ (executeCsps env s.entered).ret = .error
        · have several := (combinesRows_rows combined.1).2
          rw [if_pos combined] at errorCount
          rw [if_pos combined, errorCount, if_neg (by omega), if_neg (Nat.lt_irrefl _)]
        · rw [if_neg combined] at errorCount
          rw [if_neg combined, errorCount, if_neg none]

/-! ### The assignment of failures -/

end Stmt

theorem Plan.length_slots_seq {plans : List Plan} (most : ∀ plan ∈ plans, plan.slots.length ≤ 1) :
    (seq plans).slots.length ≤ plans.length := by
  induction plans with
  | nil => exact Nat.zero_le _
  | cons plan plans ih =>
    have first := most plan mem_cons_self
    have rest := ih fun plan member => most plan (mem_cons_of_mem _ member)
    rw [seq, foldr_cons, ← seq, andThen]
    split
    · rw [length_cons]
      omega
    · rw [length_append, length_cons]
      omega

theorem Place.batchCount_le (rows rowsInBatch : Nat) : (rows + rowsInBatch - 1) / rowsInBatch ≤ rows := by
  rcases Nat.eq_zero_or_pos rowsInBatch with none | some
  · rw [none, Nat.div_zero]
    exact Nat.zero_le _
  · exact (ceilDiv_le_iff_le_mul some).mpr (Nat.le_mul_of_pos_left rows some)

def Plan.purposeAt (plan : Plan) (i : Nat) : Purpose := (plan.slots[i]?.map (·.purpose)).getD {}

def Plan.outcomes (plan : Plan) (fails : Nat → Bool) : List (Purpose × Bool) :=
  (List.range plan.slots.length).map fun i => (plan.purposeAt i, !fails i)

namespace Plan

variable {plan : Plan} {fails : Nat → Bool}

theorem outcomes_of_served {queries : List (Purpose × Bool)}
    (planned : queries.map (·.1) = plan.slots.map (·.purpose))
    (served : ∀ i ok, (queries.map (·.2))[i]? = some ok → ok = !fails i) :
    queries = plan.outcomes fails := by
  have length : queries.length = plan.slots.length := by simpa using congrArg length planned
  refine ext_getElem (by simp [outcomes, length]) fun i here there => ?_
  have inside : i < plan.slots.length := length ▸ here
  have purpose : queries[i].1 = plan.slots[i].purpose := by
    have same := congrArg (·[i]?) planned
    simpa [here, inside] using same
  have outcome := served i queries[i].2 (by simp [here])
  simp only [outcomes, getElem_map, getElem_range, purposeAt,
    getElem?_eq_getElem inside, Option.map_some, Option.getD_some, ← purpose, ← outcome]

theorem countP_outcomes : (plan.outcomes fails).countP (!·.2) =
    (range plan.slots.length).countP fails := by
  rw [outcomes, countP_map]
  refine countP_congr fun i _ => ?_
  simp

theorem carriers_outcomes (row : Nat) :
    ((plan.outcomes fails).filter (·.1.carries row)).map (·.2) = (plan.carrying row).map (!fails ·) := by
  have same : ∀ i, (plan.purposeAt i).carries row = plan.slots[i]?.any (·.purpose.carries row) := by
    intro i
    rw [purposeAt]
    cases plan.slots[i]? with
    | none | some => rfl
  rw [outcomes, filter_map, map_map, carrying]
  simp only [Function.comp_def, same]

theorem getLast?_outcomes : (plan.outcomes fails).getLast?.map codeOf =
    if 0 < plan.slots.length then
      some (if fails (plan.slots.length - 1) then .error else .success) else none := by
  rw [outcomes, getLast?_map, getLast?_range]
  by_cases empty : plan.slots.length = 0
  · rw [if_pos empty, if_neg (by omega)]
    rfl
  · rw [if_neg empty, if_pos (by omega), Option.map_some, Option.map_some, codeOf]
    cases fails (plan.slots.length - 1) with
    | true | false => rfl

end Plan

theorem SqlReturn.ofQueries_outcomes (plan : Plan) (fails : Nat → Bool) :
    let failed := (range plan.slots.length).countP fails
    SqlReturn.ofQueries ((plan.outcomes fails).map (·.2)) =
      if failed = 0 then .success else if failed < plan.slots.length then .successWithInfo else .error := by
  intro failed
  let indices := range plan.slots.length
  have outcomes : (plan.outcomes fails).map (·.2) = indices.map (!fails ·) := by
    rw [outcomes, map_map]
    rfl
  have all : (indices.map (!fails ·)).all id = true ↔ failed = 0 := by
    rw [all_map, all_eq_true, countP_eq_zero]
    simp [indices]
  have any : (indices.map (!fails ·)).any id = true ↔ failed < plan.slots.length := by
    have most : failed ≤ indices.length := countP_le_length
    have length : indices.length = plan.slots.length := length_range
    have whole : failed = indices.length ↔ ∀ i ∈ indices, fails i = true := countP_eq_length
    have some : failed < plan.slots.length ↔ ¬ failed = indices.length := by omega
    rw [some, whole, any_map, any_eq_true]
    simp
  rw [outcomes, ofQueries]
  simp only [all, any]

namespace Stmt

variable {env : Env} {s : Stmt} {fails : Nat → Bool}

theorem warning_eq_iff {a b : Prop} [Decidable a] [Decidable b] :
    (if a then SqlReturn.successWithInfo else .error) = (if b then .successWithInfo else .error) ↔
      (a ↔ b) := by
  by_cases ha : a
  · by_cases hb : b
    · simp [ha, hb]
    · simp [ha, hb]
  · by_cases hb : b
    · simp [ha, hb]
    · simp [ha, hb]

theorem length_slots_of_combinesRows (combines : s.combinesRows env = true) :
    (s.plan env).slots.length ≤ env.arraySize := by
  let place := (s.course 0).place s.query
  obtain ⟨rows, -⟩ := combinesRows_rows combines
  have rowCount : place.rowCount env = env.arraySize :=
    (place_rowCount (e := { stmt := s })).trans rows
  have rewrites : place.rewrites env = true := (place_rewrites (e := { stmt := s })).trans combines
  have single : s.query.isMultiStmt = false := by
    simp only [combinesRows, rewriteInsert, Bool.and_eq_true, Bool.not_eq_true'] at combines
    exact combines.2
  have batches : (place.plan env 0).slots.length ≤ place.batchCount env := by
    rw [Place.plan, if_pos rewrites]
    refine (length_slots_seq fun plan member => ?_).trans_eq (by simp)
    obtain ⟨batchNum, -, rfl⟩ := mem_map.mp member
    rw [Place.batchPlan]
    split
    · exact Nat.zero_le 1
    · exact Nat.le_refl 1
  have few : place.batchCount env ≤ env.arraySize := by
    rw [Place.batchCount, rowCount]
    exact Place.batchCount_le _ _
  have only : s.query.stmtCount = 0 ∨ s.query.stmtCount = 1 := by
    rw [Query.isMultiStmt, decide_eq_false_iff_not] at single
    omega
  rcases only with none | one
  · rw [plan, none]
    exact Nat.zero_le _
  · have alone : (s.plan env).slots = (place.plan env 0).slots := by
      rw [plan, one, range_one, map_singleton, seq_singleton, statementPlan,
        Course.begun, single, if_neg Bool.false_ne_true]
    rw [alone]
    exact batches.trans few

theorem failed_lt_of_last (last : ¬ fails ((s.plan env).slots.length - 1) = true)
    (some : s.failed env fails ≠ 0) : s.failed env fails < (s.plan env).slots.length := by
  have most : s.failed env fails ≤ (range (s.plan env).slots.length).length := countP_le_length
  rw [length_range] at most
  refine lt_of_le_of_ne most fun whole => last ?_
  have all : ∀ i ∈ range (s.plan env).slots.length, fails i = true := by
    refine countP_eq_length.mp ?_
    rw [length_range]
    exact whole
  exact all _ (mem_range.mpr (by omega))

/-- **The return code** is right exactly for these failures. -/
theorem codeFor_iff :
    s.codeFor env ((s.plan env).outcomes fails) = .ofQueries (((s.plan env).outcomes fails).map (·.2)) ↔
      if s.failed env fails = 0 then (s.plan env).stop = none
      else if s.combinesRows env = true ∧ (s.plan env).stop = none then
        fails ((s.plan env).slots.length - 1) = true → s.failed env fails = (s.plan env).slots.length
      else (s.failed env fails < env.arraySize ↔ s.failed env fails < (s.plan env).slots.length) := by
  have most : s.failed env fails ≤ (s.plan env).slots.length := by
    have le : s.failed env fails ≤ (range (s.plan env).slots.length).length := countP_le_length
    rwa [length_range] at le
  rw [codeFor, SqlReturn.ofQueries_outcomes, countP_outcomes, getLast?_outcomes, ← failed]
  by_cases none : s.failed env fails = 0
  · rw [if_pos none, if_pos none]
    cases stopped : (s.plan env).stop with
    | none => simp [none]
    | some stop =>
      have code : stop.2.ret ≠ .success := by
        intro same
        have failure := stop.2.notSucceeded
        rw [same] at failure
        cases failure
      simpa [none] using code
  · cases stopped : (s.plan env).stop with
    | some stop => simp only [if_neg none, reduceCtorEq, and_false, if_false, warning_eq_iff]
    | none =>
      cases combines : s.combinesRows env with
      | false =>
        simp only [if_neg none, Bool.false_eq_true, false_and, if_false, warning_eq_iff]
      | true =>
        have rows := length_slots_of_combinesRows combines
        have sent : 0 < (s.plan env).slots.length := by omega
        by_cases last : fails ((s.plan env).slots.length - 1) = true
        · simp only [if_neg none, if_pos sent, Option.getD_some, and_self, if_true, last,
            true_imp_iff]
          by_cases fewer : s.failed env fails < (s.plan env).slots.length
          · simp [fewer, fewer.ne]
          · simp [Nat.le_antisymm most (Nat.le_of_not_lt fewer)]
        · have fewer := failed_lt_of_last last none
          simp only [if_neg none, if_pos sent, Option.getD_some, reduceCtorEq, and_false,
            if_false, if_pos fewer, if_pos (fewer.trans_le rows), last, false_imp_iff, and_self, if_true]

/-- **The mark of a row** is right exactly for these failures. -/
theorem mark_iff (mark : Option Bool) (carrying : List Nat) :
    mark.map ((carrying.map (!fails ·)).getLast?.getD ·) =
        (mark.map fun old =>
          if carrying.map (!fails ·) = [] then old else (carrying.map (!fails ·)).all id) ↔
      (mark.isSome = true → ∀ last ∈ carrying.getLast?, fails last = false →
        ∀ i ∈ carrying, fails i = false) := by
  cases mark with
  | none => simp
  | some old =>
    rw [Option.map_some, Option.map_some, Option.some.injEq, getLast?_map]
    simp only [map_eq_nil_iff]
    cases last : carrying.getLast? with
    | none =>
      rw [getLast?_eq_none_iff] at last
      simp [last]
    | some index =>
      have member : index ∈ carrying := mem_of_getLast? last
      have some : carrying ≠ [] := ne_nil_of_mem member
      rw [if_neg some, Option.map_some, Option.getD_some, all_map]
      cases failed : fails index with
      | true =>
        have any : carrying.all (id ∘ fun i => !fails i) = false :=
          all_eq_false.mpr ⟨index, member, by simp [failed]⟩
        rw [any]
        simp [failed]
      | false =>
        have all : carrying.all (id ∘ fun i => !fails i) = true ↔ ∀ i ∈ carrying, fails i = false := by
          simp
        rw [Bool.not_false, eq_comm, all]
        simp [failed]

/-- **When the reports are right**: for a call on the client side whose queries fail as `fails` says. -/
theorem stmtExecute_reports_iff (supports : env.Supports) (plain : s.Plain env)
    (plainly : env.AnswersPlainly) (served : s.ServedBy env fails) :
    s.ReportsQueries env ↔ s.Reportable env fails := by
  obtain ⟨events, executed, planned, marks, code⟩ := executeEvents_told supports plain plainly
  have outer : queriesOf (.enter :: .lock :: (events ++ [.unlock])) = queriesOf (events ++ [.unlock]) := rfl
  have inner : queriesOf (s.executeEvents env) = queriesOf events := by
    rw [executed, outer, queriesOf_append]
    exact append_nil _
  have queries : queriesOf events = (s.plan env).outcomes fails := by
    refine outcomes_of_served planned fun i ok here => served i ok ?_
    rwa [executedQueries, inner]
  have returned := @codeFor_iff env s fails
  rw [← queries, ← code, ← inner, ← executedQueries] at returned
  have carriers : ∀ row, carriersOf (s.executeEvents env) row = ((s.plan env).carrying row).map (!fails ·) := by
    intro row
    rw [carriersOf, inner, queries, carriers_outcomes]
  have after : ∀ row, env.ignored row = false → markOf (s.stmtExecute env).2.ipdStatus row =
      (markOf s.ipdStatus row).map ((((s.plan env).carrying row).map (!fails ·)).getLast?.getD ·) := by
    intro row taken
    have last : carriersOf events row = ((s.plan env).carrying row).map (!fails ·) := by
      rw [carriersOf, queries, carriers_outcomes]
    rw [marks row taken, last]
  constructor
  · intro reports
    refine ⟨returned.mp reports.returned, fun row taken => (mark_iff _ _).mp ?_⟩
    rw [← after row taken, ← carriers]
    exact reports.marked row taken
  · intro reportable
    refine ⟨returned.mpr reportable.returned, fun row taken => ?_⟩
    rw [carriers, after row taken]
    exact (mark_iff _ _).mpr (reportable.marked row taken)

/-- Two rows whose values are their numbers, of which the server refuses the first. -/
def refusingEnv (ignored : Nat → Bool) : Env where
  server request _ :=
    if request = .query (lit "SELECT 0") then .failed { errno := 1064, sqlState := lit "42000" } else .ok {}
  noSsps := true
  arraySize := 2
  ignored := ignored
  literal _ row := .ok (lit (toString row))

theorem refusingEnv_failed {ignored : Nat → Bool} {request : Request} {position : Nat} {native : NativeError}
    (failed : (refusingEnv ignored).server request position = .failed native) :
    native = { errno := 1064, sqlState := lit "42000" } := by
  have answer : (if request = .query (lit "SELECT 0") then
      Answer.failed { errno := 1064, sqlState := lit "42000" } else .ok {}) = .failed native := failed
  split at answer
  · exact (Answer.failed.inj answer).symm
  · cases answer

theorem refusingEnv_supports (ignored : Nat → Bool) : (refusingEnv ignored).Supports where
  server _ _ _ failed := by
    rw [refusingEnv_failed failed]
    decide
  literal _ _ _ _ failed := by cases failed

theorem refusingEnv_answersPlainly (ignored : Nat → Bool) : (refusingEnv ignored).AnswersPlainly where
  fails _ _ _ failed := by
    rw [refusingEnv_failed failed]
    decide +kernel
  stores _ := rfl

/-- A prepared `SELECT ?` with a status array for two rows. -/
def selectRows (ignored : Nat → Bool) : Stmt :=
  { (({} : Stmt).stmtPrepare (refusingEnv ignored) (lit "SELECT ?") false).2 with
    ipdStatus := some [.unused, .unused] }

/-- One of two rows fails: the call warns, and marks the other row. -/
theorem stmtExecute_reports_iff_two :
    (selectRows fun _ => false).Reportable (refusingEnv fun _ => false) (· == 0) ∧
      (selectRows fun _ => false).ReportsQueries (refusingEnv fun _ => false) := by
  have reportable : (selectRows fun _ => false).Reportable (refusingEnv fun _ => false) (· == 0) := by
    refine ⟨by decide +kernel, fun row _ there => ?_⟩
    have inside : row < 2 := by
      by_contra outside
      have absent : [ParamStatus.unused, .unused][row]? = none :=
        getElem?_eq_none (Nat.le_of_not_lt outside)
      simp [selectRows, markOf, absent] at there
    have carrying : ∀ row < 2,
        ((selectRows fun _ => false).plan (refusingEnv fun _ => false)).carrying row = [row] := by
      decide +kernel
    rw [carrying row inside]
    simp
  refine ⟨reportable, (stmtExecute_reports_iff (refusingEnv_supports _)
    ⟨by decide +kernel, by decide +kernel, by decide +kernel, by decide +kernel⟩
    (refusingEnv_answersPlainly _) fun i ok here => ?_).mpr reportable⟩
  have outcomes : ((selectRows fun _ => false).executedQueries (refusingEnv fun _ => false)).map (·.2) =
      [false, true] := by
    decide +kernel
  rw [outcomes] at here
  rcases i with _ | _ | i
  · exact (Option.some.inj here).symm
  · exact (Option.some.inj here).symm
  · cases here

/-- The second of two rows is ignored and the query of the first fails: all queries failed, and the call
succeeds with a warning. -/
theorem stmtExecute_reports_ignored :
    ((selectRows (· == 1)).executedQueries (refusingEnv (· == 1))).map (·.2) = [false] ∧
      ((selectRows (· == 1)).stmtExecute (refusingEnv (· == 1))).1 = .successWithInfo := by
  decide +kernel

end Stmt

end MaOdbc
