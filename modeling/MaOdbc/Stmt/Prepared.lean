/-
**What preparing leaves for the client side**, and the walk over the statements of a query.

Where the entries of a query correspond to the segments of its text, the course of an execution comes to
every statement with the offset of the statement, the number of marks before it and the number of marks
in it. **`executeCsps_walks`**: the execution sends the queries of `Query.plan`, and nothing else but
requests for results.

A statement that `MADB_StmtPrepare` has prepared for the client side has a parsed query, and the number
of its parameters is the number of recorded marks. For a batch the parameters are counted later, by the
execution.
-/

import MaOdbc.Parse.Layout
import MaOdbc.Stmt.Course
import MaOdbc.Stmt.Prepare

namespace MaOdbc

open List

def Query.place (query : Query) (k : Nat) : Place where
  query := query
  curQuery := query.start k
  paramOffset := query.markOffset k
  paramCount := (query.marks k).length

def Query.plan (env : Env) (query : Query) : Plan :=
  Plan.seq ((List.range query.stmtCount).map fun k => (query.place k).plan env k)

structure Query.Laid (query : Query) : Prop where
  marked : query.Marked
  corresponds : Corresponds query.refinedText (query.subQuery.map (·.queryText))
  few : query.paramPositions.length < 2 ^ 15

/-- A handle with such a query. The parameters of a single statement were counted when it was
prepared. -/
structure Stmt.Laid (s : Stmt) : Prop where
  query : s.query.Laid
  single : s.query.isMultiStmt = false → s.paramCount = s.query.paramPositions.length

namespace Query.Laid

variable {query : Query} (laid : query.Laid) {k : Nat}
include laid

theorem length_texts : query.texts.length = query.stmtCount := Query.length_texts laid.corresponds

theorem stmtCount_pos : 0 < query.stmtCount := by
  rw [← laid.length_texts]
  exact length_pos_of_ne_nil (splitOnP_ne_nil _ _)

theorem text_ne_nil (inside : k < query.stmtCount) : query.text k ≠ [] := by
  rw [← laid.length_texts] at inside
  rw [Query.text, getD_eq_getElem _ _ inside]
  exact laid.corresponds.2 _ (getElem_mem inside)

theorem start_lt (inside : k < query.stmtCount) : query.start k < query.refinedText.length := by
  have le := Query.start_add_length_le (laid.length_texts ▸ inside : k < query.texts.length)
  have := length_pos_of_ne_nil (laid.text_ne_nil inside)
  omega

theorem marks_few (k : Nat) : (query.marks k).length < 2 ^ 15 :=
  (length_filter_le _ _).trans_lt laid.few

theorem toSmallInt_marks (k : Nat) : Stmt.toSmallInt (query.marks k).length = (query.marks k).length :=
  Stmt.toSmallInt_of_lt (laid.marks_few k)

theorem marks_single (inside : k < query.stmtCount) (single : query.isMultiStmt = false) :
    query.marks k = query.paramPositions := by
  rw [Query.isMultiStmt, decide_eq_false_iff_not] at single
  have one : query.texts.length = 1 := by
    rw [laid.length_texts]
    omega
  have parts := laid.marked.flatMap_marks
  rw [one] at parts
  rw [show k = 0 by omega]
  simpa using parts

theorem place_statement (inside : k < query.stmtCount) : (query.place k).statement = query.text k :=
  Query.cstr_start (laid.length_texts ▸ inside)

end Query.Laid

/-- The number of the statement as the walk over the text counts it. -/
def Exec.walked (query : Query) (k : Nat) : Nat := if query.isMultiStmt then k else 0

namespace Course

variable {query : Query} {k : Nat} {course : Course}

structure Stands (query : Query) (k : Nat) (course : Course) : Prop where
  curQuery : course.curQuery = query.start k
  paramOffset : course.paramOffset = query.markOffset k
  paramPosId : course.paramPosId = query.markOffset k

theorem Stands.counted (stands : course.Stands query k) (laid : query.Laid)
    (inside : k < query.stmtCount) :
    (course.counted query).place query = query.place k ∧
      (course.counted query).paramPosId = query.markOffset (k + 1) := by
  have within : k < query.texts.length := laid.length_texts ▸ inside
  have text : (course.place query).statement = query.text k := by
    rw [Place.statement, Course.place, stands.curQuery]
    exact Query.cstr_start within
  have count : Exec.countParams (query.paramPositions.drop course.paramPosId)
      (course.curQuery + (course.place query).statement.length) = (query.marks k).length := by
    rw [Exec.countParams, text, stands.curQuery, stands.paramPosId, laid.marked.takeWhile_drop within]
  constructor
  · have params : (course.counted query).paramCount = (query.marks k).length := by
      rw [Course.counted]
      dsimp only
      rw [count]
      split
      · assumption
      · exact laid.toSmallInt_marks k
    rw [Course.place, params]
    simp only [Course.counted, stands.curQuery, stands.paramOffset, Query.place, Int.toNat_natCast]
  · rw [laid.marked.markOffset_succ within, ← count, ← stands.paramPosId]
    rfl

theorem Stands.begun (stands : course.Stands query k) (laid : query.Laid) (inside : k < query.stmtCount)
    (multi : query.isMultiStmt = true) :
    ∃ begun, course.begun query k = some begun ∧ begun.place query = query.place k ∧
      begun.paramPosId = query.markOffset (k + 1) := by
  rw [Course.begun, if_pos multi]
  split
  · exact ⟨_, rfl, stands.counted laid inside⟩
  · rw [if_neg (by rw [stands.curQuery]; exact Nat.not_le.mpr (laid.start_lt inside))]
    have same : (course.withHandle query k).Stands query k :=
      ⟨stands.curQuery, stands.paramOffset, stands.paramPosId⟩
    exact ⟨_, rfl, same.counted laid inside⟩

theorem stands_passed (laid : query.Laid) (inside : k < query.stmtCount)
    (multi : query.isMultiStmt = true) (place : course.place query = query.place k)
    (paramPosId : course.paramPosId = query.markOffset (k + 1)) :
    (course.passed query).Stands query (k + 1) := by
  have within : k < query.texts.length := laid.length_texts ▸ inside
  have curQuery : course.curQuery = query.start k := congrArg Place.curQuery place
  have paramOffset : course.paramOffset = query.markOffset k := congrArg Place.paramOffset place
  have paramCount : course.paramCount.toNat = (query.marks k).length := congrArg Place.paramCount place
  have text : (course.place query).statement = query.text k := by
    rw [place, laid.place_statement inside]
  rw [Course.passed, if_pos multi]
  refine ⟨?_, ?_, paramPosId⟩
  · rw [Query.start_succ within, ← text, ← curQuery]
  · rw [laid.marked.markOffset_succ within, ← paramCount, ← paramOffset]

end Course

namespace Stmt

variable {env : Env} {s : Stmt} {k : Nat}

theorem Laid.stands (laid : s.Laid) (multi : s.query.isMultiStmt = true) (within : k ≤ s.query.stmtCount) :
    (s.course k).Stands s.query k := by
  induction k with
  | zero => exact ⟨rfl, Query.markOffset_zero.symm, Query.markOffset_zero.symm⟩
  | succ k ih =>
    obtain ⟨begun, standing, place, paramPosId⟩ := (ih (by omega)).begun laid.query (by omega) multi
    have next : s.course (k + 1) = begun.passed s.query := by rw [course, standing]
    rw [next]
    exact Course.stands_passed laid.query (by omega) multi place paramPosId

theorem Laid.statementPlan_eq (laid : s.Laid) (inside : k < s.query.stmtCount) :
    s.statementPlan env k = (s.query.place k).plan env k := by
  cases multi : s.query.isMultiStmt with
  | true =>
    obtain ⟨begun, standing, place, -⟩ :=
      (laid.stands multi (Nat.le_of_lt inside)).begun laid.query inside multi
    rw [statementPlan, standing, ← place]
  | false =>
    have first : k = 0 := by
      rw [Query.isMultiStmt, decide_eq_false_iff_not] at multi
      omega
    subst first
    have standing : (s.course 0).begun s.query 0 = some (s.course 0) := by
      rw [Course.begun, multi, if_neg Bool.false_ne_true]
    have place : (s.course 0).place s.query = s.query.place 0 := by
      rw [Course.place, course, laid.single multi, Query.place, Query.markOffset_zero,
        laid.query.marks_single laid.query.stmtCount_pos multi]
      rfl
    rw [statementPlan, standing, ← place]

theorem Laid.plan_eq (laid : s.Laid) : s.plan env = s.query.plan env := by
  rw [plan, Query.plan]
  refine congrArg Plan.seq (map_congr_left fun k member => ?_)
  exact laid.statementPlan_eq (mem_range.mp member)

end Stmt

/-- **The client-side execution sends its plan.** What is built last may not be sent. -/
theorem Exec.executeCsps_walks (env : Env) {s : Stmt} (laid : s.Laid) :
    ∃ events, Sent env (s.query.plan env).slots events ∧
      (executeCsps env s).stmt.trace =
        s.trace ++ .lock :: (events ++ (s.query.plan env).unsent) ∧
      (executeCsps env s).stmt.query = s.query ∧
      (s.query.isMultiStmt = false →
        (executeCsps env s).stmt.paramCount = s.query.paramPositions.length) := by
  obtain ⟨events, sent, trace, same, single, -⟩ := executeCsps_course env s
  rw [laid.plan_eq] at sent trace
  exact ⟨events, sent, trace, same, fun one => (single one).trans (laid.single one)⟩

/-! ### Statements for the client side -/

namespace Stmt

variable {env : Env} {s s' : Stmt}

/-- A handle for the client side whose query is parsed. -/
structure Client (env : Env) (s : Stmt) : Prop where
  marked : s.query.Marked
  client : s.sspsDisabled env = true

theorem reparse_client (text : Text) (client : s.sspsDisabled env = true) :
    Client env (s.reparse text) :=
  ⟨madbParseQuery_marked _ _, client⟩

theorem Settled.client (settled : Settled env s s') (before : Client env s) : Client env s' := by
  cases settled with
  | same => exact before
  | limited more => exact reparse_client _ before.client
  | positioned cursor delete parsed =>
    obtain ⟨text, rfl⟩ := parsed before.client
    exact ⟨madbParseQuery_marked _ _, before.client⟩

structure Counted (env : Env) (s : Stmt) : Prop extends Client env s where
  counted : s.query.isMultiStmt = false → s.state ≠ .emulated →
    s.paramCount = toSmallInt s.query.paramPositions.length

theorem prepareUnlocked_counted (before : Client env s)
    (succeeded : (s.prepareUnlocked env).1.succeeded = true) :
    Counted env (s.prepareUnlocked env).2 := by
  have ends := prepareUnlocked_cases env s
  generalize s.prepareUnlocked env = ended at ends succeeded
  cases ends with
  | refused failed => exact absurd succeeded (by simp [failed])
  | emulated settled =>
    have parsed := settled.client before
    exact ⟨⟨parsed.marked, parsed.client⟩, fun _ emulated => absurd rfl emulated⟩
  | client _ settled =>
    have parsed := settled.client before
    exact ⟨⟨parsed.marked, parsed.client⟩, fun _ _ => by dsimp only⟩
  | server settled server => exact absurd (settled.client before).client (by simp [server])

/-! ### The side does not change -/

theorem prepareWhole_force : (s.prepareWhole env).2.forceCsps = s.forceCsps := by
  rw [prepareWhole]
  split
  · rfl
  · rcases Exec.stmtPrepare_cases env s.newStmtHandle (cstr s.query.original) with
      ⟨_, -, failed⟩ | ⟨_, _, -, prepared⟩
    · rw [failed]
      rfl
    · rw [prepared]
      rfl

theorem getMultiStatements_of_client (client : s.sspsDisabled env = true) :
    (s.getMultiStatements env).1 = false ∧ (s.getMultiStatements env).2.query = s.query := by
  obtain ⟨begun, query, -, -, -, same⟩ := getMultiStatements_eq env s
  rw [same]
  dsimp only
  rw [if_pos client]
  exact ⟨rfl, (addHandles_same _ _).1.trans query⟩

theorem getMultiStatements_force : (s.getMultiStatements env).2.forceCsps = s.forceCsps := by
  obtain ⟨begun, -, force, -, -, same⟩ := getMultiStatements_eq env s
  rw [same, ← force]
  dsimp only
  split
  · exact (addHandles_same _ _).2.1
  · rcases Exec.stmtPrepare_cases env begun (cstr s.query.refinedText) with
      ⟨_, -, failed⟩ | ⟨_, _, -, prepared⟩
    · rw [failed]
      exact prepareWhole_force
    · rw [prepared]
      exact (addHandles_same _ _).2.1

theorem regularPrepare_force : (s.regularPrepare env).2.forceCsps = s.forceCsps := by
  rw [regularPrepare]
  rcases Exec.stmtPrepare_cases env (s.emit .lock) (cstr s.query.original) with
    ⟨_, -, failed⟩ | ⟨_, _, -, prepared⟩
  · rw [failed]
    rfl
  · rw [prepared]
    rfl

theorem prepareUnlocked_force (succeeded : (s.prepareUnlocked env).1.succeeded = true) :
    (s.prepareUnlocked env).2.forceCsps = s.forceCsps := by
  have ends := prepareUnlocked_cases env s
  generalize s.prepareUnlocked env = ended at ends succeeded
  cases ends with
  | refused failed => exact absurd succeeded (by simp [failed])
  | emulated settled => exact settled.kept.2.2.1
  | client _ settled => exact settled.kept.2.2.1
  | server settled => exact regularPrepare_force.trans settled.kept.2.2.1

/-! ### Preparing -/

theorem edPrepare_force : (s.edPrepare env).2.forceCsps = s.forceCsps := by
  have same : ∀ paramCount hasParams,
      ({ s with paramCount := paramCount, hasParams := hasParams } : Stmt).forceCsps = s.forceCsps :=
    fun _ _ => rfl
  exact same _ _

theorem prepareParsed_client {execDirect : Bool}
    (client : (s.prepareParsed env execDirect).2.sspsDisabled env = true)
    (succeeded : (s.prepareParsed env execDirect).1.succeeded = true) :
    (s.checkStatements env).sspsDisabled env = true ∧
      (s.query.isMultiStmt = true ∧ s.query.batchAllowed = true ∧
          (s.prepareParsed env execDirect).2 = ((s.checkStatements env).getMultiStatements env).2.emit .unlock ∨
        s.prepareParsed env execDirect = ((s.checkStatements env).emit .unlock).prepareUnlocked env) := by
  have query : (s.checkStatements env).query.isMultiStmt = s.query.isMultiStmt ∧
      (s.checkStatements env).query.batchAllowed = s.query.batchAllowed := ⟨rfl, rfl⟩
  rw [prepareParsed] at client succeeded ⊢
  generalize s.checkStatements env = checked at client succeeded query ⊢
  dsimp only at client succeeded ⊢
  rw [sspsDisabled] at client
  split at client
  · rename_i uncached
    rw [if_pos uncached] at succeeded
    cases succeeded
  · rename_i cached
    rw [if_neg cached] at succeeded ⊢
    split at client
    · rename_i batch
      rw [if_pos batch]
      simp only [Bool.and_eq_true] at batch
      split at client
      · rename_i direct
        rw [edPrepare_force, ← sspsDisabled] at client
        simp [client] at direct
      · rename_i indirect
        rw [if_neg indirect]
        have force : (checked.getMultiStatements env).2.forceCsps = checked.forceCsps := getMultiStatements_force
        rcases got : checked.getMultiStatements env with ⟨failed, s'⟩
        have disabled : checked.sspsDisabled env = true := by
          rw [sspsDisabled, ← force, got]
          rw [got] at client
          cases failed with
          | true | false => exact client
        have done := (getMultiStatements_of_client disabled).1
        rw [got] at done
        cases done
        exact ⟨disabled, .inl ⟨query.1 ▸ batch.1.1.2, query.2 ▸ batch.2, rfl⟩⟩
    · rename_i whole
      rw [if_neg whole] at succeeded ⊢
      rw [prepareUnlocked_force succeeded] at client
      exact ⟨client, .inr rfl⟩

theorem prepareParsed_counted {execDirect : Bool} (marked : s.query.Marked)
    (client : (s.prepareParsed env execDirect).2.sspsDisabled env = true)
    (succeeded : (s.prepareParsed env execDirect).1.succeeded = true) :
    Counted env (s.prepareParsed env execDirect).2 := by
  have parsed : (s.checkStatements env).query.Marked := ⟨marked.rising, marked.marks⟩
  obtain ⟨disabled, ⟨multi, -, reached⟩ | reached⟩ := prepareParsed_client client succeeded
  · have same : (s.prepareParsed env execDirect).2.query = (s.checkStatements env).query := by
      rw [reached]
      exact (getMultiStatements_of_client disabled).2
    refine ⟨⟨same ▸ parsed, client⟩, fun one => ?_⟩
    rw [same] at one
    exact absurd (multi.symm.trans one) (by decide)
  · rw [reached] at succeeded ⊢
    exact prepareUnlocked_counted ⟨parsed, disabled⟩ succeeded

/-- **What `MADB_StmtPrepare` leaves for the client side.** -/
theorem stmtPrepare_laid {text : Text} {execDirect : Bool}
    (succeeded : (s.stmtPrepare env text execDirect).1.succeeded = true)
    (prepared : (s.stmtPrepare env text execDirect).2 = s')
    (client : s'.sspsDisabled env = true) (notEmulated : s'.state ≠ .emulated)
    (corresponds : Corresponds s'.query.refinedText (s'.query.subQuery.map (·.queryText)))
    (few : s'.query.paramPositions.length < 2 ^ 15) : s'.Laid := by
  have counts : toSmallInt s'.query.paramPositions.length = s'.query.paramPositions.length :=
    toSmallInt_of_lt few
  have counted : Counted env s' := by
    rw [stmtPrepare] at succeeded prepared
    dsimp only at succeeded prepared
    split at prepared
    · rename_i short
      rw [if_pos short] at succeeded
      cases succeeded
    · rename_i long
      rw [if_neg long] at succeeded
      split at prepared
      · -- without a text there is nothing to correspond
        subst prepared
        exact absurd rfl (corresponds.2 [] List.mem_cons_self)
      · rename_i unescaped found
        rw [found] at succeeded
        subst prepared
        exact prepareParsed_counted (madbParseQuery_marked _ _) client succeeded
  exact ⟨⟨counted.marked, corresponds, few⟩, fun one => (counted.counted one notEmulated).trans counts⟩

/-- A handle that `MADB_StmtPrepare` has prepared for the client side, not to be sent as it is. -/
def PreparedForClient (s : Stmt) : Prop :=
  ∃ (s₀ : Stmt) (env : Env) (text : Text) (execDirect : Bool),
    (s₀.stmtPrepare env text execDirect).1.succeeded = true ∧
      (s₀.stmtPrepare env text execDirect).2 = s ∧ s.sspsDisabled env = true ∧ s.state ≠ .emulated

theorem PreparedForClient.laid (prepared : s.PreparedForClient)
    (corresponds : Corresponds s.query.refinedText (s.query.subQuery.map (·.queryText)))
    (few : s.query.paramPositions.length < 2 ^ 15) : s.Laid := by
  obtain ⟨s₀, env, text, execDirect, succeeded, reached, client, notEmulated⟩ := prepared
  exact stmtPrepare_laid succeeded reached client notEmulated corresponds few

end Stmt

end MaOdbc
