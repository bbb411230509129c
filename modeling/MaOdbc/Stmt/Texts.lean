/-
**The texts of the client side.**

Whatever was executed before and whatever the server answered, the text that the client side builds for
a statement and a row of bound parameters is the statement with the literal of the `k`-th parameter in
the place of the `k`-th mark of the whole query.
-/

import MaOdbc.Stmt.Statements
import MaOdbc.Stmt.Prepared

namespace MaOdbc

open List

/-! ### What a plan builds -/

structure Plan.AllBuilt (property : Build → Prop) (plan : Plan) : Prop where
  slots : ∀ slot ∈ plan.slots, ∀ build ∈ slot.builds, property build
  stop : ∀ builds failure, plan.stop = some (builds, failure) → ∀ build ∈ builds, property build

section AllBuilt

variable {property : Build → Prop}

theorem Plan.AllBuilt.seq {plans : List Plan} (all : ∀ plan ∈ plans, plan.AllBuilt property) :
    (Plan.seq plans).AllBuilt property := by
  induction plans with
  | nil => exact ⟨by simp [Plan.seq], by simp [Plan.seq]⟩
  | cons plan plans ih =>
    have first := all plan mem_cons_self
    have rest := ih fun plan member => all plan (mem_cons_of_mem _ member)
    rw [Plan.seq, foldr_cons, ← Plan.seq, Plan.andThen]
    split
    · exact first
    · refine ⟨fun slot member => ?_, rest.stop⟩
      rcases mem_append.mp member with before | after
      · exact first.slots slot before
      · exact rest.slots slot after

theorem Place.combine_allBuilt {env : Env} {place : Place} (rows : List Nat)
    (built : ∀ row text, place.build env row = .ok text → property (place.built 0 row text)) :
    match place.combine env rows with
    | .error (builds, _) => ∀ build ∈ builds, property build
    | .ok (builds, _) => ∀ build ∈ builds, property build := by
  induction rows with
  | nil => simp [combine]
  | cons row rows ih =>
    rw [combine]
    cases ignored : env.ignored row with
    | true =>
      rw [if_pos rfl]
      exact ih
    | false =>
      rw [if_neg Bool.false_ne_true]
      cases build : place.build env row with
      | error failure => simp
      | ok text =>
        cases combined : place.combine env rows with
        | error | ok =>
          rw [combined] at ih
          simpa using ⟨built row text build, ih⟩

theorem Place.plan_allBuilt {env : Env} {place : Place} {nr : Nat}
    (single : place.query.isMultiStmt = false → nr = 0)
    (built : ∀ row text, place.build env row = .ok text → property (place.built nr row text)) :
    (place.plan env nr).AllBuilt property := by
  rw [plan]
  split
  · rename_i rewritten
    have first : nr = 0 := by
      refine single ?_
      simp only [rewrites, Bool.and_eq_true, Bool.not_eq_true'] at rewritten
      exact rewritten.2
    subst first
    refine .seq ?_
    rw [forall_mem_map]
    intro batchNum _
    have combined := combine_allBuilt (place.batchRows env batchNum) built
    rw [batchPlan]
    split
    · rename_i stop failed
      rw [failed] at combined
      refine ⟨by simp, ?_⟩
      rintro builds failure ⟨⟩
      exact combined
    · rename_i builds tuples made
      rw [made] at combined
      exact ⟨by simpa using combined, by simp⟩
  · refine .seq ?_
    rw [forall_mem_map]
    intro row _
    rw [rowPlan]
    split
    · exact ⟨by simp, by simp⟩
    · cases build : place.build env row with
      | error failure => exact ⟨by simp, by simp⟩
      | ok text => exact ⟨by simpa using built row text build, by simp⟩

end AllBuilt

def Query.Builds (env : Env) (query : Query) (build : Build) : Prop :=
  build.nr < query.stmtCount ∧ build.paramOffset = query.markOffset build.nr ∧
    build.paramCount = (query.marks build.nr).length ∧
    (query.place build.nr).build env build.row = .ok build.text

theorem Query.plan_allBuilt (query : Query) (env : Env) :
    (query.plan env).AllBuilt (query.Builds env) := by
  refine .seq ?_
  rw [forall_mem_map]
  intro k member
  have inside := mem_range.mp member
  refine Place.plan_allBuilt (fun single => ?_) fun row text build => ⟨inside, rfl, rfl, build⟩
  have one : query.isMultiStmt = false := single
  rw [Query.isMultiStmt, decide_eq_false_iff_not] at one
  omega

def Query.BuildsOnly (env : Env) (query : Query) (event : Event) : Prop :=
  ∀ build : Build, event = build.event → query.Builds env build

theorem Build.event_injective : Function.Injective Build.event := by
  intro build other same
  cases build
  cases other
  cases same
  rfl

theorem Query.Builds.only {env : Env} {query : Query} {build : Build} (builds : query.Builds env build) :
    query.BuildsOnly env build.event := by
  intro other same
  rw [← Build.event_injective same]
  exact builds

theorem Sent.buildsOnly {env : Env} {query : Query} {slots : List Slot} {events : List Event}
    (sent : Sent env slots events)
    (builds : ∀ slot ∈ slots, ∀ build ∈ slot.builds, query.Builds env build) :
    ∀ event ∈ events, query.BuildsOnly env event := by
  induction sent with
  | nil => simp
  | @cons slot slots events position _ ih =>
    intro event member
    rcases mem_append.mp member with built | rest
    · obtain ⟨build, here, rfl⟩ := mem_map.mp built
      exact (builds slot mem_cons_self build here).only
    · rcases mem_cons.mp rest with rfl | later
      · exact nofun
      · exact ih (fun slot member => builds slot (mem_cons_of_mem _ member)) event later
  | store position _ ih =>
    intro event member
    rcases mem_cons.mp member with rfl | later
    · exact nofun
    · exact ih builds event later

/-! ### Executions -/

/-- A call that leaves the query and the parameters of a single statement alone, and adds events with a
property to the trace. -/
structure Reaches (property : Event → Prop) (s s' : Stmt) : Prop where
  query : s'.query = s.query
  single : s.query.isMultiStmt = false → s'.paramCount = s.paramCount
  adds : ∃ events, s'.trace = s.trace ++ events ∧ ∀ event ∈ events, property event

namespace Reaches

variable {property : Event → Prop} {s s' s'' : Stmt}

theorem of_fields (query : s'.query = s.query) (paramCount : s'.paramCount = s.paramCount)
    (trace : s'.trace = s.trace) : Reaches property s s' :=
  ⟨query, fun _ => paramCount, [], by rw [trace, append_nil], by simp⟩

theorem trans (first : Reaches property s s') (second : Reaches property s' s'') :
    Reaches property s s'' := by
  obtain ⟨events, trace, all⟩ := first.adds
  obtain ⟨events', trace', all'⟩ := second.adds
  refine ⟨second.query.trans first.query, fun one => ?_, events ++ events', ?_, ?_⟩
  · exact (second.single (first.query ▸ one)).trans (first.single one)
  · rw [trace', trace, append_assoc]
  · intro event member
    rcases mem_append.mp member with before | after
    · exact all event before
    · exact all' event after

theorem emit {event : Event} (holds : property event) : Reaches property s (s.emit event) :=
  ⟨rfl, fun _ => rfl, [event], rfl, by simpa using holds⟩

theorem laid (reaches : Reaches property s s') (laid : s.Laid) : s'.Laid := by
  refine ⟨reaches.query ▸ laid.query, fun one => ?_⟩
  rw [reaches.query] at one ⊢
  exact (reaches.single one).trans (laid.single one)

end Reaches

namespace Stmt

variable (env : Env) {s : Stmt}

theorem executeQuery_reaches (query : Query) : Reaches (query.BuildsOnly env) s (s.executeQuery env).2 := by
  let purpose : Purpose := { statement := cstr s.query.original, pairs := s.allPairs }
  have allBuilds : ∀ answer, ∀ event ∈
      [.lock, .asked (.query (cstr s.query.original)) purpose answer, .unlock],
      query.BuildsOnly env event := by
    simp [Query.BuildsOnly, Build.event]
  rcases answered : (s.emit .lock).ask env (.query (cstr s.query.original)) purpose with ⟨answer, s'⟩
  obtain rfl := eq_of_ask answered
  rw [executeQuery, show (s.emit .lock).allPairs = s.allPairs from rfl, answered]
  cases answer with
  | ok outcome => exact ⟨rfl, fun _ => rfl, _, by simp [emit], allBuilds (.ok outcome)⟩
  | failed native => exact ⟨rfl, fun _ => rfl, _, by simp [emit], allBuilds (.failed native)⟩

theorem executeCsps_reaches (laid : s.Laid) :
    Reaches (s.query.BuildsOnly env) s (Exec.executeCsps env s).stmt := by
  obtain ⟨events, sent, trace, query, single⟩ := Exec.executeCsps_walks env laid
  have built := s.query.plan_allBuilt env
  refine ⟨query, fun one => (single one).trans (laid.single one).symm, _, trace, ?_⟩
  intro event member
  rcases mem_cons.mp member with rfl | rest
  · exact nofun
  · rcases mem_append.mp rest with here | last
    · exact sent.buildsOnly built.slots event here
    · rw [Plan.unsent] at last
      split at last
      · rename_i builds failure stop
        obtain ⟨build, here, rfl⟩ := mem_map.mp last
        exact (built.stop builds failure stop build here).only
      · cases last

theorem executeEnd_reaches (e : Exec) (query : Query) :
    Reaches (query.BuildsOnly env) e.stmt (executeEnd env e).2 := by
  have unlocked : Reaches (query.BuildsOnly env) e.stmt (e.stmt.emit .unlock) := .emit nofun
  rw [executeEnd]
  generalize (if e.errorCount = 0 then e.ret else _) = ret
  split
  · exact unlocked
  · split
    · let emulated : Stmt :=
        { { e.stmt.emit .unlock with state := .emulated }.emit .enter with error := Diag.clear }
      have entered : Reaches (query.BuildsOnly env) (e.stmt.emit .unlock) emulated :=
        ⟨rfl, fun _ => rfl, [.enter], rfl, by simp [Query.BuildsOnly, Build.event]⟩
      exact (unlocked.trans entered).trans (executeQuery_reaches env query)
    · exact unlocked

theorem executePlain_reaches (laid : s.Laid) (client : s.sspsDisabled env = true) :
    Reaches (s.query.BuildsOnly env) s (s.executePlain env).2 := by
  rw [executePlain]
  split
  · exact .of_fields rfl rfl rfl
  · have chosen : { s with hasParams := true }.sspsDisabled env = true := client
    dsimp only
    rw [if_pos chosen]
    have ready : Reaches (s.query.BuildsOnly env) s { s with hasParams := true } :=
      .of_fields rfl rfl rfl
    exact (ready.trans (executeCsps_reaches env (ready.laid laid))).trans (executeEnd_reaches env _ _)

theorem executePositioned_reaches (laid : s.Laid) (client : s.sspsDisabled env = true)
    (cursor : PositionedCursor) :
    Reaches (s.query.BuildsOnly env) s (s.executePositioned env cursor).2 := by
  rw [executePositioned]
  split
  · exact .of_fields rfl rfl rfl
  · let entered : Stmt :=
      { { s with affectedRows := 0, positionedCursor := none }.emit .enter with error := Diag.clear }
    have first : Reaches (s.query.BuildsOnly env) s entered :=
      ⟨rfl, fun _ => rfl, [.enter], rfl, by simp [Query.BuildsOnly, Build.event]⟩
    have plain : Reaches (s.query.BuildsOnly env) entered (entered.executePlain env).2 :=
      executePlain_reaches env (first.laid laid) client
    dsimp only
    split
    · split
      · exact (first.trans plain).trans (.of_fields rfl rfl rfl)
      · exact (first.trans plain).trans (.of_fields rfl rfl rfl)
    · exact (first.trans plain).trans (.of_fields rfl rfl rfl)

/-- **An execution on the client side.** -/
theorem stmtExecute_reaches (laid : s.Laid) (client : s.sspsDisabled env = true) :
    Reaches (s.query.BuildsOnly env) s (s.stmtExecute env).2 := by
  let entered : Stmt := { s.emit .enter with error := Diag.clear }
  have first : Reaches (s.query.BuildsOnly env) s entered :=
    ⟨rfl, fun _ => rfl, [.enter], rfl, by simp [Query.BuildsOnly, Build.event]⟩
  have laid' := first.laid laid
  rw [stmtExecute]
  split
  · exact first.trans (executeQuery_reaches env _)
  · split
    · exact first.trans (executePositioned_reaches env laid' client _)
    · exact first.trans (executePlain_reaches env laid' client)

/-- Executions of a handle on the client side. -/
inductive ClientRuns : Stmt → Stmt → Prop
  | refl (s : Stmt) : ClientRuns s s
  | step {s s' : Stmt} (env : Env) : ClientRuns s s' → s'.sspsDisabled env = true →
      ClientRuns s (s'.stmtExecute env).2

theorem ClientRuns.laid {s s' : Stmt} (runs : ClientRuns s s') (laid : s.Laid) :
    s'.Laid ∧ s'.query = s.query := by
  induction runs with
  | refl => exact ⟨laid, rfl⟩
  | step env _ client ih =>
    obtain ⟨laid', same⟩ := ih
    have reaches := stmtExecute_reaches env laid' client
    exact ⟨reaches.laid laid', reaches.query.trans same⟩

/-- **The texts of the client side.** After any executions of a prepared handle, each text that one more
execution builds from bound parameters is its statement with the literals in the place of the marks, and
the marks are parted among the statements in order. -/
theorem stmtExecute_texts {s s' : Stmt} (prepared : s.PreparedForClient)
    (corresponds : Corresponds s.query.refinedText (s.query.subQuery.map (·.queryText)))
    (few : s.query.paramPositions.length < 2 ^ 15) (runs : ClientRuns s s') {env : Env}
    (client : s'.sspsDisabled env = true) :
    (List.range s.query.stmtCount).flatMap s.query.marks = s.query.paramPositions ∧
      ∀ nr row offset count text, .built nr row offset count text ∈ s'.executeEvents env →
        nr < s.query.stmtCount ∧ offset = s.query.markOffset nr ∧ count = (s.query.marks nr).length ∧
          ∀ literals, (∀ i < s.query.paramPositions.length, env.Inserts row literals i) →
            text = fill s.query.paramPositions literals (s.query.start nr) (s.query.text nr) := by
  have laid := prepared.laid corresponds few
  obtain ⟨laid', same⟩ := runs.laid laid
  obtain ⟨events, trace, builds⟩ := (stmtExecute_reaches env laid' client).adds
  have added : s'.executeEvents env = events := by rw [executeEvents, trace, drop_left]
  refine ⟨?_, ?_⟩
  · rw [← laid.query.length_texts]
    exact laid.query.marked.flatMap_marks
  · intro nr row offset count text member
    rw [added] at member
    obtain ⟨inside, offset', count', build⟩ := builds _ member ⟨nr, row, offset, count, text⟩ rfl
    rw [same] at inside offset' count' build
    refine ⟨inside, offset', count', fun literals inserts => ?_⟩
    have within : nr < s.query.texts.length := laid.query.length_texts ▸ inside
    have filled : (s.query.place nr).build env row =
        .ok (fill s.query.paramPositions literals (s.query.start nr) (s.query.text nr)) :=
      insertParams_eq_fill laid.query.marked within fun i lower upper =>
        inserts i (laid.query.marked.getD_bounds within lower upper).2.2
    exact Except.ok.inj (build.symm.trans filled)

/-- A connection with client-side statements to a server that accepts everything. The literal of a
parameter is its number. -/
def acceptingEnv : Env where
  server := fun _ _ => .ok {}
  noSsps := true
  multiStatements := true
  literal := fun i _ => .ok (lit (toString i))

def markedBatch : Stmt := (({} : Stmt).stmtPrepare acceptingEnv (lit "SELECT ?;SELECT '?',?,?") false).2

theorem stmtExecute_texts_batch :
    .built 1 0 1 2 (lit "SELECT '?',1,2") ∈
        (markedBatch.stmtExecute acceptingEnv).2.executeEvents acceptingEnv ∧
      lit "SELECT '?',1,2" = fill markedBatch.query.paramPositions (fun i => lit (toString i))
        (markedBatch.query.start 1) (markedBatch.query.text 1) := by
  have built : .built 1 0 1 2 (lit "SELECT '?',1,2") ∈
      (markedBatch.stmtExecute acceptingEnv).2.executeEvents acceptingEnv := by
    decide +kernel
  have client : (markedBatch.stmtExecute acceptingEnv).2.sspsDisabled acceptingEnv = true := by
    decide +kernel
  have texts := stmtExecute_texts (s := markedBatch)
    ⟨{}, acceptingEnv, lit "SELECT ?;SELECT '?',?,?", false, by decide +kernel, rfl, by decide +kernel,
      by decide +kernel⟩
    ⟨by decide +kernel, by decide +kernel⟩ (by decide +kernel)
    (.step acceptingEnv (.refl _) (by decide +kernel)) client
  exact ⟨built, (texts.2 _ _ _ _ _ built).2.2.2 _ fun _ _ => ⟨rfl, rfl⟩⟩

end Stmt

end MaOdbc
