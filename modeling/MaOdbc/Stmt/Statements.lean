/-
**The statements of a batch are all sent.**

Where all parameters of a row are bound and their literals can be built, `MADB_InsertParams` builds the
text of the statement with the literals in the place of its marks. Then no plan stops short: row by row it has one query
for each row that is not ignored, and combined one query for each batch of rows. Either way the pairs of statement and
row come in lexicographic order.

For one parameter row the client side sends one query per entry of `SubQuery`, walking over the segments
of the text. **`stmtExecute_statements_iff`**: the entries correspond to the segments and every statement
with a token is sent once, in order, exactly if every statement of the text has a token, the last one at
least two, and the first one is not procedural.
-/

import Mathlib.Algebra.Order.Floor.Div
import MaOdbc.Parse.Batch
import MaOdbc.Parse.DoubleDash
import MaOdbc.Parse.Layout
import MaOdbc.Stmt.Client
import MaOdbc.Stmt.Execute

namespace MaOdbc

open List

def Env.Inserts (env : Env) (row : Nat) (literals : Nat → Text) (i : Nat) : Prop :=
  env.record i = some true ∧ env.literal i row = .ok (literals i)

section Filled

variable {env : Env} {query : Query} {k row : Nat} {literals : Nat → Text}

/-- How far a statement has been built once the parameters below an index are in. -/
structure Filled (query : Query) (k : Nat) (literals : Nat → Text) (next : Nat) (building : Building) :
    Prop where
  start_le : query.start k ≤ building.query
  le_end : building.query ≤ query.start k + (query.text k).length
  text : building.finalQuery = fill query.paramPositions literals (query.start k)
    ((query.text k).take (building.query - query.start k))
  before : ∀ i < next, query.paramPositions.getD i 0 < building.query
  behind : ∀ i, next ≤ i → i < query.paramPositions.length →
    building.query ≤ query.paramPositions.getD i 0

theorem Filled.stretch {next : Nat} {building : Building} (filled : Filled query k literals next building)
    (inside : k < query.texts.length) {stop : Nat} (le : building.query ≤ stop)
    (stop_le : stop ≤ query.start k + (query.text k).length)
    (free : ∀ i, next ≤ i → i < query.paramPositions.length → stop ≤ query.paramPositions.getD i 0) :
    building.finalQuery ++ (query.refinedText.drop building.query).take (stop - building.query) =
      fill query.paramPositions literals (query.start k)
        ((query.text k).take (stop - query.start k)) := by
  have start_le := filled.start_le
  have ahead : query.refinedText.drop building.query =
      (query.text k).drop (building.query - query.start k) ++
        (query.refinedText.drop (query.start k)).dropWhile (· != 0) := by
    have whole : query.refinedText.drop (query.start k) =
        query.text k ++ (query.refinedText.drop (query.start k)).dropWhile (· != 0) := by
      rw [← Query.cstr_start inside, cstr, takeWhile_append_dropWhile]
    have further := congrArg (List.drop (building.query - query.start k)) whole
    rw [drop_drop, Nat.add_sub_cancel' start_le,
      drop_append_of_le_length (by have := filled.le_end; omega)] at further
    exact further
  have cut : (query.text k).take (stop - query.start k) =
      (query.text k).take (building.query - query.start k) ++
        ((query.text k).drop (building.query - query.start k)).take (stop - building.query) := by
    rw [← take_add]
    congr 1
    omega
  have short : (query.text k).length - (building.query - query.start k) ≥ stop - building.query := by
    omega
  rw [ahead, take_append_of_le_length (by rw [length_drop]; exact short), cut, fill_append,
    ← filled.text]
  congr 1
  refine (fill_of_not_mem ?_).symm
  rintro position member ⟨lower, upper⟩
  obtain ⟨i, recorded, rfl⟩ := getElem_of_mem member
  rw [← getD_eq_getElem query.paramPositions 0 recorded] at lower upper
  simp only [length_take, length_drop] at lower upper
  by_cases earlier : i < next
  · have := filled.before i earlier
    omega
  · have := free i (by omega) recorded
    omega

theorem Filled.step (marked : query.Marked) (inside : k < query.texts.length) {i : Nat}
    {building : Building} (filled : Filled query k literals i building)
    (lower : query.markOffset k ≤ i) (upper : i < query.markOffset k + (query.marks k).length)
    (inserts : env.Inserts row literals i) :
    (insertNext env query row i building).All (Filled query k literals (i + 1)) fun _ => False := by
  obtain ⟨start_le, lt_end, recorded⟩ := marked.getD_bounds inside lower upper
  have le := filled.behind i le_rfl recorded
  have rises : ∀ j, i < j → j < query.paramPositions.length →
      query.paramPositions.getD i 0 < query.paramPositions.getD j 0 := by
    intro j later known
    rw [getD_eq_getElem _ _ recorded, getD_eq_getElem _ _ known]
    exact pairwise_iff_getElem.mp marked.rising i j recorded known later
  have stretch := filled.stretch inside le lt_end.le fun j atLeast known =>
    (Nat.eq_or_lt_of_le atLeast).elim (fun same => same ▸ le_rfl) fun later => (rises j later known).le
  simp only [insertNext, inserts.1, inserts.2, Flow.all_next]
  have place : building.query + (query.paramPositions.getD i 0 - building.query) + 1 =
      query.paramPositions.getD i 0 + 1 := by omega
  rw [stretch, place]
  refine ⟨by dsimp only; omega, by dsimp only; omega, ?_, ?_, ?_⟩
  · have one : (query.text k).take (query.paramPositions.getD i 0 + 1 - query.start k) =
        (query.text k).take (query.paramPositions.getD i 0 - query.start k) ++
          [(query.text k).getD (query.paramPositions.getD i 0 - query.start k) 0] := by
      have here : query.paramPositions.getD i 0 - query.start k < (query.text k).length := by omega
      rw [Nat.sub_add_comm start_le, take_add_one, getElem?_eq_getElem here,
        getD_eq_getElem _ _ here]
      rfl
    have there : query.start k +
        ((query.text k).take (query.paramPositions.getD i 0 - query.start k)).length =
          query.paramPositions.getD i 0 := by
      rw [length_take]
      omega
    dsimp only
    rw [one, fill_append, there, fill_at marked.rising recorded, fill, append_nil]
  · intro j earlier
    dsimp only
    rcases Nat.lt_succ_iff_lt_or_eq.mp earlier with before | rfl
    · have := filled.before j before
      omega
    · exact Nat.lt_succ_self _
  · intro j later known
    exact rises j later known

/-- **The text built for a statement.** -/
theorem insertParams_eq_fill (marked : query.Marked) (inside : k < query.texts.length)
    (inserts : ∀ i, query.markOffset k ≤ i → i < query.markOffset k + (query.marks k).length →
      env.Inserts row literals i) :
    insertParams env query (query.start k) row (query.markOffset k) (query.marks k).length =
      .ok (fill query.paramPositions literals (query.start k) (query.text k)) := by
  have start : Filled query k literals (query.markOffset k) { query := query.start k } := by
    refine ⟨le_rfl, Nat.le_add_right _ _, ?_, fun i before => marked.getD_lt_start before,
      fun i behind known => marked.start_le_getD behind known⟩
    dsimp only
    rw [Nat.sub_self, take_zero, fill]
  have loop : (forEach (insertNext env query row)
      (range' (query.markOffset k) (query.marks k).length) { query := query.start k }).All
        (Filled query k literals (query.markOffset k + (query.marks k).length)) fun _ => False :=
    forEach_range'_rule (Filled query k literals)
      (fun i _ lower upper filled => filled.step marked inside lower upper (inserts i lower upper)) start
  rw [insertParams]
  cases ended : forEach (insertNext env query row)
      (range' (query.markOffset k) (query.marks k).length) { query := query.start k } with
  | leave failure =>
    rw [ended] at loop
    exact loop.elim
  | next building =>
    rw [ended, Flow.all_next] at loop
    have rest := loop.stretch inside loop.le_end le_rfl fun i behind known => by
      rw [← marked.markOffset_succ inside] at behind
      have := marked.start_le_getD behind known
      rw [Query.start_succ inside] at this
      omega
    rw [Nat.add_sub_cancel_left, take_length] at rest
    dsimp only
    rw [Query.cstr_start inside, rest]

end Filled

open Place Plan

/-! ### The plan where every parameter can be inserted -/

theorem Plan.seq_of_done {plans : List Plan} (done : ∀ plan ∈ plans, plan.stop = none) :
    seq plans = ⟨plans.flatMap slots, none⟩ := by
  induction plans with
  | nil => rfl
  | cons plan plans ih =>
    rw [seq, foldr_cons, ← seq, andThen, done plan mem_cons_self,
      ih fun plan member => done plan (mem_cons_of_mem _ member)]
    rfl

namespace Place

variable {env : Env} {place : Place} {texts : Nat → Text}

/-- The rows that are not ignored. -/
def takenRows (env : Env) (rows : List Nat) : List Nat := rows.filter (!env.ignored ·)

def rowSlot (place : Place) (texts : Nat → Text) (nr row : Nat) : Slot where
  builds := [place.built nr row (texts row)]
  query := texts row
  purpose := { statement := place.statement, pairs := [(nr, row)] }

def batchSlot (env : Env) (place : Place) (texts : Nat → Text) (batchNum : Nat) : Slot where
  builds := (takenRows env (place.batchRows env batchNum)).map fun row => place.built 0 row (texts row)
  query := place.beforeTuples ++
    (takenRows env (place.batchRows env batchNum)).flatMap fun row => place.tuple row (texts row)
  purpose :=
    { statement := place.statement
      pairs := (takenRows env (place.batchRows env batchNum)).map (0, ·) }

theorem rowPlan_of_build {nr row : Nat}
    (build : env.ignored row = false → place.build env row = .ok (texts row)) :
    place.rowPlan env nr row = ⟨(takenRows env [row]).map (place.rowSlot texts nr), none⟩ := by
  rw [rowPlan, takenRows]
  cases ignored : env.ignored row with
  | true => simp [ignored]
  | false =>
    rw [if_neg Bool.false_ne_true, build ignored]
    simp [ignored, rowSlot]

theorem combine_of_build {rows : List Nat}
    (build : ∀ row ∈ rows, env.ignored row = false → place.build env row = .ok (texts row)) :
    place.combine env rows =
      .ok ((takenRows env rows).map fun row => place.built 0 row (texts row),
        (takenRows env rows).flatMap fun row => place.tuple row (texts row)) := by
  induction rows with
  | nil => rfl
  | cons row rows ih =>
    have rest := ih fun row member => build row (mem_cons_of_mem _ member)
    rw [combine]
    cases ignored : env.ignored row with
    | true =>
      rw [if_pos rfl, rest, takenRows, takenRows, filter_cons_of_neg (by simp [ignored])]
    | false =>
      rw [if_neg Bool.false_ne_true, build row mem_cons_self ignored, rest, takenRows, takenRows,
        filter_cons_of_pos (by simp [ignored])]
      rfl

section

variable
  (build : ∀ row < place.rowCount env, env.ignored row = false → place.build env row = .ok (texts row))

include build

theorem batchPlan_of_build {batchNum : Nat} :
    place.batchPlan env batchNum = ⟨[place.batchSlot env texts batchNum], none⟩ := by
  have within : ∀ row ∈ place.batchRows env batchNum, env.ignored row = false →
      place.build env row = .ok (texts row) := fun row member =>
    build row (by simpa using (mem_filter.mp member).2)
  rw [batchPlan, combine_of_build within]
  rfl

theorem rowPlans_of_build {nr : Nat} :
    seq ((range (place.rowCount env)).map (place.rowPlan env nr)) =
      ⟨(takenRows env (range (place.rowCount env))).map (place.rowSlot texts nr), none⟩ := by
  have each : (range (place.rowCount env)).map (place.rowPlan env nr) =
      (range (place.rowCount env)).map fun row =>
        ⟨(takenRows env [row]).map (place.rowSlot texts nr), none⟩ :=
    map_congr_left fun row member => rowPlan_of_build (build row (mem_range.mp member))
  rw [each, seq_of_done (by simp), flatMap_map]
  congr 1
  conv_rhs =>
    rw [takenRows, ← flatMap_singleton' (range _), filter_flatMap, map_flatMap]
  rfl

end

/-- **Row by row.** -/
theorem plan_rowByRow {nr : Nat} (rowByRow : place.rewrites env = false)
    (build : ∀ row < place.rowCount env, env.ignored row = false →
      place.build env row = .ok (texts row)) :
    place.plan env nr =
      ⟨(takenRows env (range (place.rowCount env))).map (place.rowSlot texts nr), none⟩ := by
  rw [plan, rowByRow, if_neg Bool.false_ne_true, rowPlans_of_build build]

/-- **Combined.** -/
theorem plan_combined {nr : Nat} (combined : place.rewrites env = true)
    (build : ∀ row < place.rowCount env, env.ignored row = false →
      place.build env row = .ok (texts row)) :
    place.plan env nr =
      ⟨(range (place.batchCount env)).map (place.batchSlot env texts), none⟩ := by
  have each : (range (place.batchCount env)).map (place.batchPlan env) =
      (range (place.batchCount env)).map fun batchNum =>
        ⟨[place.batchSlot env texts batchNum], none⟩ :=
    map_congr_left fun batchNum _ => batchPlan_of_build build
  rw [plan, combined, if_pos rfl, each, seq_of_done (by simp), flatMap_map]
  congr 1
  exact map_eq_flatMap.symm

end Place

/-! ### All statements -/

/-- The literal of a parameter. -/
def Env.literalText (env : Env) (row i : Nat) : Text :=
  match env.literal i row with
  | .ok text => text
  | .error _ => []

namespace Query

variable {env : Env} {query : Query} {k row : Nat}

def RowInserts (env : Env) (query : Query) (row : Nat) : Prop :=
  ∀ i < query.paramPositions.length, env.Inserts row (env.literalText row) i

def Inserts (env : Env) (query : Query) : Prop :=
  ∀ row < max 1 env.arraySize, env.ignored row = false → query.RowInserts env row

def filled (env : Env) (query : Query) (k row : Nat) : Text :=
  fill query.paramPositions (env.literalText row) (query.start k) (query.text k)

def pairs (env : Env) (query : Query) : List (Nat × Nat) :=
  (List.range query.stmtCount).flatMap fun k =>
    (takenRows env (List.range ((query.place k).rowCount env))).map (k, ·)

theorem rowCount_le (place : Place) : place.rowCount env ≤ max 1 env.arraySize := by
  rw [rowCount]
  split <;> omega

theorem Laid.build_eq (laid : query.Laid) (inside : k < query.stmtCount)
    (inserts : query.RowInserts env row) :
    (query.place k).build env row = .ok (query.filled env k row) := by
  have within : k < query.texts.length := laid.length_texts ▸ inside
  exact insertParams_eq_fill laid.marked within fun i lower upper =>
    inserts i (laid.marked.getD_bounds within lower upper).2.2

theorem Laid.builds (laid : query.Laid) (inserts : query.Inserts env) (inside : k < query.stmtCount) :
    ∀ row < (query.place k).rowCount env, env.ignored row = false →
      (query.place k).build env row = .ok (query.filled env k row) :=
  fun row less taken => laid.build_eq inside (inserts row (less.trans_le (rowCount_le _)) taken)

theorem rowCount_of_rewrites (combined : (query.place k).rewrites env = true) :
    1 < (query.place k).rowCount env := by
  simp only [rewrites, Bool.and_eq_true, decide_eq_true_eq] at combined
  exact combined.1.1.1.1.1.1

theorem Laid.rowsInBatch_pos (laid : query.Laid) (combined : (query.place k).rewrites env = true) :
    0 < (query.place k).rowsInBatch := by
  have several := rowCount_of_rewrites combined
  have few : (query.place k).paramCount < 32768 := laid.marks_few k
  have some : 0 < (query.place k).paramCount := by
    by_contra none
    rw [rowCount, if_neg none] at several
    omega
  exact Nat.div_pos (by show _ ≤ 1024000; omega) some

theorem Laid.flatMap_batchRows (laid : query.Laid) (combined : (query.place k).rewrites env = true) :
    (range ((query.place k).batchCount env)).flatMap ((query.place k).batchRows env) =
      range ((query.place k).rowCount env) := by
  have room := laid.rowsInBatch_pos combined
  have enough : (query.place k).rowCount env ≤
      (query.place k).batchCount env * (query.place k).rowsInBatch := by
    rw [Nat.mul_comm]
    exact (ceilDiv_le_iff_le_mul room).mp le_rfl
  unfold batchRows
  rw [Exec.batches_eq, Exec.filter_range, Nat.min_eq_right enough]

theorem Laid.place_plan (laid : query.Laid) (inserts : query.Inserts env) (inside : k < query.stmtCount) :
    ((query.place k).plan env k).stop = none ∧
      ((query.place k).plan env k).slots.flatMap (·.purpose.pairs) =
        (takenRows env (range ((query.place k).rowCount env))).map (k, ·) := by
  have build := laid.builds inserts inside
  cases combined : (query.place k).rewrites env with
  | false =>
    rw [plan_rowByRow combined build]
    refine ⟨rfl, ?_⟩
    dsimp only
    rw [flatMap_map]
    exact map_eq_flatMap.symm
  | true =>
    have first : k = 0 := by
      have single : query.isMultiStmt = false := single_of_rewrites combined
      rw [Query.isMultiStmt, decide_eq_false_iff_not] at single
      omega
    subst first
    rw [plan_combined combined build]
    refine ⟨rfl, ?_⟩
    dsimp only
    rw [flatMap_map, ← laid.flatMap_batchRows combined, takenRows, filter_flatMap,
      map_flatMap]
    rfl

/-- **The pairs of an execution** whose parameters can all be inserted. -/
theorem Laid.plan_pairs (laid : query.Laid) (inserts : query.Inserts env) :
    (query.plan env).stop = none ∧
      (query.plan env).slots.flatMap (·.purpose.pairs) = query.pairs env := by
  have done : ∀ plan ∈ (range query.stmtCount).map fun k => (query.place k).plan env k,
      plan.stop = none := by
    rw [forall_mem_map]
    exact fun k member => (laid.place_plan inserts (mem_range.mp member)).1
  rw [plan, seq_of_done done]
  refine ⟨rfl, ?_⟩
  dsimp only
  rw [flatMap_map, flatMap_assoc, pairs]
  exact flatMap_congr fun k member => (laid.place_plan inserts (mem_range.mp member)).2

end Query

/-! ### One row -/

/-- The statement that a query was sent for. -/
def Event.statement : Event → Option Text
  | .asked (.query _) purpose _ => some purpose.statement
  | _ => none

def sentStatements (events : List Event) : List Text := events.filterMap Event.statement

theorem Sent.statements {env : Env} {slots : List Slot} {events : List Event}
    (sent : Sent env slots events) :
    sentStatements events = slots.map (·.purpose.statement) := by
  have built : ∀ builds : List Build, sentStatements (builds.map Build.event) = [] := by
    intro builds
    rw [sentStatements, filterMap_map, filterMap_eq_nil_iff]
    exact fun _ _ => rfl
  induction sent with
  | nil => rfl
  | @cons slot slots events position _ ih =>
    rw [sentStatements, filterMap_append, ← sentStatements, built, nil_append,
      filterMap_cons, map_cons, ← ih]
    rfl
  | store position _ ih => exact ih

theorem Query.Laid.statements {query : Query} (laid : query.Laid) {env : Env} (one : env.arraySize = 1)
    (taken : env.ignored 0 = false) (inserts : query.RowInserts env 0) :
    (query.plan env).stop = none ∧
      (query.plan env).slots.map (·.purpose.statement) = query.texts := by
  have single : ∀ k, (query.place k).rowCount env = 1 := by
    intro k
    rw [Place.rowCount, one, ite_self]
  have rowByRow : ∀ k, (query.place k).rewrites env = false := by
    intro k
    simp [Place.rewrites, single k]
  have planned : (range query.stmtCount).map (fun k => (query.place k).plan env k) =
      (range query.stmtCount).map fun k =>
        ⟨[(query.place k).rowSlot (query.filled env k) k 0], none⟩ := by
    refine map_congr_left fun k member => ?_
    have build : ∀ row < (query.place k).rowCount env, env.ignored row = false →
        (query.place k).build env row = .ok (query.filled env k row) := by
      intro row less _
      rw [single k, Nat.lt_one_iff] at less
      subst less
      exact laid.build_eq (mem_range.mp member) inserts
    rw [Place.plan_rowByRow (rowByRow k) build, single k]
    simp [Place.takenRows, taken]
  rw [Query.plan, planned, Plan.seq_of_done (by simp), flatMap_map]
  refine ⟨rfl, ?_⟩
  have texts : (range query.stmtCount).map (fun k => (query.place k).statement) = query.texts := by
    refine ext_getElem (by simp [laid.length_texts]) fun k inside within => ?_
    rw [getElem_map, getElem_range,
      laid.place_statement (by simpa using inside), Query.text, getD_eq_getElem _ _ within]
  rw [← texts, map_flatMap]
  exact map_eq_flatMap.symm

theorem quotesWhole_of_closed {text : Text}
    (closed : ∀ lexeme ∈ lexemes driverDash text, lexeme.isUnclosed = false) : QuotesWhole text :=
  fun _ _ member => absurd (closed _ member) (by simp [Lexeme.isUnclosed])

theorem firstStrings_of_corresponds {refinedText : Text} {entries : List Nat}
    (corresponds : Corresponds refinedText entries) :
    firstStrings entries.length refinedText = segments refinedText := by
  obtain ⟨finished, current, same, cut, finishedFree, currentFree⟩ := exists_joinSegments refinedText
  have length : entries.length = finished.length + 1 := by
    have counts := congrArg length corresponds.1
    rwa [length_map, length_segmentTokens, cut, length_append, length_singleton] at counts
  rw [cut, length, same, firstStrings_joinSegments finishedFree currentFree]

namespace Stmt

variable {env : Env} {s : Stmt}

theorem sentStatements_executeEvents (laid : s.Laid) (supports : env.Supports) (plain : s.Plain env)
    (one : env.arraySize = 1) (taken : env.ignored 0 = false) (inserts : s.query.RowInserts env 0) :
    sentStatements (s.executeEvents env) = s.query.texts := by
  obtain ⟨events, sent, same⟩ := executeEvents_client laid supports plain
  obtain ⟨stop, texts⟩ := laid.query.statements one taken inserts
  have unsent : (s.query.plan env).unsent = [] := by rw [Plan.unsent, stop]
  have inner : sentStatements (s.executeEvents env) = sentStatements events := by
    rw [same, unsent, append_nil, sentStatements, filterMap_cons_none rfl,
      filterMap_cons_none rfl, filterMap_append]
    exact append_nil _
  rw [inner, sent.statements, texts]

/-- **All statements are found and sent.** -/
theorem stmtExecute_statements_iff (text : QueryText) (replace : Bool) (whole : QuotesWhole text.handed)
    (parsed : s.query = { text.parse replace true with returnsResult := s.query.returnsResult })
    (counted : s.query.isMultiStmt = false →
      s.paramCount = toSmallInt s.query.paramPositions.length)
    (few : s.query.paramPositions.length < 2 ^ 15) (supports : env.Supports) (plain : s.Plain env)
    (one : env.arraySize = 1) (taken : env.ignored 0 = false) (inserts : s.query.RowInserts env 0) :
    Corresponds s.query.refinedText (s.query.subQuery.map (·.queryText)) ∧
        sentStatements (s.executeEvents env) =
          tokenSlices (statementsOf (lexemes driverDash text.handed)) s.query.refinedText ↔
      Batchable text.handed := by
  let scan := Scan.run replace true { rest := text.handed }
  have refined : s.query.refinedText = scan.done := by
    rw [parsed]
    exact text.parse_refinedText replace true
  have entries : s.query.subQuery.map (·.queryText) = scan.entries := by
    rw [parsed]
    rfl
  have marked : s.query.Marked := by
    rw [parsed]
    exact ⟨(madbParseQuery_marked _ replace).rising, (madbParseQuery_marked _ replace).marks⟩
  have exact : toSmallInt s.query.paramPositions.length = s.query.paramPositions.length :=
    toSmallInt_of_lt few
  rw [← run_batch_iff replace text.handed_atToken text.nulFree_handed whole, TakenWhole, ← refined,
    ← entries]
  refine and_congr_right fun corresponds => ?_
  have laid : s.Laid := ⟨⟨marked, corresponds, few⟩, fun single => (counted single).trans exact⟩
  rw [sentStatements_executeEvents laid supports plain one taken inserts,
    firstStrings_of_corresponds corresponds]
  rfl

/-- A connection for one query. -/
def batchEnv : Env where
  server := fun _ _ => .ok {}
  noSsps := true
  multiStatements := true

theorem batchEnv_supports : batchEnv.Supports where
  server _ _ _ failed := by cases failed
  literal _ _ _ _ failed := by cases failed

def preparedOn (text : Text) : Stmt := (({} : Stmt).stmtPrepare batchEnv text false).2

/-- Two statements behind each other are both sent. -/
theorem stmtExecute_statements_iff_two :
    Batchable (lit "SELECT 1 ;SELECT 2") ∧
      Corresponds (preparedOn (lit "SELECT 1 ;SELECT 2")).query.refinedText
          ((preparedOn (lit "SELECT 1 ;SELECT 2")).query.subQuery.map (·.queryText)) ∧
        sentStatements ((preparedOn (lit "SELECT 1 ;SELECT 2")).executeEvents batchEnv) =
          tokenSlices (statementsOf (lexemes driverDash (lit "SELECT 1 ;SELECT 2")))
            (preparedOn (lit "SELECT 1 ;SELECT 2")).query.refinedText :=
  ⟨by decide +kernel,
    (stmtExecute_statements_iff (s := preparedOn (lit "SELECT 1 ;SELECT 2"))
      ⟨lit "SELECT 1 ;SELECT 2", by decide⟩ false (quotesWhole_of_closed (by decide +kernel)) rfl
      (by decide +kernel) (by decide +kernel) batchEnv_supports
      ⟨by decide +kernel, by decide +kernel, by decide +kernel, by decide +kernel⟩ rfl rfl
      fun _ _ => ⟨rfl, rfl⟩).mpr (by decide +kernel)⟩

/-- A statement of one token behind a batch is not sent. -/
theorem stmtExecute_statements_lost :
    sentStatements ((preparedOn (lit "SELECT 1;COMMIT")).executeEvents batchEnv) ≠
      tokenSlices (statementsOf (lexemes driverDash (lit "SELECT 1;COMMIT")))
        (preparedOn (lit "SELECT 1;COMMIT")).query.refinedText := by
  decide +kernel

end Stmt

end MaOdbc
