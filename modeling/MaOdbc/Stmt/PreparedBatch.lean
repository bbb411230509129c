/-
**What preparing leaves of a batch.**

`GetMultiStatements` makes a handle for every C string of the refined text. There are at least as many as
entries, so that every statement of a batch prepared for the client side has a handle of its own, without
columns, without a result, and, but for the first one, without a count.
-/

import MaOdbc.Parse.DoubleDash
import MaOdbc.Stmt.Batches
import MaOdbc.Stmt.Prepared

namespace MaOdbc

open List

namespace Stmt

/-! ### The handles -/

theorem length_stringStarts {text current : Text} {finished : List Text} {fuel p : Nat}
    (here : text.drop p = joinSegments finished current) (within : p ≤ text.length)
    (enough : text.length ≤ p + fuel) (finishedFree : ∀ segment ∈ finished, 0 ∉ segment)
    (currentFree : 0 ∉ current) :
    (stringStarts text fuel p).length = finished.length + if current = [] then 0 else 1 := by
  have ended : ∀ fuel p, text.length ≤ p → stringStarts text fuel p = [] := by
    intro fuel p behind
    cases fuel with
    | zero => rfl
    | succ fuel => rw [stringStarts, if_neg (Nat.not_lt.mpr behind)]
  have left : text.length - p = (joinSegments finished current).length := by rw [← here, length_drop]
  induction finished generalizing fuel p with
  | nil =>
    have rest : text.drop p = current := here
    have length : text.length - p = current.length := left
    by_cases empty : current = []
    · rw [empty, length_nil] at length
      rw [ended fuel p (by omega), if_pos empty]
      rfl
    · have some := length_pos_of_ne_nil empty
      obtain ⟨fuel, rfl⟩ : ∃ more, fuel = more + 1 := ⟨fuel - 1, by omega⟩
      rw [stringStarts, if_pos (by omega), rest, cstr_of_nulFree currentFree, ended _ _ (by omega),
        if_neg empty]
      rfl
  | cons segment finished ih =>
    rw [joinSegments_cons] at here left
    rw [length_append, length_cons] at left
    obtain ⟨fuel, rfl⟩ : ∃ more, fuel = more + 1 := ⟨fuel - 1, by omega⟩
    have next : text.drop (p + segment.length + 1) = joinSegments finished current := by
      rw [Nat.add_assoc, ← drop_drop, here, drop_append]
      simp
    rw [stringStarts, if_pos (by omega), here, cstr_append_nul (finishedFree segment mem_cons_self),
      length_cons, length_cons, ih next (by omega) (by omega)
        (fun segment member => finishedFree segment (mem_cons_of_mem _ member)) (by omega)]
    omega

theorem addHandles_eq (s : Stmt) {multiStmts : List (Option Nat)} (named : s.multiStmts = some multiStmts)
    (count : Nat) :
    ∃ stmt multiStmts', s.addHandles (range' 1 count) = { s with
        handles := s.handles ++ replicate count {}
        stmt := stmt
        multiStmts := some multiStmts' } ∧
      multiStmts'.length = multiStmts.length ∧
      ∀ j < multiStmts.length, multiStmts'[j]? =
        if 1 ≤ j ∧ j ≤ count then some (some (s.handles.length + j - 1)) else multiStmts[j]? := by
  induction count with
  | zero =>
    refine ⟨s.stmt, multiStmts, ?_, rfl, fun j _ => (if_neg (by omega)).symm⟩
    rw [← named]
    simp [addHandles]
  | succ count ih =>
    obtain ⟨stmt, multiStmts', same, length, places⟩ := ih
    have last : s.addHandles (range' 1 (count + 1)) =
        (let s := (s.addHandles (range' 1 count)).newStmtHandle
         { s with multiStmts := s.multiStmts.map (·.set (1 + count) (some s.stmt)) }) := by
      rw [addHandles, range'_concat, foldl_append, Nat.one_mul]
      rfl
    rw [last, same]
    refine ⟨(s.handles ++ replicate count ({} : Handle)).length, multiStmts'.set (1 + count) (some (s.handles ++ replicate count ({} : Handle)).length), ?_,
      by rw [length_set, length], fun j inside => ?_⟩
    · simp only [newStmtHandle, Option.map_some, replicate_succ', append_assoc]
    · rw [getElem?_set, places j inside, length]
      by_cases here : 1 + count = j
      · rw [if_pos here, if_pos (by omega), if_pos (by omega)]
        rw [length_append, length_replicate]
        congr 2
        omega
      · rw [if_neg here]
        by_cases before : 1 ≤ j ∧ j ≤ count
        · rw [if_pos before, if_pos (by omega)]
        · rw [if_neg before, if_neg (by omega)]

structure NewBatch (ids : List Nat) (s : Stmt) : Prop extends Batch ids s where
  noResults : ∀ k, s.batchResult k = none
  noCounts : ∀ k < ids.length, 0 < k → (s.batchHandle ids k).affectedRows = 0
  current : s.stmt = ids.getD 0 0

theorem newBatch_of_handles {s s' : Stmt} {count : Nat} (multi : s.query.isMultiStmt = true)
    (enough : s.query.stmtCount ≤ count + 1) (owned : s.stmt < s.handles.length)
    (plain : s.handle.fieldCount = 0) (query : s'.query = s.query) (stmt : s'.stmt = s.stmt)
    (handles : s'.handles = s.handles ++ replicate count ({} : Handle))
    {multiStmts : List (Option Nat)} (named : s'.multiStmts = some multiStmts)
    (length : multiStmts.length = s.query.stmtCount)
    (places : ∀ j < s.query.stmtCount, multiStmts[j]? =
      if 1 ≤ j ∧ j ≤ count then some (some (s.handles.length + j - 1)) else some (some s.stmt))
    (results : s'.cspsMultiStmtResult = replicate s.query.stmtCount none) :
    NewBatch (s.stmt :: range' s.handles.length (s.query.stmtCount - 1)) s' := by
  have several : 1 < s.query.stmtCount := by
    rwa [Query.isMultiStmt, decide_eq_true_iff] at multi
  have longer : s'.handles.length = s.handles.length + count := by
    rw [handles, length_append, length_replicate]
  have first : s'.batchHandle (s.stmt :: range' s.handles.length (s.query.stmtCount - 1)) 0 = s.handle := by
    rw [batchHandle, getD_cons_zero, handles, getD_append _ _ _ _ owned]
    rfl
  have added : ∀ i < s.query.stmtCount - 1,
      (range' s.handles.length (s.query.stmtCount - 1)).getD i 0 = s.handles.length + i := by
    intro i inside
    rw [getD_eq_getElem _ _ (by rwa [length_range']), getElem_range', Nat.one_mul]
  have later : ∀ k < s.query.stmtCount, 0 < k →
      s'.batchHandle (s.stmt :: range' s.handles.length (s.query.stmtCount - 1)) k = {} := by
    intro k inside some
    obtain ⟨i, rfl⟩ : ∃ i, k = i + 1 := ⟨k - 1, by omega⟩
    rw [batchHandle, getD_cons_succ, added i (by omega), handles,
      getD_append_right _ _ _ _ (by omega), getD_replicate _ (by omega)]
  have count' : (s.stmt :: range' s.handles.length (s.query.stmtCount - 1)).length =
      s.query.stmtCount := by
    rw [length_cons, length_range']
    omega
  have plain' : ∀ k < s.query.stmtCount,
      (s'.batchHandle (s.stmt :: range' s.handles.length (s.query.stmtCount - 1)) k).fieldCount = 0 := by
    intro k inside
    rcases Nat.eq_zero_or_pos k with rfl | some
    · rw [first, plain]
    · rw [later k inside some]
  have names : multiStmts = (s.stmt :: range' s.handles.length (s.query.stmtCount - 1)).map some := by
    refine ext_getElem? fun j => ?_
    by_cases inside : j < s.query.stmtCount
    · rw [places j inside]
      rcases Nat.eq_zero_or_pos j with rfl | some
      · rw [if_neg (by omega)]
        rfl
      · obtain ⟨i, rfl⟩ : ∃ i, j = i + 1 := ⟨j - 1, by omega⟩
        rw [if_pos (by omega), map_cons, getElem?_cons_succ, getElem?_map,
          getElem?_range' (by omega), Nat.one_mul]
        rfl
    · rw [getElem?_eq_none (by omega), getElem?_eq_none (by rw [length_map]; omega)]
  refine
    { multi := query ▸ multi
      named := names ▸ named
      length := count'.trans (query ▸ rfl)
      distinct := ?_
      owned := fun id member => ?_
      results := by rw [results, length_replicate, count']
      columns := fun k inside columns => absurd (plain' k (count' ▸ inside)) columns
      noResults := fun k => ?_
      noCounts := fun k inside some => by rw [later k (count' ▸ inside) some]
      current := stmt }
  · refine nodup_cons.mpr ⟨fun member => ?_, nodup_range'⟩
    have := (mem_range'_1.mp member).1
    omega
  · rw [longer]
    rcases mem_cons.mp member with rfl | member
    · omega
    · have := (mem_range'_1.mp member).2
      omega
  · rw [batchResult, results, getElem?_replicate]
    split
    · rfl
    · rfl

/-! ### Preparing -/

theorem stmtCount_le_length_stringStarts (text : QueryText) (replace : Bool) :
    (text.parse replace true).stmtCount ≤ (stringStarts (text.parse replace true).refinedText
      (text.parse replace true).refinedText.length 0).length := by
  obtain ⟨finished, current, entered⟩ := run_entered replace text.nulFree_handed
  have done : (text.parse replace true).refinedText.drop 0 = joinSegments finished current :=
    (text.parse_refinedText replace true).trans entered.done
  have entries : (text.scan replace true).entries.length = (text.parse replace true).stmtCount :=
    length_map _
  have bound : (text.scan replace true).entries.length +
      (if 2 ≤ (text.scan replace true).stmtTokensCount then 0 else 1) ≤ finished.length + 1 := entered.bound
  rw [length_stringStarts done (Nat.zero_le _) (Nat.le_add_left _ _) entered.finishedFree
    entered.currentFree]
  by_cases empty : current = []
  · -- the statement behind the last semicolon has no second token
    have few : ¬ 2 ≤ (text.scan replace true).stmtTokensCount := by
      intro second
      rcases entered.solid (Nat.lt_of_lt_of_le Nat.zero_lt_two second) with solid | ⟨-, one⟩
      · rw [empty] at solid
        cases solid
      · exact absurd (one ▸ second : 2 ≤ 1) (by decide)
    rw [if_neg few] at bound
    omega
  · rw [if_neg empty]
    omega

variable {env : Env} {s s' : Stmt}

theorem getMultiStatements_newBatch (client : s.sspsDisabled env = true)
    (multi : s.query.isMultiStmt = true)
    (enough : s.query.stmtCount ≤
      (stringStarts s.query.refinedText s.query.refinedText.length 0).length)
    (owned : s.stmt < s.handles.length) (plain : s.handle.fieldCount = 0) :
    ∃ ids, NewBatch ids (s.getMultiStatements env).2 := by
  let begun : Stmt :=
    { s with
      multiStmtNr := 0
      multiStmts := some ((replicate s.query.stmtCount none).set 0 (some s.stmt))
      cspsMultiStmtResult := replicate s.query.stmtCount none }
  let count := (stringStarts s.query.refinedText s.query.refinedText.length 0).length - 1
  obtain ⟨stmt, multiStmts, same, length, places⟩ := begun.addHandles_eq rfl count
  have disabled : begun.sspsDisabled env = true := client
  have got : (s.getMultiStatements env).2 =
      { begun.addHandles (range' 1 count) with stmt := s.stmt } := by
    rw [getMultiStatements]
    simp only [if_pos client]
    exact congrArg Prod.snd (if_pos disabled)
  have several : 1 < s.query.stmtCount := by
    rwa [Query.isMultiStmt, decide_eq_true_iff] at multi
  have base : ((replicate s.query.stmtCount none).set 0 (some s.stmt)).length =
      s.query.stmtCount := by
    rw [length_set, length_replicate]
  refine ⟨_, @newBatch_of_handles s (s.getMultiStatements env).2 count multi (by omega) owned plain
    ?_ ?_ ?_ multiStmts ?_ (length.trans base) (fun j inside => ?_) ?_⟩
  · rw [got, same]
  · rw [got, same]
  · rw [got, same]
  · rw [got, same]
  · rw [places j (by rwa [base])]
    by_cases later : 1 ≤ j ∧ j ≤ count
    · rw [if_pos later, if_pos later]
    · obtain rfl : j = 0 := by omega
      rw [if_neg later, if_neg later, getElem?_set_self (by rw [length_replicate]; omega)]
  · rw [got, same]

/-- A handle that can be prepared: its `MYSQL_STMT` exists, it is one of a batch only if the query is a
batch, and it has no columns unless preparing replaces it. -/
structure Fit (s : Stmt) : Prop where
  owned : s.stmt < s.handles.length
  batch : s.multiStmts.isSome = true → s.query.isMultiStmt = true
  plain : s.multiStmts = none → s.state = .inited ∨ s.state = .emulated → s.handle.fieldCount = 0

/-- What `MADB_StmtReset` leaves. -/
structure Reset (s : Stmt) : Prop where
  owned : s.stmt < s.handles.length
  single : s.multiStmts = none
  plain : s.handle.fieldCount = 0

theorem newStmtHandle_new (s : Stmt) :
    s.newStmtHandle.stmt < s.newStmtHandle.handles.length ∧ s.newStmtHandle.handle.fieldCount = 0 := by
  constructor
  · show s.handles.length < (s.handles ++ [({} : Handle)]).length
    rw [length_append]
    exact Nat.lt_succ_self _
  · show ((s.handles ++ [({} : Handle)]).getD s.handles.length {}).fieldCount = 0
    rw [getD_append_right _ _ _ _ (Nat.le_refl _), Nat.sub_self]
    rfl

theorem stmtReset_reset (fit : s.Fit) : s.stmtReset.Reset := by
  rw [stmtReset]
  split
  · obtain ⟨owned, plain⟩ := newStmtHandle_new s.closeMultiStatements
    exact ⟨owned, rfl, plain⟩
  · rename_i one
    have single : s.multiStmts = none := by
      cases named : s.multiStmts with
      | none => rfl
      | some multiStmts =>
        have several := fit.batch (by rw [named]; rfl)
        exact absurd ⟨several, by rw [named]; rfl⟩ one
    split
    · obtain ⟨owned, plain⟩ := newStmtHandle_new { s with cspsResult := none }
      exact ⟨owned, single, plain⟩
    · rename_i unprepared
      refine ⟨fit.owned, single, fit.plain single ?_⟩
      cases state : s.state with
      | inited => exact .inl rfl
      | emulated => exact .inr rfl
      | _ => simp [state] at unprepared

theorem prepareUnlocked_multiStmts (client : s.sspsDisabled env = true)
    (succeeded : (s.prepareUnlocked env).1.succeeded = true) :
    (s.prepareUnlocked env).2.multiStmts = s.multiStmts := by
  have ends := prepareUnlocked_cases env s
  generalize s.prepareUnlocked env = ended at ends succeeded
  cases ends with
  | refused failed => exact absurd succeeded (by simp [failed])
  | emulated settled => exact settled.kept.2.2.2
  | client _ settled => exact settled.kept.2.2.2
  | server settled server =>
    rw [sspsDisabled, settled.kept.2.2.1, ← sspsDisabled, client] at server
    cases server

/-- A batch that `MADB_StmtPrepare` has prepared for the client side. -/
structure PreparedBatch (s : Stmt) : Prop where
  prepared : ∃ (s₀ : Stmt) (env : Env) (text : Text) (execDirect : Bool), s₀.Fit ∧
    (∀ unescaped, env.unescape text = .ok unescaped → 0 ∉ unescaped) ∧
    (s₀.stmtPrepare env text execDirect).1.succeeded = true ∧
    (s₀.stmtPrepare env text execDirect).2 = s ∧ s.sspsDisabled env = true
  batch : s.multiStmts.isSome = true

theorem prepareParsed_newBatch {execDirect : Bool} (reset : s.Reset) (text : QueryText) (replace : Bool)
    (parsed : s.query = text.parse replace env.multiStatements)
    (client : (s.prepareParsed env execDirect).2.sspsDisabled env = true)
    (succeeded : (s.prepareParsed env execDirect).1.succeeded = true)
    (batch : (s.prepareParsed env execDirect).2.multiStmts.isSome = true) :
    ∃ ids, NewBatch ids (s.prepareParsed env execDirect).2 := by
  obtain ⟨disabled, ⟨multi, allowed, reached⟩ | reached⟩ := prepareParsed_client client succeeded
  · rw [parsed] at allowed
    have enough := stmtCount_le_length_stringStarts text replace
    rw [← show env.multiStatements = true from allowed, ← parsed] at enough
    have made : ∃ ids, NewBatch ids ((s.checkStatements env).getMultiStatements env).2 :=
      getMultiStatements_newBatch disabled multi enough reset.owned reset.plain
    obtain ⟨ids, new⟩ := made
    rw [reached]
    exact ⟨ids, new.toBatch.of_same rfl rfl rfl rfl, new.noResults, new.noCounts, new.current⟩
  · rw [reached] at succeeded batch
    rw [prepareUnlocked_multiStmts (s := (s.checkStatements env).emit .unlock) disabled succeeded] at batch
    rw [show ((s.checkStatements env).emit .unlock).multiStmts = _ from reset.single] at batch
    cases batch

/-- **A prepared batch has its handles.** -/
theorem PreparedBatch.newBatch (prepared : s.PreparedBatch) : ∃ ids, NewBatch ids s := by
  obtain ⟨⟨s₀, env, text, execDirect, fit, nulFree, succeeded, reached, client⟩, batch⟩ := prepared
  have locked : (s₀.emit .lock).Fit := ⟨fit.owned, fit.batch, fit.plain⟩
  have reset := stmtReset_reset locked
  subst reached
  rw [stmtPrepare] at succeeded client batch ⊢
  dsimp only at succeeded client batch ⊢
  split at succeeded
  · cases succeeded
  · rename_i long
    rw [if_neg long] at client batch ⊢
    split at succeeded
    · rename_i error failed
      rw [failed] at batch
      rw [show Stmt.multiStmts _ = none from reset.single] at batch
      cases batch
    · rename_i unescaped found
      rw [found] at client batch
      exact prepareParsed_newBatch ⟨reset.owned, reset.single, reset.plain⟩
        ⟨unescaped, nulFree unescaped found⟩ env.rewriteCallSP rfl client succeeded batch

end Stmt

end MaOdbc
