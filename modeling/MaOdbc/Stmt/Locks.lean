/-
**The lock of the connection.**

Whether `MADB_StmtPrepare`, `MADB_StmtExecute`, `MADB_StmtSetPos` and `MA_SQLCancel` give the lock of the
connection back as often as they take it, and never while they do not hold it. None of them always does;
for each of them the inputs on which it does are characterized.

`requests_exclusive`: however threads are interleaved, a request is made by the one thread that holds the lock.
-/

import MaOdbc.Cursor.SetPos
import MaOdbc.Library.Lock
import MaOdbc.Stmt.Passes

namespace MaOdbc

open List CursorEvent Option

def Event.lockOp : Event → Option LockOp
  | .lock => some .acquire
  | .unlock => some .release
  | _ => none

def CursorEvent.lockOp : CursorEvent → Option LockOp
  | .lock => some .acquire
  | .unlock => some .release
  | _ => none

/-- What events do to the lock. -/
def lockOps (events : List Event) : List LockOp := events.filterMap Event.lockOp

theorem lockOps_append (first second : List Event) :
    lockOps (first ++ second) = lockOps first ++ lockOps second :=
  filterMap_append

@[simp] theorem lockOps_lock (events : List Event) :
    lockOps (.lock :: events) = .acquire :: lockOps events := rfl

@[simp] theorem lockOps_unlock (events : List Event) :
    lockOps (.unlock :: events) = .release :: lockOps events := rfl

variable {work events : List Event} {more : Nat} {c' c'' : Cursor}

theorem lockOps_of_isWork (isWork : ∀ event ∈ work, event.isWork = true) : lockOps work = [] := by
  refine filterMap_eq_nil_iff.mpr fun event member => ?_
  have works := isWork event member
  cases event with
  | lock | unlock => cases works
  | _ => rfl

theorem lockOps_of_isPrepare {asks : List Event} (prepares : ∀ ask ∈ asks, ask.isPrepare = true) :
    lockOps asks = [] := by
  refine filterMap_eq_nil_iff.mpr fun ask member => ?_
  have isPrepare := prepares ask member
  cases ask with
  | lock | unlock => cases isPrepare
  | _ => rfl

/-! ### Preparing -/

theorem RegularPrepare.level {more : List Event} (regular : RegularPrepare more) (held : Nat) :
    MaOdbc.level (lockOps more) held = some held := by
  cases regular with
  | none => rfl
  | asked ask isPrepare =>
    have asks : lockOps [ask] = [] := lockOps_of_isPrepare (by simpa using isPrepare)
    have ops : lockOps [.lock, ask, .unlock] = [.acquire, .release] := by
      have tail := lockOps_append [ask] [.unlock]
      rw [asks] at tail
      rw [lockOps_lock]
      exact congrArg _ tail
    rw [ops]
    rfl

theorem Prepares.balanced_iff {released : Bool} (prepares : Prepares released events) :
    Balanced (lockOps events) ↔ released = true := by
  cases prepares with
  | kept asks prepares =>
    rw [lockOps_lock, lockOps_of_isPrepare prepares]
    decide
  | released asks more prepares regular =>
    rw [lockOps_lock, lockOps_append, lockOps_of_isPrepare prepares, nil_append, lockOps_unlock,
      Balanced, level_acquire, level_release, regular.level]
    simp

/-! ### Executing -/

def Event.isNotPrepared : Event → Bool
  | .asked (.stmtPrepare _) _ (.failed _) => true
  | _ => false

theorem isNotPrepared_of_isWork (isWork : ∀ event ∈ work, event.isWork = true) :
    work.countP Event.isNotPrepared = 0 := by
  refine countP_eq_zero.mpr fun event member notPrepared => ?_
  have works := isWork event member
  cases event with
  | asked request purpose answer =>
    cases request with
    | stmtPrepare text =>
      cases answer with
      | failed native => cases works
      | ok outcome => cases notPrepared
    | _ => cases notPrepared
  | _ => cases notPrepared

theorem Pass.level {pass : List Event} (isPass : Pass pass) (held : Nat) :
    MaOdbc.level (lockOps pass) held = some (held + pass.countP Event.isNotPrepared) := by
  cases isPass with
  | none => rfl
  | ended work isWork _ | notPrepared work text native isWork _ =>
    rw [lockOps_lock, lockOps_append, lockOps_of_isWork isWork, countP_cons, countP_append,
      isNotPrepared_of_isWork isWork]
    rfl

theorem Passes.level (passes : Passes events) (held : Nat) :
    MaOdbc.level (lockOps events) held = some (held + events.countP Event.isNotPrepared) := by
  induction passes generalizing held with
  | nil => rfl
  | @cons pass rest isPass _ ih =>
    have ops : lockOps (.enter :: (pass ++ rest)) = lockOps pass ++ lockOps rest :=
      lockOps_append pass rest
    rw [ops, level_append, isPass.level, bind_some, ih, countP_cons, countP_append]
    congr 1
    simp only [Event.isNotPrepared, Bool.false_eq_true, if_false]
    omega

theorem Passes.balanced_iff (passes : Passes events) :
    Balanced (lockOps events) ↔ ∀ event ∈ events, event.isNotPrepared = false := by
  rw [Balanced, passes.level, some_inj, Nat.zero_add, countP_eq_zero]
  simp

namespace Cursor

variable (env : CursorEnv) (c : Cursor)

/-! ### Deleting rows -/

/-- What a call does to the lock. -/
def lockOps (c c' : Cursor) : List LockOp :=
  (c'.trace.drop c.trace.length).filterMap lockOp

def rowDeleted (row : Nat) : Bool :=
  (env.whereClause row).isSome && (env.delete row).isOk

/-- Whether deleting rows gives the lock back as often as it takes it: there is a first row, and it is
the only one or cannot be deleted. -/
def rowsRelease : List Nat → Bool
  | [] => false
  | [_] => true
  | first :: _ => !rowDeleted env first

/-- Whether `SQL_DELETE` gives the lock back as often as it takes it: it comes to no rows, or to rows
that do. -/
def deleteReleases (rowNumber : Nat) : Bool :=
  match c.getTableName with
  | (none, _) => true
  | (some _, c') =>
    match { c' with arraySize := 1 }.refreshed env with
    | .error _ => true
    | .ok c'' => decide (c.numRows < rowNumber) ||
        rowsRelease env
          ({ c'' with
            affectedRows := 0
            arraySize := c'.arraySize
            numRows := c.numRows }.deletedRows rowNumber)

/-- Whether `MADB_StmtSetPos` gives the lock back as often as it takes it. -/
def setPosReleases (rowNumber : Nat) (operation : SetPosOperation) (lockNoChange : Bool) : Bool :=
  !c.isOpen || env.noCache || !lockNoChange || operation != .delete ||
    c.deleteReleases env rowNumber

/-- The trace grew by events that leave the lock held some more times. -/
def Holds (more : Nat) (c c' : Cursor) : Prop :=
  ∃ events, c'.trace = c.trace ++ events ∧
    ∀ held, level (events.filterMap lockOp) held = some (held + more)

theorem Holds.trans {more' : Nat} {c : Cursor} (first : Holds more c c')
    (second : Holds more' c' c'') : Holds (more + more') c c'' := by
  obtain ⟨events, grown, levels⟩ := first
  obtain ⟨events', grown', levels'⟩ := second
  refine ⟨events ++ events', by rw [grown', grown, append_assoc], fun held => ?_⟩
  rw [filterMap_append, level_append, levels, bind_some, levels']
  congr 1
  omega

theorem deleteRow_holds (tableName : Text) (row : Nat) (c : Cursor) :
    (deleteRow env tableName row c).All (fun c' => rowDeleted env row = true ∧ Holds 1 c c')
      (fun returned => rowDeleted env row = false ∧ Holds 0 c returned.2) := by
  rw [deleteRow, rowDeleted]
  cases env.whereClause row with
  | none => exact ⟨rfl, [], (append_nil _).symm, fun held => rfl⟩
  | some whereClause =>
    dsimp only
    generalize lit "DELETE FROM " ++ quoted tableName ++ whereClause = text
    cases env.delete row with
    | error native =>
      refine ⟨rfl, [.lock, .deletes text c.fields, .unlock], ?_, fun held => rfl⟩
      simp [emit]
    | ok rows =>
      refine ⟨rfl, [.lock, .deletes text c.fields], ?_, fun held => rfl⟩
      simp [emit]

theorem deleteRows_holds (tableName : Text) (rows : List Nat) (c : Cursor) :
    (forEach (deleteRow env tableName) rows c).All
      (fun c' => (∀ row ∈ rows, rowDeleted env row = true) ∧ Holds rows.length c c')
      (fun returned => ∃ row rest deleted, rows = row :: rest ∧ deleted ≤ rest.length ∧
        (deleted = 0 ↔ rowDeleted env row = false) ∧ Holds deleted c returned.2) := by
  induction rows generalizing c with
  | nil => exact ⟨by simp, [], (append_nil _).symm, fun held => rfl⟩
  | cons row rest ih =>
    have round := deleteRow_holds env tableName row c
    rw [forEach_cons]
    cases ended : deleteRow env tableName row c with
    | leave returned =>
      rw [ended] at round
      obtain ⟨failed, holds⟩ := round
      exact ⟨row, rest, 0, rfl, Nat.zero_le _, by simp [failed], holds⟩
    | next c' =>
      rw [ended] at round
      obtain ⟨deleted, holds⟩ := round
      refine (ih c').imp (fun c'' after => ?_) (fun returned after => ?_)
      · refine ⟨?_, ?_⟩
        · simpa [deleted] using after.1
        · have both := holds.trans after.2
          rwa [Nat.add_comm] at both
      · obtain ⟨next, rest', more, rfl, bound, _, holds'⟩ := after
        refine ⟨row, next :: rest', 1 + more, rfl, ?_, by simp [deleted], holds.trans holds'⟩
        rw [length_cons]
        omega

theorem Holds.balanced_iff {c : Cursor} (holds : Holds more c c') :
    Balanced (lockOps c c') ↔ more = 0 := by
  obtain ⟨events, grown, levels⟩ := holds
  rw [lockOps, grown, drop_left, Balanced, levels, Nat.zero_add, some_inj]

theorem Holds.of_trace {c : Cursor} (same : c'.trace = c.trace) : Holds 0 c c' :=
  ⟨[], by rw [same, append_nil], fun held => rfl⟩

theorem Holds.unlock_balanced_iff {c : Cursor} (holds : Holds more c c')
    (unlocked : c''.trace = c'.trace ++ [.unlock]) : Balanced (lockOps c c'') ↔ more = 1 := by
  obtain ⟨events, grown, levels⟩ := holds
  rw [lockOps, unlocked, grown, append_assoc, drop_left, Balanced, filterMap_append,
    level_append, levels, Nat.zero_add, bind_some]
  cases more with
  | zero => simp [lockOp, level]
  | succ more => simp [lockOp]

theorem setPosition_balanced (rowNumber : Nat) :
    Balanced (lockOps c (c.setPosition env rowNumber).2) := by
  have reached := refreshed_reaches env c
  rw [setPosition]
  split
  · exact (Holds.of_trace rfl).balanced_iff.mpr rfl
  · split
    · rename_i returned failed
      rw [failed] at reached
      exact (Holds.of_trace reached.kept.1).balanced_iff.mpr rfl
    · rename_i c' refreshes
      rw [refreshes] at reached
      have locked : Holds 1 c { c'.emit .lock with position := c'.position + (rowNumber - 1) } :=
        ⟨[.lock], by rw [← reached.kept.1]; rfl, fun held => rfl⟩
      exact (locked.unlock_balanced_iff rfl).mpr rfl

theorem setAdd_balanced (rowNumber : Nat) : Balanced (lockOps c (c.setAdd env rowNumber).2) := by
  obtain ⟨c', reached, -, -, -, -, trace⟩ := setAdd_reaches env c rowNumber
  have begun : c'.trace = c.trace := reached.kept.1
  rw [begun] at trace
  have holds : Holds 0 c (c.setAdd env rowNumber).2 := by
    rcases trace with none | inserts
    · exact .of_trace none
    · exact ⟨_, inserts, fun held => rfl⟩
  exact holds.balanced_iff.mpr rfl

theorem deleteRows_balanced_iff (tableName : Text) (rows : List Nat) {first c : Cursor}
    (begun : Holds 0 first c) :
    match forEach (deleteRow env tableName) rows c with
    | .leave returned => Balanced (lockOps first returned.2) ↔ rowsRelease env rows = true
    | .next c' => ∀ last : Cursor, last.trace = c'.trace ++ [.unlock] →
        (Balanced (lockOps first last) ↔ rowsRelease env rows = true) := by
  have holds := deleteRows_holds env tableName rows c
  cases ended : forEach (deleteRow env tableName) rows c with
  | leave returned =>
    rw [ended] at holds
    obtain ⟨row, rest, deleted, rfl, bound, failed, held⟩ := holds
    show Balanced (lockOps first returned.2) ↔ _
    rw [(begun.trans held).balanced_iff, Nat.zero_add]
    cases rest with
    | nil => simpa [rowsRelease] using bound
    | cons next rest => simp [rowsRelease, failed]
  | next c' =>
    rw [ended] at holds
    obtain ⟨all, held⟩ := holds
    intro last unlocks
    rw [(begun.trans held).unlock_balanced_iff unlocks, Nat.zero_add]
    cases rows with
    | nil => simp [rowsRelease]
    | cons row rest =>
      cases rest with
      | nil => simp [rowsRelease]
      | cons next rest => simp [rowsRelease, all row mem_cons_self]

theorem setDelete_balanced_iff (rowNumber : Nat) :
    Balanced (lockOps c (c.setDelete env rowNumber).2) ↔ c.deleteReleases env rowNumber = true := by
  have released : ∀ last : Cursor, last.trace = c.trace → (Balanced (lockOps c last) ↔ true = true) :=
    fun last same => by simp [(Holds.of_trace same).balanced_iff]
  have named : c.getTableName.2.trace = c.trace := rfl
  rw [setDelete, deleteReleases]
  rcases found : c.getTableName with ⟨tableName, c'⟩
  rw [found] at named
  cases tableName with
  | none => exact released _ named
  | some tableName =>
    have reached := refreshed_reaches env { c' with arraySize := 1 }
    dsimp only
    cases refreshes : { c' with arraySize := 1 }.refreshed env with
    | error returned =>
      rw [refreshes] at reached
      exact released _ (reached.kept.1.trans named)
    | ok c'' =>
      rw [refreshes] at reached
      dsimp only
      by_cases beyond : c.numRows < rowNumber
      · rw [if_pos beyond, decide_eq_true beyond, Bool.true_or]
        exact released _ (reached.kept.1.trans named)
      · rw [if_neg beyond, decide_eq_false beyond, Bool.false_or]
        generalize ({ c'' with
          affectedRows := 0
          arraySize := c'.arraySize
          numRows := c.numRows }.deletedRows rowNumber) = rows
        have begun : Holds 0 c { c'' with affectedRows := 0 } := .of_trace (reached.kept.1.trans named)
        have iff := deleteRows_balanced_iff env tableName rows begun
        split
        · rename_i returned ended
          rwa [ended] at iff
        · rename_i last ended
          rw [ended] at iff
          split
          · exact iff _ rfl
          · exact iff _ rfl

theorem stmtSetPos_balanced_iff (rowNumber : Nat) (operation : SetPosOperation) (lockNoChange : Bool) :
    Balanced (lockOps c (c.stmtSetPos env rowNumber operation lockNoChange).2) ↔
      c.setPosReleases env rowNumber operation lockNoChange = true := by
  have released (last : Cursor) (same : last.trace = c.trace) (condition : Bool)
      (holds : condition = true) : Balanced (lockOps c last) ↔ condition = true := by
    simp [(Holds.of_trace same).balanced_iff, holds]
  unfold stmtSetPos setPosReleases
  split
  · rename_i closed
    exact released _ rfl _ (by simp [closed])
  · rename_i opened
    split
    · rename_i noCache
      exact released _ rfl _ (by simp [noCache])
    · rename_i cached
      split
      · rename_i changes
        exact released _ rfl _ (by simp [changes])
      · rename_i noChange
        rw [Bool.eq_false_iff.mpr opened, Bool.eq_false_iff.mpr cached, Bool.eq_false_iff.mpr noChange]
        cases operation with
        | position => simp [setPosition_balanced]
        | add => simp [setAdd_balanced]
        | delete => exact setDelete_balanced_iff env c rowNumber
        | other => exact released _ rfl _ rfl

end Cursor

/-! ### Cancelling -/

/-- What `MA_SQLCancel` depends on: whether there is a handle and the lock is free, how closing the
statement ends, and whether the query could be killed. -/
structure CancelEnv where
  handle : Bool := true
  tryEnter : Bool := true
  close : SqlReturn := .success
  init : Bool := true
  connect : Bool := true
  kill : Bool := true
  deriving DecidableEq, Repr

/-- `MA_SQLCancel`, and what it does to the lock. -/
def sqlCancel (env : CancelEnv) : SqlReturn × List LockOp :=
  if !env.handle then (.invalidHandle, [])
  else if env.tryEnter then (env.close, [.acquire, .release])
  else
    -- the label `end` unlocks what only another call can have locked
    (if env.init && env.connect && env.kill then .success else .error, [.release])

theorem sqlCancel_balanced_iff (env : CancelEnv) :
    Balanced (sqlCancel env).2 ↔ (!env.handle || env.tryEnter) = true := by
  rw [sqlCancel]
  cases env.handle with
  | false => simp [Balanced]
  | true =>
    cases env.tryEnter with
    | true => simp [Balanced]
    | false => simp [Balanced, level]

/-! ### The four functions -/

namespace Stmt

variable (env : Env) (s : Stmt)

/-- What `MADB_StmtPrepare` adds to the trace. -/
def prepareEvents (statementText : Text) (execDirect : Bool) : List Event :=
  (s.stmtPrepare env statementText execDirect).2.trace.drop s.trace.length

theorem prepareEvents_balanced_iff (statementText : Text) (execDirect : Bool) :
    Balanced (lockOps (s.prepareEvents env statementText execDirect)) ↔
      s.prepareReleases env statementText execDirect = true := by
  obtain ⟨events, grown, prepares⟩ := s.stmtPrepare_prepares env statementText execDirect
  rw [prepareEvents, grown, drop_left]
  exact prepares.balanced_iff

theorem executeEvents_balanced_iff :
    Balanced (lockOps (s.executeEvents env)) ↔
      ∀ event ∈ s.executeEvents env, event.isNotPrepared = false := by
  obtain ⟨events, grown, passes⟩ := s.stmtExecute_passes env
  rw [executeEvents, grown, drop_left]
  exact passes.balanced_iff

end Stmt

/-- A server that prepares no statement but the first one of a batch. -/
def firstOnly : Request → Nat → Answer
  | .stmtPrepare text, _ => if text = lit "SELECT a" then .ok { fieldCount := 1 } else .failed { errno := 1146 }
  | _, _ => .ok {}

/-- Requests need the lock. -/
def Event.isRequest : Event → Bool
  | .asked _ _ _ => true
  | _ => false

section

variable {work rest events : List Event} {held : Nat}

theorem guarded_lock (silent : lockOps work = [])
    (ends : Guarded Event.lockOp Event.isRequest (held + 1) rest) :
    Guarded Event.lockOp Event.isRequest held (.lock :: (work ++ rest)) := by
  obtain ⟨made, kept⟩ := guarded_of_silent (filterMap_eq_nil_iff.mp silent) held.succ_pos
  refine ⟨nofun, guarded_append.mpr ⟨made, ?_⟩⟩
  exact (congrArg (Guarded _ _ · rest) kept).mpr ends

theorem Pass.guarded (isPass : Pass work) : Guarded Event.lockOp Event.isRequest held work := by
  cases isPass with
  | none => trivial
  | ended work isWork => exact guarded_lock (lockOps_of_isWork isWork) ⟨nofun, trivial⟩
  | notPrepared work text native isWork =>
    exact guarded_lock (lockOps_of_isWork isWork) ⟨fun _ => held.succ_pos, trivial⟩

theorem Passes.guarded (passes : Passes events) : Guarded Event.lockOp Event.isRequest held events := by
  induction passes generalizing held with
  | nil => trivial
  | cons isPass _ ih => exact ⟨nofun, guarded_append.mpr ⟨isPass.guarded, ih⟩⟩

theorem Prepares.guarded {released : Bool} (prepares : Prepares released events) :
    Guarded Event.lockOp Event.isRequest held events := by
  cases prepares with
  | kept asks prepares =>
    rw [← append_nil asks]
    exact guarded_lock (lockOps_of_isPrepare prepares) trivial
  | released asks more prepares regular =>
    refine guarded_lock (lockOps_of_isPrepare prepares) ⟨nofun, ?_⟩
    cases regular with
    | none => trivial
    | asked ask isPrepare =>
      have silent : lockOps [ask] = [] := lockOps_of_isPrepare (by simpa using isPrepare)
      exact guarded_lock silent ⟨nofun, trivial⟩

/-- What a thread does that prepares and executes statements of a connection, one call after another. -/
inductive ThreadCalls : List Event → Prop
  | nil : ThreadCalls []
  | prepare {rest : List Event} (env : Env) (s : Stmt) (statementText : Text) (execDirect : Bool) :
      ThreadCalls rest → ThreadCalls (s.prepareEvents env statementText execDirect ++ rest)
  | execute {rest : List Event} (env : Env) (s : Stmt) :
      ThreadCalls rest → ThreadCalls (s.executeEvents env ++ rest)

theorem ThreadCalls.guarded (calls : ThreadCalls events) : Guarded Event.lockOp Event.isRequest held events := by
  induction calls generalizing held with
  | nil => trivial
  | prepare env s statementText execDirect _ ih =>
    obtain ⟨events, grown, prepares⟩ := s.stmtPrepare_prepares env statementText execDirect
    rw [Stmt.prepareEvents, grown, drop_left]
    exact guarded_append.mpr ⟨prepares.guarded, ih⟩
  | execute env s _ ih =>
    obtain ⟨events, grown, passes⟩ := s.stmtExecute_passes env
    rw [Stmt.executeEvents, grown, drop_left]
    exact guarded_append.mpr ⟨passes.guarded, ih⟩

/-- **Requests of several threads.** In every interleaving that the lock of the connection allows, whatever the other
threads do, a request is made by the one thread that holds the lock. -/
theorem requests_exclusive {τ : Type} [DecidableEq τ] {schedule : List (τ × Event)} {thread : τ} {request : Event}
    (allowed : Allowed Event.lockOp schedule) (calls : ThreadCalls events)
    (begun : ofThread thread (schedule ++ [(thread, request)]) <+: events) (asks : request.isRequest = true) :
    0 < heldBy Event.lockOp thread schedule ∧
      ∀ other ≠ thread, heldBy Event.lockOp other schedule = 0 := by
  obtain ⟨more, rfl⟩ := begun
  have made : Guarded Event.lockOp Event.isRequest 0 _ := calls.guarded
  rw [ofThread_snoc, if_pos rfl] at made
  have holds : 0 < heldBy Event.lockOp thread schedule :=
    (guarded_append.mp (guarded_append.mp made).1).2.1 asks
  exact ⟨holds, fun other different => (allowed.exclusive different).resolve_left (Nat.ne_of_gt holds)⟩

/-- A statement is prepared on the server while another thread cancels one. -/
theorem prepare_exclusive :
    0 < heldBy Event.lockOp true [(true, .lock), (true, .unlock), (true, .lock), (false, .unlock)] ∧
      ∀ other ≠ true,
        heldBy Event.lockOp other [(true, .lock), (true, .unlock), (true, .lock), (false, .unlock)] = 0 := by
  have calls : ThreadCalls (Stmt.prepareEvents { server := firstOnly } {} (lit "SELECT a") false ++ []) :=
    .prepare _ _ _ _ .nil
  have begun : ofThread true ([(true, .lock), (true, .unlock), (true, .lock), (false, .unlock)] ++
      [(true, .asked (.stmtPrepare (lit "SELECT a")) {} (.ok { fieldCount := 1 }))]) <+:
        Stmt.prepareEvents { server := firstOnly } {} (lit "SELECT a") false ++ [] := by
    decide +kernel
  refine requests_exclusive (.snoc (.snoc (.snoc (.snoc .nil ?_) ?_) ?_) ?_) calls begun rfl
  · decide
  · decide
  · decide
  · decide

end

end MaOdbc
