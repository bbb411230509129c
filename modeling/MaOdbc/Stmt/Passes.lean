/-
**The passes of an execution.**

What `MADB_StmtExecute` adds to the trace is a list of passes, one for each time it is entered: the
function calls itself for a positioned command, and again when the server turns out not to support a
prepared statement. A pass locks, works through its pairs, each at most once, and unlocks; a statement
of a batch that cannot be prepared ends it without unlocking.

`MADB_StmtExecDirect` executes a statement once more when the first try fails, whatever the first try has
already done. The pairs of statement and parameter row that the server has executed are not sent again
in a run in which `MADB_StmtExecute` is entered only while none of them has succeeded.
-/

import MaOdbc.Stmt.Course
import MaOdbc.Stmt.Prepare

namespace MaOdbc

open List Exec

inductive Pass : List Event → Prop
  | none : Pass []
  | ended (work : List Event) : (∀ event ∈ work, event.isWork = true) →
      (sending.keysOf work).Nodup → Pass (.lock :: (work ++ [.unlock]))
  | notPrepared (work : List Event) (text : Text) (native : NativeError) :
      (∀ event ∈ work, event.isWork = true) → (sending.keysOf work).Nodup →
      Pass (.lock :: (work ++ [.asked (.stmtPrepare text) {} (.failed native)]))

/-- What `MADB_StmtExecute` adds to the trace. -/
inductive Passes : List Event → Prop
  | nil : Passes []
  | cons {pass rest : List Event} : Pass pass → Passes rest → Passes (.enter :: (pass ++ rest))

def Adds (property : List Event → Prop) (s s' : Stmt) : Prop :=
  ∃ events, s'.trace = s.trace ++ events ∧ property events

theorem Exec.nodup_runPairs (env : Env) (count : Nat) : (runPairs env count).Nodup :=
  nodup_range.product nodup_range

theorem Stmt.nodup_allPairs (s : Stmt) : s.allPairs.Nodup := by
  refine nodup_range.map ?_
  intro a b same
  exact (Prod.mk.inj same).1

section Pass

variable {pairs : List (Nat × Nat)} {s s' s'' : Stmt}

theorem Works.ended (works : Works pairs (s.emit .lock) s') (nodup : pairs.Nodup) :
    Adds Pass s (s'.emit .unlock) := by
  obtain ⟨events, trace, work, sub⟩ := works
  refine ⟨.lock :: (events ++ [.unlock]), ?_, .ended events work (nodup.sublist sub)⟩
  rw [Stmt.emit, trace, Stmt.emit]
  simp

theorem Works.notPrepared (works : Works pairs (s.emit .lock) s') (nodup : pairs.Nodup)
    {text : Text} {native : NativeError}
    (trace : s''.trace = s'.trace ++ [.asked (.stmtPrepare text) {} (.failed native)]) :
    Adds Pass s s'' := by
  obtain ⟨events, before, work, sub⟩ := works
  refine ⟨_, ?_, .notPrepared events text native work (nodup.sublist sub)⟩
  rw [trace, before, Stmt.emit]
  simp

theorem Adds.congr {property : List Event → Prop} (adds : Adds property s s')
    (same : s''.trace = s'.trace) : Adds property s s'' := by
  obtain ⟨events, trace, holds⟩ := adds
  exact ⟨events, same.trans trace, holds⟩

def PassThen (events : List Event) : Prop := ∃ pass rest, events = pass ++ rest ∧ Pass pass ∧ Passes rest

theorem Adds.passThen (first : Adds Pass s s') (second : Adds Passes s' s'') :
    Adds PassThen s s'' := by
  obtain ⟨pass, trace, isPass⟩ := first
  obtain ⟨rest, trace', passes⟩ := second
  exact ⟨pass ++ rest, by rw [trace', trace, append_assoc], pass, rest, rfl, isPass, passes⟩

theorem Adds.nil : Adds Passes s s := ⟨[], (append_nil _).symm, .nil⟩

theorem Adds.pass (first : Adds Pass s s') : Adds PassThen s s' := first.passThen .nil

theorem Adds.entered (adds : Adds PassThen (s.emit .enter) s') : Adds Passes s s' := by
  obtain ⟨_, trace, pass, rest, rfl, isPass, passes⟩ := adds
  refine ⟨.enter :: (pass ++ rest), ?_, .cons isPass passes⟩
  rw [trace, Stmt.emit]
  simp

end Pass

namespace Stmt

variable (env : Env) (s : Stmt)

theorem executeQuery_pass : Adds Pass s (s.executeQuery env).2 := by
  rcases answered : (s.emit .lock).ask env (.query (cstr s.query.original))
    { statement := cstr s.query.original, pairs := s.allPairs } with ⟨answer, s'⟩
  obtain rfl := eq_of_ask answered
  have works : Works s.allPairs (s.emit .lock) ((s.emit .lock).emit (.asked
      (.query (cstr s.query.original))
      { statement := cstr s.query.original, pairs := s.allPairs } answer)) :=
    works_asked (s.emit .lock) rfl
  have pass := works.ended s.nodup_allPairs
  rw [executeQuery]
  cases answer with
  | ok | failed =>
    rw [show (s.emit .lock).allPairs = s.allPairs from rfl, answered]
    exact pass.congr rfl

theorem executeEmulated_passes : Adds Passes s (s.executeEmulated env).2 := by
  refine Adds.entered (Adds.pass ?_)
  exact executeQuery_pass env { s.emit .enter with error := Diag.clear }

theorem executeEnd_passes (e : Exec) : Adds Passes (e.stmt.emit .unlock) (executeEnd env e).2 := by
  rw [executeEnd]
  generalize (if e.errorCount = 0 then e.ret else _) = ret
  split
  · exact .nil
  · split
    · exact executeEmulated_passes env { e.stmt.emit .unlock with state := .emulated }
    · exact .nil

theorem executePlain_passes : Adds PassThen s (s.executePlain env).2 := by
  rw [executePlain]
  split
  · exact ⟨[], (append_nil _).symm, [], [], rfl, .none, .nil⟩
  · dsimp only
    split
    · have works := executeCsps_works env { s with hasParams := true }
      have pass := works.ended (nodup_runPairs env _)
      exact Adds.passThen (pass.congr rfl) (executeEnd_passes env _)
    · have ended := executeSsps_ended env { s with hasParams := true }
      split
      · rename_i e left
        rw [left] at ended
        cases ended with
        | toEnd _ works =>
          exact Adds.passThen (works.ended (nodup_runPairs env _)) (executeEnd_passes env e)
      · rename_i e left
        rw [left] at ended
        cases ended with
        | notPrepared reached _ text native works trace =>
          exact (works.notPrepared (nodup_runPairs env _) trace).pass
        | notStored reached _ works trace =>
          exact ((works.ended (nodup_runPairs env _)).congr trace).pass

theorem executePositioned_passes (cursor : PositionedCursor) :
    Adds PassThen s (s.executePositioned env cursor).2 := by
  rw [executePositioned]
  split
  · exact ⟨[], (append_nil _).symm, [], [], rfl, .none, .nil⟩
  · -- the second entry is that of the call from `MADB_ExecutePositionedUpdate`
    have entered : ∀ s' : Stmt, s'.trace = (s.emit .enter).trace →
        Adds PassThen s (s'.executePlain env).2 := by
      intro s' trace
      obtain ⟨events, grown, plain⟩ := s'.executePlain_passes env
      have passes : Adds Passes s (s'.executePlain env).2 :=
        Adds.entered ⟨events, by rw [grown, trace], plain⟩
      obtain ⟨events', grown', passes'⟩ := passes
      exact ⟨events', grown', [], events', rfl, .none, passes'⟩
    have nested := entered
      { { s with affectedRows := 0, positionedCursor := none }.emit .enter with error := Diag.clear } rfl
    dsimp only
    split
    · split
      · exact nested.congr rfl
      · exact nested.congr rfl
    · exact nested.congr rfl

/-- **What `MADB_StmtExecute` adds to the trace.** -/
theorem stmtExecute_passes : Adds Passes s (s.stmtExecute env).2 := by
  have entered : ∀ s' : Stmt, s'.trace = (s.emit .enter).trace → ∀ s'' : Stmt,
      Adds PassThen s' s'' → Adds Passes s s'' := by
    intro s' trace s'' ⟨events, grown, passThen⟩
    exact Adds.entered ⟨events, by rw [grown, trace], passThen⟩
  rw [stmtExecute]
  split
  · exact entered _ rfl _ (executeQuery_pass env _).pass
  · split
    · exact entered _ rfl _ (executePositioned_passes env _ _)
    · exact entered _ rfl _ (executePlain_passes env _)

end Stmt

/-! ### Preparing -/

/-- Requests that prepare a statement. -/
def Event.isPrepare : Event → Bool
  | .asked (.stmtPrepare _) purpose _ => purpose.pairs.isEmpty
  | _ => false

/-- What `MADB_RegularPrepare` adds to the trace, if it is called. -/
inductive RegularPrepare : List Event → Prop
  | none : RegularPrepare []
  | asked (ask : Event) : ask.isPrepare = true → RegularPrepare [.lock, ask, .unlock]

/-- What `MADB_StmtPrepare` adds to the trace, and whether it unlocks what it locked. -/
inductive Prepares : Bool → List Event → Prop
  | kept (asks : List Event) : (∀ ask ∈ asks, ask.isPrepare = true) → Prepares false (.lock :: asks)
  | released (asks more : List Event) : (∀ ask ∈ asks, ask.isPrepare = true) → RegularPrepare more →
      Prepares true (.lock :: (asks ++ .unlock :: more))

namespace Stmt

variable (env : Env) (s : Stmt)

/-- Whether the statements of a batch get prepared: on the server side, the first one, or else the whole
text, unless the server reports that it does not support the first one. -/
def batchPrepares : Bool :=
  s.sspsDisabled env ||
    match env.server (.stmtPrepare (cstr s.query.refinedText)) s.trace.length with
    | .ok _ => true
    | .failed native => native.errno != unsupportedPs &&
        (env.server (.stmtPrepare (cstr s.query.original)) (s.trace.length + 1)).isOk

/-- Whether a parsed statement is prepared without keeping the lock. -/
def parsedReleases (execDirect : Bool) : Bool :=
  let s := s.checkStatements env
  !(s.query.isMultiStmt && env.noCache) &&
    (!(s.query.isPossiblyMultistmt && s.query.isMultiStmt &&
        (s.query.returnsResult || s.query.hasParameters) && s.query.batchAllowed) ||
      !(!s.sspsDisabled env && execDirect) && s.batchPrepares env)

/-- Whether `MADB_StmtPrepare` gives the lock back. -/
def prepareReleases (statementText : Text) (execDirect : Bool) : Bool :=
  decide (minQueryLen ≤ statementText.length) &&
    match env.unescape statementText with
    | .error _ => false
    | .ok text =>
      { (s.emit .lock).stmtReset with
        query := madbParseQuery
          { refinedText := text, batchAllowed := env.multiStatements } env.rewriteCallSP
      }.parsedReleases env execDirect

theorem stmtReset_trace : s.stmtReset.trace = s.trace := by
  rw [stmtReset]
  split
  · rfl
  · split
    · rfl
    · rfl

theorem prepareWhole_asks :
    (s.prepareWhole env).1 = !(s.error.nativeError != unsupportedPs &&
        (env.server (.stmtPrepare (cstr s.query.original)) s.trace.length).isOk) ∧
      Adds (fun asks => ∀ ask ∈ asks, ask.isPrepare = true) s (s.prepareWhole env).2 := by
  rw [prepareWhole]
  by_cases unsupported : s.error.nativeError = unsupportedPs
  · rw [if_pos unsupported]
    exact ⟨by simp [unsupported], [], (append_nil _).symm, by simp⟩
  · rw [if_neg unsupported, bne_iff_ne.mpr unsupported, Bool.true_and]
    rcases Exec.stmtPrepare_cases env s.newStmtHandle (cstr s.query.original) with
      ⟨native, answered, failed⟩ | ⟨outcome, handles, answered, prepared⟩
    · rw [failed, show env.server _ s.trace.length = _ from answered]
      exact ⟨rfl, [_], rfl, by simp [Event.isPrepare]⟩
    · rw [prepared, show env.server _ s.trace.length = _ from answered]
      exact ⟨rfl, [_], rfl, by simp [Event.isPrepare]⟩

theorem getMultiStatements_asks :
    (s.getMultiStatements env).1 = !s.batchPrepares env ∧
      Adds (fun asks => ∀ ask ∈ asks, ask.isPrepare = true) s (s.getMultiStatements env).2 := by
  have asked {text : Text} {answer : Answer} :
      (Event.asked (.stmtPrepare text) {} answer).isPrepare = true := rfl
  obtain ⟨begun, query, -, -, trace, same⟩ := getMultiStatements_eq env s
  rw [same, batchPrepares]
  dsimp only
  cases s.sspsDisabled env with
  | true =>
    refine ⟨rfl, [], ?_, by simp⟩
    simp only [if_true]
    rw [(addHandles_same _ _).2.2, trace, append_nil]
  | false =>
    simp only [Bool.false_eq_true, if_false, Bool.false_or]
    rcases Exec.stmtPrepare_cases env begun (cstr s.query.refinedText) with
      ⟨native, first, failed⟩ | ⟨outcome, handles, first, prepared⟩
    · rw [failed, ← trace, first]
      obtain ⟨fails, asks, grown, prepares⟩ := prepareWhole_asks env ({ begun.emit (.asked
        (.stmtPrepare (cstr s.query.refinedText)) {} (.failed native)) with
          error := Diag.setNativeError native } : Stmt).closeMultiStatements
      refine ⟨fails.trans ?_, .asked (.stmtPrepare (cstr s.query.refinedText)) {} (.failed native) ::
        asks, grown.trans ?_, ?_⟩
      · show (!(native.errno != unsupportedPs && (env.server
          (.stmtPrepare (cstr begun.query.original)) (begun.trace ++ [_]).length).isOk)) = _
        rw [length_append, length_singleton, query]
      · rw [← trace]
        exact append_assoc begun.trace [_] asks
      · intro ask member
        rcases mem_cons.mp member with rfl | later
        · exact asked
        · exact prepares ask later
    · rw [prepared, ← trace, first]
      refine ⟨rfl, [.asked (.stmtPrepare (cstr s.query.refinedText)) {} (.ok outcome)], ?_, ?_⟩
      · rw [← trace]
        exact (addHandles_same _ _).2.2
      · simp [asked]

theorem regularPrepare_asks : Adds RegularPrepare s (s.regularPrepare env).2 := by
  have adds (answer : Answer) : Adds RegularPrepare s
      (((s.emit .lock).emit (.asked (.stmtPrepare (cstr s.query.original)) {} answer)).emit .unlock) :=
    ⟨_, by simp only [emit, append_assoc]; rfl, .asked _ rfl⟩
  rw [regularPrepare]
  rcases Exec.stmtPrepare_cases env (s.emit .lock) (cstr s.query.original) with
    ⟨native, -, failed⟩ | ⟨outcome, handles, -, prepared⟩
  · rw [failed]
    exact adds (.failed native)
  · rw [prepared]
    exact (adds (.ok outcome)).congr rfl

theorem prepareUnlocked_asks : Adds RegularPrepare s (s.prepareUnlocked env).2 := by
  have nothing : ∀ s' : Stmt, s'.trace = s.trace → Adds RegularPrepare s s' :=
    fun s' same => ⟨[], by rw [same, append_nil], .none⟩
  have ends := prepareUnlocked_cases env s
  generalize s.prepareUnlocked env = ended at ends
  cases ends with
  | refused _ trace => exact nothing _ trace
  | emulated settled => exact nothing _ settled.kept.1
  | client _ settled => exact nothing _ settled.kept.1
  | @server s' settled =>
    obtain ⟨events, grown, asks⟩ := regularPrepare_asks env s'
    exact ⟨events, by rw [grown, settled.kept.1], asks⟩

theorem prepareParsed_prepares (execDirect : Bool) :
    Adds (fun events => Prepares (s.parsedReleases env execDirect) (.lock :: events)) s
      (s.prepareParsed env execDirect).2 := by
  have trace : (s.checkStatements env).trace = s.trace := rfl
  have kept : ∀ s' : Stmt, s'.trace = s.trace →
      Adds (fun events => Prepares false (.lock :: events)) s s' :=
    fun s' same => ⟨[], by rw [same, append_nil], .kept [] (by simp)⟩
  rw [prepareParsed, parsedReleases]
  generalize s.checkStatements env = s' at trace ⊢
  dsimp only
  by_cases refused : (s'.query.isMultiStmt && env.noCache) = true
  · rw [if_pos refused, refused, Bool.not_true, Bool.false_and]
    refine kept _ ?_
    exact trace
  · rw [if_neg refused, Bool.eq_false_iff.mpr refused, Bool.not_false, Bool.true_and]
    by_cases batch : (s'.query.isPossiblyMultistmt && s'.query.isMultiStmt &&
        (s'.query.returnsResult || s'.query.hasParameters) && s'.query.batchAllowed) = true
    · rw [if_pos batch, batch, Bool.not_true, Bool.false_or]
      by_cases direct : (!s'.sspsDisabled env && execDirect) = true
      · rw [if_pos direct, direct, Bool.not_true, Bool.false_and, edPrepare]
        refine kept _ ?_
        exact trace
      · rw [if_neg direct, Bool.eq_false_iff.mpr direct, Bool.not_false, Bool.true_and]
        obtain ⟨fails, asks, grown, prepares⟩ := getMultiStatements_asks env s'
        rcases ended : s'.getMultiStatements env with ⟨failed, s''⟩
        rw [ended] at fails grown
        cases failed with
        | true =>
          rw [(Bool.not_eq_true' _).mp fails.symm]
          exact ⟨asks, by rw [← trace]; exact grown, .kept asks prepares⟩
        | false =>
          rw [(Bool.not_eq_false' _).mp fails.symm]
          refine ⟨asks ++ [.unlock], ?_, .released asks [] prepares .none⟩
          show s''.trace ++ [.unlock] = _
          rw [← trace, ← append_assoc, ← grown]
    · rw [if_neg batch, Bool.eq_false_iff.mpr batch, Bool.not_false, Bool.true_or]
      obtain ⟨more, grown, regular⟩ := prepareUnlocked_asks env (s'.emit .unlock)
      refine ⟨.unlock :: more, ?_, .released [] more (by simp) regular⟩
      rw [grown, emit, trace, append_assoc]
      rfl

/-- **What `MADB_StmtPrepare` adds to the trace**, and when it gives the lock back. -/
theorem stmtPrepare_prepares (statementText : Text) (execDirect : Bool) :
    Adds (Prepares (s.prepareReleases env statementText execDirect)) s
      (s.stmtPrepare env statementText execDirect).2 := by
  have parsed : ∀ s' : Stmt, s'.trace = (s.emit .lock).trace → ∀ s'' : Stmt, ∀ released : Bool,
      Adds (fun events => Prepares released (.lock :: events)) s' s'' → Adds (Prepares released) s s'' := by
    intro s' locked s'' released ⟨events, grown, prepares⟩
    refine ⟨.lock :: events, ?_, prepares⟩
    rw [grown, locked, emit, append_assoc]
    rfl
  have reset := stmtReset_trace (s.emit .lock)
  rw [stmtPrepare, prepareReleases]
  by_cases short : statementText.length < minQueryLen
  · rw [if_pos short, decide_eq_false (Nat.not_le.mpr short), Bool.false_and]
    exact parsed _ reset _ _ ⟨[], (append_nil _).symm, .kept [] (by simp)⟩
  · rw [if_neg short, decide_eq_true (Nat.not_lt.mp short), Bool.true_and]
    cases env.unescape statementText with
    | error error =>
      exact parsed _ reset _ _ ⟨[], (append_nil _).symm, .kept [] (by simp)⟩
    | ok text =>
      refine parsed _ ?_ _ _ (prepareParsed_prepares env _ execDirect)
      exact reset

end Stmt

/-! ### Nothing is executed twice -/

theorem Pass.nodup {pass : List Event} (isPass : Pass pass) : (sending.keysOf pass).Nodup := by
  cases isPass with
  | none => exact nodup_nil
  | ended work _ nodup | notPrepared work text native _ nodup =>
    rw [Reading.keysOf, flatMap_cons, flatMap_append]
    simpa [sending, Event.pairs, Reading.keysOf] using nodup

theorem Passes.attempts {events passes : List Event} (arePasses : Passes passes)
    (before : sending.Attempts events) : sending.Attempts (events ++ passes) := by
  induction arePasses generalizing events with
  | nil =>
    rw [append_nil]
    exact before
  | @cons pass rest isPass _ ih =>
    have entered : sending.Attempts (events ++ .enter :: pass) :=
      .attempt before rfl rfl isPass.nodup
    have all := ih entered
    rwa [append_assoc] at all

theorem keysOf_prepare {asks : List Event} (prepares : ∀ ask ∈ asks, ask.isPrepare = true) :
    sending.keysOf asks = [] := by
  refine flatMap_eq_nil_iff.mpr fun ask member => ?_
  have isPrepare := prepares ask member
  cases ask with
  | asked request purpose answer =>
    cases request with
    | stmtPrepare text => exact List.isEmpty_iff.mp isPrepare
    | _ => cases isPrepare
  | _ => cases isPrepare

theorem RegularPrepare.silent {more : List Event} (regular : RegularPrepare more) :
    sending.keysOf more = [] := by
  cases regular with
  | none => rfl
  | asked ask isPrepare =>
    have silent : sending.keysOf [ask] = [] := keysOf_prepare (by simpa using isPrepare)
    have parts := sending.keysOf_append [ask] [.unlock]
    rw [silent] at parts
    exact parts

theorem Prepares.silent {released : Bool} {events : List Event} (prepares : Prepares released events) :
    sending.keysOf events = [] := by
  cases prepares with
  | kept asks prepares =>
    have silent := keysOf_prepare prepares
    exact silent
  | released asks more prepares regular =>
    have parts := sending.keysOf_append asks (.unlock :: more)
    have silent : sending.keysOf (.unlock :: more) = [] := regular.silent
    rw [keysOf_prepare prepares, silent] at parts
    exact parts

section Attempts

variable {s s' s'' : Stmt}

theorem Adds.thenPasses (first : Adds sending.Attempts s s') (second : Adds Passes s' s'') :
    Adds sending.Attempts s s'' := by
  obtain ⟨events, grown, attempts⟩ := first
  obtain ⟨passes, grown', arePasses⟩ := second
  exact ⟨events ++ passes, by rw [grown', grown, append_assoc], arePasses.attempts attempts⟩

theorem Adds.thenPrepares {released : Bool} (first : Adds sending.Attempts s s')
    (second : Adds (Prepares released) s' s'') : Adds sending.Attempts s s'' := by
  obtain ⟨events, grown, attempts⟩ := first
  obtain ⟨added, grown', prepares⟩ := second
  exact ⟨events ++ added, by rw [grown', grown, append_assoc], .silent attempts prepares.silent⟩

theorem Adds.begin (s : Stmt) : Adds sending.Attempts s s := ⟨[], (append_nil _).symm, .nil⟩

end Attempts

namespace Stmt

variable (env : Env) (s : Stmt)

/-- What a call of `MADB_StmtExecDirect` adds to the trace. -/
def execDirectEvents (statementText : Text) : List Event :=
  (s.stmtExecDirect env statementText).2.trace.drop s.trace.length

theorem stmtExecDirect_attempts (statementText : Text) :
    Adds sending.Attempts s (s.stmtExecDirect env statementText).2 := by
  have prepared := (Adds.begin s).thenPrepares (s.stmtPrepare_prepares env statementText true)
  rw [stmtExecDirect]
  rcases ended : s.stmtPrepare env statementText true with ⟨ret, s₁⟩
  rw [ended] at prepared
  dsimp only at prepared ⊢
  split
  · exact prepared
  · generalize emulated : (if ret.succeeded then s₁ else { s₁ with state := .emulated }) = s₂
    have same : s₂.trace = s₁.trace := by
      rw [← emulated]
      split
      · rfl
      · rfl
    have executed := (prepared.congr same).thenPasses (s₂.stmtExecute_passes env)
    rcases ended' : s₂.stmtExecute env with ⟨ret', s₃⟩
    rw [ended'] at executed
    dsimp only at executed ⊢
    split
    · exact executed
    · split
      · have again := executed.thenPrepares
          (s₃.stmtPrepare_prepares env statementText (!s₂.query.isMultiStmt))
        exact (again.congr rfl).thenPasses (stmtExecute_passes env _)
      · exact executed.thenPasses (s₃.stmtExecute_passes env)

/-- **No pair is sent again once the server has executed it**, in every direct execution in which
`MADB_StmtExecute` is entered only while no pair has succeeded. -/
theorem stmtExecDirect_no_resend (statementText : Text)
    (fresh : sending.FreshStarts (s.execDirectEvents env statementText)) :
    sending.NoRepeat (s.execDirectEvents env statementText) := by
  obtain ⟨events, grown, attempts⟩ := stmtExecDirect_attempts env s statementText
  have same : s.execDirectEvents env statementText = events := by
    rw [execDirectEvents, grown, drop_left]
  rw [same] at fresh ⊢
  exact attempts.noRepeat fresh

/-- A server on which one text fails, as for an unknown table. -/
def failingServer (text : Text) : Request → Nat → Answer
  | .query sent, _ => if sent = text then .failed { errno := 1146 } else .ok {}
  | _, _ => .ok {}

def failingEnv (text : Text) : Env where
  server := failingServer text
  noSsps := true
  multiStatements := true

/-- A statement that fails is tried twice. -/
theorem stmtExecDirect_no_resend_select :
    sending.FreshStarts (execDirectEvents (failingEnv (lit "SELECT u")) {} (lit "SELECT u")) ∧
      sending.NoRepeat (execDirectEvents (failingEnv (lit "SELECT u")) {} (lit "SELECT u")) :=
  ⟨by decide +kernel, stmtExecDirect_no_resend (failingEnv (lit "SELECT u")) {} (lit "SELECT u")
    (by decide +kernel)⟩

/-- The second statement of a batch fails, and the first one is executed again. -/
theorem stmtExecDirect_resends :
    ¬ sending.NoRepeat
      (execDirectEvents (failingEnv (lit "SELECT u")) {} (lit "DELETE FROM t;SELECT u")) := by
  decide +kernel

end Stmt

end MaOdbc
