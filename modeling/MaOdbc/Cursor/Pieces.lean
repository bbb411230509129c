/-
**A column in pieces.**

What the application gets of a column by calls of `SQLGetData` one after another.

* `handOvers`: what the calls are for. Each of them hands over as much of the text as it has room for, and
  tells how much was left before it; behind the last piece there is no data.
* `Reads`: how far the handle has come with a column. `sqlGetData_handsOver`: a call, in these terms.
* `getPieces_handOvers`: the calls hand over the text of a column that is not bound.
* `stmtGetData_text_iff`: a column is read again as it was sent exactly if the fetch left its length behind.
-/

import MaOdbc.Cursor.GetData

namespace MaOdbc

open List Diag ColumnBind Option

/-- A call of `SQLGetData`, with the buffer and the indicator as the application hands them in. -/
structure PieceCall where
  target : TextTarget
  buffer : Text
  indicator : Int := 0
  deriving DecidableEq, Repr

def PieceCall.room (call : PieceCall) : Nat := call.buffer.length - call.target.zeroTerminated

structure Piece where
  ret : SqlReturn
  sqlState : Text
  data : Text
  indicator : Option Int
  deriving DecidableEq, Repr

namespace PieceCall

/-- **What a call hands over** of what is left of a text, and what it leaves. -/
def handOver (call : PieceCall) : Option Text → Piece × Option Text
  | none => (⟨.noData, lit "00000", [], some call.indicator⟩, none)
  | some left =>
    if call.room < left.length then
      (⟨.successWithInfo, lit "01004", left.take call.room, some left.length⟩,
        some (left.drop call.room))
    else (⟨.success, lit "00000", left, some left.length⟩, none)

def handOvers : Option Text → List PieceCall → List Piece
  | _, [] => []
  | left, call :: calls => (call.handOver left).1 :: handOvers (call.handOver left).2 calls

theorem handOvers_none (calls : List PieceCall) : (handOvers none calls).flatMap (·.data) = [] := by
  induction calls with
  | nil => rfl
  | cons call calls ih =>
    rw [handOvers, flatMap_cons]
    exact ih

theorem handOvers_concat (left : Text) (calls : List PieceCall) :
    let pieces := handOvers (some left) calls
    pieces.flatMap (·.data) <+: left ∧
      ((∃ piece ∈ pieces, piece.ret = .success) → pieces.flatMap (·.data) = left) := by
  dsimp only
  induction calls generalizing left with
  | nil => exact ⟨ nil_prefix, fun ⟨piece, member, _⟩ => absurd member not_mem_nil⟩
  | cons call calls ih =>
    rw [handOvers, handOver]
    split
    · obtain ⟨start, whole⟩ := ih (left.drop call.room)
      rw [flatMap_cons]
      constructor
      · refine ((prefix_append_right_inj (left.take call.room)).mpr start).trans ?_
        rw [take_append_drop]
      · rintro ⟨piece, member, success⟩
        rcases mem_cons.mp member with rfl | later
        · cases success
        · rw [whole ⟨piece, later, success⟩]
          exact take_append_drop _ _
    · rw [flatMap_cons, handOvers_none, append_nil]
      exact ⟨prefix_refl left, fun _ => rfl⟩

end PieceCall

open PieceCall

/-- What the application sees of a call: the data are as many bytes of the buffer as it has room for, or
as the indicator says. -/
def Got.piece (got : Got) (call : PieceCall) : Piece :=
  { ret := got.ret
    sqlState := got.reader.error.sqlState
    data := if got.ret = .noData then []
      else got.buffer.take (min call.room (got.indicator.getD 0).toNat)
    indicator := got.indicator }

variable {offset count length : Nat} {buffer : Text} {r' : RowReader} {fieldType : FieldType}
  {left : Option Text}

namespace RowReader

variable (env : ReadEnv)

def getPiece (r : RowReader) (i : Nat) (call : PieceCall) : Got :=
  r.sqlGetData env i call.target call.buffer (some call.indicator)

def getPieces (i : Nat) : RowReader → List PieceCall → List Piece
  | _, [] => []
  | r, call :: calls =>
    (r.getPiece env i call).piece call :: getPieces i (r.getPiece env i call).reader calls

variable {env} {r : RowReader} {i : Nat} {text : Text}

/-! ### Bytes -/

theorem map_byteAt (inside : offset + count ≤ text.length) :
    (range count).map (fun j => byteAt env text (offset + j)) = (text.drop offset).take count := by
  refine ext_getElem? fun j => ?_
  by_cases within : j < count
  · have bound : offset + j < text.length := by omega
    rw [getElem?_map, getElem?_range within, getElem?_take_of_lt within, getElem?_drop,
      map_some, byteAt, if_pos (by omega), getD_eq_getElem?_getD,
      getElem?_eq_getElem bound]
    rfl
  · rw [getElem?_eq_none (by rw [length_map, length_range]; omega),
      getElem?_eq_none (by rw [length_take]; omega)]

theorem length_convertText (value : Nat → UInt8) (fieldLen offset : Nat) (buffer : Text) :
    (convertText value fieldLen offset buffer).length = buffer.length := by
  have copied : ∀ copyLen ≤ buffer.length,
      ((range copyLen).map (fun j => value (offset + j)) ++ buffer.drop copyLen).length =
        buffer.length := by
    intro copyLen most
    rw [length_append, length_map, length_range, length_drop]
    omega
  rw [convertText]
  split
  · dsimp only
    split
    · rw [length_set, copied _ (Nat.min_le_right _ _)]
    · exact copied _ (Nat.min_le_right _ _)
  · rfl

theorem take_convertText {value : Nat → UInt8} {fieldLen : Nat} (reached : offset ≤ fieldLen)
    (left : count ≤ fieldLen - offset) (room : count ≤ buffer.length) :
    (convertText value fieldLen offset buffer).take count =
      (range count).map fun j => value (offset + j) := by
  have most : count ≤ min (fieldLen - offset) buffer.length := Nat.le_min.mpr ⟨left, room⟩
  have copied : ∀ copyLen, count ≤ copyLen →
      ((range copyLen).map (fun j => value (offset + j)) ++ buffer.drop copyLen).take count =
        (range count).map fun j => value (offset + j) := by
    intro copyLen most
    rw [take_append_of_le_length (by rw [length_map, length_range]; exact most),
      ← map_take, take_range, Nat.min_eq_left most]
  rw [convertText, if_pos reached]
  dsimp only
  split
  · rw [take_set_of_le most, copied _ most]
  · exact copied _ most

theorem take_terminate {target : TextTarget} (short : count ≤ length)
    (room : count ≤ buffer.length - target.zeroTerminated) :
    (terminate target length buffer).take count = buffer.take count := by
  cases target with
  | char =>
    have room' : count ≤ buffer.length - 1 := room
    refine take_set_of_le ?_
    split
    · exact short
    · exact room'
  | binary => rfl

/-! ### One call -/

/-- The handle stands on a row with a text in a column. -/
structure PointsTo (r : RowReader) (i : Nat) (text : Text) : Prop where
  bound : r.bound = true
  fetching : r.fetching = true
  notNull : (r.binds i).isNull = false
  rowPtr : (r.binds i).rowPtr = some text

structure Holds (r : RowReader) (i : Nat) (text : Text) : Prop extends PointsTo r i text where
  length : (r.binds i).length = text.length

/-- How far the handle has come with a column: what is left of its text, if there is anything to come. -/
def Reads (r : RowReader) (i : Nat) (text : Text) : Option Text → Prop
  | none => 0 < r.charOffset i ∧ r.lengths i ≤ r.charOffset i
  | some left => left = text.drop (r.charOffset i) ∧
      (r.charOffset i = 0 ∨
        r.charOffset i < text.length ∧ r.lengths i = text.length ∧ r.lastColumn = some i)

/-- Only what `SQLGetData` keeps of its progress differs. -/
structure SameRow (r r' : RowReader) : Prop where
  hasResult : r'.hasResult = r.hasResult
  bound : r'.bound = r.bound
  fetching : r'.fetching = r.fetching
  binds : r'.binds = r.binds

theorem SameRow.trans {r'' : RowReader} (first : SameRow r r') (second : SameRow r' r'') :
    SameRow r r'' :=
  ⟨second.hasResult.trans first.hasResult, second.bound.trans first.bound,
    second.fetching.trans first.fetching, second.binds.trans first.binds⟩

theorem PointsTo.of_same (points : PointsTo r i text) (same : SameRow r r') :
    PointsTo r' i text := by
  refine ⟨same.bound.trans points.bound, same.fetching.trans points.fetching, ?_, ?_⟩
  · rw [same.binds, points.notNull]
  · rw [same.binds, points.rowPtr]

theorem Holds.of_same (holds : Holds r i text) (same : SameRow r r') : Holds r' i text := by
  refine ⟨holds.toPointsTo.of_same same, ?_⟩
  rw [same.binds, holds.length]

/-! ### What a call leaves as it is -/

theorem SameRow.ite {p : Prop} [Decidable p] {a b : RowReader} (first : SameRow r a)
    (second : SameRow r b) : SameRow r (if p then a else b) := by
  split
  · exact first
  · exact second

theorem sameRow_finishGet (bufferLength length : Nat) (isNull internalUse : Bool) (buffer : Text)
    (indicator : Option Int) :
    SameRow r (r.finishGet i bufferLength length isNull internalUse buffer indicator).reader := by
  have marked : SameRow r (if (!internalUse) = true ∧ r.lengths i = 0 then
      r.setCharOffset i (max bufferLength length) else r) :=
    .ite ⟨rfl, rfl, rfl, rfl⟩ ⟨rfl, rfl, rfl, rfl⟩
  unfold finishGet
  dsimp only
  rw [apply_ite Got.reader]
  refine .ite ?_ marked
  cases indicator with
  | none => exact marked.trans ⟨rfl, rfl, rfl, rfl⟩
  | some told => exact marked

theorem sameRow_takePiece (target : TextTarget) (length : Nat) (isNull internalUse : Bool) (buffer : Text)
    (indicator : Option Int) :
    SameRow r (r.takePiece i target length isNull internalUse buffer indicator).reader := by
  have known : SameRow r (if (!internalUse) = true ∧ r.charOffset i = 0 then
      r.setLengths i length else r) := .ite ⟨rfl, rfl, rfl, rfl⟩ ⟨rfl, rfl, rfl, rfl⟩
  rw [takePiece]
  generalize (if (!internalUse) = true ∧ r.charOffset i = 0 then r.setLengths i length else r) = r₁ at known
  have moved : ∀ offset, SameRow r (if (!internalUse) = true then r₁.setCharOffset i offset else r₁) :=
    fun offset => .ite (known.trans ⟨rfl, rfl, rfl, rfl⟩) known
  dsimp only
  rw [apply_ite Got.reader, apply_ite Got.reader]
  refine .ite ((moved _).trans ⟨rfl, rfl, rfl, rfl⟩) (.ite ((moved _).trans ⟨rfl, rfl, rfl, rfl⟩) ?_)
  exact (moved _).trans (sameRow_finishGet _ _ _ _ _ _)

theorem sameRow_getLength (env : ReadEnv) (indicator : Int) (internalUse : Bool) :
    SameRow r (r.getLength env i indicator internalUse).reader := by
  have finished : ∀ length, SameRow r
      ((if (!internalUse) = true ∧ r.charOffset i = 0 then r.setLengths i length else r).setError
        .err01004).2 := by
    intro length
    split
    · exact ⟨rfl, rfl, rfl, rfl⟩
    · exact ⟨rfl, rfl, rfl, rfl⟩
  rw [getLength]
  dsimp only
  cases r.fetchColumnCsps env i (r.charOffset i) [] with
  | wrongState => exact ⟨rfl, rfl, rfl, rfl⟩
  | null | read => exact finished _

/-- **A call leaves the row as it is.** -/
theorem sameRow_stmtGetData (env : ReadEnv) (target : TextTarget) (buffer : Text)
    (indicator : Option Int) (internalUse : Bool) :
    SameRow r (r.stmtGetData env i target buffer indicator internalUse).reader := by
  have cleared : SameRow r { r with error := clear } := ⟨rfl, rfl, rfl, rfl⟩
  unfold stmtGetData
  dsimp only
  split
  · exact ⟨rfl, rfl, rfl, rfl⟩
  · split
    · cases indicator with
      | none => exact ⟨rfl, rfl, rfl, rfl⟩
      | some told => exact cleared
    · cases (if buffer.isEmpty = true then indicator else none) with
      | some told =>
        dsimp only
        split
        · exact cleared
        · exact cleared.trans (sameRow_getLength env told internalUse)
      | none =>
        dsimp only
        split
        · exact ⟨rfl, rfl, rfl, rfl⟩
        · exact cleared.trans (sameRow_takePiece target 0 true internalUse buffer indicator)
        · exact cleared.trans (sameRow_takePiece target _ false internalUse _ indicator)

theorem fetchColumnCsps_read (points : PointsTo r i text) (offset : Nat) (buffer : Text) :
    r.fetchColumnCsps env i offset buffer =
      .read (convertText (valueAt env (env.info i).fieldType text (r.binds i).length) (r.binds i).length offset
        buffer) (r.binds i).length := by
  rw [fetchColumnCsps, points.fetching, points.rowPtr]
  rfl

theorem finishGet_spec {bufferLength : Nat} (clear : r.error = clear)
    (reached : r.lengths i ≤ r.charOffset i) (marks : 0 < r.lengths i ∨ 0 < bufferLength) (length : Nat)
    (buffer : Text) (indicator : Option Int) :
    let got := r.finishGet i bufferLength length false false buffer indicator
    got.reader.lastColumn = r.lastColumn ∧ got.reader.lengths = r.lengths ∧
      got.ret = .success ∧ got.reader.error.sqlState = lit "00000" ∧
      0 < got.reader.charOffset i ∧ r.lengths i ≤ got.reader.charOffset i := by
  unfold finishGet
  dsimp only
  rw [if_neg Bool.false_ne_true]
  by_cases empty : r.lengths i = 0
  · rw [if_pos ⟨rfl, empty⟩]
    dsimp only
    rw [charOffset_setCharOffset]
    exact ⟨rfl, rfl, congrArg returnValue clear, congrArg sqlState clear, by omega, by omega⟩
  · rw [if_neg (fun marking => empty marking.2)]
    exact ⟨rfl, rfl, congrArg returnValue clear, congrArg sqlState clear,
      Nat.lt_of_lt_of_le (Nat.pos_of_ne_zero empty) reached, reached⟩

theorem takePiece_spec (target : TextTarget) (length : Nat) (buffer : Text)
    (known : r.charOffset i = 0 ∨ r.lengths i = length) (reached : r.charOffset i ≤ length)
    (clear : r.error = clear) (fits : target.zeroTerminated ≤ buffer.length)
    (nonempty : 0 < buffer.length) (indicator : Int) :
    let got := r.takePiece i target length false false buffer (some indicator)
    let room := buffer.length - target.zeroTerminated
    let left := length - r.charOffset i
    got.buffer = terminate target length buffer ∧ got.indicator = some (left : Int) ∧
      got.reader.lastColumn = r.lastColumn ∧ got.reader.lengths i = length ∧
      if room < left then
        got.ret = .successWithInfo ∧ got.reader.error.sqlState = lit "01004" ∧
          got.reader.charOffset i = r.charOffset i + room
      else
        got.ret = .success ∧ got.reader.error.sqlState = lit "00000" ∧
          0 < got.reader.charOffset i ∧ length ≤ got.reader.charOffset i := by
  dsimp only
  obtain ⟨r₁, first⟩ : ∃ r₁, r₁ =
    if (!false) = true ∧ r.charOffset i = 0 then r.setLengths i length else r := ⟨_, rfl⟩
  have known₁ : r₁.lastColumn = r.lastColumn ∧ r₁.charOffset = r.charOffset ∧
      r₁.error = Diag.clear ∧ r₁.lengths i = length := by
    rw [first]
    split
    · exact ⟨rfl, rfl, clear, lengths_setLengths _ _ _⟩
    · rename_i later
      exact ⟨rfl, rfl, clear, known.resolve_left fun zero => later ⟨rfl, zero⟩⟩
  obtain ⟨last, offsets, quiet, lengths⟩ := known₁
  have room_eq : (if buffer.length < target.zeroTerminated then 2 ^ 64 - 1
      else buffer.length - target.zeroTerminated) = buffer.length - target.zeroTerminated :=
    if_neg (Nat.not_lt.mpr fits)
  generalize room_def : buffer.length - target.zeroTerminated = room at room_eq
  obtain ⟨r₂, second⟩ : ∃ r₂, r₂ = r₁.setCharOffset i (r₁.charOffset i + min room length) := ⟨_, rfl⟩
  have known₂ : r₂.lastColumn = r.lastColumn ∧ r₂.charOffset i = r.charOffset i + min room length ∧
      r₂.error = Diag.clear ∧ r₂.lengths i = length := by
    rw [second, ← offsets]
    exact ⟨last, charOffset_setCharOffset _ _ _, quiet, lengths⟩
  obtain ⟨last₂, place, quiet₂, lengths₂⟩ := known₂
  have taken : r.takePiece i target length false false buffer (some indicator) =
      if (!false) = true ∧ buffer.length ≠ target.zeroTerminated ∧ r₂.charOffset i < r₂.lengths i then
        ⟨(r₂.setError .err01004).1, terminate target length buffer,
          some ((length : Int) - r.charOffset i), (r₂.setError .err01004).2⟩
      else if (buffer.length : Int) - target.zeroTerminated < (length : Int) - r.charOffset i then
        ⟨.successWithInfo, terminate target length buffer, some ((length : Int) - r.charOffset i),
          (r₂.setError .err01004).2⟩
      else r₂.finishGet i buffer.length length false false (terminate target length buffer)
        (some ((length : Int) - r.charOffset i)) := by
    rw [takePiece]
    simp only [map_some, any_some, decide_eq_true_eq]
    rw [← first, room_def, room_eq, if_pos (show (!false) = true from rfl), if_neg Bool.false_ne_true, ← second]
  have left : (length : Int) - r.charOffset i = ((length - r.charOffset i : Nat) : Int) := by omega
  rw [taken, place, lengths₂, left]
  by_cases more : room < length - r.charOffset i
  · have next : r₂.charOffset i = r.charOffset i + room := by
      rw [place, Nat.min_eq_left (by omega)]
    rw [if_pos more]
    by_cases roomy : buffer.length = target.zeroTerminated
    · rw [if_neg (fun warned => warned.2.1 roomy), if_pos (by omega)]
      exact ⟨rfl, rfl, last₂, lengths₂, rfl, rfl, next⟩
    · rw [if_pos ⟨rfl, roomy, by omega⟩]
      exact ⟨rfl, rfl, last₂, lengths₂, rfl, rfl, next⟩
  · rw [if_neg (fun warned => by omega), if_neg (by omega), if_neg more]
    obtain ⟨lastFinished, lengthsFinished, finished⟩ := finishGet_spec (i := i) quiet₂ (by omega) (Or.inr nonempty)
      length (terminate target length buffer) (some ((length - r.charOffset i : Nat) : Int))
    rw [lengths₂] at finished
    exact ⟨rfl, rfl, lastFinished.trans last₂, (congrFun lengthsFinished i).trans lengths₂, finished⟩

theorem stmtGetData_read (points : PointsTo r i text) (target : TextTarget) (nonempty : buffer ≠ [])
    (indicator : Option Int) (internalUse : Bool) :
    r.stmtGetData env i target buffer indicator internalUse =
      { r with error := clear }.takePiece i target (r.binds i).length false internalUse
        (convertText (valueAt env (env.info i).fieldType text (r.binds i).length) (r.binds i).length
          (if internalUse then 0 else r.charOffset i) buffer)
        indicator := by
  have cleared : PointsTo { r with error := clear } i text := points.of_same ⟨rfl, rfl, rfl, rfl⟩
  have given : ¬ buffer.isEmpty = true := by
    rw [List.isEmpty_iff]
    exact nonempty
  unfold stmtGetData
  dsimp only
  rw [if_neg (by rw [points.bound]; exact Bool.false_ne_true),
    if_neg (by rw [points.notNull]; exact Bool.false_ne_true), if_neg given]
  dsimp only
  rw [fetchColumnCsps_read cleared]

theorem valueAt_plain (plain : fieldType ≠ .bit) (fieldLen : Nat) :
    valueAt env fieldType text fieldLen = byteAt env text :=
  funext fun _ => if_neg plain

theorem stmtGetData_eq (points : PointsTo r i text) (plain : (env.info i).fieldType ≠ .bit)
    (target : TextTarget) (nonempty : buffer ≠ []) (indicator : Option Int) (internalUse : Bool) :
    r.stmtGetData env i target buffer indicator internalUse =
      { r with error := clear }.takePiece i target (r.binds i).length false internalUse
        (convertText (byteAt env text) (r.binds i).length (if internalUse then 0 else r.charOffset i) buffer)
        indicator := by
  rw [stmtGetData_read points target nonempty, valueAt_plain plain]

/-- **A call hands over a piece.** -/
theorem sqlGetData_handsOver (holds : Holds r i text) (plain : (env.info i).fieldType ≠ .bit)
    {call : PieceCall} (fits : call.target.zeroTerminated < call.buffer.length)
    (reads : Reads r i text left) :
    let got := r.getPiece env i call
    got.piece call = (call.handOver left).1 ∧ Holds got.reader i text ∧
      Reads got.reader i text (call.handOver left).2 := by
  dsimp only
  cases left with
  | none =>
    have ended : r.getPiece env i call =
        ⟨.noData, call.buffer, some call.indicator, { r with error := clear }⟩ :=
      if_pos reads
    rw [ended]
    exact ⟨rfl, holds.of_same ⟨rfl, rfl, rfl, rfl⟩, reads⟩
  | some left =>
    obtain ⟨rest, progress⟩ := reads
    have going : ¬ (0 < r.charOffset i ∧ r.lengths i ≤ r.charOffset i) := by
      rcases progress with zero | ⟨within, known, -⟩
      · omega
      · omega
    obtain ⟨r', started⟩ : ∃ r' : RowReader, r' =
      { (if r.lastColumn = some i then { r with error := clear }
          else ({ r with error := clear } : RowReader).setCharOffset i 0) with
        lastColumn := some i } := ⟨_, rfl⟩
    have same : SameRow r r' ∧ r'.lastColumn = some i ∧ r'.charOffset i = r.charOffset i ∧
        r'.lengths = r.lengths := by
      rw [started]
      split
      · exact ⟨⟨rfl, rfl, rfl, rfl⟩, rfl, rfl, rfl⟩
      · rename_i other
        have zero : r.charOffset i = 0 := progress.resolve_right fun later => other later.2.2
        refine ⟨⟨rfl, rfl, rfl, rfl⟩, rfl, ?_, rfl⟩
        rw [zero, charOffset_setCharOffset]
    obtain ⟨same, last, place, lengths⟩ := same
    have holds' : Holds r' i text := holds.of_same same
    have within : r'.charOffset i ≤ text.length := by
      rw [place]
      rcases progress with zero | ⟨within, -, -⟩
      · omega
      · omega
    have room : call.buffer ≠ [] := ne_nil_of_length_pos (by omega)
    have begun : r.getPiece env i call =
        r'.stmtGetData env i call.target call.buffer (some call.indicator) false := by
      rw [started]
      exact if_neg going
    have kept : Holds (r.getPiece env i call).reader i text := by
      rw [begun]
      exact holds'.of_same (sameRow_stmtGetData _ _ _ _ _)
    have called : r.getPiece env i call =
        { r' with error := clear }.takePiece i call.target text.length false false
          (convertText (byteAt env text) text.length (r'.charOffset i) call.buffer)
          (some call.indicator) := by
      rw [begun, stmtGetData_eq holds'.toPointsTo plain call.target room, holds'.length]
      rfl
    have known : r'.charOffset i = 0 ∨ r'.lengths i = text.length := by
      rw [place, lengths]
      exact progress.imp_right fun later => later.2.1
    generalize buffer_eq :
      convertText (byteAt env text) text.length (r'.charOffset i) call.buffer = buffer at called
    have size : buffer.length = call.buffer.length := by
      rw [← buffer_eq, length_convertText]
    obtain ⟨written, told, last', lengths', outcome⟩ :=
      takePiece_spec (r := { r' with error := clear }) (i := i) call.target text.length buffer known
        within rfl (by rw [size]; exact Nat.le_of_lt fits) (by rw [size]; omega) call.indicator
    rw [← called] at written told last' lengths' outcome
    have size_left : left.length = text.length - r'.charOffset i := by
      rw [rest, length_drop, place]
    have data : ∀ count, count ≤ call.room → count ≤ left.length →
        (r.getPiece env i call).buffer.take count = left.take count := by
      intro count roomy short
      rw [PieceCall.room] at roomy
      rw [written, take_terminate (by omega) (by rw [size]; exact roomy), ← buffer_eq,
        take_convertText within (by omega) (by omega), map_byteAt (by omega), rest, place]
    have outcome' : if call.room < left.length then
          (r.getPiece env i call).ret = .successWithInfo ∧
            (r.getPiece env i call).reader.error.sqlState = lit "01004" ∧
            (r.getPiece env i call).reader.charOffset i = r'.charOffset i + call.room
        else
          (r.getPiece env i call).ret = .success ∧
            (r.getPiece env i call).reader.error.sqlState = lit "00000" ∧
            0 < (r.getPiece env i call).reader.charOffset i ∧
            text.length ≤ (r.getPiece env i call).reader.charOffset i := by
      rw [PieceCall.room, size_left, ← size]
      exact outcome
    have told' : (r.getPiece env i call).indicator = some (left.length : Int) := by
      rw [told, size_left]
    rw [handOver, Got.piece, told']
    by_cases more : call.room < left.length
    · rw [if_pos more] at outcome' ⊢
      obtain ⟨ret, state, offset⟩ := outcome'
      have piece : min call.room ((some (left.length : Int)).getD 0).toNat = call.room :=
        Nat.min_eq_left (Nat.le_of_lt more)
      rw [ret, state, piece, if_neg (by decide), data _ (Nat.le_refl _) (Nat.le_of_lt more)]
      refine ⟨rfl, kept, ?_, Or.inr ⟨?_, lengths', last'.trans last⟩⟩
      · rw [rest, offset, place, drop_drop]
      · omega
    · rw [if_neg more] at outcome' ⊢
      obtain ⟨ret, state, positive, finished⟩ := outcome'
      have piece : min call.room ((some (left.length : Int)).getD 0).toNat = left.length :=
        Nat.min_eq_right (Nat.not_lt.mp more)
      rw [ret, state, piece, if_neg (by decide), data _ (Nat.not_lt.mp more) (Nat.le_refl _),
        take_length]
      exact ⟨rfl, kept, positive, Nat.le_trans (Nat.le_of_eq lengths') finished⟩

/-! ### Calls one after another -/

theorem getPieces_eq (holds : Holds r i text) (plain : (env.info i).fieldType ≠ .bit)
    {calls : List PieceCall}
    (fits : ∀ call ∈ calls, call.target.zeroTerminated < call.buffer.length)
    (reads : Reads r i text left) : getPieces env i r calls = handOvers left calls := by
  induction calls generalizing r left with
  | nil => rfl
  | cons call calls ih =>
    obtain ⟨piece, holds', reads'⟩ :=
      sqlGetData_handsOver holds plain (fits call mem_cons_self) reads
    rw [getPieces, handOvers, piece,
      ih holds' (fun later member => fits later (mem_cons_of_mem call member)) reads']

end RowReader

/-! ### A row that was fetched -/

namespace ColumnBind

theorem length_setLength (bind : ColumnBind) (length : Nat) : (bind.setLength length).length = length := by
  rw [setLength]
  split
  · rename_i shared
    exact if_pos shared
  · rename_i own
    exact if_neg own

theorem rowPtr_setLength (bind : ColumnBind) (length : Nat) :
    (bind.setLength length).rowPtr = bind.rowPtr ∧ (bind.setLength length).isNull = bind.isNull := by
  rw [setLength]
  split
  · exact ⟨rfl, rfl⟩
  · exact ⟨rfl, rfl⟩

theorem receive_some (info : ColumnInfo) (bind : ColumnBind) (text : Text) :
    (bind.receive info (some text)).rowPtr = some text ∧
      (bind.receive info (some text)).isNull = false := by
  rw [receive]
  dsimp only
  split
  · exact rowPtr_setLength _ _
  · exact ⟨rfl, rfl⟩

theorem length_receive (info : ColumnInfo) (bind : ColumnBind) (text : Text) :
    (bind.receive info (some text)).length =
      if bind.dummy ∨ bind.bufferType.setsLength info.fieldType then text.length else bind.length := by
  rw [receive]
  dsimp only
  split
  · exact length_setLength _ _
  · rfl

theorem bindResult_same (bind : ColumnBind) :
    bind.bindResult.dummy = bind.dummy ∧ bind.bindResult.bufferType = bind.bufferType := by
  rw [bindResult]
  dsimp only
  split
  · exact ⟨rfl, rfl⟩
  · rw [setLength]
    split
    · exact ⟨rfl, rfl⟩
    · exact ⟨rfl, rfl⟩

theorem length_bindResult {bind : ColumnBind} (fixed : bind.bufferType.fixedLength = some length) :
    bind.bindResult.length = length := by
  rw [bindResult]
  dsimp only
  rw [fixed]
  exact length_setLength _ _

end ColumnBind

theorem BufferType.fixedLength_of_not_sets {bufferType : BufferType}
    (silent : ¬ bufferType.setsLength fieldType = true) :
    ∃ length, bufferType.fixedLength = some length := by
  cases bufferType with
  | decimal | string | blob => exact absurd rfl silent
  | tiny | short | long | longlong | float | double | time | date | timestamp => exact ⟨_, rfl⟩

/-- The length of a column is the one it was sent with: it is not bound, or to a buffer whose conversion
tells the length, or to one of just that size. -/
def ReadEnv.KeepsLength (env : ReadEnv) (i : Nat) (text : Text) : Prop :=
  ∀ ardType, env.ard i = some ardType →
    ((env.info i).bufferType ardType).setsLength (env.info i).fieldType = true ∨
      ((env.info i).bufferType ardType).fixedLength = some text.length

namespace RowReader

variable {env : ReadEnv} {r : RowReader} {row : Row} {rest : List Row} {i : Nat} {text : Text}

theorem binds_round (value : row.value i = some text) :
    (r.round env (row :: rest)).binds i =
      ((r.binds i).prepareBind (env.info i) (env.ard i)).bindResult.receive (env.info i) (some text) := by
  rw [← value]
  rfl

/-- **The length that a fetch leaves behind.** -/
theorem length_round_iff (rest : List Row) (value : row.value i = some text) :
    ((r.round env (row :: rest)).binds i).length = text.length ↔ env.KeepsLength i text := by
  obtain ⟨dummy, bufferType⟩ :=
    bindResult_same ((r.binds i).prepareBind (env.info i) (env.ard i))
  rw [binds_round value, length_receive, dummy, bufferType]
  cases bound : env.ard i with
  | none =>
    refine ⟨fun _ ardType other => ?_, fun _ => if_pos (Or.inl rfl)⟩
    rw [bound] at other
    cases other
  | some ardType =>
    have keeps : env.KeepsLength i text ↔
        ((env.info i).bufferType ardType).setsLength (env.info i).fieldType = true ∨
          ((env.info i).bufferType ardType).fixedLength = some text.length := by
      refine ⟨fun keeps => keeps ardType bound, fun here other same => ?_⟩
      rw [bound] at same
      cases same
      exact here
    rw [keeps]
    by_cases told : ((env.info i).bufferType ardType).setsLength (env.info i).fieldType = true
    · exact iff_of_true (if_pos (Or.inr told)) (Or.inl told)
    · obtain ⟨length, fixed⟩ := BufferType.fixedLength_of_not_sets told
      have silent : ¬ (((r.binds i).prepareBind (env.info i) (some ardType)).dummy = true ∨
          ((r.binds i).prepareBind (env.info i) (some ardType)).bufferType.setsLength
            (env.info i).fieldType = true) := by
        rintro (unbound | tells)
        · cases unbound
        · exact told tells
      have left : ((r.binds i).prepareBind (env.info i) (some ardType)).bindResult.length = length :=
        length_bindResult fixed
      rw [if_neg silent, left, fixed, some_inj]
      exact (or_iff_right told).symm

theorem pointsTo_round (value : row.value i = some text) :
    PointsTo (r.round env (row :: rest)).finishFetch i text := by
  have received : (r.round env (row :: rest)).binds i = _ := binds_round value
  obtain ⟨pointer, notNull⟩ := receive_some (env.info i)
    ((r.binds i).prepareBind (env.info i) (env.ard i)).bindResult text
  refine ⟨rfl, rfl, ?_, ?_⟩
  · exact (congrArg isNull received).trans notNull
  · exact (congrArg rowPtr received).trans pointer

/-- **A column in pieces.** The calls of `SQLGetData` for a column that is not bound hand over its text,
piece by piece: each as much as it has room for, with the number of bytes that were left before it, with
success for the last of them, and no data behind it. -/
theorem getPieces_handOvers (plain : (env.info i).fieldType ≠ .bit) (unbound : env.ard i = none)
    (value : row.value i = some text) {calls : List PieceCall}
    (fits : ∀ call ∈ calls, call.target.zeroTerminated < call.buffer.length) :
    let pieces := getPieces env i (r.round env (row :: rest)).finishFetch calls
    pieces = handOvers (some text) calls ∧ pieces.flatMap (·.data) <+: text ∧
      ((∃ piece ∈ pieces, piece.ret = .success) → pieces.flatMap (·.data) = text) := by
  have keeps : env.KeepsLength i text := by
    intro ardType bound
    rw [unbound] at bound
    cases bound
  have holds : Holds (r.round env (row :: rest)).finishFetch i text :=
    ⟨pointsTo_round value, (length_round_iff rest value).mpr keeps⟩
  have reads : Reads (r.round env (row :: rest)).finishFetch i text (some text) := ⟨rfl, Or.inl rfl⟩
  dsimp only
  rw [getPieces_eq holds plain fits reads]
  exact ⟨rfl, handOvers_concat text calls⟩

theorem getPieces_handOvers_three :
    let pieces := getPieces {} 0 (round {} {} [[some (lit "abc")]]).finishFetch
      [⟨.char, [1, 1, 1], 0⟩, ⟨.binary, [1], 0⟩, ⟨.char, [1, 1], 0⟩]
    pieces.map (·.ret) = [.successWithInfo, .success, .noData] ∧ pieces.flatMap (·.data) = lit "abc" := by
  have pieces : getPieces {} 0 (round {} {} [[some (lit "abc")]]).finishFetch
      [⟨.char, [1, 1, 1], 0⟩, ⟨.binary, [1], 0⟩, ⟨.char, [1, 1], 0⟩] =
      handOvers (some (lit "abc"))
        [⟨.char, [1, 1, 1], 0⟩, ⟨.binary, [1], 0⟩, ⟨.char, [1, 1], 0⟩] :=
    (getPieces_handOvers (by decide) rfl rfl (by decide)).1
  dsimp only
  rw [pieces]
  exact ⟨by decide, by decide⟩

theorem takePiece_indicator (target : TextTarget) (length : Nat) (internalUse : Bool) (buffer : Text)
    (indicator : Option Int) :
    (r.takePiece i target length false internalUse buffer indicator).indicator =
      indicator.map fun _ => (length : Int) - (if internalUse then 0 else r.charOffset i : Nat) := by
  have finished : ∀ (r' : RowReader) (bufferLength : Nat) (buffer : Text) (told : Option Int),
      (r'.finishGet i bufferLength length false internalUse buffer told).indicator = told :=
    fun _ _ _ _ => rfl
  rw [takePiece]
  dsimp only
  rw [apply_ite Got.indicator, apply_ite Got.indicator, finished, ite_self, ite_self]

theorem takePiece_whole (started : r.charOffset i = 0) (clear : r.error = clear)
    (larger : text.length < buffer.length) (copied : buffer.take text.length = text)
    (indicator : Int) :
    let got := r.takePiece i .char text.length false false buffer (some indicator)
    got.ret = .success ∧ got.buffer.take (text.length + 1) = text ++ [0] ∧
      got.indicator = some (text.length : Int) := by
  obtain ⟨written, told, -, -, outcome⟩ :=
    takePiece_spec .char text.length buffer (Or.inl started) (by omega) clear
      (Nat.lt_of_le_of_lt (Nat.zero_le _) larger) (by omega) indicator
  rw [started, Nat.sub_zero] at told outcome
  have fits : ¬ buffer.length - TextTarget.char.zeroTerminated < text.length := by
    rw [TextTarget.zeroTerminated]
    omega
  rw [if_neg fits] at outcome
  refine ⟨outcome.1, ?_, told⟩
  have ended : terminate .char text.length buffer = buffer.set text.length 0 :=
    congrArg (buffer.set · 0) (if_pos larger)
  rw [written, ended, take_add_one, take_set_of_le (Nat.le_refl _), copied,
    getElem?_set_self larger]
  rfl

/-- **A bound column, read again.** Into a buffer that is larger than its text, a column of a row that was
fetched is read as it was sent exactly if the fetch left its length behind. -/
theorem stmtGetData_text_iff (plain : (env.info i).fieldType ≠ .bit) (value : row.value i = some text)
    {buffer : Text} (larger : text.length < buffer.length) (indicator : Int) :
    let got := (r.round env (row :: rest)).finishFetch.stmtGetData env i .char buffer (some indicator) false
    (got.ret = .success ∧ got.buffer.take (text.length + 1) = text ++ [0] ∧
      got.indicator = some (text.length : Int)) ↔ env.KeepsLength i text := by
  have nonempty : buffer ≠ [] := ne_nil_of_length_pos (by omega)
  have points : PointsTo (r.round env (row :: rest)).finishFetch i text := pointsTo_round value
  dsimp only
  rw [stmtGetData_eq points plain .char nonempty (some indicator) false]
  generalize length_eq : ((r.round env (row :: rest)).finishFetch.binds i).length = length
  have keeps : length = text.length ↔ env.KeepsLength i text := by
    rw [← length_eq]
    exact length_round_iff rest value
  rw [← keeps]
  constructor
  · rintro ⟨-, -, told⟩
    rw [takePiece_indicator] at told
    have same : (length : Int) - ((0 : Nat) : Int) = text.length := some_inj.mp told
    omega
  · rintro rfl
    have bytes : (convertText (byteAt env text) text.length 0 buffer).take text.length = text := by
      have copied : (convertText (byteAt env text) text.length 0 buffer).take text.length = _ :=
        take_convertText (Nat.zero_le _) (Nat.le_refl _) (Nat.le_of_lt larger)
      rw [copied, map_byteAt (by omega), drop_zero, take_length]
    exact takePiece_whole rfl rfl (by rw [length_convertText]; exact larger) bytes indicator

theorem stmtGetData_text_char :
    let env : ReadEnv := { ard := fun _ => some .char }
    let got := (round env {} [[some (lit "7")]]).finishFetch.stmtGetData env 0 .char
      (List.replicate 8 1) (some 0) false
    got.ret = .success ∧ got.buffer.take 2 = lit "7" ++ [0] ∧ got.indicator = some 1 := by
  intro env got
  have plain : (env.info 0).fieldType ≠ .bit := by decide
  have value : Row.value [some (lit "7")] 0 = some (lit "7") := rfl
  have larger : (lit "7").length < (List.replicate 8 (1 : UInt8)).length := by decide
  have keeps : env.KeepsLength 0 (lit "7") := by
    intro ardType bound
    cases bound
    exact Or.inl rfl
  exact (stmtGetData_text_iff plain value larger 0).mpr keeps

/-- A number of one digit that is bound as a 32-bit integer is read again with the length of the
integer. -/
theorem stmtGetData_text_long :
    let env : ReadEnv := { ard := fun _ => some .long }
    let got := (round env {} [[some (lit "7")]]).finishFetch.stmtGetData env 0 .char
      (List.replicate 8 1) (some 0) false
    got.indicator = some 4 ∧
      ¬ (got.ret = .success ∧ got.buffer.take 2 = lit "7" ++ [0] ∧ got.indicator = some 1) := by
  decide

end RowReader

end MaOdbc
