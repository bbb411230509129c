/-
**A column in pieces of wide characters** (the targets `SQL_C_WCHAR` of `MADB_StmtGetData`).

The first call converts the text. If it may not fit into the buffer of the application it goes to
`IrdRec->InternalBuffer`, from where later calls take their pieces.

* `handWide`: a piece, and what is left behind for the next call.
* `handOvers`: what the calls are for. `WideReads`: how far the handle has come with a column.
* `getWide_handsOver`: a call, in these terms, for a text whose units are counted right.
* `deliversWide_iff`: which texts arrive whole.
-/

import MaOdbc.Cursor.Pieces
import MaOdbc.Wide.Convert

namespace MaOdbc

open List RowReader Diag

/-- The part of `MADB_Stmt` that reading a column as wide characters reads and writes. -/
structure WideReader where
  reader : RowReader := {}
  /-- `IrdRec->InternalBuffer`. -/
  internalBuffer : Nat → Option (List UInt16) := fun _ => none

/-- What a call of `MADB_StmtGetData` leaves behind, with a buffer of units. -/
structure WideGot where
  ret : SqlReturn
  buffer : List UInt16
  indicator : Option Int
  reader : WideReader

def overwrite (buffer data : List UInt16) : List UInt16 := data ++ buffer.drop data.length

structure WideEnv where
  read : ReadEnv := {}
  charset : Utf8Charset

namespace WideReader

variable (env : WideEnv) (w : WideReader)

/-- Writes `IrdRec->InternalBuffer`. -/
def setInternal (i : Nat) (units : Option (List UInt16)) : WideReader :=
  { w with internalBuffer := Function.update w.internalBuffer i units }

def fail (code : ErrorCode) (buffer : List UInt16) (indicator : Option Int) : WideGot :=
  let failed := w.reader.setError code
  ⟨failed.1, buffer, indicator, { w with reader := failed.2 }⟩

/-- What a call does once it knows the number of characters, with the lengths in its own `MYSQL_BIND`. -/
def handWide (i charLength bindBufferLength bindLength : Nat) (isNull : Bool) (buffer : List UInt16)
    (indicator : Option Int) : WideGot :=
  let indicator := indicator.map fun _ => ((charLength * 2 : Nat) : Int)
  if buffer.isEmpty then w.fail .err01004 buffer indicator
  else
    let buffer := match w.internalBuffer i with
      | none => buffer
      | some units =>
        let count := min (buffer.length - 1) charLength
        overwrite buffer ((units.drop (w.reader.charOffset i / 2)).take count ++ [0])
    if buffer.length ≤ charLength then
      let reader := w.reader.setCharOffset i (w.reader.charOffset i + 2 * (buffer.length - 1))
      { w with reader := reader }.fail .err01004 buffer indicator
    else
      let reader := w.reader.setCharOffset i (w.reader.lengths i)
      let got := reader.finishGet i bindBufferLength bindLength isNull false [] indicator
      ⟨got.ret, buffer, got.indicator, { w.setInternal i none with reader := got.reader }⟩

/-- What the first call does with the bytes of the column, in `ClientValue`. -/
def convertWide (i : Nat) (clientValue : Text) (bindLength : Nat) (isNull : Bool) (buffer : List UInt16)
    (indicator : Option Int) : WideGot :=
  let lengthValue := (w.reader.binds i).lengthValue
  let left := lengthValue - w.reader.charOffset i
  let finish := fun (w : WideReader) (charLength : Nat) (buffer : List UInt16) =>
    let reader := if w.reader.charOffset i = 0 then w.reader.setLengths i (charLength * 2) else w.reader
    { w with reader := reader }.handWide i charLength (lengthValue + 1) bindLength isNull buffer indicator
  if lengthValue = 0 then
    w.handWide i 0 (lengthValue + 1) bindLength isNull (buffer.set 0 0) indicator
  else
    let charLength := env.charset.mbstrCharLen 0 (clientValue.take left)
    let required := 2 * (charLength + 1)
    if buffer.isEmpty then finish w charLength buffer
    else
      let copy := env.charset.setString (if buffer.length < required then required else buffer.length)
        clientValue left
      let w := { w with reader := { w.reader with error := copy.error } }
      if !copy.error.returnValue.succeeded then ⟨copy.error.returnValue, buffer, indicator, w.setInternal i none⟩
      else if buffer.length < required then
        finish (w.setInternal i (some (overwrite (List.replicate required 0) copy.units))) copy.length buffer
      else finish w copy.length (overwrite buffer copy.units)

/-- `MADB_StmtGetData` with a target of wide characters. -/
def stmtGetWide (i : Nat) (buffer : List UInt16) (indicator : Option Int) : WideGot :=
  let w := { w with reader := { w.reader with error := clear } }
  if !w.reader.bound then w.fail .errHY109 buffer indicator
  else if (w.reader.binds i).isNull then
    match indicator with
    | none => w.fail .err22002 buffer none
    | some _ => ⟨.success, buffer, some sqlNullData, w⟩
  else
    match w.internalBuffer i with
    | none =>
      let clientValue := List.replicate ((w.reader.binds i).lengthValue + 1) 0
      match w.reader.fetchColumnCsps env.read i (w.reader.charOffset i) clientValue with
      | .wrongState =>
        let refused := w.reader.refuse [] indicator
        ⟨refused.ret, buffer, refused.indicator, { w with reader := refused.reader }⟩
      | .null => w.convertWide env i clientValue 0 true buffer indicator
      | .read clientValue length => w.convertWide env i clientValue length false buffer indicator
    | some units =>
      w.handWide i (sqlwcsLenAt (units.drop (w.reader.charOffset i / 2))) 0 0 false buffer indicator

/-- `SQLGetData` with a target of wide characters. -/
def sqlGetWide (i : Nat) (buffer : List UInt16) (indicator : Option Int) : WideGot :=
  let w := { w with reader := { w.reader with error := clear } }
  if 0 < w.reader.charOffset i ∧ w.reader.lengths i ≤ w.reader.charOffset i then
    ⟨.noData, buffer, indicator, w⟩
  else
    let w := if w.reader.lastColumn = some i then w
      else { w.setInternal i none with reader := w.reader.setCharOffset i 0 }
    { w with reader := { w.reader with lastColumn := some i } }.stmtGetWide env i buffer indicator

end WideReader

/-! ### What the calls are for -/

/-- A call of `SQLGetData`, with the buffer and the indicator as the application hands them in. -/
structure WideCall where
  buffer : List UInt16
  indicator : Int := 0
  deriving DecidableEq, Repr

structure WidePiece where
  ret : SqlReturn
  sqlState : Text
  units : List UInt16
  indicator : Option Int
  deriving DecidableEq, Repr

namespace WideCall

/-- How many units fit into the buffer with a terminating 0. -/
def room (call : WideCall) : Nat := call.buffer.length - 1

/-- **What a call hands over** of what is left of a string, and what it leaves. -/
def handOver (call : WideCall) : Option (List UInt16) → WidePiece × Option (List UInt16)
  | none => (⟨.noData, lit "00000", [], some call.indicator⟩, none)
  | some left =>
    if call.room < left.length then
      (⟨.successWithInfo, lit "01004", left.take call.room, some ((left.length * 2 : Nat) : Int)⟩,
        some (left.drop call.room))
    else (⟨.success, lit "00000", left, some ((left.length * 2 : Nat) : Int)⟩, none)

def handOvers : Option (List UInt16) → List WideCall → List WidePiece
  | _, [] => []
  | left, call :: calls => (call.handOver left).1 :: handOvers (call.handOver left).2 calls

theorem indicator_handOver (call : WideCall) (left : List UInt16) :
    (call.handOver (some left)).1.indicator = some ((left.length * 2 : Nat) : Int) := by
  rw [handOver]
  split
  · rfl
  · rfl

theorem handOvers_none (calls : List WideCall) : (handOvers none calls).flatMap (·.units) = [] := by
  induction calls with
  | nil => rfl
  | cons call calls ih =>
    rw [handOvers, flatMap_cons]
    exact ih

theorem handOvers_concat (left : List UInt16) (calls : List WideCall) :
    let pieces := handOvers (some left) calls
    pieces.flatMap (·.units) <+: left ∧
      ((∃ piece ∈ pieces, piece.ret = .success) → pieces.flatMap (·.units) = left) := by
  dsimp only
  induction calls generalizing left with
  | nil =>
    refine ⟨ nil_prefix, fun last => ?_⟩
    obtain ⟨piece, member, -⟩ := last
    exact absurd member not_mem_nil
  | cons call calls ih =>
    rw [handOvers, handOver]
    split
    · obtain ⟨start, whole⟩ := ih (left.drop call.room)
      rw [flatMap_cons]
      constructor
      · refine ((prefix_append_right_inj (left.take call.room)).mpr start).trans ?_
        rw [take_append_drop]
      · rintro ⟨piece, member, success⟩
        rcases mem_cons.mp member with rfl | later
        · cases success
        · rw [whole ⟨piece, later, success⟩]
          exact take_append_drop _ _
    · rw [flatMap_cons, handOvers_none, append_nil]
      exact ⟨prefix_refl left, fun _ => rfl⟩

end WideCall

open WideCall

/-- What the application sees of a call: the units are as many of the buffer as it has room for, or as the
indicator says. -/
def WideGot.piece (got : WideGot) (call : WideCall) : WidePiece :=
  { ret := got.ret
    sqlState := got.reader.reader.error.sqlState
    units := if got.ret = .noData then []
      else got.buffer.take (min call.room ((got.indicator.getD 0).toNat / 2))
    indicator := got.indicator }

namespace WideReader

variable (env : WideEnv)

def getWide (w : WideReader) (i : Nat) (call : WideCall) : WideGot :=
  w.sqlGetWide env i call.buffer (some call.indicator)

def getWides (i : Nat) : WideReader → List WideCall → List WidePiece
  | _, [] => []
  | w, call :: calls =>
    (w.getWide env i call).piece call :: getWides i (w.getWide env i call).reader calls

/-- The handle behind `MADB_StmtFetch`, which frees the buffers of the IRD. -/
def fetched (r : RowReader) (pointer : List Row) : WideReader :=
  { reader := (r.round env.read pointer).finishFetch }

variable {env} {w : WideReader} {i : Nat} {text : Text} {chars : List Char}

/-! ### One piece -/

theorem handWide_indicator (i charLength bindBufferLength bindLength : Nat) (buffer : List UInt16)
    (indicator : Int) :
    (w.handWide i charLength bindBufferLength bindLength false buffer (some indicator)).indicator =
      some ((charLength * 2 : Nat) : Int) := by
  rw [handWide, Option.map_some]
  dsimp only
  generalize (match w.internalBuffer i with
    | none => buffer
    | some units => _) = buffer'
  split
  · rfl
  · split
    · rfl
    · rfl

theorem internalBuffer_setInternal (w : WideReader) (i : Nat) (units : Option (List UInt16)) :
    (w.setInternal i units).internalBuffer i = units := by
  show Function.update w.internalBuffer i units i = units
  rw [Function.update_self]

variable {buffer data left units : List UInt16}

theorem take_overwrite {count : Nat} (short : count ≤ data.length) :
    (overwrite buffer data).take count = data.take count := by
  rw [overwrite, take_append_of_le_length short]

theorem length_overwrite (fits : data.length ≤ buffer.length) :
    (overwrite buffer data).length = buffer.length := by
  rw [overwrite, length_append, length_drop]
  omega

/-- Where a call finds the units that are left: in the internal buffer, or in the buffer of the application,
where they have been written. -/
def Finds (w : WideReader) (i : Nat) (buffer left : List UInt16) : Prop :=
  match w.internalBuffer i with
  | none => buffer.take left.length = left ∧ left.length < buffer.length
  | some units => (units.drop (w.reader.charOffset i / 2)).take left.length = left

/-- **A piece**, with the number of units that are left. -/
theorem handWide_spec (finds : w.Finds i buffer left) (nonempty : buffer ≠ [])
    (clear : w.reader.error = clear) {bindBufferLength : Nat}
    (marks : 0 < w.reader.lengths i ∨ 0 < bindBufferLength) (bindLength : Nat) (indicator : Int) :
    let got := w.handWide i left.length bindBufferLength bindLength false buffer (some indicator)
    let room := buffer.length - 1
    got.buffer.take (min room left.length) = left.take room ∧
      SameRow w.reader got.reader.reader ∧
      got.reader.reader.lastColumn = w.reader.lastColumn ∧
      if room < left.length then
        got.ret = .successWithInfo ∧ got.reader.reader.error.sqlState = lit "01004" ∧
          got.reader.reader.charOffset i = w.reader.charOffset i + 2 * room ∧
          got.reader.reader.lengths = w.reader.lengths ∧ got.reader.internalBuffer = w.internalBuffer
      else
        got.ret = .success ∧ got.reader.reader.error.sqlState = lit "00000" ∧
          0 < got.reader.reader.charOffset i ∧ got.reader.reader.lengths i ≤ got.reader.reader.charOffset i := by
  have given : ¬ buffer.isEmpty = true := by
    rw [List.isEmpty_iff]
    exact nonempty
  have size : 0 < buffer.length := length_pos_of_ne_nil nonempty
  dsimp only
  obtain ⟨buffer', written⟩ : ∃ buffer', buffer' = match w.internalBuffer i with
    | none => buffer
    | some units =>
      overwrite buffer
        ((units.drop (w.reader.charOffset i / 2)).take (min (buffer.length - 1) left.length) ++ [0]) :=
    ⟨_, rfl⟩
  have copied : buffer'.length = buffer.length ∧
      buffer'.take (min (buffer.length - 1) left.length) = left.take (buffer.length - 1) := by
    rw [written]
    rw [Finds] at finds
    cases internal : w.internalBuffer i with
    | none =>
      rw [internal] at finds
      obtain ⟨start, short⟩ := finds
      refine ⟨rfl, ?_⟩
      rw [Nat.min_eq_right (by omega), start, take_of_length_le (by omega)]
    | some units =>
      rw [internal] at finds
      have piece : (units.drop (w.reader.charOffset i / 2)).take (min (buffer.length - 1) left.length) =
          left.take (buffer.length - 1) := by
        rw [← take_take, finds]
      have count : (left.take (buffer.length - 1)).length = min (buffer.length - 1) left.length :=
        length_take
      dsimp only
      rw [piece]
      constructor
      · rw [length_overwrite (by rw [length_append, count, length_singleton]; omega)]
      · rw [take_overwrite (by rw [length_append, count]; omega), ← count, take_left]
  obtain ⟨length, data⟩ := copied
  have called : w.handWide i left.length bindBufferLength bindLength false buffer (some indicator) =
      if buffer'.length ≤ left.length then
        { w with reader := w.reader.setCharOffset i (w.reader.charOffset i + 2 * (buffer'.length - 1)) }.fail
          .err01004 buffer' (some ((left.length * 2 : Nat) : Int))
      else
        let got := (w.reader.setCharOffset i (w.reader.lengths i)).finishGet i bindBufferLength bindLength
          false false [] (some ((left.length * 2 : Nat) : Int))
        ⟨got.ret, buffer', got.indicator, { w.setInternal i none with reader := got.reader }⟩ := by
    rw [written, handWide, if_neg given]
    rfl
  rw [called, length]
  by_cases more : buffer.length - 1 < left.length
  · rw [if_pos (by omega), if_pos more]
    exact ⟨data, ⟨rfl, rfl, rfl, rfl⟩, rfl, rfl, rfl, w.reader.charOffset_setCharOffset i _, rfl, rfl⟩
  · have place := w.reader.charOffset_setCharOffset i (w.reader.lengths i)
    have moved : SameRow w.reader (w.reader.setCharOffset i (w.reader.lengths i)) :=
      ⟨rfl, rfl, rfl, rfl⟩
    obtain ⟨last, lengths, ret, state, positive, reached⟩ := finishGet_spec
      (r := w.reader.setCharOffset i (w.reader.lengths i)) clear (Nat.le_of_eq place.symm) marks bindLength []
      (some ((left.length * 2 : Nat) : Int))
    rw [if_neg (by omega), if_neg more]
    exact ⟨data, moved.trans (sameRow_finishGet _ _ _ _ _ _), last, ret, state, positive,
      Nat.le_trans (Nat.le_of_eq (congrFun lengths i)) reached⟩

/-! ### The first call -/

/-- The handle stands on a row with a text in a column, whose length is in the record of the column itself. -/
structure WideHolds (w : WideReader) (i : Nat) (text : Text) : Prop extends Holds w.reader i text where
  own : (w.reader.binds i).lengthValue = text.length

theorem WideHolds.of_same {w' : WideReader} (holds : WideHolds w i text)
    (same : SameRow w.reader w'.reader) : WideHolds w' i text := by
  refine ⟨holds.toHolds.of_same same, ?_⟩
  rw [same.binds, holds.own]

theorem convertText_whole (env : ReadEnv) (text : Text) :
    convertText (byteAt env text) text.length 0 (replicate (text.length + 1) 0) =
      text ++ [0] := by
  have bytes : (range text.length).map (fun j => byteAt env text (0 + j)) = text := by
    rw [map_byteAt (by omega), drop_zero, take_length]
  have rest : (replicate (text.length + 1) (0 : UInt8)).drop text.length = [0] := by
    rw [drop_replicate, Nat.add_sub_cancel_left]
    rfl
  rw [convertText, if_pos (Nat.zero_le _), length_replicate, Nat.sub_zero,
    Nat.min_eq_left (Nat.le_succ _)]
  dsimp only
  rw [bytes, rest, if_pos (Nat.lt_succ_self _), set_append_right _ _ (Nat.le_refl _), Nat.sub_self]
  rfl

def counted (chars : List Char) : Nat := sqlwcsCharLen (utf16 (untilNul chars) ++ [0])

variable (env) in
/-- **The first call** converts the text up to its first character 0, and hands over a piece. -/
theorem stmtGetWide_first (holds : WideHolds w i (utf8 chars))
    (plain : (env.read.info i).fieldType ≠ .bit) (fresh : w.internalBuffer i = none)
    (start : w.reader.charOffset i = 0) (unread : w.reader.lengths i = 0) (nonempty : buffer ≠ [])
    (indicator : Option Int) :
    ∃ w' : WideReader, ∃ buffer', w.stmtGetWide env i buffer indicator =
        w'.handWide i (counted chars) ((utf8 chars).length + 1) (utf8 chars).length false buffer' indicator ∧
      SameRow w.reader w'.reader ∧ w'.reader.lastColumn = w.reader.lastColumn ∧
      w'.reader.charOffset i = 0 ∧ w'.reader.lengths i = counted chars * 2 ∧
      w'.reader.error = clear ∧ buffer'.length = buffer.length ∧
      match w'.internalBuffer i with
      | none => (utf16 (untilNul chars)).length < buffer.length ∧
          buffer' = overwrite buffer (utf16 (untilNul chars) ++ [0])
      | some units => ∃ padding, units = utf16 (untilNul chars) ++ 0 :: padding := by
  obtain ⟨v, started⟩ : ∃ v : WideReader, v = { w with reader := { w.reader with error := clear } } :=
    ⟨_, rfl⟩
  have same : SameRow w.reader v.reader := by
    rw [started]
    exact ⟨rfl, rfl, rfl, rfl⟩
  have keeps : v.internalBuffer i = none ∧ v.reader.charOffset i = 0 ∧ v.reader.lengths i = 0 ∧
      v.reader.error = clear ∧ v.reader.lastColumn = w.reader.lastColumn := by
    rw [started]
    exact ⟨fresh, start, unread, rfl, rfl⟩
  obtain ⟨fresh', start', unread', clear, last⟩ := keeps
  have holds' : WideHolds v i (utf8 chars) := holds.of_same same
  have given : ¬ buffer.isEmpty = true := by
    rw [List.isEmpty_iff]
    exact nonempty
  have size : 0 < buffer.length := length_pos_of_ne_nil nonempty
  have called : w.stmtGetWide env i buffer indicator =
      v.convertWide env i (utf8 chars ++ [0]) (utf8 chars).length false buffer indicator := by
    have points := holds'.toPointsTo
    rw [started] at points ⊢
    unfold stmtGetWide
    dsimp only
    rw [if_neg (by rw [holds.bound]; exact Bool.false_ne_true),
      if_neg (by rw [holds.notNull]; exact Bool.false_ne_true), fresh]
    dsimp only
    rw [fetchColumnCsps_read points, valueAt_plain plain, holds.length, holds.own, start,
      convertText_whole]
  rw [called, convertWide]
  dsimp only
  rw [holds'.own, start', Nat.sub_zero]
  by_cases empty : (utf8 chars).length = 0
  · have nothing : chars = [] := utf8_eq_nil (eq_nil_of_length_eq_zero empty)
    rw [if_pos empty]
    refine ⟨v, buffer.set 0 0, ?_, same, last, start', ?_, clear, length_set, ?_⟩
    · rw [nothing]
      rfl
    · rw [unread', nothing]
      rfl
    · rw [fresh', nothing]
      refine ⟨size, ?_⟩
      cases buffer with
      | nil => exact absurd rfl nonempty
      | cons unit buffer => rfl
  · have characters : env.charset.mbstrCharLen 0 ((utf8 chars ++ [0]).take (utf8 chars).length) =
        (untilNul chars).length := by
      rw [take_left, mbstrCharLen_utf8]
    have most := length_utf16_le (untilNul chars)
    have width : (utf16 (untilNul chars) ++ [0]).length = (utf16 (untilNul chars)).length + 1 :=
      length_append
    rw [if_neg empty, characters, if_neg given, setString_utf8 (cstr_utf8 chars []) empty (by split <;> omega),
      if_neg (show ¬ (!Diag.clear.returnValue.succeeded) = true by decide)]
    obtain ⟨reader, known⟩ : ∃ reader : RowReader, reader =
      { v.reader with error := Diag.clear }.setLengths i (counted chars * 2) := ⟨_, rfl⟩
    have kept : SameRow w.reader reader ∧ reader.lastColumn = w.reader.lastColumn ∧
        reader.charOffset i = 0 ∧ reader.lengths i = counted chars * 2 ∧ reader.error = Diag.clear := by
      rw [known]
      exact ⟨⟨same.hasResult, same.bound, same.fetching, same.binds⟩, last, start',
        Function.update_self i _ _, rfl⟩
    obtain ⟨same', last', start'', lengths, clear'⟩ := kept
    by_cases large : buffer.length < 2 * ((untilNul chars).length + 1)
    · obtain ⟨padding, zeros⟩ : ∃ padding, replicate (2 * ((untilNul chars).length + 1)) (0 : UInt16) =
          replicate ((utf16 (untilNul chars)).length + 1) 0 ++ padding := by
        refine ⟨replicate (2 * ((untilNul chars).length + 1) - ((utf16 (untilNul chars)).length + 1)) 0, ?_⟩
        rw [← replicate_add, Nat.add_sub_cancel' (by omega)]
      have internal : overwrite (replicate (2 * ((untilNul chars).length + 1)) 0)
          (utf16 (untilNul chars) ++ [0]) = utf16 (untilNul chars) ++ 0 :: padding := by
        rw [overwrite, width, zeros, drop_left' length_replicate, append_assoc]
        rfl
      refine ⟨{ v.setInternal i (some (utf16 (untilNul chars) ++ 0 :: padding)) with reader := reader }, buffer,
        ?_, same', last', start'', lengths, clear', rfl, ?_⟩
      · rw [if_pos large, ← internal, known]
        simp only [setInternal, start', ↓reduceIte]
        rfl
      · show (match (v.setInternal i (some (utf16 (untilNul chars) ++ 0 :: padding))).internalBuffer i with
          | none => _
          | some units => ∃ padding, units = utf16 (untilNul chars) ++ 0 :: padding)
        rw [internalBuffer_setInternal]
        exact ⟨padding, rfl⟩
    · refine ⟨{ v with reader := reader }, overwrite buffer (utf16 (untilNul chars) ++ [0]), ?_, same', last',
        start'', lengths, clear', length_overwrite (by omega), ?_⟩
      · rw [if_neg large, known]
        simp only [↓reduceIte]
        rfl
      · show (match v.internalBuffer i with
          | none => (utf16 (untilNul chars)).length < buffer.length ∧ _
          | some units => _)
        rw [fresh']
        exact ⟨by omega, rfl⟩

/-! ### A call -/

/-- How far the handle has come with a column: what is left of its string, if there is anything to come. -/
def WideReads (w : WideReader) (i : Nat) (units : List UInt16) : Option (List UInt16) → Prop
  | none => 0 < w.reader.charOffset i ∧ w.reader.lengths i ≤ w.reader.charOffset i
  | some left =>
    (w.internalBuffer i = none ∧ w.reader.charOffset i = 0 ∧ w.reader.lengths i = 0 ∧ left = units) ∨
    ∃ passed padding, w.internalBuffer i = some (units ++ 0 :: padding) ∧ w.reader.lastColumn = some i ∧
      w.reader.charOffset i = 2 * passed ∧ w.reader.lengths i = units.length * 2 ∧ 0 < passed ∧
      passed < units.length ∧ left = units.drop passed

variable (env) in
theorem getWide_going (reads : WideReads w i units (some left)) (call : WideCall) :
    ∃ w' : WideReader, w.getWide env i call = w'.stmtGetWide env i call.buffer (some call.indicator) ∧
      SameRow w.reader w'.reader ∧ w'.reader.lastColumn = some i ∧
      WideReads w' i units (some left) := by
  have going : ¬ (0 < w.reader.charOffset i ∧ w.reader.lengths i ≤ w.reader.charOffset i) := by
    rcases reads with ⟨-, zero, -, -⟩ | ⟨passed, padding, -, -, offset, lengths, -, within, -⟩
    · omega
    · omega
  obtain ⟨v, started⟩ : ∃ v : WideReader, v = { w with reader := { w.reader with error := clear } } :=
    ⟨_, rfl⟩
  obtain ⟨u, moved⟩ : ∃ u : WideReader, u = if v.reader.lastColumn = some i then v
    else { v.setInternal i none with reader := v.reader.setCharOffset i 0 } := ⟨_, rfl⟩
  have called : w.getWide env i call =
      { u with reader := { u.reader with lastColumn := some i } }.stmtGetWide env i call.buffer
        (some call.indicator) := by
    rw [getWide, sqlGetWide, moved, started]
    exact if_neg going
  refine ⟨_, called, ?_, rfl, ?_⟩
  · rw [moved, started]
    split
    · exact ⟨rfl, rfl, rfl, rfl⟩
    · exact ⟨rfl, rfl, rfl, rfl⟩
  · rcases reads with ⟨fresh, zero, unread, all⟩ | ⟨passed, padding, internal, last, later⟩
    · refine Or.inl ?_
      rw [moved, started]
      split
      · exact ⟨fresh, zero, unread, all⟩
      · exact ⟨internalBuffer_setInternal _ i none, Function.update_self i 0 _, unread, all⟩
    · refine Or.inr ⟨passed, padding, ?_⟩
      rw [moved, started, if_pos last]
      exact ⟨internal, rfl, later⟩

theorem sqlwcsLenAt_terminated (nulFree : 0 ∉ units) (padding : List UInt16) :
    sqlwcsLenAt (units ++ 0 :: padding) = units.length := by
  have plain : ∀ unit ∈ units, (unit != 0) = true := by
    intro unit member
    rw [bne_iff_ne]
    rintro rfl
    exact nulFree member
  rw [sqlwcsLenAt, takeWhile_append_of_pos plain]
  exact congrArg length (append_nil units)

/-- The units of the text are counted right. -/
structure Steady (chars : List Char) : Prop where
  nulFree : nulChar ∉ chars
  heads : ∀ unit ∈ (utf16 chars).dropLast, utf16HighHead unit = false

theorem Steady.counted_eq (steady : Steady chars) : counted chars = (utf16 chars).length := by
  have nonzero : 0 ∉ utf16 chars := fun member => steady.nulFree (zero_mem_utf16.mp member)
  rw [counted, untilNul_of_not_mem steady.nulFree]
  exact (sqlwcsCharLen_eq_iff nonzero).mpr steady.heads

variable {call : WideCall}

section

variable (holds : WideHolds w i (utf8 chars)) (plain : (env.read.info i).fieldType ≠ .bit)

include holds plain

theorem getWide_finds (steady : Steady chars) (fits : 2 ≤ call.buffer.length)
    (reads : WideReads w i (utf16 chars) (some left)) :
    ∃ v : WideReader, ∃ buffer bindBufferLength bindLength,
      w.getWide env i call =
        v.handWide i left.length bindBufferLength bindLength false buffer (some call.indicator) ∧
      SameRow w.reader v.reader ∧ v.reader.lastColumn = some i ∧ v.reader.error = clear ∧
      buffer.length = call.buffer.length ∧ v.Finds i buffer left ∧
      (0 < v.reader.lengths i ∨ 0 < bindBufferLength) ∧
      (call.room < left.length → ∃ passed padding, v.internalBuffer i = some (utf16 chars ++ 0 :: padding) ∧
        v.reader.charOffset i = 2 * passed ∧ v.reader.lengths i = (utf16 chars).length * 2 ∧
        left = (utf16 chars).drop passed) := by
  have nonzero : 0 ∉ utf16 chars := fun member => steady.nulFree (zero_mem_utf16.mp member)
  obtain ⟨w', called, same, last, reads'⟩ := getWide_going env reads call
  have holds' : WideHolds w' i (utf8 chars) := holds.of_same same
  have room : call.buffer ≠ [] := ne_nil_of_length_pos (by omega)
  rcases reads' with ⟨fresh, start, unread, all⟩ | ⟨passed, padding, internal, -, offset, lengths, some, within, rest⟩
  · obtain ⟨v, buffer, converted, same', last', start', lengths', clear, size, found⟩ :=
      stmtGetWide_first env holds' plain fresh start unread room (Option.some call.indicator)
    rw [steady.counted_eq] at converted lengths'
    rw [untilNul_of_not_mem steady.nulFree] at found
    refine ⟨v, buffer, (utf8 chars).length + 1, (utf8 chars).length, called.trans ?_, same.trans same',
      last'.trans last, clear, size, ?_, Or.inr (Nat.succ_pos _), ?_⟩
    · rw [converted, all]
    · rw [Finds, all]
      cases place : v.internalBuffer i with
      | none =>
        rw [place] at found
        obtain ⟨short, written⟩ := found
        refine ⟨?_, size ▸ short⟩
        rw [written, take_overwrite (by rw [length_append]; omega), take_left]
      | some units =>
        rw [place] at found
        obtain ⟨padding, held⟩ := found
        show (units.drop (v.reader.charOffset i / 2)).take (utf16 chars).length = utf16 chars
        rw [start', held]
        exact take_left
    · intro more
      cases place : v.internalBuffer i with
      | none =>
        rw [place] at found
        obtain ⟨short, -⟩ := found
        rw [WideCall.room, all] at more
        omega
      | some units =>
        rw [place] at found
        obtain ⟨padding, held⟩ := found
        exact ⟨0, padding, congrArg Option.some held, start', lengths', all⟩
  · have half : w'.reader.charOffset i / 2 = passed := by
      rw [offset]
      exact Nat.mul_div_cancel_left _ (by decide)
    have behind : (utf16 chars ++ 0 :: padding).drop passed = left ++ 0 :: padding := by
      rw [drop_append_of_le_length (Nat.le_of_lt within), rest]
    have nulFree : 0 ∉ left := by
      rw [rest]
      exact fun member => nonzero (mem_of_mem_drop member)
    refine ⟨{ w' with reader := { w'.reader with error := clear } }, call.buffer, 0, 0, called.trans ?_,
      ⟨same.hasResult, same.bound, same.fetching, same.binds⟩, last, rfl, rfl, ?_, Or.inl ?_, fun _ => ?_⟩
    · unfold stmtGetWide
      dsimp only
      rw [if_neg (by rw [holds'.bound]; exact Bool.false_ne_true),
        if_neg (by rw [holds'.notNull]; exact Bool.false_ne_true), internal]
      dsimp only
      rw [half, behind, sqlwcsLenAt_terminated nulFree]
    · rw [Finds]
      dsimp only
      rw [internal, half]
      show ((utf16 chars ++ 0 :: padding).drop passed).take left.length = left
      rw [behind]
      exact take_left
    · show 0 < w'.reader.lengths i
      omega
    · exact ⟨passed, padding, internal, offset, lengths, rest⟩

/-- **A call hands over a piece** of a text whose units are counted right. -/
theorem getWide_handsOver (steady : Steady chars) (fits : 2 ≤ call.buffer.length)
    {left : Option (List UInt16)} (reads : WideReads w i (utf16 chars) left) :
    let got := w.getWide env i call
    got.piece call = (call.handOver left).1 ∧ WideHolds got.reader i (utf8 chars) ∧
      WideReads got.reader i (utf16 chars) (call.handOver left).2 := by
  dsimp only
  cases left with
  | none =>
    have ended : w.getWide env i call = ⟨.noData, call.buffer, some call.indicator,
        { w with reader := { w.reader with error := clear } }⟩ := if_pos reads
    rw [ended]
    exact ⟨rfl, holds.of_same ⟨rfl, rfl, rfl, rfl⟩, reads⟩
  | some left =>
    obtain ⟨v, buffer, bindBufferLength, bindLength, called, same, last, clear, size, finds, marks, progress⟩ :=
      getWide_finds holds plain steady fits reads
    have told := handWide_indicator (w := v) i left.length bindBufferLength bindLength buffer call.indicator
    obtain ⟨data, same', last', outcome⟩ :=
      handWide_spec finds (ne_nil_of_length_pos (by omega)) clear marks bindLength call.indicator
    rw [← called] at told data same' last' outcome
    rw [size, ← room] at data outcome
    have kept : WideHolds (w.getWide env i call).reader i (utf8 chars) :=
      (holds.of_same same).of_same same'
    have half : ((some ((left.length * 2 : Nat) : Int)).getD 0).toNat / 2 = left.length :=
      Nat.mul_div_cancel _ (by decide)
    rw [handOver, WideGot.piece, told, half, data]
    by_cases more : call.room < left.length
    · rw [if_pos more] at outcome ⊢
      obtain ⟨ret, state, offset, lengths, internal⟩ := outcome
      obtain ⟨passed, padding, held, start, total, rest⟩ := progress more
      have some : 0 < call.room := by
        rw [room]
        omega
      have within : left.length = (utf16 chars).length - passed := by
        rw [rest, length_drop]
      rw [ret, state, if_neg (by decide)]
      refine ⟨rfl, kept, Or.inr ⟨passed + call.room, padding, ?_, last'.trans last, ?_, ?_, ?_, ?_, ?_⟩⟩
      · rw [internal, held]
      · rw [offset, start]
        omega
      · rw [lengths, total]
      · omega
      · omega
      · rw [rest, drop_drop]
    · rw [if_neg more] at outcome ⊢
      obtain ⟨ret, state, positive, finished⟩ := outcome
      rw [ret, state, if_neg (by decide), take_of_length_le (Nat.not_lt.mp more)]
      exact ⟨rfl, kept, positive, finished⟩

theorem getWide_indicator
    (fresh : w.internalBuffer i = none ∧ w.reader.charOffset i = 0 ∧ w.reader.lengths i = 0)
    (call : WideCall) (room : call.buffer ≠ []) :
    (w.getWide env i call).indicator = some ((counted chars * 2 : Nat) : Int) := by
  have reads : WideReads w i (utf16 chars) (some (utf16 chars)) := Or.inl ⟨fresh.1, fresh.2.1, fresh.2.2, rfl⟩
  obtain ⟨w', called, same, -, reads'⟩ := getWide_going env reads call
  rcases reads' with ⟨fresh, start, unread, -⟩ | ⟨passed, -, -, -, -, -, positive, within, all⟩
  · obtain ⟨v, buffer, converted, -⟩ :=
      stmtGetWide_first env (holds.of_same same) plain fresh start unread room (some call.indicator)
    rw [called, converted, handWide_indicator]
  · have length := congrArg length all
    rw [length_drop] at length
    omega

end

/-! ### Calls one after another -/

theorem getWides_eq (holds : WideHolds w i (utf8 chars)) (plain : (env.read.info i).fieldType ≠ .bit)
    (steady : Steady chars) {calls : List WideCall} (fits : ∀ call ∈ calls, 2 ≤ call.buffer.length)
    {left : Option (List UInt16)} (reads : WideReads w i (utf16 chars) left) :
    getWides env i w calls = handOvers left calls := by
  induction calls generalizing w left with
  | nil => rfl
  | cons call calls ih =>
    obtain ⟨piece, holds', reads'⟩ := getWide_handsOver holds plain steady (fits call mem_cons_self) reads
    rw [getWides, handOvers, piece,
      ih holds' (fun later member => fits later (mem_cons_of_mem call member)) reads']

/-- **The string arrives**: whatever buffers the calls have, each hands over what there is room for, with twice
the number of units that were left before it, and the pieces are the units of the text. -/
def DeliversWide (env : WideEnv) (w : WideReader) (i : Nat) (chars : List Char) : Prop :=
  ∀ calls : List WideCall, (∀ call ∈ calls, 2 ≤ call.buffer.length) →
    let pieces := getWides env i w calls
    pieces = handOvers (some (utf16 chars)) calls ∧ pieces.flatMap (·.units) <+: utf16 chars ∧
      ((∃ piece ∈ pieces, piece.ret = .success) → pieces.flatMap (·.units) = utf16 chars)

variable {r : RowReader} {row : Row} {rest : List Row}

theorem own_receive {bind : ColumnBind} (own : bind.lengthShared = false) (info : ColumnInfo) (text : Text) :
    ((bind.prepareBind info none).bindResult.receive info (some text)).lengthShared = false := by
  have set : ∀ (bind : ColumnBind) (length : Nat), (bind.setLength length).lengthShared = bind.lengthShared := by
    intro bind length
    rw [ColumnBind.setLength]
    split
    · rfl
    · rfl
  have bound : (bind.prepareBind info none).bindResult.lengthShared = false := by
    rw [ColumnBind.bindResult]
    dsimp only
    split
    · exact own
    · rw [set]
      exact own
  rw [ColumnBind.receive]
  dsimp only
  split
  · rw [set]
    exact bound
  · exact bound

theorem wideHolds_fetched (unbound : env.read.ard i = none) (own : (r.binds i).lengthShared = false)
    (value : row.value i = some text) : WideHolds (fetched env r (row :: rest)) i text := by
  have keeps : env.read.KeepsLength i text := by
    intro ardType bound
    rw [unbound] at bound
    cases bound
  have length : ((r.round env.read (row :: rest)).binds i).length = text.length :=
    (length_round_iff rest value).mpr keeps
  refine ⟨⟨pointsTo_round value, length⟩, ?_⟩
  have shared : ((r.round env.read (row :: rest)).binds i).lengthShared = false := by
    rw [binds_round value, unbound]
    exact own_receive own _ _
  rw [ColumnBind.length, shared] at length
  exact length

end WideReader

end MaOdbc
