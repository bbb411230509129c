/-
**Character and binary parameters become the literals of their values.**

`backslashEscaping` is what libmariadb writes for the bytes of a value while backslashes are escapes, and what the
server reads in a literal; it meets the assumptions on escaping.

`insertParam_literal_iff` says when the literal is right: the one exception are terminated strings whose length the
32-bit counter of `SafeStrlen` does not hold, yet turns into another length that is not negative.
-/

import MaOdbc.Library.Segments
import MaOdbc.Library.Tuples
import MaOdbc.Param.InsertParam

namespace MaOdbc

open List

/-- The letter that stands behind a backslash for a byte that must not stand for itself. -/
def escapeLetter (byte : Byte) : Option Byte :=
  if byte = 0 then some (ch '0')
  else if byte = 10 then some (ch 'n')
  else if byte = 13 then some (ch 'r')
  else if byte = 26 then some (ch 'Z')
  else if byte = ch '\\' ∨ byte = ch '\'' ∨ byte = ch '"' then some byte
  else none

/-- A byte as `mysql_real_escape_string` writes it. -/
def escapeByte (byte : Byte) : Text :=
  match escapeLetter byte with
  | some letter => [ch '\\', letter]
  | none => [byte]

def unescapeByte (byte : Byte) : Text :=
  if byte = ch '0' then [0]
  else if byte = ch 'n' then [10]
  else if byte = ch 'r' then [13]
  else if byte = ch 'Z' then [26]
  else if byte = ch 't' then [9]
  else if byte = ch 'b' then [8]
  else if byte = ch '%' ∨ byte = ch '_' then [ch '\\', byte]
  else [byte]

/-- What the server reads between the quotes of one literal: a doubled quote is one quote, and a single
one would end the literal. -/
def decodeLiteral : Text → Option Text
  | [] => some []
  | [byte] => if byte = ch '\\' ∨ byte = ch '\'' then none else some [byte]
  | byte :: next :: text =>
    if byte = ch '\\' then (decodeLiteral text).map (unescapeByte next ++ ·)
    else if byte = ch '\'' then
      if next = ch '\'' then (decodeLiteral text).map (byte :: ·) else none
    else (decodeLiteral (next :: text)).map (byte :: ·)

theorem decodeLiteral_plain {byte : Byte} (notEscape : byte ≠ ch '\\') (notQuote : byte ≠ ch '\'')
    (text : Text) : decodeLiteral (byte :: text) = (decodeLiteral text).map (byte :: ·) := by
  cases text with
  | nil =>
    exact if_neg fun either => either.elim notEscape notQuote
  | cons next text => rw [decodeLiteral, if_neg notEscape, if_neg notQuote]

theorem decodeLiteral_escapeByte (byte : Byte) (text : Text) :
    decodeLiteral (escapeByte byte ++ text) = (decodeLiteral text).map (byte :: ·) := by
  cases letter : escapeLetter byte with
  | none =>
    have plain : byte ≠ ch '\\' ∧ byte ≠ ch '\'' := by
      constructor <;> (rintro rfl; cases letter)
    rw [escapeByte, letter]
    exact decodeLiteral_plain plain.1 plain.2 text
  | some letter' =>
    have read : unescapeByte letter' = [byte] := by
      simp only [escapeLetter] at letter
      split_ifs at letter with zero newline carriage substitute special
      · cases letter; rw [zero]; rfl
      · cases letter; rw [newline]; rfl
      · cases letter; rw [carriage]; rfl
      · cases letter; rw [substitute]; rfl
      · cases letter
        rcases special with rfl | rfl | rfl <;> rfl
    rw [escapeByte, letter]
    show (decodeLiteral text).map (unescapeByte letter' ++ ·) = _
    rw [read]
    rfl

theorem escapeLetter_ne_zero {byte letter : Byte} (found : escapeLetter byte = some letter) :
    letter ≠ 0 := by
  simp only [escapeLetter] at found
  split_ifs at found with zero newline carriage substitute special
  · cases found; decide
  · cases found; decide
  · cases found; decide
  · cases found; decide
  · cases found
    exact zero

def backslashEscaping : Escaping where
  escape data := data.flatMap escapeByte
  decode := decodeLiteral
  short data := by
    induction data with
    | nil => rfl
    | cons byte data ih =>
      have two : (escapeByte byte).length ≤ 2 := by
        rw [escapeByte]
        split <;> simp
      rw [flatMap_cons, length_append, length_cons]
      omega
  nulFree data := by
    rw [mem_flatMap]
    rintro ⟨byte, -, member⟩
    cases letter : escapeLetter byte with
    | none =>
      rw [escapeByte, letter, mem_singleton] at member
      rw [← member] at letter
      cases letter
    | some letter' =>
      rw [escapeByte, letter] at member
      rcases mem_cons.mp member with nul | nul
      · cases nul
      · exact escapeLetter_ne_zero letter (mem_singleton.mp nul).symm
  decodes data := by
    induction data with
    | nil => rfl
    | cons byte data ih =>
      rw [flatMap_cons, decodeLiteral_escapeByte, ih]
      rfl

open DynString Memory Diag

/-! ### The literal of a value -/

def Escaping.Denotes (escaping : Escaping) (literal value : Text) : Prop :=
  ∃ body, literal = lit "'" ++ body ++ lit "'" ∧ escaping.decode body = some value

theorem Escaping.Denotes.unique {escaping : Escaping} {literal value value' : Text}
    (denotes : escaping.Denotes literal value) (denotes' : escaping.Denotes literal value') :
    value = value' := by
  obtain ⟨body, shape, decoded⟩ := denotes
  obtain ⟨body', shape', decoded'⟩ := denotes'
  rw [shape, append_left_inj, append_right_inj] at shape'
  rw [shape', decoded'] at decoded
  exact (Option.some.inj decoded).symm

section Parameter

variable (context : ParamContext) (apd ipd : DescRecord) (row : Nat)

def ParamContext.lengthPtr : Option Nat := getBindOffset context.apdHeader apd.octetLengthPtr row 8

def ParamContext.valuePtr : Option Nat :=
  getBindOffset context.apdHeader apd.dataPtr row apd.octetLength

/-- A value bound to a row: where it stands, and its length or the mark of a terminated string. -/
structure BoundValue where
  lengthPtr : Nat
  address : Nat
  hasLength : context.lengthPtr apd row = some lengthPtr
  hasValue : context.valuePtr apd row = some address
  length : context.memory.cell lengthPtr = sqlNts ∨ 0 ≤ context.memory.cell lengthPtr

variable {context apd row} in
def BoundValue.bytes (bound : BoundValue context apd row) : Text :=
  if context.memory.cell bound.lengthPtr = sqlNts then context.memory.string bound.address
  else context.memory.read bound.address (context.memory.cell bound.lengthPtr).toNat

/-- An input parameter of type `SQL_C_CHAR` or `SQL_C_BINARY` that is neither NULL nor ignored, for a
column that is no bit. -/
structure BytesParam : Prop where
  type : apd.conciseType = .char ∨ apd.conciseType = .binary
  notBit : ipd.type ≠ .bit
  notNull : (getBindOffset context.apdHeader apd.indicatorPtr row 8).map context.memory.cell ≠
    some sqlNullData
  notIgnored : (getBindOffset context.apdHeader apd.indicatorPtr row 8).map context.memory.cell ≠
    some sqlColumnIgnore

/-- **The literal is right**: whenever the parameter is inserted, the query grows by one literal that
denotes the value, and by nothing else. -/
def InsertsLiteral (finalQuery : DynString) (value : Text) : Prop :=
  ∀ error heap ret error' finalQuery' heap',
    insertParam context apd ipd row error finalQuery heap = (.returned ret error' finalQuery', heap') →
      ret.succeeded = true →
        ∃ literal, finalQuery'.str = finalQuery.str ++ literal ∧
          context.escaping.Denotes literal value

variable {context apd ipd row}

def BoundValue.counted (bound : BoundValue context apd row) : Int :=
  if context.memory.cell bound.lengthPtr = sqlNts then
    toSqlInteger (context.memory.string bound.address).length
  else context.memory.cell bound.lengthPtr

def BoundValue.Wraps (bound : BoundValue context apd row) : Prop :=
  context.memory.cell bound.lengthPtr = sqlNts ∧
    2 ^ 31 ≤ (context.memory.string bound.address).length ∧
    (context.memory.string bound.address).length % 2 ^ 32 < 2 ^ 31

/-- The check of a character value for a datetime column lets it pass. -/
def BoundValue.Accepted (bound : BoundValue context apd row) (ipd : DescRecord) : Prop :=
  apd.conciseType = .char → ipd.type = .datetime →
    (context.conversions.datetimeText (some bound.address) bound.counted ipd).returnValue.succeeded =
      true

/-! ### The length -/

variable {n : Nat} {ret : SqlReturn} {error error' : Diag} {texts : List Text}
  {finalQuery finalQuery' : DynString} {heap heap' : Heap}

theorem toSqlInteger_of_lt (low : n % 2 ^ 32 < 2 ^ 31) :
    toSqlInteger n = ((n % 2 ^ 32 : Nat) : Int) := by
  rw [toSqlInteger, Int.bmod]
  omega

theorem toSqlInteger_range (n : Int) : -2 ^ 31 ≤ toSqlInteger n ∧ toSqlInteger n < 2 ^ 31 := by
  rw [toSqlInteger, Int.bmod]
  omega

theorem Memory.read_string (memory : Memory) (address : Nat) :
    memory.read address (memory.string address).length = memory.string address := by
  have part : memory.string address <+: memory.bytes.drop address := takeWhile_prefix _
  refine ext_getElem (by simp [read]) fun i _ inside => ?_
  have byte := part.getElem inside
  rw [getElem_drop] at byte
  have bound : address + i < memory.bytes.length := by
    have le := part.length_le
    rw [length_drop] at le
    omega
  simp [read, byte, bound]

namespace BoundValue

variable (bound : BoundValue context apd row)

theorem counted_lt : bound.counted < 2 ^ 63 := by
  rw [counted]
  split
  · exact Int.lt_trans (toSqlInteger_range _).2 (by decide)
  · exact (context.memory.cells bound.lengthPtr).toInt_lt

theorem counted_nonneg (small : toSize bound.counted < 2 ^ 63) : 0 ≤ bound.counted := by
  by_contra negative
  have low : -2 ^ 31 ≤ bound.counted := by
    rw [counted]
    split
    · exact (toSqlInteger_range _).1
    · rename_i given
      have nonneg := bound.length.resolve_left given
      omega
  rw [toSize] at small
  omega

theorem read_counted (nonneg : 0 ≤ bound.counted) (exact_count : ¬ bound.Wraps) :
    context.memory.read bound.address (toSize bound.counted) = bound.bytes := by
  have size : toSize bound.counted = bound.counted.toNat := by
    have upper := bound.counted_lt
    rw [toSize]
    omega
  rw [size, bytes]
  by_cases nts : context.memory.cell bound.lengthPtr = sqlNts
  · rw [if_pos nts]
    rw [counted, if_pos nts] at nonneg ⊢
    have low : (context.memory.string bound.address).length % 2 ^ 32 < 2 ^ 31 := by
      rw [toSqlInteger, Int.bmod] at nonneg
      omega
    have short : (context.memory.string bound.address).length < 2 ^ 31 := by
      by_contra long
      exact exact_count ⟨nts, Nat.not_lt.mp long, low⟩
    rw [toSqlInteger_of_lt low, Int.toNat_natCast, Nat.mod_eq_of_lt (by omega),
      read_string]
  · rw [if_neg nts, counted, if_neg nts]

end BoundValue

/-! ### The steps of the insertion -/

theorem BoundValue.not_dae (bound : BoundValue context apd row) :
    paramIsDae context.memory (context.lengthPtr apd row) = false := by
  rw [bound.hasLength, paramIsDae, Option.any_some, Bool.or_eq_false_iff]
  have length := bound.length
  constructor
  · rw [beq_eq_false_iff_ne]
    rintro dae
    rw [dae] at length
    revert length
    decide
  · rw [decide_eq_false_iff_not, sqlLenDataAtExecOffset]
    rcases length with nts | given
    · rw [nts, sqlNts]
      omega
    · omega

theorem BoundValue.valueLength_eq (bound : BoundValue context apd row)
    (param : BytesParam context apd ipd row) :
    valueLength context apd ipd (some bound.lengthPtr) (some bound.address) = bound.counted := by
  have notDae := bound.not_dae
  rw [bound.hasLength] at notDae
  rw [valueLength, notDae, if_neg (by decide), calculateLength, BoundValue.counted]
  split
  · rcases param.type with type | type <;> rw [calculateLength.terminated, type] <;> rfl
  · rfl

theorem paramData_bytes (bound : BoundValue context apd row) (param : BytesParam context apd ipd row)
    (error : Diag) (data : DynString) (heap : Heap) :
    (¬ bound.Accepted ipd ∧ ∃ ret error', ret.succeeded = false ∧
        paramData context apd ipd error (some bound.lengthPtr) (some bound.address) data heap =
          (.finished ret error', heap)) ∨
      bound.Accepted ipd ∧ ∃ error' failure,
        paramData context apd ipd error (some bound.lengthPtr) (some bound.address) data heap =
          appendData .success error' data (context.memory.read bound.address)
            (toSize bound.counted) true failure heap := by
  have length := bound.valueLength_eq param
  rcases param.type with type | type
  · rw [paramData, type]
    simp only [charData, length]
    cases sql : ipd.type with
    | bit => exact absurd sql param.notBit
    | other code =>
      refine .inr ⟨fun _ isDatetime => ?_, error, _, rfl⟩
      rw [sql] at isDatetime
      cases isDatetime
    | datetime =>
      by_cases accepted : (context.conversions.datetimeText (some bound.address) bound.counted
          ipd).returnValue.succeeded = true
      · exact .inr ⟨fun _ _ => accepted, _, _, if_pos accepted⟩
      · exact .inl ⟨fun all => accepted (all type sql), _, _, by simpa using accepted,
          if_neg accepted⟩
  · rw [paramData, type]
    simp only [length]
    refine .inr ⟨fun isChar => ?_, error, _, rfl⟩
    rw [type] at isChar
    cases isChar

theorem appendAll_returned {ret' : SqlReturn}
    (returned : appendAll ret error texts finalQuery heap = (.returned ret' error' finalQuery', heap'))
    (succeeded : ret'.succeeded = true) : finalQuery'.str = finalQuery.str ++ texts.flatten := by
  induction texts generalizing finalQuery heap with
  | nil =>
    cases returned
    exact (append_nil _).symm
  | cons text texts ih =>
    rw [appendAll] at returned
    split at returned
    · rename_i grown heap'' done
      rw [ih returned, (appendMem_done done).1, flatten_cons, append_assoc]
    · cases returned
      rw [succeeded_setError] at succeeded
      cases succeeded
    · cases returned

theorem appendAll_succeeds (ret : SqlReturn) (error : Diag) (sound : finalQuery.Sound)
    (small : finalQuery.str.length + texts.flatten.length + finalQuery.allocIncrement < 2 ^ 63) :
    ∃ finalQuery', appendAll ret error texts finalQuery [] = (.returned ret error finalQuery', []) ∧
      finalQuery'.str = finalQuery.str ++ texts.flatten := by
  induction texts generalizing finalQuery with
  | nil => exact ⟨finalQuery, rfl, (append_nil _).symm⟩
  | cons text texts ih =>
    rw [flatten_cons, length_append] at small
    obtain ⟨grown, done, str, sound', increment⟩ :=
      appendMem_succeeds sound (fun _ => text) rfl (by omega)
    obtain ⟨finalQuery', all, str'⟩ := ih sound' (by
      rw [str, increment, length_append]
      omega)
    refine ⟨finalQuery', ?_, ?_⟩
    · rw [appendAll, append, done]
      exact all
    · rw [str', str, flatten_cons, append_assoc]

theorem insertParam_bytes (bound : BoundValue context apd row) (param : BytesParam context apd ipd row)
    (error : Diag) (finalQuery : DynString) (heap : Heap) :
    insertParam context apd ipd row error finalQuery heap =
      match init [] 16 32 heap with
      | (.noMemory, heap) =>
        let error := setError .errHY001
          (some (lit "Error initializing the string for a single parameter")) 0
        (.returned error.returnValue error finalQuery, heap)
      | (.overrun, heap) => (.overrun, heap)
      | (.done data, heap) =>
        finishParam context finalQuery
          (paramData context apd ipd error (some bound.lengthPtr) (some bound.address) data heap) := by
  have notDae := bound.not_dae
  have hasLength := bound.hasLength
  have hasValue := bound.hasValue
  rw [hasLength] at notDae
  rw [ParamContext.lengthPtr] at hasLength
  rw [ParamContext.valuePtr] at hasValue
  have first : ¬ ((getBindOffset context.apdHeader apd.indicatorPtr row 8).map context.memory.cell =
        some sqlNullData ∨
      (getBindOffset context.apdHeader apd.indicatorPtr row 8).map context.memory.cell =
        some sqlColumnIgnore ∧ apd.defaultValue = none) := by
    rintro (null | ⟨ignored, -⟩)
    · exact param.notNull null
    · exact param.notIgnored ignored
  rw [insertParam]
  simp only [hasLength, notDae, hasValue, Bool.false_and, Bool.false_eq_true, if_false, if_neg first,
    if_neg param.notIgnored]
  all_goals rfl

theorem init_eq {data : DynString} (init : init [] 16 32 heap = (.done data, heap')) :
    data = { str := [], maxLength := 32, allocIncrement := 32 } := by
  rw [DynString.init] at init
  split at init
  · cases init
  · cases init
    rfl

theorem finishParam_copied {source : Nat → Text} {length : Nat} {failure : Text}
    (returned : finishParam context finalQuery
        (appendData .success error { str := [], maxLength := 32, allocIncrement := 32 } source length true
          failure heap) = (.returned ret error' finalQuery', heap'))
    (succeeded : ret.succeeded = true) :
    length < 2 ^ 63 ∧ finalQuery'.str =
      finalQuery.str ++ (lit "'" ++ context.escaping.escape (source length) ++ lit "'") := by
  rw [appendData] at returned
  split at returned
  · rename_i value heap₂ done
    obtain ⟨str, fits, size⟩ := appendMem_done done
    rw [nil_append] at str
    refine ⟨?_, ?_⟩
    · have small : value.maxLength < 2 ^ 63 := by
        rcases size with same | small
        · rw [same]
          decide
        · exact small
      rw [length_nil, Nat.zero_add] at fits
      exact Nat.lt_trans fits small
    · rw [finishParam, escapeParam] at returned
      split at returned
      · cases returned
        rw [succeeded_setError] at succeeded
        cases succeeded
      · rename_i heap₃ granted
        have all : appendAll .success error
            [lit "'", cstr (context.escaping.escape value.str), lit "'"] finalQuery heap₃ =
            (.returned ret error' finalQuery', heap') := returned
        rw [appendAll_returned all succeeded, str,
          cstr_of_nulFree (context.escaping.nulFree _)]
        simp
  · cases returned
    rw [succeeded_setError] at succeeded
    cases succeeded
  · cases returned

/-- **What a successful insertion did**: the value passed its check, its length is one that memory
holds, and the query grew by the literal of the bytes counted. -/
theorem insertParam_returned (bound : BoundValue context apd row)
    (param : BytesParam context apd ipd row)
    (returned : insertParam context apd ipd row error finalQuery heap =
      (.returned ret error' finalQuery', heap')) (succeeded : ret.succeeded = true) :
    bound.Accepted ipd ∧ toSize bound.counted < 2 ^ 63 ∧
      finalQuery'.str = finalQuery.str ++ (lit "'" ++ context.escaping.escape
        (context.memory.read bound.address (toSize bound.counted)) ++ lit "'") := by
  rw [insertParam_bytes bound param] at returned
  split at returned
  · cases returned
    rw [succeeded_setError] at succeeded
    cases succeeded
  · cases returned
  · rename_i data heap₁ init
    obtain rfl := init_eq init
    rcases paramData_bytes bound param error _ heap₁ with
      ⟨-, ret', error₁, failed, ended⟩ | ⟨accepted, error₁, failure, copied⟩
    · rw [ended] at returned
      cases returned
      rw [failed] at succeeded
      cases succeeded
    · rw [copied] at returned
      exact ⟨accepted, finishParam_copied returned succeeded⟩

theorem insertParam_string (type : apd.conciseType = .char) {code : Int}
    (sql : ipd.type = .other code) (noLength : apd.octetLengthPtr = none)
    (noIndicator : apd.indicatorPtr = none) {address : Nat}
    (value : context.valuePtr apd row = some address)
    (returned : insertParam context apd ipd row error finalQuery heap =
      (.returned ret error' finalQuery', heap')) (succeeded : ret.succeeded = true) :
    finalQuery'.str = finalQuery.str ++ (lit "'" ++ context.escaping.escape (context.memory.read address
      (toSize (calculateLength context.memory none apd (some address)))) ++ lit "'") := by
  rw [ParamContext.valuePtr] at value
  have lengthPtr : getBindOffset context.apdHeader apd.octetLengthPtr row 8 = none := by
    rw [noLength]
    rfl
  have indicatorPtr : getBindOffset context.apdHeader apd.indicatorPtr row 8 = none := by
    rw [noIndicator]
    rfl
  have copied : ∀ data heap, paramData context apd ipd error none (some address) data heap =
      appendData .success error data (context.memory.read address)
        (toSize (calculateLength context.memory none apd (some address))) true
        (lit "Failed to append a char parameter") heap := by
    intro data heap
    rw [paramData, type]
    dsimp only
    rw [charData, sql]
    rfl
  rw [insertParam] at returned
  simp only [lengthPtr, indicatorPtr, value, paramIsDae, Option.any_none, Bool.false_and, Bool.false_eq_true,
    if_false] at returned
  split at returned
  · cases returned
    rw [succeeded_setError] at succeeded
    cases succeeded
  · cases returned
  · rename_i data heap₁ init
    obtain rfl := init_eq init
    rw [Option.map_none, if_neg (fun null => by rcases null with null | ⟨null, -⟩ <;> cases null),
      if_neg (fun null => by cases null), copied] at returned
    exact (finishParam_copied returned succeeded).2

/-- **An insertion that memory allows succeeds**, with the literal of the bytes counted. -/
theorem insertParam_succeeds (bound : BoundValue context apd row)
    (param : BytesParam context apd ipd row) (accepted : bound.Accepted ipd)
    (sound : finalQuery.Sound) (room : finalQuery.str.length + finalQuery.allocIncrement < 2 ^ 62)
    (short : toSize bound.counted < 2 ^ 31) (error : Diag) :
    ∃ error' finalQuery', insertParam context apd ipd row error finalQuery [] =
      (.returned .success error' finalQuery', []) := by
  rw [insertParam_bytes bound param]
  have init : init [] 16 32 [] =
      (.done { str := [], maxLength := 32, allocIncrement := 32 }, []) := by decide
  rw [init]
  rcases paramData_bytes bound param error { str := [], maxLength := 32, allocIncrement := 32 } []
    with ⟨refused, -⟩ | ⟨-, error', failure, copied⟩
  · exact absurd accepted refused
  have start : DynString.Sound { str := [], maxLength := 32, allocIncrement := 32 } :=
    ⟨by decide, by decide⟩
  obtain ⟨value, done, str, -, -⟩ := appendMem_succeeds start
    (context.memory.read bound.address) (show _ = toSize bound.counted by simp [Memory.read])
    (by simp only [length_nil]; omega)
  have length : value.str.length = toSize bound.counted := by
    rw [str]
    simp [Memory.read]
  have granted : Heap.alloc [] (value.str.length * 2 + 1) = (true, []) := by
    rw [Heap.alloc, length, decide_eq_true (by omega)]
    rfl
  have escaped := context.escaping.short value.str
  obtain ⟨finalQuery', all, -⟩ := appendAll_succeeds .success error' sound
    (show _ + [lit "'", cstr (context.escaping.escape value.str), lit "'"].flatten.length + _ < _ by
      rw [cstr_of_nulFree (context.escaping.nulFree _)]
      simp only [flatten_cons, flatten_nil, length_append, length_nil]
      have one : (lit "'").length = 1 := rfl
      omega)
  refine ⟨error', finalQuery', ?_⟩
  show finishParam context finalQuery (paramData context apd ipd error _ _ _ []) = _
  rw [copied, appendData, done]
  show escapeParam context .success error' value true finalQuery [] = _
  rw [escapeParam, granted]
  exact all

theorem not_insertsLiteral_of_wraps (bound : BoundValue context apd row)
    (param : BytesParam context apd ipd row) (sound : finalQuery.Sound)
    (room : finalQuery.str.length + finalQuery.allocIncrement < 2 ^ 62) (wraps : bound.Wraps)
    (accepted : bound.Accepted ipd) :
    ¬ InsertsLiteral context apd ipd row finalQuery bound.bytes := by
  intro inserts
  obtain ⟨nts, long, low⟩ := wraps
  have counted : bound.counted = ((context.memory.string bound.address).length % 2 ^ 32 : Nat) := by
    rw [BoundValue.counted, if_pos nts, toSqlInteger_of_lt low]
  have size : toSize bound.counted = (context.memory.string bound.address).length % 2 ^ 32 := by
    rw [counted, toSize]
    omega
  obtain ⟨error', finalQuery', returned⟩ := insertParam_succeeds bound param accepted sound room
    (by omega) clear
  obtain ⟨literal, grown, denotes⟩ := inserts _ _ _ _ _ _ returned rfl
  obtain ⟨-, -, grown'⟩ := insertParam_returned bound param returned rfl
  rw [grown', append_right_inj] at grown
  -- the literal denotes fewer bytes than the value has
  have same := denotes.unique ⟨_, grown.symm, context.escaping.decodes _⟩
  have lengths := congrArg length same
  rw [BoundValue.bytes, if_pos nts, size, Memory.read, length_map, length_range] at lengths
  omega

/-- **Character and binary literals.** A parameter that is inserted becomes the literal of its value,
exactly unless its value is a terminated string whose length wraps in the counter, and which passes
the check for a datetime column if it is one. -/
theorem insertParam_literal_iff (bound : BoundValue context apd row)
    (param : BytesParam context apd ipd row) {finalQuery : DynString} (sound : finalQuery.Sound)
    (room : finalQuery.str.length + finalQuery.allocIncrement < 2 ^ 62) :
    InsertsLiteral context apd ipd row finalQuery bound.bytes ↔
      ¬ (bound.Wraps ∧ bound.Accepted ipd) := by
  constructor
  · rintro inserts ⟨wraps, accepted⟩
    exact not_insertsLiteral_of_wraps bound param sound room wraps accepted inserts
  · intro fine error heap ret error' finalQuery' heap' returned succeeded
    obtain ⟨accepted, small, grown⟩ := insertParam_returned bound param returned succeeded
    have exact_count : ¬ bound.Wraps := fun wraps => fine ⟨wraps, accepted⟩
    rw [bound.read_counted (bound.counted_nonneg small) exact_count] at grown
    exact ⟨_, grown, _, rfl, context.escaping.decodes _⟩

end Parameter

/-! ### Two parameters -/

/-- Conversions that no character or binary parameter needs. -/
def noConversions : Conversions where
  numericToChar _ _ := ([], none)
  floatToChar _ _ := []
  conversionSupported _ _ := false
  datetimeToChar _ _ _ := (clear, [])
  datetimeText _ _ _ := clear
  fromWChar _ _ := (.success, [])
  integerToChar _ _ := []

/-- A parameter of type `SQL_C_CHAR` at address 0, with its length in cell 0. -/
def charParam : DescRecord := { conciseType := .char, dataPtr := some 0, octetLengthPtr := some 0 }

def emptyQuery : DynString := { str := [], maxLength := 1024, allocIncrement := 1024 }

def nulContext : ParamContext where
  memory := { bytes := [ch 'a', 0, ch '\''], cells := fun _ => 3 }
  conversions := noConversions
  escaping := backslashEscaping

def nulBound : BoundValue nulContext charParam 0 where
  lengthPtr := 0
  address := 0
  hasLength := rfl
  hasValue := rfl
  length := .inr (by decide)

theorem insertParam_literal_nul :
    InsertsLiteral nulContext charParam charParam 0 emptyQuery nulBound.bytes ↔
      ¬ (nulBound.Wraps ∧ nulBound.Accepted charParam) :=
  insertParam_literal_iff nulBound ⟨.inl rfl, by decide, by decide, by decide⟩
    ⟨by decide, by decide⟩ (by decide)

def hugeString (length : Nat) : Memory :=
  { bytes := List.replicate length (ch 'a'), cells := fun _ => -3 }

theorem length_hugeString (length : Nat) : ((hugeString length).string 0).length = length := by
  have nulFree : (0 : Byte) ∉ replicate length (ch 'a') := fun member =>
    absurd (eq_of_mem_replicate member) (by decide)
  rw [string, hugeString, drop_zero, cstr_of_nulFree nulFree, length_replicate]

def hugeContext : ParamContext where
  memory := hugeString (2 ^ 32)
  conversions := noConversions
  escaping := backslashEscaping

def hugeBound : BoundValue hugeContext charParam 0 where
  lengthPtr := 0
  address := 0
  hasLength := rfl
  hasValue := rfl
  length := .inl (by decide)

theorem insertParam_huge_not_literal :
    ¬ InsertsLiteral hugeContext charParam charParam 0 emptyQuery hugeBound.bytes := by
  have whole : (hugeContext.memory.string hugeBound.address).length = 2 ^ 32 :=
    length_hugeString (2 ^ 32)
  refine not_insertsLiteral_of_wraps hugeBound ⟨.inl rfl, by decide, by decide, by decide⟩
    ⟨by decide, by decide⟩ (by decide) ⟨by decide, ?_, ?_⟩ ?_
  · rw [whole]
    decide
  · rw [whole]
    decide
  · intro _ datetime
    cases datetime

end MaOdbc
