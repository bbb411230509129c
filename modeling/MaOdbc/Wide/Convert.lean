/-
**Wide texts** (`MADB_ConvertFromWChar` of `ma_platform_posix.c`, `MADB_SetString`, `MADB_ConvertAnsi2Unicode`).

A pointer to `SQLWCHAR` is the list of the units that may be read from there. `SqlwcsOctetLen` counts the octets
of a string, and `MADB_ConvertFromWChar` hands as many to `iconv`. A text of the server in UTF-8 becomes a wide string,
whose octets are counted again by `SqlwcsCharLen`. Both go by the low byte of each unit.

* `charOctetLen16`: the length of a character, read off the low byte of a unit instead of its high byte.
* `sqlwcsOctetLen_plain`: the steps of the loop stay with the units where no low byte misleads them.
* `sqlwcsOctetLen_misled`: otherwise they leave the string.
* `converts_iff`: so that the strings without such a unit are the ones that are converted.
* `mbstrCharLen_utf8`: the characters of a text are counted right, up to the character 0.
* `setString_utf8`: what is written is right up to there, and the count is that of `SqlwcsCharLen`.
* `sqlwcsCharLen_eq_iff`: which is the number of units exactly if none of them but the last misleads it.
-/

import MaOdbc.Library.Unicode
import MaOdbc.Stmt.Error

namespace MaOdbc

open List Option

/-- `UTF16_HIGH_HEAD`: the cast keeps the low byte of the unit. -/
def utf16HighHead (unit : UInt16) : Bool := unit.toUInt8 &&& 0xFC == 0xD8

/-- `CharOctetLen16`. -/
def charOctetLen16 (unit : UInt16) : Nat := if utf16HighHead unit then 4 else 2

/-- `SqlwcsOctetLen`: the octets and the characters of the string at a pointer, up to a number of characters
or to the terminating 0. There is none where a unit is read behind the last one. -/
def sqlwcsOctetLen (inChars : Option Nat) : List UInt16 → Option (Nat × Nat)
  | [] => if inChars = some 0 then some (0, 0) else none
  | [unit] =>
    if inChars = some 0 ∨ unit = 0 then some (0, 0)
    else (sqlwcsOctetLen (inChars.map (· - 1)) []).map fun left => (left.1 + charOctetLen16 unit, left.2 + 1)
  | unit :: next :: str =>
    if inChars = some 0 ∨ unit = 0 then some (0, 0)
    else
      (if utf16HighHead unit then sqlwcsOctetLen (inChars.map (· - 1)) str
        else sqlwcsOctetLen (inChars.map (· - 1)) (next :: str)).map
        fun left => (left.1 + charOctetLen16 unit, left.2 + 1)

/-- The character set of the client, with what `iconv` makes of UTF-16. -/
structure ClientCharset where
  encodeChar : Char → Text
  /-- `cs_info->char_maxlen`. -/
  charMaxLen : Nat
  length_le : ∀ c, (encodeChar c).length ≤ charMaxLen
  /-- `iconv`, where it does not run out of room. -/
  iconv : List UInt16 → Option Text
  iconv_utf16 : ∀ chars, iconv (utf16 chars) = some (chars.flatMap encodeChar)

namespace ClientCharset

variable (cs : ClientCharset)

def encode (chars : List Char) : Text := chars.flatMap cs.encodeChar

/-- `MADB_ConvertString` into a buffer. -/
def convertString (units : List UInt16) (toLen : Nat) : Option Text :=
  (cs.iconv units).filter fun text => text.length ≤ toLen

end ClientCharset

/-- `MADB_ConvertFromWChar`, with a number of units or with `SQL_NTS`: the bytes, or `NULL`. There is none where
it reads behind the last unit. -/
def convertFromWChar (cs : ClientCharset) (ptr : List UInt16) (ptrLength : Option Nat) : Option (Option Text) :=
  match sqlwcsOctetLen ptrLength ptr with
  | none => none
  | some (ptrOctetLen, inCharLen) =>
    let ascLen := match ptrLength with
      | some length => length * cs.charMaxLen
      | none => (inCharLen + 1) * cs.charMaxLen
    if ptrOctetLen / 2 ≤ ptr.length then some (cs.convertString (ptr.take (ptrOctetLen / 2)) ascLen) else none

/-! ### The steps of the loop -/

section Steps

variable {unit : UInt16} {units : List UInt16}

theorem sqlwcsOctetLen_cons (inChars : Option Nat) (unit : UInt16) (str : List UInt16) :
    sqlwcsOctetLen inChars (unit :: str) =
      if inChars = some 0 ∨ unit = 0 then some (0, 0)
      else
        (sqlwcsOctetLen (inChars.map (· - 1)) (if utf16HighHead unit then str.drop 1 else str)).map
          fun left => (left.1 + charOctetLen16 unit, left.2 + 1) := by
  cases str with
  | nil => rw [sqlwcsOctetLen, drop_nil, ite_self]
  | cons next str =>
    rw [sqlwcsOctetLen, drop_one, tail_cons, apply_ite (sqlwcsOctetLen (inChars.map (· - 1)))]

theorem sqlwcsOctetLen_plain (plain : ∀ unit ∈ units, utf16HighHead unit = false) (nulFree : 0 ∉ units)
    (str : List UInt16) :
    sqlwcsOctetLen (some units.length) (units ++ str) = some (2 * units.length, units.length) := by
  induction units with
  | nil =>
    cases str with
    | nil => rfl
    | cons unit str => rw [nil_append, sqlwcsOctetLen_cons, length_nil, if_pos (.inl rfl)]
  | cons unit units ih =>
    obtain ⟨head, tail⟩ := forall_mem_cons.mp plain
    obtain ⟨nonzero, nulFree'⟩ := ne_and_not_mem_of_not_mem_cons nulFree
    rw [cons_append, sqlwcsOctetLen_cons, if_neg (by simp [Ne.symm nonzero]), head,
      if_neg Bool.false_ne_true, length_cons, map_some, Nat.add_sub_cancel, ih tail nulFree',
      charOctetLen16, head]
    rfl

theorem sqlwcsOctetLen_terminated (plain : ∀ unit ∈ units, utf16HighHead unit = false) (nulFree : 0 ∉ units)
    (str : List UInt16) :
    sqlwcsOctetLen none (units ++ 0 :: str) = some (2 * units.length, units.length) := by
  induction units with
  | nil => rw [nil_append, sqlwcsOctetLen_cons, if_pos (.inr rfl)]; rfl
  | cons unit units ih =>
    obtain ⟨head, tail⟩ := forall_mem_cons.mp plain
    obtain ⟨nonzero, nulFree'⟩ := ne_and_not_mem_of_not_mem_cons nulFree
    rw [cons_append, sqlwcsOctetLen_cons, if_neg (by simp [Ne.symm nonzero]), head,
      if_neg Bool.false_ne_true, map_none, ih tail nulFree', charOctetLen16, head]
    rfl

theorem sqlwcsOctetLen_behind {inChars : Nat} (nulFree : 0 ∉ units) (less : units.length < inChars) :
    sqlwcsOctetLen (some inChars) units = none := by
  -- a step passes one unit or two, and counts one
  induction count : units.length using Nat.strong_induction_on generalizing units inChars with
  | _ count ih =>
    have more : some inChars ≠ some 0 := by
      simp only [ne_eq, some.injEq]
      omega
    cases units with
    | nil => rw [sqlwcsOctetLen, if_neg more]
    | cons unit units =>
      obtain ⟨nonzero, nulFree'⟩ := ne_and_not_mem_of_not_mem_cons nulFree
      rw [length_cons] at less count
      rw [sqlwcsOctetLen_cons, if_neg (by simp [more, Ne.symm nonzero])]
      have rest : (if utf16HighHead unit then units.drop 1 else units).length ≤ units.length := by
        split
        · rw [length_drop]
          exact Nat.sub_le _ _
        · exact Nat.le_refl _
      have without : 0 ∉ if utf16HighHead unit then units.drop 1 else units := by
        split
        · exact fun member => nulFree' (mem_of_mem_drop member)
        · exact nulFree'
      rw [map_some, ih _ (by omega) without (by omega) rfl, map_none]

/-- **Misled steps leave the string**: a unit is read behind it, or too many octets are counted. -/
theorem sqlwcsOctetLen_misled (nulFree : 0 ∉ units) {octets chars : Nat}
    (counted : sqlwcsOctetLen (some units.length) units = some (octets, chars))
    (misled : ∃ unit ∈ units, utf16HighHead unit = true) : units.length < octets / 2 := by
  induction units generalizing octets chars with
  | nil =>
    obtain ⟨unit, member, -⟩ := misled
    exact absurd member not_mem_nil
  | cons unit units ih =>
    obtain ⟨nonzero, nulFree'⟩ := ne_and_not_mem_of_not_mem_cons nulFree
    rw [sqlwcsOctetLen_cons, if_neg (by simp [Ne.symm nonzero]), length_cons, map_some,
      Nat.add_sub_cancel, map_eq_some_iff] at counted
    obtain ⟨⟨octets', chars'⟩, counted', equal⟩ := counted
    have total : octets' + charOctetLen16 unit = octets := congrArg Prod.fst equal
    rw [length_cons]
    cases head : utf16HighHead unit with
    | true =>
      rw [head, if_pos rfl] at counted'
      rw [charOctetLen16, head, if_pos rfl] at total
      -- the last unit: behind a unit that is skipped, the count would not end
      rcases Nat.eq_zero_or_pos units.length with none | some
      · omega
      · have behind : sqlwcsOctetLen (Option.some units.length) (units.drop 1) = Option.none :=
          sqlwcsOctetLen_behind (fun member => nulFree' (mem_of_mem_drop member))
            (by rw [length_drop]; omega)
        rw [behind] at counted'
        cases counted'
    | false =>
      rw [head, if_neg Bool.false_ne_true] at counted'
      rw [charOctetLen16, head, if_neg Bool.false_ne_true] at total
      have later : ∃ unit ∈ units, utf16HighHead unit = true := by
        obtain ⟨other, member, high⟩ := misled
        rcases mem_cons.mp member with rfl | tail
        · exact Bool.noConfusion (head.symm.trans high)
        · exact ⟨other, tail, high⟩
      have := ih nulFree' counted' later
      omega

end Steps

/-! ### The conversion -/

variable {cs : ClientCharset} {chars : List Char}

theorem ClientCharset.length_encode_le (cs : ClientCharset) (chars : List Char) :
    (cs.encode chars).length ≤ (utf16 chars).length * cs.charMaxLen := by
  have each : (cs.encode chars).length ≤ chars.length * cs.charMaxLen := by
    induction chars with
    | nil => exact Nat.zero_le _
    | cons c chars ih =>
      have head := cs.length_le c
      rw [encode, flatMap_cons, length_append, ← encode, length_cons, Nat.succ_mul]
      omega
  exact each.trans (Nat.mul_le_mul_right _ (length_utf16_ge chars))

theorem ClientCharset.convertString_utf16 {toLen : Nat} (room : (utf16 chars).length * cs.charMaxLen ≤ toLen) :
    cs.convertString (utf16 chars) toLen = some (cs.encode chars) := by
  have fits : (cs.encode chars).length ≤ toLen := (cs.length_encode_le chars).trans room
  rw [convertString, cs.iconv_utf16, ← encode, filter_some, if_pos (decide_eq_true fits)]

/-- The string is converted from its units alone, whatever stands behind them, and with its terminating 0 to
the same bytes. -/
def Converts (cs : ClientCharset) (chars : List Char) : Prop :=
  (∀ memory, convertFromWChar cs (utf16 chars ++ memory) (some (utf16 chars).length) =
      some (some (cs.encode chars))) ∧
    ∀ memory, convertFromWChar cs (utf16 chars ++ 0 :: memory) none = some (some (cs.encode chars))

/-- **Which strings are converted**: those without a unit whose low byte looks like the head of a surrogate. -/
theorem converts_iff (cs : ClientCharset) (nulFree : nulChar ∉ chars) :
    Converts cs chars ↔ ∀ unit ∈ utf16 chars, utf16HighHead unit = false := by
  have nonzero : 0 ∉ utf16 chars := fun member => nulFree (zero_mem_utf16.mp member)
  have half : 2 * (utf16 chars).length / 2 = (utf16 chars).length := Nat.mul_div_cancel_left _ (by decide)
  constructor
  · intro converts unit member
    by_contra high
    rw [Bool.not_eq_false] at high
    -- nothing stands behind the units
    have alone := converts.1 []
    rw [append_nil, convertFromWChar] at alone
    split at alone
    · cases alone
    · rename_i octets count counted
      have beyond := sqlwcsOctetLen_misled nonzero counted ⟨unit, member, high⟩
      rw [if_neg (by omega)] at alone
      cases alone
  · intro plain
    constructor
    · intro memory
      rw [convertFromWChar, sqlwcsOctetLen_plain plain nonzero]
      dsimp only
      rw [half, if_pos (by rw [length_append]; omega), take_left, cs.convertString_utf16 (Nat.le_refl _)]
    · intro memory
      rw [convertFromWChar, sqlwcsOctetLen_terminated plain nonzero]
      dsimp only
      rw [half, if_pos (by rw [length_append]; omega), take_left,
        cs.convertString_utf16 (Nat.mul_le_mul_right _ (Nat.le_succ _))]

/-- The client with UTF-8. -/
def utf8Client : ClientCharset where
  encodeChar := String.utf8EncodeChar
  charMaxLen := 4
  length_le := fun c => by
    rw [String.length_utf8EncodeChar]
    exact Char.utf8Size_le_four c
  iconv := fun units => (utf16Decode units).map utf8
  iconv_utf16 := fun chars => by
    rw [utf16Decode_utf16]
    rfl

theorem converts_iff_smile :
    Converts utf8Client ['a', Char.ofNat 0x1F600] ↔
      ∀ unit ∈ utf16 ['a', Char.ofNat 0x1F600], utf16HighHead unit = false :=
  converts_iff utf8Client (by decide)

/-- The letter `Ø` alone: its unit is 0xD8, and another one is read behind it. -/
theorem converts_oslash :
    nulChar ∉ [Char.ofNat 0xD8] ∧ ¬ Converts utf8Client [Char.ofNat 0xD8] := by
  refine ⟨by decide, fun converts => ?_⟩
  have alone := converts.1 []
  have beyond : convertFromWChar utf8Client (utf16 [Char.ofNat 0xD8] ++ [])
      (some (utf16 [Char.ofNat 0xD8]).length) = none := by
    decide +kernel
  rw [beyond] at alone
  cases alone

/-! ### Texts for an application with wide characters -/

/-- The character set of a connection with UTF-8, with what `iconv` makes of it. -/
structure Utf8Charset where
  /-- `cs_info->mb_charlen`. -/
  mbCharLen : UInt8 → Nat
  mbCharLen_lead : ∀ {c lead rest}, String.utf8EncodeChar c = lead :: rest → mbCharLen lead = rest.length + 1
  /-- `iconv`, where it does not run out of room: the units, or the number of the error. -/
  iconv : Text → Except Nat (List UInt16)
  iconv_utf8 : ∀ chars, iconv (utf8 chars) = .ok (utf16 chars)

/-- `E2BIG`. -/
def e2big : Nat := 7

/-- What `MADB_SetString` does: the number of characters that it returns, the units that it writes, and the error. -/
structure WideCopy where
  length : Nat
  units : List UInt16
  error : Diag
  deriving DecidableEq, Repr

/-- `SqlwcsCharLen` of the string in some units. -/
def sqlwcsCharLen : List UInt16 → Nat
  | [] => 0
  | [unit] => if unit = 0 ∨ utf16HighHead unit then 0 else 1
  | unit :: next :: units =>
    if unit = 0 then 0
    else if utf16HighHead unit then sqlwcsCharLen units + 1 else sqlwcsCharLen (next :: units) + 1

/-- `SqlwcsLen` of the string at a pointer. -/
def sqlwcsLenAt (units : List UInt16) : Nat := (units.takeWhile (· != 0)).length

namespace Utf8Charset

variable (cs : Utf8Charset)

/-- `MbstrCharLen`, with a number of bytes of the current character to skip. -/
def mbstrCharLen (skip : Nat) : Text → Nat
  | [] => 0
  | byte :: bytes =>
    match skip with
    | skip + 1 => mbstrCharLen skip bytes
    | 0 => if byte = 0 then 0 else mbstrCharLen (cs.mbCharLen byte - 1) bytes + 1

/-- `MADB_ConvertString` into a buffer of units. -/
def convertString (text : Text) (room : Nat) : Except Nat (List UInt16) :=
  match cs.iconv text with
  | .error errno => .error errno
  | .ok units => if units.length ≤ room then .ok units else .error e2big

/-- `MADB_ConvertAnsi2Unicode` of a string with its terminating 0. -/
def convertAnsi2Unicode (ansi : Text) (unicodeLength : Nat) : WideCopy :=
  let length := cs.mbstrCharLen 0 ansi
  let required := length + 1
  let failed := fun errno =>
    Diag.setError .errHY000 (some (lit "Ansi to Unicode conversion error occurred")) errno
  if unicodeLength = 0 then ⟨length, [], Diag.clear⟩
  else
    match cs.convertString (ansi ++ [0]) (max required unicodeLength) with
    | .error errno => ⟨length, [], failed errno⟩
    | .ok [] => ⟨length, [], failed 0⟩
    | .ok units =>
      if unicodeLength < required then
        ⟨sqlwcsCharLen units, units.take (unicodeLength - 1) ++ [0], Diag.setError .err01004 none 0⟩
      else ⟨sqlwcsCharLen units, units, Diag.clear⟩

/-- `MADB_SetString` into a buffer, from a string of a number of bytes. -/
def setString (destLength : Nat) (src : Text) (srcLength : Nat) : WideCopy :=
  if srcLength = 0 ∨ cstr src = [] then ⟨0, [0], Diag.clear⟩
  else cs.convertAnsi2Unicode (cstr src) destLength

end Utf8Charset

open Utf8Charset

/-! ### Characters -/

variable {cs : Utf8Charset}

theorem mbstrCharLen_append (bytes text : Text) :
    cs.mbstrCharLen bytes.length (bytes ++ text) = cs.mbstrCharLen 0 text := by
  induction bytes with
  | nil => rfl
  | cons byte bytes ih =>
    rw [length_cons, cons_append, mbstrCharLen]
    exact ih

theorem mbstrCharLen_utf8 (chars : List Char) :
    cs.mbstrCharLen 0 (utf8 chars) = (untilNul chars).length := by
  induction chars with
  | nil => rfl
  | cons c chars ih =>
    rw [utf8, flatMap_cons, ← utf8]
    obtain ⟨lead, rest, bytes⟩ := exists_cons_of_ne_nil (String.utf8EncodeChar_ne_nil (c := c))
    rw [bytes, cons_append, mbstrCharLen]
    by_cases zero : c = nulChar
    · rw [zero] at bytes ⊢
      cases bytes
      rfl
    · have nonzero : lead ≠ 0 := by
        rintro rfl
        refine zero (zero_mem_utf8EncodeChar.mp ?_)
        rw [bytes]
        exact mem_cons_self
      rw [if_neg nonzero, cs.mbCharLen_lead bytes, Nat.add_sub_cancel, mbstrCharLen_append, ih,
        untilNul_cons zero, length_cons]

theorem setString_utf8 {chars : List Char} {destLength srcLength : Nat} {src : Text}
    (string : cstr src = utf8 (untilNul chars)) (some : srcLength ≠ 0)
    (room : 2 * ((untilNul chars).length + 1) ≤ destLength) :
    cs.setString destLength src srcLength =
      ⟨sqlwcsCharLen (utf16 (untilNul chars) ++ [0]), utf16 (untilNul chars) ++ [0], Diag.clear⟩ := by
  rw [setString, string]
  generalize plain : untilNul chars = before at *
  have nulFree : nulChar ∉ before := plain ▸ nulChar_not_mem_untilNul chars
  by_cases empty : utf8 before = []
  · have nothing : before = [] := utf8_eq_nil empty
    rw [if_pos (.inr empty), nothing]
    rfl
  · rw [if_neg (not_or.mpr ⟨some, empty⟩), convertAnsi2Unicode]
    have count : cs.mbstrCharLen 0 (utf8 before) = before.length := by
      rw [mbstrCharLen_utf8, untilNul_of_not_mem nulFree]
    have bytes : utf8 before ++ [0] = utf8 (before ++ [nulChar]) := by
      rw [utf8, utf8, flatMap_append]
      rfl
    have units : utf16 (before ++ [nulChar]) = utf16 before ++ [0] := by
      rw [utf16, utf16, flatMap_append]
      rfl
    have fits : (utf16 before ++ [0]).length ≤ max (before.length + 1) destLength := by
      have most := length_utf16_le before
      rw [length_append, length_singleton]
      omega
    have converted : cs.convertString (utf8 before ++ [0]) (max (before.length + 1) destLength) =
        .ok (utf16 before ++ [0]) := by
      rw [convertString, bytes, cs.iconv_utf8, units]
      exact if_pos fits
    dsimp only
    rw [count, if_neg (by omega), converted]
    cases ends : utf16 before ++ [0] with
    | nil => exact absurd ends (append_ne_nil_of_right_ne_nil _ (cons_ne_nil _ _))
    | cons unit units => exact if_neg (by omega)

/-! ### Units -/

section Units

variable {units : List UInt16}

theorem sqlwcsCharLen_cons {unit : UInt16} (nonzero : unit ≠ 0) (next : UInt16) (units : List UInt16) :
    sqlwcsCharLen (unit :: next :: units) =
      sqlwcsCharLen (if utf16HighHead unit then units else next :: units) + 1 := by
  rw [sqlwcsCharLen, if_neg nonzero]
  split
  · rfl
  · rfl

theorem sqlwcsCharLen_le (units : List UInt16) : sqlwcsCharLen (units ++ [0]) ≤ units.length := by
  -- a step passes one unit or two, and counts one
  induction count : units.length using Nat.strong_induction_on generalizing units with
  | _ count ih =>
    match units with
    | [] => exact Nat.zero_le _
    | [unit] =>
      by_cases zero : unit = 0
      · rw [zero]
        exact Nat.zero_le _
      · rw [← count, singleton_append, sqlwcsCharLen_cons zero]
        split
        · exact Nat.le_refl 1
        · exact Nat.le_refl 1
    | unit :: next :: units =>
      rw [length_cons, length_cons] at count
      rw [cons_append, cons_append]
      by_cases zero : unit = 0
      · rw [zero]
        exact Nat.zero_le _
      · rw [sqlwcsCharLen_cons zero]
        split
        · have rest := ih units.length (by omega) units rfl
          omega
        · have rest := ih (next :: units).length (by rw [length_cons]; omega) (next :: units) rfl
          rw [cons_append, length_cons] at rest
          omega

/-- **When the units are counted**: if none of them but the last looks like the head of a surrogate. -/
theorem sqlwcsCharLen_eq_iff (nulFree : 0 ∉ units) :
    sqlwcsCharLen (units ++ [0]) = units.length ↔ ∀ unit ∈ units.dropLast, utf16HighHead unit = false := by
  induction units with
  | nil => exact iff_of_true rfl fun unit member => absurd member not_mem_nil
  | cons unit units ih =>
    obtain ⟨nonzero, nulFree'⟩ := ne_and_not_mem_of_not_mem_cons nulFree
    cases units with
    | nil =>
      -- the step of a last unit that misleads ends behind the terminating 0
      refine iff_of_true ?_ fun unit member => absurd member not_mem_nil
      rw [singleton_append, sqlwcsCharLen_cons (Ne.symm nonzero)]
      split
      · rfl
      · rfl
    | cons next units =>
      rw [cons_append, cons_append, sqlwcsCharLen_cons (Ne.symm nonzero), dropLast_cons_cons,
        forall_mem_cons, length_cons, Nat.add_right_cancel_iff]
      cases head : utf16HighHead unit with
      | true =>
        rw [if_pos rfl]
        refine iff_of_false ?_ fun plain => Bool.noConfusion plain.1
        -- the next unit is passed over
        have rest := sqlwcsCharLen_le units
        rw [length_cons]
        omega
      | false =>
        rw [if_neg Bool.false_ne_true, ← cons_append, ih nulFree']
        exact (and_iff_right rfl).symm

end Units

/-! ### UTF-8 of libmariadb -/

/-- `mb_charlen` of `utf8mb4`. -/
def mbCharLenUtf8 (byte : UInt8) : Nat :=
  if byte.toNat < 0x80 then 1
  else if byte.toNat < 0xC2 then 0
  else if byte.toNat < 0xE0 then 2
  else if byte.toNat < 0xF0 then 3
  else if byte.toNat < 0xF8 then 4
  else 0

theorem mbCharLenUtf8_lead {c : Char} {lead : UInt8} {rest : Text}
    (bytes : String.utf8EncodeChar c = lead :: rest) : mbCharLenUtf8 lead = rest.length + 1 := by
  have small : c.val.toNat < 0x110000 := toNat_lt c
  have value : ∀ n : Nat, n < 256 → (UInt8.ofNat n).toNat = n := fun n small => UInt8.toNat_ofNat_of_lt' small
  rw [String.utf8EncodeChar] at bytes
  rw [mbCharLenUtf8]
  split at bytes
  · obtain ⟨rfl, rfl⟩ := List.cons.inj bytes
    rw [value _ (by omega)]
    exact if_pos (show _ < 128 by omega)
  · split at bytes
    · obtain ⟨rfl, rfl⟩ := List.cons.inj bytes
      rw [value _ (by omega), if_neg (show ¬ _ < 128 by omega), if_neg (show ¬ _ < 194 by omega)]
      exact if_pos (show _ < 224 by omega)
    · split at bytes
      · obtain ⟨rfl, rfl⟩ := List.cons.inj bytes
        rw [value _ (by omega), if_neg (show ¬ _ < 128 by omega), if_neg (show ¬ _ < 194 by omega),
          if_neg (show ¬ _ < 224 by omega)]
        exact if_pos (show _ < 240 by omega)
      · obtain ⟨rfl, rfl⟩ := List.cons.inj bytes
        rw [value _ (by omega), if_neg (show ¬ _ < 128 by omega), if_neg (show ¬ _ < 194 by omega),
          if_neg (show ¬ _ < 224 by omega), if_neg (show ¬ _ < 240 by omega)]
        exact if_pos (show _ < 248 by omega)

/-- `EILSEQ`. -/
def eilseq : Nat := 84

def utf8Charset : Utf8Charset where
  mbCharLen := mbCharLenUtf8
  mbCharLen_lead := mbCharLenUtf8_lead
  iconv := fun text =>
    match (List.toByteArray text).utf8Decode? with
    | some chars => .ok (utf16 chars.toList)
    | none => .error eilseq
  iconv_utf8 := fun chars => by
    have decoded : (List.toByteArray (utf8 chars)).utf8Decode? = some chars.toArray :=
      utf8Decode?_utf8Encode
    rw [decoded]

end MaOdbc
