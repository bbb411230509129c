/-
**Reading a connection string** (`MADB_ParseConnString` of `ma_dsn.c`).

The string is copied, and the copy is cut up in place. Each of the pointers into it is the text from there to its
end; what is cut off lies before the next key.

* `unbrace`: a value in curly brackets, where a closing one is doubled. `parseLoop`: the pairs one after another.
* `Names.parseLoop_key`: a key is read with the value that follows.
* `parseConnString_pieces`: a string of pieces that are read as meant stores their values in order.
* `parseConnString_pairs`: such as pairs with their values in curly brackets.
* `value_assign_self`, `value_assign_of_ne`: what a value does to the field of its key, and to the fields that the key
  does not touch. `value_assignStores`: behind a list of values, the last one of a field decides.
-/

import MaOdbc.Dsn.Record
import MaOdbc.Library.Loop

namespace MaOdbc

open List

/-- The loop that copies a value in curly brackets to `ValueBuf`: what has been copied, and what follows `prev` so
far. It leaves the value, and where `p` stands unless no closing bracket ends the value. -/
def unbrace (copied pending : Text) : Text → Text × Option Text
  | [] => (copied, none)
  | byte :: text =>
    if byte = ch '\x7d' then
      match text with
      | [] => (copied ++ pending, some [])
      | next :: text =>
        if next = ch '\x7d' then unbrace (copied ++ pending ++ [next]) [] text
        else (copied ++ pending, some (next :: text))
    else unbrace copied (pending ++ [byte]) text

/-- A value, and what follows the place of `p`. -/
def readValue (delimiter : Byte) (value : Text) : Text × Option Text :=
  match ltrim value with
  | [] => ([], none)
  | byte :: text =>
    if byte = ch '\x7b' then unbrace [] [] text
    else
      match strchr (byte :: text) delimiter with
      | some p => ((byte :: text).take p, some ((byte :: text).drop p))
      | none => (byte :: text, none)

/-- `_stricmp(first, second) == 0`. -/
def sameNoCase (first second : Text) : Bool := first.map lower == second.map lower

def findKey (key : Text) : Option DsnField :=
  (dsnKeys.find? fun entry => sameNoCase entry.key key).map (·.field)

def behind (text : Text) (byte : Byte) : Option Text := (strchr text byte).map fun p => text.drop (p + 1)

def Dsn.assign (dsn : Dsn) (field : DsnField) (value : Text) : Bool × Dsn :=
  let stored := dsn.storeValue field value true
  if !stored.1 then stored
  else (true, if field = .options then stored.2.updateOptionsFields else stored.2)

theorem Dsn.str_assign (dsn : Dsn) (field : DsnField) (value : Text) :
    (dsn.assign field value).2.str =
      if field.type = .string ∨ field.type = .combo then Function.update dsn.str field (some value) else dsn.str := by
  rw [← dsn.str_storeValue, Dsn.assign, dsn.storeValue_fst]
  split
  · rename_i never
    cases never
  · split
    · exact Dsn.str_updateOptionsFields _
    · rfl

theorem Dsn.assign_fst (dsn : Dsn) (field : DsnField) (value : Text) : (dsn.assign field value).1 = true := by
  rw [Dsn.assign, dsn.storeValue_fst]
  rfl

/-- The loop of `MADB_ParseConnString` with some rounds to go, from a key on. -/
def parseLoop (delimiter : Byte) : Nat → Text → Dsn → Bool × Dsn
  | 0, _, dsn => (true, dsn)
  | _ + 1, [], dsn => (true, dsn)
  | rounds + 1, byte :: key, dsn =>
    if byte = delimiter then parseLoop delimiter rounds key dsn
    else
      match strchr (byte :: key) (ch '=') with
      | none => (false, dsn)
      | some equals =>
        let value := (byte :: key).drop (equals + 1)
        match findKey (trim ((byte :: key).take equals)) with
        | none =>
          -- an unknown key
          match behind value delimiter with
          | none => (true, dsn)
          | some key => parseLoop delimiter rounds key dsn
        | some field =>
          let (text, p) := readValue delimiter value
          let assigned := dsn.assign field (trim text)
          if !assigned.1 then (false, assigned.2)
          else
            match p with
            | none => (true, assigned.2)
            | some p => parseLoop delimiter rounds (p.drop 1) assigned.2

/-- `MADB_ParseConnString` of a string that ends with a 0, with a delimiter that is not 0. -/
def parseConnString (delimiter : Byte) (dsn : Dsn) (string : Text) : Bool × Dsn :=
  parseLoop delimiter string.length string dsn

/-! ### Keys -/

def Names (key : Text) (field : DsnField) : Prop :=
  ∃ entry ∈ dsnKeys, sameNoCase entry.key key = true ∧ entry.field = field

theorem lower_of_isSpace {byte : Byte} (blank : isSpace byte = true) : lower byte = byte := by
  have all : ∀ value < 256, isSpace (UInt8.ofNat value) = true → lower (UInt8.ofNat value) = UInt8.ofNat value := by
    decide +kernel
  have here := all byte.toNat (UInt8.toNat_lt byte)
  rw [UInt8.ofNat_toNat] at here
  exact here blank

theorem dsnKeys_distinct : ∀ first ∈ dsnKeys, ∀ second ∈ dsnKeys,
    sameNoCase first.key second.key = true → first = second := by
  decide +kernel

theorem dsnKeys_bytes : ∀ entry ∈ dsnKeys, entry.key ≠ [] ∧ ∀ byte ∈ entry.key.map lower,
    byte ≠ ch '=' ∧ byte ≠ ch ';' ∧ isSpace byte = false := by
  decide +kernel

namespace Names

variable {key : Text} {field : DsnField} (names : Names key field)

include names

theorem findKey_eq : findKey key = some field := by
  obtain ⟨entry, member, same, field⟩ := names
  cases found : dsnKeys.find? fun other => sameNoCase other.key key with
  | none => exact absurd same (find?_eq_none.mp found entry member)
  | some other =>
    have same' := find?_some (p := fun other : DsnEntry => sameNoCase other.key key) found
    have equal : sameNoCase other.key entry.key = true := by
      rw [sameNoCase, beq_iff_eq] at same same' ⊢
      rw [same', same]
    rw [findKey, found, Option.map_some, dsnKeys_distinct other (mem_of_find?_eq_some found) entry member equal,
      field]

theorem bytes : key ≠ [] ∧ ∀ byte ∈ key, byte ≠ ch '=' ∧ byte ≠ ch ';' ∧ isSpace byte = false := by
  obtain ⟨entry, member, same, -⟩ := names
  rw [sameNoCase, beq_iff_eq] at same
  obtain ⟨nonempty, bytes⟩ := dsnKeys_bytes entry member
  rw [same] at bytes
  constructor
  · intro empty
    rw [empty, map_nil, map_eq_nil_iff] at same
    exact nonempty same
  · intro byte here
    obtain ⟨equals, semi, space⟩ := bytes (lower byte) (mem_map_of_mem here)
    refine ⟨?_, ?_, ?_⟩
    · rintro rfl
      exact equals rfl
    · rintro rfl
      exact semi rfl
    · cases blank : isSpace byte with
      | false => rfl
      | true =>
        rw [lower_of_isSpace blank, blank] at space
        exact space

end Names

theorem parseLoop_nil (rounds : Nat) (dsn : Dsn) : parseLoop (ch ';') rounds [] dsn = (true, dsn) := by
  cases rounds with
  | zero | succ => rfl

/-! ### What is read of a text -/

theorem unbrace_length (text copied pending : Text) :
    (unbrace copied pending text).1.length + (if ch '\x7d' ∈ text then 1 else 0) ≤
        copied.length + pending.length + text.length ∧
      ((unbrace copied pending text).2.getD []).length ≤ text.length := by
  fun_induction unbrace copied pending text with
  | case1 copied pending => simp
  | case2 copied pending => simp
  | case3 copied pending text ih =>
    obtain ⟨value, rest⟩ := ih
    simp only [length_append, length_cons, length_nil, mem_cons, true_or, ↓reduceIte] at value rest ⊢
    split at value <;> omega
  | case4 copied pending next text other =>
    simp only [length_append, length_cons, mem_cons, true_or, ↓reduceIte, Option.getD_some]
    omega
  | case5 copied pending byte text other ih =>
    obtain ⟨value, rest⟩ := ih
    simp only [length_append, length_cons, length_nil, mem_cons, Ne.symm other, false_or] at value rest ⊢
    omega

theorem readValue_length (delimiter : Byte) (text : Text) :
    (readValue delimiter text).1.length ≤ text.length ∧
      ((readValue delimiter text).2.getD []).length ≤ text.length := by
  have shorter : (ltrim text).length ≤ text.length := (dropWhile_suffix _).length_le
  rw [readValue]
  cases trimmed : ltrim text with
  | nil => exact ⟨Nat.zero_le _, Nat.zero_le _⟩
  | cons byte rest =>
    rw [trimmed, length_cons] at shorter
    dsimp only
    split
    · have := unbrace_length rest [] []
      simp only [length_nil] at this
      omega
    · split
      · rename_i p _
        refine ⟨?_, ?_⟩
        · rw [length_take, length_cons]
          omega
        · rw [Option.getD_some, length_drop, length_cons]
          omega
      · exact ⟨shorter, Nat.zero_le _⟩

/-- **The rule of the reader**: what the values keep that are trimmed and shorter than the text. -/
theorem parseLoop_rule {motive : Dsn → Prop} {bound : Nat}
    (step : ∀ dsn field value, motive dsn → trim value = value → value.length < bound →
      motive (dsn.assign field value).2)
    (delimiter : Byte) (rounds : Nat) {text : Text} (fits : text.length ≤ bound) {dsn : Dsn} (start : motive dsn) :
    motive (parseLoop delimiter rounds text dsn).2 := by
  induction rounds generalizing text dsn with
  | zero => exact start
  | succ rounds ih =>
    cases text with
    | nil => exact start
    | cons byte key =>
      rw [length_cons] at fits
      rw [parseLoop]
      split
      · exact ih (by omega) start
      · split
        · exact start
        · rename_i equals _
          dsimp only
          have behind_le : ((byte :: key).drop (equals + 1)).length ≤ key.length := by
            rw [length_drop, length_cons]
            omega
          generalize (byte :: key).drop (equals + 1) = tail at behind_le ⊢
          split
          · split
            · exact start
            · rename_i rest found
              rw [behind, Option.map_eq_some_iff] at found
              obtain ⟨p, -, rfl⟩ := found
              refine ih ?_ start
              rw [length_drop]
              omega
          · rename_i field _
            have read := readValue_length delimiter tail
            have shorter := length_trim_le (readValue delimiter tail).1
            have assigned := step dsn field _ start (trim_trim (readValue delimiter tail).1) (by omega)
            rw [dsn.assign_fst]
            split
            · rename_i never
              cases never
            · split
              · exact assigned
              · rename_i p place
                rw [place, Option.getD_some] at read
                refine ih ?_ assigned
                rw [length_drop]
                omega

/-- **A key is read**, with the value that follows. -/
theorem Names.parseLoop_key {key : Text} {field : DsnField} (names : Names key field) (value : Text) (rounds : Nat)
    (dsn : Dsn) :
    parseLoop (ch ';') (rounds + 1) (key ++ ch '=' :: value) dsn =
      parseLoop (ch ';') rounds (((readValue (ch ';') value).2.getD []).drop 1)
        (dsn.assign field (trim (readValue (ch ';') value).1)).2 := by
  have stored : (dsn.assign field (trim (readValue (ch ';') value).1)).1 = true := dsn.assign_fst _ _
  obtain ⟨nonempty, bytes⟩ := names.bytes
  have place := strchr_append_cons (fun member => (bytes _ member).1 rfl) value
  have first : (key ++ ch '=' :: value).take key.length = key := take_left
  have second : (key ++ ch '=' :: value).drop (key.length + 1) = value := by
    rw [drop_append, drop_of_length_le (Nat.le_succ _), Nat.add_sub_cancel_left]
    rfl
  obtain ⟨byte, tail, whole⟩ : ∃ byte tail, key ++ ch '=' :: value = byte :: tail :=
    exists_cons_of_ne_nil (append_ne_nil_of_left_ne_nil nonempty _)
  have apart : byte ≠ ch ';' := by
    obtain ⟨head, more, rfl⟩ := exists_cons_of_ne_nil nonempty
    rw [cons_append, List.cons.injEq] at whole
    rw [← whole.1]
    exact (bytes head mem_cons_self).2.1
  rw [whole] at place first second ⊢
  rw [parseLoop, if_neg apart, place]
  dsimp only
  rw [first, second, trim_eq_self fun byte member => (bytes byte member).2.2, names.findKey_eq]
  dsimp only
  rw [stored]
  cases (readValue (ch ';') value).2 with
  | none => exact (parseLoop_nil rounds _).symm
  | some p => rfl

/-! ### Pieces -/

/-- A key with its value, and how the value is written. -/
structure DsnPiece where
  key : Text
  field : DsnField
  value : Text
  written : Text

namespace DsnPiece

def text (piece : DsnPiece) : Text := piece.key ++ ch '=' :: piece.written

/-- The piece is read as it was meant, before a delimiter or at the end. -/
structure Reads (piece : DsnPiece) : Prop where
  names : Names piece.key piece.field
  value : ∀ rest : Text, rest = [] ∨ rest.head? = some (ch ';') →
    trim (readValue (ch ';') (piece.written ++ rest)).1 = piece.value ∧
      (readValue (ch ';') (piece.written ++ rest)).2.getD [] = rest

end DsnPiece

def piecesText (pieces : List DsnPiece) : Text := [ch ';'].intercalate (pieces.map DsnPiece.text)

def Dsn.assignPieces (dsn : Dsn) (pieces : List DsnPiece) : Dsn :=
  pieces.foldl (fun dsn piece => (dsn.assign piece.field piece.value).2) dsn

theorem piecesText_singleton (piece : DsnPiece) : piecesText [piece] = piece.text :=
  intercalate_singleton

theorem piecesText_cons_cons (piece next : DsnPiece) (pieces : List DsnPiece) :
    piecesText (piece :: next :: pieces) = piece.text ++ ch ';' :: piecesText (next :: pieces) := by
  rw [piecesText, map_cons, map_cons, intercalate_cons_cons, append_assoc, ← map_cons, ← piecesText]
  rfl

theorem DsnPiece.Reads.parseLoop_text {piece : DsnPiece} (reads : piece.Reads) {rest : Text}
    (ends : rest = [] ∨ rest.head? = some (ch ';')) (rounds : Nat) (dsn : Dsn) :
    parseLoop (ch ';') (rounds + 1) (piece.text ++ rest) dsn =
      parseLoop (ch ';') rounds (rest.drop 1) (dsn.assign piece.field piece.value).2 := by
  obtain ⟨value, next⟩ := reads.value rest ends
  rw [DsnPiece.text, append_assoc, cons_append, reads.names.parseLoop_key, value, next]

theorem parseLoop_pieces {pieces : List DsnPiece} (reads : ∀ piece ∈ pieces, piece.Reads) {rounds : Nat}
    (enough : pieces.length ≤ rounds) (dsn : Dsn) :
    parseLoop (ch ';') rounds (piecesText pieces) dsn = (true, dsn.assignPieces pieces) := by
  induction pieces generalizing rounds dsn with
  | nil => exact parseLoop_nil rounds dsn
  | cons piece pieces ih =>
    obtain ⟨head, tail⟩ := forall_mem_cons.mp reads
    rw [length_cons] at enough
    obtain ⟨rounds, rfl⟩ : ∃ less, rounds = less + 1 := ⟨rounds - 1, by omega⟩
    cases pieces with
    | nil =>
      have alone : piecesText [piece] = piece.text ++ [] := by
        rw [piecesText_singleton, append_nil]
      rw [alone, head.parseLoop_text (.inl rfl)]
      exact parseLoop_nil rounds _
    | cons next pieces =>
      rw [piecesText_cons_cons, head.parseLoop_text (.inr rfl), drop_one, tail_cons, ih tail (by omega)]
      rfl

theorem length_piecesText (pieces : List DsnPiece) : pieces.length ≤ (piecesText pieces).length := by
  have one : ∀ piece : DsnPiece, 0 < piece.text.length := by
    intro piece
    rw [DsnPiece.text, length_append, length_cons]
    exact Nat.succ_pos _
  induction pieces with
  | nil => exact Nat.le_refl 0
  | cons piece pieces ih =>
    cases pieces with
    | nil =>
      rw [piecesText_singleton]
      exact one piece
    | cons next pieces =>
      have first := one piece
      simp only [piecesText_cons_cons, length_append, length_cons] at ih ⊢
      omega

/-- **A string of pieces** stores their values in order. -/
theorem parseConnString_pieces {pieces : List DsnPiece} (reads : ∀ piece ∈ pieces, piece.Reads) (dsn : Dsn) :
    parseConnString (ch ';') dsn (piecesText pieces) = (true, dsn.assignPieces pieces) :=
  parseLoop_pieces reads (length_piecesText pieces) dsn

/-! ### Pairs in curly brackets -/

/-- A key in any letter case, with a value. -/
structure DsnPair where
  key : Text
  field : DsnField
  value : Text
  names : Names key field
  nulFree : 0 ∉ value
  trimmed : trim value = value

def doubled (value : Text) : Text :=
  value.flatMap fun byte => if byte = ch '\x7d' then [byte, byte] else [byte]

namespace DsnPair

def text (pair : DsnPair) : Text := pair.key ++ ch '=' :: ch '\x7b' :: doubled pair.value ++ [ch '\x7d']

def piece (pair : DsnPair) : DsnPiece :=
  { key := pair.key, field := pair.field, value := pair.value, written := ch '\x7b' :: doubled pair.value ++ [ch '\x7d'] }

end DsnPair

def pairsText (pairs : List DsnPair) : Text := [ch ';'].intercalate (pairs.map DsnPair.text)

def Dsn.assignAll (dsn : Dsn) (pairs : List DsnPair) : Dsn :=
  pairs.foldl (fun dsn pair => (dsn.assign pair.field pair.value).2) dsn

theorem unbrace_doubled (value : Text) {rest : Text} (ends : rest.head? ≠ some (ch '\x7d')) (copied pending : Text) :
    unbrace copied pending (doubled value ++ ch '\x7d' :: rest) = (copied ++ pending ++ value, some rest) := by
  induction value generalizing copied pending with
  | nil =>
    rw [doubled, flatMap_nil, nil_append, unbrace.eq_def]
    dsimp only
    rw [if_pos rfl]
    cases rest with
    | nil => rw [append_nil]
    | cons next rest =>
      have other : next ≠ ch '\x7d' := fun same => ends (congrArg some same)
      dsimp only
      rw [if_neg other, append_nil]
  | cons byte value ih =>
    rw [doubled, flatMap_cons, ← doubled]
    by_cases bracket : byte = ch '\x7d'
    · rw [if_pos bracket, bracket]
      show unbrace copied pending (ch '\x7d' :: ch '\x7d' :: (doubled value ++ ch '\x7d' :: rest)) = _
      rw [unbrace, if_pos rfl, if_pos rfl, ih, append_nil, append_assoc (copied ++ pending), singleton_append]
    · rw [if_neg bracket, append_assoc, singleton_append, unbrace.eq_def]
      dsimp only
      rw [if_neg bracket, ih, ← append_assoc copied, append_assoc (copied ++ pending),
        singleton_append]

theorem readValue_brace (delimiter : Byte) (value : Text) :
    readValue delimiter (ch '\x7b' :: value) = unbrace [] [] value := by
  rw [readValue, ltrim, dropWhile_cons_of_neg (by decide)]
  dsimp only
  rw [if_pos rfl]

theorem DsnPair.piece_reads (pair : DsnPair) : pair.piece.Reads where
  names := pair.names
  value := by
    intro rest ends
    have apart : rest.head? ≠ some (ch '\x7d') := by
      rcases ends with empty | semi
      · rw [empty]
        exact fun same => by cases same
      · rw [semi]
        decide
    rw [DsnPair.piece, cons_append, cons_append, append_assoc, singleton_append, readValue_brace,
      unbrace_doubled pair.value apart]
    exact ⟨pair.trimmed, rfl⟩

def lastValue (field : DsnField) : List DsnPair → Option Text
  | [] => none
  | pair :: pairs => (lastValue field pairs).or (if pair.field = field then some pair.value else none)

theorem str_assignAll {field : DsnField} (string : field.type = .string ∨ field.type = .combo) (dsn : Dsn)
    (pairs : List DsnPair) : (dsn.assignAll pairs).str field = (lastValue field pairs).or (dsn.str field) := by
  induction pairs generalizing dsn with
  | nil => rfl
  | cons pair pairs ih =>
    have one : (dsn.assign pair.field pair.value).2.str field =
        if pair.field = field then some pair.value else dsn.str field := by
      rw [dsn.str_assign]
      by_cases same : pair.field = field
      · rw [if_pos same, same, if_pos string, Function.update_self]
      · rw [if_neg same]
        split
        · exact Function.update_of_ne (Ne.symm same) _ _
        · rfl
    rw [Dsn.assignAll, foldl_cons, ← Dsn.assignAll, ih, one, lastValue, Option.or_assoc]
    congr 1
    split
    · rfl
    · rfl

/-- **Strings of pairs.** A string of pairs with their values in curly brackets is accepted, and stores the values
in order, with the options refreshed behind their bits; the last pair of a field that is a string decides. -/
theorem parseConnString_pairs (dsn : Dsn) (pairs : List DsnPair) :
    parseConnString (ch ';') dsn (pairsText pairs) = (true, dsn.assignAll pairs) ∧
      ∀ field, field.type = .string ∨ field.type = .combo →
        (dsn.assignAll pairs).str field = (lastValue field pairs).or (dsn.str field) := by
  have text : pairsText pairs = piecesText (pairs.map DsnPair.piece) := by
    have one : ∀ pair : DsnPair, pair.text = pair.piece.text := by
      intro pair
      rw [DsnPair.text, append_assoc]
      rfl
    rw [pairsText, piecesText, map_map, funext one]
    rfl
  have all : dsn.assignAll pairs = dsn.assignPieces (pairs.map DsnPair.piece) := by
    rw [Dsn.assignPieces, foldl_map]
    rfl
  have reads : ∀ piece ∈ pairs.map DsnPair.piece, piece.Reads := by
    intro piece member
    obtain ⟨pair, -, rfl⟩ := mem_map.mp member
    exact pair.piece_reads
  rw [text, parseConnString_pieces reads, ← all]
  exact ⟨rfl, fun _ string => str_assignAll string dsn pairs⟩

/-! ### What a value does to a record -/

/-- What a field holds. -/
inductive FieldValue
  | text (value : Option Text)
  | number (value : UInt32)
  | byte (value : UInt8)
  deriving DecidableEq, Repr

abbrev Store := DsnField × Text

namespace DsnField

def read (field : DsnField) (text : Text) : FieldValue :=
  match field.type with
  | .string | .combo => .text (some text)
  | .int => .number (UInt32.ofNat (strtoul text))
  | .bool => .byte (atoiByte text)
  | .cboxgroup => .byte (if atoiByte text = 0 then Dsn.tlsBits text else atoiByte text)
  | .option => .byte (if strtoul text ≠ 0 then 1 else 0)

def Touches (changed field : DsnField) : Prop :=
  changed = field ∨ field = .options ∧ (changed.type = .option ∨ changed = .isTcpIp) ∨
    field = .isTcpIp ∧ changed = .isNamedPipe ∨ field = .isNamedPipe ∧ changed = .isTcpIp

def Alone (field : DsnField) : Prop := field.type ≠ .option ∧ field ≠ .options ∧ field ≠ .isTcpIp

variable {changed field : DsnField}

theorem Alone.not_touches (alone : field.Alone) (different : changed ≠ field) :
    ¬ changed.Touches field := by
  rintro (same | ⟨options, -⟩ | ⟨tcp, -⟩ | ⟨rfl, -⟩)
  · exact different same
  · exact alone.2.1 options
  · exact alone.2.2 tcp
  · exact alone.1 rfl

theorem not_touches_options (different : changed ≠ .options) (tcp : changed ≠ .isTcpIp)
    (option : changed.type ≠ .option) : ¬ changed.Touches .options := by
  simp [Touches, different, tcp, option]

end DsnField

namespace Dsn

variable (dsn : Dsn)

def value (field : DsnField) : FieldValue :=
  match field.type with
  | .string | .combo => .text (dsn.str field)
  | .int => .number (dsn.int field)
  | .bool | .option | .cboxgroup => .byte (dsn.byte field)

def assignStores (stores : List Store) : Dsn := stores.foldl (fun dsn store => (dsn.assign store.1 store.2).2) dsn

/-! ### One value -/

theorem storeValue_eq (field : DsnField) (text : Text) :
    (dsn.storeValue field text true).2 =
      match field.type with
      | .string | .combo => dsn.setStr field text
      | .cboxgroup => dsn.setByte field (if atoiByte text = 0 then tlsBits text else atoiByte text)
      | .int => dsn.setInt field (UInt32.ofNat (strtoul text))
      | .bool =>
        if field = .isTcpIp then
          (dsn.setByte .isTcpIp (atoiByte text)).setOptionValue .isNamedPipe (atoiByte text = 0)
        else dsn.setByte field (atoiByte text)
      | .option =>
        if field = .isNamedPipe then
          (dsn.setOptionValue .isNamedPipe (strtoul text ≠ 0)).setByte .isTcpIp (if strtoul text ≠ 0 then 0 else 1)
        else dsn.setOptionValue field (strtoul text ≠ 0) := by
  have apart : ∀ other : DsnField, other.type ≠ field.type → field ≠ other := by
    rintro other different rfl
    exact different rfl
  rw [storeValue, switchDependents_eq]
  simp only [Bool.not_true, Bool.false_eq_true, and_false, ↓reduceIte]
  cases type : field.type with
  | string | combo | cboxgroup | int =>
    rw [type] at apart
    rw [if_neg (apart .isNamedPipe (by decide)), if_neg (apart .isTcpIp (by decide))]
  | bool =>
    rw [type] at apart
    rw [if_neg (apart .isNamedPipe (by decide))]
    split
    · rename_i tcp
      subst tcp
      rw [byte_setByte, Function.update_self]
    · rfl
  | option =>
    rw [type] at apart
    rw [if_neg (apart .isTcpIp (by decide))]
    split
    · rename_i pipe
      subst pipe
      rw [byte_setOptionValue, Function.update_self]
      by_cases zero : strtoul text = 0
      · simp [zero]
      · simp [zero]
    · rfl

theorem value_storeValue_self (field : DsnField) (text : Text) :
    (dsn.storeValue field text true).2.value field = field.read text := by
  rw [storeValue_eq, value, DsnField.read]
  cases type : field.type with
  | string | combo | cboxgroup | int => simp
  | bool =>
    dsimp only
    split
    · rename_i tcp
      subst tcp
      simp
    · simp
  | option =>
    dsimp only
    split
    · rename_i pipe
      subst pipe
      simp
    · simp

theorem storeValue_frame (apart : ¬ changed.Touches field) (text : Text) :
    (dsn.storeValue changed text true).2.str field = dsn.str field ∧
      (dsn.storeValue changed text true).2.int field = dsn.int field ∧
      (dsn.storeValue changed text true).2.byte field = dsn.byte field := by
  simp only [DsnField.Touches, not_or, not_and] at apart
  obtain ⟨different, bits, tcp, pipe⟩ := apart
  have other : field ≠ changed := Ne.symm different
  rw [storeValue_eq]
  cases type : changed.type with
  | string | combo | cboxgroup | int => simp [other]
  | bool =>
    dsimp only
    split
    · rename_i is_tcp
      have options : field ≠ .options := fun same => (bits same).2 is_tcp
      have unpiped : field ≠ .isNamedPipe := fun same => pipe same is_tcp
      simp [options, unpiped, is_tcp ▸ other]
    · simp [other]
  | option =>
    have options : field ≠ .options := fun same => (bits same).1 type
    dsimp only
    split
    · rename_i is_pipe
      have off : field ≠ .isTcpIp := fun same => tcp same is_pipe
      simp [options, off, is_pipe ▸ other]
    · simp [options, other]

theorem value_storeValue_of_ne (apart : ¬ changed.Touches field) (text : Text) :
    (dsn.storeValue changed text true).2.value field = dsn.value field := by
  obtain ⟨str, int, byte⟩ := dsn.storeValue_frame apart text
  rw [value, value, str, int, byte]

/-! ### One value of a connection string -/

theorem assign_snd (field : DsnField) (text : Text) :
    (dsn.assign field text).2 = if field = .options then (dsn.storeValue field text true).2.updateOptionsFields
      else (dsn.storeValue field text true).2 := by
  rw [assign, storeValue_fst]
  rfl

theorem value_assign_self (field : DsnField) (text : Text) : (dsn.assign field text).2.value field = field.read text := by
  rw [assign_snd, ← dsn.value_storeValue_self field text]
  split
  · rename_i options
    subst options
    exact congrArg FieldValue.number (congrFun (updateOptionsFields_eq _).1 _)
  · rfl

theorem value_assign_of_ne (apart : ¬ changed.Touches field)
    (bits : changed = .options → field.type ≠ .option ∧ field ≠ .isTcpIp) (text : Text) :
    (dsn.assign changed text).2.value field = dsn.value field := by
  rw [assign_snd, ← dsn.value_storeValue_of_ne apart text]
  split
  · rename_i options
    obtain ⟨option, tcp⟩ := bits options
    obtain ⟨int, byte⟩ := (dsn.storeValue changed text true).2.updateOptionsFields_eq
    rw [value, value, str_updateOptionsFields, int, byte, if_neg option, if_neg tcp]
  · rfl

/-- **Behind a list of values**, the last one of a field decides. -/
theorem value_assignStores (alone : field.Alone) (stores : List Store) :
    (dsn.assignStores stores).value field =
      ((stores.reverse.find? (·.1 = field)).map fun store => field.read store.2).getD (dsn.value field) := by
  refine foldl_last (fun dsn : Dsn => dsn.value field) (fun before store _ => ?_) dsn
  by_cases same : store.1 = field
  · rw [if_pos (decide_eq_true same), same]
    exact before.value_assign_self field store.2
  · rw [if_neg (by simp [same])]
    exact before.value_assign_of_ne (alone.not_touches same) (fun _ => ⟨alone.1, alone.2.2⟩) store.2

end Dsn

end MaOdbc
