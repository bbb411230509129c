/-
**Writing a record as a connection string** (`MADB_DsnToString` of `ma_dsn.c`).

Each field that is set is written behind its key, to a buffer of 2048 bytes; a value with a blank, `;` or `@` is put
in curly brackets as it is. A text that does not fit makes `_snprintf` return a negative number, so that the next
one is written over what is there.

* `dsnToString_short`: a text that fits is written.
* `Faithful`: the values that are read as they were written. `parseConnString_text`: a record of such values.
-/

import MaOdbc.Dsn.ConnString

namespace MaOdbc

open List Option

/-- `%d` of an `int`. -/
def printInt (value : UInt32) : Text :=
  if value.toNat < 2 ^ 31 then decimal value.toNat else ch '-' :: decimal (2 ^ 32 - value.toNat)

/-- `%hu` of a `char` that has become a `short`. -/
def printChar (value : UInt8) : Text :=
  decimal (if value.toNat < 2 ^ 7 then value.toNat else 2 ^ 16 - 2 ^ 8 + value.toNat)

/-- `isSpecial`. -/
def isSpecial (value : Text) : Bool :=
  (strchr value (ch ' ')).isSome || (strchr value (ch ';')).isSome || (strchr value (ch '@')).isSome

def enclose (value : Text) : Text := if isSpecial value then ch '\x7b' :: value ++ [ch '\x7d'] else value

/-- `TmpStr` as a C string, and `TotalLength`, where a length below 0 points before the buffer. -/
structure DsnWriter where
  tmpStr : Text := []
  totalLength : Int := 0

open DsnWriter

/-- `_snprintf` to `TmpStr + TotalLength`, unless this points before the buffer. -/
def DsnWriter.print (writer : DsnWriter) (text : Text) : Option DsnWriter :=
  let total := writer.totalLength
  let count := 2048 - total
  if total < 0 then none
  else
    some
      { tmpStr := if count = 0 then writer.tmpStr else writer.tmpStr.take total.toNat ++ text.take (count - 1).toNat
        totalLength := total + if count < text.length then count - text.length - 1 else text.length }

namespace Dsn

variable (dsn : Dsn)

def valueOf (field : DsnField) : Option Text :=
  match field.type with
  | .string | .combo => (dsn.str field).filter (· ≠ [])
  | .int => if dsn.int field ≠ 0 then some (printInt (dsn.int field)) else none
  | .bool => if dsn.byte field ≠ 0 then some (lit "1") else none
  | .cboxgroup => if dsn.byte field ≠ 0 then some (printChar (dsn.byte field)) else none
  | .option => none

/-- A round of the loop of `MADB_DsnToString`. -/
def writeKey (writer : DsnWriter) (entry : DsnEntry) : Option DsnWriter :=
  match if entry.isAlias then none else dsn.valueOf entry.field with
  | none => some writer
  | some value =>
    writer.print
      ((if writer.totalLength = 0 then [] else [ch ';']) ++ (entry.key ++ ch '=' :: enclose value))

/-- `MADB_DsnToString`: what is copied to a buffer that is large enough, and the length. -/
def dsnToString : Option DsnWriter := dsnKeys.foldlM dsn.writeKey {}

/-! ### The text of a record -/

def pieceOf (entry : DsnEntry) : Option DsnPiece :=
  (if entry.isAlias then none else dsn.valueOf entry.field).map fun value =>
    { key := entry.key, field := entry.field, value := value, written := enclose value }

def pieces : List DsnPiece := dsnKeys.filterMap dsn.pieceOf

def text : Text := piecesText dsn.pieces

end Dsn

def DsnWriter.add (writer : DsnWriter) (piece : DsnPiece) : Option DsnWriter :=
  writer.print ((if writer.totalLength = 0 then [] else [ch ';']) ++ piece.text)

theorem Dsn.dsnToString_eq (dsn : Dsn) : dsn.dsnToString = dsn.pieces.foldlM add {} := by
  have all : ∀ (entries : List DsnEntry) (writer : DsnWriter),
      entries.foldlM dsn.writeKey writer = (entries.filterMap dsn.pieceOf).foldlM add writer := by
    intro entries
    induction entries with
    | nil => exact fun _ => rfl
    | cons entry entries ih =>
      intro writer
      rw [foldlM_cons, writeKey, filterMap_cons, pieceOf]
      cases (if entry.isAlias then none else dsn.valueOf entry.field) with
      | none => exact ih writer
      | some value =>
        dsimp only [map_some]
        rw [foldlM_cons]
        exact bind_congr fun writer => ih writer
  exact all dsnKeys {}

theorem DsnWriter.print_short {tmpStr text : Text} (short : tmpStr.length + text.length < 2048) :
    print ⟨tmpStr, tmpStr.length⟩ text = some ⟨tmpStr ++ text, (tmpStr ++ text).length⟩ := by
  rw [print]
  dsimp only
  rw [if_neg (by omega), if_neg (by omega), if_neg (by omega), Int.toNat_natCast, take_length,
    take_of_length_le (by omega), length_append]
  rfl

def added (before : Text) : List DsnPiece → Text
  | [] => []
  | piece :: pieces => (if before = [] then [] else [ch ';']) ++ piecesText (piece :: pieces)

theorem DsnPiece.text_ne_nil (piece : DsnPiece) : piece.text ≠ [] := by
  rw [DsnPiece.text]
  exact append_ne_nil_of_right_ne_nil _ (cons_ne_nil _ _)

theorem added_cons (before : Text) (piece : DsnPiece) (pieces : List DsnPiece) :
    added before (piece :: pieces) = ((if before = [] then [] else [ch ';']) ++ piece.text) ++
      added (before ++ ((if before = [] then [] else [ch ';']) ++ piece.text)) pieces := by
  cases pieces with
  | nil => rw [added, added, piecesText_singleton, append_nil]
  | cons next pieces =>
    have nonempty : before ++ ((if before = [] then [] else [ch ';']) ++ piece.text) ≠ [] :=
      append_ne_nil_of_right_ne_nil _ (append_ne_nil_of_right_ne_nil _ piece.text_ne_nil)
    rw [added, added, if_neg nonempty, piecesText_cons_cons, append_assoc, singleton_append]

theorem foldlM_add_short {pieces : List DsnPiece} {before : Text}
    (short : before.length + (added before pieces).length < 2048) :
    pieces.foldlM add ⟨before, before.length⟩ =
      some ⟨before ++ added before pieces, (before ++ added before pieces).length⟩ := by
  induction pieces generalizing before with
  | nil =>
    rw [foldlM_nil, added, append_nil]
    rfl
  | cons piece pieces ih =>
    have empty : ((before.length : Int) = 0) = (before = []) := by
      rw [Int.natCast_eq_zero, length_eq_zero_iff]
    rw [added_cons] at short ⊢
    generalize new : (if before = [] then [] else [ch ';']) ++ piece.text = text at short ⊢
    rw [length_append] at short
    have one : add ⟨before, before.length⟩ piece = some ⟨before ++ text, (before ++ text).length⟩ := by
      rw [add]
      simp only [empty]
      rw [new, print_short (by omega)]
    rw [foldlM_cons, one, ← append_assoc]
    exact ih (by rw [length_append]; omega)

/-- **A text that fits is written.** -/
theorem Dsn.dsnToString_short {dsn : Dsn} (short : dsn.text.length < 2048) :
    dsn.dsnToString = some ⟨dsn.text, dsn.text.length⟩ := by
  have whole : added [] dsn.pieces = dsn.text := by
    rw [Dsn.text]
    cases dsn.pieces with
    | nil | cons => rfl
  have all : dsn.pieces.foldlM add ⟨[], ([] : Text).length⟩ =
      some ⟨[] ++ added [] dsn.pieces, ([] ++ added [] dsn.pieces).length⟩ :=
    foldlM_add_short (by rw [whole, length_nil]; omega)
  rw [whole] at all
  rw [dsn.dsnToString_eq]
  exact all

/-! ### Values that are read as they were written -/

/-- The brackets of a value do not interfere with those around it. -/
def Plain (value : Text) : Prop :=
  if isSpecial value then ch '\x7d' ∉ value else value.head? ≠ some (ch '\x7b')

instance (value : Text) : Decidable (Plain value) := by
  unfold Plain
  infer_instance

/-- A value that is read as it was written: not empty, no blanks at its ends, no brackets that interfere. -/
structure Faithful (value : Text) : Prop where
  nonempty : value ≠ []
  trimmed : trim value = value
  plain : Plain value

instance (value : Text) : Decidable (Faithful value) :=
  decidable_of_iff (value ≠ [] ∧ trim value = value ∧ Plain value)
    ⟨fun ⟨nonempty, trimmed, plain⟩ => ⟨nonempty, trimmed, plain⟩,
      fun ⟨nonempty, trimmed, plain⟩ => ⟨nonempty, trimmed, plain⟩⟩

variable {value : Text} {field : DsnField}

theorem not_mem_of_not_isSpecial (special : isSpecial value = false) : ch ';' ∉ value := by
  rw [isSpecial, Bool.or_eq_false_iff, Bool.or_eq_false_iff] at special
  have none := special.1.2
  rw [isSome_eq_false_iff, isNone_iff_eq_none, strchr, findIdx?_eq_none_iff] at none
  intro member
  have := none _ member
  rw [beq_self_eq_true] at this
  cases this

theorem doubled_of_not_mem (none : ch '\x7d' ∉ value) : doubled value = value := by
  induction value with
  | nil => rfl
  | cons byte value ih =>
    rw [mem_cons, not_or] at none
    rw [doubled, flatMap_cons, ← doubled, ih none.2, if_neg (Ne.symm none.1), singleton_append]

theorem readValue_open {rest : Text} (trimmed : trim value = value) (nonempty : value ≠ [])
    (first : value.head? ≠ some (ch '\x7b')) (none : ch ';' ∉ value)
    (ends : rest = [] ∨ rest.head? = some (ch ';')) :
    (readValue (ch ';') (value ++ rest)).1 = value ∧ (readValue (ch ';') (value ++ rest)).2.getD [] = rest := by
  have apart : ∀ byte ∈ value, (byte == ch ';') = false := by
    intro byte member
    rw [beq_eq_false_iff_ne]
    rintro rfl
    exact none member
  have whole := ltrim_of_trimmed trimmed
  obtain ⟨byte, value, rfl⟩ := exists_cons_of_ne_nil nonempty
  have blank : isSpace byte = false := by
    cases space : isSpace byte with
    | false => rfl
    | true =>
      have shorter := (dropWhile_suffix isSpace : value.dropWhile isSpace <:+ value).length_le
      rw [ltrim, dropWhile_cons_of_pos space] at whole
      rw [whole, length_cons] at shorter
      omega
  have front : ltrim (byte :: value ++ rest) = byte :: (value ++ rest) := by
    rw [ltrim, cons_append, dropWhile_cons_of_neg (by rw [blank]; exact Bool.false_ne_true)]
  have other : byte ≠ ch '\x7b' := fun same => first (congrArg some same)
  rw [readValue, front]
  dsimp only
  rw [if_neg other, ← cons_append, strchr, findIdx?_append, findIdx?_eq_none_iff.mpr apart]
  rcases ends with rfl | semi
  · rw [append_nil]
    exact ⟨rfl, rfl⟩
  · obtain ⟨tail, rfl⟩ : ∃ tail, rest = ch ';' :: tail := by
      cases rest with
      | nil => cases semi
      | cons head tail =>
        rw [head?_cons, some.injEq] at semi
        exact ⟨tail, by rw [semi]⟩
    rw [findIdx?_cons, beq_self_eq_true, if_pos rfl, map_some, Nat.zero_add]
    exact ⟨take_left, drop_left⟩

theorem Faithful.reads (faithful : Faithful value) {entry : DsnEntry} (member : entry ∈ dsnKeys) :
    DsnPiece.Reads { key := entry.key, field := entry.field, value := value, written := enclose value } where
  names := ⟨entry, member, by rw [sameNoCase, beq_self_eq_true], rfl⟩
  value := by
    intro rest ends
    have plain := faithful.plain
    rw [Plain] at plain
    dsimp only
    rw [enclose]
    cases special : isSpecial value with
    | true =>
      rw [special, if_pos rfl] at plain
      have apart : rest.head? ≠ some (ch '\x7d') := by
        rcases ends with empty | semi
        · rw [empty]
          exact fun same => by cases same
        · rw [semi]
          decide
      have read := unbrace_doubled value apart [] []
      rw [doubled_of_not_mem plain] at read
      rw [if_pos rfl, cons_append, cons_append, append_assoc, singleton_append, readValue_brace,
        read]
      exact ⟨faithful.trimmed, rfl⟩
    | false =>
      rw [special, if_neg Bool.false_ne_true] at plain
      rw [if_neg Bool.false_ne_true]
      obtain ⟨read, next⟩ :=
        readValue_open faithful.trimmed faithful.nonempty plain (not_mem_of_not_isSpecial special) ends
      rw [read]
      exact ⟨faithful.trimmed, next⟩

/-! ### Numbers -/

theorem faithful_of_bytes (nonempty : value ≠ [])
    (bytes : ∀ byte ∈ value, isDigit byte = true ∨ byte = ch '-') : Faithful value := by
  have apart : ∀ byte ∈ value, isSpace byte = false ∧ byte ≠ ch ' ' ∧ byte ≠ ch ';' ∧ byte ≠ ch '@' ∧
      byte ≠ ch '\x7b' := by
    have all : ∀ value < 256, isDigit (UInt8.ofNat value) = true ∨ UInt8.ofNat value = ch '-' →
        isSpace (UInt8.ofNat value) = false ∧ UInt8.ofNat value ≠ ch ' ' ∧ UInt8.ofNat value ≠ ch ';' ∧
          UInt8.ofNat value ≠ ch '@' ∧ UInt8.ofNat value ≠ ch '\x7b' := by
      decide +kernel
    intro byte member
    have here := all byte.toNat (UInt8.toNat_lt byte)
    rw [UInt8.ofNat_toNat] at here
    exact here (bytes byte member)
  have missing : ∀ byte, (∀ other ∈ value, other ≠ byte) → (strchr value byte).isSome = false := by
    intro byte others
    rw [isSome_eq_false_iff, isNone_iff_eq_none, strchr, findIdx?_eq_none_iff]
    intro other member
    rw [beq_eq_false_iff_ne]
    exact others other member
  have special : isSpecial value = false := by
    rw [isSpecial, missing _ fun byte member => (apart byte member).2.1,
      missing _ fun byte member => (apart byte member).2.2.1, missing _ fun byte member => (apart byte member).2.2.2.1]
    rfl
  refine ⟨nonempty, trim_eq_self fun byte member => (apart byte member).1, ?_⟩
  rw [Plain, special, if_neg Bool.false_ne_true]
  intro first
  exact (apart _ (mem_of_mem_head? first)).2.2.2.2 rfl

theorem faithful_decimal (n : Nat) : Faithful (decimal n) := by
  obtain ⟨byte, text, written, -⟩ := decimal_cons n
  exact faithful_of_bytes (by rw [written]; exact cons_ne_nil _ _)
    fun byte member => .inl (isDigit_of_mem_decimal member)

theorem faithful_printInt (value : UInt32) : Faithful (printInt value) := by
  rw [printInt]
  split
  · exact faithful_decimal _
  · refine faithful_of_bytes (cons_ne_nil _ _) fun byte member => ?_
    rcases mem_cons.mp member with minus | digit
    · exact .inr minus
    · exact .inl (isDigit_of_mem_decimal digit)

def Dsn.StringsFaithful (dsn : Dsn) : Prop :=
  ∀ field, field.type = .string ∨ field.type = .combo → ∀ value, dsn.str field = some value → value = [] ∨ Faithful value

theorem Dsn.StringsFaithful.valueOf {dsn : Dsn} (strings : dsn.StringsFaithful)
    (written : dsn.valueOf field = some value) : Faithful value := by
  have string : (dsn.str field).filter (· ≠ []) = some value → (field.type = .string ∨ field.type = .combo) →
      Faithful value := by
    intro kept type
    obtain ⟨stored, nonempty⟩ := filter_eq_some_iff.mp kept
    exact (strings field type value stored).resolve_left (of_decide_eq_true nonempty)
  rw [Dsn.valueOf] at written
  cases type : field.type with
  | string =>
    rw [type] at written
    exact string written (.inl type)
  | combo =>
    rw [type] at written
    exact string written (.inr type)
  | int =>
    rw [type] at written
    dsimp only at written
    split at written
    · rw [← some.inj written]
      exact faithful_printInt _
    · cases written
  | bool =>
    rw [type] at written
    dsimp only at written
    split at written
    · rw [← some.inj written]
      decide
    · cases written
  | cboxgroup =>
    rw [type] at written
    dsimp only at written
    split at written
    · rw [← some.inj written]
      exact faithful_decimal _
    · cases written
  | option =>
    rw [type] at written
    cases written

/-- **The text of a record with such strings is read as it was written.** -/
theorem Dsn.StringsFaithful.parseConnString_text {dsn : Dsn} (strings : dsn.StringsFaithful) (fresh : Dsn) :
    parseConnString (ch ';') fresh dsn.text = (true, fresh.assignPieces dsn.pieces) := by
  refine parseConnString_pieces (fun piece member => ?_) fresh
  obtain ⟨entry, here, made⟩ := mem_filterMap.mp member
  rw [Dsn.pieceOf, map_eq_some_iff] at made
  obtain ⟨value, written, rfl⟩ := made
  refine Faithful.reads ?_ here
  split at written
  · cases written
  · exact strings.valueOf written

/-! ### What the pieces of a record do -/

namespace Dsn

variable (dsn : Dsn)

theorem assignPieces_eq (pieces : List DsnPiece) :
    dsn.assignPieces pieces = dsn.assignStores (pieces.map fun piece => (piece.field, piece.value)) := by
  rw [assignStores, foldl_map]
  rfl

theorem valueOf_of_mem {piece : DsnPiece} (member : piece ∈ dsn.pieces) : dsn.valueOf piece.field = some piece.value := by
  obtain ⟨entry, -, made⟩ := mem_filterMap.mp member
  rw [pieceOf, map_eq_some_iff] at made
  obtain ⟨value, written, rfl⟩ := made
  split at written
  · cases written
  · exact written

theorem exists_piece (written : dsn.valueOf field = some value) :
    ∃ piece ∈ dsn.pieces, piece.field = field := by
  obtain ⟨entry, member, main, rfl⟩ := dsnKeys_main field
  refine ⟨{ key := entry.key, field := entry.field, value := value, written := enclose value },
    mem_filterMap.mpr ⟨entry, member, ?_⟩, rfl⟩
  rw [pieceOf, main, if_neg Bool.false_ne_true, written]
  rfl

theorem value_assignPieces (alone : field.Alone) (fresh : Dsn) :
    (fresh.assignPieces dsn.pieces).value field = ((dsn.valueOf field).map field.read).getD (fresh.value field) := by
  rw [assignPieces_eq, value_assignStores _ alone]
  cases last : (dsn.pieces.map fun piece => (piece.field, piece.value)).reverse.find? (·.1 = field) with
  | none =>
    cases written : dsn.valueOf field with
    | none => rfl
    | some value =>
      obtain ⟨piece, member, same⟩ := dsn.exists_piece written
      refine absurd (decide_eq_true same) (find?_eq_none.mp last (piece.field, piece.value) ?_)
      exact mem_reverse.mpr (mem_map_of_mem member)
  | some store =>
    obtain ⟨piece, member, rfl⟩ := mem_map.mp (mem_reverse.mp (mem_of_find?_eq_some last))
    have same : piece.field = field := by simpa using find?_some last
    rw [← same, dsn.valueOf_of_mem member]
    rfl

end Dsn

end MaOdbc
