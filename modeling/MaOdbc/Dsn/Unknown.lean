/-
**Pairs with an unknown key in a connection string** (`MADB_ParseConnString`).

A value in curly brackets is read up to its closing bracket if the key is known. If it is not, the pair is skipped up
to the next semicolon, even if that stands in the value: what follows it is then read as pairs.

* `quietPieces`: the pieces of a value behind its semicolons do nothing when they are read as pairs.
* `pairsOf_quiet`, `pairsOf_loud`: such pieces are passed over; others store a value or are refused.
* `unknown_inert_iff`: with which unknown pairs a connection string means the same as without them.
-/

import MaOdbc.Dsn.Buffer
import MaOdbc.Dsn.Numbers

namespace MaOdbc

open List

/-- Pieces that do nothing when they are read as pairs. A key may go on over several pieces up to an equals sign; it
is unknown then, since it has a semicolon. The last key must have its equals sign. -/
def quietPieces : Bool → List Text → Bool
  | pending, [] => !pending
  | true, piece :: pieces => quietPieces (!piece.contains (ch '=')) pieces
  | false, piece :: pieces =>
    if piece = [] then quietPieces false pieces
    else if piece.contains (ch '=') then
      (findKey (trim (piece.takeWhile (· != ch '=')))).isNone && quietPieces false pieces
    else quietPieces true pieces

/-- Pieces with a semicolon in front of each, and what follows them. -/
def following (pieces : List Text) (rest : Text) : Text := pieces.flatMap (ch ';' :: ·) ++ rest

theorem following_cons (piece : Text) (pieces : List Text) (rest : Text) :
    following (piece :: pieces) rest = ch ';' :: (piece ++ following pieces rest) := by
  rw [following, flatMap_cons, append_assoc, following]
  rfl

def Ends (rest : Text) : Prop := rest = [] ∨ rest.head? = some (ch ';')

variable {rest key piece : Text} {byte : Byte} {pending next : Option Text} {pieces : List Text}

theorem ends_following (ends : Ends rest) (pieces : List Text) : Ends (following pieces rest) := by
  cases pieces with
  | nil => exact ends
  | cons piece pieces =>
    rw [following_cons]
    exact .inr rfl

theorem intercalate_append (piece : Text) (pieces : List Text) (rest : Text) :
    [ch ';'].intercalate (piece :: pieces) ++ rest = piece ++ following pieces rest := by
  induction pieces generalizing piece with
  | nil => rw [intercalate_singleton]; rfl
  | cons next pieces ih =>
    rw [intercalate_cons_cons, append_assoc, append_assoc, ih, following_cons]
    rfl

/-! ### Keys that are not known -/

theorem mem_dropWhile {pass : Byte → Bool} (stops : pass byte = false) {text : Text}
    (member : byte ∈ text) : byte ∈ text.dropWhile pass := by
  rw [← takeWhile_append_dropWhile (p := pass) (l := text), mem_append] at member
  refine member.resolve_left fun passed => ?_
  rw [mem_takeWhile_imp passed] at stops
  cases stops

theorem mem_trim (solid : isSpace byte = false) {text : Text} (member : byte ∈ text) :
    byte ∈ trim text := by
  rw [trim, rtrim, List.rdropWhile, mem_reverse]
  exact mem_dropWhile solid (mem_reverse.mpr (mem_dropWhile solid member))

theorem findKey_of_semi (semi : ch ';' ∈ key) : findKey (trim key) = none := by
  have inside : ch ';' ∈ trim key := mem_trim rfl semi
  rw [findKey, Option.map_eq_none_iff, find?_eq_none]
  intro entry member same
  rw [sameNoCase, beq_iff_eq] at same
  have bytes := (dsnKeys_bytes entry member).2
  rw [same] at bytes
  exact (bytes (lower (ch ';')) (mem_map_of_mem inside)).2.1 rfl

theorem pairsOf_skip (nulFree : 0 ∉ key) (noEquals : ch '=' ∉ key)
    (apart : key.head? ≠ some (ch ';')) (unknown : findKey (trim key) = none) {value : Text}
    (bytes : ∀ byte ∈ value, byte ≠ 0 ∧ byte ≠ ch ';') (ends : Ends rest) :
    pairsOf (ch ';') (key ++ ch '=' :: (value ++ rest)) = pairsOf (ch ';') (rest.drop 1) := by
  rw [pairsOf_key nulFree noEquals rfl apart, unknown]
  dsimp only
  cases rest with
  | nil =>
    rw [append_nil, strchrIn_end rfl bytes, drop_nil]
    rfl
  | cons byte rest =>
    have semi : byte = ch ';' := Option.some.inj (ends.resolve_left (cons_ne_nil _ _))
    subst semi
    rw [strchrIn_delimiter rfl bytes]
    dsimp only
    rw [drop_succ_append]
    rfl

def PieceBytes (piece : Text) : Prop := ∀ byte ∈ piece, byte ≠ 0 ∧ byte ≠ ch ';'

theorem split_equals (bytes : PieceBytes piece) (equals : piece.contains (ch '=') = true) :
    ∃ key value, piece = key ++ ch '=' :: value ∧ piece.takeWhile (· != ch '=') = key ∧ ch '=' ∉ key ∧
      PieceBytes key ∧ PieceBytes value := by
  obtain ⟨key, value, rfl, noEquals⟩ := eq_append_cons_of_mem (contains_iff_mem.mp equals)
  refine ⟨key, value, rfl, ?_, noEquals, fun byte member => bytes byte (mem_append_left _ member),
    fun byte member => bytes byte (mem_append_right _ (mem_cons_of_mem _ member))⟩
  have other : ∀ byte ∈ key, (byte != ch '=') = true := by
    intro byte member
    rw [bne_iff_ne]
    rintro rfl
    exact noEquals member
  rw [takeWhile_append_of_pos other, takeWhile_cons_of_neg (by decide), append_nil]

structure PendingKey (key : Text) : Prop where
  nonempty : key ≠ []
  nulFree : 0 ∉ key
  noEquals : ch '=' ∉ key
  apart : key.head? ≠ some (ch ';')

theorem pendingKey_of_piece (bytes : PieceBytes piece) (nonempty : piece ≠ [])
    (noEquals : ¬ piece.contains (ch '=') = true) : PendingKey piece where
  nonempty := nonempty
  nulFree := fun member => (bytes 0 member).1 rfl
  noEquals := fun member => noEquals (contains_iff_mem.mpr member)
  apart := fun head => (bytes _ (mem_of_head? head)).2 rfl

theorem PendingKey.append (pending : PendingKey key) {part : Text} (bytes : PieceBytes part)
    (noEquals : ch '=' ∉ part) : PendingKey (key ++ ch ';' :: part) where
  nonempty := append_ne_nil_of_left_ne_nil pending.nonempty _
  nulFree := by
    rw [mem_append, mem_cons]
    rintro (here | semi | later)
    · exact pending.nulFree here
    · revert semi
      decide
    · exact (bytes 0 later).1 rfl
  noEquals := by
    rw [mem_append, mem_cons]
    rintro (here | semi | later)
    · exact pending.noEquals here
    · revert semi
      decide
    · exact noEquals later
  apart := by
    rw [head?_append_of_ne_nil _ pending.nonempty]
    exact pending.apart

theorem PendingKey.pairsOf_skip (pending : PendingKey key) (bytes : PieceBytes piece)
    (equals : piece.contains (ch '=') = true) (ends : Ends rest) :
    pairsOf (ch ';') (key ++ ch ';' :: (piece ++ rest)) = pairsOf (ch ';') (rest.drop 1) := by
  obtain ⟨part, value, rfl, -, noEquals, partBytes, valueBytes⟩ := split_equals bytes equals
  have longer := pending.append partBytes noEquals
  have unknown := findKey_of_semi (mem_append_right key (mem_cons_self (a := ch ';') (l := part)))
  have text : key ++ ch ';' :: (part ++ ch '=' :: value ++ rest) =
      (key ++ ch ';' :: part) ++ ch '=' :: (value ++ rest) := by
    simp only [append_assoc, cons_append]
  rw [text, MaOdbc.pairsOf_skip longer.nulFree longer.noEquals longer.apart unknown valueBytes ends]

theorem pairsOf_skip_piece (bytes : PieceBytes piece) (equals : piece.contains (ch '=') = true)
    (unknown : findKey (trim (piece.takeWhile (· != ch '='))) = none) (ends : Ends rest) :
    pairsOf (ch ';') (piece ++ rest) = pairsOf (ch ';') (rest.drop 1) := by
  obtain ⟨key, value, rfl, same, noEquals, keyBytes, valueBytes⟩ := split_equals bytes equals
  rw [same] at unknown
  rw [append_assoc, cons_append]
  exact pairsOf_skip (fun member => (keyBytes 0 member).1 rfl) noEquals
    (fun head => (keyBytes _ (mem_of_head? head)).2 rfl) unknown valueBytes ends

/-- The text that the pieces are read from: a key that goes on stands in front of them. -/
def piecesFrom (pending : Option Text) (pieces : List Text) (rest : Text) : Text :=
  match pending with
  | none => (following pieces rest).drop 1
  | some key => key ++ following pieces rest

/-- What becomes of the key that goes on, unless the piece starts with a known key. -/
def nextKey (pending : Option Text) (piece : Text) : Option (Option Text) :=
  match pending with
  | some key => some (if piece.contains (ch '=') then none else some (key ++ ch ';' :: piece))
  | none =>
    if piece = [] then some none
    else if piece.contains (ch '=') then
      if (findKey (trim (piece.takeWhile (· != ch '=')))).isNone then some none else none
    else some (some piece)

theorem quietPieces_cons (pending : Option Text) (piece : Text) (pieces : List Text) :
    quietPieces pending.isSome (piece :: pieces) =
      (nextKey pending piece).elim false fun next => quietPieces next.isSome pieces := by
  cases pending with
  | some key =>
    rw [Option.isSome_some, quietPieces, nextKey]
    cases piece.contains (ch '=') with
    | true | false => rfl
  | none =>
    rw [Option.isSome_none, quietPieces, nextKey]
    by_cases empty : piece = []
    · rw [if_pos empty, if_pos empty]
      rfl
    · rw [if_neg empty, if_neg empty]
      cases piece.contains (ch '=') with
      | false => rfl
      | true =>
        cases findKey (trim (piece.takeWhile (· != ch '='))) with
        | none | some => rfl

theorem pendingKey_nextKey (key : ∀ text ∈ pending, PendingKey text) (bytes : PieceBytes piece)
    (steps : nextKey pending piece = some next) : ∀ text ∈ next, PendingKey text := by
  intro text same
  cases pending with
  | some before =>
    rw [nextKey, Option.some.injEq] at steps
    split at steps
    · rw [← steps] at same
      cases same
    · rename_i noEquals
      rw [← steps] at same
      rw [← Option.some.inj same]
      exact (key before rfl).append bytes fun member => noEquals (contains_iff_mem.mpr member)
  | none =>
    rw [nextKey] at steps
    split at steps
    · rw [← Option.some.inj steps] at same
      cases same
    · rename_i nonempty
      split at steps
      · split at steps
        · rw [← Option.some.inj steps] at same
          cases same
        · cases steps
      · rename_i noEquals
        rw [← Option.some.inj steps] at same
        rw [← Option.some.inj same]
        exact pendingKey_of_piece bytes nonempty noEquals

/-- **One piece is passed over.** -/
theorem pairsOf_piece (key : ∀ text ∈ pending, PendingKey text) (bytes : PieceBytes piece)
    (steps : nextKey pending piece = some next) (ends : Ends rest) :
    pairsOf (ch ';') (piecesFrom pending (piece :: pieces) rest) = pairsOf (ch ';') (piecesFrom next pieces rest) := by
  have ends' := ends_following ends pieces
  cases pending with
  | some before =>
    have whole : piecesFrom (some before) (piece :: pieces) rest =
        before ++ ch ';' :: (piece ++ following pieces rest) := by
      rw [piecesFrom, following_cons]
    rw [whole]
    rw [nextKey, Option.some.injEq] at steps
    split at steps
    · rename_i equals
      subst steps
      exact (key before rfl).pairsOf_skip bytes equals ends'
    · subst steps
      rw [piecesFrom, append_assoc, cons_append]
  | none =>
    have whole : piecesFrom none (piece :: pieces) rest = piece ++ following pieces rest := by
      rw [piecesFrom, following_cons]
      rfl
    rw [whole]
    rw [nextKey] at steps
    split at steps
    · rename_i empty
      rw [← Option.some.inj steps, empty, nil_append]
      -- a semicolon is skipped
      cases later : following pieces rest with
      | nil => rw [piecesFrom, later, drop_nil]
      | cons byte text =>
        rw [later] at ends'
        have semi : byte = ch ';' := Option.some.inj (ends'.resolve_left (cons_ne_nil _ _))
        rw [semi, pairsOf, length_cons, readPairs, if_pos ⟨by decide, rfl⟩, ← pairsOf, piecesFrom, later]
        rfl
    · split at steps
      · rename_i equals
        split at steps
        · rename_i unknown
          rw [← Option.some.inj steps]
          exact pairsOf_skip_piece bytes equals (Option.isNone_iff_eq_none.mp unknown) ends'
        · cases steps
      · rw [← Option.some.inj steps]
        rfl

/-- **Quiet pieces are passed over.** -/
theorem pairsOf_quiet (bytes : ∀ piece ∈ pieces, PieceBytes piece) (ends : Ends rest)
    (key : ∀ text ∈ pending, PendingKey text) (quiet : quietPieces pending.isSome pieces = true) :
    pairsOf (ch ';') (piecesFrom pending pieces rest) = pairsOf (ch ';') (rest.drop 1) := by
  induction pieces generalizing pending with
  | nil =>
    cases pending with
    | none => rfl
    | some text => cases quiet
  | cons piece pieces ih =>
    obtain ⟨head, tail⟩ := forall_mem_cons.mp bytes
    rw [quietPieces_cons] at quiet
    cases steps : nextKey pending piece with
    | none =>
      rw [steps] at quiet
      cases quiet
    | some next =>
      rw [steps] at quiet
      rw [pairsOf_piece key head steps ends]
      exact ih tail (pendingKey_nextKey key head steps) quiet

theorem stores_of_known {piece : Text} (bytes : PieceBytes piece) (steps : nextKey none piece = none)
    (rest : Text) : (pairsOf (ch ';') (piece ++ rest)).2 ≠ [] := by
  rw [nextKey] at steps
  split at steps
  · cases steps
  · split at steps
    · rename_i equals
      split at steps
      · cases steps
      · rename_i known
        obtain ⟨field, found⟩ := Option.ne_none_iff_exists'.mp fun none => known (Option.isNone_iff_eq_none.mpr none)
        obtain ⟨key, value, rfl, same, noEquals, keyBytes, -⟩ := split_equals bytes equals
        rw [same] at found
        rw [append_assoc, cons_append, pairsOf_key (fun member => (keyBytes 0 member).1 rfl) noEquals rfl
          (fun head => (keyBytes _ (mem_of_head? head)).2 rfl), found]
        dsimp only
        split
        · exact cons_ne_nil _ _
        · exact cons_ne_nil _ _
    · cases steps

/-- **Other pieces are refused or store a value.** -/
theorem pairsOf_loud (bytes : ∀ piece ∈ pieces, PieceBytes piece)
    (key : ∀ text ∈ pending, PendingKey text) (loud : quietPieces pending.isSome pieces = false) :
    (pairsOf (ch ';') (piecesFrom pending pieces [])).1 = false ∨
      (pairsOf (ch ';') (piecesFrom pending pieces [])).2 ≠ [] := by
  induction pieces generalizing pending with
  | nil =>
    cases pending with
    | none => cases loud
    | some text =>
      -- the key never gets its equals sign
      have pendingText := key text rfl
      have whole : piecesFrom (some text) [] [] = text := append_nil _
      rw [whole]
      obtain ⟨byte, tail, rfl⟩ := exists_cons_of_ne_nil pendingText.nonempty
      have none : strchrIn (byte :: tail) (ch '=') = none := by
        rw [strchrIn, if_neg (by decide), cstr_of_nulFree pendingText.nulFree, strchr_eq_none pendingText.noEquals]
      have other : ¬ (ch ';' ≠ 0 ∧ byte = ch ';') := fun same => pendingText.apart (congrArg some same.2)
      rw [pairsOf, length_cons, readPairs, if_neg other, none]
      exact .inl rfl
  | cons piece pieces ih =>
    obtain ⟨head, tail⟩ := forall_mem_cons.mp bytes
    rw [quietPieces_cons] at loud
    cases steps : nextKey pending piece with
    | none =>
      cases pending with
      | some text => cases steps
      | none =>
        have whole : piecesFrom none (piece :: pieces) [] = piece ++ following pieces [] := by
          rw [piecesFrom, following_cons]
          rfl
        rw [whole]
        exact .inr (stores_of_known head steps _)
    | some next =>
      rw [steps] at loud
      rw [pairsOf_piece key head steps (.inl rfl)]
      exact ih tail (pendingKey_nextKey key head steps) loud

/-! ### Pairs -/

theorem mem_of_mem_splitOn {sign : Byte} {text : Text} (member : piece ∈ text.splitOn sign)
    (inside : byte ∈ piece) : byte ∈ text ∧ byte ≠ sign := by
  induction text generalizing piece with
  | nil =>
    rw [splitOn_nil, mem_singleton] at member
    rw [member] at inside
    cases inside
  | cons head text ih =>
    rw [splitOn_cons_eq_if_modifyHead] at member
    split at member
    · rcases mem_cons.mp member with rfl | later
      · cases inside
      · exact ⟨mem_cons_of_mem _ (ih later inside).1, (ih later inside).2⟩
    · rename_i other
      obtain ⟨first, pieces, split⟩ := exists_cons_of_ne_nil (splitOn_ne_nil sign text)
      rw [split] at ih member
      rw [modifyHead_cons, mem_cons] at member
      rcases member with rfl | later
      · rcases mem_cons.mp inside with rfl | rest
        · exact ⟨mem_cons_self, fun same => other (beq_iff_eq.mpr same)⟩
        · obtain ⟨here, apart⟩ := ih mem_cons_self rest
          exact ⟨mem_cons_of_mem _ here, apart⟩
      · obtain ⟨here, apart⟩ := ih (mem_cons_of_mem _ later) inside
        exact ⟨mem_cons_of_mem _ here, apart⟩

/-- A pair with its value in curly brackets. -/
structure BracedPair where
  key : Text
  value : Text
  keyBytes : ∀ byte ∈ key, byte ≠ 0 ∧ byte ≠ ch ';' ∧ byte ≠ ch '='
  nulFree : 0 ∉ value

/-- A pair of a well-formed string: its value is in brackets, or free of the delimiter. -/
inductive ConnPair
  | plain (pair : PlainPair)
  | braced (pair : BracedPair)

namespace BracedPair

variable (pair : BracedPair)

/-- The value as it is written, with its closing brackets doubled. -/
def written : Text := ch '\x7b' :: doubled pair.value ++ [ch '\x7d']

def text : Text := pair.key ++ ch '=' :: pair.written

def Unknown : Prop := findKey (trim pair.key) = none

/-- What stands behind the semicolons of the value does nothing when it is read as pairs. -/
def Quiet : Prop := quietPieces false (pair.written.splitOn (ch ';')).tail = true

def stores : List Store := (findKey (trim pair.key)).toList.map fun field => (field, trim pair.value)

theorem nulFree_written : 0 ∉ pair.written := by
  rw [written, mem_append, mem_cons]
  rintro ((opening | inside) | closing)
  · revert opening
    decide
  · rw [doubled, mem_flatMap] at inside
    obtain ⟨byte, member, here⟩ := inside
    split at here
    · rw [mem_cons, mem_singleton, or_self] at here
      exact pair.nulFree (here ▸ member)
    · exact pair.nulFree (mem_singleton.mp here ▸ member)
  · revert closing
    decide

theorem nulFree_text : 0 ∉ pair.text := by
  rw [text, mem_append, mem_cons]
  rintro (key | equals | value)
  · exact (pair.keyBytes 0 key).1 rfl
  · revert equals
    decide
  · exact pair.nulFree_written value

theorem exists_pieces : ∃ first pieces, pair.written.splitOn (ch ';') = first :: pieces ∧
    pair.written = [ch ';'].intercalate (first :: pieces) ∧ PieceBytes first ∧ ∀ piece ∈ pieces, PieceBytes piece := by
  obtain ⟨first, pieces, split⟩ := exists_cons_of_ne_nil (splitOn_ne_nil (ch ';') pair.written)
  have whole : [ch ';'].intercalate (first :: pieces) = pair.written := by
    rw [← split]
    exact intercalate_splitOn _
  have bytes : ∀ piece ∈ first :: pieces, PieceBytes piece := by
    intro piece member byte inside
    rw [← split] at member
    obtain ⟨here, other⟩ := mem_of_mem_splitOn member inside
    exact ⟨fun zero => pair.nulFree_written (zero ▸ here), other⟩
  obtain ⟨head, tail⟩ := forall_mem_cons.mp bytes
  exact ⟨first, pieces, split, whole.symm, head, tail⟩

theorem keyApart : 0 ∉ pair.key ∧ ch '=' ∉ pair.key ∧ pair.key.head? ≠ some (ch ';') :=
  ⟨fun member => (pair.keyBytes 0 member).1 rfl, fun member => (pair.keyBytes _ member).2.2 rfl,
    fun head => (pair.keyBytes _ (mem_of_head? head)).2.1 rfl⟩

theorem pairsOf_unknown (unknown : pair.Unknown) (ends : Ends rest) :
    pairsOf (ch ';') (pair.text ++ rest) =
      pairsOf (ch ';') (piecesFrom none (pair.written.splitOn (ch ';')).tail rest) := by
  obtain ⟨first, pieces, split, whole, head, -⟩ := pair.exists_pieces
  obtain ⟨nulFree, noEquals, apart⟩ := pair.keyApart
  rw [split, tail_cons, text, append_assoc, cons_append, whole, intercalate_append,
    pairsOf_skip nulFree noEquals apart unknown head (ends_following ends pieces)]
  rfl

theorem pairsOf_known {field : DsnField} (known : findKey (trim pair.key) = some field)
    (nulFree : 0 ∉ rest) (ends : Ends rest) :
    pairsOf (ch ';') (pair.text ++ rest) =
      ((pairsOf (ch ';') (rest.drop 1)).1, (field, trim pair.value) :: (pairsOf (ch ';') (rest.drop 1)).2) := by
  obtain ⟨keyFree, noEquals, apart⟩ := pair.keyApart
  have noBracket : rest.head? ≠ some (ch '\x7d') := by
    rcases ends with rfl | semi
    · exact fun same => by cases same
    · rw [semi]
      decide
  have value : readValueIn (ch ';') (pair.written ++ rest) = (pair.value, some rest) := by
    have free : 0 ∉ pair.written ++ rest := by
      rw [mem_append]
      exact fun either => either.elim pair.nulFree_written nulFree
    rw [readValueIn_of_nulFree free (by decide), written, cons_append, cons_append, append_assoc,
      readValue_brace]
    exact unbrace_doubled pair.value noBracket [] []
  rw [text, append_assoc, cons_append, pairsOf_key keyFree noEquals rfl apart, known, value]

end BracedPair

namespace ConnPair

def text : ConnPair → Text
  | plain pair => pair.text
  | braced pair => pair.text

def stores : ConnPair → List Store
  | plain pair => pair.stores
  | braced pair => pair.stores

/-- If the key of a pair in brackets is unknown, its value is quiet. -/
def Passes : ConnPair → Prop
  | plain _ => True
  | braced pair => pair.Unknown → pair.Quiet

theorem nulFree_text (pair : ConnPair) : 0 ∉ pair.text := by
  cases pair with
  | plain pair => exact pair.nulFree_text
  | braced pair => exact pair.nulFree_text

/-- **One pair of a string.** -/
theorem pairsOf_text {pair : ConnPair} (passes : pair.Passes) (nulFree : 0 ∉ rest)
    (ends : Ends rest) :
    pairsOf (ch ';') (pair.text ++ rest) =
      ((pairsOf (ch ';') (rest.drop 1)).1, pair.stores ++ (pairsOf (ch ';') (rest.drop 1)).2) := by
  cases pair with
  | plain pair =>
    cases rest with
    | nil =>
      rw [append_nil]
      exact (pair.pairsOf_end rfl).trans (congrArg (Prod.mk true) (append_nil _).symm)
    | cons byte rest =>
      have semi : byte = ch ';' := Option.some.inj (ends.resolve_left (cons_ne_nil _ _))
      subst semi
      exact pair.pairsOf_delimiter rfl rest
  | braced pair =>
    cases known : findKey (trim pair.key) with
    | some field =>
      rw [text, pair.pairsOf_known known nulFree ends, stores, BracedPair.stores, known]
      rfl
    | none =>
      obtain ⟨first, pieces, split, -, -, tail⟩ := pair.exists_pieces
      have quiet : quietPieces (none : Option Text).isSome pieces = true := by
        have given := passes known
        rw [BracedPair.Quiet, split] at given
        exact given
      rw [text, pair.pairsOf_unknown known ends, split, tail_cons,
        pairsOf_quiet tail ends (fun _ none => by cases none) quiet, stores, BracedPair.stores, known]
      rfl

end ConnPair

open ConnPair

/-- A connection string. -/
def connText (pairs : List ConnPair) : Text := [ch ';'].intercalate (pairs.map text)

theorem connText_cons (pair : ConnPair) (pairs : List ConnPair) :
    connText (pair :: pairs) = pair.text ++ following (pairs.map text) [] := by
  rw [connText, map_cons, ← intercalate_append, append_nil]

theorem drop_following_connText (pairs : List ConnPair) : (following (pairs.map text) []).drop 1 = connText pairs := by
  cases pairs with
  | nil => rfl
  | cons pair pairs =>
    rw [map_cons, following_cons, connText_cons]
    rfl

theorem nulFree_following (pairs : List ConnPair) : 0 ∉ following (pairs.map text) [] := by
  rw [following, append_nil, mem_flatMap]
  rintro ⟨piece, member, zero⟩
  obtain ⟨pair, -, rfl⟩ := mem_map.mp member
  rcases mem_cons.mp zero with semi | inside
  · revert semi
    decide
  · exact pair.nulFree_text inside

/-- **A string of pairs** stores the values of its known keys, if its unknown pairs are quiet. -/
theorem pairsOf_connText {pairs : List ConnPair} (passes : ∀ pair ∈ pairs, pair.Passes) :
    pairsOf (ch ';') (connText pairs) = (true, pairs.flatMap stores) := by
  induction pairs with
  | nil => rfl
  | cons pair pairs ih =>
    obtain ⟨head, tail⟩ := forall_mem_cons.mp passes
    rw [connText_cons, pairsOf_text head (nulFree_following pairs) (ends_following (.inl rfl) _),
      drop_following_connText, ih tail, flatMap_cons]

/-! ### Records -/

namespace Dsn

theorem exists_not_assigned (field : DsnField) (text : Text) :
    ∃ dsn : Dsn, ∀ before : Dsn, (before.assign field text).2 ≠ dsn := by
  have some_byte : Nontrivial UInt8 := ⟨0, 1, by decide⟩
  have some_int : Nontrivial UInt32 := ⟨0, 1, by decide⟩
  have bytes : ∀ byte : UInt8, (∀ dsn : Dsn, dsn.value field = .byte (dsn.byte field)) →
      ∃ dsn : Dsn, dsn.value field ≠ .byte byte := by
    intro byte typed
    obtain ⟨other, different⟩ := exists_ne byte
    refine ⟨init.setByte field other, ?_⟩
    rw [typed, byte_setByte, Function.update_self]
    exact fun same => different (FieldValue.byte.inj same)
  obtain ⟨dsn, other⟩ : ∃ dsn : Dsn, dsn.value field ≠ field.read text := by
    rw [DsnField.read]
    cases type : field.type with
    | string | combo => exact ⟨init, by simp [value, type, init]⟩
    | int =>
      obtain ⟨other, different⟩ := exists_ne (UInt32.ofNat (strtoul text))
      exact ⟨init.setInt field other, by simpa [value, type] using different⟩
    | bool | cboxgroup | option => exact bytes _ fun dsn => by rw [value, type]
  exact ⟨dsn, fun before same => other (same ▸ before.value_assign_self field text)⟩

theorem exists_changed {stores : List Store} (some_store : stores ≠ []) :
    ∃ dsn : Dsn, dsn.assignStores stores ≠ dsn := by
  cases stores using List.reverseRecOn with
  | nil => exact absurd rfl some_store
  | append_singleton stores last =>
    obtain ⟨dsn, never⟩ := exists_not_assigned last.1 last.2
    refine ⟨dsn, ?_⟩
    rw [assignStores, foldl_append]
    exact never _

end Dsn

/-! ### Inserting a pair -/

theorem parseConnString_connText (dsn : Dsn) (pairs : List ConnPair) :
    parseConnString (ch ';') dsn (connText pairs) =
      ((pairsOf (ch ';') (connText pairs)).1, dsn.assignStores (pairsOf (ch ';') (connText pairs)).2) := by
  have nulFree : 0 ∉ connText pairs := by
    rw [← drop_following_connText]
    exact fun member => nulFree_following pairs (mem_of_mem_drop member)
  rw [parseConnString, ← parseLoopIn_of_nulFree nulFree (by decide), parseLoopIn_eq]
  rfl

/-- In well-formed strings whose unknown pairs are all of some kind, one of them can be inserted anywhere without any
effect. -/
def Inert (kind : BracedPair → Prop) : Prop :=
  ∀ (before after : List ConnPair) (pair : BracedPair), pair.Unknown → kind pair →
    (∀ other : BracedPair, .braced other ∈ before ++ after → other.Unknown → kind other) →
    ∀ dsn : Dsn, parseConnString (ch ';') dsn (connText (before ++ .braced pair :: after)) =
      parseConnString (ch ';') dsn (connText (before ++ after))

/-- **Which unknown pairs have no effect**: those whose values are quiet. -/
theorem unknown_inert_iff (kind : BracedPair → Prop) :
    Inert kind ↔ ∀ pair : BracedPair, pair.Unknown → kind pair → pair.Quiet := by
  constructor
  · intro inert pair unknown ofKind
    by_contra loud
    obtain ⟨first, pieces, split, -, -, tail⟩ := pair.exists_pieces
    have notQuiet : quietPieces (none : Option Text).isSome pieces = false := by
      rw [BracedPair.Quiet, split, tail_cons] at loud
      exact Bool.eq_false_iff.mpr loud
    have alone := inert [] [] pair unknown ofKind fun _ none => by cases none
    simp only [nil_append, parseConnString_connText, Prod.mk.injEq] at alone
    have text : connText [.braced pair] = pair.text ++ [] := by
      rw [connText_cons]
      rfl
    rw [text, pair.pairsOf_unknown unknown (.inl rfl), split, tail_cons] at alone
    rcases pairsOf_loud tail (fun _ none => by cases none) notQuiet with refused | stored
    · have accepted := (alone .init).1
      rw [refused] at accepted
      cases accepted
    · obtain ⟨dsn, changed⟩ := Dsn.exists_changed stored
      exact changed (alone dsn).2
  · intro quiet before after pair unknown ofKind others dsn
    have passes : ∀ other ∈ before ++ after, other.Passes := by
      intro other member
      cases other with
      | plain other => trivial
      | braced other => exact fun unknown' => quiet other unknown' (others other member unknown')
    have here : (braced pair).Passes := fun _ => quiet pair unknown ofKind
    have all : ∀ other ∈ before ++ .braced pair :: after, other.Passes := by
      intro other member
      rcases mem_append.mp member with front | back
      · exact passes other (mem_append_left _ front)
      · rcases mem_cons.mp back with rfl | later
        · exact here
        · exact passes other (mem_append_right _ later)
    have nothing : (braced pair).stores = [] := by
      rw [stores, BracedPair.stores, unknown]
      rfl
    rw [parseConnString_connText, parseConnString_connText, pairsOf_connText all, pairsOf_connText passes, flatMap_append, flatMap_append, flatMap_cons, nothing,
      nil_append]

/-- A value that looks like another pair. -/
def passwordInside : BracedPair where
  key := lit "X"
  value := lit "a;PWD=b"
  keyBytes := by decide
  nulFree := by decide

/-- The value of an unknown pair becomes the password. -/
theorem unknown_inert_fails : ¬ Inert fun _ => True := by
  intro inert
  have same := inert [] [] passwordInside (by unfold BracedPair.Unknown; decide +kernel) trivial (fun _ none => by cases none) .init
  have password := congrArg (fun result => result.2.str .password) same
  revert password
  decide +kernel

end MaOdbc
