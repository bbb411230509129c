/-
**Lists of value tuples.**

`tuples` reads a text as a comma-separated list of parenthesised groups, with nothing but blanks between
them. Quoted regions inside a group are passed over. The reader goes byte by byte and keeps a mode (is
the byte quoted) and a level (before, inside or behind a group).

* `tuples_append` — two lists with a comma between them are one list.
* `standing_fill` — a literal in the place of a mark does not change what is read.
-/

import MaOdbc.Library.Fill
import MaOdbc.Library.Lexeme

namespace MaOdbc

open List

inductive QuoteMode
  | plain
  | quoted (quote : Byte)
  | escaped (quote : Byte)
  deriving DecidableEq, Repr

/-- Where a byte stands: before a group, inside one and how many more groups are open, or behind one. -/
inductive GroupLevel
  | start
  | inside (depth : Nat)
  | behind
  | failed
  deriving DecidableEq, Repr

def QuoteMode.next : QuoteMode → Byte → QuoteMode
  | .plain, byte => if isQuote byte then .quoted byte else .plain
  | .quoted quote, byte =>
    if byte = quote then .plain
    else if quote ≠ ch '`' ∧ byte = ch '\\' then .escaped quote
    else .quoted quote
  | .escaped quote, _ => .quoted quote

def GroupLevel.next : GroupLevel → Byte → GroupLevel
  | .start, byte =>
    if isSpace byte then .start else if byte = ch '(' then .inside 0 else .failed
  | .inside depth, byte =>
    if byte = ch '(' then .inside (depth + 1)
    else if byte = ch ')' then if depth = 0 then .behind else .inside (depth - 1)
    else .inside depth
  | .behind, byte => if isSpace byte then .behind else if byte = ch ',' then .start else .failed
  | .failed, _ => .failed

structure Standing where
  mode : QuoteMode := .plain
  level : GroupLevel := .start
  deriving DecidableEq, Repr

def Standing.next (standing : Standing) (byte : Byte) : Standing where
  mode := standing.mode.next byte
  level := if standing.mode = .plain then standing.level.next byte else standing.level

structure TupleReader where
  standing : Standing := {}
  current : Text := []
  done : List Text := []
  deriving DecidableEq, Repr

def TupleReader.next (reader : TupleReader) (byte : Byte) : TupleReader :=
  let standing := reader.standing.next byte
  match reader.standing.level, standing.level with
  | .inside _, .behind =>
    { standing := standing, current := [], done := reader.done ++ [reader.current ++ [byte]] }
  | _, .inside _ => { reader with standing := standing, current := reader.current ++ [byte] }
  | _, _ => { reader with standing := standing }

def tuples (text : Text) : Option (List Text) :=
  let reader := text.foldl TupleReader.next {}
  if reader.standing = { level := .behind } then some reader.done else none

variable {standing : Standing} {text first : Text} {read read' : List Text} {positions : List Nat}
  {literal : Nat → Text} {offset : Nat}

/-! ### Reading two lists -/

namespace TupleReader

variable (reader : TupleReader)

theorem standing_next (byte : Byte) : (reader.next byte).standing = reader.standing.next byte := by
  rw [next]
  split
  · rfl
  · rfl
  · rfl

theorem standing_foldl (text : Text) :
    (text.foldl next reader).standing = text.foldl Standing.next reader.standing := by
  induction text generalizing reader with
  | nil => rfl
  | cons byte text ih => rw [foldl_cons, foldl_cons, ih, standing_next]

theorem foldl_done (text : Text) (before : List Text) :
    text.foldl next { reader with done := before ++ reader.done } =
      { text.foldl next reader with done := before ++ (text.foldl next reader).done } := by
  induction text generalizing reader with
  | nil => rfl
  | cons byte text ih =>
    have step : ({ reader with done := before ++ reader.done } : TupleReader).next byte =
        { reader.next byte with done := before ++ (reader.next byte).done } := by
      rw [next, next]
      dsimp only
      split
      · simp only [append_assoc]
      · rfl
      · rfl
    rw [foldl_cons, step, ih, foldl_cons]

/-- Outside of groups nothing is open, and behind one something was read. -/
structure Sound (reader : TupleReader) : Prop where
  closed : reader.standing.level = .start ∨ reader.standing.level = .behind → reader.current = []
  some : reader.standing.level = .behind → reader.done ≠ []

variable {reader}

theorem level_before (standing : Standing) (byte : Byte) :
    ((standing.next byte).level = .behind → (∃ depth, standing.level = .inside depth) ∨ standing.level = .behind) ∧
      ((standing.next byte).level = .start → standing.level = .start ∨ standing.level = .behind) := by
  rw [Standing.next, GroupLevel.next.eq_def]
  cases standing.level with
  | _ =>
    dsimp only
    split_ifs <;> simp

theorem next_level_of_failed (failed : standing.level = .failed) (byte : Byte) :
    (standing.next byte).level = .failed := by
  rw [Standing.next, failed]
  dsimp only
  split
  · rfl
  · rfl

theorem Sound.next (sound : reader.Sound) (byte : Byte) : (reader.next byte).Sound := by
  obtain ⟨behind, start⟩ := level_before reader.standing byte
  rw [TupleReader.next]
  split
  · exact ⟨fun _ => rfl, fun _ => append_ne_nil_of_right_ne_nil _ (cons_ne_nil _ _)⟩
  · rename_i entered
    constructor <;> simp [entered]
  · rename_i notLeft
    -- a group is not left, so what lies behind one did so before
    have stays : (reader.standing.next byte).level = .behind → reader.standing.level = .behind := by
      intro now
      refine (behind now).resolve_left ?_
      rintro ⟨depth, inside⟩
      exact notLeft depth inside now
    refine ⟨fun outside => sound.closed ?_, fun now => sound.some (stays now)⟩
    rcases outside with now | now
    · exact start now
    · exact .inr (stays now)

theorem sound_foldl (text : Text) : (text.foldl next {}).Sound := by
  have keeps : ∀ reader : TupleReader, reader.Sound → (text.foldl next reader).Sound := by
    induction text with
    | nil => exact fun _ sound => sound
    | cons byte text ih => exact fun reader sound => ih (reader.next byte) (sound.next byte)
  exact keeps {} ⟨fun _ => rfl, nofun⟩

end TupleReader

open TupleReader

theorem isSome_tuples (text : Text) :
    (tuples text).isSome = true ↔ text.foldl Standing.next {} = { level := .behind } := by
  rw [tuples, standing_foldl]
  split
  · rename_i read
    exact ⟨fun _ => read, fun _ => rfl⟩
  · rename_i unread
    exact ⟨nofun, fun read => absurd read unread⟩

theorem tuples_ne_nil (list : tuples text = some read) : read ≠ [] := by
  rw [tuples] at list
  split at list
  · rename_i ended
    cases list
    exact (sound_foldl text).some (congrArg Standing.level ended)
  · cases list

/-- **Two lists with a comma between them** are one list. -/
theorem tuples_append {second : Text} (list : tuples first = some read)
    (list' : tuples second = some read') :
    tuples (first ++ ch ',' :: second) = some (read ++ read') := by
  rw [tuples] at list list'
  split at list
  · rename_i ended
    split at list'
    · rename_i ended'
      cases list
      cases list'
      have closed := (sound_foldl first).closed (.inr (congrArg Standing.level ended))
      have between : (first.foldl next {}).next (ch ',') =
          { done := (first.foldl next {}).done ++ [] } := by
        generalize first.foldl next {} = reader at ended closed
        obtain ⟨standing, current, done⟩ := reader
        dsimp only at ended closed
        rw [ended, closed, append_nil]
        rfl
      have later := foldl_done {} second (first.foldl next {}).done
      rw [tuples, foldl_append, foldl_cons, between]
      dsimp only at later ⊢
      rw [later]
      exact if_pos ended'
    · cases list'
  · cases list

/-- **Many lists**, each behind a comma. -/
theorem tuples_flatMap {ι : Type} {text : ι → Text} {read : ι → List Text} {rows : List ι}
    (list : tuples first = some read') (lists : ∀ row ∈ rows, tuples (text row) = some (read row)) :
    tuples (first ++ rows.flatMap fun row => ch ',' :: text row) = some (read' ++ rows.flatMap read) := by
  induction rows generalizing first read' with
  | nil =>
    rw [flatMap_nil, flatMap_nil, append_nil, append_nil]
    exact list
  | cons row rows ih =>
    have joined := tuples_append list (lists row mem_cons_self)
    have all := ih joined fun row member => lists row (mem_cons_of_mem _ member)
    rw [flatMap_cons, flatMap_cons, ← append_assoc, ← append_assoc]
    exact all

theorem foldl_failed (text : Text) (mode : QuoteMode) :
    (text.foldl Standing.next { mode := mode, level := .failed }).level = .failed := by
  induction text generalizing mode with
  | nil => rfl
  | cons byte text ih =>
    have stays : (({ mode := mode, level := .failed } : Standing).next byte).level = .failed :=
      next_level_of_failed rfl byte
    rw [foldl_cons]
    generalize ({ mode := mode, level := .failed } : Standing).next byte = standing at stays
    obtain ⟨mode', level⟩ := standing
    dsimp only at stays
    rw [stays]
    exact ih mode'

theorem tuples_comma (text : Text) : tuples (ch ',' :: text) = none := by
  cases read : tuples (ch ',' :: text) with
  | none => rfl
  | some _ =>
    have list : (tuples (ch ',' :: text)).isSome = true := by rw [read]; rfl
    have failed := congrArg Standing.level ((isSome_tuples _).mp list)
    rw [foldl_cons] at failed
    rw [show ({} : Standing).next (ch ',') = { level := .failed } from rfl, foldl_failed] at failed
    cases failed

/-! ### Literals -/

/-- A byte that neither separates nor opens nor closes anything. -/
def isPlain (byte : Byte) : Bool :=
  !isSpace byte && !isQuote byte && byte != ch '(' && byte != ch ')' && byte != ch ',' && byte != 0

inductive IsLiteral : Text → Prop
  | word {word : Text} : word ≠ [] → (∀ byte ∈ word, isPlain byte = true) → IsLiteral word
  | string {body : Text} : 0 ∉ body → splitQuoted true (ch '\'') (body ++ [ch '\'']) = some (body, []) →
      IsLiteral (ch '\'' :: body ++ [ch '\''])

def GroupLevel.afterValue : GroupLevel → GroupLevel
  | .inside depth => .inside depth
  | _ => .failed

theorem GroupLevel.next_value {byte : Byte} (notSpace : isSpace byte = false) (notOpen : byte ≠ ch '(')
    (notClose : byte ≠ ch ')') (notComma : byte ≠ ch ',') (level : GroupLevel) :
    level.next byte = level.afterValue := by
  cases level with
  | start => rw [next, notSpace, if_neg Bool.false_ne_true, if_neg notOpen, afterValue]; nofun
  | inside depth => rw [next, if_neg notOpen, if_neg notClose, afterValue]
  | behind => rw [next, notSpace, if_neg Bool.false_ne_true, if_neg notComma, afterValue]; nofun
  | failed => rfl

theorem GroupLevel.afterValue_idem (level : GroupLevel) :
    level.afterValue.afterValue = level.afterValue := by
  cases level with
  | _ => rfl

theorem foldl_splitQuoted {quote : Byte} {body rest : Text} (level : GroupLevel)
    (closes : splitQuoted (quote != ch '`') quote text = some (body, rest)) :
    (body ++ [quote]).foldl Standing.next { mode := .quoted quote, level := level } =
      { level := level } := by
  have inside : ∀ byte ≠ quote, ¬ (quote ≠ ch '`' ∧ byte = ch '\\') →
      ({ mode := .quoted quote, level := level } : Standing).next byte =
        { mode := .quoted quote, level := level } := by
    intro byte other plain
    rw [Standing.next, QuoteMode.next, if_neg other, if_neg plain]
    rfl
  have closed : ({ mode := .quoted quote, level := level } : Standing).next quote = { level := level } := by
    rw [Standing.next, QuoteMode.next, if_pos rfl]
    rfl
  fun_induction splitQuoted (quote != ch '`') quote text generalizing body with
  | case1 => cases closes
  | case2 => cases closes; exact closed
  | case3 => cases closes
  | case4 => cases closes; exact closed
  | case5 byte next text other escape ih =>
    obtain ⟨⟨body', rest'⟩, found, same⟩ := Option.map_eq_some_iff.mp closes
    cases same
    have escapes : quote ≠ ch '`' ∧ byte = ch '\\' := by simpa using escape
    have skipped : ({ mode := .quoted quote, level := level } : Standing).next byte =
        { mode := .escaped quote, level := level } := by
      rw [Standing.next, QuoteMode.next, if_neg other, if_pos escapes]
      rfl
    rw [cons_append, cons_append, foldl_cons, foldl_cons, skipped]
    exact ih found
  | case6 byte next text other plain ih =>
    obtain ⟨⟨body', rest'⟩, found, same⟩ := Option.map_eq_some_iff.mp closes
    cases same
    rw [cons_append, foldl_cons, inside byte other (by simpa using plain)]
    exact ih found

/-- **A value is read like a mark.** -/
theorem IsLiteral.foldl (literal : IsLiteral text) (level : GroupLevel) :
    text.foldl Standing.next { level := level } = { level := level.afterValue } := by
  cases literal with
  | word some plain =>
    have one : ∀ byte ∈ text, ∀ level : GroupLevel, ({ level := level } : Standing).next byte =
        { level := level.afterValue } := by
      intro byte member level
      have each := plain byte member
      simp only [isPlain, Bool.and_eq_true, Bool.not_eq_true', bne_iff_ne] at each
      obtain ⟨⟨⟨⟨⟨notSpace, notQuote⟩, notOpen⟩, notClose⟩, notComma⟩, -⟩ := each
      rw [Standing.next, QuoteMode.next, notQuote, if_neg Bool.false_ne_true]
      dsimp only
      rw [if_pos rfl, GroupLevel.next_value notSpace notOpen notClose notComma]
    have all : ∀ rest : Text, (∀ byte ∈ rest, byte ∈ text) →
        rest.foldl Standing.next { level := level.afterValue } = { level := level.afterValue } := by
      intro rest
      induction rest with
      | nil => exact fun _ => rfl
      | cons byte rest ih =>
        intro among
        rw [foldl_cons, one byte (among byte mem_cons_self), GroupLevel.afterValue_idem]
        exact ih fun byte member => among byte (mem_cons_of_mem _ member)
    obtain ⟨byte, rest, rfl⟩ := exists_cons_of_ne_nil some
    rw [foldl_cons, one byte mem_cons_self]
    exact all rest fun byte member => mem_cons_of_mem _ member
  | @string body nulFree closes =>
    have opened : ({ level := level } : Standing).next (ch '\'') =
        { mode := .quoted (ch '\''), level := level.afterValue } := by
      rw [Standing.next]
      dsimp only
      rw [if_pos rfl, GroupLevel.next_value (by decide) (by decide) (by decide) (by decide)]
      rfl
    rw [cons_append, foldl_cons, opened]
    exact foldl_splitQuoted _ closes

/-- **Values in the place of marks.** The marks are not quoted. -/
theorem standing_fill (literals : ∀ k < positions.length, IsLiteral (literal k))
    (marks : ∀ i < text.length, offset + i ∈ positions →
      text[i]? = some (ch '?') ∧ (text.take i).foldl QuoteMode.next standing.mode = .plain) :
    (fill positions literal offset text).foldl Standing.next standing =
      text.foldl Standing.next standing := by
  induction text generalizing offset standing with
  | nil => rfl
  | cons byte text ih =>
    have later : ∀ i < text.length, offset + 1 + i ∈ positions → text[i]? = some (ch '?') ∧
        (text.take i).foldl QuoteMode.next (standing.next byte).mode = .plain := by
      intro i inside member
      have mark := marks (i + 1) (Nat.succ_lt_succ inside) (by rwa [Nat.add_comm i, ← Nat.add_assoc])
      rwa [getElem?_cons_succ, take_succ_cons, foldl_cons] at mark
    rw [fill, foldl_append, foldl_cons, ← ih later]
    congr 1
    cases found : positions.idxOf? offset with
    | none => rfl
    | some k =>
      obtain ⟨inside, same, -⟩ := findIdx?_eq_some_iff_getElem.mp found
      have member : offset ∈ positions := by
        rw [← beq_iff_eq.mp same]
        exact getElem_mem inside
      obtain ⟨mark, plain⟩ := marks 0 (Nat.succ_pos _) member
      obtain rfl : byte = ch '?' := by simpa using mark
      have plain : standing.mode = .plain := plain
      obtain ⟨mode, level⟩ := standing
      dsimp only at plain ⊢
      rw [plain, (literals k inside).foldl, Standing.next]
      dsimp only
      rw [if_pos rfl, GroupLevel.next_value (by decide) (by decide) (by decide) (by decide)]
      rfl

theorem IsLiteral.nulFree (literal : IsLiteral text) : 0 ∉ text := by
  cases literal with
  | word _ plain =>
    intro nul
    have := plain 0 nul
    cases this
  | string free _ =>
    intro nul
    rcases mem_append.mp nul with inside | last
    · rcases mem_cons.mp inside with first | inside
      · cases first
      · exact free inside
    · cases mem_singleton.mp last

theorem nulFree_fill (literals : ∀ k < positions.length, 0 ∉ literal k) (free : 0 ∉ text) :
    0 ∉ fill positions literal offset text := by
  induction text generalizing offset with
  | nil => exact free
  | cons byte text ih =>
    have notHere : 0 ≠ byte := fun same => free (same ▸ mem_cons_self)
    have later : 0 ∉ text := fun member => free (mem_cons_of_mem _ member)
    rw [fill]
    intro nul
    rcases mem_append.mp nul with here | there
    · cases found : positions.idxOf? offset with
      | none =>
        rw [found] at here
        exact notHere (mem_singleton.mp here)
      | some k =>
        rw [found] at here
        exact literals k (findIdx?_eq_some_iff_getElem.mp found).1 here
    · exact ih later there

end MaOdbc
