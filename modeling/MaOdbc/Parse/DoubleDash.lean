/-
**Two minus signs.**

For the server `--` opens a comment only before a blank or a control character; `5--?` subtracts a
negated parameter. The driver takes every `--` for a comment, so it blanks or skips each text up to
the line end from the first such pair on (`keepsMinus_iff`): the marks after it are lost.

Up to that pair the two lexers agree (`Reads.driver`), the trimmed text starts with the same lexemes
(`Reads.change`), and the scanner follows them (`run_aligned`).
-/

import Mathlib.Data.Nat.Find
import MaOdbc.Parse.Aligned

namespace MaOdbc

open List

/-- The server's rule: `--` opens a comment before a blank, a control character or the end. -/
def serverDash (rest : Text) : Bool :=
  match rest with
  | [] => true
  | byte :: _ => isSpace byte || isControl byte

/-- A text starts with two minus signs that the server does not take for a comment. -/
def TwoMinus (rest : Text) : Prop :=
  ∃ byte more, rest = ch '-' :: ch '-' :: byte :: more ∧ isSpace byte = false ∧
    isControl byte = false

/-- Two minus signs stand at an offset, outside strings, identifiers and comments. -/
def MinusAt (text : Text) (offset : Nat) : Prop :=
  ∃ read rest, Reads serverDash text read rest ∧ (bytesOf read).length = offset ∧ TwoMinus rest

def InComment (dash : Text → Bool) (text : Text) (position : Nat) : Prop :=
  ∃ read bytes rest, Reads dash text (read ++ [.comment bytes]) rest ∧
    (bytesOf read).length ≤ position ∧ position < (bytesOf read).length + bytes.length

def SameLine (text : Text) (offset position : Nat) : Prop :=
  ch '\n' ∉ (text.drop offset).take (position - offset)

/-- How many bytes of the trimmed text lie before the handed one (`RefinedText - allocated`). -/
def QueryText.skipped (text : QueryText) : Nat :=
  (sqlRtrim text.bytes).length - text.handed.length

/-- **Two minus signs are not taken for a comment**: they are neither skipped nor blanked, nothing
after them on their line is blanked that lies outside comments, and the marks there are recorded. -/
structure KeepsMinus (text : QueryText) (parsed : Query) (offset : Nat) : Prop where
  notSkipped : text.skipped ≤ offset
  first : parsed.refinedText[offset - text.skipped]? = some (ch '-')
  second : parsed.refinedText[offset + 1 - text.skipped]? = some (ch '-')
  notBlanked : ∀ position, offset ≤ position → SameLine text.bytes offset position →
    parsed.refinedText[position - text.skipped]? = some (ch ' ') →
    text.bytes[position]? = some (ch ' ') ∨ InComment serverDash text.bytes position
  recorded : ∀ position, offset ≤ position → SameLine text.bytes offset position →
    position ∈ markOffsets 0 (lexemes serverDash text.bytes) →
    position - text.skipped ∈ parsed.paramPositions

/-! ### The two lexers agree before the pair -/

variable {text rest bytes : Text} {read before : List Lexeme} {byte : Byte}

/-- The lexers differ only at two minus signs. -/
theorem firstLexeme_server_eq_driver (agree : ¬ TwoMinus text) :
    firstLexeme serverDash text = firstLexeme driverDash text := by
  cases text with
  | nil => rfl
  | cons byte text =>
    have rule : (byte = ch '-' ∧ text.head? = some (ch '-') ∧ serverDash text.tail = true) ↔
        (byte = ch '-' ∧ text.head? = some (ch '-') ∧ driverDash text.tail = true) := by
      refine and_congr_right fun first => and_congr_right fun second => ?_
      refine iff_of_true ?_ rfl
      by_contra differs
      cases text with
      | nil => cases second
      | cons next text =>
        cases text with
        | nil => exact differs rfl
        | cons third text =>
          refine agree ⟨third, text, ?_, ?_⟩
          · rw [first, Option.some.inj second]
          · simpa [serverDash] using differs
    rw [firstLexeme, firstLexeme]
    simp only [rule]

theorem Reads.driver (reads : Reads serverDash text read rest)
    (agree : ∀ before after middle, read = before ++ after → after ≠ [] →
      Reads serverDash text before middle → ¬ TwoMinus middle) :
    Reads driverDash text read rest := by
  induction reads with
  | nil => exact .nil
  | @cons text next rest lexeme more first later ih =>
    have here := agree [] (lexeme :: more) text rfl (cons_ne_nil _ _) .nil
    refine .cons (firstLexeme_server_eq_driver here ▸ first) (ih ?_)
    intro before after middle split nonempty reads
    exact agree (lexeme :: before) after middle (by rw [split]; rfl) nonempty (.cons first reads)

/-- **The first pair** is met by the driver's lexer too. -/
theorem exists_first_minus {offset : Nat} (minus : MinusAt text offset) :
    ∃ read rest, Reads driverDash text read rest ∧ MinusAt text (bytesOf read).length ∧
      TwoMinus rest := by
  classical
  have some_pair : ∃ offset, MinusAt text offset := ⟨offset, minus⟩
  obtain ⟨read, rest, reads, length, pair⟩ := Nat.find_spec some_pair
  refine ⟨read, rest, reads.driver ?_, length ▸ Nat.find_spec some_pair, pair⟩
  rintro before after middle rfl nonempty part earlier
  have shorter := (reads.drop part).length_lt nonempty
  have whole := congrArg List.length part.bytes
  have whole' := congrArg List.length reads.bytes
  rw [length_append] at whole whole'
  exact Nat.find_min some_pair (by omega : (bytesOf before).length < Nat.find some_pair)
    ⟨before, middle, part, rfl, earlier⟩

/-! ### The text that is handed over -/

theorem rdropWhile_append_cons {p : Byte → Bool} (kept : p byte = false) (before after : Text) :
    (before ++ byte :: after).rdropWhile p = before ++ byte :: after.rdropWhile p := by
  induction after using List.reverseRecOn with
  | nil =>
    rw [rdropWhile_concat_neg _ _ _ (by simp [kept])]
    rfl
  | append_singleton after last ih =>
    rw [← cons_append, ← append_assoc]
    by_cases cut : p last = true
    · rw [rdropWhile_concat_pos _ _ _ cut, rdropWhile_concat_pos _ _ _ cut, ih]
    · rw [rdropWhile_concat_neg _ _ _ cut, rdropWhile_concat_neg _ _ _ cut,
        append_assoc, cons_append]

theorem sqlRtrim_append_minus (before after : Text) :
    ∃ after', sqlRtrim (before ++ ch '-' :: ch '-' :: after) =
      before ++ ch '-' :: ch '-' :: after' := by
  have kept : isTrailing (ch '-') = false := by decide
  cases before with
  | nil => exact ⟨_, congrArg (ch '-' :: ·) (rdropWhile_append_cons kept [] after)⟩
  | cons byte before =>
    refine ⟨after.rdropWhile isTrailing, ?_⟩
    have trimmed := rdropWhile_append_cons kept (before ++ [ch '-']) after
    rw [append_assoc, append_assoc] at trimmed
    exact congrArg (byte :: ·) trimmed

theorem rtrim_eq_self {last : Byte} (ends : text.getLast? = some last)
    (solid : isSpace last = false) : rtrim text = text := by
  refine rdropWhile_eq_self_iff.mpr fun nonempty => ?_
  rw [getLast?_eq_some_getLast nonempty, Option.some.injEq] at ends
  rw [ends, solid]
  decide

theorem reads_fixIsoFormat (dash : Text → Bool) (stmtString : Text) {length : Nat}
    (long : stmtString.length ≤ length) :
    ∃ lead, Reads dash stmtString lead (fixIsoFormat stmtString length).1 := by
  rw [fixIsoFormat]
  split
  · rename_i braces
    obtain ⟨-, opening, closing⟩ := braces
    obtain ⟨inner, rfl⟩ : ∃ inner, stmtString = ch '{' :: inner := by
      cases stmtString with
      | nil => cases opening
      | cons byte inner => exact ⟨inner, by rw [Option.some.inj opening]⟩
    have last : (ch '{' :: inner).getLast? = some (ch '}') := by
      have inside : length - 1 < (ch '{' :: inner).length := by
        by_contra outside
        rw [getElem?_eq_none (by omega)] at closing
        cases closing
      rw [getLast?_eq_getElem?, ← closing]
      congr 1
      omega
    have trimmed : trim inner = ltrim inner := by
      by_cases empty : ltrim inner = []
      · rw [trim, empty]
        rfl
      · obtain ⟨before, whole⟩ : ltrim inner <:+ ch '{' :: inner :=
          (dropWhile_suffix _).trans (suffix_cons _ _)
        rw [← whole, getLast?_append, getLast?_eq_some_getLast empty] at last
        exact rtrim_eq_self ((getLast?_eq_some_getLast empty).trans last) (by decide)
    have reads : Reads dash inner _ (trim inner) := trimmed ▸ reads_blanks dash inner
    exact ⟨_, .cons rfl reads⟩
  · exact ⟨[], .nil⟩

theorem QueryText.handed_reads (text : QueryText) :
    text.handed = [] ∨ ∃ lead, Reads driverDash (sqlRtrim text.bytes) lead text.handed := by
  have blanks := reads_blanks driverDash (sqlRtrim text.bytes)
  have shorter : (ltrim (sqlRtrim text.bytes)).length ≤ (sqlRtrim text.bytes).length :=
    (dropWhile_suffix _).length_le
  obtain ⟨brace, fixed⟩ := reads_fixIsoFormat driverDash (ltrim (sqlRtrim text.bytes)) shorter
  obtain ⟨gaps, skipped, -⟩ := skipLoop_reads false (Nat.lt_succ_self
    (fixIsoFormat (ltrim (sqlRtrim text.bytes)) (sqlRtrim text.bytes).length).1.length)
  rw [QueryText.handed, handedText]
  dsimp only
  split
  · exact .inl rfl
  · exact .inr ⟨_, (blanks.append fixed).append skipped⟩

theorem QueryText.nulFree_handed (text : QueryText) : 0 ∉ text.handed := by
  have trimmed : ∀ byte ∈ sqlRtrim text.bytes, byte ∈ text.bytes := by
    intro byte member
    cases whole : text.bytes with
    | nil =>
      rw [whole] at member
      exact member
    | cons first rest =>
      rw [whole, sqlRtrim] at member
      rcases mem_cons.mp member with rfl | later
      · exact mem_cons_self
      · exact mem_cons_of_mem _ (( rdropWhile_prefix _ _).subset later)
  rcases text.handed_reads with empty | ⟨lead, reads⟩
  · rw [empty]
    exact not_mem_nil
  · intro member
    refine text.nulFree (trimmed 0 ?_)
    rw [reads.bytes]
    exact mem_append_right _ member

/-! ### The pair is lost -/

theorem Refined.comment_blank {replace fresh : Bool} {cut : Byte → Prop} {lexemes : List Lexeme}
    {refined : Text} (is : Refined replace cut fresh lexemes refined) {after : List Lexeme}
    (split : lexemes = before ++ .comment (byte :: bytes) :: after) :
    refined[(bytesOf before).length]? = some (ch ' ') := by
  induction is generalizing before with
  | nil => simp at split
  | @gap fresh lexeme more text isGap _ ih =>
    cases before with
    | nil =>
      cases split
      rfl
    | cons head before =>
      cases split
      rw [bytesOf_cons, length_append, ← lexeme.length_blanked,
        getElem?_append_right (Nat.le_add_right _ _), Nat.add_sub_cancel_left]
      exact ih rfl
  | @semi fresh byte' more text allowed _ ih =>
    cases before with
    | nil => cases split
    | cons head before =>
      cases split
      rw [bytesOf_cons, length_append, Nat.add_comm]
      exact ih rfl
  | @solid fresh lexeme more text isSolid notSemi _ ih =>
    cases before with
    | nil =>
      cases split
      cases isSolid
    | cons head before =>
      cases split
      rw [bytesOf_cons, length_append,
        getElem?_append_right (Nat.le_add_right _ _), Nat.add_sub_cancel_left]
      exact ih rfl
  | @call word more text requested isCall _ ih =>
    -- no letter of the word is the comment, so the comment comes after it
    obtain ⟨between, rfl, later⟩ : ∃ between, before = word.map .other ++ between ∧
        more = between ++ .comment (byte :: bytes) :: after := by
      rcases append_eq_append_iff.mp split with ⟨between, here, rest⟩ | ⟨between, here, rest⟩
      · exact ⟨between, here, rest⟩
      · cases between with
        | nil => exact ⟨[], by simpa using here.symm, rest.symm⟩
        | cons head between =>
          have letter : Lexeme.comment (byte :: bytes) ∈ word.map Lexeme.other := by
            rw [here, mem_append]
            exact .inr ((List.cons.inj rest).1 ▸ mem_cons_self)
          simp at letter
    have four : (lit "ECHO").length = word.length := (length_of_call isCall).symm
    rw [bytesOf_append, bytesOf_word, length_append, ← four,
      getElem?_append_right (Nat.le_add_right _ _), Nat.add_sub_cancel_left]
    exact ih later

theorem run_comment_blank (replace batchAllowed : Bool)
    (reads : Reads driverDash text (before ++ [.comment (byte :: bytes)]) rest) :
    (Scan.run replace batchAllowed { rest := text }).done[(bytesOf before).length]? =
      some (ch ' ') := by
  rcases run_aligned replace batchAllowed text with aligned | ⟨read, stop, astray⟩
  · have refined := aligned.refined
    rw [append_nil] at refined
    have split : lexemes driverDash text =
        before ++ .comment (byte :: bytes) :: lexemes driverDash rest := by
      rw [reads.lexemes_eq, append_assoc]
      rfl
    exact refined.comment_blank split
  · obtain ⟨passed, refined, after, whole⟩ := astray.refined
    obtain ⟨more, split⟩ : ∃ more, read = before ++ .comment (byte :: bytes) :: more := by
      rcases reads.compare astray.reads with ⟨more, split, -⟩ | ⟨more, split, later⟩
      · exact ⟨more, by rw [split, append_assoc]; rfl⟩
      · cases later with
        | nil => exact ⟨[], by rw [split, append_nil]⟩
        | cons head later =>
          -- the unclosed quote would be the comment
          obtain ⟨quote, body, unclosed⟩ := astray.unclosed
          cases unclosed.symm.trans head
          obtain ⟨rfl, rfl⟩ := later.of_nil
          have same := (append_inj' split rfl).2
          cases same
    have blank := refined.comment_blank split
    obtain ⟨inside, -⟩ := List.getElem?_eq_some_iff.mp blank
    rw [← whole, getElem?_append_left inside, blank]

theorem not_keepsMinus_first (text : QueryText) (replace batchAllowed : Bool)
    (reads : Reads driverDash text.bytes read rest) (pair : TwoMinus rest) :
    ¬ KeepsMinus text (text.parse replace batchAllowed) (bytesOf read).length := by
  intro keeps
  obtain ⟨byte, more, rfl, -, -⟩ := pair
  -- the trimmed text still has the pair
  obtain ⟨after, trimmed⟩ := sqlRtrim_append_minus (bytesOf read) (byte :: more)
  rw [← reads.bytes] at trimmed
  have reads' : Reads driverDash (sqlRtrim text.bytes) read (ch '-' :: ch '-' :: after) := by
    rw [trimmed]
    rw [reads.bytes] at reads
    have always : ∀ text, driverDash text = true := fun _ => rfl
    have head : (ch '-' :: ch '-' :: byte :: more).head? = (ch '-' :: ch '-' :: after).head? := rfl
    exact reads.change always (cons_ne_nil _ _) head
  have total := congrArg List.length trimmed
  have kept := keeps.notSkipped
  rw [QueryText.skipped] at kept
  simp only [length_append, length_cons] at total
  rcases text.handed_reads with empty | ⟨lead, leads⟩
  · rw [empty, length_nil] at kept
    omega
  have leading := congrArg List.length leads.bytes
  rw [length_append] at leading
  have skipped : text.skipped = (bytesOf lead).length := by
    rw [QueryText.skipped]
    omega
  obtain ⟨between, rfl, ahead⟩ : ∃ between, read = lead ++ between ∧
      Reads driverDash text.handed between (ch '-' :: ch '-' :: after) := by
    rcases leads.compare reads' with ⟨between, split, ahead⟩ | ⟨between, split, ahead⟩
    · exact ⟨between, split, ahead⟩
    · by_cases nothing : between = []
      · subst nothing
        rw [append_nil] at split
        have same : ch '-' :: ch '-' :: after = text.handed := ahead.bytes
        rw [← same]
        exact ⟨[], by rw [split, append_nil], .nil⟩
      · have shorter := congrArg List.length ahead.bytes
        have longer := ahead.length_lt nothing
        rw [split, bytesOf_append, length_append] at leading
        rw [length_append] at shorter
        omega
  have comment : firstLexeme driverDash (ch '-' :: ch '-' :: after) =
      some (.comment (ch '-' :: ch '-' :: (splitLine after).1), (splitLine after).2) := rfl
  have blank := run_comment_blank replace batchAllowed (ahead.append (.cons comment .nil))
  have first := keeps.first
  rw [skipped, bytesOf_append, length_append, Nat.add_sub_cancel_left,
    text.parse_refinedText] at first
  exact absurd (first.symm.trans blank) (by decide)

/-- **Two minus signs are kept only where there are none**: the scan takes the first pair of a text
for a comment, so the property holds exactly of the texts without such a pair. -/
theorem keepsMinus_iff (text : QueryText) (replace batchAllowed : Bool) :
    (∀ offset, MinusAt text.bytes offset →
        KeepsMinus text (text.parse replace batchAllowed) offset) ↔
      ∀ offset, ¬ MinusAt text.bytes offset := by
  constructor
  · intro keeps offset minus
    obtain ⟨read, rest, reads, first, pair⟩ := exists_first_minus minus
    exact not_keepsMinus_first text replace batchAllowed reads pair (keeps _ first)
  · intro none offset minus
    exact absurd minus (none offset)

/-- `SELECT 5--?`: five minus a negated parameter. -/
def minusText : QueryText := ⟨lit "SELECT 5--?", by decide⟩

theorem minusAt_minusText : MinusAt minusText.bytes 8 := by
  have letters : ∀ byte ∈ lit "SELECT", isAlpha byte = true := by decide
  have word : Reads serverDash minusText.bytes ((lit "SELECT").map .other) (lit " 5--?") :=
    reads_word serverDash letters (lit " 5--?")
  have reads := word.append (.cons rfl (.cons rfl .nil))
  exact ⟨_, lit "--?", reads, rfl, ch '?', [], rfl, by decide, by decide⟩

/-- The pair of `SELECT 5--?` is blanked and its parameter is lost. -/
theorem minusText_not_kept :
    MinusAt minusText.bytes 8 ∧ ¬ KeepsMinus minusText (minusText.parse true true) 8 ∧
      (minusText.parse true true).refinedText = lit "SELECT 5   " ∧
      (minusText.parse true true).paramPositions = [] := by
  refine ⟨minusAt_minusText, ?_, by decide, by decide⟩
  intro keeps
  exact absurd keeps.first (by decide)

end MaOdbc
