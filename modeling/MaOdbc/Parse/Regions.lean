/-
**The scanner's helpers read the lexemes of the text.**

`StripLeadingComments` strips exactly one comment lexeme, `SkipSpacesAndComments` passes exactly the
blanks and comments that lead the text, and the two `SkipQuotedString` stop at the quote that closes
the lexeme. The driver takes every `--` for a comment (`driverDash`).
-/

import MaOdbc.Library.Lexeme
import MaOdbc.Parse.Scanner

namespace MaOdbc

open List

/-- The driver's rule: `--` always opens a comment. -/
def driverDash (_ : Text) : Bool := true

def Lexeme.blanked : Lexeme → Text
  | .comment bytes => List.replicate bytes.length (ch ' ')
  | lexeme => lexeme.bytes

def blankedOf (lexemes : List Lexeme) : Text := lexemes.flatMap Lexeme.blanked

theorem Lexeme.length_blanked (lexeme : Lexeme) :
    lexeme.blanked.length = lexeme.bytes.length := by
  cases lexeme <;> simp [Lexeme.blanked, Lexeme.bytes]

/-! ### One comment -/

theorem splitLine_strchr (text : Text) :
    splitLine text =
      match strchr text (ch '\n') with
      | some found => (text.take (found + 1), text.drop (found + 1))
      | none => (text, []) := by
  induction text with
  | nil => rfl
  | cons byte text ih =>
    by_cases newline : byte = ch '\n'
    · simp [splitLine, strchr, newline, findIdx?_cons]
    · rw [splitLine, if_neg newline, ih]
      simp only [strchr, findIdx?_cons, beq_iff_eq, newline, if_false]
      cases List.findIdx? (fun byte => byte == ch '\n') text <;> simp

theorem splitBlock_strstr (text : Text) :
    splitBlock text =
      match strstr text (lit "*/") with
      | some found => (text.take (found + 2), text.drop (found + 2))
      | none => (text, []) := by
  induction text with
  | nil => rfl
  | cons byte text ih =>
    have opening : (lit "*/").isPrefixOf (byte :: text) = true ↔
        byte = ch '*' ∧ text.head? = some (ch '/') := pair_isPrefixOf_cons _ _ byte text
    by_cases ends : byte = ch '*' ∧ text.head? = some (ch '/')
    · obtain ⟨rfl, slash⟩ := ends
      cases text with
      | nil => simp at slash
      | cons next text =>
        obtain rfl : next = ch '/' := by simpa using slash
        rfl
    · rw [splitBlock, if_neg ends, ih, strstr, if_neg (mt opening.mp ends)]
      cases strstr text (lit "*/") <;> simp

theorem splitLine_length (text : Text) :
    (splitLine text).1.length =
      match strchr text (ch '\n') with
      | some found => found + 1
      | none => text.length := by
  rw [splitLine_strchr]
  cases found : strchr text (ch '\n') with
  | none => rfl
  | some position =>
    have inside : position < text.length :=
      (findIdx?_eq_some_iff_findIdx_eq.mp found).1
    simp only [length_take]
    omega

theorem splitBlock_length (text : Text) :
    (splitBlock text).1.length =
      match strstr text (lit "*/") with
      | some found => found + 2
      | none => text.length := by
  rw [splitBlock_strstr]
  cases found : strstr text (lit "*/") with
  | none => rfl
  | some position =>
    have inside := strstr_add_length_le found
    have two : (lit "*/").length = 2 := rfl
    simp only [length_take]
    omega

theorem stripLeadingComments_cons (byte : Byte) (text : Text) :
    stripLeadingComments (byte :: text) =
      if byte = ch '-' ∧ text.head? = some (ch '-') then 2 + (splitLine text.tail).1.length
      else if byte = ch '#' then 1 + (splitLine text).1.length
      else if byte = ch '/' ∧ text.head? = some (ch '*') then
        2 + (splitBlock text.tail).1.length
      else 0 := by
  have dashes : (lit "--").isPrefixOf (byte :: text) = true ↔
      byte = ch '-' ∧ text.head? = some (ch '-') := pair_isPrefixOf_cons _ _ byte text
  have block : (lit "/*").isPrefixOf (byte :: text) = true ↔
      byte = ch '/' ∧ text.head? = some (ch '*') := pair_isPrefixOf_cons _ _ byte text
  rw [stripLeadingComments, if_neg (cons_ne_nil _ _)]
  simp only [dashes, block, head?_cons, Option.some.injEq, drop_succ_cons, drop_zero]
  rw [splitLine_length, splitLine_length, splitBlock_length, drop_one]
  split_ifs with line hash star
  · obtain ⟨next, text, rfl⟩ : ∃ next more, text = next :: more :=
      exists_cons_of_ne_nil (by rintro rfl; simp at line)
    cases strchr (List.tail (next :: text)) (ch '\n') <;> simp <;> omega
  · cases strchr text (ch '\n') <;> simp <;> omega
  · obtain ⟨next, text, rfl⟩ : ∃ next more, text = next :: more :=
      exists_cons_of_ne_nil (by rintro rfl; simp at star)
    cases strstr (List.tail (next :: text)) (lit "*/") <;> simp <;> omega
  · rfl

theorem stripLeadingComments_of_comment {text rest bytes : Text}
    (first : firstLexeme driverDash text = some (.comment bytes, rest)) :
    stripLeadingComments text = bytes.length := by
  cases firstLexeme_begins first with
  | hash =>
    rw [stripLeadingComments_cons, if_neg fun both => absurd both.1 (by decide), if_pos rfl, length_cons]
    omega
  | dashes =>
    rw [stripLeadingComments_cons, if_pos ⟨rfl, rfl⟩, length_cons, length_cons, tail_cons]
    omega
  | block =>
    rw [stripLeadingComments_cons, if_neg fun both => absurd both.1 (by decide), if_neg (by decide),
      if_pos ⟨rfl, rfl⟩, length_cons, length_cons, tail_cons]
    omega

theorem stripLeadingComments_of_not_comment {text rest : Text} {lexeme : Lexeme}
    (first : firstLexeme driverDash text = some (lexeme, rest))
    (plain : ∀ bytes, lexeme ≠ .comment bytes) :
    stripLeadingComments text = 0 := by
  have none {byte : Byte} {text : Text} (dashes : ¬ (byte = ch '-' ∧ text.head? = some (ch '-')))
      (hash : byte ≠ ch '#') (block : ¬ (byte = ch '/' ∧ text.head? = some (ch '*'))) :
      stripLeadingComments (byte :: text) = 0 := by
    rw [stripLeadingComments_cons, if_neg dashes, if_neg hash, if_neg block]
  have away {byte : Byte} {text : Text} (other : byte ∉ [ch '-', ch '#', ch '/']) :
      stripLeadingComments (byte :: text) = 0 := by
    simp only [mem_cons, not_mem_nil, or_false, not_or] at other
    exact none (fun both => other.1 both.1) other.2.1 fun both => other.2.2 both.1
  have openers : ∀ byte ∈ [ch '-', ch '#', ch '/'], isSpace byte = false ∧ isQuote byte = false := by
    decide
  cases firstLexeme_begins first with
  | hash | dashes | block => exact absurd rfl (plain _)
  | mark | semi => exact away (by decide)
  | blank space => exact away fun member => by simp [openers _ member] at space
  | quoted quote | unclosed quote => exact away fun member => by simp [openers _ member] at quote
  | other hash dashes block => exact none (fun opens => dashes ⟨opens.1, opens.2, rfl⟩) hash block

/-! ### Blanks and comments together -/

theorem reads_blanks (dash : Text → Bool) (text : Text) :
    Reads dash text ((text.takeWhile isSpace).map .blank) (ltrim text) := by
  induction text with
  | nil => exact .nil
  | cons byte text ih =>
    by_cases blank : isSpace byte = true
    · rw [ltrim, dropWhile_cons_of_pos blank, takeWhile_cons_of_pos blank]
      exact .cons (by rw [firstLexeme, if_pos blank]) ih
    · rw [ltrim, dropWhile_cons_of_neg blank, takeWhile_cons_of_neg blank]
      exact .nil

/-- Past the leading gap: the end, or a lexeme that is no gap. -/
def AtToken (dash : Text → Bool) (text : Text) : Prop :=
  ∀ lexeme rest, firstLexeme dash text = some (lexeme, rest) → lexeme.isGap = false

theorem blankedOf_append (first second : List Lexeme) :
    blankedOf (first ++ second) = blankedOf first ++ blankedOf second :=
  flatMap_append

theorem blankedOf_blanks (blanks : Text) : blankedOf (blanks.map .blank) = blanks := by
  induction blanks with
  | nil => rfl
  | cons byte blanks ih =>
    rw [map_cons, blankedOf, flatMap_cons, ← blankedOf, ih]
    rfl

theorem length_blankedOf (lexemes : List Lexeme) :
    (blankedOf lexemes).length = (bytesOf lexemes).length := by
  induction lexemes with
  | nil => rfl
  | cons lexeme more ih =>
    rw [bytesOf_cons, blankedOf, flatMap_cons, ← blankedOf, length_append,
      length_append, ih, lexeme.length_blanked]

theorem reads_round {text : Text} (nonempty : text ≠ []) :
    ∃ gaps, Reads driverDash text gaps (ltrim (text.drop (stripLeadingComments text))) ∧
      (∀ gap ∈ gaps, gap.isGap) ∧
      blankedOf gaps = replicate (stripLeadingComments text) (ch ' ') ++
        (text.drop (stripLeadingComments text)).takeWhile isSpace := by
  obtain ⟨lexeme, rest, first⟩ := exists_firstLexeme driverDash nonempty
  by_cases comment : ∃ bytes, lexeme = .comment bytes
  · obtain ⟨bytes, rfl⟩ := comment
    have stripped := stripLeadingComments_of_comment first
    have tail : text.drop bytes.length = rest := by
      rw [firstLexeme_bytes first]
      exact drop_left
    rw [stripped, tail]
    refine ⟨_, .cons first (reads_blanks driverDash rest), ?_, ?_⟩
    · simp [Lexeme.isGap]
    · rw [blankedOf, flatMap_cons, ← blankedOf, blankedOf_blanks]
      rfl
  · have stripped := stripLeadingComments_of_not_comment first
      fun bytes equal => comment ⟨bytes, equal⟩
    rw [stripped, drop_zero]
    refine ⟨_, reads_blanks driverDash text, ?_, ?_⟩
    · simp [Lexeme.isGap]
    · rw [blankedOf_blanks]
      rfl

theorem atToken_of_round {text : Text} (stripped : stripLeadingComments text = 0)
    (blanks : (text.drop (stripLeadingComments text)).takeWhile isSpace = []) :
    AtToken driverDash text := by
  intro lexeme rest first
  cases lexeme with
  | blank byte =>
    have bytes := firstLexeme_bytes first
    rw [stripped, drop_zero, bytes] at blanks
    have blank := isSpace_of_blank first
    simp [Lexeme.bytes, blank] at blanks
  | comment bytes =>
    have length := stripLeadingComments_of_comment first
    rw [stripped] at length
    exact absurd (length_eq_zero_iff.mp length.symm) (firstLexeme_bytes_ne_nil first)
  | _ => rfl

/-- **`SkipSpacesAndComments` passes exactly the leading gap** and blanks its comments. -/
theorem skipLoop_reads (overWrite : Bool) {fuel : Nat} {text : Text} (enough : text.length < fuel) :
    ∃ gaps, Reads driverDash text gaps (skipLoop overWrite fuel text).2 ∧
      (∀ gap ∈ gaps, gap.isGap) ∧ AtToken driverDash (skipLoop overWrite fuel text).2 ∧
      (overWrite = true → (skipLoop overWrite fuel text).1 = blankedOf gaps) := by
  induction fuel generalizing text with
  | zero => omega
  | succ fuel ih =>
    rw [skipLoop]
    by_cases empty : text = []
    · rw [if_pos empty]
      subst empty
      exact ⟨[], .nil, by simp, by simp [AtToken, firstLexeme], fun _ => rfl⟩
    rw [if_neg empty]
    obtain ⟨round, reads, gaps, blanked⟩ := reads_round empty
    by_cases stays : stripLeadingComments text = 0 ∧
        (text.drop (stripLeadingComments text)).takeWhile isSpace = []
    · rw [if_pos stays]
      exact ⟨[], .nil, by simp, atToken_of_round stays.1 stays.2, fun _ => rfl⟩
    rw [if_neg stays]
    have moved : (ltrim (text.drop (stripLeadingComments text))).length < text.length := by
      have total := congrArg length reads.bytes
      have covered := congrArg length blanked
      rw [length_blankedOf, length_append, length_replicate] at covered
      rw [length_append] at total
      by_contra large
      refine stays ⟨by omega, length_eq_zero_iff.mp (by omega)⟩
    obtain ⟨more, readsMore, gapsMore, token, blankedMore⟩ := ih (moved.trans_le (by omega))
    refine ⟨round ++ more, reads.append readsMore, ?_, token, ?_⟩
    · intro gap member
      exact (mem_append.mp member).elim (gaps gap) (gapsMore gap)
    · intro overwritten
      subst overwritten
      rw [blankedOf_append, blanked, blankedMore rfl]
      rfl

/-! ### Quoted strings -/

theorem splitQuoted_skip (escapes : Bool) (quote : Byte) (text : Text) :
    splitQuoted escapes quote text =
      if text.length ≤ skipQuotedString escapes quote text then none
      else some (text.take (skipQuotedString escapes quote text),
        text.drop (skipQuotedString escapes quote text + 1)) := by
  induction text using splitQuoted.induct escapes quote with
  | case1 => rfl
  | case2 => simp [splitQuoted, skipQuotedString]
  | case3 byte different => simp [splitQuoted, skipQuotedString, different]
  | case4 next text => simp [splitQuoted, skipQuotedString]
  | case5 byte next text different escaped ih =>
    rw [splitQuoted, skipQuotedString, if_neg different, if_pos escaped, if_neg different,
      if_pos escaped, ih]
    by_cases unclosed : text.length ≤ skipQuotedString escapes quote text
    · rw [if_pos unclosed, if_pos (by simp only [length_cons]; omega)]
      rfl
    · rw [if_neg unclosed, if_neg (by simp only [length_cons]; omega), Nat.add_comm 2]
      rfl
  | case6 byte next text different plain ih =>
    rw [splitQuoted, skipQuotedString, if_neg different, if_neg plain, if_neg different,
      if_neg plain, ih]
    by_cases unclosed : (next :: text).length ≤ skipQuotedString escapes quote (next :: text)
    · rw [if_pos unclosed, if_pos (by simp only [length_cons] at unclosed ⊢; omega)]
      rfl
    · rw [if_neg unclosed, if_neg (by simp only [length_cons] at unclosed ⊢; omega), Nat.add_comm 1]
      rfl

end MaOdbc
