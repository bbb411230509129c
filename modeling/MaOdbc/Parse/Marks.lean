/-
**The recorded offsets of a query.**

Whatever the text, the recorded tokens rise, and so do the recorded marks, which are tokens of their own and stand
at question marks of the refined text. `Moves.saved` says what one round records.

* `run_marked`, `run_saved`: the offsets of a whole scan.
* **`madbParseQuery_offsets_iff`**: they are sound for every text; `RefinedLength` reaches to the end of the trimmed
  text except for one in braces whose inside is too short, from which `MADB_ParseQuery` subtracts the braces twice.
-/

import MaOdbc.Parse.Aligned

namespace MaOdbc

open List

namespace Scan

variable {replace batchAllowed : Bool} {s s' : Scan}

/-- **What a round records**: nothing, or a token where the pointer stands behind the gap, and the mark that it is. -/
theorem Moves.saved (moves : Moves replace batchAllowed s s') :
    s'.tokens = s.tokens ∧ s'.paramPositions = s.paramPositions ∨
      ∃ token, s'.tokens = s.tokens ++ [token] ∧ s.done.length ≤ token ∧ token ≤ s'.done.length ∧
        (s'.rest ≠ [] → token < s'.done.length) ∧
        (s'.paramPositions = s.paramPositions ∨
          s'.paramPositions = s.paramPositions ++ [token] ∧ s'.done[token]? = some (ch '?')) := by
  obtain ⟨added, done, passed⟩ := moves.passed
  have total := congrArg length done
  rw [length_append] at total
  cases moves with
  | breaks | continues => exact .inl ⟨rfl, rfl⟩
  | @atEnd gaps idle reads allGaps =>
    refine .inr ⟨_, saveToken_tokens _, ?_, (saveToken_done _).symm ▸ le_rfl, fun more => ?_,
      .inl (saveToken_paramPositions _)⟩
    · exact (prefix_append s.done (blankedOf gaps)).length_le
    · exact absurd (saveToken_rest _) more
  | @call gaps word text idle reads allGaps requested fresh isCall =>
    have offset : ((s.pass gaps (lit "ECHO" ++ text)).saveToken.advance 1).done.length =
        (s.done ++ blankedOf gaps).length + 1 := by
      rw [advance, saveToken_done, saveToken_rest, length_append]
      rfl
    refine .inr ⟨_, saveToken_tokens _, (prefix_append s.done (blankedOf gaps)).length_le, ?_, fun _ => ?_,
      .inl (saveToken_paramPositions _)⟩
    · exact offset ▸ Nat.le_succ _
    · exact offset ▸ Nat.lt_succ_self _
  | @token gaps rest text lexeme idle reads allGaps first solid =>
    have longer := (length_passedBytes (s.pass gaps rest).saveToken batchAllowed first).1
    have saved : (s.pass gaps rest).saveToken.done = s.done ++ blankedOf gaps := saveToken_done _
    have marks : (s.pass gaps rest).saveToken.paramPositions = s.paramPositions := saveToken_paramPositions _
    rw [passLexeme_tokens, passLexeme_paramPositions, passLexeme_done, marks, offset, saved]
    refine .inr ⟨_, saveToken_tokens _, (prefix_append s.done (blankedOf gaps)).length_le, ?_, fun _ => ?_, ?_⟩
    · exact (prefix_append _ _).length_le
    · rw [length_append]
      exact Nat.lt_add_of_pos_right longer
    · by_cases mark : lexeme = .mark
      · refine .inr ⟨by rw [if_pos mark]; rfl, ?_⟩
        rw [mark, offset, pass, getElem?_append_right le_rfl, Nat.sub_self]
        rfl
      · rw [if_neg mark, append_nil]
        exact .inl rfl

/-- The marks recorded so far. -/
structure Marked (s : Scan) : Prop where
  rising : s.paramPositions.Pairwise (· < ·)
  marks : ∀ position ∈ s.paramPositions, s.done[position]? = some (ch '?')

/-- The tokens recorded so far. Only the last of them can stand at the end of the text. -/
structure Saved (s : Scan) : Prop where
  rising : s.tokens.Pairwise (· < ·)
  within : ∀ token ∈ s.tokens, token ≤ s.done.length ∧ (s.rest ≠ [] → token < s.done.length)
  marks : ∀ position ∈ s.paramPositions, position ∈ s.tokens

theorem pairwise_concat {items : List Nat} (rising : items.Pairwise (· < ·)) {last : Nat}
    (below : ∀ item ∈ items, item < last) : (items ++ [last]).Pairwise (· < ·) := by
  refine pairwise_append.mpr ⟨rising, pairwise_singleton _ _, fun item member new here => ?_⟩
  rw [mem_singleton.mp here]
  exact below item member

theorem Marked.step (marked : Marked s) (moves : Moves replace batchAllowed s s') : Marked s' := by
  obtain ⟨added, grown, -⟩ := moves.passed
  have inside : ∀ position ∈ s.paramPositions, position < s.done.length :=
    fun position member => (List.getElem?_eq_some_iff.mp (marked.marks position member)).1
  have kept : ∀ position ∈ s.paramPositions, s'.done[position]? = some (ch '?') := by
    intro position member
    rw [grown, getElem?_append_left (inside position member), marked.marks position member]
  rcases moves.saved with ⟨-, same⟩ | ⟨token, -, behind, -, -, same | ⟨recorded, mark⟩⟩
  · exact ⟨same ▸ marked.rising, same ▸ kept⟩
  · exact ⟨same ▸ marked.rising, same ▸ kept⟩
  · refine ⟨recorded ▸ pairwise_concat marked.rising fun position member => ?_, fun position member => ?_⟩
    · exact (inside position member).trans_le behind
    · rw [recorded] at member
      rcases mem_append.mp member with before | here
      · exact kept position before
      · rw [mem_singleton.mp here]
        exact mark

theorem Saved.step (saved : Saved s) (more : s.rest ≠ []) (moves : Moves replace batchAllowed s s') : Saved s' := by
  obtain ⟨added, grown, -⟩ := moves.passed
  have below : ∀ token ∈ s.tokens, token < s.done.length := fun token member => (saved.within token member).2 more
  have kept : ∀ token ∈ s.tokens, token < s'.done.length := by
    intro token member
    rw [grown, length_append]
    exact Nat.lt_add_right _ (below token member)
  rcases moves.saved with ⟨tokens, marks⟩ | ⟨token, tokens, behind, within, strictly, marks⟩
  · refine ⟨tokens ▸ saved.rising, fun token member => ?_, fun position member => ?_⟩
    · have inside := kept token (tokens ▸ member)
      exact ⟨inside.le, fun _ => inside⟩
    · rw [marks] at member
      exact tokens ▸ saved.marks position member
  · refine ⟨tokens ▸ pairwise_concat saved.rising fun earlier member => ?_, fun other member => ?_,
      fun position member => ?_⟩
    · exact (below earlier member).trans_le behind
    · rw [tokens] at member
      rcases mem_append.mp member with before | here
      · exact ⟨(kept other before).le, fun _ => kept other before⟩
      · rw [mem_singleton.mp here]
        exact ⟨within, strictly⟩
    · have recorded : position ∈ s.paramPositions ++ [token] := by
        rcases marks with same | ⟨same, -⟩
        · exact mem_append_left _ (same ▸ member)
        · exact same ▸ member
      rw [tokens]
      rcases mem_append.mp recorded with before | here
      · exact mem_append_left _ (saved.marks position before)
      · exact mem_append_right _ here

/-- **Recorded marks**: they rise, and stand at question marks. -/
theorem run_marked (replace batchAllowed : Bool) (text : Text) :
    Marked (run replace batchAllowed { rest := text }) :=
  (run_invariant (fun _ _ marked _ moves => marked.step moves)
    (⟨List.Pairwise.nil, by simp⟩ : Marked { rest := text }) rfl).1

/-- **Recorded tokens**: they rise, none stands behind the end, and the marks are among them. -/
theorem run_saved (replace batchAllowed : Bool) (text : Text) :
    Saved (run replace batchAllowed { rest := text }) :=
  (run_invariant (fun _ _ saved more moves => saved.step more moves)
    (⟨List.Pairwise.nil, by simp, by simp⟩ : Saved { rest := text }) rfl).1

end Scan

/-! ### The refined length -/

/-- Where `RefinedText` points when `MADB_ParseQuery` has skipped what leads the text, counted from the start of the
buffer. -/
def refinedStart (text : Text) : Nat :=
  let rtrimmed := sqlRtrim text
  let ltrimmed := ltrim rtrimmed
  let fixed := fixIsoFormat ltrimmed rtrimmed.length
  let moved := (rtrimmed.length - ltrimmed.length) + isoShift ltrimmed rtrimmed.length
  if fixed.2 ≤ moved then moved
  else moved + (fixed.1.length - (skipSpacesAndComments false fixed.1).2.length)

/-- `RefinedLength` then: what is left of the length, or as many bytes as `SkipSpacesAndComments` counts. -/
def refinedLength (text : Text) : Int :=
  let rtrimmed := sqlRtrim text
  let ltrimmed := ltrim rtrimmed
  let fixed := fixIsoFormat ltrimmed rtrimmed.length
  let moved := (rtrimmed.length - ltrimmed.length) + isoShift ltrimmed rtrimmed.length
  if fixed.2 ≤ moved then fixed.2 - moved else (skipSpacesAndComments false fixed.1).2.length

/-- The scan ends; the tokens rise up to the refined length; the marks are tokens; and the refined length is the
distance to the end of the trimmed text. -/
def QueryText.SoundOffsets (text : QueryText) : Prop :=
  (∀ replace batchAllowed, (text.scan replace batchAllowed).rest = [] ∧
    let query := text.parse replace batchAllowed
    query.tokens.Pairwise (· < ·) ∧ (∀ token ∈ query.tokens, token ≤ query.refinedText.length) ∧
      ∀ position ∈ query.paramPositions, position ∈ query.tokens) ∧
  refinedLength text.bytes = (sqlRtrim text.bytes).length - refinedStart text.bytes

/-- A text in braces that is at least twice as long as its inside with the closing brace. -/
def ShortInBraces (text : Text) : Prop :=
  let braced := sqlRtrim text
  braced.head? = some (ch '{') ∧ braced.getLast? = some (ch '}') ∧
    2 * (trim (braced.drop 1)).length ≤ braced.length

theorem length_skipped (text : Text) : (skipSpacesAndComments false text).2.length ≤ text.length := by
  obtain ⟨gaps, reads, -⟩ := skipLoop_reads false (Nat.lt_succ_self text.length)
  have bytes := congrArg length reads.bytes
  rw [length_append] at bytes
  exact Nat.le.intro ((Nat.add_comm _ _).trans bytes.symm)

theorem fixIsoFormat_eq (text : Text) :
    fixIsoFormat (ltrim text) text.length =
      if text.head? = some (ch '{') ∧ text.getLast? = some (ch '}') then
        (trim (text.drop 1), (trim (text.drop 1)).length)
      else (ltrim text, text.length) := by
  rw [fixIsoFormat, getLast?_eq_getElem?]
  by_cases braced : text.head? = some (ch '{') ∧ text[text.length - 1]? = some (ch '}')
  · obtain ⟨rest, rfl⟩ := head?_eq_some_iff.mp braced.1
    rw [if_pos braced]
    exact if_pos ⟨Nat.succ_pos _, braced⟩
  · rw [if_neg braced, if_neg]
    rintro ⟨some, head, last⟩
    have inside := (List.getElem?_eq_some_iff.mp last).1
    have same : ltrim text = text := (dropWhile_suffix isSpace).eq_of_length_le (by rw [← ltrim]; omega)
    rw [same] at head last
    exact braced ⟨head, last⟩

theorem refinedLength_eq_iff (text : Text) :
    refinedLength text = (sqlRtrim text).length - refinedStart text ↔ ¬ ShortInBraces text := by
  rw [refinedLength, refinedStart, ShortInBraces]
  generalize sqlRtrim text = rtrimmed
  have shorter : (ltrim rtrimmed).length ≤ rtrimmed.length := length_dropWhile_le _ _
  rw [isoShift, fixIsoFormat_eq, ← and_assoc]
  by_cases braced : rtrimmed.head? = some (ch '{') ∧ rtrimmed.getLast? = some (ch '}')
  · obtain ⟨rest, rfl⟩ := head?_eq_some_iff.mp braced.1
    have inside : (trim rest).length ≤ rest.length :=
      ( rdropWhile_prefix _ _).length_le.trans (length_dropWhile_le _ _)
    have skipped := length_skipped (trim rest)
    have same : ltrim (ch '{' :: rest) = ch '{' :: rest := rfl
    rw [if_pos braced, same]
    simp only [braced, drop_one, tail_cons, length_cons, true_and]
    split <;> omega
  · have skipped := length_skipped (ltrim rtrimmed)
    rw [if_neg braced]
    simp only [braced, false_and, not_false_eq_true, iff_true]
    split <;> omega

/-- **The recorded offsets** of every text are sound, and the refined length reaches to the end of the trimmed text
exactly if the text is not one in braces with a short inside. -/
theorem madbParseQuery_offsets_iff (text : QueryText) : text.SoundOffsets ↔ ¬ ShortInBraces text.bytes := by
  refine (and_iff_right fun replace batchAllowed => ⟨Scan.run_rest _ _ rfl, ?_⟩).trans (refinedLength_eq_iff text.bytes)
  have saved : Scan.Saved (text.scan replace batchAllowed) := Scan.run_saved replace batchAllowed text.handed
  refine ⟨saved.rising, fun token member => ?_, saved.marks⟩
  rw [text.parse_refinedText]
  exact (saved.within token member).1

/-- Of two braces the second one is left, and the length 0. -/
theorem madbParseQuery_offsets_braces : ¬ QueryText.SoundOffsets ⟨lit "\x7b\x7d", by decide⟩ :=
  fun sound => absurd sound.2 (by decide)

end MaOdbc
