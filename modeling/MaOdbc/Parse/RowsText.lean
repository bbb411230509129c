/-
**Statements that return rows**, by their first keyword.

A text starts with blanks, comments and opening parentheses in any order, and then with a keyword; blanks and
semicolons at its end are no part of it (`SqlRtrim`).

* `RowsText.handed_reads`: what `MADB_ParseQuery` scans starts at the first parenthesis or with the keyword.
* `RowsText.firstType_eq`: the type is read off the text from the second token on, unless the keyword is part of the
  first one. A comment there is not blanked yet.
* `RowsText.returnsResult_eq`: when `ReturnsResult` is set.
-/

import MaOdbc.Parse.Returns

namespace MaOdbc

open List Lexeme

open Scan

def rowKeywords : List Text :=
  [lit "select", lit "with", lit "show", lit "describe", lit "desc", lit "explain", lit "call", lit "echo"]

variable {keyword text rest : Text} {byte : Byte} {gaps : List Lexeme} {lexeme : Lexeme}

theorem isAlpha_rowKeyword (named : keyword.map lower ∈ rowKeywords) :
    ∀ byte ∈ keyword, isAlpha byte = true := by
  have all : ∀ keyword ∈ rowKeywords, ∀ byte ∈ keyword, isAlpha byte = true := by decide
  intro byte member
  exact isAlpha_of_lower (all _ named _ (mem_map_of_mem member))

theorem rowKeyword_ne_nil (named : keyword.map lower ∈ rowKeywords) : keyword ≠ [] := by
  have all : ∀ keyword ∈ rowKeywords, keyword ≠ [] := by decide
  rintro rfl
  exact all _ named rfl

theorem getQueryType_rowKeyword (named : keyword.map lower ∈ rowKeywords) (rest token2 : Text) :
    (getQueryType (keyword ++ rest) token2).doesntReturnResult = false := by
  have cut : cstr (keyword ++ rest) = keyword ++ cstr rest := by
    refine takeWhile_append_of_pos fun byte member => ?_
    rw [bne_iff_ne]
    rintro rfl
    cases isAlpha_rowKeyword named 0 member
  have starts : (keyword ++ cstr rest).dropWhile (fun byte => !isAlpha byte) = keyword ++ cstr rest := by
    obtain ⟨byte, more, shape⟩ := exists_cons_of_ne_nil (rowKeyword_ne_nil named)
    have letter := isAlpha_rowKeyword named byte (by rw [shape]; exact mem_cons_self)
    rw [shape, cons_append]
    exact dropWhile_cons_of_neg (by rw [letter]; decide)
  rw [getQueryType, cut, starts]
  simp only [matchesNoCase, map_append]
  generalize keyword.map lower = word at named
  simp only [rowKeywords, mem_cons, not_mem_nil, or_false] at named
  rcases named with rfl | rfl | rfl | rfl | rfl | rfl | rfl | rfl <;> rfl

/-- A single statement that starts with such a keyword, with anything behind the keyword. -/
structure RowsText where
  text : QueryText
  lead : List Lexeme
  keyword : Text
  rest : Text
  reads : Reads driverDash (sqlRtrim text.bytes) lead (keyword ++ rest)
  leads : ∀ lexeme ∈ lead, lexeme.isGap = true ∨ lexeme = .other (ch '(')
  isKeyword : keyword.map lower ∈ rowKeywords
  closed : QuotesClosed (sqlRtrim text.bytes)
  single : SingleStatement (lexemes driverDash (sqlRtrim text.bytes))

namespace RowsText

variable (rows : RowsText)

/-- What leads the keyword behind the blanks and comments in front. -/
def opening : List Lexeme := rows.lead.dropWhile (·.isGap)

/-- The text from its second token on, if the keyword is no part of the first one; from the keyword on otherwise. -/
def second : Text :=
  bytesOf ((rows.opening.dropWhile (·.continues)).dropWhile (·.isGap)) ++ (rows.keyword ++ rows.rest)

theorem isAlpha_keyword : ∀ byte ∈ rows.keyword, isAlpha byte = true := isAlpha_rowKeyword rows.isKeyword

theorem keyword_ne_nil : rows.keyword ≠ [] := rowKeyword_ne_nil rows.isKeyword

theorem getQueryType_keyword (rest token2 : Text) :
    (getQueryType (rows.keyword ++ rest) token2).doesntReturnResult = false :=
  getQueryType_rowKeyword rows.isKeyword rest token2

end RowsText

/-! ### What precedes the first letter -/

theorem getQueryType_append {junk : Text} (plain : ∀ byte ∈ junk, isAlpha byte = false ∧ byte ≠ 0) (token1 token2 : Text) :
    getQueryType (junk ++ token1) token2 = getQueryType token1 token2 := by
  have cut : cstr (junk ++ token1) = junk ++ cstr token1 :=
    takeWhile_append_of_pos fun byte member => bne_iff_ne.mpr (plain byte member).2
  have skipped : (junk ++ cstr token1).dropWhile (fun byte => !isAlpha byte) =
      (cstr token1).dropWhile fun byte => !isAlpha byte :=
    dropWhile_append_of_pos fun byte member => by rw [(plain byte member).1]; rfl
  rw [getQueryType, getQueryType, cut, skipped]

theorem firstType_eq {all : List Lexeme} {more : List Lexeme} (shape : all = .other byte :: more)
    (goesOn : (other byte).continues = true) :
    firstType all =
      getQueryType
        (bytesOf (all.takeWhile (·.continues)) ++ blankedOf ((all.dropWhile (·.continues)).takeWhile (·.isGap)) ++
          bytesOf ((all.dropWhile (·.continues)).dropWhile (·.isGap)))
        (bytesOf ((all.dropWhile (·.continues)).dropWhile (·.isGap))) := by
  rw [shape, firstType, typeAhead, takeWhile_cons_of_pos goesOn, dropWhile_cons_of_pos goesOn, bytesOf_cons]
  rfl

theorem continues_word {word : Text} (letters : ∀ byte ∈ word, isAlpha byte = true) :
    ∀ lexeme ∈ word.map other, lexeme.continues = true := by
  intro lexeme member
  obtain ⟨byte, here, rfl⟩ := mem_map.mp member
  rw [continues, not_breaksToken_of_isAlpha (letters byte here)]
  rfl

theorem firstType_rowKeyword (named : keyword.map lower ∈ rowKeywords) (rest : Text) :
    (firstType (lexemes driverDash (keyword ++ rest))).doesntReturnResult = false := by
  have letters := isAlpha_rowKeyword named
  obtain ⟨byte, word, shape⟩ := exists_cons_of_ne_nil (rowKeyword_ne_nil named)
  have shown : lexemes driverDash (keyword ++ rest) =
      .other byte :: (word.map .other ++ lexemes driverDash rest) := by
    rw [lexemes_word letters, shape]
    rfl
  have goesOn : (other byte).continues = true :=
    continues_word letters _ (by rw [shape]; exact mem_cons_self)
  rw [firstType_eq shown goesOn, lexemes_word letters, takeWhile_append_of_pos (continues_word letters),
    bytesOf_append, bytesOf_word, append_assoc, append_assoc]
  exact getQueryType_rowKeyword named _ _

theorem handedText_letter {more : Text} {letter : Byte} (alpha : isAlpha letter = true)
    (trimmed : sqlRtrim text = letter :: more) : (handedText text).2 = letter :: more := by
  have kept : ltrim (letter :: more) = letter :: more :=
    dropWhile_cons_of_neg (by rw [not_isSpace_of_isAlpha alpha]; exact Bool.false_ne_true)
  have plain : fixIsoFormat (letter :: more) (letter :: more).length = (letter :: more, (letter :: more).length) := by
    refine if_neg fun braces => ?_
    have brace : letter = ch '\x7b' := Option.some.inj braces.2.1
    rw [brace] at alpha
    cases alpha
  have token : AtToken driverDash (letter :: more) := by
    intro lexeme after first
    rw [firstLexeme_letter driverDash alpha] at first
    cases first
    rfl
  obtain ⟨gaps, skipped, allGaps, -, -⟩ := skipLoop_reads false (Nat.lt_succ_self (letter :: more).length)
  obtain ⟨-, whole⟩ := gaps_eq_nil_of_atToken token skipped allGaps
  rw [handedText, trimmed]
  dsimp only
  rw [kept, isoShift, plain, if_neg (by rw [length_cons]; omega)]
  exact whole

/-! ### Where a run of lexemes ends -/

section Runs

variable {α : Type} {p : α → Bool} {front back : List α}

theorem takeWhile_append_of_stops (stops : ¬ ∀ x ∈ front, p x = true) :
    (front ++ back).takeWhile p = front.takeWhile p := by
  rw [takeWhile_append, if_neg]
  intro full
  exact stops (takeWhile_eq_self_iff.mp (( takeWhile_prefix p).eq_of_length full))

theorem dropWhile_append_of_stops (stops : ¬ ∀ x ∈ front, p x = true) :
    (front ++ back).dropWhile p = front.dropWhile p ++ back := by
  rw [dropWhile_append, if_neg]
  rw [List.isEmpty_iff, dropWhile_eq_nil_iff]
  exact stops

theorem takeWhile_append_cons {x : α} (stop : ¬ p x = true) :
    (front ++ x :: back).takeWhile p = front.takeWhile p := by
  by_cases all : ∀ x ∈ front, p x = true
  · rw [takeWhile_append_of_pos all, takeWhile_cons_of_neg stop, append_nil,
      takeWhile_eq_self_iff.mpr all]
  · exact takeWhile_append_of_stops all

theorem dropWhile_append_cons {x : α} (stop : ¬ p x = true) :
    (front ++ x :: back).dropWhile p = front.dropWhile p ++ x :: back := by
  by_cases all : ∀ x ∈ front, p x = true
  · rw [dropWhile_append_of_pos all, dropWhile_cons_of_neg stop, dropWhile_eq_nil_iff.mpr all]
    rfl
  · exact dropWhile_append_of_stops all

end Runs

theorem Reads.isSpace_of_blank_mem {dash : Text → Bool} {read : List Lexeme}
    (reads : Reads dash text read rest) (member : .blank byte ∈ read) : isSpace byte = true := by
  induction reads with
  | nil => cases member
  | cons first _ ih =>
    rcases mem_cons.mp member with rfl | later
    · exact isSpace_of_blank first
    · exact ih later

namespace RowsText

variable (rows : RowsText)

/-! ### The scanned text -/

theorem opening_lead : ∀ lexeme ∈ rows.opening, lexeme.isGap = true ∨ lexeme = .other (ch '(') :=
  fun lexeme member => rows.leads lexeme ((dropWhile_suffix _).subset member)

theorem firstLexeme_keyword :
    ∃ letter more, rows.keyword ++ rows.rest = letter :: more ∧ isAlpha letter = true ∧
      firstLexeme driverDash (rows.keyword ++ rows.rest) = some (.other letter, more) := by
  obtain ⟨letter, more, shape⟩ := exists_cons_of_ne_nil rows.keyword_ne_nil
  have alpha := rows.isAlpha_keyword letter (by rw [shape]; exact mem_cons_self)
  rw [shape, cons_append]
  exact ⟨letter, more ++ rows.rest, rfl, alpha, firstLexeme_letter driverDash alpha _⟩

theorem reads_opening (reads : Reads driverDash (sqlRtrim rows.text.bytes) gaps rest)
    (allGaps : ∀ gap ∈ gaps, gap.isGap) (token : AtToken driverDash rest) :
    Reads driverDash rest rows.opening (rows.keyword ++ rows.rest) := by
  obtain ⟨letter, more, -, -, first⟩ := rows.firstLexeme_keyword
  rcases reads.compare rows.reads with ⟨after, whole, later⟩ | ⟨after, whole, later⟩
  · have opening : rows.opening = after := by
      rw [opening, whole, dropWhile_append_of_pos allGaps]
      cases after with
      | nil => rfl
      | cons head tail =>
        cases later with
        | cons first _ => exact dropWhile_cons_of_neg (by rw [token head _ first]; exact Bool.false_ne_true)
    rw [opening]
    exact later
  · cases later with
    | nil =>
      have opening : rows.opening = [] := by
        rw [RowsText.opening, dropWhile_eq_nil_iff]
        intro lexeme member
        exact allGaps lexeme (by rw [whole, append_nil]; exact member)
      rw [opening]
      exact .nil
    | @cons text next rest lexeme after head tail =>
      have gap := allGaps lexeme (by rw [whole]; exact mem_append_right _ mem_cons_self)
      rw [first] at head
      cases head
      cases gap

theorem head_ne_brace : (ltrim (sqlRtrim rows.text.bytes)).head? ≠ some (ch '\x7b') := by
  intro brace
  obtain ⟨letter, more, -, alpha, keyword⟩ := rows.firstLexeme_keyword
  obtain ⟨tail, whole⟩ := head?_eq_some_iff.mp brace
  have blanks := reads_blanks driverDash (sqlRtrim rows.text.bytes)
  rw [whole] at blanks
  have first : firstLexeme driverDash (ch '\x7b' :: tail) = some (.other (ch '\x7b'), tail) := rfl
  have reads := blanks.append (.cons first .nil)
  have absent : other (ch '\x7b') ∉ rows.lead := by
    intro member
    rcases rows.leads _ member with gap | paren
    · cases gap
    · cases paren
  rcases reads.compare rows.reads with ⟨after, lead, -⟩ | ⟨after, lead, later⟩
  · refine absent ?_
    rw [lead]
    simp
  · cases later with
    | nil =>
      refine absent ?_
      rw [append_nil] at lead
      rw [← lead]
      simp
    | @cons text next rest lexeme after head tail =>
      rw [keyword] at head
      cases head
      have member : other letter ∈ rows.lead ++ .other letter :: after :=
        mem_append_right _ mem_cons_self
      rw [← lead] at member
      rcases mem_append.mp member with blank | brace
      · obtain ⟨_, -, same⟩ := mem_map.mp blank
        cases same
      · rw [mem_singleton] at brace
        cases brace
        cases alpha

theorem handed_reads : Reads driverDash rows.text.handed rows.opening (rows.keyword ++ rows.rest) ∧
    ∃ gaps, Reads driverDash (sqlRtrim rows.text.bytes) gaps rows.text.handed ∧ ∀ gap ∈ gaps, gap.isGap := by
  have blanks := reads_blanks driverDash (sqlRtrim rows.text.bytes)
  obtain ⟨gaps, skipped, allGaps, token, -⟩ :=
    skipLoop_reads false (Nat.lt_succ_self (ltrim (sqlRtrim rows.text.bytes)).length)
  have plain : fixIsoFormat (ltrim (sqlRtrim rows.text.bytes)) (sqlRtrim rows.text.bytes).length =
      (ltrim (sqlRtrim rows.text.bytes), (sqlRtrim rows.text.bytes).length) :=
    if_neg fun braces => rows.head_ne_brace braces.2.1
  have nonempty : 0 < (ltrim (sqlRtrim rows.text.bytes)).length := by
    obtain ⟨letter, more, shape, alpha, -⟩ := rows.firstLexeme_keyword
    rw [length_pos_iff]
    intro empty
    rw [ltrim, dropWhile_eq_nil_iff] at empty
    have member : letter ∈ sqlRtrim rows.text.bytes := by
      rw [rows.reads.bytes, shape]
      exact mem_append_right _ mem_cons_self
    have blank := empty letter member
    rw [not_isSpace_of_isAlpha alpha] at blank
    cases blank
  have shorter : (ltrim (sqlRtrim rows.text.bytes)).length ≤ (sqlRtrim rows.text.bytes).length :=
    (dropWhile_suffix _).length_le
  have handed : rows.text.handed = (skipSpacesAndComments false (ltrim (sqlRtrim rows.text.bytes))).2 := by
    rw [QueryText.handed, handedText]
    dsimp only
    rw [isoShift, plain]
    dsimp only
    rw [if_neg (by omega)]
  have reads := blanks.append skipped
  have all : ∀ gap ∈ ((sqlRtrim rows.text.bytes).takeWhile isSpace).map blank ++ gaps, gap.isGap := by
    intro gap member
    rcases mem_append.mp member with blank | later
    · obtain ⟨_, -, rfl⟩ := mem_map.mp blank
      rfl
    · exact allGaps gap later
  rw [handed]
  exact ⟨rows.reads_opening reads all token, _, reads, all⟩

theorem firstLexeme_handed : ∃ byte, (byte = ch '(' ∨ isAlpha byte = true) ∧
    firstLexeme driverDash rows.text.handed = some (.other byte, rows.text.handed.tail) := by
  have opening := rows.handed_reads.1
  have token := rows.text.handed_atToken
  obtain ⟨letter, more, shape, alpha, first⟩ := rows.firstLexeme_keyword
  generalize rows.text.handed = handed at opening token
  cases shape' : rows.opening with
  | nil =>
    rw [shape'] at opening
    cases opening
    refine ⟨letter, .inr alpha, ?_⟩
    rw [first, shape]
    rfl
  | cons head tail =>
    rw [shape'] at opening
    cases opening with
    | @cons text next rest lexeme after here later =>
      have solid := token head next here
      rcases rows.opening_lead head (by rw [shape']; exact mem_cons_self) with gap | rfl
      · rw [solid] at gap
        cases gap
      · have bytes := firstLexeme_bytes here
        refine ⟨ch '(', .inl rfl, ?_⟩
        rw [here, bytes]
        rfl

theorem blanked_opening (member : lexeme ∈ rows.opening) :
    ∀ byte ∈ lexeme.blanked, isAlpha byte = false ∧ byte ≠ 0 := by
  intro byte here
  rcases rows.opening_lead lexeme member with gap | rfl
  · cases lexeme with
    | blank other =>
      rw [mem_singleton.mp here]
      have space := rows.handed_reads.1.isSpace_of_blank_mem member
      refine ⟨?_, ?_⟩
      · cases alpha : isAlpha other with
        | false => rfl
        | true =>
          rw [not_isSpace_of_isAlpha alpha] at space
          cases space
      · rintro rfl
        cases space
    | comment bytes =>
      rw [(mem_replicate.mp here).2]
      decide
    | _ => cases gap
  · rw [mem_singleton.mp here]
    decide

theorem blanked_of_continues (goesOn : lexeme.continues = true) :
    lexeme.blanked = lexeme.bytes := by
  cases lexeme with
  | comment bytes => cases goesOn
  | _ => rfl

/-- **The type of the statement**, as far as the result goes. -/
theorem doesntReturnResult_firstType :
    (firstType (lexemes driverDash rows.text.handed)).doesntReturnResult =
      (getQueryType rows.second rows.second).doesntReturnResult := by
  obtain ⟨byte, kind, first⟩ := rows.firstLexeme_handed
  have goesOn : (other byte).continues = true := by
    rcases kind with rfl | alpha
    · rfl
    · rw [continues, not_breaksToken_of_isAlpha alpha]
      rfl
  have junk : ∀ (lexemes : List Lexeme), (∀ lexeme ∈ lexemes, lexeme ∈ rows.opening ∧ lexeme.continues = true) →
      ∀ byte ∈ bytesOf lexemes, isAlpha byte = false ∧ byte ≠ 0 := by
    intro lexemes all byte member
    obtain ⟨lexeme, here, inside⟩ := mem_flatMap.mp member
    rw [← blanked_of_continues (all lexeme here).2] at inside
    exact rows.blanked_opening (all lexeme here).1 byte inside
  obtain ⟨letter, more, shape, alpha, -⟩ := rows.firstLexeme_keyword
  have letters : ∃ tail, rows.keyword.map other = .other letter :: tail := by
    obtain ⟨head, tail, word⟩ := exists_cons_of_ne_nil rows.keyword_ne_nil
    rw [word, cons_append, List.cons.injEq] at shape
    exact ⟨tail.map .other, by rw [word, map_cons, shape.1]⟩
  obtain ⟨tail, letters⟩ := letters
  rw [firstType_eq (lexemes_of_reads .nil first) goesOn, rows.handed_reads.1.lexemes_eq,
    lexemes_word rows.isAlpha_keyword]
  by_cases all : ∀ lexeme ∈ rows.opening, lexeme.continues = true
  · -- the keyword is part of the first token
    have taken : (rows.opening ++ (rows.keyword.map other ++ lexemes driverDash rows.rest)).takeWhile (·.continues) =
        rows.opening ++ (rows.keyword.map .other ++ (lexemes driverDash rows.rest).takeWhile (·.continues)) := by
      rw [takeWhile_append_of_pos all, takeWhile_append_of_pos (continues_word rows.isAlpha_keyword)]
    have nothing : rows.opening.dropWhile (·.continues) = [] := dropWhile_eq_nil_iff.mpr all
    rw [taken, bytesOf_append, bytesOf_append, bytesOf_word, append_assoc, append_assoc, append_assoc,
      getQueryType_append (junk rows.opening fun lexeme member => ⟨member, all lexeme member⟩),
      rows.getQueryType_keyword, second, nothing]
    exact (rows.getQueryType_keyword _ _).symm
  · -- the first token ends before the keyword, and the blanks behind it hide nothing of the second
    have solid : (other letter).isGap ≠ true := Bool.false_ne_true
    have plain : ∀ byte ∈ bytesOf (rows.opening.takeWhile (·.continues)) ++
        blankedOf ((rows.opening.dropWhile (·.continues)).takeWhile (·.isGap)), isAlpha byte = false ∧ byte ≠ 0 := by
      intro byte member
      rcases mem_append.mp member with token | blanks
      · refine junk _ (fun lexeme here => ⟨?_, ?_⟩) byte token
        · exact ( takeWhile_prefix _).subset here
        · exact mem_takeWhile_imp here
      · obtain ⟨lexeme, here, inside⟩ := mem_flatMap.mp blanks
        exact rows.blanked_opening ((dropWhile_suffix _).subset (( takeWhile_prefix _).subset here)) byte inside
    rw [takeWhile_append_of_stops all, dropWhile_append_of_stops all, letters, cons_append,
      takeWhile_append_cons solid, dropWhile_append_cons solid, ← cons_append, ← letters, bytesOf_append,
      bytesOf_append, bytesOf_word, bytesOf_lexemes, getQueryType_append plain]
    rfl

/-! ### The verdict -/

theorem semi_not_mem_gaps (allGaps : ∀ gap ∈ gaps, gap.isGap) : .semi ∉ gaps := by
  intro member
  cases allGaps _ member

theorem closed_handed : QuotesClosed rows.text.handed := by
  obtain ⟨gaps, reads, -⟩ := rows.handed_reads.2
  intro lexeme member
  refine rows.closed lexeme ?_
  rw [reads.lexemes_eq]
  exact mem_append_right _ member

theorem single_handed : SingleStatement (lexemes driverDash rows.text.handed) := by
  obtain ⟨gaps, reads, allGaps⟩ := rows.handed_reads.2
  have single := rows.single
  rw [reads.lexemes_eq] at single
  exact single.of_append (semi_not_mem_gaps allGaps)

/-- **When `ReturnsResult` is set**: a byte behind the first one ends the first token, and the type is recognised. -/
theorem returnsResult_eq (replace batchAllowed : Bool) :
    (rows.text.parse replace batchAllowed).returnsResult =
      (rows.text.handed.tail.any breaksToken && !(getQueryType rows.second rows.second).doesntReturnResult) := by
  obtain ⟨byte, -, first⟩ := rows.firstLexeme_handed
  have value := (run_returnsResult first rows.closed_handed rows.single_handed replace batchAllowed).1
  rw [rows.doesntReturnResult_firstType] at value
  exact value

theorem parse_single (replace batchAllowed : Bool) :
    (rows.text.parse replace batchAllowed).subQuery.length ≤ 1 ∧
      ((rows.text.parse replace batchAllowed).returnsResult = true →
        (rows.text.parse replace batchAllowed).queryType = .selectInto ∨
          (rows.text.parse replace batchAllowed).queryType.doesntReturnResult = false) := by
  obtain ⟨byte, -, first⟩ := rows.firstLexeme_handed
  exact (run_returnsResult first rows.closed_handed rows.single_handed replace batchAllowed).2

end RowsText

end MaOdbc
