/-
**The segments a scan will leave.**

`shapeAhead` foretells, from the lexemes still ahead, the lengths of the NUL-separated segments of
the refined text and which of them hold a token. No round changes it as long as every semicolon ends
its statement (`Moves.shapeAhead_eq`), so the segments of the refined text have the lengths and
tokens of the statements of the text.
-/

import MaOdbc.Parse.Entries

namespace MaOdbc

open List Lexeme

open Scan

/-! ### The shape of a text -/

/-- The length of each part of a row of items and whether it holds a token; `none` separates parts. -/
def shape : Nat × Bool → List (Option (Nat × Bool)) → List (Nat × Bool)
  | current, [] => [current]
  | current, none :: items => current :: shape (0, false) items
  | current, some item :: items => shape (current.1 + item.1, current.2 || item.2) items

def byteItem (byte : Byte) : Option (Nat × Bool) :=
  if byte = 0 then none else some (1, !isSpace byte)

def lexemeItem (lexeme : Lexeme) : Option (Nat × Bool) :=
  if lexeme = .semi then none else some (lexeme.bytes.length, !lexeme.isGap)

theorem shape_append_congr {first second : List (Option (Nat × Bool))}
    (same : ∀ current, shape current first = shape current second)
    (items : List (Option (Nat × Bool))) (current : Nat × Bool) :
    shape current (items ++ first) = shape current (items ++ second) := by
  induction items generalizing current with
  | nil => exact same current
  | cons item items ih =>
    cases item with
    | none => exact congrArg (current :: ·) (ih _)
    | some item => exact ih _

theorem shape_bytes {bytes : Text} (nulFree : 0 ∉ bytes) (items : List (Option (Nat × Bool)))
    (current : Nat × Bool) :
    shape current (bytes.map byteItem ++ items) =
      shape (current.1 + bytes.length, current.2 || !isBlank bytes) items := by
  induction bytes generalizing current with
  | nil => simp [isBlank]
  | cons byte bytes ih =>
    rw [mem_cons, not_or] at nulFree
    have item : byteItem byte = some (1, !isSpace byte) := if_neg (Ne.symm nulFree.1)
    rw [map_cons, cons_append, item, shape, ih nulFree.2, length_cons, isBlank,
      isBlank, all_cons, Bool.or_assoc, Bool.not_and, Nat.add_assoc,
      Nat.add_comm 1]

theorem shape_lexemes {lexemes : List Lexeme} (whole : .semi ∉ lexemes)
    (items : List (Option (Nat × Bool))) (current : Nat × Bool) :
    shape current (lexemes.map lexemeItem ++ items) =
      shape (current.1 + (bytesOf lexemes).length, current.2 || lexemes.any (!·.isGap)) items := by
  induction lexemes generalizing current with
  | nil => simp
  | cons lexeme lexemes ih =>
    rw [mem_cons, not_or] at whole
    have item : lexemeItem lexeme = some (lexeme.bytes.length, !lexeme.isGap) :=
      if_neg (Ne.symm whole.1)
    rw [map_cons, cons_append, item, shape, ih whole.2, bytesOf_cons,
      length_append, any_cons, Bool.or_assoc, Nat.add_assoc]

theorem shape_splitOnP {α : Type} (isCut : α → Bool) {item : α → Option (Nat × Bool)}
    (part : List α → Nat × Bool) (empty : part [] = (0, false))
    (cuts : ∀ x, isCut x = true → item x = none)
    (adds : ∀ x, isCut x = false → ∃ one, item x = some one ∧
      ∀ more, part (x :: more) = (one.1 + (part more).1, one.2 || (part more).2))
    (row : List α) (current : Nat × Bool) :
    shape current (row.map item) =
      ((row.splitOnP isCut).map part).modifyHead
        fun first => (current.1 + first.1, current.2 || first.2) := by
  induction row generalizing current with
  | nil => simp [shape, empty]
  | cons x row ih =>
    rw [splitOnP_cons_eq_if_modifyHead, map_cons]
    cases cut : isCut x with
    | true =>
      rw [cuts x cut, shape, ih, if_pos rfl, map_cons, modifyHead_cons, empty]
      cases List.splitOnP isCut row <;> simp
    | false =>
      obtain ⟨one, is, sums⟩ := adds x cut
      rw [is, shape, ih]
      cases List.splitOnP isCut row with
      | nil => rfl
      | cons first rest => simp [sums, Nat.add_assoc, Bool.or_assoc]

def segmentShape (segment : Text) : Nat × Bool := (segment.length, !isBlank segment)

def statementsOf (lexemes : List Lexeme) : List (List Lexeme) := lexemes.splitOnP (· == .semi)

def hasToken (statement : List Lexeme) : Bool := statement.any (!·.isGap)

def statementShape (statement : List Lexeme) : Nat × Bool :=
  ((bytesOf statement).length, hasToken statement)

theorem modifyHead_shift (row : List (Nat × Bool)) :
    (row.modifyHead fun first => (0 + first.1, false || first.2)) = row := by
  cases row <;> simp

theorem shape_text (text : Text) :
    shape (0, false) (text.map byteItem) = (segments text).map segmentShape := by
  rw [segments, shape_splitOnP (· == 0) segmentShape rfl ?_ ?_, modifyHead_shift]
  · intro byte cut
    exact if_pos (by simpa using cut)
  · intro byte kept
    refine ⟨_, if_neg (by simpa using kept), fun more => ?_⟩
    simp [segmentShape, isBlank, Nat.add_comm]

theorem shape_statements (lexemes : List Lexeme) :
    shape (0, false) (lexemes.map lexemeItem) = (statementsOf lexemes).map statementShape := by
  rw [statementsOf, shape_splitOnP (· == .semi) statementShape rfl ?_ ?_, modifyHead_shift]
  · intro lexeme cut
    exact if_pos (by simpa using cut)
  · intro lexeme kept
    refine ⟨_, if_neg (by simpa using kept), fun more => ?_⟩
    simp [statementShape, hasToken]

/-! ### Lexemes ahead -/

variable {text rest word added : Text} {gaps read : List Lexeme} {lexeme : Lexeme} {s s' : Scan}

theorem semi_mem_text {dash : Text → Bool} (member : .semi ∈ lexemes dash text) :
    ch ';' ∈ text := by
  rw [← bytesOf_lexemes dash text]
  exact mem_flatMap.mpr ⟨.semi, member, mem_singleton_self _⟩

def QuotesWhole (text : Text) : Prop :=
  ∀ quote body, .unclosed quote body ∈ lexemes driverDash text → ch ';' ∉ body

/-- A semicolon that the next round may meet stands in a statement of such a type. -/
def NextSemicolon (procedural : Bool) (s : Scan) : Prop :=
  ∀ gaps rest text, s.readingToken = false → Reads driverDash s.rest gaps rest →
    (∀ gap ∈ gaps, gap.isGap) → firstLexeme driverDash rest = some (.semi, text) →
    (s.pass gaps rest).saveToken.queryType.isProcedural = procedural

theorem lexemes_of_reads {after : Text} (reads : Reads driverDash text gaps rest)
    (first : firstLexeme driverDash rest = some (lexeme, after)) :
    lexemes driverDash text = gaps ++ lexeme :: lexemes driverDash after := by
  rw [(reads.append (.cons first .nil)).lexemes_eq, append_assoc]
  rfl

theorem lexemes_word (letters : ∀ byte ∈ word, isAlpha byte = true) (text : Text) :
    lexemes driverDash (word ++ text) = word.map .other ++ lexemes driverDash text :=
  (reads_word driverDash letters text).lexemes_eq

theorem lexemes_echo (gaps : List Lexeme) (text : Text) :
    lexemes driverDash ((s.pass gaps (lit "ECHO" ++ text)).saveToken.advance 1).rest =
      (lit "CHO").map .other ++ lexemes driverDash text := by
  rw [advance, saveToken_rest]
  exact lexemes_word (by decide) text

theorem hasToken_append (first second : List Lexeme) :
    hasToken (first ++ second) = (hasToken first || hasToken second) :=
  any_append

theorem hasToken_word (nonempty : word.length ≠ 0) : hasToken (word.map .other) = true := by
  cases word with
  | nil => exact absurd rfl nonempty
  | cons byte word => rfl

theorem semi_not_mem_gaps (allGaps : ∀ gap ∈ gaps, gap.isGap) :
    semi ∉ gaps := fun member => by cases allGaps _ member

theorem not_hasToken_gaps (allGaps : ∀ gap ∈ gaps, gap.isGap) : hasToken gaps = false := by
  rw [hasToken, any_eq_false]
  intro gap member
  simp [allGaps gap member]

/-! ### The shape foretold -/

def shapeAhead (s : Scan) : List (Nat × Bool) :=
  shape (0, false) (s.done.map byteItem ++ (lexemes driverDash s.rest).map lexemeItem)

theorem shapeAhead_eq (done : s'.done = s.done ++ added) (stands : ∀ current,
      shape current (added.map byteItem ++ (lexemes driverDash s'.rest).map lexemeItem) =
        shape current ((lexemes driverDash s.rest).map lexemeItem)) :
    shapeAhead s' = shapeAhead s := by
  rw [shapeAhead, shapeAhead, done, map_append, append_assoc]
  exact shape_append_congr stands _ _

theorem shape_stands {kept : List Lexeme} (nulFree : 0 ∉ added) (keptWhole : .semi ∉ kept)
    (whole : .semi ∉ read) (length : added.length + (bytesOf kept).length = (bytesOf read).length)
    (solid : (!isBlank added || hasToken kept) = hasToken read) (ahead : List Lexeme)
    (current : Nat × Bool) :
    shape current (added.map byteItem ++ (kept ++ ahead).map lexemeItem) =
      shape current ((read ++ ahead).map lexemeItem) := by
  rw [map_append, map_append, shape_bytes nulFree, shape_lexemes keptWhole,
    shape_lexemes whole, ← length, ← hasToken, ← hasToken, ← solid, Nat.add_assoc, Bool.or_assoc]

theorem shape_stands_read (nulFree : 0 ∉ added) (whole : .semi ∉ read)
    (length : added.length = (bytesOf read).length) (solid : (!isBlank added) = hasToken read)
    (ahead : List Lexeme) (current : Nat × Bool) :
    shape current (added.map byteItem ++ ahead.map lexemeItem) =
      shape current ((read ++ ahead).map lexemeItem) := by
  have none : semi ∉ ([] : List Lexeme) := not_mem_nil
  refine shape_stands nulFree none whole length ?_ ahead current
  rw [← solid]
  exact Bool.or_false _

theorem solid_bytes (first : firstLexeme driverDash text = some (lexeme, rest))
    (solid : lexeme.isGap = false) (more : Text) : isBlank (lexeme.bytes ++ more) = false := by
  obtain ⟨byte, tail, shape, notBlank⟩ := exists_head_of_solid first solid
  rw [shape, cons_append, isBlank, all_cons, notBlank, Bool.false_and]

/-- **No round changes the shape foretold.** -/
theorem Scan.Moves.shapeAhead_eq {replace : Bool} (moves : Moves replace true s s')
    (nulFree : 0 ∉ s.rest) (cuts : NextSemicolon false s) (whole : QuotesWhole s.rest) :
    shapeAhead s' = shapeAhead s := by
  cases moves with
  | breaks reading rest ends => rfl
  | @continues lexeme text reading first plain =>
    rw [firstLexeme_bytes first, mem_append, not_or] at nulFree
    refine MaOdbc.shapeAhead_eq rfl fun current => ?_
    have all : lexemes driverDash s.rest = [lexeme] ++ lexemes driverDash text :=
      lexemes_of_reads .nil first
    rw [all]
    refine shape_stands_read nulFree.1 ?_ (by simp) ?_ _ current
    · intro member
      rw [← mem_singleton.mp member] at plain
      cases plain
    · cases lexeme with
      | blank byte => simp [isBlank, bytes, isSpace_of_blank first, hasToken, isGap]
      | other byte =>
        have solid := solid_bytes first rfl []
        rw [append_nil] at solid
        rw [solid]
        rfl
      | _ => cases plain
  | @atEnd gaps idle reads allGaps =>
    have blank := isBlank_blankedOf reads allGaps
    refine MaOdbc.shapeAhead_eq (saveToken_done _) fun current => ?_
    rw [saveToken_rest, reads.lexemes_eq]
    refine shape_stands_read (nulFree_of_isBlank blank) (semi_not_mem_gaps allGaps)
      (length_blankedOf gaps) ?_ _ current
    rw [blank, not_hasToken_gaps allGaps]
    rfl
  | @call gaps word text idle reads allGaps requested fresh isCall =>
    have blank := isBlank_blankedOf reads allGaps
    have done : ((s.pass gaps (lit "ECHO" ++ text)).saveToken.advance 1).done =
        s.done ++ (blankedOf gaps ++ lit "E") := by
      rw [advance, saveToken_done, saveToken_rest, ← append_assoc]
      rfl
    refine MaOdbc.shapeAhead_eq done fun current => ?_
    rw [lexemes_echo, reads.lexemes_eq, lexemes_word (isAlpha_of_call isCall), ← append_assoc]
    refine shape_stands (not_mem_append (nulFree_of_isBlank blank) (by decide)) (by simp)
      (not_mem_append (semi_not_mem_gaps allGaps) (by simp)) ?_ ?_ _ current
    · rw [length_append, length_blankedOf, bytesOf_append, bytesOf_word, bytesOf_word,
        length_append, length_of_call isCall]
      rfl
    · have four := length_of_call isCall
      have echo : hasToken ((lit "CHO").map other) = true := rfl
      have called : hasToken (word.map other) = true := hasToken_word (by omega)
      rw [echo, hasToken_append, called, Bool.or_true, Bool.or_true]
  | @token gaps rest text lexeme idle reads allGaps first solid =>
    have blank := isBlank_blankedOf reads allGaps
    rw [reads.bytes, firstLexeme_bytes first, mem_append, mem_append, not_or, not_or] at nulFree
    have all := lexemes_of_reads reads first
    have token : hasToken (gaps ++ [lexeme]) = true := by
      rw [hasToken_append]
      simp [hasToken, solid]
    have done : ((s.pass gaps rest).saveToken.passLexeme true lexeme text).done = s.done ++
        (blankedOf gaps ++ (s.pass gaps rest).saveToken.passedBytes true lexeme) := by
      rw [passLexeme_done, saveToken_done, pass, append_assoc]
    refine MaOdbc.shapeAhead_eq done fun current => ?_
    have plain (notSemi : lexeme ≠ .semi) :
        shape current ((blankedOf gaps ++ lexeme.bytes).map byteItem ++ (lexemes driverDash text).map lexemeItem) =
          shape current ((lexemes driverDash s.rest).map lexemeItem) := by
      rw [all, ← singleton_append, ← append_assoc]
      refine shape_stands_read (not_mem_append (nulFree_of_isBlank blank) nulFree.2.1)
        (not_mem_append (semi_not_mem_gaps allGaps) fun member => notSemi (mem_singleton.mp member).symm) ?_ ?_ _ current
      · rw [length_append, length_blankedOf, bytesOf_append, length_append, bytesOf_cons,
          bytesOf_nil, append_nil]
      · have tail := solid_bytes first solid []
        rw [append_nil] at tail
        rw [token, isBlank_append, tail, Bool.and_false]
        rfl
    cases lexeme with
    | blank | comment => cases solid
    | quoted | other | mark => exact plain (by simp)
    | unclosed quote body =>
      obtain rfl := rest_eq_nil_of_unclosed first
      have none : ch ';' ∉ body := whole quote body (by rw [all]; simp)
      have bytes := nulFree.2.1
      rw [Lexeme.bytes, mem_cons, not_or] at bytes
      have last : lexemes driverDash s.rest = (gaps ++ [.unclosed quote body]) ++ [] := by
        rw [all, append_nil]
        rfl
      have taken : 0 ∉ quote :: body.take 1 :=
        not_mem_cons_of_ne_of_not_mem bytes.1 fun member => bytes.2 (mem_of_mem_take member)
      rw [last, ← append_nil (lexemes driverDash (Scan.passLexeme _ _ _ _).rest)]
      refine shape_stands (not_mem_append (nulFree_of_isBlank blank) taken) ?_
        (not_mem_append (semi_not_mem_gaps allGaps) (by simp)) ?_ ?_ _ current
      · exact fun member => none (mem_of_mem_drop (semi_mem_text member))
      · rw [bytesOf_lexemes, length_append, length_blankedOf, bytesOf_append,
          length_append, bytesOf_cons, bytesOf_nil, append_nil]
        simp only [passLexeme, Lexeme.bytes, length_cons, length_take, length_drop]
        omega
      · obtain ⟨byte, more, head, notBlank⟩ := exists_head_of_solid first solid
        obtain ⟨rfl, rfl⟩ := List.cons.inj head
        rw [token, isBlank_append, isBlank, isBlank, all_cons, notBlank, Bool.false_and,
          Bool.and_false]
        rfl
    | semi =>
      rw [passLexeme_semi, passedBytes, semicolonByte, cuts gaps rest text idle reads allGaps first, all, map_append,
        map_append, append_assoc, shape_bytes (nulFree_of_isBlank blank), shape_lexemes (semi_not_mem_gaps allGaps),
        length_blankedOf, blank, ← hasToken, not_hasToken_gaps allGaps]
      rfl

end MaOdbc
