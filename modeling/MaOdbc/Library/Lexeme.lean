/-
**A plain left-to-right lexer for SQL text.**

`firstLexeme` reads one lexeme off a text: a blank, a comment, a quoted string or identifier, a
parameter mark, a semicolon or any other single byte. Nothing but the text decides, so the lexer has
no state between lexemes. Which `--` opens a comment is a parameter (`dash`, a predicate on what
follows the two dashes), since SQL dialects differ in it.

* `splitLine`, `splitBlock`, `splitQuoted` — the three ways a region ends.
* `Reads` — reading a row of lexemes off a text, as a judgement; `lexemes` reads the whole text.
* `Reads.compare` — lexing is deterministic.
* `bytesOf_lexemes` — a text is the concatenation of its lexemes' bytes.
* `markOffsets` — where the parameter marks stand.
-/

import MaOdbc.Library.CText

namespace MaOdbc

open List Option

/-- The rest of a line comment, through its newline or to the end, and what follows. -/
def splitLine : Text → Text × Text
  | [] => ([], [])
  | byte :: text =>
    if byte = ch '\n' then ([byte], text)
    else (byte :: (splitLine text).1, (splitLine text).2)

/-- The rest of a block comment, through its `*/` or to the end, and what follows. -/
def splitBlock : Text → Text × Text
  | [] => ([], [])
  | byte :: text =>
    if byte = ch '*' ∧ text.head? = some (ch '/') then ([byte, ch '/'], text.tail)
    else (byte :: (splitBlock text).1, (splitBlock text).2)

/-- The body of a quoted region and what follows its closing quote, if it closes. -/
def splitQuoted (escapes : Bool) (quote : Byte) : Text → Option (Text × Text)
  | [] => none
  | [byte] => if byte = quote then some ([], []) else none
  | byte :: next :: text =>
    if byte = quote then some ([], next :: text)
    else if escapes ∧ byte = ch '\\' then
      (splitQuoted escapes quote text).map fun (body, rest) => (byte :: next :: body, rest)
    else
      (splitQuoted escapes quote (next :: text)).map fun (body, rest) => (byte :: body, rest)

inductive Lexeme where
  /-- One blank outside every other region. -/
  | blank (byte : Byte)
  /-- A whole comment, its opening and its end included. -/
  | comment (bytes : Text)
  /-- A closed string or identifier. -/
  | quoted (quote : Byte) (body : Text)
  /-- A string or identifier that does not close, to the end of the text. -/
  | unclosed (quote : Byte) (body : Text)
  /-- A parameter mark. -/
  | mark
  /-- A semicolon. -/
  | semi
  /-- Any other byte. -/
  | other (byte : Byte)
  deriving DecidableEq, Repr

namespace Lexeme

def bytes : Lexeme → Text
  | blank byte => [byte]
  | comment bytes => bytes
  | quoted quote body => quote :: body ++ [quote]
  | unclosed quote body => quote :: body
  | mark => [ch '?']
  | semi => [ch ';']
  | other byte => [byte]

def isUnclosed : Lexeme → Bool
  | unclosed _ _ => true
  | _ => false

def isGap : Lexeme → Bool
  | blank _ => true
  | comment _ => true
  | _ => false

end Lexeme

open Lexeme

def isQuote (byte : Byte) : Bool := byte == ch '\'' || byte == ch '"' || byte == ch '`'

def firstLexeme (dash : Text → Bool) : Text → Option (Lexeme × Text)
  | [] => none
  | byte :: text =>
    if isSpace byte then some (.blank byte, text)
    else if byte = ch '#' then some (.comment (byte :: (splitLine text).1), (splitLine text).2)
    else if byte = ch '-' ∧ text.head? = some (ch '-') ∧ dash text.tail then
      some (.comment (byte :: ch '-' :: (splitLine text.tail).1), (splitLine text.tail).2)
    else if byte = ch '/' ∧ text.head? = some (ch '*') then
      some (.comment (byte :: ch '*' :: (splitBlock text.tail).1), (splitBlock text.tail).2)
    else if isQuote byte then
      match splitQuoted (byte != ch '`') byte text with
      | some (body, rest) => some (.quoted byte body, rest)
      | none => some (.unclosed byte text, [])
    else if byte = ch '?' then some (.mark, text)
    else if byte = ch ';' then some (.semi, text)
    else some (.other byte, text)

/-- The first lexemes of a text, at most `fuel` of them. -/
def lexemesUpTo (dash : Text → Bool) : Nat → Text → List Lexeme
  | 0, _ => []
  | fuel + 1, text =>
    match firstLexeme dash text with
    | none => []
    | some (lexeme, rest) => lexeme :: lexemesUpTo dash fuel rest

def lexemes (dash : Text → Bool) (text : Text) : List Lexeme := lexemesUpTo dash text.length text

def bytesOf (lexemes : List Lexeme) : Text := lexemes.flatMap bytes

/-- **Reading lexemes off a text**, up to a rest. -/
inductive Reads (dash : Text → Bool) : Text → List Lexeme → Text → Prop
  | nil {text : Text} : Reads dash text [] text
  | cons {text next rest : Text} {lexeme : Lexeme} {more : List Lexeme} :
      firstLexeme dash text = some (lexeme, next) → Reads dash next more rest →
      Reads dash text (lexeme :: more) rest

/-- The offsets of the parameter marks, the first lexeme standing at `offset`. -/
def markOffsets : Nat → List Lexeme → List Nat
  | _, [] => []
  | offset, .mark :: more => offset :: markOffsets (offset + 1) more
  | offset, lexeme :: more => markOffsets (offset + lexeme.bytes.length) more

/-! ### The regions that lexemes cover -/

theorem splitLine_append (text : Text) : (splitLine text).1 ++ (splitLine text).2 = text := by
  induction text with
  | nil => rfl
  | cons byte text ih =>
    rw [splitLine]
    split
    · rfl
    · simp [ih]

theorem splitBlock_append (text : Text) : (splitBlock text).1 ++ (splitBlock text).2 = text := by
  induction text with
  | nil => rfl
  | cons byte text ih =>
    rw [splitBlock]
    split
    · rename_i ends
      obtain ⟨-, slash⟩ := ends
      cases text with
      | nil => simp at slash
      | cons next text => simp_all
    · simp [ih]

variable {escapes : Bool} {quote byte : Byte} {body before after : Text}

/-- **A closed region** covers its body and its closing quote, and does not depend on what follows them. -/
theorem splitQuoted_spec {text rest : Text}
    (closed : splitQuoted escapes quote text = some (body, rest)) :
    text = body ++ quote :: rest ∧
      ∀ rest', splitQuoted escapes quote (body ++ quote :: rest') = some (body, rest') := by
  induction text using splitQuoted.induct escapes quote generalizing body rest with
  | case1 => simp [splitQuoted] at closed
  | case2 =>
    simp only [splitQuoted, if_true, some.injEq, Prod.mk.injEq] at closed
    obtain ⟨rfl, rfl⟩ := closed
    exact ⟨rfl, fun rest' => by cases rest' <;> simp [splitQuoted]⟩
  | case3 byte different => simp [splitQuoted, different] at closed
  | case4 next text =>
    simp only [splitQuoted, if_true, some.injEq, Prod.mk.injEq] at closed
    obtain ⟨rfl, rfl⟩ := closed
    exact ⟨rfl, fun rest' => by cases rest' <;> simp [splitQuoted]⟩
  | case5 byte next text different escaped ih =>
    rw [splitQuoted, if_neg different, if_pos escaped] at closed
    obtain ⟨⟨body', rest''⟩, found, equal⟩ := map_eq_some_iff.mp closed
    cases equal
    obtain ⟨rfl, later⟩ := ih found
    refine ⟨rfl, fun rest' => ?_⟩
    rw [cons_append, cons_append, splitQuoted, if_neg different, if_pos escaped, later]
    rfl
  | case6 byte next text different plain ih =>
    rw [splitQuoted, if_neg different, if_neg plain] at closed
    obtain ⟨⟨body', rest''⟩, found, equal⟩ := map_eq_some_iff.mp closed
    cases equal
    obtain ⟨whole, later⟩ := ih found
    refine ⟨congrArg (byte :: ·) whole, fun rest' => ?_⟩
    obtain ⟨next', text', shape⟩ : ∃ next' text', body' ++ quote :: rest' = next' :: text' :=
      exists_cons_of_ne_nil (by simp)
    have here := later rest'
    rw [shape] at here
    rw [cons_append, shape, splitQuoted, if_neg different, if_neg plain, here]
    rfl

theorem splitQuoted_append {text rest : Text}
    (closed : splitQuoted escapes quote text = some (body, rest)) : text = body ++ quote :: rest :=
  (splitQuoted_spec closed).1

variable {read : List Lexeme}

variable {lexeme : Lexeme}

section Reading

variable {dash : Text → Bool}

/-- **What the first lexeme of a text can be.** -/
inductive Begins (dash : Text → Bool) : Text → Lexeme → Text → Prop
  | blank {byte : Byte} {text : Text} : isSpace byte = true → Begins dash (byte :: text) (.blank byte) text
  | hash {text : Text} :
      Begins dash (ch '#' :: text) (.comment (ch '#' :: (splitLine text).1)) (splitLine text).2
  | dashes {text : Text} : dash text = true →
      Begins dash (ch '-' :: ch '-' :: text) (.comment (ch '-' :: ch '-' :: (splitLine text).1))
        (splitLine text).2
  | block {text : Text} :
      Begins dash (ch '/' :: ch '*' :: text) (.comment (ch '/' :: ch '*' :: (splitBlock text).1))
        (splitBlock text).2
  | quoted {quote : Byte} {text body rest : Text} : isQuote quote = true →
      splitQuoted (quote != ch '`') quote text = some (body, rest) →
      Begins dash (quote :: text) (.quoted quote body) rest
  | unclosed {quote : Byte} {text : Text} : isQuote quote = true →
      splitQuoted (quote != ch '`') quote text = none → Begins dash (quote :: text) (.unclosed quote text) []
  | mark {text : Text} : Begins dash (ch '?' :: text) .mark text
  | semi {text : Text} : Begins dash (ch ';' :: text) .semi text
  | other {byte : Byte} {text : Text} : byte ≠ ch '#' →
      ¬ (byte = ch '-' ∧ text.head? = some (ch '-') ∧ dash text.tail = true) →
      ¬ (byte = ch '/' ∧ text.head? = some (ch '*')) → isQuote byte = false → byte ≠ ch '?' →
      byte ≠ ch ';' → Begins dash (byte :: text) (.other byte) text

theorem firstLexeme_begins {text rest : Text} (first : firstLexeme dash text = some (lexeme, rest)) :
    Begins dash text lexeme rest := by
  cases text with
  | nil => cases first
  | cons byte text =>
    rw [firstLexeme] at first
    split_ifs at first with blank hash dashes block quote mark semi
    · cases first
      exact .blank blank
    · cases first
      exact hash ▸ .hash
    · obtain ⟨rfl, second, opens⟩ := dashes
      obtain ⟨text, rfl⟩ := head?_eq_some_iff.mp second
      cases first
      exact .dashes opens
    · obtain ⟨rfl, second⟩ := block
      obtain ⟨text, rfl⟩ := head?_eq_some_iff.mp second
      cases first
      exact .block
    · split at first
      · rename_i closed
        cases first
        exact .quoted quote closed
      · rename_i unclosed
        cases first
        exact .unclosed quote unclosed
    · cases first
      exact mark ▸ .mark
    · cases first
      exact semi ▸ .semi
    · cases first
      exact .other hash dashes block (by simpa using quote) mark semi

theorem firstLexeme_bytes {text rest : Text} (first : firstLexeme dash text = some (lexeme, rest)) :
    text = lexeme.bytes ++ rest := by
  cases firstLexeme_begins first with
  | hash | dashes => simp [bytes, splitLine_append]
  | block => simp [bytes, splitBlock_append]
  | quoted _ closed => simp [bytes, splitQuoted_append closed]
  | unclosed => simp [bytes]
  | blank | mark | semi | other => rfl

theorem firstLexeme_bytes_ne_nil {text rest : Text}
    (first : firstLexeme dash text = some (lexeme, rest)) : lexeme.bytes ≠ [] := by
  cases firstLexeme_begins first <;> simp [bytes]

theorem firstLexeme_length {text rest : Text} {lexeme : Lexeme}
    (first : firstLexeme dash text = some (lexeme, rest)) : rest.length < text.length := by
  have some_byte := length_pos_iff.mpr (firstLexeme_bytes_ne_nil first)
  rw [firstLexeme_bytes first, length_append]
  omega

theorem isSpace_of_blank {text rest : Text}
    (first : firstLexeme dash text = some (.blank byte, rest)) : isSpace byte = true := by
  cases firstLexeme_begins first with
  | blank space => exact space

theorem exists_head_of_solid {text rest : Text}
    (first : firstLexeme dash text = some (lexeme, rest)) (solid : lexeme.isGap = false) :
    ∃ byte more, lexeme.bytes = byte :: more ∧ isSpace byte = false := by
  obtain ⟨byte, more, shape⟩ := exists_cons_of_ne_nil (firstLexeme_bytes_ne_nil first)
  refine ⟨byte, more, shape, ?_⟩
  by_contra blank
  rw [firstLexeme_bytes first, shape, cons_append, firstLexeme,
    if_pos (by simpa using blank)] at first
  rw [← (Prod.mk.inj (some.inj first)).1] at solid
  cases solid

theorem rest_eq_nil_of_unclosed {text rest : Text}
    (first : firstLexeme dash text = some (.unclosed quote body, rest)) : rest = [] := by
  cases firstLexeme_begins first with
  | unclosed => rfl

theorem exists_firstLexeme (dash : Text → Bool) {text : Text} (nonempty : text ≠ []) :
    ∃ lexeme rest, firstLexeme dash text = some (lexeme, rest) := by
  cases text with
  | nil => exact absurd rfl nonempty
  | cons byte text =>
    rw [firstLexeme]
    split_ifs
    all_goals try exact ⟨_, _, rfl⟩
    split <;> exact ⟨_, _, rfl⟩

theorem bytesOf_append (first second : List Lexeme) :
    bytesOf (first ++ second) = bytesOf first ++ bytesOf second :=
  flatMap_append

@[simp] theorem bytesOf_cons (lexeme : Lexeme) (more : List Lexeme) :
    bytesOf (lexeme :: more) = lexeme.bytes ++ bytesOf more :=
  flatMap_cons

@[simp] theorem bytesOf_nil : bytesOf [] = [] := rfl

theorem bytesOf_word (word : Text) : bytesOf (word.map .other) = word := by
  induction word with
  | nil => rfl
  | cons byte word ih =>
    rw [map_cons, bytesOf_cons, ih]
    rfl

namespace Reads

variable {text middle rest : Text} {first second : List Lexeme}

theorem append (before : Reads dash text first middle) (after : Reads dash middle second rest) :
    Reads dash text (first ++ second) rest := by
  induction before with
  | nil => exact after
  | cons head _ ih => exact .cons head (ih after)

theorem bytes (reads : Reads dash text first rest) : text = bytesOf first ++ rest := by
  induction reads with
  | nil => rfl
  | cons head _ ih => rw [bytesOf_cons, append_assoc, ← ih, firstLexeme_bytes head]

/-- Lexing is deterministic: of two readings of one text one continues the other. -/
theorem compare {rest' : Text} (one : Reads dash text first rest)
    (other : Reads dash text second rest') :
    (∃ more, second = first ++ more ∧ Reads dash rest more rest') ∨
      ∃ more, first = second ++ more ∧ Reads dash rest' more rest := by
  induction one generalizing second with
  | nil => exact .inl ⟨second, rfl, other⟩
  | @cons text next rest lexeme more head tail ih =>
    cases other with
    | nil => exact .inr ⟨lexeme :: more, rfl, .cons head tail⟩
    | cons head' tail' =>
      obtain ⟨rfl, rfl⟩ : lexeme = _ ∧ next = _ := by
        have same := head.symm.trans head'
        simpa using same
      rcases ih tail' with ⟨continued, rfl, reads⟩ | ⟨continued, rfl, reads⟩
      · exact .inl ⟨continued, rfl, reads⟩
      · exact .inr ⟨continued, rfl, reads⟩

theorem drop (reads : Reads dash text (first ++ second) rest) (part : Reads dash text first middle) :
    Reads dash middle second rest := by
  induction part with
  | nil => exact reads
  | cons head _ ih =>
    cases reads with
    | cons head' later =>
      cases head.symm.trans head'
      exact ih later

theorem length_lt (reads : Reads dash text first rest) (nonempty : first ≠ []) :
    rest.length < text.length := by
  cases reads with
  | nil => exact absurd rfl nonempty
  | @cons _ next _ lexeme more head later =>
    have shorter := firstLexeme_length head
    have whole := congrArg length later.bytes
    rw [length_append] at whole
    omega

theorem of_nil (reads : Reads dash [] first rest) : first = [] ∧ rest = [] := by
  cases reads with
  | nil => exact ⟨rfl, rfl⟩
  | cons head _ => simp [firstLexeme] at head

end Reads

theorem lexemesUpTo_reads (text : Text) (fuel : Nat) (enough : text.length ≤ fuel) :
    Reads dash text (lexemesUpTo dash fuel text) [] := by
  induction fuel generalizing text with
  | zero =>
    obtain rfl : text = [] := length_eq_zero_iff.mp (Nat.le_zero.mp enough)
    exact .nil
  | succ fuel ih =>
    rw [lexemesUpTo]
    by_cases nonempty : text = []
    · subst nonempty
      exact .nil
    · obtain ⟨lexeme, rest, head⟩ := exists_firstLexeme dash nonempty
      rw [head]
      have smaller := firstLexeme_length head
      exact .cons head (ih rest (by omega))

theorem lexemes_reads (dash : Text → Bool) (text : Text) : Reads dash text (lexemes dash text) [] :=
  lexemesUpTo_reads text text.length le_rfl

/-- An unclosed quote can only be the last of a row of lexemes. -/
def UnclosedLast (lexemes : List Lexeme) : Prop :=
  ∀ before quote body after, lexemes = before ++ .unclosed quote body :: after → after = []

theorem UnclosedLast.of_append {first second : List Lexeme} (last : UnclosedLast (first ++ second)) :
    UnclosedLast second := by
  rintro before quote body after rfl
  exact last (first ++ before) quote body after (by rw [append_assoc])

theorem Reads.unclosedLast {text : Text} (reads : Reads dash text read []) : UnclosedLast read := by
  induction read generalizing text with
  | nil =>
    intro before quote body after split
    simp at split
  | cons lexeme more ih =>
    cases reads with
    | cons first later =>
      intro before quote body after split
      cases before with
      | nil =>
        obtain ⟨rfl, rfl⟩ := List.cons.inj split
        obtain rfl := rest_eq_nil_of_unclosed first
        exact later.of_nil.1
      | cons head before =>
        exact ih later before quote body after (List.cons.inj split).2

theorem Reads.lexemes_eq {text rest : Text} {first : List Lexeme}
    (reads : Reads dash text first rest) : lexemes dash text = first ++ lexemes dash rest := by
  have whole := reads.append (lexemes_reads dash rest)
  rcases whole.compare (lexemes_reads dash text) with ⟨more, same, left⟩ | ⟨more, same, left⟩
  · rw [left.of_nil.1, append_nil] at same
    exact same
  · rw [left.of_nil.1, append_nil] at same
    exact same.symm

theorem bytesOf_lexemes (dash : Text → Bool) (text : Text) : bytesOf (lexemes dash text) = text := by
  have whole := (lexemes_reads dash text).bytes
  rw [append_nil] at whole
  exact whole.symm

end Reading

/-! ### Lexing does not look ahead

Lexemes that end before `tail` are read the same way before any other `tail'` with the same first
byte. -/

section Lookahead

variable {tail tail' : Text}

theorem append_ne_of_shorter {bytes rest : Text} (nonempty : bytes ≠ [])
    (whole : bytes ++ (before ++ rest) = rest) : False := by
  have lengths := congrArg length whole
  have some_byte := length_pos_iff.mpr nonempty
  rw [length_append, length_append] at lengths
  omega

theorem splitLine_ne_nil {text : Text} (nonempty : text ≠ []) : (splitLine text).1 ≠ [] := by
  cases text with
  | nil => exact absurd rfl nonempty
  | cons byte text =>
    rw [splitLine]
    split_ifs <;> simp

theorem splitBlock_ne_nil {text : Text} (nonempty : text ≠ []) : (splitBlock text).1 ≠ [] := by
  cases text with
  | nil => exact absurd rfl nonempty
  | cons byte text =>
    rw [splitBlock]
    split_ifs <;> simp

theorem splitLine_change (nonempty : tail ≠ [])
    (rest : (splitLine (before ++ tail)).2 = after ++ tail) :
    splitLine (before ++ tail') = ((splitLine (before ++ tail)).1, after ++ tail') := by
  induction before generalizing after with
  | nil =>
    have whole := splitLine_append tail
    rw [nil_append] at rest
    rw [rest] at whole
    exact (append_ne_of_shorter (splitLine_ne_nil nonempty) whole).elim
  | cons byte before ih =>
    rw [cons_append, splitLine] at rest
    rw [cons_append, cons_append, splitLine, splitLine]
    split_ifs at rest ⊢ with newline
    · rw [append_cancel_right rest]
    · rw [ih rest]

theorem splitBlock_change (nonempty : tail ≠ []) (head : tail.head? = tail'.head?)
    (rest : (splitBlock (before ++ tail)).2 = after ++ tail) :
    splitBlock (before ++ tail') = ((splitBlock (before ++ tail)).1, after ++ tail') := by
  induction before generalizing after with
  | nil =>
    have whole := splitBlock_append tail
    rw [nil_append] at rest
    rw [rest] at whole
    exact (append_ne_of_shorter (splitBlock_ne_nil nonempty) whole).elim
  | cons byte before ih =>
    have same : (before ++ tail').head? = (before ++ tail).head? := by
      cases before with
      | nil => exact head.symm
      | cons next before => rfl
    rw [cons_append, splitBlock] at rest
    rw [cons_append, cons_append, splitBlock, splitBlock, same]
    split_ifs at rest ⊢ with ends
    · cases before with
      | nil =>
        -- the slash would be the first byte of the tail
        obtain ⟨next, tail, rfl⟩ := exists_cons_of_ne_nil nonempty
        exact (append_ne_of_shorter (cons_ne_nil next [])
          (congrArg (next :: ·) rest.symm)).elim
      | cons next before =>
        have kept : before = after := append_cancel_right rest
        rw [← kept]
        rfl
    · rw [ih rest]

theorem splitQuoted_change
    (closed : splitQuoted escapes quote (before ++ tail) = some (body, after ++ tail)) :
    splitQuoted escapes quote (before ++ tail') = some (body, after ++ tail') := by
  have covers := splitQuoted_append closed
  rw [← cons_append, ← append_assoc] at covers
  rw [append_cancel_right covers, append_assoc]
  exact (splitQuoted_spec closed).2 _

theorem second_before_tail {second : Byte} (nonempty : tail ≠ [])
    (is : (before ++ tail).head? = some second)
    (whole : body ++ (after ++ tail) = (before ++ tail).tail) :
    ∃ more, before = second :: more := by
  cases before with
  | nil =>
    obtain ⟨next, more, rfl⟩ := exists_cons_of_ne_nil nonempty
    have longer : (next :: body) ++ (after ++ (next :: more)) = next :: more :=
      congrArg (next :: ·) whole
    exact (append_ne_of_shorter (cons_ne_nil next body) longer).elim
  | cons next more =>
    have same : next = second := some.inj is
    exact ⟨more, by rw [same]⟩

section

variable {dash : Text → Bool} (always : ∀ text, dash text = true) (nonempty : tail ≠ [])
  (head : tail.head? = tail'.head?)

include always nonempty head

theorem firstLexeme_change
    (first : firstLexeme dash (before ++ tail) = some (lexeme, after ++ tail)) :
    firstLexeme dash (before ++ tail') = some (lexeme, after ++ tail') := by
  cases before with
  | nil =>
    have whole := (firstLexeme_bytes first).symm
    exact (append_ne_of_shorter (firstLexeme_bytes_ne_nil first) whole).elim
  | cons byte before =>
    have same : (before ++ tail').head? = (before ++ tail).head? := by
      cases before with
      | nil => exact head.symm
      | cons next before => rfl
    have one (rest : before ++ tail = after ++ tail) : before ++ tail' = after ++ tail' := by
      rw [append_cancel_right rest]
    rw [cons_append, firstLexeme, always] at first
    rw [cons_append, firstLexeme, same, always]
    split_ifs at first ⊢ with blank hash dashes block quote mark semi
    · obtain ⟨kind, rest⟩ := Prod.mk.inj (some.inj first)
      rw [kind, one rest]
    · obtain ⟨kind, rest⟩ := Prod.mk.inj (some.inj first)
      rw [splitLine_change nonempty rest, kind]
    · obtain ⟨kind, rest⟩ := Prod.mk.inj (some.inj first)
      have whole := splitLine_append (before ++ tail).tail
      rw [rest] at whole
      obtain ⟨more, rfl⟩ := second_before_tail nonempty dashes.2.1 whole
      rw [← kind]
      simp only [cons_append, tail_cons] at rest ⊢
      rw [splitLine_change nonempty rest]
    · obtain ⟨kind, rest⟩ := Prod.mk.inj (some.inj first)
      have whole := splitBlock_append (before ++ tail).tail
      rw [rest] at whole
      obtain ⟨more, rfl⟩ := second_before_tail nonempty block.2 whole
      rw [← kind]
      simp only [cons_append, tail_cons] at rest ⊢
      rw [splitBlock_change nonempty head rest]
    · split at first
      · rename_i body rest closed
        obtain ⟨kind, same⟩ := Prod.mk.inj (some.inj first)
        rw [same] at closed
        rw [splitQuoted_change closed, ← kind]
      · have ends := (Prod.mk.inj (some.inj first)).2
        exact absurd (append_eq_nil_iff.mp ends.symm).2 nonempty
    · obtain ⟨kind, rest⟩ := Prod.mk.inj (some.inj first)
      rw [kind, one rest]
    · obtain ⟨kind, rest⟩ := Prod.mk.inj (some.inj first)
      rw [kind, one rest]
    · obtain ⟨kind, rest⟩ := Prod.mk.inj (some.inj first)
      rw [kind, one rest]

theorem Reads.change (reads : Reads dash (before ++ tail) read tail) :
    Reads dash (before ++ tail') read tail' := by
  have shape : before = bytesOf read := append_cancel_right reads.bytes
  subst shape
  induction read with
  | nil => exact .nil
  | cons lexeme more ih =>
    generalize whole : bytesOf (lexeme :: more) ++ tail = text at reads
    cases reads with
    | cons first later =>
      rw [← whole, later.bytes] at first
      rw [later.bytes] at later
      exact .cons (firstLexeme_change always nonempty head first) (ih later)

end

end Lookahead

/-! ### Words -/

theorem firstLexeme_letter (dash : Text → Bool) (letter : isAlpha byte = true) (text : Text) :
    firstLexeme dash (byte :: text) = some (.other byte, text) := by
  have different (c : Char) (special : isAlpha (ch c) = false) : byte ≠ ch c := by
    rintro rfl
    rw [special] at letter
    cases letter
  have quote : isQuote byte = false := by
    simp [isQuote, different '\'' (by decide), different '"' (by decide), different '`' (by decide)]
  simp [firstLexeme, not_isSpace_of_isAlpha letter, quote, different '#' (by decide),
    different '-' (by decide), different '/' (by decide), different '?' (by decide),
    different ';' (by decide)]

theorem reads_word (dash : Text → Bool) {word : Text} (letters : ∀ byte ∈ word, isAlpha byte = true)
    (text : Text) : Reads dash (word ++ text) (word.map .other) text := by
  induction word with
  | nil => exact .nil
  | cons byte word ih =>
    exact .cons (firstLexeme_letter dash (letters byte mem_cons_self) _)
      (ih fun byte member => letters byte (mem_cons_of_mem _ member))

/-! ### Parameter marks -/

theorem markOffsets_append (offset : Nat) (first second : List Lexeme) :
    markOffsets offset (first ++ second) =
      markOffsets offset first ++ markOffsets (offset + (bytesOf first).length) second := by
  induction first generalizing offset with
  | nil => rfl
  | cons lexeme more ih =>
    rw [bytesOf_cons, length_append, ← Nat.add_assoc]
    cases lexeme with
    | mark =>
      simp only [cons_append, markOffsets, ih]
      rfl
    | _ => simp only [cons_append, markOffsets, ih]

theorem markOffsets_singleton (offset : Nat) (other : lexeme ≠ .mark) :
    markOffsets offset [lexeme] = [] := by
  cases lexeme <;> first | exact absurd rfl other | rfl

theorem markOffsets_eq_nil (offset : Nat) {lexemes : List Lexeme} (none : .mark ∉ lexemes) :
    markOffsets offset lexemes = [] := by
  induction lexemes generalizing offset with
  | nil => rfl
  | cons lexeme more ih =>
    rw [mem_cons, not_or] at none
    have tail := fun offset => ih offset none.2
    cases lexeme <;> first | exact absurd rfl none.1 | exact tail _

theorem markOffsets_bounds {offset position : Nat} {lexemes : List Lexeme}
    (member : position ∈ markOffsets offset lexemes) :
    offset ≤ position ∧ position < offset + (bytesOf lexemes).length := by
  induction lexemes generalizing offset with
  | nil => simp [markOffsets] at member
  | cons lexeme more ih =>
    rw [bytesOf_cons, length_append]
    cases lexeme with
    | mark =>
      simp only [markOffsets, mem_cons] at member
      simp only [bytes, length_singleton]
      rcases member with rfl | later
      · omega
      · have bounds := ih later
        omega
    | _ =>
      simp only [markOffsets] at member
      have bounds := ih member
      omega

theorem markOffsets_sorted (offset : Nat) (lexemes : List Lexeme) :
    (markOffsets offset lexemes).Pairwise (· < ·) := by
  induction lexemes generalizing offset with
  | nil => exact List.Pairwise.nil
  | cons lexeme more ih =>
    cases lexeme with
    | mark =>
      refine List.Pairwise.cons ?_ (ih _)
      intro position later
      exact (markOffsets_bounds later).1
    | _ => exact ih _

end MaOdbc
