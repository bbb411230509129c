/-
**How a shell reads a text.**

The token recognition of a POSIX shell: blanks, operators and comments, backslashes and the two kinds of quotes. What
a shell would go on to expand is not followed: a text in which something may be expanded has no reading here, and
neither has one whose quotes do not close.

* `read_keeps`: a text in double quotes that stays as it is.
* `weight_read`: a shell removes quotes and blanks, and adds nothing.
* `read_quoted_iff`: which texts in double quotes are read as themselves, in front of a sign behind a blank.
-/

import MaOdbc.Library.CText

namespace MaOdbc

open List

/-- A token. A word is what is left of it behind the removal of quotes; an operator of several bytes appears as its
bytes. -/
inductive ShellToken
  | word (text : Text)
  | operator (byte : Byte)
  deriving DecidableEq, Repr

inductive ShellMode
  | between
  | word
  | escaped (inWord : Bool)
  | single
  | double
  | doubleEscaped
  | comment
  deriving DecidableEq, Repr

structure ShellState where
  mode : ShellMode
  word : Text
  deriving DecidableEq, Repr

def isShellOperator (byte : Byte) : Bool := (lit "&|;<>()\n").contains byte

def mayExpand (byte : Byte) : Bool := (lit "$`*?[~").contains byte

def expandsInDouble (byte : Byte) : Bool := byte == ch '$' || byte == ch '`'

def isEscapedInDouble (byte : Byte) : Bool := expandsInDouble byte || byte == ch '"' || byte == ch '\\'

variable {state next : ShellState} {byte : Byte} {tokens : List ShellToken} {text : Text}

namespace ShellState

def endWord (state : ShellState) : List ShellToken := if state.mode = .word then [.word state.word] else []

def unquoted (state : ShellState) (byte : Byte) : Option (List ShellToken × ShellState) :=
  if byte = ch '"' then some ([], ⟨.double, state.word⟩)
  else if byte = ch '\'' then some ([], ⟨.single, state.word⟩)
  else if byte = ch '\\' then some ([], ⟨.escaped (state.mode = .word), state.word⟩)
  else if mayExpand byte then none
  else if isShellOperator byte then some (state.endWord ++ [.operator byte], ⟨.between, []⟩)
  else if byte = ch ' ' ∨ byte = ch '\t' then some (state.endWord, ⟨.between, []⟩)
  else if byte = ch '#' ∧ state.mode = .between then some ([], ⟨.comment, []⟩)
  else some ([], ⟨.word, state.word ++ [byte]⟩)

/-- One byte: the tokens that it ends, and where the shell stands behind it. -/
def step (state : ShellState) (byte : Byte) : Option (List ShellToken × ShellState) :=
  match state.mode with
  | .between | .word => state.unquoted byte
  | .escaped inWord =>
    if byte = ch '\n' then some ([], ⟨if inWord then .word else .between, state.word⟩)
    else some ([], ⟨.word, state.word ++ [byte]⟩)
  | .single =>
    if byte = ch '\'' then some ([], ⟨.word, state.word⟩) else some ([], ⟨.single, state.word ++ [byte]⟩)
  | .double =>
    if byte = ch '"' then some ([], ⟨.word, state.word⟩)
    else if expandsInDouble byte then none
    else if byte = ch '\\' then some ([], ⟨.doubleEscaped, state.word⟩)
    else some ([], ⟨.double, state.word ++ [byte]⟩)
  | .doubleEscaped =>
    if byte = ch '\n' then some ([], ⟨.double, state.word⟩)
    else if isEscapedInDouble byte then some ([], ⟨.double, state.word ++ [byte]⟩)
    else some ([], ⟨.double, state.word ++ [ch '\\', byte]⟩)
  | .comment =>
    if byte = ch '\n' then some ([.operator byte], ⟨.between, []⟩) else some ([], ⟨.comment, []⟩)

def finish (state : ShellState) : Option (List ShellToken) :=
  match state.mode with
  | .between | .comment => some []
  | .word => some [.word state.word]
  | .escaped _ | .single | .double | .doubleEscaped => none

def read (state : ShellState) : Text → Option (List ShellToken)
  | [] => state.finish
  | byte :: text => do
      let (tokens, next) ← state.step byte
      let more ← next.read text
      pure (tokens ++ more)

def start : ShellState := ⟨.between, []⟩

theorem read_cons_of_step (steps : state.step byte = some (tokens, next)) (text : Text) :
    state.read (byte :: text) = (next.read text).map (tokens ++ ·) := by
  rw [read, steps]
  show ((next.read text).bind fun more => some (tokens ++ more)) = _
  cases next.read text with
  | none | some => rfl

theorem read_cons_of_quiet (steps : state.step byte = some ([], next)) (text : Text) :
    state.read (byte :: text) = next.read text := by
  rw [read_cons_of_step steps]
  cases next.read text with
  | none | some => rfl

def inWord (byte : Byte) : Bool :=
  byte != ch '"' && byte != ch '\'' && byte != ch '\\' && !mayExpand byte && !isShellOperator byte &&
    byte != ch ' ' && byte != ch '\t'

theorem read_inWord (plain : ∀ byte ∈ text, inWord byte = true) (word rest : Text) :
    read ⟨.word, word⟩ (text ++ rest) = read ⟨.word, word ++ text⟩ rest := by
  induction text generalizing word with
  | nil => rw [append_nil, nil_append]
  | cons byte text ih =>
    obtain ⟨head, tail⟩ := forall_mem_cons.mp plain
    have steps : step ⟨.word, word⟩ byte = some ([], ⟨.word, word ++ [byte]⟩) := by
      simp only [inWord, Bool.and_eq_true, Bool.not_eq_true', bne_iff_ne] at head
      obtain ⟨⟨⟨⟨⟨⟨double, single⟩, backslash⟩, expands⟩, operator⟩, blank⟩, tab⟩ := head
      rw [step]
      dsimp only
      rw [unquoted, if_neg double, if_neg single, if_neg backslash, expands, operator]
      simp [blank, tab]
    rw [cons_append, read_cons_of_quiet steps, ih tail, append_assoc]
    rfl

end ShellState

/-! ### Double quotes -/

def keptInDouble : Text → Bool
  | [] => true
  | byte :: text =>
    if byte = ch '"' ∨ expandsInDouble byte then false
    else if byte = ch '\\' then
      match text with
      | [] => false
      | next :: _ => next != ch '\n' && !isEscapedInDouble next && keptInDouble text
    else keptInDouble text

theorem keptInDouble_cons (plain : ¬ (byte = ch '"' ∨ expandsInDouble byte = true))
    (other : byte ≠ ch '\\') (text : Text) : keptInDouble (byte :: text) = keptInDouble text := by
  rw [keptInDouble.eq_def]
  dsimp only
  rw [if_neg plain, if_neg other]

namespace ShellState

theorem step_double (plain : ¬ (byte = ch '"' ∨ expandsInDouble byte = true))
    (other : byte ≠ ch '\\') (word : Text) :
    step ⟨.double, word⟩ byte = some ([], ⟨.double, word ++ [byte]⟩) := by
  rw [step]
  dsimp only
  rw [if_neg fun quote => plain (.inl quote), if_neg fun expands => plain (.inr expands), if_neg other]

theorem read_escaped (line : byte ≠ ch '\n') (ordinary : isEscapedInDouble byte = false)
    (word text : Text) :
    read ⟨.doubleEscaped, word⟩ (byte :: text) = read ⟨.double, word ++ [ch '\\']⟩ (byte :: text) := by
  have same : step ⟨.doubleEscaped, word⟩ byte = step ⟨.double, word ++ [ch '\\']⟩ byte := by
    obtain ⟨⟨expands, quote⟩, backslash⟩ : (expandsInDouble byte = false ∧ byte ≠ ch '"') ∧ byte ≠ ch '\\' := by
      simpa [isEscapedInDouble] using ordinary
    rw [step_double (by simp [expands, quote]) backslash, step]
    dsimp only
    rw [if_neg line, ordinary, append_assoc]
    rfl
  rw [read, read, same]

/-- **A text in double quotes that stays as it is.** -/
theorem read_keeps (kept : keptInDouble text = true) (word rest : Text) :
    read ⟨.double, word⟩ (text ++ ch '"' :: rest) = read ⟨.word, word ++ text⟩ rest := by
  fun_induction keptInDouble text generalizing word with
  | case1 =>
    rw [append_nil, nil_append]
    exact read_cons_of_quiet rfl rest
  | case2 => cases kept
  | case3 => cases kept
  | case4 next tail _ ih =>
    obtain ⟨⟨line, ordinary⟩, more⟩ : (next ≠ ch '\n' ∧ isEscapedInDouble next = false) ∧
        keptInDouble (next :: tail) = true := by
      simpa using kept
    have opens : step ⟨.double, word⟩ (ch '\\') = some ([], ⟨.doubleEscaped, word⟩) := rfl
    rw [cons_append, read_cons_of_quiet opens, cons_append, read_escaped line ordinary, ← cons_append,
      ih more, append_assoc]
    rfl
  | case5 byte tail plain other ih =>
    rw [cons_append, read_cons_of_quiet (step_double plain other word), ih kept, append_assoc]
    rfl

/-! ### What is removed -/

/-- How many bytes a token has kept. -/
def weight : List ShellToken → Nat
  | [] => 0
  | .word text :: tokens => text.length + weight tokens
  | .operator _ :: tokens => 1 + weight tokens

theorem weight_append (first second : List ShellToken) : weight (first ++ second) = weight first + weight second := by
  induction first with
  | nil => exact (Nat.zero_add _).symm
  | cons token first ih =>
    cases token with
    | word | operator => rw [cons_append, weight, weight, ih, Nat.add_assoc]

/-- The bytes that a state may still keep: those of the word, and a backslash. -/
def pending (state : ShellState) : Nat :=
  match state.mode with
  | .escaped _ | .doubleEscaped => state.word.length + 1
  | _ => state.word.length

theorem pending_double (word : Text) : pending ⟨.double, word⟩ = word.length := rfl

theorem weight_step (steps : state.step byte = some (tokens, next)) :
    weight tokens + next.pending ≤ state.pending + 1 := by
  obtain ⟨mode, word⟩ := state
  cases mode with
  | between | word =>
    simp only [step, unquoted] at steps
    split_ifs at steps <;> cases steps <;> simp [weight, pending, endWord]
  | escaped | single | double | doubleEscaped | comment =>
    simp only [step] at steps
    split_ifs at steps <;> cases steps <;> simp [weight, pending] <;> omega

theorem read_cons_some (reads : state.read (byte :: text) = some tokens) :
    ∃ ended next more, state.step byte = some (ended, next) ∧ next.read text = some more ∧ tokens = ended ++ more := by
  cases steps : state.step byte with
  | none =>
    rw [read, steps] at reads
    cases reads
  | some result =>
    rw [read_cons_of_step steps] at reads
    obtain ⟨more, found, rfl⟩ := Option.map_eq_some_iff.mp reads
    exact ⟨result.1, result.2, more, rfl, found, rfl⟩

/-- **A shell adds nothing.** Of a text that ends with a quote, a blank and a sign it removes two bytes at least. -/
theorem weight_read (reads : state.read (text ++ lit "\" &") = some tokens) :
    weight tokens ≤ state.pending + text.length + 1 := by
  induction text generalizing state tokens with
  | nil =>
    rw [nil_append] at reads
    obtain ⟨mode, word⟩ := state
    cases mode with
    | between | word | single | doubleEscaped => cases reads
    | escaped inWord =>
      have all : read ⟨.escaped inWord, word⟩ (lit "\" &") = some [.word (word ++ [ch '"']), .operator (ch '&')] := rfl
      rw [all] at reads
      cases reads
      simp [weight, pending]
    | double =>
      have all : read ⟨.double, word⟩ (lit "\" &") = some [.word word, .operator (ch '&')] := rfl
      rw [all] at reads
      cases reads
      simp [weight, pending]
    | comment =>
      cases reads
      exact Nat.zero_le _
  | cons byte text ih =>
    obtain ⟨ended, next, more, steps, found, rfl⟩ := read_cons_some reads
    have one := weight_step steps
    have rest := ih found
    rw [weight_append, length_cons]
    omega

theorem weight_read_of_not_kept (changed : keptInDouble text = false) {word : Text}
    (reads : read ⟨.double, word⟩ (text ++ lit "\" &") = some tokens) :
    weight tokens ≤ word.length + text.length := by
  fun_induction keptInDouble text generalizing word tokens with
  | case1 => cases changed
  | case2 byte tail special =>
    obtain ⟨ended, next, more, steps, found, rfl⟩ := read_cons_some reads
    have rest := weight_read found
    rw [step] at steps
    dsimp only at steps
    split at steps
    · cases steps
      rw [nil_append, length_cons]
      exact Nat.le_trans rest (Nat.le_of_eq (Nat.add_assoc _ _ _))
    · rename_i noQuote
      rw [if_pos (special.resolve_left noQuote)] at steps
      cases steps
  | case3 => cases reads
  | case4 next tail _ ih =>
    have opens : step ⟨.double, word⟩ (ch '\\') = some ([], ⟨.doubleEscaped, word⟩) := rfl
    rw [cons_append, read_cons_of_quiet opens, cons_append] at reads
    rw [length_cons, length_cons]
    by_cases line : next = ch '\n'
    · have removed : step ⟨.doubleEscaped, word⟩ next = some ([], ⟨.double, word⟩) := by rw [line]; rfl
      rw [read_cons_of_quiet removed] at reads
      have rest := weight_read reads
      rw [pending_double] at rest
      omega
    · cases escaped : isEscapedInDouble next with
      | true =>
        have removed : step ⟨.doubleEscaped, word⟩ next = some ([], ⟨.double, word ++ [next]⟩) := by
          rw [step]
          dsimp only
          rw [if_neg line, if_pos escaped]
        rw [read_cons_of_quiet removed] at reads
        have rest := weight_read reads
        rw [pending_double, length_append, length_singleton] at rest
        omega
      | false =>
        have later : keptInDouble (next :: tail) = false := by simpa [line, escaped] using changed
        rw [read_escaped line escaped, ← cons_append] at reads
        have rest := ih later reads
        rw [length_append, length_singleton, length_cons] at rest
        omega
  | case5 byte tail plain other ih =>
    rw [cons_append, read_cons_of_quiet (step_double plain other word)] at reads
    have rest := ih changed reads
    rw [length_append, length_singleton] at rest
    rw [length_cons]
    omega

/-- **Which texts in double quotes are read as themselves**: those that stay as they are. -/
theorem read_quoted_iff (word text : Text) :
    read ⟨.double, word⟩ (text ++ lit "\" &") = some [.word (word ++ text), .operator (ch '&')] ↔
      keptInDouble text = true := by
  constructor
  · intro reads
    by_contra changed
    have bound := weight_read_of_not_kept (Bool.eq_false_iff.mpr changed) reads
    simp only [weight, length_append] at bound
    omega
  · intro kept
    exact read_keeps kept word (lit " &")

end ShellState

end MaOdbc
