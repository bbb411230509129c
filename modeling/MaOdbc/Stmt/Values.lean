/-
**Values stay in their literals.**

A value that the client side writes into a query is escaped and put in quotes. `stmtExecute_values`: whatever bytes
the values have, the server reads each of them as one string where its mark was, and the quotes of the statement
around them stay what they are.
-/

import MaOdbc.Param.Literal
import MaOdbc.Stmt.CombinedInsert
import MaOdbc.Stmt.Texts

namespace MaOdbc

open List

/-- A value as `MADB_InsertParam` writes it into a query. -/
def quotedLiteral (value : Text) : Text := ch '\'' :: (backslashEscaping.escape value ++ [ch '\''])

/-- The server reads a value in a text: what stands before it leaves no quote open, and the string that starts there
ends where its literal ends. -/
def ReadsValue (before text value : Text) : Prop :=
  ∃ body after, text = before ++ ch '\'' :: (body ++ ch '\'' :: after) ∧
    before.foldl QuoteMode.next .plain = .plain ∧
    splitQuoted true (ch '\'') (body ++ ch '\'' :: after) = some (body, after) ∧
    backslashEscaping.decode body = some value

theorem splitQuoted_escape (value rest : Text) :
    splitQuoted true (ch '\'') (value.flatMap escapeByte ++ ch '\'' :: rest) =
      some (value.flatMap escapeByte, rest) := by
  induction value with
  | nil => cases rest <;> rfl
  | cons byte value ih =>
    rw [flatMap_cons, append_assoc]
    cases letter : escapeLetter byte with
    | some letter' =>
      rw [escapeByte, letter]
      show (splitQuoted true (ch '\'') (value.flatMap escapeByte ++ ch '\'' :: rest)).map _ = _
      rw [ih]
      rfl
    | none =>
      have plain : byte ≠ ch '\'' ∧ ¬ (true = true ∧ byte = ch '\\') := by
        constructor
        · rintro rfl
          cases letter
        · rintro ⟨-, rfl⟩
          cases letter
      rw [escapeByte, letter]
      obtain ⟨next, more, shape⟩ := exists_cons_of_ne_nil
        (append_ne_nil_of_right_ne_nil (value.flatMap escapeByte) (cons_ne_nil (ch '\'') rest))
      rw [shape] at ih ⊢
      show splitQuoted true (ch '\'') (byte :: next :: more) = _
      rw [splitQuoted, if_neg plain.1, if_neg plain.2, ih]
      rfl

theorem isLiteral_quoted (value : Text) : IsLiteral (quotedLiteral value) :=
  .string (backslashEscaping.nulFree value) (splitQuoted_escape value [])

/-- The quotes of a statement are the same before and behind each mark, whatever is written there. -/
theorem foldl_mode_fill {positions : List Nat} {literal : Nat → Text} {first rest : Text}
    (literals : ∀ i < positions.length, IsLiteral (literal i))
    (marks : ∀ position ∈ positions, (first ++ rest)[position]? = some (ch '?'))
    (unquoted : ∀ position ∈ positions, ((first ++ rest).take position).foldl QuoteMode.next .plain = .plain) :
    (fill positions literal 0 first).foldl QuoteMode.next .plain = first.foldl QuoteMode.next .plain := by
  have same : (fill positions literal 0 first).foldl Standing.next {} = first.foldl Standing.next {} := by
    refine standing_fill literals fun i inside mark => ?_
    rw [Nat.zero_add] at mark
    have here := marks i mark
    have plain := unquoted i mark
    rw [getElem?_append_left inside] at here
    rw [take_append_of_le_length inside.le] at plain
    exact ⟨here, plain⟩
  have modes := congrArg Standing.mode same
  rwa [mode_foldl, mode_foldl] at modes

namespace Stmt

variable {env : Env} {s : Stmt}

/-- **Values stay in their literals.** In every text that an execution builds for a statement whose own quotes close,
the server reads the value of each parameter where its mark was, whatever bytes it has, and the quotes around it
are those of the statement. -/
theorem stmtExecute_values (text : QueryText) (replace batchAllowed : Bool) (closed : QuotesClosed text.handed)
    (parsed : s.query = { text.parse replace batchAllowed with returnsResult := s.query.returnsResult })
    (corresponds : Corresponds s.query.refinedText (s.query.subQuery.map (·.queryText)))
    (few : s.query.paramPositions.length < 2 ^ 15) (counted : s.paramCount = s.query.paramPositions.length)
    (single : s.query.isMultiStmt = false) (client : s.sspsDisabled env = true) {nr row offset count : Nat}
    {values : Nat → Text} (inserts : ∀ i < s.query.paramPositions.length, env.Inserts row (quotedLiteral ∘ values) i)
    {sent : Text} (built : .built nr row offset count sent ∈ s.executeEvents env) :
    sent.foldl QuoteMode.next .plain = s.query.refinedText.foldl QuoteMode.next .plain ∧
      ∀ i < s.query.paramPositions.length, ReadsValue
        (fill s.query.paramPositions (quotedLiteral ∘ values) 0
          (s.query.refinedText.take (s.query.paramPositions.getD i 0))) sent (values i) := by
  have laid : s.query.Laid := .of_parsed text replace batchAllowed parsed corresponds few
  have ready : s.Laid := ⟨laid, fun _ => counted⟩
  obtain ⟨-, marks, starts, -⟩ := text.parse_tokens replace batchAllowed closed
  have unquoted : ∀ position ∈ s.query.paramPositions,
      (s.query.refinedText.take position).foldl QuoteMode.next .plain = .plain := by
    rw [parsed]
    exact fun position mark => (starts position (marks position mark)).2
  -- a text that is built for the only statement is the statement with the literals in it
  obtain ⟨events, trace, builds⟩ := (stmtExecute_reaches env ready client).adds
  rw [executeEvents, trace, drop_left] at built
  obtain ⟨inside, -, -, build⟩ := builds _ built ⟨nr, row, offset, count, sent⟩ rfl
  obtain rfl : nr = 0 := by
    have inside : nr < s.query.stmtCount := inside
    rw [Query.isMultiStmt, decide_eq_false_iff_not] at single
    omega
  have within : 0 < s.query.texts.length := laid.length_texts ▸ inside
  have filled := insertParams_eq_fill laid.marked within fun i lower upper =>
    inserts i (laid.marked.getD_bounds within lower upper).2.2
  obtain rfl := Except.ok.inj (build.symm.trans filled)
  rw [Query.start_zero, (laid.text_zero single).1]
  have modes {first rest : Text} (split : s.query.refinedText = first ++ rest) :
      (fill s.query.paramPositions (quotedLiteral ∘ values) 0 first).foldl QuoteMode.next .plain =
        first.foldl QuoteMode.next .plain :=
    foldl_mode_fill (fun i _ => isLiteral_quoted (values i)) (split ▸ laid.marked.marks) (split ▸ unquoted)
  refine ⟨modes (append_nil _).symm, fun i known => ?_⟩
  generalize at_i : s.query.paramPositions.getD i 0 = position
  have member : position ∈ s.query.paramPositions := by
    rw [← at_i, getD_eq_getElem _ _ known]
    exact getElem_mem known
  obtain ⟨inside, -⟩ := List.getElem?_eq_some_iff.mp (laid.marked.marks position member)
  have split := (take_append_drop position s.query.refinedText).symm
  have length : (s.query.refinedText.take position).length = position := length_take_of_le inside.le
  refine ⟨backslashEscaping.escape (values i), fill s.query.paramPositions (quotedLiteral ∘ values)
    (position + 1) (s.query.refinedText.drop (position + 1)), ?_, (modes split).trans (unquoted position member),
    splitQuoted_escape _ _, backslashEscaping.decodes (values i)⟩
  conv_lhs => rw [split, drop_eq_getElem_cons inside]
  rw [fill_append, length, Nat.zero_add]
  generalize s.query.refinedText[position] = mark
  rw [← at_i, fill_at laid.marked.rising known]
  simp [quotedLiteral]

/-- A connection on which the value of every parameter is a statement of its own. -/
def hostileEnv : Env where
  server := fun _ _ => .ok {}
  noSsps := true
  literal := fun _ _ => .ok (quotedLiteral (lit "'); DROP TABLE t; --"))

theorem stmtExecute_values_hostile :
    ReadsValue (lit "INSERT INTO t VALUES (") (lit "INSERT INTO t VALUES ('\\'); DROP TABLE t; --')")
      (lit "'); DROP TABLE t; --") := by
  have built : .built 0 0 0 1 (lit "INSERT INTO t VALUES ('\\'); DROP TABLE t; --')") ∈
      preparedInsert.executeEvents hostileEnv := by
    decide +kernel
  exact (stmtExecute_values insertText false false insertText_closed preparedInsert_parsed
    preparedInsert_corresponds (by decide +kernel) (by decide +kernel) (by decide +kernel) (by decide +kernel)
    (fun _ _ => ⟨rfl, rfl⟩) built).2 0 (by decide +kernel)

end Stmt

end MaOdbc
