/-
**Escape sequences in a query** (`MADB_UnescapeQuery` of `ma_parse.c`).

The function copies the query, and replaces each group in curly brackets by what the parser of escape sequences
makes of it. It calls itself at an opening bracket, with the same iterator over the query.

* `braceTokens`: the brackets of a text, read with quotes in mind and nothing else.
* `unescapeLoop_row`: a row of brackets that are paired, in the loop.
* `unescapeQuery_eq`: the function is the structural translation of the brackets.
* `unescapeQuery_unchanged_iff`: which texts stay as they are.
-/

import MaOdbc.Library.Brackets
import MaOdbc.Library.Segments
import MaOdbc.Library.Tuples
import MaOdbc.Parse.DoubleDash
import MaOdbc.Parse.Scanner
import MaOdbc.Stmt.Error

namespace MaOdbc

open List QuoteMode

/-- A text without a zero byte, as a pointer stands for it. -/
structure CString where
  text : Text
  nulFree : 0 ∉ text

/-- `Failed to find a pair for a closing curly bracket`. -/
def strayBracket : Diag :=
  Diag.setError .err42000 (some (lit "Failed to find a pair for a closing curly bracket")) 0

/-- `Failed to find a pair for an opening curly bracket`. -/
def unclosedBracket : Diag :=
  Diag.setError .err42000 (some (lit "Failed to find a pair for an opening curly bracket")) 0

section Model

universe v

variable {m : Type → Type v} [Monad m] (yyparse : Text → ExceptT Diag m CString)

/-- The loop of `MADB_UnescapeQuery` with some rounds to go: what is left of the query, and the result so far. It
returns the result, and where the iterator stands. -/
def unescapeLoop : Nat → Nat → Text → Text → ExceptT Diag m (Text × Text)
  | 0, _, _, _ => throw Diag.clear
  | _ + 1, openCurlyBrackets, [], res =>
    if openCurlyBrackets ≠ 0 then throw unclosedBracket else pure (res, [])
  | rounds + 1, openCurlyBrackets, byte :: src, res =>
    if byte = ch '\x7b' then do
      let (subquery, src) ← unescapeLoop rounds (openCurlyBrackets + 1) src []
      unescapeLoop rounds openCurlyBrackets src (res ++ cstr subquery)
    else if byte = ch '\x7d' then
      if openCurlyBrackets = 0 then throw strayBracket
      else do
        let replacement ← yyparse (cstr res)
        pure (replacement.text, src)
    else if isQuote byte then
      let skipped := skipQuotedString (byte != ch '`') byte src
      let stringLength := if skipped = src.length then skipped else skipped + 1
      unescapeLoop rounds openCurlyBrackets (src.drop stringLength) (res ++ byte :: src.take stringLength)
    else unescapeLoop rounds openCurlyBrackets src (res ++ [byte])

/-- `MADB_UnescapeQuery` of a query. -/
def unescapeQuery (query : Text) : ExceptT Diag m Text := do
  let (res, _) ← unescapeLoop yyparse (query.length + 1) 0 query []
  pure res

end Model

/-! ### Brackets outside quotes -/

namespace QuoteMode

def token : QuoteMode → Byte → Bracket Byte
  | plain, byte => if byte = ch '\x7b' then .opening else if byte = ch '\x7d' then .closing else .copy byte
  | _, byte => .copy byte

def ahead : QuoteMode → Text → Nat
  | plain, _ => 0
  | quoted _, [] => 0
  | escaped _, [] => 0
  | quoted quote, byte :: text => ahead ((quoted quote).next byte) text + 1
  | escaped quote, _ :: text => ahead (quoted quote) text + 1

end QuoteMode

def braceTokens : QuoteMode → Text → List (Bracket Byte)
  | _, [] => []
  | mode, byte :: text => mode.token byte :: braceTokens (mode.next byte) text

/-! ### The loop -/

theorem QuoteMode.ahead_nil (mode : QuoteMode) : mode.ahead [] = 0 := by
  cases mode with
  | plain | quoted | escaped => rfl

variable {mode : QuoteMode} {text src query : Text} {after : List (Bracket Byte)} {byte item : Byte}
  {rounds : Nat} {row : BracketRow Byte} {α β : Type}

theorem QuoteMode.ahead_cons (quoting : mode ≠ .plain) (byte : Byte) (text : Text) :
    mode.ahead (byte :: text) = (mode.next byte).ahead text + 1 := by
  cases mode with
  | plain => exact absurd rfl quoting
  | quoted | escaped => rfl

theorem stringLength_eq (quote : Byte) (src : Text) :
    (if skipQuotedString (quote != ch '`') quote src = src.length
      then skipQuotedString (quote != ch '`') quote src
      else skipQuotedString (quote != ch '`') quote src + 1) = ahead (.quoted quote) src := by
  fun_induction skipQuotedString (quote != ch '`') quote src with
  | case1 => rfl
  | case2 =>
    rw [ahead, ahead_nil]
    rfl
  | case3 =>
    rw [ahead, ahead_nil]
    rfl
  | case4 next text =>
    rw [QuoteMode.ahead, QuoteMode.next, if_pos rfl]
    rfl
  | case5 byte next text other escaped ih =>
    have escaped' : quote ≠ ch '`' ∧ byte = ch '\\' := by simpa using escaped
    rw [QuoteMode.ahead, QuoteMode.next, if_neg other, if_pos escaped', QuoteMode.ahead, ← ih,
      length_cons, length_cons]
    split <;> split <;> omega
  | case6 byte next text other plain ih =>
    have plain' : ¬ (quote ≠ ch '`' ∧ byte = ch '\\') := by simpa using plain
    rw [QuoteMode.ahead, QuoteMode.next, if_neg other, if_neg plain', ← ih, length_cons,
      length_cons]
    split <;> split <;> omega

theorem length_braceTokens (mode : QuoteMode) (text : Text) : (braceTokens mode text).length = text.length := by
  induction text generalizing mode with
  | nil => rfl
  | cons byte text ih => rw [braceTokens, length_cons, length_cons, ih]

theorem eq_nil_of_braceTokens (ends : braceTokens mode text = []) : text = [] := by
  rw [← length_eq_zero_iff, ← length_braceTokens mode, ends, length_nil]

def QuoteMode.Stands (mode : QuoteMode) (byte : Byte) : Bracket Byte → Prop
  | .opening => mode = .plain ∧ byte = ch '\x7b'
  | .closing => mode = .plain ∧ byte = ch '\x7d'
  | .copy item => byte = item ∧ (mode = .plain → item ≠ ch '\x7b' ∧ item ≠ ch '\x7d')

theorem QuoteMode.stands_token (mode : QuoteMode) (byte : Byte) : mode.Stands byte (mode.token byte) := by
  cases mode with
  | quoted | escaped => exact ⟨rfl, fun plain => by cases plain⟩
  | plain =>
    rw [token]
    split
    · exact ⟨rfl, ‹_›⟩
    · split
      · exact ⟨rfl, ‹_›⟩
      · exact ⟨rfl, fun _ => ⟨‹_›, ‹_›⟩⟩

theorem QuoteMode.token_eq_copy (token : mode.token byte = .copy item) : byte = item := by
  have stands := mode.stands_token byte
  rw [token] at stands
  exact stands.1

theorem braceTokens_cons {token : Bracket Byte} (tokens : braceTokens mode text = token :: after) :
    ∃ byte rest, text = byte :: rest ∧ braceTokens (mode.next byte) rest = after ∧ mode.Stands byte token := by
  cases text with
  | nil => cases tokens
  | cons byte rest =>
    rw [braceTokens, List.cons.injEq] at tokens
    exact ⟨byte, rest, rfl, tokens.2, tokens.1 ▸ mode.stands_token byte⟩

section Loop

universe v

variable {m : Type → Type v} [Monad m] (yyparse : Text → ExceptT Diag m CString)

def replaceGroup (body : Text) : ExceptT Diag m Text := do
  let replacement ← yyparse (cstr body)
  pure replacement.text

theorem unescapeLoop_copy (other : byte ≠ ch '\x7b' ∧ byte ≠ ch '\x7d') (rounds count : Nat)
    (src res : Text) :
    unescapeLoop yyparse (rounds + 1) count (byte :: src) res =
      unescapeLoop yyparse rounds count (src.drop ((plain.next byte).ahead src))
        (res ++ byte :: src.take ((plain.next byte).ahead src)) := by
  rw [unescapeLoop, if_neg other.1, if_neg other.2, QuoteMode.next]
  split
  · dsimp only
    rw [stringLength_eq]
  · rw [ahead, drop_zero, take_zero]

variable [LawfulMonad m]

/-- **A row of brackets in the loop**: its translation is appended, and the loop goes on behind it. -/
theorem unescapeLoop_row (row : BracketRow Byte)
    (tokens : braceTokens mode src = row.tokens ++ after)
    (enough : (src.drop (mode.ahead src)).length < rounds) (count : Nat) :
    ∃ mode' rest rounds', braceTokens mode' rest = after ∧
      (rest.drop (mode'.ahead rest)).length < rounds' ∧
      ∀ res, unescapeLoop yyparse rounds count (src.drop (mode.ahead src)) (res ++ src.take (mode.ahead src)) =
        row.translate (replaceGroup yyparse) >>= fun text =>
          unescapeLoop yyparse rounds' count (rest.drop (mode'.ahead rest))
            (res ++ text ++ rest.take (mode'.ahead rest)) := by
  induction row generalizing mode src after rounds count with
  | nil =>
    refine ⟨mode, src, rounds, tokens, enough, fun res => ?_⟩
    rw [BracketRow.translate, pure_bind, append_nil]
  | copy item row ih =>
    obtain ⟨item, tail, rfl, tokens', rfl, plain⟩ := braceTokens_cons tokens
    -- either way the loop stands behind the string that the byte is part of
    have step : ∃ rounds', (tail.drop ((mode.next item).ahead tail)).length < rounds' ∧
        ∀ res, unescapeLoop yyparse rounds count ((item :: tail).drop (mode.ahead (item :: tail)))
            (res ++ (item :: tail).take (mode.ahead (item :: tail))) =
          unescapeLoop yyparse rounds' count (tail.drop ((mode.next item).ahead tail))
            (res ++ [item] ++ tail.take ((mode.next item).ahead tail)) := by
      by_cases outside : mode = .plain
      · subst outside
        rw [ahead, drop_zero] at enough
        obtain ⟨rounds, rfl⟩ : ∃ less, rounds = less + 1 := ⟨rounds - 1, by omega⟩
        refine ⟨rounds, ?_, fun res => ?_⟩
        · rw [length_cons] at enough
          rw [length_drop]
          omega
        · rw [ahead, drop_zero, take_zero, append_nil,
            unescapeLoop_copy yyparse (plain rfl), append_assoc, singleton_append]
      · rw [ahead_cons outside, drop_succ_cons] at enough
        refine ⟨rounds, enough, fun res => ?_⟩
        rw [ahead_cons outside, drop_succ_cons, take_succ_cons, append_assoc,
          singleton_append]
    obtain ⟨rounds₁, enough₁, same⟩ := step
    obtain ⟨mode', rest, rounds', ends, enough', goes⟩ := ih tokens' enough₁ count
    refine ⟨mode', rest, rounds', ends, enough', fun res => ?_⟩
    rw [same, goes, BracketRow.translate, bind_assoc]
    refine bind_congr fun text => ?_
    rw [pure_bind, append_assoc res, singleton_append]
  | group body row ihBody ihRow =>
    have tokens' : braceTokens mode src =
        .opening :: (body.tokens ++ .closing :: (row.tokens ++ after)) := by
      simp only [tokens, BracketRow.tokens, cons_append, append_assoc]
    obtain ⟨_, tail, rfl, tokensBody, rfl, rfl⟩ := braceTokens_cons tokens'
    change braceTokens .plain tail = _ at tokensBody
    rw [ahead, drop_zero, length_cons] at enough
    obtain ⟨rounds, rfl⟩ : ∃ less, rounds = less + 1 := ⟨rounds - 1, by omega⟩
    have enoughBody : (tail.drop (plain.ahead tail)).length < rounds := by
      rw [ahead, drop_zero]
      omega
    obtain ⟨mode₁, rest₁, rounds₁, ends₁, enough₁, goes₁⟩ := ihBody tokensBody enoughBody (count + 1)
    obtain ⟨_, behind, rfl, tokensRow, rfl, rfl⟩ := braceTokens_cons ends₁
    change braceTokens .plain behind = _ at tokensRow
    obtain ⟨rounds₂, rfl⟩ : ∃ less, rounds₁ = less + 1 := ⟨rounds₁ - 1, by omega⟩
    have shorter : behind.length < tail.length := by
      have length := congrArg length tokensBody
      rw [length_braceTokens, length_append, length_cons, ← tokensRow, length_braceTokens] at length
      omega
    have enoughRow : (behind.drop (plain.ahead behind)).length < rounds := by
      rw [ahead, drop_zero]
      omega
    obtain ⟨mode', rest, rounds', ends, enough', goes⟩ := ihRow tokensRow enoughRow count
    refine ⟨mode', rest, rounds', ends, enough', fun res => ?_⟩
    have inner := goes₁ []
    simp only [ahead, drop_zero, take_zero, append_nil, nil_append] at inner
    simp only [ahead, drop_zero, take_zero, append_nil] at goes
    rw [ahead, drop_zero, take_zero, append_nil, unescapeLoop, if_pos rfl, inner,
      BracketRow.translate, bind_assoc, bind_assoc]
    refine bind_congr fun text => ?_
    rw [unescapeLoop, if_neg (by decide), if_pos rfl, if_neg (Nat.succ_ne_zero _), bind_assoc, replaceGroup, bind_assoc,
      bind_assoc]
    refine bind_congr fun replacement => ?_
    rw [pure_bind, pure_bind, bind_assoc]
    dsimp only
    rw [cstr_of_nulFree replacement.nulFree, goes]
    refine bind_congr fun text => ?_
    rw [pure_bind, append_assoc res]

theorem unescapeLoop_plain {row : BracketRow Byte} {src : Text} {after : List (Bracket Byte)}
    (tokens : braceTokens .plain src = row.tokens ++ after) (bracket : ∀ item rest, after ≠ .copy item :: rest)
    {rounds : Nat} (enough : src.length < rounds) (count : Nat) :
    ∃ rest rounds', braceTokens .plain rest = after ∧ rest.length < rounds' + 1 ∧
      ∀ res, unescapeLoop yyparse rounds count src res =
        row.translate (replaceGroup yyparse) >>= fun text =>
          unescapeLoop yyparse (rounds' + 1) count rest (res ++ text) := by
  have enough' : (src.drop (plain.ahead src)).length < rounds := by
    rw [ahead, drop_zero]
    exact enough
  obtain ⟨mode, rest, rounds', ends, more, goes⟩ := unescapeLoop_row yyparse row tokens enough' count
  have outside : mode.ahead rest = 0 ∧ braceTokens .plain rest = after := by
    cases after with
    | nil =>
      rw [eq_nil_of_braceTokens ends]
      exact ⟨mode.ahead_nil, rfl⟩
    | cons token after =>
      cases token with
      | copy item => exact absurd rfl (bracket item after)
      | opening | closing =>
        obtain ⟨_, _, _, -, rfl, -⟩ := braceTokens_cons ends
        exact ⟨by rw [ahead], ends⟩
  simp only [outside.1, ahead, drop_zero, take_zero, append_nil] at goes more
  obtain ⟨less, rfl⟩ : ∃ less, rounds' = less + 1 := ⟨rounds' - 1, by omega⟩
  exact ⟨rest, less, outside.2, more, goes⟩

theorem throw_bind (error : Diag) (next : α → ExceptT Diag m β) :
    (throw error : ExceptT Diag m α) >>= next = throw error :=
  ExceptT.ext (by simp)

theorem unescapeLoop_unclosed (rows : List (BracketRow Byte))
    (tokens : braceTokens .plain src = row.tokens ++ openTokens rows) (enough : src.length < rounds)
    {count : Nat} (nested : rows ≠ [] ∨ count ≠ 0) (res : Text) :
    unescapeLoop yyparse rounds count src res =
      translateRows (replaceGroup yyparse) (row :: rows) >>= fun _ => throw unclosedBracket := by
  induction rows generalizing row src rounds count res with
  | nil =>
    obtain ⟨rest, rounds', ends, -, goes⟩ :=
      unescapeLoop_plain yyparse tokens (fun item rest same => by cases same) enough count
    rw [goes, eq_nil_of_braceTokens ends, translateRows, translateRows, bind_assoc]
    refine bind_congr fun text => ?_
    rw [pure_bind, pure_bind, unescapeLoop, if_pos (nested.resolve_left (fun none => none rfl))]
  | cons inner rows ih =>
    have bracket : ∀ item rest, openTokens (inner :: rows) ≠ .copy item :: rest :=
      fun item rest same => by cases same
    obtain ⟨rest, rounds', ends, more, goes⟩ := unescapeLoop_plain yyparse tokens bracket enough count
    have ends' : braceTokens .plain rest = .opening :: (inner.tokens ++ openTokens rows) := ends
    obtain ⟨_, tail, rfl, tokens', -, rfl⟩ := braceTokens_cons ends'
    rw [length_cons] at more
    rw [goes, translateRows, bind_assoc]
    refine bind_congr fun text => ?_
    rw [unescapeLoop, if_pos rfl, ih tokens' (by omega) (Or.inr (Nat.succ_ne_zero count)), bind_assoc,
      bind_assoc]
    refine bind_congr fun more => ?_
    rw [throw_bind, pure_bind]

/-- **The function by the form of a query.** The parser gets pointers to the bodies. -/
theorem unescapeQuery_form {query : Text} {form : Bracketed Byte} (tokens : form.tokens = braceTokens .plain query) :
    unescapeQuery yyparse query =
      form.translate (replaceGroup yyparse) (throw strayBracket) (throw unclosedBracket) := by
  have enough : query.length < query.length + 1 := Nat.lt_succ_self _
  rw [unescapeQuery]
  cases form with
  | balanced row =>
    have tokens' : braceTokens .plain query = row.tokens ++ [] := by
      rw [← tokens, append_nil]
      rfl
    obtain ⟨rest, rounds', ends, -, goes⟩ :=
      unescapeLoop_plain yyparse tokens' (fun item rest same => by cases same) enough 0
    rw [goes, eq_nil_of_braceTokens ends, bind_assoc, Bracketed.translate]
    conv_rhs => rw [← bind_pure (row.translate _)]
    refine bind_congr fun text => ?_
    rw [unescapeLoop, if_neg (fun zero => zero rfl), pure_bind]
    rfl
  | stray row after =>
    have bracket : ∀ item rest, Bracket.closing :: after ≠ .copy item :: rest :=
      fun item rest same => by cases same
    obtain ⟨rest, rounds', ends, -, goes⟩ := unescapeLoop_plain yyparse tokens.symm bracket enough 0
    obtain ⟨_, tail, rfl, -, -, rfl⟩ := braceTokens_cons ends
    rw [goes, bind_assoc, Bracketed.translate]
    refine bind_congr fun text => ?_
    rw [unescapeLoop, if_neg (by decide), if_pos rfl, if_pos rfl, throw_bind]
  | unclosed row inner more =>
    rw [unescapeLoop_unclosed yyparse (inner :: more) tokens.symm enough (Or.inl (cons_ne_nil _ _)),
      bind_assoc, Bracketed.translate]
    refine bind_congr fun text => ?_
    rw [throw_bind]

/-! ### Queries without a zero byte -/

/-- What a group stands for: what the parser makes of its body. -/
def escapeGroup (body : Text) : ExceptT Diag m Text := do
  let replacement ← yyparse body
  pure replacement.text

def CopiesNonzero (tokens : List (Bracket Byte)) : Prop := ∀ item, .copy item ∈ tokens → item ≠ 0

theorem copiesNonzero_braceTokens (nulFree : 0 ∉ query) (mode : QuoteMode) :
    CopiesNonzero (braceTokens mode query) := by
  induction query generalizing mode with
  | nil => exact fun item member => absurd member not_mem_nil
  | cons byte query ih =>
    obtain ⟨nonzero, nulFree'⟩ := ne_and_not_mem_of_not_mem_cons nulFree
    intro item member
    rw [braceTokens, mem_cons] at member
    rcases member with head | tail
    · rw [← token_eq_copy head.symm]
      exact Ne.symm nonzero
    · exact ih nulFree' _ item tail

theorem translate_strings (nonzero : CopiesNonzero row.tokens) :
    ∃ strings : ExceptT Diag m CString,
      row.translate (replaceGroup yyparse) = (strings >>= fun string => pure string.text) ∧
        row.translate (escapeGroup yyparse) = (strings >>= fun string => pure string.text) := by
  induction row with
  | nil => exact ⟨pure ⟨[], not_mem_nil⟩, by rw [pure_bind]; rfl, by rw [pure_bind]; rfl⟩
  | copy item row ih =>
    obtain ⟨strings, first, second⟩ := ih fun other member => nonzero other (mem_cons_of_mem _ member)
    have head : (0 : Byte) ≠ item := Ne.symm (nonzero item mem_cons_self)
    refine ⟨strings >>= fun string =>
      pure ⟨item :: string.text, not_mem_cons_of_ne_of_not_mem head string.nulFree⟩, ?_, ?_⟩
    · rw [BracketRow.translate, first, bind_assoc, bind_assoc]
      refine bind_congr fun string => ?_
      rw [pure_bind, pure_bind]
    · rw [BracketRow.translate, second, bind_assoc, bind_assoc]
      refine bind_congr fun string => ?_
      rw [pure_bind, pure_bind]
  | group body row ihBody ihRow =>
    have tokens : (BracketRow.group body row).tokens = .opening :: body.tokens ++ .closing :: row.tokens := rfl
    obtain ⟨bodies, firstBody, secondBody⟩ := ihBody fun item member => nonzero item (by
      rw [tokens]
      exact mem_append_left _ (mem_cons_of_mem _ member))
    obtain ⟨strings, firstRow, secondRow⟩ := ihRow fun item member => nonzero item (by
      rw [tokens]
      exact mem_append_right _ (mem_cons_of_mem _ member))
    refine ⟨bodies >>= fun body => yyparse body.text >>= fun replacement => strings >>= fun string =>
      pure ⟨replacement.text ++ string.text, fun member => (mem_append.mp member).elim
        replacement.nulFree string.nulFree⟩, ?_, ?_⟩
    · rw [BracketRow.translate, firstBody, firstRow, bind_assoc, bind_assoc]
      refine bind_congr fun body => ?_
      rw [pure_bind, replaceGroup, cstr_of_nulFree body.nulFree, bind_assoc, bind_assoc]
      refine bind_congr fun replacement => ?_
      rw [pure_bind, bind_assoc, bind_assoc]
      refine bind_congr fun string => ?_
      rw [pure_bind, pure_bind]
    · rw [BracketRow.translate, secondBody, secondRow, bind_assoc, bind_assoc]
      refine bind_congr fun body => ?_
      rw [pure_bind, escapeGroup, bind_assoc, bind_assoc]
      refine bind_congr fun replacement => ?_
      rw [pure_bind, bind_assoc, bind_assoc]
      refine bind_congr fun string => ?_
      rw [pure_bind, pure_bind]

theorem translate_eq_of_nonzero (nonzero : CopiesNonzero row.tokens) :
    row.translate (replaceGroup yyparse) = row.translate (escapeGroup yyparse) := by
  obtain ⟨strings, first, second⟩ := translate_strings yyparse nonzero
  rw [first, second]

theorem translateRows_eq_of_nonzero {rows : List (BracketRow Byte)} (nonzero : CopiesNonzero (openTokens rows)) :
    translateRows (replaceGroup yyparse) rows = translateRows (escapeGroup yyparse) rows := by
  induction rows with
  | nil => rfl
  | cons row rows ih =>
    have tokens : openTokens (row :: rows) = .opening :: row.tokens ++ openTokens rows := rfl
    have head : CopiesNonzero row.tokens := fun item member => nonzero item (by
      rw [tokens]
      exact mem_append_left _ (mem_cons_of_mem _ member))
    have tail : CopiesNonzero (openTokens rows) := fun item member => nonzero item (by
      rw [tokens]
      exact mem_append_right _ member)
    rw [translateRows, translateRows, translate_eq_of_nonzero yyparse head, ih tail]

/-- **The function is the structural translation of the brackets.** Every query without a zero byte has a form, and
the form tells the result and in which order the parser is called: innermost first, once for each group, from left to
right, up to a translation that fails or a bracket without its pair. -/
theorem unescapeQuery_eq {query : Text} (nulFree : 0 ∉ query) :
    (∃ form : Bracketed Byte, form.tokens = braceTokens .plain query) ∧
      ∀ form : Bracketed Byte, form.tokens = braceTokens .plain query →
        unescapeQuery yyparse query =
          form.translate (escapeGroup yyparse) (throw strayBracket) (throw unclosedBracket) := by
  refine ⟨exists_bracketed _, fun form tokens => ?_⟩
  have nonzero : CopiesNonzero form.tokens := by
    rw [tokens]
    exact copiesNonzero_braceTokens nulFree .plain
  rw [unescapeQuery_form yyparse tokens]
  cases form with
  | balanced row => exact translate_eq_of_nonzero yyparse nonzero
  | stray row rest =>
    have row' : CopiesNonzero row.tokens := fun item member => nonzero item (mem_append_left _ member)
    rw [Bracketed.translate, Bracketed.translate, translate_eq_of_nonzero yyparse row']
  | unclosed row inner more =>
    have rows : CopiesNonzero (openTokens (row :: inner :: more)) := by
      intro item member
      refine nonzero item ?_
      rcases mem_append.mp member with head | tail
      · exact mem_append_left _ ((mem_cons.mp head).resolve_left (fun same => by cases same))
      · exact mem_append_right _ tail
    rw [Bracketed.translate, Bracketed.translate, translateRows_eq_of_nonzero yyparse rows]

end Loop

/-- A query of an application, with a parser that knows one escape sequence. -/
theorem unescapeQuery_eq_now :
    let yyparse : Text → ExceptT Diag Id CString := fun body =>
      if body = lit "fn NOW()" then pure ⟨lit "NOW()", by decide⟩ else throw strayBracket
    (∃ form : Bracketed Byte, form.tokens = braceTokens .plain (lit "SELECT \x7bfn NOW()\x7d")) ∧
      ∀ form : Bracketed Byte, form.tokens = braceTokens .plain (lit "SELECT \x7bfn NOW()\x7d") →
        unescapeQuery yyparse (lit "SELECT \x7bfn NOW()\x7d") =
          form.translate (escapeGroup yyparse) (throw strayBracket) (throw unclosedBracket) :=
  unescapeQuery_eq _ (by decide)

/-! ### Queries that stay as they are -/

/-- The query is returned unchanged, whatever the parser does. -/
def Unchanged (query : Text) : Prop :=
  ∀ (m : Type → Type) [Monad m] [LawfulMonad m] (yyparse : Text → ExceptT Diag m CString),
    unescapeQuery yyparse query = pure query

def copyRow (text : Text) : BracketRow Byte := text.foldr .copy .nil

theorem tokens_copyRow (text : Text) : (copyRow text).tokens = text.map .copy := by
  induction text with
  | nil => rfl
  | cons byte text ih => exact congrArg (Bracket.copy byte :: ·) ih

theorem translate_copyRow {m : Type → Type} [Monad m] [LawfulMonad m] (rule : Text → m Text) (text : Text) :
    (copyRow text).translate rule = pure text := by
  induction text with
  | nil => rfl
  | cons byte text ih =>
    show ((copyRow text).translate rule >>= fun text => pure (byte :: text)) = _
    rw [ih, pure_bind]

theorem braceTokens_of_copies
    (copies : ∀ token ∈ braceTokens mode text, token ≠ .opening ∧ token ≠ .closing) :
    braceTokens mode text = text.map .copy := by
  induction text generalizing mode with
  | nil => rfl
  | cons byte text ih =>
    rw [braceTokens] at copies ⊢
    obtain ⟨head, tail⟩ := forall_mem_cons.mp copies
    rw [map_cons, ih tail]
    cases token : mode.token byte with
    | opening => exact absurd token head.1
    | closing => exact absurd token head.2
    | copy item => rw [token_eq_copy token]

def refuseAll (_ : Text) : ExceptT Diag Id CString := throw Diag.clear

theorem run_cases (first : ExceptT Diag Id α) :
    (∃ value, first = pure value) ∨ ∃ error, first = throw error := by
  cases outcome : (first.run : Except Diag α) with
  | ok value => exact Or.inl ⟨value, ExceptT.ext outcome⟩
  | error error => exact Or.inr ⟨error, ExceptT.ext outcome⟩

theorem bind_throw_ne_pure (first : ExceptT Diag Id α) (error : Diag) (value : β) :
    (first >>= fun _ => (throw error : ExceptT Diag Id β)) ≠ pure value := by
  intro same
  rcases run_cases first with ⟨a, rfl⟩ | ⟨e, rfl⟩
  · rw [pure_bind] at same
    cases same
  · rw [throw_bind] at same
    cases same

theorem copies_of_refuseAll (translated : row.translate (replaceGroup refuseAll) = pure text) :
    ∀ token ∈ row.tokens, token ≠ .opening ∧ token ≠ .closing := by
  induction row generalizing text with
  | nil => exact fun token member => absurd member not_mem_nil
  | copy item row ih =>
    rw [BracketRow.translate] at translated
    rcases run_cases (row.translate (replaceGroup refuseAll)) with ⟨rest, succeeded⟩ | ⟨error, failed⟩
    · have copied : Bracket.copy item ≠ .opening ∧ Bracket.copy item ≠ .closing := by
        constructor
        · intro same
          cases same
        · intro same
          cases same
      exact forall_mem_cons.mpr ⟨copied, ih succeeded⟩
    · rw [failed, throw_bind] at translated
      cases translated
  | group body row _ _ =>
    rw [BracketRow.translate] at translated
    rcases run_cases (body.translate (replaceGroup refuseAll)) with ⟨inner, succeeded⟩ | ⟨error, failed⟩
    · rw [succeeded, pure_bind, replaceGroup, refuseAll, throw_bind, throw_bind] at translated
      cases translated
    · rw [failed, throw_bind] at translated
      cases translated

/-- **Which queries stay as they are**: those whose curly brackets all stand in quotes, where a quote in a comment
counts like any other. -/
theorem unescapeQuery_unchanged_iff (query : Text) :
    Unchanged query ↔ ∀ token ∈ braceTokens .plain query, token ≠ .opening ∧ token ≠ .closing := by
  constructor
  · intro unchanged
    obtain ⟨form, tokens⟩ := exists_bracketed (braceTokens .plain query)
    have result := unchanged Id refuseAll
    rw [unescapeQuery_form refuseAll tokens] at result
    rw [← tokens]
    cases form with
    | balanced row => exact copies_of_refuseAll result
    | stray | unclosed => exact absurd result (bind_throw_ne_pure _ _ _)
  · intro copies m _ _ yyparse
    have tokens : (Bracketed.balanced (copyRow query)).tokens = braceTokens .plain query := by
      rw [braceTokens_of_copies copies]
      exact tokens_copyRow query
    rw [unescapeQuery_form yyparse tokens]
    exact translate_copyRow _ query

/-- In the lexemes of the server, no curly bracket stands outside strings, identifiers and comments. -/
def BracesHidden (query : Text) : Prop :=
  ∀ lexeme ∈ lexemes serverDash query, lexeme ≠ .other (ch '\x7b') ∧ lexeme ≠ .other (ch '\x7d')

/-- A curly bracket in a comment: the query is refused. -/
theorem unchanged_comment :
    BracesHidden (lit "SELECT 1 -- \x7b") ∧ ¬ Unchanged (lit "SELECT 1 -- \x7b") := by
  refine ⟨by unfold BracesHidden; decide +kernel, fun unchanged => ?_⟩
  have result := unchanged Id refuseAll
  have refused : unescapeQuery refuseAll (lit "SELECT 1 -- \x7b") = throw unclosedBracket := by
    rfl
  rw [refused] at result
  cases result

end MaOdbc
