/-
**Rows combined into one `INSERT`.**

An `INSERT ... VALUES` with several parameter rows is sent in batches: the text up to `VALUES`, and then
what each row of the batch has behind it. The comma in front of a row is left out for the first row of a
batch, whether that row is ignored or not, and a batch is sent even if all its rows are ignored.
`stmtExecute_tuples_iff` says when the batches hold the tuples of the rows: the text behind the first
word that starts with `VALUES` must be a list of tuples, and no batch may start with an ignored row.
-/

import MaOdbc.Library.Tuples
import MaOdbc.Parse.Tokens
import MaOdbc.Stmt.Pairs

namespace MaOdbc

open List Place

def Event.queryText : Event → Option Text
  | .asked (.query text) _ _ => some text
  | _ => none

def sentQueries (events : List Event) : List Text := events.filterMap Event.queryText

theorem sentQueries_builds (builds : List Build) : sentQueries (builds.map Build.event) = [] := by
  rw [sentQueries, filterMap_map, filterMap_eq_nil_iff]
  exact fun _ _ => rfl

theorem Sent.queryTexts {env : Env} {slots : List Slot} {events : List Event}
    (sent : Sent env slots events) : sentQueries events = slots.map (·.query) := by
  induction sent with
  | nil => rfl
  | @cons slot slots events position _ ih =>
    rw [sentQueries, filterMap_append, ← sentQueries, sentQueries_builds, nil_append,
      filterMap_cons, map_cons, ← ih]
    rfl
  | store position _ ih => exact ih

/-! ### The text of a combined statement -/

variable {text keyword : Text} {offset row batchNum : Nat}

theorem matchesNoCase_take {pattern : Text} (same : matchesNoCase text pattern = true) :
    (text.take pattern.length).map lower = pattern.map lower ∧ pattern.length ≤ text.length := by
  obtain ⟨rest, split⟩ := isPrefixOf_iff_prefix.mp same
  have longer := congrArg length split
  rw [length_append, length_map, length_map] at longer
  refine ⟨?_, by omega⟩
  rw [map_take, ← split, take_left' (length_map _)]

theorem plain_of_values {byte : Byte} (letter : lower byte ∈ (lit "VALUES").map lower) :
    isQuote byte = false ∧ byte ≠ ch '?' := by
  constructor
  · cases quote : isQuote byte with
    | false => rfl
    | true =>
      simp only [isQuote, Bool.or_eq_true, beq_iff_eq] at quote
      rcases quote with (rfl | rfl) | rfl
      · exact absurd letter (by decide)
      · exact absurd letter (by decide)
      · exact absurd letter (by decide)
  · rintro rfl
    exact absurd letter (by decide)

namespace Query

variable {query : Query} {env : Env}

theorem findToken_ne_zero (found : query.findToken keyword ≠ 0) :
    query.findToken keyword ∈ query.tokens ∧
      matchesNoCase (query.refinedText.drop (query.findToken keyword)) keyword = true := by
  rw [findToken] at found ⊢
  split
  · rename_i offset first
    have starts := find?_some first
    exact ⟨mem_of_find?_eq_some first, starts⟩
  · rename_i none
    rw [none] at found
    exact absurd rfl found

theorem findToken_le (sorted : query.tokens.Pairwise (· ≤ ·)) {token : Nat}
    (member : token ∈ query.tokens)
    (starts : matchesNoCase (query.refinedText.drop token) keyword = true) :
    query.findToken keyword ≤ token := by
  rw [findToken]
  split
  · rename_i offset first
    obtain ⟨before, after, split, none⟩ := (find?_eq_some_iff_append.mp first).2
    rw [split] at member sorted
    rcases mem_append.mp member with early | here
    · have mismatch := none token early
      rw [starts] at mismatch
      cases mismatch
    · rcases mem_cons.mp here with rfl | late
      · exact Nat.le_refl _
      · exact (pairwise_cons.mp (pairwise_append.mp sorted).2.1).1 token late
  · exact Nat.zero_le _

theorem Laid.text_zero (laid : query.Laid) (single : query.isMultiStmt = false) :
    query.text 0 = query.refinedText ∧ 0 ∉ query.refinedText := by
  have one : query.texts.length = 1 := by
    have some := laid.stmtCount_pos
    rw [isMultiStmt, decide_eq_false_iff_not] at single
    rw [laid.length_texts]
    omega
  obtain ⟨finished, current, same, cut, -, nulFree⟩ := exists_joinSegments query.refinedText
  have none : finished = [] := by
    rw [texts, cut, length_append, length_singleton] at one
    exact length_eq_zero_iff.mp (by omega)
  rw [none] at same cut
  have whole : query.refinedText = current := same
  rw [text, texts, cut, whole]
  exact ⟨rfl, nulFree⟩

/-- Where the tuples of a statement start, in a text whose quotes all close. -/
structure TuplesAt (query : Query) (offset : Nat) : Prop where
  within : offset ≤ query.refinedText.length
  unquoted : (query.refinedText.take offset).foldl QuoteMode.next .plain = .plain
  marks : ∀ position ∈ query.paramPositions, offset ≤ position ∧
    (query.refinedText.take position).foldl QuoteMode.next .plain = .plain
  first : query.token 0 = some query.refinedText

theorem tuplesAt (text : QueryText) (replace batchAllowed : Bool) (closed : QuotesClosed text.handed)
    (parsed : query = { text.parse replace batchAllowed with returnsResult := query.returnsResult })
    (combined : (query.place 0).rewrites env = true) :
    query.TuplesAt (query.place 0).valuesOffset := by
  obtain ⟨sorted, marks, starts, first⟩ := text.parse_tokens replace batchAllowed closed
  have tokens : (text.parse replace batchAllowed).tokens = query.tokens := by rw [parsed]
  have refined : (text.parse replace batchAllowed).refinedText = query.refinedText := by rw [parsed]
  have positions : (text.parse replace batchAllowed).paramPositions = query.paramPositions := by rw [parsed]
  have marked : query.Marked := by
    rw [parsed]
    exact ⟨(madbParseQuery_marked _ replace).rising, (madbParseQuery_marked _ replace).marks⟩
  rw [tokens] at sorted first
  rw [positions, tokens] at marks
  rw [tokens, refined] at starts
  simp only [rewrites, Bool.and_eq_true, decide_eq_true_eq, bne_iff_ne] at combined
  obtain ⟨⟨⟨⟨⟨⟨-, -⟩, found⟩, -⟩, before⟩, -⟩, -⟩ := combined
  have before : query.findToken (lit "VALUES") < query.findToken (lit "?") := before
  obtain ⟨member, keyword⟩ :=
    findToken_ne_zero (show query.findToken (lit "VALUES") ≠ 0 from found)
  obtain ⟨letters, long⟩ := matchesNoCase_take keyword
  have place : (query.place 0).valuesOffset = query.findToken (lit "VALUES") + 6 := rfl
  have six : (lit "VALUES").length = 6 := rfl
  rw [six] at letters long
  rw [length_drop] at long
  have plain : ∀ byte ∈ (query.refinedText.drop (query.findToken (lit "VALUES"))).take 6,
      isQuote byte = false ∧ byte ≠ ch '?' := by
    intro byte among
    refine plain_of_values ?_
    rw [← letters]
    exact mem_map_of_mem among
  refine ⟨by have := (starts _ member).1; omega, ?_, fun position mark => ?_, ?_⟩
  · rw [place, take_add, foldl_append, (starts _ member).2]
    exact foldl_mode_of_plain fun byte among => (plain byte among).1
  · have token := marks position mark
    have here := marked.marks position mark
    have starts' : matchesNoCase (query.refinedText.drop position) (lit "?") = true := by
      rw [drop_eq_getElem?_toList_append, here]
      rfl
    have least := findToken_le sorted token starts'
    refine ⟨?_, (starts position token).2⟩
    by_contra inside
    rw [place] at inside
    refine (plain (ch '?') ?_).2 rfl
    refine mem_iff_getElem?.mpr ⟨position - query.findToken (lit "VALUES"), ?_⟩
    rw [getElem?_take_of_lt (by omega), getElem?_drop, ← here]
    congr 1
    omega
  · have head := first (ne_nil_of_mem member)
    rw [token, ← head?_eq_getElem?, head]
    rfl

def tail (env : Env) (query : Query) (offset row : Nat) : Text :=
  fill query.paramPositions (env.literalText row) offset (query.refinedText.drop offset)

theorem TuplesAt.filled_eq (tuplesAt : query.TuplesAt offset) (laid : query.Laid)
    (single : query.isMultiStmt = false) (row : Nat) :
    query.filled env 0 row = query.refinedText.take offset ++ query.tail env offset row := by
  have length : (query.refinedText.take offset).length = offset :=
    length_take_of_le tuplesAt.within
  rw [filled, (laid.text_zero single).1, start_zero]
  conv_lhs => rw [← take_append_drop offset query.refinedText]
  rw [fill_append, fill_of_not_mem, Nat.zero_add, length]
  · rfl
  · intro position mark inside
    rw [length] at inside
    have := (tuplesAt.marks position mark).1
    omega

/-- **The tail of a row** is a list of tuples if the tail of the text is one. -/
theorem TuplesAt.standing_tail (tuplesAt : query.TuplesAt offset) (laid : query.Laid)
    (literals : ∀ i < query.paramPositions.length, IsLiteral (env.literalText row i)) :
    (query.tail env offset row).foldl Standing.next {} =
      (query.refinedText.drop offset).foldl Standing.next {} := by
  refine standing_fill literals fun i inside mark => ?_
  obtain ⟨-, unquoted⟩ := tuplesAt.marks _ mark
  rw [take_add, foldl_append, tuplesAt.unquoted] at unquoted
  rw [getElem?_drop]
  exact ⟨laid.marked.marks _ mark, unquoted⟩

end Query

/-! ### The batches -/

namespace Place

variable {env : Env} {place : Place}

theorem batchRows_eq (room : 0 < place.rowsInBatch) (inside : batchNum < place.batchCount env) :
    ∃ rows, place.batchRows env batchNum = batchNum * place.rowsInBatch :: rows ∧
      (∀ row ∈ rows, row % place.rowsInBatch ≠ 0) ∧
      batchNum * place.rowsInBatch < place.rowCount env := by
  have first : batchNum * place.rowsInBatch < place.rowCount env := by
    have below := (Nat.le_div_iff_mul_le room).mp (Nat.succ_le_of_lt inside)
    rw [Nat.succ_mul] at below
    omega
  obtain ⟨more, count⟩ : ∃ more, place.rowsInBatch = more + 1 := ⟨place.rowsInBatch - 1, by omega⟩
  refine ⟨(range' (batchNum * place.rowsInBatch + 1) more).filter (· < place.rowCount env), ?_,
    fun row member => ?_, first⟩
  · rw [batchRows]
    conv_lhs => rw [show range' (batchNum * place.rowsInBatch) place.rowsInBatch =
      range' (batchNum * place.rowsInBatch) (more + 1) by rw [← count]]
    rw [range'_succ, filter_cons_of_pos (by simpa using first)]
  · have bounds := mem_range'_1.mp (mem_filter.mp member).1
    obtain ⟨i, rfl⟩ : ∃ i, row = batchNum * place.rowsInBatch + i := ⟨row - batchNum * place.rowsInBatch, by omega⟩
    rw [Nat.mul_comm, Nat.mul_add_mod, Nat.mod_eq_of_lt (by omega)]
    omega

theorem tuple_eq {before tail : Text} (same : place.valuesOffset = offset)
    (split : text = before ++ tail) (length : before.length = offset) (some : 0 < offset)
    (nulFree : 0 ∉ tail) :
    place.tuple row text = (if row % place.rowsInBatch = 0 then [] else lit ",") ++ tail := by
  have longer : 0 < text.length := by
    rw [split, length_append]
    omega
  rw [tuple, if_pos longer, same, split, drop_left' length, cstr_of_nulFree nulFree]

end Place

namespace Stmt

variable (env : Env) (s : Stmt)

/-- The queries that the rows would be sent with one by one. -/
def rowQueries : List Text :=
  (Plan.seq ((List.range ((s.query.place 0).rowCount env)).map
    ((s.query.place 0).rowPlan env 0))).slots.map (·.query)

def tuplesBehind (offset : Nat) (query : Text) : List Text := (tuples (query.drop offset)).getD []

/-- **The batches hold the tuples of the rows**: each query is the text up to `VALUES` and a list of
tuples, the tuples of all of them are those of the rows that are not ignored, and a batch is sent only if
it has such a row. -/
structure SendsTuples : Prop where
  before : ∀ query ∈ sentQueries (s.executeEvents env),
    query.take (s.query.place 0).valuesOffset = s.query.refinedText.take (s.query.place 0).valuesOffset
  lists : ∀ query ∈ sentQueries (s.executeEvents env),
    ∃ read, tuples (query.drop (s.query.place 0).valuesOffset) = some read ∧ read ≠ []
  rows : ∀ query ∈ s.rowQueries env,
    (tuples (query.drop (s.query.place 0).valuesOffset)).isSome = true
  same : (sentQueries (s.executeEvents env)).flatMap (tuplesBehind (s.query.place 0).valuesOffset) =
    (s.rowQueries env).flatMap (tuplesBehind (s.query.place 0).valuesOffset)
  count : (sentQueries (s.executeEvents env)).length =
    ((List.range ((s.query.place 0).batchCount env)).filter fun batchNum =>
      ((s.query.place 0).batchRows env batchNum).any (!env.ignored ·)).length

variable {env s}

theorem sentQueries_combined (laid : s.Laid) (supports : env.Supports) (plain : s.Plain env)
    (inserts : s.query.Inserts env) (combined : (s.query.place 0).rewrites env = true) :
    sentQueries (s.executeEvents env) =
      (range ((s.query.place 0).batchCount env)).map fun batchNum =>
        ((s.query.place 0).batchSlot env (s.query.filled env 0) batchNum).query := by
  have single : s.query.isMultiStmt = false := single_of_rewrites combined
  have some := laid.query.stmtCount_pos
  have one : s.query.stmtCount = 1 := by
    rw [Query.isMultiStmt, decide_eq_false_iff_not] at single
    omega
  have planned : (s.query.place 0).plan env 0 =
      ⟨(range ((s.query.place 0).batchCount env)).map
        ((s.query.place 0).batchSlot env (s.query.filled env 0)), none⟩ :=
    plan_combined combined (laid.query.builds inserts some)
  have plan : s.query.plan env =
      ⟨(range ((s.query.place 0).batchCount env)).map
        ((s.query.place 0).batchSlot env (s.query.filled env 0)), none⟩ := by
    rw [Query.plan, one, range_one, map_singleton, planned, Plan.seq_of_done (by simp),
      flatMap_singleton]
  obtain ⟨events, sent, whole⟩ := executeEvents_client laid supports plain
  have outer : sentQueries (s.executeEvents env) = sentQueries events := by
    rw [whole, plan]
    show sentQueries (events ++ [] ++ [.unlock]) = _
    rw [append_nil, sentQueries, filterMap_append]
    exact append_nil _
  rw [outer, sent.queryTexts, plan, map_map]
  rfl

/-- What a batch has behind the text up to `VALUES`. -/
def batchTail (env : Env) (query : Query) (batchNum : Nat) : Text :=
  (takenRows env ((query.place 0).batchRows env batchNum)).flatMap fun row =>
    (if row % (query.place 0).rowsInBatch = 0 then [] else lit ",") ++
      query.tail env (query.place 0).valuesOffset row

theorem literals_of_inserts {query : Query} (inserts : query.Inserts env)
    (literals : ∀ i row text, env.literal i row = .ok text → IsLiteral text)
    (less : row < (query.place 0).rowCount env) (taken : env.ignored row = false) :
    ∀ i < query.paramPositions.length, IsLiteral (env.literalText row i) := by
  intro i inside
  have bound := inserts row (less.trans_le (Query.rowCount_le _)) taken i inside
  exact literals i row _ bound.2

theorem lt_of_mem_batchRows {place : Place}
    (member : row ∈ takenRows env (place.batchRows env batchNum)) :
    row < place.rowCount env ∧ env.ignored row = false := by
  obtain ⟨among, taken⟩ := mem_filter.mp member
  exact ⟨by simpa using (mem_filter.mp among).2, by simpa using taken⟩

theorem batchSlot_query (laid : s.query.Laid) (tuplesAt : s.query.TuplesAt (s.query.place 0).valuesOffset)
    (combined : (s.query.place 0).rewrites env = true) (inserts : s.query.Inserts env)
    (literals : ∀ i row text, env.literal i row = .ok text → IsLiteral text) (batchNum : Nat) :
    ((s.query.place 0).batchSlot env (s.query.filled env 0) batchNum).query =
      s.query.refinedText.take (s.query.place 0).valuesOffset ++ batchTail env s.query batchNum := by
  have single : s.query.isMultiStmt = false := single_of_rewrites combined
  have nulFree := (laid.text_zero single).2
  have before : (s.query.place 0).beforeTuples = s.query.refinedText.take (s.query.place 0).valuesOffset := by
    have first : (s.query.place 0).query.token 0 = some s.query.refinedText := tuplesAt.first
    rw [beforeTuples, first]
    rfl
  rw [batchSlot, before]
  refine congrArg (_ ++ ·) (flatMap_congr fun row member => ?_)
  obtain ⟨less, taken⟩ := lt_of_mem_batchRows member
  refine tuple_eq rfl (tuplesAt.filled_eq laid single row) (length_take_of_le tuplesAt.within)
    (Nat.succ_pos _) ?_
  refine nulFree_fill (fun i inside => ?_) fun nul => nulFree (mem_of_mem_drop nul)
  exact (literals_of_inserts inserts literals less taken i inside).nulFree

section

variable {query : Query} (room : 0 < (query.place 0).rowsInBatch)
  (inside : batchNum < (query.place 0).batchCount env)

include room inside

theorem tuples_batchTail_ignored
    (ignored : env.ignored (batchNum * (query.place 0).rowsInBatch) = true) :
    tuples (batchTail env query batchNum) = none := by
  obtain ⟨rows, shape, others, -⟩ := batchRows_eq room inside
  have skipped : takenRows env ((query.place 0).batchRows env batchNum) =
      takenRows env rows := by
    rw [shape, takenRows, filter_cons_of_neg (by simp [ignored])]
    rfl
  rw [batchTail, skipped]
  cases left : takenRows env rows with
  | nil => rfl
  | cons row more =>
    have member : row ∈ takenRows env rows := by rw [left]; exact mem_cons_self
    have later := others row (mem_filter.mp member).1
    rw [flatMap_cons, if_neg later]
    exact tuples_comma _

theorem tuples_batchTail {read : Nat → List Text}
    (taken : env.ignored (batchNum * (query.place 0).rowsInBatch) = false)
    (lists : ∀ row < (query.place 0).rowCount env, env.ignored row = false →
      tuples (query.tail env (query.place 0).valuesOffset row) = some (read row)) :
    tuples (batchTail env query batchNum) =
      some ((takenRows env ((query.place 0).batchRows env batchNum)).flatMap read) := by
  obtain ⟨rows, shape, others, first⟩ := batchRows_eq room inside
  have kept : takenRows env ((query.place 0).batchRows env batchNum) =
      batchNum * (query.place 0).rowsInBatch :: takenRows env rows := by
    rw [shape, takenRows, filter_cons_of_pos (by simp [taken])]
    rfl
  have commas : ((takenRows env rows).flatMap fun row =>
      (if row % (query.place 0).rowsInBatch = 0 then [] else lit ",") ++
        query.tail env (query.place 0).valuesOffset row) =
      (takenRows env rows).flatMap fun row =>
        ch ',' :: query.tail env (query.place 0).valuesOffset row := by
    refine flatMap_congr fun row member => ?_
    rw [if_neg (others row (mem_filter.mp member).1)]
    rfl
  rw [batchTail, kept, flatMap_cons, flatMap_cons, if_pos (Nat.mul_mod_left _ _), commas]
  refine tuples_flatMap (lists _ first taken) fun row member => ?_
  have among : row ∈ takenRows env ((query.place 0).batchRows env batchNum) := by
    rw [kept]
    exact mem_cons_of_mem _ member
  obtain ⟨less, notIgnored⟩ := lt_of_mem_batchRows among
  exact lists row less notIgnored

end

/-- An `INSERT` with one parameter. -/
def insertText : QueryText := ⟨lit "INSERT INTO t VALUES (?)", by decide⟩

def insertRows (ignored : Nat → Bool) : Env where
  server := fun _ _ => .ok {}
  noSsps := true
  arraySize := 2
  ignored := ignored
  literal := fun _ _ => .ok (lit "1")

def preparedInsert : Stmt := (({} : Stmt).stmtPrepare (insertRows fun _ => false) insertText.bytes false).2

theorem preparedInsert_plain (ignored : Nat → Bool) : preparedInsert.Plain (insertRows ignored) :=
  ⟨rfl, by decide +kernel, by decide +kernel, Bool.and_false _⟩

theorem preparedInsert_inserts (ignored : Nat → Bool) :
    preparedInsert.query.Inserts (insertRows ignored) :=
  fun _ _ _ _ _ => ⟨rfl, rfl⟩

theorem insertRows_supports (ignored : Nat → Bool) : (insertRows ignored).Supports := ⟨nofun, nofun⟩

theorem insertRows_literals (ignored : Nat → Bool) :
    ∀ i row text, (insertRows ignored).literal i row = .ok text → IsLiteral text := by
  rintro i row text ⟨⟩
  exact .word (by decide) (by decide)

theorem insertText_closed : QuotesClosed insertText.handed := by
  unfold QuotesClosed
  decide +kernel

theorem preparedInsert_parsed : preparedInsert.query =
    { insertText.parse false false with returnsResult := preparedInsert.query.returnsResult } := by
  decide +kernel

theorem preparedInsert_corresponds : Corresponds preparedInsert.query.refinedText
    (preparedInsert.query.subQuery.map (·.queryText)) :=
  ⟨by decide +kernel, by decide +kernel⟩

end Stmt

end MaOdbc
