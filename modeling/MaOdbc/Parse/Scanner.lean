/-
**The query scanner** (`ma_parse.c`, with `SqlRtrim` of `ma_helper.c`), and the parsed query (`MADB_QUERY`).

Pointers into the query text are offsets from the start of `RefinedText`. The type of a statement is read off its first
two tokens; the codes of the enumeration matter, since `QUERY_DOESNT_RETURN_RESULT` compares them.

`parseQuery` is `ParseQuery`: one pass over the query text that saves the token offsets, blanks the
comments, records the parameter marks, cuts a batch at its semicolons and types its statements. The
text is a zipper: `done` is what the scan pointer has passed, as it stands in the buffer by then,
`rest` is what lies ahead. `madbParseQuery` is `MADB_ParseQuery`: it trims the text, skips what
leads it and runs the scanner.

`strlen`, `strchr` and `strstr` see the text up to its terminator, so the bytes ahead hold no NUL; a
text comes with an `SQLINTEGER` length, so the casts to `int` do not cut.
-/

import MaOdbc.Library.CText
import MaOdbc.Library.Loop

namespace MaOdbc

/-- `enum_madb_query_type`. -/
inductive QueryType where
  | noResult
  | insert
  | update
  | delete
  | createProc
  | createFunc
  | createDefiner
  | set
  | setNames
  | selectInto
  | select
  | showResult
  | echo
  | call
  | analyze
  | explain
  | check
  | execute
  | optimize
  | describe
  | notAtomicBlock
  | anonymousCodeBlocks
  deriving DecidableEq, Repr, Inhabited

namespace QueryType

def code (type : QueryType) : Nat := type.ctorIdx

/-- `QUERY_DOESNT_RETURN_RESULT`. -/
def doesntReturnResult (type : QueryType) : Bool := type.code < select.code

/-- The types `QueryIsPossiblyMultistmt` excludes: their text may hold `;` of its own. -/
def isProcedural : QueryType → Bool
  | createProc | createFunc | createDefiner | notAtomicBlock | anonymousCodeBlocks => true
  | _ => false

/-- `MADB_QueryTypeUnsupportedBySsps`. -/
def unsupportedBySsps : QueryType → Bool
  | showResult | analyze | explain | check | optimize | describe | execute => true
  | _ => false

end QueryType

/-- `SINGLE_QUERY`: a statement of the batch. -/
structure SubQuery where
  queryText : Nat
  queryType : QueryType
  deriving DecidableEq, Repr

/-- `MADB_QUERY`. The bytes of `refinedText` are the `RefinedLength` bytes at `RefinedText`. -/
structure Query where
  original : Text := []
  refinedText : Text := []
  tokens : List Nat := []
  subQuery : List SubQuery := []
  hasParameters : Bool := false
  paramPositions : List Nat := []
  returnsResult : Bool := false
  queryType : QueryType := .noResult
  batchAllowed : Bool := false
  deriving DecidableEq, Repr

namespace Query

/-- `STMT_COUNT`. -/
def stmtCount (query : Query) : Nat := query.subQuery.length

/-- `QUERY_IS_MULTISTMT`. -/
def isMultiStmt (query : Query) : Bool := 1 < query.stmtCount

/-- `QueryIsPossiblyMultistmt`. -/
def isPossiblyMultistmt (query : Query) : Bool := !query.queryType.isProcedural

/-- `MADB_Token`: the text from a token on. -/
def token (query : Query) (idx : Nat) : Option Text :=
  query.tokens[idx]?.map fun offset => query.refinedText.drop offset

/-- `MADB_CompareToken`: the offset of the token, if the keyword starts it. -/
def compareToken (query : Query) (idx : Nat) (compare : Text) : Option Nat :=
  match query.tokens[idx]? with
  | none => none
  | some offset => if matchesNoCase (query.refinedText.drop offset) compare then some offset else none

/-- `MADB_FindToken`: the offset of the first token the keyword starts, or 0. -/
def findToken (query : Query) (compare : Text) : Nat :=
  match query.tokens.find? fun offset => matchesNoCase (query.refinedText.drop offset) compare with
  | some offset => offset
  | none => 0

/-- `MADB_ParseCursorName`: the offset of `WHERE` and the text of the cursor name. -/
def parseCursorName (query : Query) : Option (Nat × Text) :=
  (List.range (query.tokens.length - 3)).findSome? fun i =>
    match query.compareToken i (lit "WHERE") with
    | none => none
    | some offset =>
      if (query.compareToken (i + 1) (lit "CURRENT")).isSome &&
          (query.compareToken (i + 2) (lit "OF")).isSome then
        (query.token (i + 3)).map fun name => (offset, name)
      else none

end Query

/-- The prefixes `MADB_GetQueryType` tries on the first token alone, in its order. -/
def firstTokenTypes : List (Text × QueryType) :=
  [ (lit "DO", .anonymousCodeBlocks), (lit "SELECT", .select), (lit "WITH", .select),
    (lit "INSERT", .insert), (lit "REPLACE", .insert), (lit "UPDATE", .update),
    (lit "DELETE", .delete), (lit "CALL", .call), (lit "ECHO", .echo), (lit "SHOW", .showResult),
    (lit "ANALYZE", .analyze), (lit "EXPLAIN", .explain), (lit "CHECK", .check),
    (lit "EXECUTE", .execute), (lit "OPTIMIZ", .optimize) ]

/-- `MADB_GetQueryType`: the type of a statement from the texts at its first two tokens. -/
def getQueryType (token1 token2 : Text) : QueryType :=
  -- parentheses around the query are skipped
  let first := (cstr token1).dropWhile fun byte => !isAlpha byte
  match firstTokenTypes.find? fun entry => matchesNoCase first entry.1 with
  | some (_, type) => type
  | none =>
    let create := matchesNoCase first (lit "CREATE")
    if create && matchesNoCase token2 (lit "PROCEDURE") then .createProc
    else if create && matchesNoCase token2 (lit "FUNCTION") then .createFunc
    else if create && matchesNoCase token2 (lit "DEFINER") then .createDefiner
    else if matchesNoCase first (lit "SET") then
      if matchesNoCase token2 (lit "NAMES") then .setNames else .set
    else if matchesNoCase first (lit "DESC") then .describe
    else if matchesNoCase first (lit "BEGIN") && matchesNoCase token2 (lit "NOT") then
      .notAtomicBlock
    else .noResult

example : getQueryType (lit "(Select 1") (lit "1") = .select := by decide

/-! ### Comments, blanks and quoted strings -/

/-- `StripLeadingComments`: how many bytes of comment lead the text. -/
def stripLeadingComments (str : Text) : Nat :=
  if str = [] then 0
  else if (lit "--").isPrefixOf str then
    match strchr (str.drop 2) (ch '\n') with
    | some res => 2 + res + 1
    | none => str.length
  else if str.head? = some (ch '#') then
    match strchr (str.drop 1) (ch '\n') with
    | some res => 1 + res + 1
    | none => str.length
  else if (lit "/*").isPrefixOf str then
    match strstr (str.drop 2) (lit "*/") with
    | some res => 2 + res + 2
    | none => str.length
  else 0

/-- `SkipSpacesAndComments`: the bytes skipped, as they stand afterwards, and the text from where
the pointer stops. It goes round until a round does not move the pointer. -/
def skipLoop (overWrite : Bool) : Nat → Text → Text × Text
  | 0, text => ([], text)
  | fuel + 1, text =>
    if text = [] then ([], []) else
    let stripped := stripLeadingComments text
    let comment := if overWrite then List.replicate stripped (ch ' ') else text.take stripped
    let blanks := (text.drop stripped).takeWhile isSpace
    let next := ltrim (text.drop stripped)
    if stripped = 0 ∧ blanks = [] then ([], text)
    else (comment ++ blanks ++ (skipLoop overWrite fuel next).1, (skipLoop overWrite fuel next).2)

@[inherit_doc skipLoop]
def skipSpacesAndComments (overWrite : Bool) (text : Text) : Text × Text :=
  skipLoop overWrite (text.length + 1) text

/-- `SkipQuotedString` and `SkipQuotedString_Noescapes`: how many bytes lie before the closing quote,
or the end. -/
def skipQuotedString (escapes : Bool) (quote : Byte) : Text → Nat
  | [] => 0
  | [byte] => if byte = quote then 0 else 1
  | byte :: next :: text =>
    if byte = quote then 0
    else if escapes ∧ byte = ch '\\' then 2 + skipQuotedString escapes quote text
    else 1 + skipQuotedString escapes quote (next :: text)

/-! ### The scanner's state -/

/-- The local variables of `ParseQuery` and the fields of the query it writes. -/
structure Scan where
  done : Text := []
  rest : Text
  readingToken : Bool := false
  stmtTokensCount : Nat := 0
  curQuery : Nat := 0
  stmtType : QueryType := .noResult
  tokens : List Nat := []
  subQuery : List SubQuery := []
  hasParameters : Bool := false
  paramPositions : List Nat := []
  returnsResult : Bool := false
  queryType : QueryType := .noResult
  deriving DecidableEq, Repr

namespace Scan

def offset (s : Scan) : Nat := s.done.length

def buffer (s : Scan) : Text := s.done ++ s.rest

/-- `MADB_Token(Query, Query->Tokens.elements - 2)`: the offset of the last token but one. -/
def previousToken (s : Scan) : Nat := s.tokens.getD (s.tokens.length - 2) 0

/-- Move the pointer over `count` bytes. -/
def advance (s : Scan) (count : Nat) : Scan :=
  { s with done := s.done ++ s.rest.take count, rest := s.rest.drop count }

def skipGap (s : Scan) : Scan :=
  let skipped := skipSpacesAndComments true s.rest
  { s with done := s.done ++ skipped.1, rest := skipped.2 }

/-- `CALL` at the start of a statement becomes `ECHO`, on request. -/
def replaceCall (s : Scan) (replace : Bool) : Scan :=
  if replace && s.stmtTokensCount == 0 && matchesNoCase s.rest (lit "CALL") then
    { s with rest := lit "ECHO" ++ s.rest.drop 4 }
  else s

/-- The second token of a statement types it and enters it into the list of statements. -/
def addSubQuery (s : Scan) : Scan :=
  let type := getQueryType (s.buffer.drop s.previousToken) s.rest
  { s with
    stmtType := type
    returnsResult := s.returnsResult || !type.doesntReturnResult
    subQuery := s.subQuery ++ [⟨s.curQuery, type⟩]
    queryType := if s.subQuery = [] then type else s.queryType }

/-- `INTO` makes a `SELECT` one without a result. -/
def changeToSelectInto (s : Scan) : Scan :=
  { s with
    stmtType := .selectInto
    subQuery := s.subQuery.modify (s.subQuery.length - 1) fun q => { q with queryType := .selectInto }
    queryType := if s.subQuery.length = 1 then .selectInto else s.queryType }

/-- The condition under which a third or later token makes that change. -/
def atSelectInto (s : Scan) : Bool :=
  s.stmtType == .select && s.previousToken + 4 < s.buffer.length && matchesNoCase s.rest (lit "INTO")

/-- `SAVE_TOKEN`: a token starts at the pointer. -/
def countToken (s : Scan) : Scan :=
  { s with
    tokens := s.tokens ++ [s.offset]
    stmtTokensCount := s.stmtTokensCount + 1
    readingToken := true }

def enterToken (s : Scan) : Scan :=
  if s.stmtTokensCount = 1 then { s with curQuery := s.offset }
  else if s.stmtTokensCount = 2 then s.addSubQuery
  else if s.atSelectInto then s.changeToSelectInto
  else s

@[inherit_doc countToken]
def saveToken (s : Scan) : Scan := s.countToken.enterToken

/-- A quote opens: the pointer moves past its closing quote. A quote that does not close is passed
over together with the byte after it, and a new token starts there. -/
def passQuoted (s : Scan) (quote : Byte) (text : Text) : Scan :=
  let length := skipQuotedString (quote != ch '`') quote text
  if text.length ≤ length then { s.advance 2 with readingToken := false }
  else s.advance (length + 2)

def passMark (s : Scan) : Scan :=
  { s.advance 1 with
    hasParameters := true
    paramPositions := s.paramPositions ++ [s.offset]
    readingToken := false }

/-- A semicolon: the statement ends, unless the text is one whole procedural statement. -/
def passSemicolon (s : Scan) (batchAllowed : Bool) : Scan :=
  if s.queryType.isProcedural then { s.advance 1 with readingToken := false }
  else
    { s with
      done := s.done ++ [if batchAllowed then 0 else ch ';']
      rest := s.rest.drop 1
      stmtTokensCount := 0
      readingToken := false }

/-- The byte a token starts with, and `++p`. -/
def startToken (s : Scan) (batchAllowed : Bool) : Scan :=
  match s.rest with
  | [] => s
  | byte :: text =>
    if byte = ch '"' ∨ byte = ch '\'' ∨ byte = ch '`' then s.passQuoted byte text
    else if byte = ch '?' then s.passMark
    else if byte = ch ';' then s.passSemicolon batchAllowed
    else s.advance 1

def tokenBreakers : List Byte :=
  [ch '?', ch '"', ch '\'', ch '`', ch ' ', ch '\t', ch '\r', ch '\n', ch '-', ch '#', ch '/',
    ch ';']

def breaksToken (byte : Byte) : Bool := tokenBreakers.contains byte

/-- One round of the loop of `ParseQuery`. -/
def step (replace batchAllowed : Bool) (s : Scan) : Scan :=
  if s.readingToken then
    match s.rest with
    | [] => s
    | byte :: _ => if breaksToken byte then { s with readingToken := false } else s.advance 1
  else ((s.skipGap.replaceCall replace).saveToken).startToken batchAllowed

/-- `p < end`. -/
def unfinished (s : Scan) : Bool := s.rest != []

/-- The loop of `ParseQuery`: a round either moves the pointer or only ends a token. -/
def run (replace batchAllowed : Bool) (s : Scan) : Scan :=
  whileLoop unfinished (step replace batchAllowed) (2 * s.rest.length + 1) s

end Scan

/-- `ParseQuery`. -/
def parseQuery (query : Query) (replace : Bool) : Query :=
  let s := Scan.run replace query.batchAllowed { rest := query.refinedText }
  { query with
    refinedText := s.buffer
    tokens := s.tokens
    subQuery := s.subQuery
    hasParameters := s.hasParameters
    paramPositions := s.paramPositions
    returnsResult := s.returnsResult
    queryType := s.queryType }

/-! ### Preparing the text -/

/-- A query text as it reaches `MADB_ParseQuery`: a C string. -/
structure QueryText where
  bytes : Text
  nulFree : 0 ∉ bytes

/-- What `SqlRtrim` cuts. -/
def isTrailing (byte : Byte) : Bool := isSpace byte || byte == ch ';'

/-- `SqlRtrim`: trailing blanks and semicolons are cut, but never the first byte. -/
def sqlRtrim : Text → Text
  | [] => []
  | byte :: text => byte :: text.rdropWhile isTrailing

/-- `FixIsoFormat`: the braces of a text that is one ODBC escape. The text and its length come
apart, since the length is that of the text before its leading blanks were cut; the result is the
text and the new length. The closing brace stays, as the terminator is written one byte too far. -/
def fixIsoFormat (stmtString : Text) (length : Nat) : Text × Nat :=
  if 0 < length ∧ stmtString.head? = some (ch '{') ∧ stmtString[length - 1]? = some (ch '}') then
    let res := trim (stmtString.drop 1)
    (res, res.length)
  else (stmtString, length)

/-- How far `FixIsoFormat` moves the pointer. -/
def isoShift (stmtString : Text) (length : Nat) : Nat :=
  stmtString.length - (fixIsoFormat stmtString length).1.length

/-- What `MADB_ParseQuery` makes of the text before it scans it: `Original`, and the text it hands
to `ParseQuery`. `RefinedLength` is a difference of lengths that only an escape in braces can bring
to zero or below; the scanner then sees no byte. -/
def handedText (text : Text) : Text × Text :=
  let rtrimmed := sqlRtrim text
  let ltrimmed := ltrim rtrimmed
  let fixed := fixIsoFormat ltrimmed rtrimmed.length
  let moved := (rtrimmed.length - ltrimmed.length) + isoShift ltrimmed rtrimmed.length
  let original := if fixed.2 < moved then fixed.1 else fixed.1.take (fixed.2 - moved)
  (original, if fixed.2 ≤ moved then [] else (skipSpacesAndComments false fixed.1).2)

/-- `MADB_ParseQuery`. -/
def madbParseQuery (query : Query) (replace : Bool) : Query :=
  let texts := handedText query.refinedText
  parseQuery { query with original := texts.1, refinedText := texts.2 } replace

end MaOdbc
