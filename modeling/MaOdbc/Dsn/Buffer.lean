/-
**Connection strings in memory** (`MADB_ParseConnString` with any delimiter, and `ConnStringLength`).

Pairs may be joined by a delimiter, or each of them may end with a zero byte, with one more behind the last. The
function is told the length of the text, or finds it.

* `parseLoopIn_eq`: what is stored depends on the text only.
* `parseMemory_of_nulFree`: a string that ends with a zero byte, with another delimiter.
* `readPairs_enough`: the rounds that are left do not matter.
* `PlainPair.pairsOf_delimiter`, `PlainPair.pairsOf_end`: a pair is read alike in both forms.
* `parse_forms_agree`: the two forms of a list of pairs.
-/

import MaOdbc.Dsn.ConnString
import MaOdbc.Library.Segments

namespace MaOdbc

open List Option

/-- `strchr` in a buffer: it stops at a zero byte, and finds one. A zero byte ends the buffer. -/
def strchrIn (text : Text) (byte : Byte) : Option Nat :=
  if byte = 0 then some (cstr text).length else strchr (cstr text) byte

/-- The loop that copies a value in curly brackets, up to a zero byte. -/
def unbraceIn (copied pending : Text) : Text → Text × Option Text
  | [] => (copied, none)
  | byte :: text =>
    if byte = 0 then (copied, none)
    else if byte = ch '\x7d' then
      match text with
      | [] => (copied ++ pending, some [])
      | next :: text =>
        if next = ch '\x7d' then unbraceIn (copied ++ pending ++ [next]) [] text
        else (copied ++ pending, some (next :: text))
    else unbraceIn copied (pending ++ [byte]) text

/-- A value, and what follows the place of `p`. -/
def readValueIn (delimiter : Byte) (value : Text) : Text × Option Text :=
  let value := ltrim value
  if value.head? = some (ch '\x7b') then unbraceIn [] [] (value.drop 1)
  else
    match strchrIn value delimiter with
    | some p => (value.take p, some (value.drop p))
    | none => (cstr value, none)

/-- The loop of `MADB_ParseConnString` with some rounds to go, from a key on. -/
def parseLoopIn (delimiter : Byte) : Nat → Text → Dsn → Bool × Dsn
  | 0, _, dsn => (true, dsn)
  | _ + 1, [], dsn => (true, dsn)
  | rounds + 1, byte :: key, dsn =>
    if delimiter ≠ 0 ∧ byte = delimiter then parseLoopIn delimiter rounds key dsn
    else
      match strchrIn (byte :: key) (ch '=') with
      | none => (false, dsn)
      | some equals =>
        let value := (byte :: key).drop (equals + 1)
        match findKey (trim ((byte :: key).take equals)) with
        | none =>
          -- an unknown key
          match strchrIn value delimiter with
          | none => (true, dsn)
          | some p => parseLoopIn delimiter rounds (value.drop (p + 1)) dsn
        | some field =>
          let (text, p) := readValueIn delimiter value
          let assigned := dsn.assign field (trim text)
          if !assigned.1 then (false, assigned.2)
          else
            match p with
            | none => (true, assigned.2)
            | some p => parseLoopIn delimiter rounds (p.drop 1) assigned.2

/-- The loop of `ConnStringLength` with some rounds to go: how far it moves. -/
def stringsLength : Nat → Text → Nat
  | 0, _ => 0
  | rounds + 1, text =>
    if cstr text = [] then 0
    else (cstr text).length + 1 + stringsLength rounds (text.drop ((cstr text).length + 1))

/-- `ConnStringLength` of what stands at a place of the memory. -/
def connStringLength (memory : Text) (delimiter : Byte) : Nat :=
  let result := (cstr memory).length
  if delimiter ≠ 0 then result else result + 1 + stringsLength memory.length (memory.drop (result + 1))

/-- `MADB_ParseConnString` of what stands at a place of the memory; no length is `SQL_NTS`. -/
def parseMemory (dsn : Dsn) (memory : Text) (length : Option Nat) (delimiter : Byte) : Bool × Dsn :=
  let buffer := memory.take (length.getD (connStringLength memory delimiter))
  parseLoopIn delimiter buffer.length buffer dsn

/-! ### What is stored -/

def readPairs (delimiter : Byte) : Nat → Text → Bool × List Store
  | 0, _ => (true, [])
  | _ + 1, [] => (true, [])
  | rounds + 1, byte :: key =>
    if delimiter ≠ 0 ∧ byte = delimiter then readPairs delimiter rounds key
    else
      match strchrIn (byte :: key) (ch '=') with
      | none => (false, [])
      | some equals =>
        let value := (byte :: key).drop (equals + 1)
        match findKey (trim ((byte :: key).take equals)) with
        | none =>
          match strchrIn value delimiter with
          | none => (true, [])
          | some p => readPairs delimiter rounds (value.drop (p + 1))
        | some field =>
          let (text, p) := readValueIn delimiter value
          match p with
          | none => (true, [(field, trim text)])
          | some p =>
            let more := readPairs delimiter rounds (p.drop 1)
            (more.1, (field, trim text) :: more.2)

/-- **What is stored depends on the text only**, since a value is always stored. -/
theorem parseLoopIn_eq (delimiter : Byte) (rounds : Nat) (text : Text) (dsn : Dsn) :
    parseLoopIn delimiter rounds text dsn =
      ((readPairs delimiter rounds text).1, dsn.assignStores (readPairs delimiter rounds text).2) := by
  induction rounds generalizing text dsn with
  | zero => rfl
  | succ rounds ih =>
    cases text with
    | nil => rfl
    | cons byte key =>
      rw [parseLoopIn, readPairs]
      split
      · exact ih key dsn
      · split
        · rfl
        · dsimp only
          split
          · split
            · rfl
            · exact ih _ dsn
          · rename_i field _
            rw [dsn.assign_fst]
            cases (readValueIn delimiter (List.drop _ (byte :: key))).2 with
            | none => rfl
            | some p => exact ih _ _

theorem suffix_unbraceIn (copied pending text : Text) : ∀ rest ∈ (unbraceIn copied pending text).2, rest <:+ text := by
  fun_induction unbraceIn copied pending text with
  | case1 => exact fun rest none => by cases none
  | case2 => exact fun rest none => by cases none
  | case3 =>
    intro rest found
    rw [← some.inj found]
    exact nil_suffix
  | case4 copied pending tail closing ih =>
    exact fun rest found => (ih rest found).trans (suffix_append [_, _] tail)
  | case5 copied pending next tail other =>
    intro rest found
    rw [← some.inj found]
    exact suffix_cons _ _
  | case6 copied pending byte tail nonzero other ih =>
    exact fun rest found => (ih rest found).trans (suffix_cons _ _)

theorem suffix_readValueIn (delimiter : Byte) (value : Text) :
    ∀ rest ∈ (readValueIn delimiter value).2, rest <:+ value := by
  intro rest found
  have inner : ltrim value <:+ value := dropWhile_suffix _
  rw [readValueIn] at found
  split at found
  · exact ((suffix_unbraceIn _ _ _ rest found).trans (drop_suffix 1 _)).trans inner
  · split at found
    · rw [← some.inj found]
      exact (drop_suffix _ _).trans inner
    · cases found

/-- What the loop returns and stores, with as many rounds as the text has bytes. -/
def pairsOf (delimiter : Byte) (text : Text) : Bool × List Store := readPairs delimiter text.length text

theorem readPairs_nil (delimiter : Byte) (rounds : Nat) : readPairs delimiter rounds [] = (true, []) := by
  cases rounds with
  | zero | succ => rfl

/-- **More rounds make no difference**, since every round passes a byte. -/
theorem readPairs_enough {delimiter : Byte} {text : Text} {rounds : Nat} (enough : text.length ≤ rounds) :
    readPairs delimiter rounds text = pairsOf delimiter text := by
  have same : ∀ less more (text : Text), text.length ≤ less → text.length ≤ more →
      readPairs delimiter less text = readPairs delimiter more text := by
    intro less
    induction less with
    | zero =>
      intro more text short _
      rw [eq_nil_of_length_eq_zero (Nat.le_zero.mp short), readPairs_nil, readPairs_nil]
    | succ less ih =>
      intro more text short short'
      cases text with
      | nil => rw [readPairs_nil, readPairs_nil]
      | cons byte key =>
        rw [length_cons] at short short'
        obtain ⟨more, rfl⟩ : ∃ fewer, more = fewer + 1 := ⟨more - 1, by omega⟩
        have part : ∀ {rest : Text}, rest.length ≤ key.length →
            readPairs delimiter less rest = readPairs delimiter more rest :=
          fun shorter => ih more _ (by omega) (by omega)
        rw [readPairs, readPairs, part (Nat.le_refl _)]
        split
        · rfl
        · cases strchrIn (byte :: key) (ch '=') with
          | none => rfl
          | some equals =>
            have value : (List.drop (equals + 1) (byte :: key)).length ≤ key.length := by
              rw [length_drop, length_cons]
              omega
            dsimp only
            generalize List.drop (equals + 1) (byte :: key) = text at value
            cases findKey (trim (List.take equals (byte :: key))) with
            | none =>
              cases strchrIn text delimiter with
              | none => rfl
              | some p => exact part ((drop_sublist _ _).length_le.trans value)
            | some field =>
              have left := suffix_readValueIn delimiter text
              cases found : (readValueIn delimiter text).2 with
              | none => rfl
              | some p =>
                have rest := (drop_sublist 1 p).length_le.trans (left p found).length_le
                dsimp only
                rw [part (rest.trans value)]
  exact same rounds text.length text enough (Nat.le_refl _)

/-! ### Strings that end with a zero byte -/

section NulFree

variable {text : Text} (nulFree : 0 ∉ text)

include nulFree

theorem strchrIn_of_nulFree {byte : Byte} (nonzero : byte ≠ 0) : strchrIn text byte = strchr text byte := by
  rw [strchrIn, if_neg nonzero, cstr_of_nulFree nulFree]

theorem unbraceIn_of_nulFree (copied pending : Text) : unbraceIn copied pending text = unbrace copied pending text := by
  fun_induction unbrace copied pending text with
  | case1 => rfl
  | case2 copied pending => rfl
  | case3 copied pending tail ih =>
    have inner : 0 ∉ tail := fun member => nulFree (mem_cons_of_mem _ (mem_cons_of_mem _ member))
    rw [unbraceIn, if_neg (by decide), if_pos rfl]
    exact ih inner
  | case4 copied pending next tail other =>
    rw [unbraceIn, if_neg (by decide), if_pos rfl]
    exact if_neg other
  | case5 copied pending byte tail other ih =>
    obtain ⟨nonzero, inner⟩ := ne_and_not_mem_of_not_mem_cons nulFree
    rw [unbraceIn.eq_def]
    dsimp only
    rw [if_neg (Ne.symm nonzero), if_neg other]
    exact ih inner

theorem readValueIn_of_nulFree {delimiter : Byte} (nonzero : delimiter ≠ 0) :
    readValueIn delimiter text = readValue delimiter text := by
  have inner : 0 ∉ ltrim text := fun member => nulFree ((dropWhile_sublist _).subset member)
  rw [readValueIn, readValue, strchrIn_of_nulFree inner nonzero, cstr_of_nulFree inner]
  generalize ltrim text = value at inner
  cases value with
  | nil => rfl
  | cons byte value =>
    obtain ⟨-, tail⟩ := ne_and_not_mem_of_not_mem_cons inner
    rw [head?_cons, drop_one, tail_cons, unbraceIn_of_nulFree tail]
    dsimp only
    by_cases brace : byte = ch '\x7b'
    · rw [if_pos (congrArg some brace), if_pos brace]
    · have other : ¬ some byte = some (ch '\x7b') := fun same => brace (some.inj same)
      cases strchr (byte :: value) delimiter with
      | none | some => exact (if_neg other).trans (if_neg brace).symm

end NulFree

theorem parseLoopIn_of_nulFree {text : Text} (nulFree : 0 ∉ text) {delimiter : Byte} (nonzero : delimiter ≠ 0)
    (rounds : Nat) (dsn : Dsn) : parseLoopIn delimiter rounds text dsn = parseLoop delimiter rounds text dsn := by
  induction rounds generalizing text dsn with
  | zero => rfl
  | succ rounds ih =>
    cases text with
    | nil => rfl
    | cons byte key =>
      have part : ∀ {rest : Text}, rest <:+ byte :: key → 0 ∉ rest := fun suffix member =>
        nulFree (suffix.subset member)
      rw [parseLoopIn, parseLoop, strchrIn_of_nulFree nulFree (by decide)]
      simp only [nonzero, ne_eq, not_false_eq_true, true_and]
      split
      · exact ih (part (suffix_cons _ _)) dsn
      · cases strchr (byte :: key) (ch '=') with
        | none => rfl
        | some equals =>
          have value := drop_suffix (equals + 1) (byte :: key)
          dsimp only
          generalize List.drop (equals + 1) (byte :: key) = rest at value ⊢
          have left := suffix_readValueIn delimiter rest
          rw [readValueIn_of_nulFree (part value) nonzero] at left
          rw [readValueIn_of_nulFree (part value) nonzero, strchrIn_of_nulFree (part value) nonzero, behind]
          cases findKey (trim (List.take equals (byte :: key))) with
          | none =>
            cases strchr rest delimiter with
            | none => rfl
            | some p => exact ih (part ((drop_suffix _ _).trans value)) dsn
          | some field =>
            dsimp only
            rw [dsn.assign_fst]
            cases found : (readValue delimiter rest).2 with
            | none => rfl
            | some p =>
              exact ih (part (((drop_suffix _ _).trans (left p found)).trans value)) _

/-- A key and a value that can be written in both forms. -/
structure PlainPair where
  key : Text
  value : Text
  keyBytes : ∀ byte ∈ key, byte ≠ 0 ∧ byte ≠ ch ';' ∧ byte ≠ ch '='
  valueBytes : ∀ byte ∈ value, byte ≠ 0 ∧ byte ≠ ch ';'
  unbraced : (ltrim value).head? ≠ some (ch '\x7b')

namespace PlainPair

variable (pair : PlainPair)

def text : Text := pair.key ++ ch '=' :: pair.value

def stores : List Store := (findKey (trim pair.key)).toList.map fun field => (field, trim pair.value)

end PlainPair

def isDelimiter (byte : Byte) : Bool := byte == 0 || byte == ch ';'

theorem isDelimiter_cases {byte : Byte} (delimits : isDelimiter byte = true) : byte = 0 ∨ byte = ch ';' := by
  simpa [isDelimiter] using delimits

theorem drop_succ_append (text : Text) (byte : Byte) (rest : Text) :
    (text ++ byte :: rest).drop (text.length + 1) = rest := by
  rw [drop_append, drop_of_length_le (Nat.le_succ _), Nat.add_sub_cancel_left]
  rfl

section Delimited

variable {delimiter : Byte} (delimits : isDelimiter delimiter = true) {text : Text}
  (apart : ∀ byte ∈ text, byte ≠ 0 ∧ byte ≠ ch ';')

include delimits apart

theorem strchrIn_delimiter (rest : Text) : strchrIn (text ++ delimiter :: rest) delimiter = some text.length := by
  have nulFree : 0 ∉ text := fun member => (apart 0 member).1 rfl
  rw [strchrIn]
  rcases isDelimiter_cases delimits with rfl | rfl
  · rw [if_pos rfl, cstr_append_nul nulFree]
  · rw [if_neg (by decide), cstr_append nulFree]
    exact strchr_append_cons (fun member => (apart _ member).2 rfl) _

theorem strchrIn_end : strchrIn text delimiter = if delimiter = 0 then some text.length else none := by
  have nulFree : 0 ∉ text := fun member => (apart 0 member).1 rfl
  rw [strchrIn, cstr_of_nulFree nulFree]
  rcases isDelimiter_cases delimits with rfl | rfl
  · rfl
  · rw [strchr_eq_none fun member => (apart _ member).2 rfl]

end Delimited

theorem pairsOf_key {key : Text} (nulFree : 0 ∉ key) (noEquals : ch '=' ∉ key) {delimiter : Byte}
    (delimits : isDelimiter delimiter = true) (apart : key.head? ≠ some delimiter) (value : Text) :
    pairsOf delimiter (key ++ ch '=' :: value) =
      match findKey (trim key) with
      | none =>
        match strchrIn value delimiter with
        | none => (true, [])
        | some p => pairsOf delimiter (value.drop (p + 1))
      | some field =>
        match (readValueIn delimiter value).2 with
        | none => (true, [(field, trim (readValueIn delimiter value).1)])
        | some p =>
          ((pairsOf delimiter (p.drop 1)).1,
            (field, trim (readValueIn delimiter value).1) :: (pairsOf delimiter (p.drop 1)).2) := by
  have place : strchrIn (key ++ ch '=' :: value) (ch '=') = some key.length := by
    rw [strchrIn, if_neg (by decide), cstr_append nulFree]
    exact strchr_append_cons noEquals _
  have first : (key ++ ch '=' :: value).take key.length = key := take_left
  have second : (key ++ ch '=' :: value).drop (key.length + 1) = value := drop_succ_append key _ value
  have long : value.length < (key ++ ch '=' :: value).length := by
    rw [length_append, length_cons]
    omega
  obtain ⟨byte, tail, whole⟩ : ∃ byte tail, key ++ ch '=' :: value = byte :: tail :=
    exists_cons_of_ne_nil (append_ne_nil_of_right_ne_nil _ (cons_ne_nil _ _))
  have other : ¬ (delimiter ≠ 0 ∧ byte = delimiter) := by
    rintro ⟨-, rfl⟩
    cases key with
    | nil =>
      rw [← (List.cons.inj whole).1] at delimits
      revert delimits
      decide
    | cons first more =>
      rw [cons_append, List.cons.injEq] at whole
      exact apart (congrArg some whole.1)
  rw [whole] at place first second long ⊢
  have rest : ∀ {text : Text}, text.length ≤ value.length →
      readPairs delimiter tail.length text = pairsOf delimiter text :=
    fun short => readPairs_enough (short.trans (Nat.le_of_lt_succ long))
  rw [pairsOf, length_cons, readPairs, if_neg other, place]
  dsimp only
  rw [first, second]
  cases findKey (trim key) with
  | none =>
    cases strchrIn value delimiter with
    | none => rfl
    | some p => exact rest (drop_sublist _ _).length_le
  | some field =>
    have left := suffix_readValueIn delimiter value
    cases found : (readValueIn delimiter value).2 with
    | none => rfl
    | some p =>
      dsimp only
      rw [rest ((drop_sublist 1 p).length_le.trans (left p found).length_le)]

namespace PlainPair

variable (pair : PlainPair) {delimiter : Byte} (delimits : isDelimiter delimiter = true)

theorem nulFree_key : 0 ∉ pair.key := fun member => (pair.keyBytes 0 member).1 rfl

theorem noEquals_key : ch '=' ∉ pair.key := fun member => (pair.keyBytes _ member).2.2 rfl

theorem apart_key (delimits : isDelimiter delimiter = true) : pair.key.head? ≠ some delimiter := by
  intro head
  have bytes := pair.keyBytes delimiter (mem_of_head? head)
  rcases isDelimiter_cases delimits with rfl | rfl
  · exact bytes.1 rfl
  · exact bytes.2.1 rfl

theorem ltrim_bytes : ∀ byte ∈ ltrim pair.value, byte ≠ 0 ∧ byte ≠ ch ';' :=
  fun byte member => pair.valueBytes byte ((dropWhile_sublist _).subset member)

include delimits

theorem ltrim_append (rest : Text) : ltrim (pair.value ++ delimiter :: rest) = ltrim pair.value ++ delimiter :: rest := by
  have notBlank : isSpace delimiter = false := by
    rcases isDelimiter_cases delimits with rfl | rfl
    · rfl
    · rfl
  rw [ltrim, dropWhile_append, ltrim]
  split
  · rename_i empty
    rw [List.isEmpty_iff.mp empty, dropWhile_cons_of_neg (by rw [notBlank]; exact Bool.false_ne_true)]
    rfl
  · rfl

theorem readValueIn_delimiter (rest : Text) :
    readValueIn delimiter (pair.value ++ delimiter :: rest) = (ltrim pair.value, some (delimiter :: rest)) := by
  have unbraced : (ltrim pair.value ++ delimiter :: rest).head? ≠ some (ch '\x7b') := by
    have whole := pair.unbraced
    cases start : ltrim pair.value with
    | nil =>
      rw [nil_append, head?_cons, ne_eq, some.injEq]
      rcases isDelimiter_cases delimits with rfl | rfl
      · decide
      · decide
    | cons byte value =>
      rw [start] at whole
      exact whole
  rw [readValueIn, pair.ltrim_append delimits, if_neg unbraced, strchrIn_delimiter delimits pair.ltrim_bytes]
  dsimp only
  rw [take_left, drop_left]

theorem readValueIn_end :
    readValueIn delimiter pair.value = (ltrim pair.value, if delimiter = 0 then some [] else none) := by
  have nulFree : 0 ∉ ltrim pair.value := fun member => (pair.ltrim_bytes 0 member).1 rfl
  rw [readValueIn, if_neg pair.unbraced, strchrIn_end delimits pair.ltrim_bytes, cstr_of_nulFree nulFree]
  rcases isDelimiter_cases delimits with rfl | rfl
  · rw [if_pos rfl, if_pos rfl]
    dsimp only
    rw [take_length, drop_length]
  · rfl

/-- **A pair in front of a delimiter.** -/
theorem pairsOf_delimiter (rest : Text) :
    pairsOf delimiter (pair.text ++ delimiter :: rest) =
      ((pairsOf delimiter rest).1, pair.stores ++ (pairsOf delimiter rest).2) := by
  rw [text, append_assoc, cons_append, pairsOf_key pair.nulFree_key pair.noEquals_key delimits
    (pair.apart_key delimits), strchrIn_delimiter delimits pair.valueBytes, pair.readValueIn_delimiter delimits, stores]
  cases findKey (trim pair.key) with
  | none =>
    dsimp only
    rw [drop_succ_append]
    rfl
  | some field =>
    dsimp only
    rw [trim_ltrim]
    rfl

/-- **A pair at the end.** -/
theorem pairsOf_end : pairsOf delimiter pair.text = (true, pair.stores) := by
  rw [text, pairsOf_key pair.nulFree_key pair.noEquals_key delimits (pair.apart_key delimits),
    strchrIn_end delimits pair.valueBytes, pair.readValueIn_end delimits, stores]
  cases findKey (trim pair.key) with
  | none =>
    rcases isDelimiter_cases delimits with rfl | rfl
    · dsimp only
      rw [if_pos rfl]
      dsimp only
      rw [drop_of_length_le (Nat.le_succ _)]
      rfl
    · rfl
  | some field =>
    dsimp only
    rw [trim_ltrim]
    rcases isDelimiter_cases delimits with rfl | rfl
    · rw [if_pos rfl]
      dsimp only
      rw [drop_nil]
      rfl
    · rfl

end PlainPair

/-! ### The two forms -/

/-- Pairs joined by semicolons. -/
def joinedPairs (pairs : List PlainPair) : Text := [ch ';'].intercalate (pairs.map PlainPair.text)

def closedPairs (pairs : List PlainPair) : Text := pairs.flatMap fun pair => pair.text ++ [0]

theorem PlainPair.nulFree_text (pair : PlainPair) : 0 ∉ pair.text := by
  rw [PlainPair.text, mem_append, mem_cons]
  rintro (key | equals | value)
  · exact (pair.keyBytes 0 key).1 rfl
  · revert equals
    decide
  · exact (pair.valueBytes 0 value).1 rfl

theorem PlainPair.text_ne_nil (pair : PlainPair) : pair.text ≠ [] :=
  append_ne_nil_of_right_ne_nil _ (cons_ne_nil _ _)

theorem joinedPairs_cons_cons (pair next : PlainPair) (pairs : List PlainPair) :
    joinedPairs (pair :: next :: pairs) = pair.text ++ ch ';' :: joinedPairs (next :: pairs) := by
  rw [joinedPairs, map_cons, map_cons, intercalate_cons_cons, append_assoc, ← map_cons,
    ← joinedPairs]
  rfl

theorem closedPairs_cons (pair : PlainPair) (pairs : List PlainPair) :
    closedPairs (pair :: pairs) = pair.text ++ 0 :: closedPairs pairs := by
  rw [closedPairs, flatMap_cons, append_assoc]
  rfl

theorem pairsOf_joined (pairs : List PlainPair) :
    pairsOf (ch ';') (joinedPairs pairs) = (true, pairs.flatMap PlainPair.stores) := by
  induction pairs with
  | nil => rfl
  | cons pair pairs ih =>
    cases pairs with
    | nil =>
      have alone : joinedPairs [pair] = pair.text := intercalate_singleton
      rw [alone, pair.pairsOf_end rfl, flatMap_singleton]
    | cons next pairs =>
      rw [joinedPairs_cons_cons, pair.pairsOf_delimiter rfl, ih, flatMap_cons (x := pair)]

theorem pairsOf_closed (pairs : List PlainPair) :
    pairsOf 0 (closedPairs pairs) = (true, pairs.flatMap PlainPair.stores) := by
  induction pairs with
  | nil => rfl
  | cons pair pairs ih => rw [closedPairs_cons, pair.pairsOf_delimiter rfl, ih, flatMap_cons]

/-! ### The length of the text -/

theorem stringsLength_closed {pairs : List PlainPair} {rounds : Nat} (enough : pairs.length ≤ rounds) (behind : Text) :
    stringsLength rounds (closedPairs pairs ++ 0 :: behind) = (closedPairs pairs).length := by
  induction pairs generalizing rounds with
  | nil =>
    cases rounds with
    | zero | succ => rfl
  | cons pair pairs ih =>
    rw [length_cons] at enough
    obtain ⟨rounds, rfl⟩ : ∃ less, rounds = less + 1 := ⟨rounds - 1, by omega⟩
    have string : cstr (closedPairs (pair :: pairs) ++ 0 :: behind) = pair.text := by
      rw [closedPairs_cons, append_assoc, cons_append, cstr_append_nul pair.nulFree_text]
    have next : (closedPairs (pair :: pairs) ++ 0 :: behind).drop (pair.text.length + 1) =
        closedPairs pairs ++ 0 :: behind := by
      rw [closedPairs_cons, append_assoc, cons_append, drop_succ_append]
    rw [stringsLength, string, if_neg pair.text_ne_nil, next, ih (by omega), closedPairs_cons, length_append,
      length_cons]
    omega

theorem length_closedPairs (pairs : List PlainPair) : pairs.length ≤ (closedPairs pairs).length := by
  induction pairs with
  | nil => exact Nat.le_refl 0
  | cons pair pairs ih =>
    rw [closedPairs_cons, length_append, length_cons, length_cons]
    omega

theorem nulFree_joinedPairs (pairs : List PlainPair) : 0 ∉ joinedPairs pairs := by
  induction pairs with
  | nil => exact not_mem_nil
  | cons pair pairs ih =>
    cases pairs with
    | nil =>
      have alone : joinedPairs [pair] = pair.text := intercalate_singleton
      rw [alone]
      exact pair.nulFree_text
    | cons next pairs =>
      rw [joinedPairs_cons_cons, mem_append, mem_cons]
      rintro (here | semi | later)
      · exact pair.nulFree_text here
      · revert semi
        decide
      · exact ih later

theorem connStringLength_closed {pairs : List PlainPair} (nonempty : pairs ≠ []) (behind : Text) :
    connStringLength (closedPairs pairs ++ 0 :: behind) 0 = (closedPairs pairs).length := by
  cases pairs with
  | nil => exact absurd rfl nonempty
  | cons pair pairs =>
    have enough : pairs.length ≤ (closedPairs (pair :: pairs) ++ 0 :: behind).length := by
      have pieces := length_closedPairs (pair :: pairs)
      rw [length_cons] at pieces
      rw [length_append]
      omega
    rw [connStringLength, if_neg fun zero => zero rfl]
    generalize (closedPairs (pair :: pairs) ++ 0 :: behind).length = rounds at enough ⊢
    rw [closedPairs_cons, append_assoc, cons_append, cstr_append_nul pair.nulFree_text, drop_succ_append,
      stringsLength_closed enough, length_append, length_cons]
    omega

/-- **The two forms of a list of pairs** are read alike, whatever stands behind them. -/
theorem parse_forms_agree (dsn : Dsn) {pairs : List PlainPair} (nonempty : pairs ≠ []) (behind behind' : Text) :
    parseMemory dsn (joinedPairs pairs ++ 0 :: behind) none (ch ';') =
      parseMemory dsn (closedPairs pairs ++ 0 :: behind') none 0 := by
  have length : connStringLength (joinedPairs pairs ++ 0 :: behind) (ch ';') = (joinedPairs pairs).length := by
    rw [connStringLength, cstr_append_nul (nulFree_joinedPairs pairs)]
    rfl
  rw [parseMemory, parseMemory, getD_none, getD_none, length, connStringLength_closed nonempty,
    take_left, take_left, parseLoopIn_eq, parseLoopIn_eq, ← pairsOf, ← pairsOf, pairsOf_joined, pairsOf_closed]

/-- A key in another letter case with a blank, and an unknown one. -/
theorem parse_forms_agree_uid :
    let pairs : List PlainPair :=
      [⟨lit " uid", lit "root ", by decide, by decide, by decide⟩, ⟨lit "x", lit "1", by decide, by decide, by decide⟩]
    pairs ≠ [] ∧ parseMemory .init (joinedPairs pairs ++ 0 :: []) none (ch ';') =
      parseMemory .init (closedPairs pairs ++ 0 :: []) none 0 :=
  ⟨cons_ne_nil _ _, parse_forms_agree .init (cons_ne_nil _ _) [] []⟩

end MaOdbc
