/-
**The strings of a record that is written and read again.**

A record is written with `MADB_DsnToString`, and the text is read to a fresh record.

* `parseLoop_str`: what reading a text leaves in a field is trimmed, and shorter than the text.
* `strings_survive_iff`: when the strings are the same. They are if the text fits the buffer and each value is
  `Faithful`; any other value is lost in some record whose other values are.
-/

import MaOdbc.Dsn.ToString

namespace MaOdbc

open List Function Dsn DsnWriter Option

/-! ### What a text can leave in a field -/

/-- **What a text can leave in a field**: a value that is trimmed and shorter than the text. -/
theorem parseLoop_str (delimiter : Byte) (rounds : Nat) (text : Text) (dsn : Dsn) (field : DsnField) :
    (parseLoop delimiter rounds text dsn).2.str field = dsn.str field ∨
      ∃ value, (parseLoop delimiter rounds text dsn).2.str field = some value ∧ value.length < text.length ∧
        trim value = value := by
  refine parseLoop_rule (motive := fun next : Dsn => next.str field = dsn.str field ∨
    ∃ value, next.str field = some value ∧ value.length < text.length ∧ trim value = value)
    (fun before known value kept trimmed shorter => ?_) delimiter rounds le_rfl (.inl rfl)
  rw [before.str_assign]
  split
  · rw [update_apply]
    split
    · exact .inr ⟨value, rfl, shorter, trimmed⟩
    · exact kept
  · exact kept

variable {before value other : Text} {field : DsnField} {n : Nat}

theorem unbrace_append (none : ch '\x7d' ∉ before) (copied pending text : Text) :
    unbrace copied pending (before ++ ch '\x7d' :: text) = unbrace copied (pending ++ before) (ch '\x7d' :: text) := by
  induction before generalizing pending with
  | nil => rw [nil_append, append_nil]
  | cons byte before ih =>
    rw [mem_cons, not_or] at none
    rw [cons_append, unbrace.eq_def copied pending (byte :: _)]
    dsimp only
    rw [if_neg (Ne.symm none.1), ih none.2, append_assoc, singleton_append]

theorem unbrace_unclosed {text : Text} (none : ch '\x7d' ∉ text) (copied pending : Text) :
    unbrace copied pending text = (copied, Option.none) := by
  induction text generalizing pending with
  | nil => rfl
  | cons byte text ih =>
    rw [mem_cons, not_or] at none
    rw [unbrace.eq_def]
    dsimp only
    rw [if_neg (Ne.symm none.1), ih none.2]

/-- **What is lost of a value at the end of a text**: it is not what is read, and what follows it is shorter. The
one value that is read, by chance, has a closing bracket at its end only. -/
theorem readValue_lost {value : Text} (plain : ¬Plain value)
    (inside : isSpecial value = true → ∀ before, value = before ++ [ch '\x7d'] → ch '\x7d' ∈ before) :
    (readValue (ch ';') (enclose value)).1.length < value.length ∧
      ((readValue (ch ';') (enclose value)).2.getD []).length ≤ value.length := by
  rw [Plain] at plain
  rw [enclose]
  cases special : isSpecial value with
  | false =>
    rw [special, if_neg Bool.false_ne_true, not_not] at plain
    obtain ⟨tail, rfl⟩ := head?_eq_some_iff.mp plain
    have read := unbrace_length tail [] []
    rw [if_neg Bool.false_ne_true, readValue_brace, length_cons]
    simp only [length_nil] at read
    omega
  | true =>
    rw [special, if_pos rfl, not_not] at plain
    obtain ⟨before, after, rfl, none⟩ := eq_append_cons_of_mem plain
    rw [if_pos rfl, cons_append, readValue_brace, append_assoc, cons_append, unbrace_append none,
      nil_append, length_append, length_cons]
    cases after with
    | nil => exact absurd (inside special before rfl) none
    | cons next after =>
      rw [cons_append, unbrace, if_pos rfl]
      split
      · rename_i bracket
        have read := unbrace_length (after ++ [ch '\x7d']) ([] ++ before ++ [next]) []
        rw [if_pos (mem_append_right _ (mem_singleton_self _))] at read
        simp only [length_append, length_cons, length_nil] at read ⊢
        omega
      · simp only [length_append, length_cons, length_nil, getD_some]
        omega

/-! ### Records that are written and read again -/

namespace Dsn

/-- The numbers of a record are those of one that comes from reading a string. -/
def NumbersRead (dsn : Dsn) : Prop :=
  ∃ (delimiter : Byte) (string : Text),
    dsn.byte = (parseConnString delimiter .init string).2.byte ∧
      dsn.int = (parseConnString delimiter .init string).2.int

def StringsSurvive (dsn : Dsn) : Prop :=
  ∃ writer, dsn.dsnToString = some writer ∧ (parseConnString (ch ';') .init writer.tmpStr).1 = true ∧
    ∀ field, field.type = .string ∨ field.type = .combo →
      (parseConnString (ch ';') .init writer.tmpStr).2.str field = dsn.str field

theorem str_assignPieces (dsn fresh : Dsn) (string : field.type = .string ∨ field.type = .combo) :
    (fresh.assignPieces dsn.pieces).str field = ((dsn.str field).filter (· ≠ [])).or (fresh.str field) := by
  have alone : field.Alone := by
    refine ⟨fun option => ?_, ?_, ?_⟩
    · simp [option] at string
    · rintro rfl
      simp [DsnField.type] at string
    · rintro rfl
      simp [DsnField.type] at string
  have read := dsn.value_assignPieces alone fresh
  rw [value, value, valueOf] at read
  rcases string with type | type
  all_goals
    rw [type] at read
    dsimp only at read
    cases kept : (dsn.str field).filter (· ≠ []) with
    | none =>
      rw [kept] at read
      exact FieldValue.text.inj read
    | some text =>
      rw [kept, map_some, DsnField.read, type] at read
      exact FieldValue.text.inj read

/-- **Faithful values survive** in a text that fits. -/
theorem stringsSurvive {dsn : Dsn} (short : dsn.text.length < 2048)
    (faithful : ∀ field, field.type = .string ∨ field.type = .combo → ∀ value, dsn.str field = some value →
      Faithful value) :
    dsn.StringsSurvive := by
  have strings : dsn.StringsFaithful := fun field type value stored => .inr (faithful field type value stored)
  refine ⟨_, dsnToString_short short, ?_, fun field type => ?_⟩
  · rw [strings.parseConnString_text]
  · rw [strings.parseConnString_text, dsn.str_assignPieces _ type]
    have fresh : init.str field = none := rfl
    rw [fresh, or_none]
    cases stored : dsn.str field with
    | none => rfl
    | some value => exact filter_some_pos (decide_eq_true (faithful field type value stored).nonempty)

/-! ### Values that are lost -/

/-- A piece that is always written, with the numbers of a fresh record. -/
def tcpPiece : DsnPiece := { key := lit "TCPIP", field := .isTcpIp, value := lit "1", written := lit "1" }

def sspsPiece : DsnPiece := { key := lit "NO_SSPS", field := .noSsps, value := lit "1", written := lit "1" }

/-- A fresh record with a value for the last of the strings. -/
def withLast (value : Text) : Dsn := init.setStr .jwt value

/-- A fresh record with a value for the first of the strings, and another for the last one. -/
def withFirst (value : Text) : Dsn := (init.setStr .dsnName value).setStr .jwt (lit "x")

theorem pieces_withLast (nonempty : value ≠ []) :
    (withLast value).pieces =
      [tcpPiece, sspsPiece, { key := lit "JWT", field := .jwt, value := value, written := enclose value }] := by
  cases value with
  | nil => exact absurd rfl nonempty
  | cons byte value => rfl

theorem pieces_withFirst (nonempty : value ≠ []) :
    (withFirst value).pieces =
      [{ key := lit "DSN", field := .dsnName, value := value, written := enclose value }, tcpPiece, sspsPiece,
        { key := lit "JWT", field := .jwt, value := lit "x", written := lit "x" }] := by
  cases value with
  | nil => exact absurd rfl nonempty
  | cons byte value => rfl

theorem eq_of_str_update {last : DsnField}
    (stored : update init.str last (some value) field = some other) : other = value := by
  rw [update_apply] at stored
  split at stored
  · exact (some.inj stored).symm
  · cases stored

theorem eq_of_str_withLast (stored : (withLast value).str field = some other) : other = value :=
  eq_of_str_update stored

theorem text_withLast (nonempty : value ≠ []) :
    (withLast value).text = tcpPiece.text ++ ch ';' :: (sspsPiece.text ++ ch ';' :: (lit "JWT" ++ ch '=' :: enclose value)) := by
  rw [text, pieces_withLast nonempty, piecesText_cons_cons, piecesText_cons_cons, piecesText_singleton]
  rfl

theorem text_withFirst (nonempty : value ≠ []) :
    (withFirst value).text = lit "DSN" ++ ch '=' :: (enclose value ++ lit ";TCPIP=1;NO_SSPS=1;JWT=x") := by
  rw [text, pieces_withFirst nonempty, piecesText_cons_cons]
  show (lit "DSN" ++ ch '=' :: enclose value) ++ _ = _
  rw [append_assoc]
  rfl

theorem length_enclose (value : Text) : (enclose value).length ≤ value.length + 2 := by
  rw [enclose]
  split
  · rw [length_append, length_cons]
    exact Nat.le_refl _
  · exact Nat.le_add_right _ _

theorem one_reads {entry : DsnEntry} (member : entry ∈ dsnKeys) :
    DsnPiece.Reads { key := entry.key, field := entry.field, value := lit "1", written := lit "1" } := by
  have one : Faithful (lit "1") := by decide
  exact one.reads member

theorem parseConnString_withLast (nonempty : value ≠ []) :
    ∃ rounds, ∃ before : Dsn, parseConnString (ch ';') init (withLast value).text =
      parseLoop (ch ';') rounds (((readValue (ch ';') (enclose value)).2.getD []).drop 1)
        (before.assign .jwt (trim (readValue (ch ';') (enclose value)).1)).2 := by
  have named : Names (lit "JWT") .jwt := ⟨⟨lit "JWT", .jwt, false⟩, by decide, by decide, rfl⟩
  have tcp : tcpPiece.Reads := one_reads (by decide : ⟨lit "TCPIP", .isTcpIp, false⟩ ∈ dsnKeys)
  have ssps : sspsPiece.Reads := one_reads (by decide : ⟨lit "NO_SSPS", .noSsps, false⟩ ∈ dsnKeys)
  obtain ⟨rounds, enough⟩ : ∃ rounds, (withLast value).text.length = rounds + 3 := by
    refine ⟨(withLast value).text.length - 3, ?_⟩
    have : (lit "TCPIP=1;").length ≤ (withLast value).text.length := by
      rw [text_withLast nonempty]
      simp [tcpPiece, sspsPiece, DsnPiece.text, lit]
    simp [lit] at this
    omega
  refine ⟨rounds, (((init.assign .isTcpIp (lit "1")).2.assign .noSsps (lit "1")).2), ?_⟩
  rw [parseConnString, enough, text_withLast nonempty, tcp.parseLoop_text (.inr rfl), drop_one, tail_cons,
    ssps.parseLoop_text (.inr rfl), drop_one, tail_cons, named.parseLoop_key]
  rfl

theorem length_withLast (nonempty : value ≠ []) :
    (withLast value).text.length = 22 + (enclose value).length := by
  rw [text_withLast nonempty]
  simp only [length_append, length_cons]
  have front : tcpPiece.text.length = 7 ∧ sspsPiece.text.length = 9 ∧ (lit "JWT").length = 3 := ⟨rfl, rfl, rfl⟩
  omega

theorem length_withFirst (nonempty : value ≠ []) :
    (withFirst value).text.length = 28 + (enclose value).length := by
  rw [text_withFirst nonempty]
  simp only [length_append, length_cons]
  have ends : (lit "DSN").length = 3 ∧ (lit ";TCPIP=1;NO_SSPS=1;JWT=x").length = 24 := ⟨rfl, rfl⟩
  omega

/-- A value with interfering brackets is lost at the end of a text, unless its one closing bracket is at its end. -/
theorem not_survive_withLast {value : Text} (nonempty : value ≠ []) (short : (withLast value).text.length < 2048)
    (plain : ¬Plain value) (inside : isSpecial value = true → ∀ before, value = before ++ [ch '\x7d'] → ch '\x7d' ∈ before) :
    ¬(withLast value).StringsSurvive := by
  rintro ⟨writer, written, -, same⟩
  rw [dsnToString_short short, some.injEq] at written
  subst written
  obtain ⟨rounds, before, parsed⟩ := parseConnString_withLast nonempty
  have kept := same .jwt (.inl rfl)
  have stored : (withLast value).str .jwt = some value := rfl
  obtain ⟨shorter, rest⟩ := readValue_lost plain inside
  rw [stored] at kept
  dsimp only at kept
  rw [parsed] at kept
  rcases parseLoop_str (ch ';') rounds (((readValue (ch ';') (enclose value)).2.getD []).drop 1)
    (before.assign .jwt (trim (readValue (ch ';') (enclose value)).1)).2 .jwt with left | ⟨other, left, less, -⟩
  · have here : (before.assign .jwt (trim (readValue (ch ';') (enclose value)).1)).2.str .jwt =
        some (trim (readValue (ch ';') (enclose value)).1) := by
      rw [str_assign, if_pos (.inl rfl), update_self]
    rw [left, here, some.injEq] at kept
    have := length_trim_le (readValue (ch ';') (enclose value)).1
    rw [kept] at this
    omega
  · rw [left, some.injEq] at kept
    rw [kept, length_drop] at less
    omega

/-- A value whose one closing bracket is at its end hides what follows. -/
theorem not_survive_withFirst (none : ch '\x7d' ∉ before)
    (special : isSpecial (before ++ [ch '\x7d']) = true)
    (short : (withFirst (before ++ [ch '\x7d'])).text.length < 2048) :
    ¬(withFirst (before ++ [ch '\x7d'])).StringsSurvive := by
  rintro ⟨writer, written, -, same⟩
  rw [dsnToString_short short, some.injEq] at written
  subst written
  have nonempty : before ++ [ch '\x7d'] ≠ [] := append_ne_nil_of_right_ne_nil _ (cons_ne_nil _ _)
  have named : Names (lit "DSN") .dsnName := ⟨⟨lit "DSN", .dsnName, false⟩, by decide, by decide, rfl⟩
  have read : readValue (ch ';') (enclose (before ++ [ch '\x7d']) ++ lit ";TCPIP=1;NO_SSPS=1;JWT=x") =
      (before ++ [ch '\x7d'], Option.none) := by
    have apart : ch '\x7d' ∉ lit ";TCPIP=1;NO_SSPS=1;JWT=x" := by decide
    have written : enclose (before ++ [ch '\x7d']) ++ lit ";TCPIP=1;NO_SSPS=1;JWT=x" =
        ch '\x7b' :: (before ++ ch '\x7d' :: ch '\x7d' :: lit ";TCPIP=1;NO_SSPS=1;JWT=x") := by
      rw [enclose, special, if_pos rfl]
      simp only [cons_append, append_assoc, nil_append]
    rw [written, readValue_brace, unbrace_append none, nil_append, unbrace, if_pos rfl, if_pos rfl,
      unbrace_unclosed apart]
    rfl
  obtain ⟨rounds, enough⟩ : ∃ rounds, (withFirst (before ++ [ch '\x7d'])).text.length = rounds + 1 := by
    refine ⟨(withFirst (before ++ [ch '\x7d'])).text.length - 1, ?_⟩
    rw [text_withFirst nonempty, length_append, length_cons]
    omega
  have kept := same .jwt (.inl rfl)
  dsimp only at kept
  rw [parseConnString, enough, text_withFirst nonempty, named.parseLoop_key, read] at kept
  rw [getD_none, drop_nil, parseLoop_nil, str_assign, if_pos (.inl rfl)] at kept
  cases kept

theorem not_survive_empty : ¬(withLast []).StringsSurvive := by
  rintro ⟨writer, written, -, same⟩
  have short : (withLast []).text.length < 2048 := by decide
  rw [dsnToString_short short, some.injEq] at written
  subst written
  have strings : (withLast []).StringsFaithful := fun field _ value stored => .inl (eq_of_str_withLast stored)
  have kept := same .jwt (.inl rfl)
  dsimp only at kept
  rw [strings.parseConnString_text, str_assignPieces _ _ (.inl rfl)] at kept
  cases kept

theorem trimmed_of_survive (survive : (withLast value).StringsSurvive) : trim value = value := by
  obtain ⟨writer, -, -, same⟩ := survive
  have kept := same .jwt (.inl rfl)
  have stored : (withLast value).str .jwt = some value := rfl
  rw [stored] at kept
  rcases parseLoop_str (ch ';') writer.tmpStr.length writer.tmpStr init .jwt with left | ⟨other, left, -, trimmed⟩
  · rw [parseConnString, left] at kept
    cases kept
  · rw [parseConnString, left, some.injEq] at kept
    rw [← kept]
    exact trimmed

theorem faithful_ones (positive : 0 < n) : Faithful (replicate n (ch '1')) := by
  refine faithful_of_bytes ?_ fun byte member => .inl ?_
  · rw [ne_eq, replicate_eq_nil_iff]
    omega
  · rw [(mem_replicate.mp member).2]
    rfl

theorem enclose_ones (n : Nat) : enclose (replicate n (ch '1')) = replicate n (ch '1') := by
  have missing : ∀ byte, byte ≠ ch '1' → (strchr (replicate n (ch '1')) byte).isSome = false := by
    intro byte other
    rw [isSome_eq_false_iff, isNone_iff_eq_none, strchr, findIdx?_eq_none_iff]
    intro one member
    rw [beq_eq_false_iff_ne, (mem_replicate.mp member).2]
    exact Ne.symm other
  have special : isSpecial (replicate n (ch '1')) = false := by
    rw [isSpecial, missing _ (by decide), missing _ (by decide), missing _ (by decide)]
    rfl
  rw [enclose, special, if_neg Bool.false_ne_true]

theorem nonempty_ones (positive : 0 < n) :
    replicate n (ch '1') ≠ [] := (faithful_ones positive).nonempty

theorem dsnToString_long : (withLast (replicate 2026 (ch '1'))).dsnToString =
    some ⟨(withLast (replicate 2025 (ch '1'))).text, 2048⟩ := by
  have first : add {} tcpPiece = some ⟨lit "TCPIP=1", 7⟩ := rfl
  have second : add ⟨lit "TCPIP=1", 7⟩ sspsPiece = some ⟨lit "TCPIP=1;NO_SSPS=1", 17⟩ := rfl
  have third : add ⟨lit "TCPIP=1;NO_SSPS=1", 17⟩
      { key := lit "JWT", field := .jwt, value := replicate 2026 (ch '1'), written := replicate 2026 (ch '1') } =
        some ⟨lit "TCPIP=1;NO_SSPS=1" ++ (lit ";JWT=" ++ replicate 2025 (ch '1')), 2048⟩ := by
    have cut : (lit ";JWT=" ++ replicate 2026 (ch '1')).take 2030 = lit ";JWT=" ++ replicate 2025 (ch '1') := by
      rw [take_append, take_replicate]
      rfl
    have length : (lit ";JWT=" ++ replicate 2026 (ch '1')).length = 2031 := by
      rw [length_append, length_replicate]
      rfl
    show print _ (lit ";JWT=" ++ replicate 2026 (ch '1')) = _
    rw [print]
    dsimp only
    rw [if_neg (by decide), if_neg (by decide), length, if_neg (by decide)]
    show some (DsnWriter.mk (_ ++ (lit ";JWT=" ++ replicate 2026 (ch '1')).take 2030) _) = _
    rw [cut]
    rfl
  rw [dsnToString_eq, pieces_withLast (nonempty_ones (by decide)), enclose_ones, foldlM_cons, first,
    text_withLast (nonempty_ones (by decide)), enclose_ones]
  show List.foldlM add ⟨lit "TCPIP=1", 7⟩ [sspsPiece, _] = _
  rw [foldlM_cons, second]
  show List.foldlM add ⟨lit "TCPIP=1;NO_SSPS=1", 17⟩ [_] = _
  rw [foldlM_cons, third]
  rfl

theorem not_survive_long : ¬(withLast (replicate 2026 (ch '1'))).StringsSurvive := by
  rintro ⟨writer, written, -, same⟩
  rw [dsnToString_long, some.injEq] at written
  subst written
  have shorter : 0 < 2025 := by decide
  have strings : (withLast (replicate 2025 (ch '1'))).StringsFaithful := by
    intro field _ value stored
    rw [eq_of_str_withLast stored]
    exact .inr (faithful_ones shorter)
  have kept := same .jwt (.inl rfl)
  have cut : (withLast (replicate 2025 (ch '1'))).str .jwt = some (replicate 2025 (ch '1')) := rfl
  have whole : (withLast (replicate 2026 (ch '1'))).str .jwt = some (replicate 2026 (ch '1')) := rfl
  have stored : Option.filter (· ≠ []) (some (replicate 2025 (ch '1'))) = some (replicate 2025 (ch '1')) :=
    Option.filter_some_pos (decide_eq_true (nonempty_ones shorter))
  dsimp only at kept
  rw [strings.parseConnString_text, str_assignPieces _ _ (.inl rfl), cut, whole, stored, some_or,
    some.injEq] at kept
  have lengths := congrArg length kept
  rw [length_replicate, length_replicate] at lengths
  omega

end Dsn

/-! ### When the strings survive -/

/-- **When the strings survive.** The records whose strings are faithful, or one other value, and whose text is not
longer than a bound: their strings survive exactly if the bound is that of the buffer, and the other value is faithful
too. -/
theorem strings_survive_iff (value : Text) (nulFree : 0 ∉ value) (room : Nat) :
    (∀ dsn : Dsn, dsn.NumbersRead →
      (∀ field, field.type = .string ∨ field.type = .combo → ∀ other, dsn.str field = some other →
        0 ∉ other ∧ (other = value ∨ Faithful other)) →
      dsn.text.length ≤ value.length + 30 + room → dsn.StringsSurvive) ↔
    value.length + 30 + room < 2048 ∧ Faithful value := by
  have fresh : ∀ dsn : Dsn, dsn.byte = init.byte → dsn.int = init.int → dsn.NumbersRead :=
    fun dsn bytes ints => ⟨ch ';', [], bytes, ints⟩
  constructor
  · intro all
    have last : ∀ nonempty : value ≠ [], (withLast value).StringsSurvive := by
      intro nonempty
      refine all _ (fresh _ rfl rfl) (fun field _ other stored => ?_) ?_
      · rw [eq_of_str_withLast stored]
        exact ⟨nulFree, .inl rfl⟩
      · have := length_enclose value
        rw [length_withLast nonempty]
        omega
    have short : value.length + 30 + room < 2048 := by
      by_contra long
      have ones : 0 < 2026 := by decide
      refine not_survive_long (all _ (fresh _ rfl rfl) (fun field _ other stored => ?_) ?_)
      · rw [eq_of_str_withLast stored]
        refine ⟨fun zero => ?_, .inr (faithful_ones ones)⟩
        have := (mem_replicate.mp zero).2
        cases this
      · rw [length_withLast (nonempty_ones ones), enclose_ones, length_replicate]
        omega
    refine ⟨short, ?_⟩
    have nonempty : value ≠ [] := by
      rintro rfl
      refine not_survive_empty (all _ (fresh _ rfl rfl) (fun field _ other stored => ?_) ?_)
      · rw [eq_of_str_withLast stored]
        exact ⟨nulFree, .inl rfl⟩
      · have : (withLast []).text.length = 17 := rfl
        omega
    have length := length_enclose value
    refine ⟨nonempty, trimmed_of_survive (last nonempty), ?_⟩
    by_contra plain
    by_cases inside : isSpecial value = true → ∀ before, value = before ++ [ch '\x7d'] → ch '\x7d' ∈ before
    · refine not_survive_withLast nonempty ?_ plain inside (last nonempty)
      rw [length_withLast nonempty]
      omega
    · push Not at inside
      obtain ⟨special, before, rfl, none⟩ := inside
      have bound := length_withFirst nonempty
      refine not_survive_withFirst none special (by omega) (all _ (fresh _ rfl rfl) (fun field _ other stored => ?_) ?_)
      · rw [withFirst, str_setStr, str_setStr, update_apply] at stored
        split at stored
        · rw [← some.inj stored]
          exact ⟨by decide, .inr (by decide)⟩
        · rw [eq_of_str_update stored]
          exact ⟨nulFree, .inl rfl⟩
      · omega
  · rintro ⟨short, faithful⟩ dsn - strings bound
    refine stringsSurvive (by omega) fun field type other stored => ?_
    rcases (strings field type other stored).2 with same | good
    · rw [same]
      exact faithful
    · exact good

/-- A value with blanks, `=` and an opening bracket survives. -/
theorem strings_survive_blanks : 0 ∉ lit "a = \x7bb" ∧ ∀ dsn : Dsn, dsn.NumbersRead →
    (∀ field, field.type = .string ∨ field.type = .combo → ∀ other, dsn.str field = some other →
      0 ∉ other ∧ (other = lit "a = \x7bb" ∨ Faithful other)) →
    dsn.text.length ≤ 1000 → dsn.StringsSurvive := by
  refine ⟨by decide, fun dsn numbers strings short => ?_⟩
  exact (strings_survive_iff (lit "a = \x7bb") (by decide) 964).mpr ⟨by decide, by decide⟩ dsn numbers strings short

/-- A password with a blank and a closing bracket is cut. -/
theorem strings_survive_bracket : (init.setStr .password (lit "a \x7db")).NumbersRead ∧
    ¬(init.setStr .password (lit "a \x7db")).StringsSurvive := by
  refine ⟨⟨ch ';', [], rfl, rfl⟩, ?_⟩
  rintro ⟨writer, written, -, same⟩
  have text : (init.setStr .password (lit "a \x7db")).dsnToString =
      some ⟨lit "TCPIP=1;PWD=\x7ba \x7db\x7d;NO_SSPS=1", 28⟩ := rfl
  rw [text, some.injEq] at written
  subst written
  have kept := same .password (.inl rfl)
  have read : (parseConnString (ch ';') .init (lit "TCPIP=1;PWD=\x7ba \x7db\x7d;NO_SSPS=1")).2.str .password =
      some (lit "a") := by
    decide +kernel
  dsimp only at kept
  rw [read] at kept
  exact absurd kept (by decide)

end MaOdbc
