/-
**C strings as lists of bytes.**

A C string is the list of its bytes before the terminating NUL. `strchr` and `strstr` give the
offset of the first hit; `matchesNoCase` is `strncasecmp(text, pattern, strlen(pattern)) == 0`; the
blanks are those of the "C" locale (space, tab, newline, vertical tab, form feed, return). A text
that holds NULs is a row of C strings: `cstr` is the first of them.
-/

import Mathlib.Algebra.Group.Int.Defs
import Mathlib.Algebra.GroupWithZero.Nat
import Mathlib.Tactic.Common
import Mathlib.Data.List.Basic
import Mathlib.Data.List.TakeWhile
import Mathlib.Data.List.Infix
import Mathlib.Data.List.DropRight

namespace MaOdbc

open List

/-- A `char` of the source. -/
abbrev Byte := UInt8

abbrev Text := List Byte

/-- What holds for the bytes of a text is decided by going through the text, not through all bytes. -/
instance (priority := high) decidableForallMem (property : Byte → Prop) [DecidablePred property] (text : Text) :
    Decidable (∀ byte ∈ text, property byte) :=
  List.decidableBAll property text

/-- The byte of an ASCII character. -/
def ch (c : Char) : Byte := c.toNat.toUInt8

def lit (s : String) : Text := s.toList.map ch

/-- `isspace` and `iswspace` in the "C" locale. -/
def isSpace (b : Byte) : Bool := b == 32 || (9 ≤ b && b ≤ 13)

/-- `isalpha` in the "C" locale. -/
def isAlpha (b : Byte) : Bool := (65 ≤ b && b ≤ 90) || (97 ≤ b && b ≤ 122)

/-- `iscntrl` in the "C" locale. -/
def isControl (b : Byte) : Bool := b < 32 || b == 127

/-- `tolower` in the "C" locale. -/
def lower (b : Byte) : Byte := if 65 ≤ b && b ≤ 90 then b + 32 else b

/-- `strchr`: the offset of the first occurrence of a byte. -/
def strchr (text : Text) (byte : Byte) : Option Nat := text.findIdx? (· == byte)

/-- `strstr`: the offset of the first occurrence of a pattern. -/
def strstr : Text → Text → Option Nat
  | [], pattern => if pattern = [] then some 0 else none
  | byte :: text, pattern =>
    if pattern.isPrefixOf (byte :: text) then some 0 else (strstr text pattern).map (· + 1)

/-- `strncasecmp(text, pattern, strlen(pattern)) == 0`. -/
def matchesNoCase (text pattern : Text) : Bool :=
  (pattern.map lower).isPrefixOf (text.map lower)

def ltrim (text : Text) : Text := text.dropWhile isSpace

def rtrim (text : Text) : Text := text.rdropWhile isSpace

def trim (text : Text) : Text := rtrim (ltrim text)

def cstr (text : Text) : Text := text.takeWhile (· != 0)

theorem pair_isPrefixOf_cons (first second byte : Byte) (text : Text) :
    [first, second].isPrefixOf (byte :: text) = true ↔
      byte = first ∧ text.head? = some second := by
  cases text with
  | nil => simp [List.isPrefixOf]
  | cons next text =>
    simp only [List.isPrefixOf, Bool.and_true, Bool.and_eq_true, beq_iff_eq, head?_cons,
      Option.some.injEq]
    exact and_congr eq_comm eq_comm

variable {byte : Byte} {position : Nat}

theorem isAlpha_of_lower (letter : isAlpha (lower byte) = true) : isAlpha byte = true := by
  rw [lower] at letter
  split at letter
  · rename_i upper
    rw [isAlpha, upper, Bool.true_or]
  · exact letter

theorem not_isSpace_of_isAlpha (letter : isAlpha byte = true) : isSpace byte = false := by
  simp only [isAlpha, Bool.or_eq_true, Bool.and_eq_true, decide_eq_true_eq,
    UInt8.le_iff_toNat_le] at letter
  simp only [isSpace, Bool.or_eq_false_iff, beq_eq_false_iff_ne, ne_eq, Bool.and_eq_false_iff,
    decide_eq_false_iff_not, UInt8.le_iff_toNat_le, ← UInt8.toNat_inj]
  simp only [UInt8.reduceToNat] at letter ⊢
  omega

/-! ### The first string, and what is found in it -/

variable {text : Text}

theorem cstr_append (nulFree : 0 ∉ text) (rest : Text) :
    cstr (text ++ rest) = text ++ cstr rest := by
  refine takeWhile_append_of_pos fun byte member => ?_
  rw [bne_iff_ne]
  rintro rfl
  exact nulFree member

theorem cstr_append_nul (nulFree : 0 ∉ text) (rest : Text) : cstr (text ++ 0 :: rest) = text := by
  rw [cstr_append nulFree]
  exact append_nil text

theorem cstr_of_nulFree (nulFree : 0 ∉ text) : cstr text = text := by
  have whole := cstr_append nulFree []
  rw [append_nil] at whole
  exact whole.trans (append_nil text)

theorem cstr_cases (text : Text) : (0 ∉ text ∧ cstr text = text) ∨ ∃ rest, text = cstr text ++ 0 :: rest := by
  induction text with
  | nil => exact Or.inl ⟨not_mem_nil, rfl⟩
  | cons byte text ih =>
    by_cases nul : byte = 0
    · exact Or.inr ⟨text, by rw [nul]; rfl⟩
    · have first : cstr (byte :: text) = byte :: cstr text := takeWhile_cons_of_pos (by simpa using nul)
      rw [first]
      rcases ih with ⟨nulFree, whole⟩ | ⟨rest, split⟩
      · exact Or.inl ⟨not_mem_cons_of_ne_of_not_mem (Ne.symm nul) nulFree, by rw [whole]⟩
      · exact Or.inr ⟨rest, congrArg (byte :: ·) split⟩

theorem nulFree_cstr (text : Text) : 0 ∉ cstr text := by
  intro member
  have nonzero := mem_takeWhile_imp member
  exact absurd rfl (bne_iff_ne.mp nonzero)

theorem cstr_append_of_nul (nul : 0 ∈ text) (rest : Text) : cstr (text ++ rest) = cstr text := by
  rcases cstr_cases text with ⟨nulFree, -⟩ | ⟨after, split⟩
  · exact absurd nul nulFree
  · conv_lhs => rw [split, append_assoc, cons_append]
    exact cstr_append_nul (nulFree_cstr text) _

theorem strchr_eq_none (apart : byte ∉ text) : strchr text byte = none := by
  rw [strchr, findIdx?_eq_none_iff]
  intro other member
  rw [beq_eq_false_iff_ne]
  rintro rfl
  exact apart member

theorem strchr_append_cons (apart : byte ∉ text) (rest : Text) :
    strchr (text ++ byte :: rest) byte = some text.length := by
  have none := strchr_eq_none apart
  rw [strchr] at none ⊢
  rw [findIdx?_append, none, findIdx?_cons, beq_self_eq_true, if_pos rfl, Option.map_some, Nat.zero_add]
  rfl

variable {pattern : Text}

theorem strstr_add_length_le (found : strstr text pattern = some position) :
    position + pattern.length ≤ text.length := by
  induction text generalizing position with
  | nil =>
    rw [strstr] at found
    split at found
    · rename_i empty
      cases found
      simp [empty]
    · cases found
  | cons byte text ih =>
    rw [strstr] at found
    split at found
    · rename_i here
      cases found
      rw [Nat.zero_add]
      exact ( isPrefixOf_iff_prefix.mp here).length_le
    · obtain ⟨later, earlier, rfl⟩ := Option.map_eq_some_iff.mp found
      have inside := ih earlier
      rw [length_cons]
      omega

/-! ### Trimmed texts -/

theorem length_trim_le (text : Text) : (trim text).length ≤ text.length :=
  Nat.le_trans ( rdropWhile_prefix _ _).length_le (dropWhile_suffix _).length_le

theorem ltrim_trim (text : Text) : ltrim (trim text) = trim text := by
  rw [ltrim, dropWhile_eq_self_iff]
  intro inside blank
  obtain ⟨rest, whole⟩ : ∃ rest, trim text ++ rest = ltrim text := rdropWhile_prefix isSpace _
  have longer : 0 < (ltrim text).length := by
    rw [← whole, length_append]
    omega
  have head : (ltrim text)[0] = (trim text)[0] := by
    simp only [← whole, getElem_append_left inside]
  have idem : (ltrim text).dropWhile isSpace = ltrim text := dropWhile_idempotent _ _
  rw [dropWhile_eq_self_iff] at idem
  exact idem longer (by rw [head]; exact blank)

theorem trim_trim (text : Text) : trim (trim text) = trim text := by
  rw [trim, ltrim_trim]
  exact rdropWhile_idempotent _ _

theorem trim_ltrim (text : Text) : trim (ltrim text) = trim text := by
  rw [trim, trim, ltrim, ltrim, dropWhile_idempotent]

theorem ltrim_of_trimmed (trimmed : trim text = text) : ltrim text = text := by
  rw [← trimmed]
  exact ltrim_trim text

theorem trim_eq_self (apart : ∀ byte ∈ text, isSpace byte = false) : trim text = text := by
  have left : ltrim text = text := by
    rw [ltrim, dropWhile_eq_self_iff]
    intro inside
    rw [apart _ (getElem_mem inside)]
    exact Bool.false_ne_true
  have right : rtrim text = text := by
    rw [rtrim, rdropWhile_eq_self_iff]
    intro nonempty
    rw [apart _ (getLast_mem nonempty)]
    exact Bool.false_ne_true
  rw [trim, left, right]

end MaOdbc
