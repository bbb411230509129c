/-
**Texts of characters in UTF-8 and UTF-16.**

A text is a list of characters, `utf8` its bytes and `utf16` its code units. Both encode the characters one by
one; a text has a zero byte, or a zero unit, exactly if it has the character 0.
-/

import MaOdbc.Library.CText

namespace MaOdbc

open List

def nulChar : Char := Char.ofNat 0

/-- The code units of a character: those beyond the basic plane take two. -/
def utf16Char (c : Char) : List UInt16 :=
  if c.toNat < 0x10000 then [UInt16.ofNat c.toNat]
  else
    [UInt16.ofNat (0xD800 + (c.toNat - 0x10000) / 0x400), UInt16.ofNat (0xDC00 + (c.toNat - 0x10000) % 0x400)]

def utf16 (chars : List Char) : List UInt16 := chars.flatMap utf16Char

def utf8 (chars : List Char) : Text := chars.flatMap String.utf8EncodeChar

theorem toNat_lt (c : Char) : c.toNat < 0x110000 := by
  rcases c.valid with low | high
  · exact Nat.lt_trans low (by decide)
  · exact high.2

theorem utf16Char_ne_nil (c : Char) : utf16Char c ≠ [] := by
  rw [utf16Char]
  split
  · exact cons_ne_nil _ _
  · exact cons_ne_nil _ _

variable {c : Char} {chars : List Char}

theorem eq_nulChar (zero : c.toNat = 0) : c = nulChar := by
  apply Char.ext
  exact UInt32.toNat_inj.mp zero

theorem zero_mem_utf16Char : 0 ∈ utf16Char c ↔ c = nulChar := by
  constructor
  · intro member
    rw [utf16Char] at member
    have small := toNat_lt c
    split at member
    · rename_i basic
      have zero := congrArg UInt16.toNat (mem_singleton.mp member)
      rw [UInt16.toNat_ofNat_of_lt' basic] at zero
      exact eq_nulChar zero.symm
    · simp only [mem_cons, not_mem_nil, or_false] at member
      rcases member with zero | zero
      · have equal := congrArg UInt16.toNat zero
        rw [UInt16.toNat_ofNat_of_lt' (show _ < 0x10000 by omega)] at equal
        exact absurd equal (show ¬ (0 : Nat) = _ by omega)
      · have equal := congrArg UInt16.toNat zero
        rw [UInt16.toNat_ofNat_of_lt' (show _ < 0x10000 by omega)] at equal
        exact absurd equal (show ¬ (0 : Nat) = _ by omega)
  · rintro rfl
    decide

theorem zero_mem_utf16 : 0 ∈ utf16 chars ↔ nulChar ∈ chars := by
  rw [utf16, mem_flatMap]
  constructor
  · rintro ⟨c, member, zero⟩
    rw [← zero_mem_utf16Char.mp zero]
    exact member
  · exact fun member => ⟨nulChar, member, zero_mem_utf16Char.mpr rfl⟩

def utf16Decode : List UInt16 → Option (List Char)
  | [] => some []
  | [unit] => if 0xD800 ≤ unit ∧ unit ≤ 0xDFFF then none else some [Char.ofNat unit.toNat]
  | unit :: next :: units =>
    if 0xD800 ≤ unit ∧ unit ≤ 0xDBFF then
      if 0xDC00 ≤ next ∧ next ≤ 0xDFFF then
        (utf16Decode units).map
          (Char.ofNat (0x10000 + (unit.toNat - 0xD800) * 0x400 + (next.toNat - 0xDC00)) :: ·)
      else none
    else if 0xDC00 ≤ unit ∧ unit ≤ 0xDFFF then none
    else (utf16Decode (next :: units)).map (Char.ofNat unit.toNat :: ·)

theorem utf16Decode_cons_basic {unit : UInt16} (basic : ¬ (0xD800 ≤ unit ∧ unit ≤ 0xDFFF)) (units : List UInt16) :
    utf16Decode (unit :: units) = (utf16Decode units).map (Char.ofNat unit.toNat :: ·) := by
  have low : ¬ (0xD800 ≤ unit ∧ unit ≤ 0xDBFF) :=
    fun head => basic ⟨head.1, UInt16.le_trans head.2 (by decide)⟩
  have high : ¬ (0xDC00 ≤ unit ∧ unit ≤ 0xDFFF) :=
    fun head => basic ⟨UInt16.le_trans (by decide) head.1, head.2⟩
  cases units with
  | nil => exact if_neg basic
  | cons next units => rw [utf16Decode, if_neg low, if_neg high]

theorem utf16Decode_utf16 (chars : List Char) : utf16Decode (utf16 chars) = some chars := by
  induction chars with
  | nil => rfl
  | cons c chars ih =>
    have small := toNat_lt c
    rw [utf16, flatMap_cons, ← utf16, utf16Char]
    split
    · rename_i basic
      have exact : (UInt16.ofNat c.toNat).toNat = c.toNat := UInt16.toNat_ofNat_of_lt' basic
      have plain : ¬ (0xD800 ≤ UInt16.ofNat c.toNat ∧ UInt16.ofNat c.toNat ≤ 0xDFFF) := by
        rw [UInt16.le_iff_toNat_le, UInt16.le_iff_toNat_le, exact]
        show ¬ (0xD800 ≤ c.toNat ∧ c.toNat ≤ 0xDFFF)
        rcases c.valid with low | high
        · have below : c.toNat < 0xD800 := low
          omega
        · have above : 0xDFFF < c.toNat := high.1
          omega
      rw [singleton_append, utf16Decode_cons_basic plain, ih, exact, Char.ofNat_toNat]
      rfl
    · rename_i beyond
      -- the two halves of what lies beyond the basic plane
      obtain ⟨rest, split⟩ : ∃ rest, c.toNat = 0x10000 + rest := ⟨c.toNat - 0x10000, by omega⟩
      rw [split, Nat.add_sub_cancel_left]
      have head : (UInt16.ofNat (0xD800 + rest / 0x400)).toNat = 0xD800 + rest / 0x400 :=
        UInt16.toNat_ofNat_of_lt' (show _ < 0x10000 by omega)
      have tail : (UInt16.ofNat (0xDC00 + rest % 0x400)).toNat = 0xDC00 + rest % 0x400 :=
        UInt16.toNat_ofNat_of_lt' (show _ < 0x10000 by omega)
      have high : 0xD800 ≤ UInt16.ofNat (0xD800 + rest / 0x400) ∧
          UInt16.ofNat (0xD800 + rest / 0x400) ≤ 0xDBFF := by
        rw [UInt16.le_iff_toNat_le, UInt16.le_iff_toNat_le, head]
        show 0xD800 ≤ _ ∧ _ ≤ 0xDBFF
        omega
      have low : 0xDC00 ≤ UInt16.ofNat (0xDC00 + rest % 0x400) ∧
          UInt16.ofNat (0xDC00 + rest % 0x400) ≤ 0xDFFF := by
        rw [UInt16.le_iff_toNat_le, UInt16.le_iff_toNat_le, tail]
        show 0xDC00 ≤ _ ∧ _ ≤ 0xDFFF
        omega
      have whole : 0x10000 + rest / 0x400 * 0x400 + rest % 0x400 = c.toNat := by omega
      rw [cons_append, cons_append, nil_append, utf16Decode, if_pos high, if_pos low, ih, head,
        tail, Nat.add_sub_cancel_left, Nat.add_sub_cancel_left, whole, Char.ofNat_toNat]
      rfl

theorem length_utf16_le (chars : List Char) : (utf16 chars).length ≤ 2 * chars.length := by
  induction chars with
  | nil => exact Nat.le_refl 0
  | cons c chars ih =>
    have head : (utf16Char c).length ≤ 2 := by
      rw [utf16Char]
      split
      · exact Nat.le_succ 1
      · exact Nat.le_refl 2
    rw [utf16, flatMap_cons, length_append, ← utf16, length_cons]
    omega

theorem length_utf16_ge (chars : List Char) : chars.length ≤ (utf16 chars).length := by
  induction chars with
  | nil => exact Nat.le_refl 0
  | cons c chars ih =>
    have some := length_pos_of_ne_nil (utf16Char_ne_nil c)
    rw [utf16, flatMap_cons, length_append, ← utf16, length_cons]
    omega

theorem utf8_eq_nil (empty : utf8 chars = []) : chars = [] := by
  cases chars with
  | nil => rfl
  | cons c chars =>
    rw [utf8, flatMap_cons, append_eq_nil_iff] at empty
    exact absurd empty.1 String.utf8EncodeChar_ne_nil

/-! ### Zero bytes -/

theorem zero_mem_utf8EncodeChar : 0 ∈ String.utf8EncodeChar c ↔ c = nulChar := by
  have byte : ∀ value : Nat, 0 < value → value < 256 → (0 : UInt8) ≠ UInt8.ofNat value := by
    intro value positive small zero
    have equal := congrArg UInt8.toNat zero
    rw [UInt8.toNat_ofNat_of_lt' small] at equal
    exact absurd equal (Nat.ne_of_lt positive)
  constructor
  · intro member
    have small : c.val.toNat < 0x110000 := toNat_lt c
    rw [String.utf8EncodeChar] at member
    split at member
    · rename_i ascii
      have zero := congrArg UInt8.toNat (mem_singleton.mp member)
      rw [UInt8.toNat_ofNat_of_lt' (show _ < 256 by omega)] at zero
      exact eq_nulChar zero.symm
    · -- the other bytes have their high bit
      exfalso
      split at member
      · simp only [mem_cons, not_mem_nil, or_false] at member
        rcases member with zero | zero <;> exact byte _ (by omega) (by omega) zero
      · split at member
        · simp only [mem_cons, not_mem_nil, or_false] at member
          rcases member with zero | zero | zero <;> exact byte _ (by omega) (by omega) zero
        · simp only [mem_cons, not_mem_nil, or_false] at member
          rcases member with zero | zero | zero | zero <;> exact byte _ (by omega) (by omega) zero
  · rintro rfl
    decide

def untilNul (chars : List Char) : List Char := chars.takeWhile (· ≠ nulChar)

theorem untilNul_cons (nonzero : c ≠ nulChar) (chars : List Char) :
    untilNul (c :: chars) = c :: untilNul chars :=
  takeWhile_cons_of_pos (decide_eq_true nonzero)

theorem nulChar_not_mem_untilNul (chars : List Char) : nulChar ∉ untilNul chars := by
  intro member
  have kept := mem_takeWhile_imp (p := fun c => decide (c ≠ nulChar)) member
  exact of_decide_eq_true kept rfl

theorem untilNul_of_not_mem (nulFree : nulChar ∉ chars) : untilNul chars = chars := by
  refine takeWhile_eq_self_iff.mpr fun c member => decide_eq_true fun zero => nulFree ?_
  rw [← zero]
  exact member

theorem length_untilNul_lt (nul : nulChar ∈ chars) :
    (utf16 (untilNul chars)).length < (utf16 chars).length := by
  induction chars with
  | nil => exact absurd nul not_mem_nil
  | cons c chars ih =>
    have head := length_pos_of_ne_nil (utf16Char_ne_nil c)
    by_cases zero : c = nulChar
    · rw [untilNul, takeWhile_cons_of_neg (by simpa using zero), utf16, utf16, flatMap_nil,
        flatMap_cons, length_append, length_nil]
      omega
    · have later := ih ((mem_cons.mp nul).resolve_left (Ne.symm zero))
      rw [untilNul_cons zero, utf16, utf16, flatMap_cons, flatMap_cons, length_append,
        length_append, ← utf16, ← utf16]
      omega

theorem cstr_utf8 (chars : List Char) (memory : Text) :
    cstr (utf8 chars ++ 0 :: memory) = utf8 (untilNul chars) := by
  induction chars with
  | nil => rfl
  | cons c chars ih =>
    rw [utf8, flatMap_cons, ← utf8]
    by_cases zero : c = nulChar
    · rw [zero]
      rfl
    · have plain : ∀ byte ∈ String.utf8EncodeChar c, (byte != 0) = true := by
        intro byte member
        rw [bne_iff_ne]
        rintro rfl
        exact zero (zero_mem_utf8EncodeChar.mp member)
      rw [cstr, append_assoc, takeWhile_append_of_pos plain, ← cstr, ih, untilNul_cons zero]
      rfl

end MaOdbc
