/-
**Base64.** Three bytes are four digits. `base64` is the standard encoding, whose last group is filled up with `=`;
`base64Url` has the alphabet for addresses, and no padding. `base64Decode` reads the standard encoding.
-/

import MaOdbc.Library.CText

namespace MaOdbc

open List

def base64Digit (value : Nat) : Byte :=
  if value < 26 then UInt8.ofNat (65 + value)
  else if value < 52 then UInt8.ofNat (71 + value)
  else if value < 62 then UInt8.ofNat (value - 4)
  else if value = 62 then ch '+'
  else ch '/'

def base64Digits : Text → Text
  | a :: b :: c :: bytes =>
    base64Digit (a.toNat / 4) :: base64Digit (a.toNat % 4 * 16 + b.toNat / 16) ::
      base64Digit (b.toNat % 16 * 4 + c.toNat / 64) :: base64Digit (c.toNat % 64) :: base64Digits bytes
  | [a, b] =>
    [base64Digit (a.toNat / 4), base64Digit (a.toNat % 4 * 16 + b.toNat / 16), base64Digit (b.toNat % 16 * 4)]
  | [a] => [base64Digit (a.toNat / 4), base64Digit (a.toNat % 4 * 16)]
  | [] => []

def base64 (bytes : Text) : Text :=
  base64Digits bytes ++ List.replicate ((3 - bytes.length % 3) % 3) (ch '=')

def toUrl (digit : Byte) : Byte := if digit = ch '+' then ch '-' else if digit = ch '/' then ch '_' else digit

def base64Url (bytes : Text) : Text := (base64Digits bytes).map toUrl

theorem length_base64Digits (bytes : Text) : (base64Digits bytes).length = (4 * bytes.length + 2) / 3 := by
  fun_induction base64Digits bytes with
  | case1 a b c bytes ih =>
    simp only [length_cons, ih]
    omega
  | case2 a b => simp
  | case3 a => simp
  | case4 => rfl

theorem forall_mem_base64Digits {property : Byte → Prop} (all : ∀ value < 64, property (base64Digit value))
    (bytes : Text) : ∀ digit ∈ base64Digits bytes, property digit := by
  have small : ∀ byte : Byte, byte.toNat < 256 := fun byte => byte.toNat_lt
  fun_induction base64Digits bytes with
  | case1 a b c bytes ih =>
    have := small a
    have := small b
    have := small c
    simp only [forall_mem_cons]
    exact ⟨all _ (by omega), all _ (by omega), all _ (by omega), all _ (by omega), ih⟩
  | case2 a b =>
    have := small a
    have := small b
    simp only [forall_mem_cons]
    exact ⟨all _ (by omega), all _ (by omega), all _ (by omega), forall_mem_nil _⟩
  | case3 a =>
    have := small a
    simp only [forall_mem_cons]
    exact ⟨all _ (by omega), all _ (by omega), forall_mem_nil _⟩
  | case4 => exact forall_mem_nil _

/-! ### Decoding -/

def base64Value (digit : Byte) : Nat := (List.range 64).findIdx fun value => base64Digit value == digit

def base64Decode : Text → Text
  | a :: b :: c :: d :: text =>
    let first := UInt8.ofNat (base64Value a * 4 + base64Value b / 16)
    let second := UInt8.ofNat (base64Value b % 16 * 16 + base64Value c / 4)
    let third := UInt8.ofNat (base64Value c % 4 * 64 + base64Value d)
    if c = ch '=' then [first]
    else if d = ch '=' then [first, second]
    else first :: second :: third :: base64Decode text
  | _ => []

theorem base64Value_digit {value : Nat} (small : value < 64) :
    base64Value (base64Digit value) = value ∧ base64Digit value ≠ ch '=' := by
  have all : ∀ value < 64, base64Value (base64Digit value) = value ∧ base64Digit value ≠ ch '=' := by
    decide +kernel
  exact all value small

theorem base64Decode_base64 (bytes : Text) : base64Decode (base64 bytes) = bytes := by
  have small : ∀ byte : Byte, byte.toNat < 256 := fun byte => byte.toNat_lt
  have whole : ∀ (byte : Byte) {value : Nat}, value = byte.toNat → UInt8.ofNat value = byte := by
    rintro byte value rfl
    exact UInt8.ofNat_toNat
  rw [base64]
  fun_induction base64Digits bytes with
  | case1 a b c bytes ih =>
    have := small a
    have := small b
    have := small c
    have padding : (a :: b :: c :: bytes).length % 3 = bytes.length % 3 := Nat.add_mod_right _ 3
    have d0 := base64Value_digit (show a.toNat / 4 < 64 by omega)
    have d1 := base64Value_digit (show a.toNat % 4 * 16 + b.toNat / 16 < 64 by omega)
    have d2 := base64Value_digit (show b.toNat % 16 * 4 + c.toNat / 64 < 64 by omega)
    have d3 := base64Value_digit (show c.toNat % 64 < 64 by omega)
    rw [padding, cons_append, cons_append, cons_append, cons_append, base64Decode, if_neg d2.2, if_neg d3.2,
      d0.1, d1.1, d2.1, d3.1, ih, whole a (by omega), whole b (by omega), whole c (by omega)]
  | case2 a b =>
    have := small a
    have := small b
    have d0 := base64Value_digit (show a.toNat / 4 < 64 by omega)
    have d1 := base64Value_digit (show a.toNat % 4 * 16 + b.toNat / 16 < 64 by omega)
    have d2 := base64Value_digit (show b.toNat % 16 * 4 < 64 by omega)
    show base64Decode [_, _, _, ch '='] = _
    rw [base64Decode, if_neg d2.2, if_pos rfl, d0.1, d1.1, d2.1, whole a (by omega), whole b (by omega)]
  | case3 a =>
    have := small a
    have d0 := base64Value_digit (show a.toNat / 4 < 64 by omega)
    have d1 := base64Value_digit (show a.toNat % 4 * 16 < 64 by omega)
    show base64Decode [_, _, ch '=', ch '='] = _
    rw [base64Decode, if_pos rfl, d0.1, d1.1, whole a (by omega)]
  | case4 => rfl

end MaOdbc
