/-
**Decimal numbers in texts.**

`decimal` writes a number, `strtol` and `strtoul` read one off the start of a text, as the C library does: blanks
and a sign may stand before the digits, and a number that is too large becomes the largest one.

* `strtoul_decimal`, `strtol_decimal`: what is written is read.
-/

import Mathlib.Data.Nat.Digits.Lemmas
import MaOdbc.Library.CText

namespace MaOdbc

open List

def isDigit (byte : Byte) : Bool := ch '0' ≤ byte && byte ≤ ch '9'

def decimal (n : Nat) : Text :=
  if n = 0 then [ch '0'] else (Nat.digits 10 n).reverse.map fun digit => UInt8.ofNat (48 + digit)

def readDigits (text : Text) : Nat :=
  (text.takeWhile isDigit).foldl (fun number byte => number * 10 + (byte.toNat - 48)) 0

def readNumber (text : Text) : Bool × Nat :=
  match ltrim text with
  | [] => (false, 0)
  | byte :: text =>
    if byte = ch '-' then (true, readDigits text)
    else if byte = ch '+' then (false, readDigits text)
    else (false, readDigits (byte :: text))

/-- `strtol` in base 10. -/
def strtol (text : Text) : Int :=
  match readNumber text with
  | (true, number) => -(min number (2 ^ 63) : Nat)
  | (false, number) => (min number (2 ^ 63 - 1) : Nat)

/-- `strtoul` in base 10. -/
def strtoul (text : Text) : Nat :=
  match readNumber text with
  | (negative, number) =>
    if 2 ^ 64 ≤ number then 2 ^ 64 - 1
    else if negative then (2 ^ 64 - number) % 2 ^ 64
    else number

/-- How many bytes `strtol` and `strtoul` read, 0 if there is no number: where `endptr` points. -/
def numberEnd (text : Text) : Nat :=
  let blanks := text.takeWhile isSpace
  let sign := ((ltrim text).take 1).filter fun byte => byte == ch '-' || byte == ch '+'
  let digits := ((ltrim text).drop sign.length).takeWhile isDigit
  if digits = [] then 0 else blanks.length + sign.length + digits.length

inductive Sign
  | none
  | plus
  | minus
  deriving DecidableEq, Repr

def Sign.text : Sign → Text
  | .none => []
  | .plus => [ch '+']
  | .minus => [ch '-']

structure IntegerText where
  sign : Sign
  digits : Text
  nonempty : digits ≠ []
  all : ∀ byte ∈ digits, isDigit byte = true

namespace IntegerText

def text (number : IntegerText) : Text := number.sign.text ++ number.digits

def value (number : IntegerText) : Int :=
  if number.sign = .minus then -(readDigits number.digits : Int) else readDigits number.digits

end IntegerText

/-! ### What is written is read -/

theorem isDigit_ofNat {digit : Nat} (small : digit < 10) : isDigit (UInt8.ofNat (48 + digit)) = true := by
  interval_cases digit <;> rfl

theorem toNat_digit {digit : Nat} (small : digit < 10) : (UInt8.ofNat (48 + digit)).toNat - 48 = digit := by
  interval_cases digit <;> rfl

theorem readDigits_map {digits : List Nat} (small : ∀ digit ∈ digits, digit < 10) :
    readDigits (digits.map fun digit => UInt8.ofNat (48 + digit)) =
      digits.foldl (fun number digit => number * 10 + digit) 0 := by
  have all : (digits.map fun digit => UInt8.ofNat (48 + digit)).takeWhile isDigit =
      digits.map fun digit => UInt8.ofNat (48 + digit) := by
    refine takeWhile_eq_self_iff.mpr fun byte member => ?_
    obtain ⟨digit, here, rfl⟩ := mem_map.mp member
    exact isDigit_ofNat (small digit here)
  rw [readDigits, all, foldl_map]
  have step : ∀ start : Nat, digits.foldl (fun number digit =>
      number * 10 + ((UInt8.ofNat (48 + digit)).toNat - 48)) start =
        digits.foldl (fun number digit => number * 10 + digit) start := by
    clear all
    induction digits with
    | nil => exact fun _ => rfl
    | cons digit digits ih =>
      obtain ⟨head, tail⟩ := forall_mem_cons.mp small
      intro start
      rw [foldl_cons, foldl_cons, toNat_digit head, ih tail]
  exact step 0

theorem readDigits_decimal (n : Nat) : readDigits (decimal n) = n := by
  rw [decimal]
  split
  · rename_i zero
    rw [zero]
    rfl
  · rw [readDigits_map fun digit member => Nat.digits_lt_base (by decide) (mem_reverse.mp member),
      foldl_reverse]
    have value : ∀ digits : List Nat,
        digits.foldr (fun digit number => number * 10 + digit) 0 = Nat.ofDigits 10 digits := by
      intro digits
      induction digits with
      | nil => rfl
      | cons digit digits ih =>
        rw [foldr_cons, ih, Nat.ofDigits_cons]
        ring
    rw [value, Nat.ofDigits_digits]

theorem isDigit_of_mem_decimal {n : Nat} {byte : Byte} (member : byte ∈ decimal n) : isDigit byte = true := by
  rw [decimal] at member
  split at member
  · rw [mem_singleton.mp member]
    rfl
  · obtain ⟨digit, here, rfl⟩ := mem_map.mp member
    exact isDigit_ofNat (Nat.digits_lt_base (by decide) (mem_reverse.mp here))

theorem decimal_cons (n : Nat) : ∃ byte text, decimal n = byte :: text ∧ isDigit byte = true := by
  cases text : decimal n with
  | nil =>
    exfalso
    rw [decimal] at text
    split at text
    · cases text
    · rename_i nonzero
      rw [map_eq_nil_iff, reverse_eq_nil_iff, Nat.digits_eq_nil_iff_eq_zero] at text
      exact nonzero text
  | cons byte rest =>
    exact ⟨byte, rest, rfl, isDigit_of_mem_decimal (by rw [text]; exact mem_cons_self)⟩

theorem apart_of_isDigit {byte : Byte} (digit : isDigit byte = true) :
    isSpace byte = false ∧ byte ≠ ch '-' ∧ byte ≠ ch '+' := by
  have all : ∀ value < 256, isDigit (UInt8.ofNat value) = true → isSpace (UInt8.ofNat value) = false ∧
      UInt8.ofNat value ≠ ch '-' ∧ UInt8.ofNat value ≠ ch '+' := by
    decide +kernel
  have here := all byte.toNat (UInt8.toNat_lt byte)
  rw [UInt8.ofNat_toNat] at here
  exact here digit

theorem readNumber_append (number : IntegerText) {rest : Text}
    (ends : ∀ byte ∈ rest.head?, isDigit byte = false) :
    readNumber (number.text ++ rest) = (number.sign == .minus, readDigits number.digits) := by
  obtain ⟨sign, digits, nonempty, all⟩ := number
  have behind : rest.takeWhile isDigit = [] := by
    cases rest with
    | nil => rfl
    | cons byte rest => exact takeWhile_cons_of_neg (by rw [ends byte rfl]; exact Bool.false_ne_true)
  have value : readDigits (digits ++ rest) = readDigits digits := by
    rw [readDigits, readDigits, takeWhile_append_of_pos all, behind, append_nil, takeWhile_eq_self_iff.mpr all]
  rw [readNumber, IntegerText.text, ltrim]
  cases sign with
  | none =>
    obtain ⟨byte, digits, rfl⟩ := exists_cons_of_ne_nil nonempty
    have apart := apart_of_isDigit (all byte mem_cons_self)
    rw [cons_append] at value
    rw [Sign.text, nil_append, cons_append, dropWhile_cons_of_neg (by rw [apart.1]; exact Bool.false_ne_true)]
    dsimp only
    rw [if_neg apart.2.1, if_neg apart.2.2, value]
    rfl
  | plus =>
    rw [Sign.text, singleton_append, cons_append, dropWhile_cons_of_neg (by decide)]
    dsimp only
    rw [if_neg (by decide), if_pos rfl, value]
    rfl
  | minus =>
    rw [Sign.text, singleton_append, cons_append, dropWhile_cons_of_neg (by decide)]
    dsimp only
    rw [if_pos rfl, value]
    rfl

theorem numberEnd_text (number : IntegerText) : numberEnd number.text = number.text.length := by
  obtain ⟨sign, digits, nonempty, all⟩ := number
  have whole : digits.takeWhile isDigit = digits := takeWhile_eq_self_iff.mpr all
  obtain ⟨byte, rest, rfl⟩ := exists_cons_of_ne_nil nonempty
  obtain ⟨space, minus, plus⟩ := apart_of_isDigit (all byte mem_cons_self)
  cases sign <;>
    simp [numberEnd, IntegerText.text, Sign.text, ltrim, space, minus, plus, whole,
      show isSpace (ch '-') = false from rfl, show isSpace (ch '+') = false from rfl] <;> omega

def IntegerText.ofNat (sign : Sign) (n : Nat) : IntegerText where
  sign := sign
  digits := decimal n
  nonempty := by
    obtain ⟨byte, text, written, -⟩ := decimal_cons n
    rw [written]
    exact cons_ne_nil byte text
  all := fun _ => isDigit_of_mem_decimal

theorem readNumber_ofNat (sign : Sign) (n : Nat) :
    readNumber (sign.text ++ decimal n) = (sign == .minus, n) := by
  have read : readNumber ((IntegerText.ofNat sign n).text ++ []) = (sign == .minus, readDigits (decimal n)) :=
    readNumber_append _ (by rintro _ ⟨⟩)
  rw [append_nil, readDigits_decimal] at read
  exact read

theorem readNumber_decimal (n : Nat) : readNumber (decimal n) = (false, n) :=
  readNumber_ofNat .none n

theorem strtoul_decimal {n : Nat} (small : n < 2 ^ 64) : strtoul (decimal n) = n := by
  rw [strtoul, readNumber_decimal]
  dsimp only
  rw [if_neg (by omega), if_neg Bool.false_ne_true]

theorem strtoul_negative {n : Nat} (small : n < 2 ^ 64) :
    strtoul (ch '-' :: decimal n) = (2 ^ 64 - n) % 2 ^ 64 := by
  rw [strtoul, show readNumber (ch '-' :: decimal n) = (true, n) from readNumber_ofNat .minus n]
  dsimp only
  rw [if_neg (by omega), if_pos rfl]

theorem strtol_decimal {n : Nat} (small : n < 2 ^ 63) : strtol (decimal n) = n := by
  rw [strtol, readNumber_decimal]
  dsimp only
  rw [Nat.min_eq_left (by omega)]

end MaOdbc
