/-
**The bytes of a numeric.**

`MADB_CharToSQLNumeric` ends with a loop that halves the digits it has collected, again and again. What each pass
leaves over is the next bit; eight of them make a byte of `SQL_NUMERIC_STRUCT.val`, and the fifteenth byte ends the
loop.

* `halveDigits_value`: a pass halves the number.
* `Halving.Sound`: the bytes that are stored, the bits that wait and the digits that are left make up the number.
* **`charToSQLNumeric_val`**: `val` gets the lowest 120 bits of the number, from the lowest byte on.
-/

import Mathlib.Tactic.Ring
import MaOdbc.Library.CText
import MaOdbc.Library.Loop

namespace MaOdbc.Numeric

open List

/-- The inner loop, from the digit at `sta` on, with `dig` carried over. It gives the digits of the half and what is
left over; `first` says that `i == sta`, and a zero there is dropped by `sta++`. -/
def halveDigits (first : Bool) (dig : Nat) : List Nat → List Nat × Nat
  | [] => ([], dig)
  | digit :: digits =>
    let tv := dig * 10 + digit
    let dropped := first && tv < 2
    let rest := halveDigits dropped (tv % 2) digits
    (if dropped then rest.1 else tv / 2 :: rest.1, rest.2)

/-- The variables of the outer loop: the digits from `sta` on, and the bytes of `val` below `olen`. -/
structure Halving where
  digits : List Nat
  hval : Nat
  bit : Nat
  val : List Byte
  deriving DecidableEq, Repr

namespace Halving

def round (loop : Halving) : Halving :=
  let pass := halveDigits true 0 loop.digits
  let hval := if pass.2 > 0 then loop.hval ||| loop.bit else loop.hval
  let bit := loop.bit <<< 1
  if bit ≥ 1 <<< 8 then { digits := pass.1, hval := 0, bit := 1, val := loop.val ++ [UInt8.ofNat hval] }
  else { loop with digits := pass.1, hval := hval, bit := bit }

/-- The loop goes on while digits are left and `val` has room. -/
def running (loop : Halving) : Bool := loop.digits ≠ [] && loop.val.length < 15

/-- The bytes of `val` after the last ones are stored; it was zero before. -/
def stored (loop : Halving) : List Byte :=
  let val := if loop.hval ≠ 0 ∧ loop.val.length < 15 then loop.val ++ [UInt8.ofNat loop.hval] else loop.val
  val ++ replicate (16 - val.length) 0

end Halving

/-- The loop behind the digits, in at most `fuel` rounds. -/
def halving (fuel : Nat) (digits : List Nat) : Halving :=
  whileLoop Halving.running Halving.round fuel { digits := digits, hval := 0, bit := 1, val := [] }

/-- The number that starts with `start` and goes on with the digits. -/
def number (start : Nat) (digits : List Nat) : Nat := digits.foldl (fun number digit => number * 10 + digit) start

/-- **A pass halves** the number; `half` stands before the digits, where a zero at the start has nothing. -/
theorem halveDigits_value {first : Bool} {dig : Nat} {digits : List Nat} {half : Nat} (bit : dig < 2)
    (alone : first = true → half = 0) :
    number (2 * half + dig) digits =
        2 * number half (halveDigits first dig digits).1 + (halveDigits first dig digits).2 ∧
      (halveDigits first dig digits).2 < 2 := by
  induction digits generalizing first dig half with
  | nil => exact ⟨rfl, bit⟩
  | cons digit digits ih =>
    have even : (dig * 10 + digit) % 2 < 2 := Nat.mod_lt _ two_pos
    have next : (2 * half + dig) * 10 + digit =
        2 * (half * 10 + (dig * 10 + digit) / 2) + (dig * 10 + digit) % 2 := by omega
    rw [halveDigits, number, foldl_cons, ← number, next]
    cases dropped : first && decide (dig * 10 + digit < 2) with
    | false => exact ih even (by simp)
    | true =>
      obtain ⟨started, small⟩ := by simpa using dropped
      have zero : half * 10 + (dig * 10 + digit) / 2 = 0 := by
        rw [alone started]
        omega
      rw [alone started] at zero ⊢
      rw [zero]
      exact ih even fun _ => rfl

/-- A byte of the lowest 120 bits of a number. -/
def byteAt (v i : Nat) : Byte := UInt8.ofNat (v % 2 ^ 120 / 256 ^ i)

theorem byteAt_of_lt {v i : Nat} (small : i < 15) : byteAt v i = UInt8.ofNat (v / 256 ^ i) := by
  have split : 2 ^ 120 = 256 ^ i * 256 ^ (15 - i) := by
    rw [← pow_add, Nat.add_sub_cancel' small.le]
    norm_num
  have whole : 256 ∣ 256 ^ (15 - i) := dvd_pow_self 256 (by omega)
  refine UInt8.toNat_inj.mp ?_
  rw [byteAt, split, Nat.mod_mul_right_div_self, UInt8.toNat_ofNat', UInt8.toNat_ofNat']
  exact Nat.mod_mod_of_dvd _ whole

theorem bytes_append {v : Nat} {val : List Byte} {hval rest : Nat} (bytes : val = (range val.length).map (byteAt v))
    (room : val.length < 15) (next : v / 256 ^ val.length = hval + 256 * rest) :
    val ++ [UInt8.ofNat hval] = (range (val ++ [UInt8.ofNat hval]).length).map (byteAt v) ∧
      v / 256 ^ (val ++ [UInt8.ofNat hval]).length = (hval + 256 * rest) / 256 := by
  have byte : UInt8.ofNat hval = byteAt v val.length := by
    rw [byteAt_of_lt room, next, ← UInt8.toNat_inj, UInt8.toNat_ofNat', UInt8.toNat_ofNat']
    omega
  rw [length_append, length_singleton]
  constructor
  · rw [range_succ, map_append, ← bytes, map_singleton, ← byte]
  · rw [pow_succ, ← Nat.div_div_eq_div_mul, next]

/-- What is stored, what waits and what is left make up the number. -/
structure Halving.Sound (v : Nat) (loop : Halving) : Prop where
  bits : ∃ k < 8, loop.bit = 2 ^ k
  waiting : loop.hval < loop.bit
  left : v / 256 ^ loop.val.length = loop.hval + loop.bit * number 0 loop.digits
  val : loop.val = (range loop.val.length).map (byteAt v)
  room : loop.val.length ≤ 15

def Halving.rank (loop : Halving) : Nat := 8 * (15 - loop.val.length) - loop.bit.log2

theorem Halving.Sound.round {v : Nat} {loop : Halving} (sound : loop.Sound v) (running : loop.running = true) :
    loop.round.Sound v ∧ loop.round.rank < loop.rank := by
  obtain ⟨⟨k, small, bit⟩, waiting, left, val, -⟩ := sound
  have room : loop.val.length < 15 := by
    simp only [Halving.running, Bool.and_eq_true, decide_eq_true_eq] at running
    exact running.2
  obtain ⟨halved, odd⟩ := @halveDigits_value true 0 loop.digits 0 two_pos fun _ => rfl
  rw [Halving.round]
  generalize halveDigits true 0 loop.digits = pass at halved odd
  -- what is left over stands above the bits that wait
  have added : (if pass.2 > 0 then loop.hval ||| loop.bit else loop.hval) = loop.hval + loop.bit * pass.2 := by
    rw [bit] at waiting ⊢
    split
    · have above := Nat.two_pow_add_eq_or_of_lt waiting 1
      rw [show pass.2 = 1 by omega, mul_one, Nat.or_comm, Nat.add_comm]
      rw [mul_one] at above
      exact above.symm
    · rw [show pass.2 = 0 by omega]
      rfl
  have below : loop.hval + loop.bit * pass.2 < 2 * loop.bit := by
    have := Nat.mul_le_mul_left loop.bit (Nat.le_of_lt_succ odd)
    omega
  have next : v / 256 ^ loop.val.length = loop.hval + loop.bit * pass.2 + 2 * loop.bit * number 0 pass.1 := by
    rw [left, show number 0 loop.digits = _ from halved]
    ring
  have twice : loop.bit <<< 1 = 2 * loop.bit := by
    rw [Nat.shiftLeft_eq]
    ring
  simp only [added, twice]
  split
  · rename_i full
    have last : k = 7 := by
      by_contra other
      have : 2 ^ k ≤ 2 ^ 6 := Nat.pow_le_pow_right two_pos (by omega)
      omega
    rw [last] at bit
    rw [bit] at below next ⊢
    obtain ⟨bytes, rest⟩ := bytes_append val room next
    refine ⟨⟨⟨0, by omega, rfl⟩, one_pos, ?_, bytes, ?_⟩, ?_⟩
    · rw [rest]
      dsimp only
      omega
    · rw [length_append]
      exact room
    · simp only [Halving.rank, length_append, length_singleton, bit, Nat.log2_two_pow]
      simp
      omega
  · rename_i short
    have early : k < 7 := by
      by_contra other
      rw [bit, show k = 7 by omega] at short
      exact short (by decide)
    rw [bit] at below next ⊢
    refine ⟨⟨⟨k + 1, by omega, by rw [pow_succ']⟩, below, next, val, room.le⟩, ?_⟩
    simp only [Halving.rank, bit, ← pow_succ', Nat.log2_two_pow]
    omega

theorem append_zeros {v : Nat} {val : List Byte} (bytes : val = (range val.length).map (byteAt v))
    (room : val.length ≤ 15) (rest : v % 2 ^ 120 / 256 ^ val.length = 0) :
    val ++ replicate (16 - val.length) 0 = (range 15).map (byteAt v) ++ [0] := by
  obtain ⟨count, total⟩ := Nat.exists_eq_add_of_le room
  have zeros : (range count).map (fun i => byteAt v (val.length + i)) = replicate count 0 := by
    refine eq_replicate_iff.mpr ⟨by simp, fun byte member => ?_⟩
    obtain ⟨i, -, rfl⟩ := mem_map.mp member
    rw [byteAt, pow_add, ← Nat.div_div_eq_div_mul, rest, Nat.zero_div]
    rfl
  rw [total, range_add, map_append, ← bytes, map_map, Function.comp_def, zeros, append_assoc, ← replicate_succ']
  congr 2
  omega

theorem Halving.Sound.stored {v : Nat} {loop : Halving} (sound : loop.Sound v) (ended : loop.running = false) :
    loop.stored = (range 15).map (byteAt v) ++ [0] := by
  obtain ⟨⟨k, small, bit⟩, waiting, left, val, room⟩ := sound
  rw [Halving.stored]
  by_cases full : loop.val.length < 15
  · have empty : loop.digits = [] := by simpa [Halving.running, full] using ended
    rw [empty, number, foldl_nil, mul_zero, add_zero] at left
    have byte : loop.hval < 256 := by
      have : 2 ^ k ≤ 2 ^ 7 := Nat.pow_le_pow_right two_pos (by omega)
      omega
    split
    · obtain ⟨bytes, rest⟩ := @bytes_append v loop.val loop.hval 0 val full left
      refine append_zeros bytes ?_ (Nat.eq_zero_of_le_zero ?_)
      · rw [length_append]
        exact full
      · calc _ ≤ _ := Nat.div_le_div_right (Nat.mod_le v _)
          _ = 0 := by
            rw [rest]
            omega
    · rename_i none
      have zero : loop.hval = 0 := by simpa [full] using none
      refine append_zeros val room (Nat.eq_zero_of_le_zero ?_)
      rw [← zero, ← left]
      exact Nat.div_le_div_right (Nat.mod_le _ _)
  · have last : loop.val.length = 15 := by omega
    rw [if_neg fun more => full more.2]
    refine append_zeros val room (Nat.div_eq_of_lt ?_)
    rw [last]
    exact Nat.mod_lt _ (by decide)

/-- **The lowest 120 bits**: after at most 120 rounds the loop has ended, and `val` has the bytes of the number modulo
`2 ^ 120`, the lowest one first, and a zero behind them. -/
theorem charToSQLNumeric_val (digits : List Nat) (more : Nat) :
    (halving (120 + more) digits).running = false ∧ (halving (120 + more) digits).stored =
      (range 15).map (fun i => UInt8.ofNat (number 0 digits % 2 ^ 120 / 256 ^ i)) ++ [0] := by
  have start : Halving.Sound (number 0 digits) { digits := digits, hval := 0, bit := 1, val := [] } :=
    ⟨⟨0, by omega, rfl⟩, one_pos, by simp, rfl, by simp⟩
  obtain ⟨sound, ended⟩ := whileLoop_rule (fun loop sound running => sound.round running) start (Nat.le_add_right 120 more)
  exact ⟨ended, sound.stored ended⟩

end MaOdbc.Numeric
