/-
**Integers of parameters and result columns.**

`MADB_ConvertCharToInteger` reads the text of a column with `strtoull` or `strtoll`, forces the number into a
signed 64-bit variable, compares it with the bounds of the target and stores its low bytes. The 64-bit targets
have no bounds, and `strtoull` takes a negative number modulo `2 ^ 64`. `MADB_ConvertIntegerToChar` prints the
integer of a parameter; it reads a `SQL_C_TINYINT` as unsigned, and `MADB_GetMaDBTypeAndLength` binds it as signed.

* `val_cases`: the number that is read; `converts_of_holds`, `converts_of_not_holds`: what becomes of it.
* **`convertCharToInteger_iff`**: a number is converted as it should exactly if it lies in the range of the target,
  or the target is short and the number does not wrap into its range.
* **`readsBack_iff`**: what is printed for a value is read back as that value, negative `SQL_C_TINYINT`s apart.
-/

import MaOdbc.Library.Decimal

namespace MaOdbc

open List

/-- The integer types of `MYSQL_BIND.buffer_type`. -/
inductive IntegerType
  | tiny
  | short
  | year
  | int24
  | long
  | longlong
  deriving DecidableEq, Repr

def IntegerType.bytes : IntegerType → Nat
  | .tiny => 1
  | .short | .year => 2
  | .int24 | .long => 4
  | .longlong => 8

/-- What `MADB_ConvertCharToInteger` uses of a `MYSQL_BIND`; `buffer` is the integer in the buffer. -/
structure IntegerBind where
  bufferType : IntegerType
  isUnsigned : Bool
  buffer : Int := 0
  bufferLength : Nat := 0
  error : Bool := false
  deriving DecidableEq, Repr

def lowBytes (isUnsigned : Bool) (bytes : Nat) (number : Int) : Int :=
  let low := number % 2 ^ (8 * bytes)
  if isUnsigned ∨ low < 2 ^ (8 * bytes - 1) then low else low - 2 ^ (8 * bytes)

namespace IntegerBind

variable (dest : IntegerBind)

def bounds : Option (Int × Int) :=
  match dest.bufferType, dest.isUnsigned with
  | .tiny, true => some (0, 255)
  | .tiny, false => some (-128, 127)
  | .short, true | .year, true => some (0, 65535)
  | .short, false | .year, false => some (-32768, 32767)
  | .long, true | .int24, true => some (0, 4294967295)
  | .long, false | .int24, false => some (-2147483648, 2147483647)
  | .longlong, _ => none

def outside (val : Int) : Bool := dest.bounds.any fun (least, greatest) => val < least || val > greatest

/-- `MADB_ConvertCharToInteger`. The first component is whether `MYSQL_DATA_TRUNCATED` is returned. -/
def convertCharToInteger (src : Text) (fieldLen : Nat) : Bool × IntegerBind :=
  let val := if dest.isUnsigned then lowBytes false 8 (strtoul src) else strtol src
  let truncated := decide (numberEnd src < fieldLen) || dest.outside val
  (truncated,
    { dest with
      buffer := lowBytes dest.isUnsigned dest.bufferType.bytes val
      bufferLength := dest.bufferType.bytes
      error := dest.error || truncated })

def Holds (number : Int) : Prop :=
  if dest.isUnsigned then 0 ≤ number ∧ number < 2 ^ (8 * dest.bufferType.bytes)
  else -2 ^ (8 * dest.bufferType.bytes - 1) ≤ number ∧ number < 2 ^ (8 * dest.bufferType.bytes - 1)

instance (number : Int) : Decidable (dest.Holds number) :=
  inferInstanceAs (Decidable (if dest.isUnsigned then _ else _))

/-- The conversion of a column; its length comes as an `unsigned int`. -/
def convert (number : IntegerText) : Bool × IntegerBind :=
  dest.convertCharToInteger number.text (number.text.length % 2 ^ 32)

def val (number : IntegerText) : Int :=
  if dest.isUnsigned then lowBytes false 8 (strtoul number.text) else strtol number.text

/-- A number in the range is stored and no truncation is reported; for any other number truncation is reported. -/
def Converts (number : IntegerText) : Prop :=
  if dest.Holds number.value then
    dest.convert number =
      (false, { dest with buffer := number.value, bufferLength := dest.bufferType.bytes })
  else (dest.convert number).1 = true ∧ (dest.convert number).2.error = true

/-- A negative number that `strtoull` takes into the range of an unsigned target. -/
def Wraps (number : Int) : Prop :=
  dest.isUnsigned ∧ -2 ^ 64 < number ∧ number < 2 ^ (8 * dest.bufferType.bytes) - 2 ^ 64

/-! ### What is stored and reported -/

variable {dest} {number : IntegerText}

theorem not_numberEnd_lt : ¬ numberEnd number.text < number.text.length % 2 ^ 32 := by
  rw [numberEnd_text]
  have below := Nat.mod_le number.text.length (2 ^ 32)
  omega

theorem readNumber_text : readNumber number.text = (number.sign == .minus, readDigits number.digits) := by
  have read : readNumber (number.text ++ []) = _ := readNumber_append number (by rintro _ ⟨⟩)
  rw [append_nil] at read
  exact read

/-- What is read of a number: the number itself if it fits 63 bits; otherwise `strtoll` gives the nearest number,
and `strtoull` takes what fits 64 bits modulo `2 ^ 64` and anything else as its greatest number, which becomes -1. -/
theorem val_cases (dest : IntegerBind) (number : IntegerText) :
    let n := number.value
    let val := dest.val number
    val = n ∧ -2 ^ 63 ≤ n ∧ n < 2 ^ 63 ∨
      dest.isUnsigned = false ∧ (val = 2 ^ 63 - 1 ∧ 2 ^ 63 ≤ n ∨ val = -2 ^ 63 ∧ n < -2 ^ 63) ∨
      dest.isUnsigned = true ∧ (val = n - 2 ^ 64 ∧ 2 ^ 63 ≤ n ∧ n < 2 ^ 64 ∨
        val = n + 2 ^ 64 ∧ -2 ^ 64 < n ∧ n < -2 ^ 63 ∨ val = -1 ∧ (2 ^ 64 ≤ n ∨ n ≤ -2 ^ 64)) := by
  rw [val, strtol, strtoul, readNumber_text, IntegerText.value, lowBytes]
  generalize readDigits number.digits = digits
  by_cases minus : number.sign = .minus
  · rw [minus, beq_self_eq_true, if_pos rfl]
    cases dest.isUnsigned <;> simp <;> omega
  · rw [beq_false_of_ne minus, if_neg minus]
    cases dest.isUnsigned <;> simp <;> omega

theorem outside_eq (val : Int) : dest.outside val = !decide (dest.bufferType = .longlong ∨ dest.Holds val) := by
  obtain ⟨bufferType, isUnsigned, -⟩ := dest
  rw [Bool.eq_iff_iff]
  cases bufferType <;> cases isUnsigned <;> simp [outside, bounds, Holds, IntegerType.bytes] <;> omega

theorem convert_eq : dest.convert number =
    (dest.outside (dest.val number),
      { dest with
        buffer := lowBytes dest.isUnsigned dest.bufferType.bytes (dest.val number)
        bufferLength := dest.bufferType.bytes
        error := dest.error || dest.outside (dest.val number) }) := by
  rw [convert, convertCharToInteger, decide_eq_false not_numberEnd_lt]
  rfl

theorem lowBytes_val (holds : dest.Holds number.value) :
    lowBytes dest.isUnsigned dest.bufferType.bytes (dest.val number) = number.value := by
  have read := val_cases dest number
  generalize dest.val number = val, number.value = n at *
  cases unsigned : dest.isUnsigned <;> cases type : dest.bufferType <;>
    simp [Holds, lowBytes, unsigned, type, IntegerType.bytes] at * <;> omega

theorem holds_val_iff (short : dest.bufferType ≠ .longlong) :
    dest.Holds (dest.val number) ↔ dest.Holds number.value ∨ dest.Wraps number.value := by
  have read := val_cases dest number
  generalize dest.val number = val, number.value = n at *
  cases unsigned : dest.isUnsigned <;> cases type : dest.bufferType <;>
    simp [Holds, Wraps, unsigned, type, IntegerType.bytes] at * <;> omega

theorem converts_of_holds (holds : dest.Holds number.value) : dest.Converts number := by
  have inside : dest.outside (dest.val number) = false := by
    rw [outside_eq, Bool.not_eq_false', decide_eq_true_iff]
    by_cases long : dest.bufferType = .longlong
    · exact Or.inl long
    · exact Or.inr ((holds_val_iff long).mpr (Or.inl holds))
  rw [Converts, if_pos holds, convert_eq, inside, lowBytes_val holds, Bool.or_false]

theorem converts_of_not_holds (apart : ¬ dest.Holds number.value) :
    dest.Converts number ↔ dest.bufferType ≠ .longlong ∧ ¬ dest.Wraps number.value := by
  have reported : dest.Converts number ↔ dest.outside (dest.val number) = true := by
    rw [Converts, if_neg apart, convert_eq]
    simp
    exact fun reported => Or.inr reported
  rw [reported, outside_eq, Bool.not_eq_true', decide_eq_false_iff_not, not_or]
  refine and_congr_right fun short => ?_
  rw [holds_val_iff short]
  simp [apart]

/-- **The conversion of a column text** is as it should be exactly if the number lies in the range of the target, or
the target is shorter than 64 bits and `strtoull` does not take a negative number into its range. -/
theorem convertCharToInteger_iff (dest : IntegerBind) (number : IntegerText) :
    dest.Converts number ↔
      dest.Holds number.value ∨ dest.bufferType ≠ .longlong ∧ ¬ dest.Wraps number.value := by
  by_cases holds : dest.Holds number.value
  · exact iff_of_true (converts_of_holds holds) (Or.inl holds)
  · rw [converts_of_not_holds holds]
    simp [holds]

/-- `-1` is stored as the greatest unsigned 64-bit number, and no truncation is reported. -/
theorem convertCharToInteger_negative :
    ¬ Converts { bufferType := .longlong, isUnsigned := true }
      { sign := .minus, digits := lit "1", nonempty := by decide, all := by decide } := by
  unfold Converts
  decide

end IntegerBind

/-! ### There and back -/

/-- The integer C types. -/
inductive IntegerCType
  | tinyint
  | stinyint
  | utinyint
  | short
  | sshort
  | ushort
  | long
  | slong
  | ulong
  | sbigint
  | ubigint
  deriving DecidableEq, Repr

/-- `sprintf` of a `long long`. -/
def IntegerText.ofInt (number : Int) : IntegerText :=
  .ofNat (if number < 0 then .minus else .none) number.natAbs

namespace IntegerCType

/-- The integer at `Src`, read as the branch of its type does. -/
def sourceNumber (src : Int) : IntegerCType → Int
  | .ubigint => lowBytes true 8 src
  | .ulong => lowBytes true 4 src
  | .ushort => lowBytes true 2 src
  | .utinyint => lowBytes true 1 src
  | .sbigint => lowBytes false 8 src
  | .short | .sshort => lowBytes false 2 src
  | .stinyint => lowBytes false 1 src
  -- `*(SQLCHAR*)Src`
  | .tinyint => lowBytes true 1 src
  | .long | .slong => lowBytes false 4 src

/-- `MADB_ConvertIntegerToChar`. -/
def convertIntegerToChar (sourceType : IntegerCType) (src : Int) : IntegerText :=
  .ofInt (sourceType.sourceNumber src)

/-- `MADB_GetMaDBTypeAndLength` for the integer types. -/
def getMaDBTypeAndLength (type : IntegerCType) : IntegerBind :=
  match type with
  | .tinyint | .stinyint | .utinyint => { bufferType := .tiny, isUnsigned := type == .utinyint, bufferLength := 1 }
  | .short | .sshort | .ushort => { bufferType := .short, isUnsigned := type == .ushort, bufferLength := 2 }
  | .long | .slong | .ulong => { bufferType := .long, isUnsigned := type == .ulong, bufferLength := 4 }
  | .sbigint | .ubigint => { bufferType := .longlong, isUnsigned := type == .ubigint, bufferLength := 8 }

def ReadsBack (type : IntegerCType) (x : Int) : Prop :=
  type.getMaDBTypeAndLength.convert (type.convertIntegerToChar x) =
    (false, { type.getMaDBTypeAndLength with buffer := x })

variable {type : IntegerCType} {x : Int}

theorem value_ofInt (number : Int) : (IntegerText.ofInt number).value = number := by
  rw [IntegerText.ofInt, IntegerText.value, IntegerText.ofNat]
  dsimp only
  rw [readDigits_decimal]
  by_cases negative : number < 0
  · rw [if_pos negative, if_pos rfl]
    omega
  · rw [if_neg negative, if_neg (by decide)]
    omega

theorem value_convertIntegerToChar (holds : type.getMaDBTypeAndLength.Holds x) :
    (type.convertIntegerToChar x).value = if type = .tinyint ∧ x < 0 then x + 256 else x := by
  rw [convertIntegerToChar, value_ofInt]
  cases type <;>
    simp [sourceNumber, IntegerBind.Holds, getMaDBTypeAndLength, lowBytes, IntegerType.bytes] at * <;> omega

/-- **What is printed for a value of an integer C type** is read back as that value, except for a negative
`SQL_C_TINYINT`, which is printed as an unsigned number. -/
theorem readsBack_iff (type : IntegerCType) (x : Int) (holds : type.getMaDBTypeAndLength.Holds x) :
    type.ReadsBack x ↔ ¬ (type = .tinyint ∧ x < 0) := by
  have printed := value_convertIntegerToChar holds
  by_cases negative : type = .tinyint ∧ x < 0
  · obtain ⟨rfl, below⟩ := negative
    -- The text names a number from 128 to 255, which the signed target refuses.
    rw [if_pos ⟨rfl, below⟩] at printed
    have least : -128 ≤ x := holds.1
    have apart : ¬ (getMaDBTypeAndLength .tinyint).Holds (convertIntegerToChar .tinyint x).value := by
      rintro ⟨-, upper⟩
      rw [printed] at upper
      change x + 256 < 128 at upper
      omega
    have reported := (IntegerBind.converts_of_not_holds apart).mpr ⟨by decide, by rintro ⟨⟨⟩, -⟩⟩
    rw [IntegerBind.Converts, if_neg apart] at reported
    refine iff_of_false (fun back => ?_) (not_not_intro ⟨rfl, below⟩)
    rw [ReadsBack] at back
    rw [back] at reported
    cases reported.1
  · rw [if_neg negative] at printed
    rw [← printed] at holds
    have stored := IntegerBind.converts_of_holds holds
    rw [IntegerBind.Converts, if_pos holds, printed] at stored
    refine iff_of_true ?_ negative
    rw [ReadsBack, stored]
    cases type <;> rfl

theorem readsBack_iff_least :
    ReadsBack .sbigint (-2 ^ 63) ↔ ¬ (IntegerCType.sbigint = .tinyint ∧ (-2 ^ 63 : Int) < 0) :=
  readsBack_iff .sbigint (-2 ^ 63) (by decide)

/-- `-56` is printed as `200`. -/
theorem readsBack_tinyint : (getMaDBTypeAndLength .tinyint).Holds (-56) ∧ ¬ ReadsBack .tinyint (-56) := by
  unfold ReadsBack
  decide

end IntegerCType

end MaOdbc
