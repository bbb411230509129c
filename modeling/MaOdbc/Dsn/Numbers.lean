/-
**The numbers of a record that is written and read again.**

`MADB_DsnToString` writes a number only if it is not 0, a switch as `1`, and the options as the bitmap `OPTIONS`.
Reading the bitmap sets the fields behind its bits.

* `Coupled`: what holds of every record that comes from reading a string: the fields follow their bits, except that
  `NO_CACHE` is on at first without its bit, and there is either a named pipe or TCP/IP.
* `Coupled.assign`, `Reached.coupled`: one value keeps this, and so does a string.
* `numbers_survive_iff`: when the numbers are the same.
-/

import MaOdbc.Dsn.ToString

namespace MaOdbc

open Option

open DsnField

/-! ### Bits of a bitmap -/

variable {bits flag : UInt32} {other field : DsnField}

theorem or_and_distrib (first second third : UInt32) :
    (first ||| second) &&& third = first &&& third ||| second &&& third := by
  rw [← UInt32.toBitVec_inj]
  refine BitVec.eq_of_getLsbD_eq fun i _ => ?_
  simp only [UInt32.toBitVec_and, UInt32.toBitVec_or, BitVec.getLsbD_and, BitVec.getLsbD_or]
  exact Bool.and_or_distrib_right _ _ _

theorem or_and_self_right (bits flag : UInt32) : (bits ||| flag) &&& flag = flag := by
  rw [or_and_distrib, UInt32.and_self]
  nth_rewrite 2 [← @UInt32.neg_one_and flag]
  rw [← or_and_distrib, UInt32.or_neg_one, UInt32.neg_one_and]

theorem and_not_of_disjoint (disjoint : bits &&& flag = 0) : bits &&& ~~~flag = bits := by
  have whole : (flag ||| ~~~flag) &&& bits = bits := by rw [UInt32.or_not_self, UInt32.neg_one_and]
  rwa [or_and_distrib, UInt32.and_comm, disjoint, UInt32.zero_or, UInt32.and_comm] at whole

theorem and_not_and_of_disjoint {other : UInt32} (disjoint : flag &&& other = 0) :
    bits &&& ~~~flag &&& other = bits &&& other := by
  have same : other &&& ~~~flag = other := and_not_of_disjoint (by rw [UInt32.and_comm, disjoint])
  rw [UInt32.and_assoc, UInt32.and_comm (~~~flag), same]

namespace Dsn

variable (dsn : Dsn)

def optionFields : List DsnField := [.isNamedPipe, .reconnect, .connectPrompt, .readMycnf, .forceForwardOnly, .noCache]

theorem mem_of_option (option : field.type = .option) : field ∈ optionFields := by
  cases field <;> first | exact absurd option (by decide) | decide

theorem flag_disjoint (first : field.type = .option) (second : other.type = .option)
    (different : field ≠ other) : field.flag &&& other.flag = 0 := by
  have all : ∀ field ∈ optionFields, ∀ other ∈ optionFields, field ≠ other → field.flag &&& other.flag = 0 := by decide
  exact all field (mem_of_option first) other (mem_of_option second) different

theorem flag_ne_zero (option : field.type = .option) : field.flag ≠ 0 := by
  have all : ∀ field ∈ optionFields, field.flag ≠ 0 := by decide
  exact all field (mem_of_option option)

theorem bit_setOptionValue (option : field.type = .option) (second : other.type = .option)
    (value : Bool) :
    (dsn.setOptionValue field value).bit other =
      if other = field then (if value then 1 else 0) else dsn.bit other := by
  rw [bit, int_setOptionValue, Function.update_self]
  by_cases same : other = field
  · subst same
    rw [if_pos rfl]
    cases value with
    | true => rw [if_pos rfl, or_and_self_right, if_pos (flag_ne_zero option), if_pos rfl]
    | false =>
      rw [if_neg Bool.false_ne_true, UInt32.and_assoc, UInt32.not_and_self, UInt32.and_zero, if_neg (not_not_intro rfl),
        if_neg Bool.false_ne_true]
  · have disjoint := flag_disjoint option second (Ne.symm same)
    rw [if_neg same]
    cases value with
    | true =>
      rw [if_pos rfl, or_and_distrib, disjoint, UInt32.or_zero]
      rfl
    | false =>
      rw [if_neg Bool.false_ne_true, and_not_and_of_disjoint disjoint]
      rfl

/-! ### Options and switches -/

theorem follows_setOptionValue {dsn : Dsn} (option : field.type = .option)
    (second : other.type = .option) (value : Bool)
    (follows : other ≠ field → dsn.byte other = dsn.bit other) :
    (dsn.setOptionValue field value).byte other = (dsn.setOptionValue field value).bit other := by
  rw [byte_setOptionValue, bit_setOptionValue dsn option second, Function.update_apply]
  split
  · rfl
  · exact follows ‹_›

/-- **A field of type option follows its bit** behind a value for it or for all options, and other values keep that. -/
theorem follows_assign (option : other.type = .option) (field : DsnField) (value : Text)
    (follows : dsn.byte other = dsn.bit other ∨ field = other ∨ field = .options) :
    (dsn.assign field value).2.byte other = (dsn.assign field value).2.bit other := by
  have off : other ≠ .isTcpIp := by
    rintro rfl
    cases option
  rw [assign_snd]
  split
  · obtain ⟨int, bytes⟩ := (dsn.storeValue field value true).2.updateOptionsFields_eq
    rw [bytes, if_pos option, bit, bit, int]
  · rename_i single
    have known : other ≠ field → dsn.byte other = dsn.bit other := fun different =>
      follows.resolve_right fun either => either.elim (Ne.symm different) single
    by_cases own : field.type = .option
    · rw [storeValue_eq, own]
      dsimp only
      split
      · rename_i pipe
        subst pipe
        rw [byte_setByte, Function.update_of_ne off]
        exact follows_setOptionValue rfl option _ known
      · exact follows_setOptionValue own option _ known
    · have different : other ≠ field := by
        rintro rfl
        exact own option
      by_cases tcp : field = .isTcpIp
      · subst tcp
        rw [storeValue_eq]
        refine follows_setOptionValue rfl option _ fun _ => ?_
        rw [byte_setByte, Function.update_of_ne off]
        exact known different
      · have apart : ¬ field.Touches other := by
          rintro (same | ⟨rfl, -⟩ | ⟨is_tcp, -⟩ | ⟨-, is_tcp⟩)
          · exact different same.symm
          · cases option
          · exact off is_tcp
          · exact tcp is_tcp
        have bits := dsn.storeValue_frame (not_touches_options single tcp own) value
        rw [(dsn.storeValue_frame apart value).2.2, bit, bits.2.1]
        exact known different

/-- There is either a named pipe or TCP/IP. -/
def Switched (dsn : Dsn) : Prop := dsn.byte .isNamedPipe = if dsn.byte .isTcpIp = 0 then 1 else 0

theorem Switched.assign {dsn : Dsn} (switched : dsn.Switched) (field : DsnField) (value : Text) :
    (dsn.assign field value).2.Switched := by
  rw [assign_snd]
  split
  · obtain ⟨-, bytes⟩ := (dsn.storeValue field value true).2.updateOptionsFields_eq
    have pipe := bytes .isNamedPipe
    have tcp := bytes .isTcpIp
    rw [if_pos (by decide)] at pipe
    rw [if_neg (by decide), if_pos rfl] at tcp
    rw [Switched, pipe, tcp, bit]
    split
    · rfl
    · rfl
  · by_cases tcp : field = .isTcpIp
    · subst tcp
      simp [Switched, storeValue_eq, type]
    · by_cases pipe : field = .isNamedPipe
      · subst pipe
        by_cases zero : strtoul value = 0
        · simp [Switched, storeValue_eq, type, zero]
        · simp [Switched, storeValue_eq, type, zero]
      · have unpiped : ¬ field.Touches .isNamedPipe := by simp [DsnField.Touches, tcp, pipe]
        have off : ¬ field.Touches .isTcpIp := by simp [DsnField.Touches, tcp, pipe]
        rw [Switched, (dsn.storeValue_frame unpiped value).2.2, (dsn.storeValue_frame off value).2.2]
        exact switched

/-! ### Records that come from a string -/

/-- The fields follow their bits, there is either a named pipe or TCP/IP, and the strings are trimmed. -/
structure Coupled (dsn : Dsn) : Prop where
  options : ∀ field : DsnField, field.type = .option → field ≠ .noCache → dsn.byte field = dsn.bit field
  switch : dsn.byte .isNamedPipe = if dsn.byte .isTcpIp = 0 then 1 else 0
  trimmed : ∀ field value, dsn.str field = some value → trim value = value

def Reached (dsn : Dsn) : Prop := ∃ (delimiter : Byte) (string : Text), dsn = (parseConnString delimiter .init string).2

theorem coupled_init : Coupled init where
  options := by
    have all : ∀ field ∈ optionFields, field ≠ .noCache → init.byte field = init.bit field := by decide
    exact fun field option => all field (mem_of_option option)
  switch := rfl
  trimmed := fun _ _ none => by cases none

variable {dsn}

/-- **One value keeps a record coupled.** -/
theorem Coupled.assign (coupled : dsn.Coupled) (field : DsnField) {value : Text} (trimmed : trim value = value) :
    (dsn.assign field value).2.Coupled where
  options := fun other option cache => dsn.follows_assign option field value (.inl (coupled.options other option cache))
  switch := Switched.assign coupled.switch field value
  trimmed := by
    intro other text stored
    rw [str_assign] at stored
    split at stored
    · rw [Function.update_apply] at stored
      split at stored
      · rw [← some.inj stored]
        exact trimmed
      · exact coupled.trimmed other text stored
    · exact coupled.trimmed other text stored

/-- **A string keeps a record coupled.** -/
theorem Coupled.parseLoop (delimiter : Byte) (rounds : Nat) (text : Text) (coupled : dsn.Coupled) :
    (MaOdbc.parseLoop delimiter rounds text dsn).2.Coupled :=
  parseLoop_rule (fun _ field _ kept trimmed _ => kept.assign field trimmed) delimiter rounds le_rfl coupled

theorem Reached.coupled (reached : dsn.Reached) : dsn.Coupled := by
  obtain ⟨delimiter, string, rfl⟩ := reached
  exact coupled_init.parseLoop delimiter _ string

/-! ### What is read of the numbers -/

theorem strtoul_printInt (value : UInt32) : UInt32.ofNat (strtoul (printInt value)) = value := by
  have small := value.toNat_lt
  rw [printInt]
  split
  · rw [strtoul_decimal (by omega), UInt32.ofNat_toNat]
  · rename_i large
    have wrapped : (2 ^ 64 - (2 ^ 32 - value.toNat)) % 2 ^ 64 = value.toNat + 2 ^ 32 * (2 ^ 32 - 1) := by omega
    rw [strtoul_negative (by omega), wrapped, ← UInt32.toNat_inj, UInt32.toNat_ofNat', Nat.add_mul_mod_self_left,
      Nat.mod_eq_of_lt small]

theorem atoiByte_printChar (value : UInt8) : atoiByte (printChar value) = value := by
  have small := value.toNat_lt
  have number : ∀ n : Nat, n < 2 ^ 63 → atoiByte (decimal n) = UInt8.ofNat n := by
    intro n less
    rw [atoiByte, strtol_decimal less, ← UInt8.toNat_inj, UInt8.toNat_ofNat', UInt8.toNat_ofNat']
    omega
  rw [printChar]
  split
  · rw [number _ (by omega), UInt8.ofNat_toNat]
  · rw [number _ (by omega), ← UInt8.toNat_inj, UInt8.toNat_ofNat']
    omega

variable (dsn)

/-- The record that comes from writing one and reading the text. -/
def reread : Dsn := init.assignPieces dsn.pieces

theorem byte_reread_of_bool (bool : field.type = .bool) (tcp : field ≠ .isTcpIp) :
    dsn.reread.byte field = if dsn.byte field = 0 then init.byte field else 1 := by
  have alone : field.Alone := ⟨by rw [bool]; decide, (by rintro rfl; cases bool), tcp⟩
  have read : dsn.reread.value field = _ := dsn.value_assignPieces alone init
  by_cases zero : dsn.byte field = 0
  · simpa [value, valueOf, bool, zero] using read
  · rw [if_neg zero]
    simp only [value, valueOf, DsnField.read, bool, zero, ne_eq, not_false_eq_true, ↓reduceIte, map_some,
      getD_some, FieldValue.byte.injEq] at read
    exact read

theorem byte_reread_tlsVersion : dsn.reread.byte .tlsVersion = dsn.byte .tlsVersion := by
  have read : dsn.reread.value .tlsVersion = _ := dsn.value_assignPieces (by simp [DsnField.Alone, type]) init
  by_cases zero : dsn.byte .tlsVersion = 0
  · rw [zero]
    simpa [value, valueOf, type, zero, init] using read
  · simpa [value, valueOf, DsnField.read, DsnField.type, zero, atoiByte_printChar] using read

theorem int_reread_of_ne (int : field.type = .int) (options : field ≠ .options) :
    dsn.reread.int field = dsn.int field := by
  have alone : field.Alone := ⟨by rw [int]; decide, options, by rintro rfl; cases int⟩
  have read : dsn.reread.value field = _ := dsn.value_assignPieces alone init
  by_cases zero : dsn.int field = 0
  · rw [zero]
    simpa [value, valueOf, int, zero, init] using read
  · simpa [value, valueOf, DsnField.read, int, zero, strtoul_printInt] using read

theorem type_of_valueOf {text : Text} (written : dsn.valueOf field = some text) :
    field.type ≠ .option := by
  intro option
  rw [valueOf, option] at written
  cases written

theorem follows_reread (option : field.type = .option)
    (start : init.byte field = init.bit field ∨ dsn.int .options ≠ 0) :
    dsn.reread.byte field = dsn.reread.bit field := by
  refine foldl_reaches (fun _ => True) (fun dsn : Dsn => dsn.byte field = dsn.bit field)
    (fun piece : DsnPiece => piece.field = .options) (fun _ _ _ _ => trivial)
    (fun before piece _ _ either => before.follows_assign option piece.field piece.value (either.imp_right .inr)) trivial ?_
  exact start.imp_right fun nonzero => dsn.exists_piece (if_pos nonzero)

theorem byte_reread_tcp_cases : dsn.reread.byte .isTcpIp = 0 ∨ dsn.reread.byte .isTcpIp = 1 := by
  refine List.foldlRecOn (motive := fun dsn : Dsn => dsn.byte .isTcpIp = 0 ∨ dsn.byte .isTcpIp = 1) _ _ (.inr rfl)
    fun before kept piece member => ?_
  have written := dsn.valueOf_of_mem member
  rw [assign_snd]
  split
  · obtain ⟨-, bytes⟩ := (before.storeValue piece.field piece.value true).2.updateOptionsFields_eq
    rw [bytes, if_neg (by decide), if_pos rfl, bit]
    split
    · exact .inl rfl
    · exact .inr rfl
  · by_cases tcp : piece.field = .isTcpIp
    · rw [tcp] at written ⊢
      have text : some (lit "1") = some piece.value := by
        by_cases zero : dsn.byte .isTcpIp = 0
        · simp [valueOf, type, zero] at written
        · simpa [valueOf, type, zero] using written
      rw [← some.inj text, storeValue_eq]
      exact .inr rfl
    · have pipe : piece.field ≠ .isNamedPipe := fun same => dsn.type_of_valueOf written (by rw [same]; rfl)
      rw [(before.storeValue_frame (by simp [DsnField.Touches, tcp, pipe]) piece.value).2.2]
      exact kept

section Switches

variable {dsn} (coupled : dsn.Coupled)

include coupled

theorem Coupled.pipe : dsn.int .options &&& isNamedPipe.flag ≠ 0 ↔ dsn.byte .isTcpIp = 0 := by
  have bit := coupled.options .isNamedPipe rfl (by decide)
  rw [coupled.switch, Dsn.bit] at bit
  by_cases zero : dsn.byte .isTcpIp = 0
  · rw [if_pos zero] at bit
    refine ⟨fun _ => zero, fun _ set => ?_⟩
    rw [if_neg (not_not_intro set)] at bit
    cases bit
  · rw [if_neg zero] at bit
    refine ⟨fun set => ?_, fun off => absurd off zero⟩
    rw [if_pos set] at bit
    cases bit

theorem Coupled.int_reread_options : dsn.reread.int .options = dsn.int .options := by
  refine foldl_reaches (fun _ => True) (fun before : Dsn => before.int .options = dsn.int .options)
    (fun piece : DsnPiece => piece.field = .options) (fun _ _ _ _ => trivial) (fun before piece member _ either => ?_)
    trivial ?_
  · have written := dsn.valueOf_of_mem member
    by_cases options : piece.field = .options
    · rw [options] at written ⊢
      have read := FieldValue.number.inj (before.value_assign_self .options piece.value)
      by_cases zero : dsn.int .options = 0
      · simp [valueOf, type, zero] at written
      · have text : printInt (dsn.int .options) = piece.value := by
          simpa [valueOf, type, zero] using written
        rw [← text, strtoul_printInt] at read
        rw [← text]
        exact read
    · have kept : before.int .options = dsn.int .options := either.resolve_right options
      rw [assign_snd, if_neg options]
      by_cases tcp : piece.field = .isTcpIp
      · have on : dsn.byte .isTcpIp ≠ 0 := by
          intro zero
          rw [tcp] at written
          simp [valueOf, type, zero] at written
        have text : lit "1" = piece.value := by
          rw [tcp] at written
          simpa [valueOf, type, on] using written
        rw [tcp, ← text, storeValue_eq]
        show before.int .options &&& ~~~isNamedPipe.flag = _
        rw [kept]
        exact and_not_of_disjoint (not_not.mp (mt coupled.pipe.mp on))
      · have bits := not_touches_options options tcp (dsn.type_of_valueOf written)
        rw [(before.storeValue_frame bits piece.value).2.1]
        exact kept
  · by_cases zero : dsn.int .options = 0
    · exact .inl zero.symm
    · exact .inr (dsn.exists_piece (if_pos zero))

theorem Coupled.bit_reread (field : DsnField) : dsn.reread.bit field = dsn.bit field := by
  rw [bit, bit, coupled.int_reread_options]

theorem Coupled.byte_reread_tcp : dsn.reread.byte .isTcpIp = if dsn.byte .isTcpIp = 0 then 0 else 1 := by
  have switched : dsn.reread.Switched :=
    List.foldlRecOn (motive := Switched) _ _ rfl fun before kept piece _ => kept.assign piece.field piece.value
  have pipe : dsn.reread.byte .isNamedPipe = _ := dsn.follows_reread rfl (.inl rfl)
  rw [coupled.bit_reread, ← coupled.options .isNamedPipe rfl (by decide), coupled.switch, switched] at pipe
  rcases dsn.byte_reread_tcp_cases with zero | one
  · rw [zero] at pipe ⊢
    split at pipe
    all_goals split at pipe
    all_goals simp_all
  · rw [one] at pipe ⊢
    split at pipe
    all_goals split at pipe
    all_goals simp_all

theorem Coupled.byte_reread_option (option : field.type = .option) :
    dsn.reread.byte field =
      if field = .noCache then (if dsn.int .options = 0 then 1 else dsn.bit .noCache) else dsn.byte field := by
  split
  · rename_i cache
    subst cache
    split
    · rename_i zero
      refine List.foldlRecOn (motive := fun dsn : Dsn => dsn.byte .noCache = 1) _ _ rfl fun before kept piece member => ?_
      have written := dsn.valueOf_of_mem member
      have options : piece.field ≠ .options := by
        intro same
        rw [same] at written
        simp [valueOf, type, zero] at written
      have apart : ¬ piece.field.Touches .noCache := by
        have different : piece.field ≠ .noCache := fun same => dsn.type_of_valueOf written (by rw [same]; rfl)
        simp [DsnField.Touches, different]
      rw [assign_snd, if_neg options, (before.storeValue_frame apart piece.value).2.2]
      exact kept
    · rename_i nonzero
      exact (dsn.follows_reread rfl (.inr nonzero)).trans (coupled.bit_reread _)
  · rename_i other
    rw [dsn.follows_reread option (.inl (coupled_init.options field option other)), coupled.bit_reread]
    exact (coupled.options field option other).symm

end Switches

def NumbersSurvive (dsn : Dsn) : Prop :=
  ∃ writer, dsn.dsnToString = some writer ∧
    (∀ field, field.type = .int →
      (parseConnString (ch ';') .init writer.tmpStr).2.int field = dsn.int field) ∧
    ∀ field, field.type = .bool ∨ field.type = .option ∨ field.type = .cboxgroup →
      (parseConnString (ch ';') .init writer.tmpStr).2.byte field = dsn.byte field

theorem numbersSurvive_iff_reread {dsn : Dsn} (strings : dsn.StringsFaithful) (short : dsn.text.length < 2048) :
    dsn.NumbersSurvive ↔
      (∀ field, field.type = .int → dsn.reread.int field = dsn.int field) ∧
        ∀ field, field.type = .bool ∨ field.type = .option ∨ field.type = .cboxgroup →
          dsn.reread.byte field = dsn.byte field := by
  rw [NumbersSurvive, dsnToString_short short]
  simp only [some.injEq, exists_eq_left', strings.parseConnString_text]
  rfl

end Dsn

/-- **When the numbers survive.** For every record that comes from a string, whose own strings have no brackets that
interfere, and whose text fits the buffer. -/
theorem numbers_survive_iff {dsn : Dsn} (reached : dsn.Reached)
    (plain : ∀ field, field.type = .string ∨ field.type = .combo → ∀ value, dsn.str field = some value → Plain value)
    (short : dsn.text.length < 2048) :
    dsn.NumbersSurvive ↔
      dsn.byte .noSsps = 1 ∧ (∀ field, field.type = .bool → dsn.byte field = 0 ∨ dsn.byte field = 1) ∧
        dsn.byte .noCache = if dsn.int .options = 0 then 1 else dsn.bit .noCache := by
  have coupled := reached.coupled
  have strings : dsn.StringsFaithful := by
    intro field type value stored
    by_cases empty : value = []
    · exact .inl empty
    · exact .inr ⟨empty, coupled.trimmed field value stored, plain field type value stored⟩
  have ints : ∀ field, field.type = .int → dsn.reread.int field = dsn.int field := by
    intro field int
    by_cases options : field = .options
    · rw [options]
      exact coupled.int_reread_options
    · exact dsn.int_reread_of_ne int options
  rw [Dsn.numbersSurvive_iff_reread strings short]
  constructor
  · rintro ⟨-, bytes⟩
    refine ⟨?_, fun field bool => ?_, ?_⟩
    · rw [← bytes .noSsps (.inl rfl), dsn.byte_reread_of_bool rfl (by decide)]
      split
      · rfl
      · rfl
    · rw [or_iff_not_imp_left]
      intro nonzero
      rw [← bytes field (.inl bool)]
      by_cases tcp : field = .isTcpIp
      · rw [tcp] at nonzero ⊢
        rw [coupled.byte_reread_tcp, if_neg nonzero]
      · rw [dsn.byte_reread_of_bool bool tcp, if_neg nonzero]
    · have cache := bytes .noCache (.inr (.inl rfl))
      rw [coupled.byte_reread_option rfl, if_pos rfl] at cache
      exact cache.symm
  · rintro ⟨ssps, bools, cache⟩
    refine ⟨ints, fun field type => ?_⟩
    rcases type with bool | option | group
    · by_cases tcp : field = .isTcpIp
      · rw [tcp, coupled.byte_reread_tcp]
        rcases bools .isTcpIp rfl with zero | one
        · rw [zero]
          rfl
        · rw [one]
          rfl
      · rw [dsn.byte_reread_of_bool bool tcp]
        rcases bools field bool with zero | one
        · have other : field ≠ .noSsps := by
            rintro rfl
            rw [zero] at ssps
            cases ssps
          have cache : field ≠ .noCache := by
            rintro rfl
            cases bool
          rw [if_pos zero, zero, Dsn.init, Dsn.byte_setByte, Function.update_of_ne cache, Dsn.byte_setByte,
            Function.update_of_ne other, Dsn.byte_setByte, Function.update_of_ne tcp]
        · rw [one]
          rfl
    · rw [coupled.byte_reread_option option]
      split
      · rename_i same
        rw [same, cache]
      · rfl
    · have tls : field = .tlsVersion := by
        cases field <;> first | rfl | cases group
      rw [tls]
      exact dsn.byte_reread_tlsVersion

/-- A record with a port survives. -/
theorem numbers_survive_port : (Dsn.init.setInt .port 3307).NumbersSurvive := by
  have reached : (Dsn.init.setInt .port 3307).Reached := ⟨ch ';', lit "PORT=3307", rfl⟩
  refine (numbers_survive_iff reached (fun field _ value stored => by cases stored) (by decide)).mpr ⟨rfl, ?_, rfl⟩
  intro field _
  cases field <;> first | exact .inl rfl | exact .inr rfl

/-- With `AUTO_RECONNECT` the bitmap is written, and reading it turns `NO_CACHE` off. -/
theorem numbers_survive_reconnect : (Dsn.init.setOptionValue .reconnect true).Reached ∧
    ¬(Dsn.init.setOptionValue .reconnect true).NumbersSurvive := by
  refine ⟨⟨ch ';', lit "AUTO_RECONNECT=1", rfl⟩, ?_⟩
  rintro ⟨writer, written, -, same⟩
  have text : (Dsn.init.setOptionValue .reconnect true).dsnToString =
      some ⟨lit "OPTIONS=4194304;TCPIP=1;NO_SSPS=1", 33⟩ := rfl
  rw [text, some.injEq] at written
  subst written
  have kept := same .noCache (.inr (.inl rfl))
  have read : (parseConnString (ch ';') .init (lit "OPTIONS=4194304;TCPIP=1;NO_SSPS=1")).2.byte .noCache = 0 := by
    decide +kernel
  dsimp only at kept
  rw [read] at kept
  exact absurd kept (by decide)

end MaOdbc
