/-
**Saving a data source** (`MADB_SaveDSN`, and `MADB_ReadDSN` behind it).

Options are saved as the bits of `OPTIONS`, and no alias is. What is read back comes in the order of the table: the
bits first, then the fields that follow them, and `TCPIP`, which writes the bit of the named pipe again.

* `section_saved`: what a key has behind `MADB_SaveDSN`. `Saves.iniValue`: what `MADB_ReadDSN` finds there.
* `readKeys_switches`: the bits and the two fields that switch each other.
* `saveDsn_restored`: all fields survive.
-/

import MaOdbc.Dsn.Ini

namespace MaOdbc

open List FieldValue DsnField Option

/-- The installer: which of its calls succeed, and the message of `SQLInstallerError`. -/
structure Installer where
  validDsn : Text → Bool := fun _ => true
  removesDsn : Text → Bool := fun _ => true
  writesDsn : Text → Option Text → Bool := fun _ _ => true
  writes : Text → Text → Text → Bool := fun _ _ _ => true
  message : Text := []

/-- `SQLWritePrivateProfileString`: a key of a data source keeps what was written last. -/
def Installer.write (installer : Installer) (name key value : Text) (keys : IniSection) : Except Text IniSection :=
  if installer.writes name key value then .ok (Function.update keys key value) else .error installer.message

theorem or_of_bit {bits flag : UInt32} {i : Nat} (single : flag.toBitVec = BitVec.twoPow 32 i)
    (set : bits &&& flag ≠ 0) : bits ||| flag = bits := by
  rw [Ne, ← UInt32.toBitVec_inj, UInt32.toBitVec_and, single, BitVec.and_twoPow] at set
  rw [← UInt32.toBitVec_inj, UInt32.toBitVec_or, single]
  split at set
  · rename_i here
    refine BitVec.eq_of_getLsbD_eq fun j _ => ?_
    by_cases same : i = j
    · subst same
      rw [BitVec.getLsbD_or, here, Bool.true_or]
    · simp [BitVec.getLsbD_or, same]
  · exact absurd rfl set

namespace Dsn

variable (dsn : Dsn)

def savedValue (field : DsnField) : Option Text :=
  match field.type with
  | .bool => some (if dsn.byte field ≠ 0 then lit "1" else lit "0")
  | .int => some (printInt (dsn.int field))
  | .cboxgroup => some (printChar (dsn.byte field))
  | .string | .combo => (dsn.str field).filter (· ≠ [])
  | .option => none

/-- A round of the loop of `MADB_SaveDSN`. -/
def saveKey (installer : Installer) (name : Text) (keys : IniSection) (entry : DsnEntry) : Except Text IniSection :=
  if entry.isAlias then .ok keys
  else
    match dsn.savedValue entry.field with
    | none => .ok keys
    | some value => installer.write name entry.key value keys

/-- `MADB_SaveDSN`, with `ErrorMsg` if it fails. -/
def saveDsn (installer : Installer) (ini : OdbcIni) : Except Text OdbcIni :=
  match dsn.str .dsnName with
  | none => .error (lit "Invalid Data Source Name")
  | some name =>
    if !installer.validDsn name then .error (lit "Invalid Data Source Name")
    else if !installer.removesDsn name then .error installer.message
    else if !installer.writesDsn name (dsn.str .driver) then .error installer.message
    else
      -- `SQLWriteDSNToIni` writes the driver
      let keys : IniSection := Function.update (fun _ => []) (lit "DRIVER") ((dsn.str .driver).getD [])
      match dsnKeys.tail.foldlM (dsn.saveKey installer name) keys with
      | .error message => .error message
      | .ok keys =>
        match installer.write name (lit "OPTIONS") (printInt (dsn.int .options)) keys with
        | .error message => .error message
        | .ok keys => .ok (Function.update ini name keys)

/-! ### What the keys have -/

variable {dsn} {installer : Installer} {name : Text} {keys : IniSection}

def savedKey (dsn : Dsn) (keys : IniSection) (entry : DsnEntry) : IniSection :=
  if entry.isAlias then keys else ((dsn.savedValue entry.field).map (Function.update keys entry.key)).getD keys

theorem eq_of_saveKey {before after : IniSection} {entry : DsnEntry}
    (saved : dsn.saveKey installer name before entry = .ok after) : after = dsn.savedKey before entry := by
  rw [saveKey] at saved
  rw [savedKey]
  split at saved
  · rename_i other
    rw [if_pos other]
    exact (Except.ok.inj saved).symm
  · rename_i main
    rw [if_neg main]
    cases value : dsn.savedValue entry.field with
    | none =>
      rw [value] at saved
      exact (Except.ok.inj saved).symm
    | some text =>
      rw [value] at saved
      dsimp only at saved
      rw [Installer.write] at saved
      split at saved
      · exact (Except.ok.inj saved).symm
      · cases saved

theorem eq_of_saveKeys {entries : List DsnEntry} {before after : IniSection}
    (saved : entries.foldlM (dsn.saveKey installer name) before = .ok after) :
    after = entries.foldl dsn.savedKey before := by
  induction entries generalizing before with
  | nil => exact (Except.ok.inj saved).symm
  | cons entry entries ih =>
    rw [foldlM_cons] at saved
    cases first : dsn.saveKey installer name before entry with
    | error message =>
      rw [first] at saved
      cases saved
    | ok next =>
      rw [first] at saved
      rw [foldl_cons, ← eq_of_saveKey first]
      exact ih saved

theorem foldl_savedKey (start : IniSection) {entry : DsnEntry} (member : entry ∈ dsnKeys.tail) :
    dsnKeys.tail.foldl dsn.savedKey start entry.key =
      if entry.isAlias then start entry.key else (dsn.savedValue entry.field).getD (start entry.key) := by
  have distinct : ∀ first ∈ dsnKeys.tail, ∀ second ∈ dsnKeys.tail, first.key = second.key → first = second := by
    decide +kernel
  refine foldl_reaches (fun _ => True) (fun keys : IniSection => keys entry.key = _)
    (fun other => other = entry ∧ entry.isAlias = false ∧ (dsn.savedValue entry.field).isSome)
    (fun _ _ _ _ => trivial) (fun before other here _ either => ?_) trivial ?_
  · rw [savedKey]
    by_cases same : other = entry
    · subst same
      cases main : other.isAlias with
      | true => simpa [main] using either
      | false =>
        cases value : dsn.savedValue other.field with
        | none => simpa [main, value] using either
        | some text => simp
    · have apart : entry.key ≠ other.key := fun equal => same (distinct other here entry member equal.symm)
      have kept := either.resolve_right fun own => same own.1
      split
      · exact kept
      · cases dsn.savedValue other.field with
        | none => exact kept
        | some text => exact (Function.update_of_ne apart _ _).trans kept
  · cases main : entry.isAlias with
    | true => exact .inl rfl
    | false =>
      cases value : dsn.savedValue entry.field with
      | none => exact .inl rfl
      | some text => exact .inr ⟨entry, member, rfl, rfl, rfl⟩

/-- **What a key has** behind `MADB_SaveDSN`: the value of its field, or nothing. -/
def Saves (dsn : Dsn) (keys : IniSection) : Prop :=
  ∀ entry ∈ dsnKeys.tail, keys entry.key = if entry.isAlias then [] else (dsn.savedValue entry.field).getD []

theorem section_saved {ini ini' : OdbcIni} (saved : dsn.saveDsn installer ini = .ok ini') :
    ∃ name, dsn.str .dsnName = some name ∧ dsn.Saves (ini' name) := by
  rw [saveDsn] at saved
  split at saved
  · cases saved
  · rename_i name named
    refine ⟨name, named, fun entry member => ?_⟩
    split_ifs at saved
    dsimp only at saved
    split at saved
    · cases saved
    · rename_i keys written
      split at saved
      · cases saved
      · rename_i all last
        rw [Installer.write] at last
        split_ifs at last
        have mains : ∀ entry ∈ dsnKeys.tail,
            (entry.key = lit "OPTIONS" → entry.isAlias = false ∧ entry.field = .options) ∧
              (entry.key = lit "DRIVER" → entry.isAlias = false ∧ entry.field = .driver) := by
          decide +kernel
        rw [← Except.ok.inj saved, Function.update_self, ← Except.ok.inj last, Function.update_apply]
        split
        · rename_i options
          obtain ⟨main, field⟩ := (mains entry member).1 options
          rw [main, field]
          rfl
        · rw [eq_of_saveKeys written, foldl_savedKey _ member, Function.update_apply]
          by_cases driver : entry.key = lit "DRIVER"
          · obtain ⟨main, field⟩ := (mains entry member).2 driver
            rw [main, field, if_pos driver]
            dsimp only [savedValue, type]
            cases dsn.str .driver with
            | none => rfl
            | some value => by_cases empty : value = [] <;> simp [empty, filter_some]
          · rw [if_neg driver]

theorem savedValue_ne_nil {field : DsnField} {text : Text} (saved : dsn.savedValue field = some text) : text ≠ [] := by
  rw [savedValue] at saved
  split at saved
  · rw [← some.inj saved]
    split <;> decide
  · rw [← some.inj saved]
    exact (faithful_printInt _).nonempty
  · rw [← some.inj saved]
    exact (faithful_decimal _).nonempty
  · exact of_decide_eq_true (filter_eq_some_iff.mp saved).2
  · exact of_decide_eq_true (filter_eq_some_iff.mp saved).2
  · cases saved

/-! ### What is read back -/

/-- A field is read back as it was saved. A switch is read back as one that is on, or off. -/
def Restores (dsn read : Dsn) (field : DsnField) : Prop :=
  match field.type with
  | .string | .combo => read.str field = dsn.str field
  | .int => read.int field = dsn.int field
  | .cboxgroup => read.byte field = dsn.byte field
  | .bool | .option => read.byte field = 0 ↔ dsn.byte field = 0

/-- A record with strings that are not too long, with options that follow their bits, and with either a named pipe or
TCP/IP. -/
structure Savable (dsn : Dsn) : Prop where
  strings : ∀ field : DsnField, field.type = .string ∨ field.type = .combo →
    ∀ value, dsn.str field = some value → value ≠ [] ∧ value.length < 2048
  options : ∀ field : DsnField, field.type = .option → dsn.FollowsBit field
  switch : Xor (dsn.byte .isNamedPipe ≠ 0) (dsn.byte .isTcpIp ≠ 0)

variable {read : Dsn} {field : DsnField}

theorem restores_of_read {text : Text} (saved : dsn.savedValue field = some text)
    (stored : read.value field = field.read text) : dsn.Restores read field := by
  rw [savedValue] at saved
  rw [value, DsnField.read] at stored
  rw [Restores]
  cases type : field.type with
  | string | combo =>
    rw [type] at saved stored
    exact (FieldValue.text.inj stored).trans (filter_eq_some_iff.mp saved).1.symm
  | int =>
    rw [type] at saved stored
    dsimp only at saved stored ⊢
    rw [← some.inj saved, strtoul_printInt] at stored
    exact number.inj stored
  | bool =>
    rw [type] at saved stored
    dsimp only at saved stored ⊢
    rw [byte.inj stored, ← some.inj saved]
    split
    · rename_i nonzero
      exact iff_of_false (by decide) nonzero
    · rename_i zero
      exact iff_of_true (by decide) (not_not.mp zero)
  | cboxgroup =>
    rw [type] at saved stored
    dsimp only at saved stored ⊢
    rw [← some.inj saved, atoiByte_printChar] at stored
    rw [byte.inj stored]
    split
    · rename_i zero
      rw [zero]
      decide
    · rfl
  | option =>
    rw [type] at saved
    cases saved

section Reading

variable (saves : dsn.Saves keys)

include saves

/-- **What is found** for a field is what was saved. -/
theorem Saves.iniValue (other : field ≠ .dsnName) : iniValue keys field = dsn.savedValue field := by
  have entries : ∀ isAlias entry, iniKey isAlias field = some entry →
      keys entry.key = if isAlias then [] else (dsn.savedValue field).getD [] := by
    intro isAlias entry found
    have own : entry.field = field ∧ entry.isAlias = isAlias := by simpa using find?_some found
    rw [saves entry (mem_of_find?_eq_some found), own.1, own.2]
  have main : (iniKey false field).isSome := by
    cases field <;> first | exact absurd rfl other | decide
  obtain ⟨entry, found⟩ := isSome_iff_exists.mp main
  have saved : ((some (keys entry.key)).filter (· ≠ [])) = dsn.savedValue field := by
    rw [entries false entry found]
    cases value : dsn.savedValue field with
    | none => rfl
    | some text => exact filter_eq_some_iff.mpr ⟨rfl, decide_eq_true (savedValue_ne_nil value)⟩
  rw [MaOdbc.iniValue, found, map_some, saved]
  cases alias_found : iniKey true field with
  | none => rfl
  | some entry' =>
    rw [map_some, entries true entry' alias_found]
    rfl

/-- **The bits and the two switches**: `TCPIP` is read behind `OPTIONS`, and no key behind it has a value for them. -/
theorem Saves.readKeys_switches (read : Dsn) :
    ∃ before : Dsn, before.int .options = dsn.int .options ∧
      ∀ field ∈ [.options, .isTcpIp, isNamedPipe],
        (read.readKeys keys).int field = (before.storeValue .isTcpIp (keys (lit "TCPIP")) true).2.int field ∧
          (read.readKeys keys).byte field = (before.storeValue .isTcpIp (keys (lit "TCPIP")) true).2.byte field := by
  have empty : ∀ entry ∈ dsnKeys.tail, entry.field.type = .option → keys entry.key = [] := by
    intro entry member option
    rw [saves entry member, savedValue, option]
    exact ite_self _
  have tcp : keys (lit "TCPIP") ≠ [] := by
    rw [saves ⟨lit "TCPIP", .isTcpIp, false⟩ (by decide)]
    exact @savedValue_ne_nil dsn .isTcpIp _ rfl
  have bits : keys (lit "OPTIONS") = printInt (dsn.int .options) := saves ⟨lit "OPTIONS", .options, false⟩ (by decide)
  have no_alias : keys (lit "OPTION") = [] := saves ⟨lit "OPTION", .options, true⟩ (by decide)
  have no_pipe := empty ⟨lit "NamedPipe", .isNamedPipe, false⟩ (by decide) rfl
  have kept : ∀ {before : Dsn} {entry : DsnEntry}, keys entry.key = [] →
      (before.readKey keys entry).int .options = before.int .options := by
    intro before entry empty
    rw [readKey, if_neg (not_not_intro empty)]
    split <;> rfl
  have tail : dsnKeys.tail = dsnKeys.tail.take 5 ++ ⟨lit "TCPIP", .isTcpIp, false⟩ :: dsnKeys.drop 7 := rfl
  refine ⟨(dsnKeys.tail.take 5).foldl (fun dsn entry => dsn.readKey keys entry) read, ?_, fun field switch => ?_⟩
  · show ((((read.readKey keys _).readKey keys _).readKey keys ⟨lit "OPTIONS", .options, false⟩).readKey keys
      ⟨lit "OPTION", .options, true⟩ |>.readKey keys ⟨lit "NamedPipe", .isNamedPipe, false⟩).int .options = _
    rw [kept no_pipe, kept no_alias, readKey]
    dsimp only
    rw [bits, if_pos (faithful_printInt _).nonempty]
    exact (number.inj (value_storeValue_self _ .options _)).trans (strtoul_printInt _)
  · rw [readKeys, tail, foldl_append, foldl_cons, readKey, if_pos tcp]
    have apart : ∀ entry ∈ dsnKeys.drop 7, entry.field ∉ [options, .isTcpIp, .isNamedPipe] := by decide
    refine List.foldlRecOn (motive := fun after : Dsn => after.int field = _ ∧ after.byte field = _) _ _ ⟨rfl, rfl⟩
      fun after kept entry member => ?_
    have other : entry.field ≠ field := fun same => apart entry member (same ▸ switch)
    have quiet : keys entry.key ≠ [] → ¬ entry.field.Touches field := by
      rintro nonempty (same | ⟨-, option | same⟩ | ⟨-, same⟩ | ⟨-, same⟩)
      · exact other same
      · exact nonempty (empty entry (mem_of_mem_drop member) option)
      all_goals exact apart entry member (by rw [same]; decide)
    have frame := after.readKey_frame quiet (.inl other)
    exact ⟨frame.2.1.trans kept.1, frame.2.2.trans kept.2⟩

variable (savable : dsn.Savable)

include savable

/-- **The switches**: `TCPIP` writes the bit of the named pipe, which is there already. -/
theorem Saves.restores_switches (read : Dsn) :
    (read.readKeys keys).int .options = dsn.int .options ∧ dsn.Restores (read.readKeys keys) .isTcpIp ∧
      dsn.Restores (read.readKeys keys) .isNamedPipe := by
  obtain ⟨before, bits, switches⟩ := saves.readKeys_switches read
  have tcp : keys (lit "TCPIP") = if dsn.byte .isTcpIp ≠ 0 then lit "1" else lit "0" :=
    saves ⟨lit "TCPIP", .isTcpIp, false⟩ (by decide)
  have pipe := savable.options .isNamedPipe rfl
  rw [tcp, storeValue_eq] at switches
  rw [(switches .options (by decide)).1, Restores, Restores]
  dsimp only [type]
  rw [(switches .isTcpIp (by decide)).2, (switches .isNamedPipe (by decide)).2]
  rcases savable.switch with ⟨on, off⟩ | ⟨on, off⟩
  · rw [if_neg off]
    refine ⟨?_, iff_of_true rfl (not_not.mp off), iff_of_false (show (1 : UInt8) ≠ 0 by decide) on⟩
    rw [← bits]
    exact or_of_bit (i := 13) (by decide) (bits ▸ pipe.mp on)
  · rw [if_pos on]
    refine ⟨?_, iff_of_false (show (1 : UInt8) ≠ 0 by decide) on, iff_of_true rfl (not_not.mp off)⟩
    rw [← bits]
    exact and_not_of_disjoint (bits ▸ not_not.mp (mt pipe.mpr off))

/-- **All fields** are read back. -/
theorem Saves.restores (named : dsn.str .dsnName = some name) (field : DsnField) :
    dsn.Restores ((init.setStr .dsnName name).readKeys keys) field := by
  obtain ⟨bits, tcp, pipe⟩ := saves.restores_switches savable (init.setStr .dsnName name)
  by_cases alone : field.Alone
  · have value := (init.setStr .dsnName name).value_readKeys keys alone
    by_cases own : field = .dsnName
    · subst own
      exact (text.inj value).trans named.symm
    · rw [saves.iniValue own] at value
      cases saved : dsn.savedValue field with
      | some text =>
        rw [saved] at value
        exact restores_of_read saved value
      | none =>
        rw [saved, Dsn.value, map_none, getD_none, Dsn.value] at value
        rw [savedValue] at saved
        rw [Restores]
        cases type : field.type with
        | option => exact absurd type alone.1
        | bool | int | cboxgroup =>
          rw [type] at saved
          cases saved
        | string | combo =>
          rw [type] at saved value
          have null : dsn.str field = none := by
            by_contra found
            obtain ⟨text, found⟩ := ne_none_iff_exists'.mp found
            have nonempty := (savable.strings field (by simp [type]) text found).1
            exact filter_eq_none_iff.mp saved text found (decide_eq_true nonempty)
          exact (text.inj value).trans ((Function.update_of_ne own _ _).trans null.symm)
  · by_cases is_tcp : field = .isTcpIp
    · exact is_tcp ▸ tcp
    · by_cases is_pipe : field = .isNamedPipe
      · exact is_pipe ▸ pipe
      · by_cases options : field = .options
        · subst options
          exact bits
        · have option : field.type = .option := by
            by_contra other
            exact alone ⟨other, options, is_tcp⟩
          have follows := follows_readKeys (init.setStr .dsnName name) option is_pipe keys
          have both : _ ↔ _ := (followsBit_of_eq follows).trans (bits ▸ (savable.options field option).symm)
          rw [Restores, option]
          exact not_iff_not.mp both

end Reading

theorem length_decimal {n : Nat} (small : n < 10 ^ 20) : (decimal n).length ≤ 20 := by
  rw [decimal]
  split
  · decide
  · rw [length_map, length_reverse]
    exact (Nat.digits_length_le_iff (by decide) n).mpr small

theorem Saves.short (saves : dsn.Saves keys) (savable : dsn.Savable) :
    ∀ entry ∈ dsnKeys.tail, (keys entry.key).length < 2048 := by
  intro entry member
  rw [saves entry member]
  split
  · decide
  · have small := (dsn.int entry.field).toNat_lt
    have byte := (dsn.byte entry.field).toNat_lt
    have limit : 2 ^ 32 < 10 ^ 20 := by decide
    rw [savedValue]
    cases type : entry.field.type with
    | option => exact Nat.succ_pos _
    | bool =>
      dsimp only [getD_some]
      split <;> decide
    | string | combo =>
      dsimp only
      cases value : dsn.str entry.field with
      | none => exact Nat.succ_pos _
      | some text =>
        obtain ⟨nonempty, short⟩ := savable.strings entry.field (by simp [type]) text value
        simpa [nonempty, filter_some] using short
    | int =>
      dsimp only [getD_some, printInt]
      split
      · exact Nat.lt_of_le_of_lt (length_decimal (by omega)) (by decide)
      · exact Nat.lt_of_le_of_lt (Nat.succ_le_succ (length_decimal (by omega))) (by decide)
    | cboxgroup =>
      refine Nat.lt_of_le_of_lt (length_decimal ?_) (by decide)
      split <;> omega

/-- **A data source that is saved is read back**, into a record that is new. -/
theorem saveDsn_restored (savable : dsn.Savable) {ini ini' : OdbcIni} (saved : dsn.saveDsn installer ini = .ok ini') :
    ∃ name, dsn.str .dsnName = some name ∧
      (init.readDsn ini' (some (lit "DSN=" ++ name)) true).1 = true ∧
      ∀ field, dsn.Restores (init.readDsn ini' (some (lit "DSN=" ++ name)) true).2 field := by
  obtain ⟨name, named, saves⟩ := section_saved saved
  have read : init.readDsn ini' (some (lit "DSN=" ++ name)) true =
      (true, (init.setStr .dsnName name).readKeys (ini' name)) :=
    readLoop_eq (saves.short savable) _
  refine ⟨name, named, ?_⟩
  rw [read]
  exact ⟨rfl, saves.restores savable named⟩

/-- A record with a port, and with options that are saved as a negative number. -/
def smallDsn : Dsn :=
  (((({} : Dsn).setByte .isTcpIp 1).setStr .dsnName (lit "d")).setInt .port 3306).setInt .options 0x80000000

theorem saveDsn_restored_port :
    ∃ ini', smallDsn.saveDsn {} (fun _ _ => []) = .ok ini' ∧
      (init.readDsn ini' (some (lit "DSN=d")) true).2.int .port = 3306 := by
  have savable : smallDsn.Savable := by
    refine ⟨fun field _ value has => ?_, fun field option => ?_, .inr ⟨by decide, by decide⟩⟩
    · by_cases name : field = .dsnName
      · subst name
        rw [← some.inj has]
        decide
      · have null : smallDsn.str field = none := Function.update_of_ne name _ _
        cases null.symm.trans has
    · rw [FollowsBit]
      cases field <;> first | exact absurd option (by decide) | decide
  obtain ⟨ini', saved⟩ : ∃ ini', smallDsn.saveDsn {} (fun _ _ => []) = .ok ini' := ⟨_, rfl⟩
  obtain ⟨name, named, -, restored⟩ := saveDsn_restored savable saved
  cases named
  exact ⟨ini', saved, restored .port⟩

end Dsn

end MaOdbc
