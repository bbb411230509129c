/-
**The record of a data source** (`MADB_Dsn`, `MADB_DsnStoreValue` and `MADB_DsnUpdateOptionsFields`).

A key of a connection string names a field, or is another name for such a key (`DsnKeys`). Every field has one key that
is no alias, and is reached by it. `OPTIONS` has a bit for each field of type option; `NamedPipe` and `TCPIP` switch
each other.

* `storeValue_fst`: a value is always stored, since only fields of type bool and option depend on others.
* `str_storeValue`, `str_updateOptionsFields`: what becomes of the fields that are strings.
* `switchDependents_eq`: the two fields that switch each other. `updateOptionsFields_eq`: the fields behind the bits.
-/

import MaOdbc.Library.CText
import MaOdbc.Library.Decimal

namespace MaOdbc

/-- `enum_dsn_item_type`. -/
inductive DsnType
  | string
  | int
  | bool
  | combo
  | option
  | cboxgroup
  deriving DecidableEq, Repr

/-- The fields of `MADB_Dsn` that have a key. -/
inductive DsnField
  | dsnName
  | description
  | driver
  | options
  | isNamedPipe
  | isTcpIp
  | serverName
  | userName
  | password
  | catalog
  | port
  | initCommand
  | connectionTimeout
  | reconnect
  | connectPrompt
  | characterSet
  | traceFile
  | connCPluginsDir
  | sslKey
  | sslCert
  | sslCa
  | sslCaPath
  | sslCipher
  | sslVerify
  | tlsPeerFp
  | tlsPeerFpList
  | sslCrl
  | sslCrlPath
  | socket
  | saveFile
  | readMycnf
  | tlsVersion
  | forceTls
  | serverKey
  | tlsKeyPwd
  | interactiveClient
  | forceForwardOnly
  | compatMode
  | noSsps
  | noCache
  | app
  | connAttrs
  | isBrowserAuth
  | ignoreKeyring
  | jwt
  | rewriteCallSP
  | useWcharTypes
  | fallbackCspsStmt
  | testMode
  | readTimeout
  | writeTimeout
  deriving DecidableEq, Repr

namespace DsnField

/-- `Type` of the field's key. -/
def type : DsnField → DsnType
  | .options | .port | .connectionTimeout | .testMode | .readTimeout | .writeTimeout => .int
  | .isTcpIp | .sslVerify | .forceTls | .interactiveClient | .compatMode | .noSsps | .isBrowserAuth |
    .ignoreKeyring | .rewriteCallSP | .useWcharTypes | .fallbackCspsStmt => .bool
  | .catalog | .characterSet => .combo
  | .isNamedPipe | .reconnect | .connectPrompt | .readMycnf | .forceForwardOnly | .noCache => .option
  | .tlsVersion => .cboxgroup
  | _ => .string

/-- `FlagValue` of the field's key. -/
def flag : DsnField → UInt32
  | .isNamedPipe => 8192
  | .reconnect => 4194304
  | .connectPrompt => 16
  | .readMycnf => 65536
  | .forceForwardOnly => 2097152
  | .noCache => 1048576
  | _ => 0

end DsnField

/-- `MADB_DsnKey`. -/
structure DsnEntry where
  key : Text
  field : DsnField
  isAlias : Bool := false
  deriving DecidableEq, Repr

/-- `DsnKeys`. -/
def dsnKeys : List DsnEntry :=
  [⟨lit "DSN", .dsnName, false⟩,
    ⟨lit "DESCRIPTION", .description, false⟩,
    ⟨lit "DRIVER", .driver, false⟩,
    ⟨lit "OPTIONS", .options, false⟩,
    ⟨lit "OPTION", .options, true⟩,
    ⟨lit "NamedPipe", .isNamedPipe, false⟩,
    ⟨lit "TCPIP", .isTcpIp, false⟩,
    ⟨lit "SERVER", .serverName, false⟩,
    ⟨lit "UID", .userName, false⟩,
    ⟨lit "PWD", .password, false⟩,
    ⟨lit "DATABASE", .catalog, false⟩,
    ⟨lit "PORT", .port, false⟩,
    ⟨lit "INITSTMT", .initCommand, false⟩,
    ⟨lit "CONN_TIMEOUT", .connectionTimeout, false⟩,
    ⟨lit "AUTO_RECONNECT", .reconnect, false⟩,
    ⟨lit "NO_PROMPT", .connectPrompt, false⟩,
    ⟨lit "CHARSET", .characterSet, false⟩,
    ⟨lit "TRACE", .traceFile, false⟩,
    ⟨lit "PLUGIN_DIR", .connCPluginsDir, false⟩,
    ⟨lit "SSLKEY", .sslKey, false⟩,
    ⟨lit "SSLCERT", .sslCert, false⟩,
    ⟨lit "SSLCA", .sslCa, false⟩,
    ⟨lit "SSLCAPATH", .sslCaPath, false⟩,
    ⟨lit "SSLCIPHER", .sslCipher, false⟩,
    ⟨lit "SSLVERIFY", .sslVerify, false⟩,
    ⟨lit "TLSPEERFP", .tlsPeerFp, false⟩,
    ⟨lit "TLSPEERFPLIST", .tlsPeerFpList, false⟩,
    ⟨lit "SSLCRL", .sslCrl, false⟩,
    ⟨lit "SSLCRLPATH", .sslCrlPath, false⟩,
    ⟨lit "SOCKET", .socket, false⟩,
    ⟨lit "SAVEFILE", .saveFile, false⟩,
    ⟨lit "USE_MYCNF", .readMycnf, false⟩,
    ⟨lit "TLSVERSION", .tlsVersion, false⟩,
    ⟨lit "FORCETLS", .forceTls, false⟩,
    ⟨lit "SERVERKEY", .serverKey, false⟩,
    ⟨lit "TLSKEYPWD", .tlsKeyPwd, false⟩,
    ⟨lit "INTERACTIVE", .interactiveClient, false⟩,
    ⟨lit "FORWARDONLY", .forceForwardOnly, false⟩,
    ⟨lit "COMPAT_MODE", .compatMode, false⟩,
    ⟨lit "NO_SSPS", .noSsps, false⟩,
    ⟨lit "NO_CACHE", .noCache, false⟩,
    ⟨lit "APP", .app, false⟩,
    ⟨lit "CONN_ATTRS", .connAttrs, false⟩,
    ⟨lit "BROWSER_SSO", .isBrowserAuth, false⟩,
    ⟨lit "IGNORE_KEYRING_SSO", .ignoreKeyring, false⟩,
    ⟨lit "JWT", .jwt, false⟩,
    ⟨lit "REWRITE_CALL_SP", .rewriteCallSP, false⟩,
    ⟨lit "USE_WCHAR_TYPES", .useWcharTypes, false⟩,
    ⟨lit "FALLBACK_CSPS_STMT", .fallbackCspsStmt, false⟩,
    ⟨lit "TEST_MODE", .testMode, false⟩,
    ⟨lit "READ_TIMEOUT", .readTimeout, false⟩,
    ⟨lit "WRITE_TIMEOUT", .writeTimeout, false⟩,
    ⟨lit "SERVERNAME", .serverName, true⟩,
    ⟨lit "USER", .userName, true⟩,
    ⟨lit "PASSWORD", .password, true⟩,
    ⟨lit "DB", .catalog, true⟩,
    ⟨lit "SSLFP", .tlsPeerFp, true⟩,
    ⟨lit "SSLFPLIST", .tlsPeerFpList, true⟩]

open List Function DsnField

/-! ### The record -/

/-- `MADB_Dsn`: its strings, its fields of one byte and its integers. -/
structure Dsn where
  str : DsnField → Option Text := fun _ => none
  byte : DsnField → UInt8 := fun _ => 0
  int : DsnField → UInt32 := fun _ => 0

/-- An entry of `DsnKeysSwitch`. -/
structure DsnKeyDep where
  key : DsnField
  dependent : DsnField
  same : Bool
  deriving DecidableEq, Repr

/-- `DsnKeysSwitch`. -/
def dsnKeysSwitch : List DsnKeyDep := [⟨.isNamedPipe, .isTcpIp, false⟩, ⟨.isTcpIp, .isNamedPipe, false⟩]

/-- `TlsVersionName` and `TlsVersionBits`. -/
def tlsVersions : List (Text × UInt8) := [(lit "TLSv1.1", 1), (lit "TLSv1.2", 2), (lit "TLSv1.3", 4)]

/-- `strcasestr(text, pattern) != NULL`. -/
def hasNoCase (text pattern : Text) : Bool := (strstr (text.map lower) (pattern.map lower)).isSome

/-- The low byte of `atoi`. -/
def atoiByte (text : Text) : UInt8 := UInt8.ofNat (strtol text % 256).toNat

namespace Dsn

variable (dsn : Dsn)

def setStr (field : DsnField) (value : Text) : Dsn := { dsn with str := update dsn.str field (some value) }

def setByte (field : DsnField) (value : UInt8) : Dsn := { dsn with byte := update dsn.byte field value }

def setInt (field : DsnField) (value : UInt32) : Dsn := { dsn with int := update dsn.int field value }

/-- `MADB_DSN_Init`. -/
def init : Dsn := ((({} : Dsn).setByte .isTcpIp 1).setByte .noSsps 1).setByte .noCache 1

/-- `MADB_SetOptionValue`. -/
def setOptionValue (field : DsnField) (value : Bool) : Dsn :=
  let dsn := dsn.setByte field (if value then 1 else 0)
  dsn.setInt .options
    (if value then dsn.int .options ||| field.flag else dsn.int .options &&& ~~~field.flag)

/-- Whether a field is set, in `MADB_DsnSwitchDependents`. -/
def keySet (field : DsnField) : UInt8 :=
  match field.type with
  | .string | .combo => if (dsn.str field).any (· ≠ []) then 1 else 0
  | .option | .bool | .cboxgroup => dsn.byte field
  | .int => if dsn.int field ≠ 0 then 1 else 0

/-- The loop of `MADB_DsnSwitchDependents`. -/
def switchLoop (changed : DsnField) : List DsnKeyDep → Dsn → Bool × Dsn
  | [], dsn => (true, dsn)
  | dep :: deps, dsn =>
    if dep.key = changed then
      let value := (if dep.same then 1 else 0) = dsn.keySet changed
      match dep.dependent.type with
      | .bool => switchLoop changed deps (dsn.setByte dep.dependent (if value then 1 else 0))
      | .option => switchLoop changed deps (dsn.setOptionValue dep.dependent value)
      | _ => (false, dsn)
    else switchLoop changed deps dsn

/-- `MADB_DsnSwitchDependents`. -/
def switchDependents (changed : DsnField) : Bool × Dsn := switchLoop changed dsnKeysSwitch dsn

def tlsBits (value : Text) : UInt8 :=
  tlsVersions.foldl (fun bits version => if hasNoCase value version.1 then bits ||| version.2 else bits) 0

/-- `MADB_DsnStoreValue` for the key of a field. -/
def storeValue (field : DsnField) (value : Text) (overWrite : Bool) : Bool × Dsn :=
  let dsn := match field.type with
    | .string | .combo => if (dsn.str field).isSome ∧ !overWrite then dsn else dsn.setStr field value
    | .bool => if dsn.byte field ≠ 0 ∧ !overWrite then dsn else dsn.setByte field (atoiByte value)
    | .cboxgroup =>
      if dsn.byte field ≠ 0 ∧ !overWrite then dsn
      else dsn.setByte field (if atoiByte value = 0 then tlsBits value else atoiByte value)
    | .int => if dsn.int field ≠ 0 ∧ !overWrite then dsn else dsn.setInt field (UInt32.ofNat (strtoul value))
    | .option => if dsn.byte field ≠ 0 ∧ !overWrite then dsn else dsn.setOptionValue field (strtoul value ≠ 0)
  dsn.switchDependents field

/-- A round of the loop of `MADB_DsnUpdateOptionsFields`. -/
def updateOptionsField (entry : DsnEntry) : Dsn :=
  if !entry.isAlias ∧ entry.field.type = .option then
    let bit := dsn.int .options &&& entry.field.flag ≠ 0
    ((dsn.setByte entry.field (if bit then 1 else 0)).switchDependents entry.field).2
  else dsn

/-- `MADB_DsnUpdateOptionsFields`. -/
def updateOptionsFields : Dsn := dsnKeys.foldl updateOptionsField dsn

/-! ### What is stored -/

section Fields

variable (field : DsnField)

@[simp] theorem str_setStr (value : Text) : (dsn.setStr field value).str = update dsn.str field (some value) :=
  rfl

@[simp] theorem byte_setStr (value : Text) : (dsn.setStr field value).byte = dsn.byte := rfl

@[simp] theorem int_setStr (value : Text) : (dsn.setStr field value).int = dsn.int := rfl

@[simp] theorem str_setByte (value : UInt8) : (dsn.setByte field value).str = dsn.str := rfl

@[simp] theorem byte_setByte (value : UInt8) : (dsn.setByte field value).byte = update dsn.byte field value :=
  rfl

@[simp] theorem int_setByte (value : UInt8) : (dsn.setByte field value).int = dsn.int := rfl

@[simp] theorem str_setInt (value : UInt32) : (dsn.setInt field value).str = dsn.str := rfl

@[simp] theorem byte_setInt (value : UInt32) : (dsn.setInt field value).byte = dsn.byte := rfl

@[simp] theorem int_setInt (value : UInt32) : (dsn.setInt field value).int = update dsn.int field value := rfl

@[simp] theorem str_setOptionValue (value : Bool) : (dsn.setOptionValue field value).str = dsn.str := rfl

@[simp] theorem byte_setOptionValue (value : Bool) :
    (dsn.setOptionValue field value).byte = update dsn.byte field (if value then 1 else 0) :=
  rfl

@[simp] theorem int_setOptionValue (value : Bool) :
    (dsn.setOptionValue field value).int = update dsn.int .options
      (if value then dsn.int .options ||| field.flag else dsn.int .options &&& ~~~field.flag) :=
  rfl

end Fields

theorem switchLoop_spec (changed : DsnField) {deps : List DsnKeyDep}
    (switches : ∀ dep ∈ deps, dep.dependent.type = .bool ∨ dep.dependent.type = .option) (dsn : Dsn) :
    (switchLoop changed deps dsn).1 = true ∧ (switchLoop changed deps dsn).2.str = dsn.str := by
  induction deps generalizing dsn with
  | nil => exact ⟨rfl, rfl⟩
  | cons dep deps ih =>
    obtain ⟨head, tail⟩ := forall_mem_cons.mp switches
    rw [switchLoop]
    split
    · rcases head with type | type
      · rw [type]
        exact ih tail _
      · rw [type]
        exact ih tail _
    · exact ih tail dsn

theorem switchDependents_spec (changed : DsnField) :
    (dsn.switchDependents changed).1 = true ∧ (dsn.switchDependents changed).2.str = dsn.str :=
  switchLoop_spec changed (by decide) dsn

/-- **A value is always stored.** -/
theorem storeValue_fst (field : DsnField) (value : Text) (overWrite : Bool) :
    (dsn.storeValue field value overWrite).1 = true :=
  (switchDependents_spec _ field).1

theorem str_storeValue (field : DsnField) (value : Text) :
    (dsn.storeValue field value true).2.str =
      if field.type = .string ∨ field.type = .combo then update dsn.str field (some value) else dsn.str := by
  rw [storeValue, (switchDependents_spec _ field).2]
  cases type : field.type with
  | string | combo | bool | cboxgroup | int | option => simp

theorem str_updateOptionsFields : dsn.updateOptionsFields.str = dsn.str := by
  have one : ∀ (dsn : Dsn) (entry : DsnEntry), (dsn.updateOptionsField entry).str = dsn.str := by
    intro dsn entry
    rw [updateOptionsField]
    split
    · exact (switchDependents_spec _ _).2
    · rfl
  rw [updateOptionsFields]
  generalize dsnKeys = entries
  induction entries generalizing dsn with
  | nil => rfl
  | cons entry entries ih => rw [foldl_cons, ih, one]

/-! ### Switches and bits -/

/-- The bit of a field in `OPTIONS`, as the value of the field. -/
def bit (field : DsnField) : UInt8 := if dsn.int .options &&& field.flag ≠ 0 then 1 else 0

theorem switchDependents_eq (changed : DsnField) :
    (dsn.switchDependents changed).2 =
      if changed = .isNamedPipe then dsn.setByte .isTcpIp (if dsn.byte .isNamedPipe = 0 then 1 else 0)
      else if changed = .isTcpIp then dsn.setOptionValue .isNamedPipe (dsn.byte .isTcpIp = 0)
      else dsn := by
  by_cases pipe : changed = .isNamedPipe
  · subst pipe
    simp [switchDependents, dsnKeysSwitch, switchLoop, type, keySet, eq_comm]
  · by_cases tcp : changed = .isTcpIp
    · subst tcp
      simp [switchDependents, dsnKeysSwitch, switchLoop, type, keySet, eq_comm]
    · rw [if_neg pipe, if_neg tcp]
      simp [switchDependents, dsnKeysSwitch, switchLoop, Ne.symm pipe, Ne.symm tcp]

theorem updateOptionsField_eq (entry : DsnEntry) :
    dsn.updateOptionsField entry =
      if entry.isAlias = false ∧ entry.field.type = .option then
        ((dsn.setByte entry.field (dsn.bit entry.field)).switchDependents entry.field).2
      else dsn := by
  simp only [updateOptionsField, Bool.not_eq_true']
  rfl

theorem int_updateOptionsField (entry : DsnEntry) : (dsn.updateOptionsField entry).int = dsn.int := by
  rw [updateOptionsField_eq]
  split
  · rename_i refreshed
    have apart : entry.field ≠ .isTcpIp := by
      intro tcp
      rw [tcp] at refreshed
      cases refreshed.2
    rw [switchDependents_eq, if_neg apart]
    split
    · rfl
    · rfl
  · rfl

theorem byte_updateOptionsField (entry : DsnEntry) (field : DsnField) :
    (dsn.updateOptionsField entry).byte field =
      if entry.isAlias = false ∧ entry.field = field ∧ field.type = .option then dsn.bit field
      else if entry.isAlias = false ∧ entry.field = .isNamedPipe ∧ field = .isTcpIp then 1 - dsn.bit .isNamedPipe
      else dsn.byte field := by
  rw [updateOptionsField_eq]
  by_cases main : entry.isAlias = false
  · by_cases option : entry.field.type = .option
    · have apart : entry.field ≠ .isTcpIp := by
        intro tcp
        rw [tcp] at option
        cases option
      rw [if_pos ⟨main, option⟩, switchDependents_eq, if_neg apart]
      by_cases pipe : entry.field = .isNamedPipe
      · rw [if_pos pipe, pipe]
        by_cases tcp : field = .isTcpIp
        · subst tcp
          have other : ¬(entry.isAlias = false ∧ isNamedPipe = .isTcpIp ∧ isTcpIp.type = .option) := by
            rintro ⟨-, same, -⟩
            cases same
          rw [if_neg other, if_pos (c := _ ∧ isNamedPipe = _ ∧ _) ⟨main, rfl, rfl⟩]
          rw [byte_setByte, update_self, byte_setByte, update_self, bit]
          split
          · rfl
          · rfl
        · rw [if_neg fun (all : _ ∧ _ ∧ field = .isTcpIp) => tcp all.2.2]
          rw [byte_setByte, update_of_ne tcp, byte_setByte, update_apply]
          by_cases same : field = .isNamedPipe
          · subst same
            rw [if_pos rfl, if_pos ⟨main, rfl, rfl⟩]
          · rw [if_neg same, if_neg fun all => same all.2.1.symm]
      · rw [if_neg pipe, if_neg fun (all : _ ∧ entry.field = _ ∧ field = .isTcpIp) => pipe all.2.1]
        rw [byte_setByte, update_apply]
        by_cases same : field = entry.field
        · subst same
          rw [if_pos rfl, if_pos ⟨main, rfl, option⟩]
        · rw [if_neg same, if_neg fun all => same all.2.1.symm]
    · rw [if_neg fun both => option both.2, if_neg, if_neg]
      · rintro ⟨-, pipe, -⟩
        rw [pipe] at option
        exact option rfl
      · rintro ⟨-, rfl, type⟩
        exact option type
  · rw [if_neg fun all => main all.1, if_neg fun all => main all.1, if_neg fun all => main all.1]

theorem foldl_updateOptionsField (entries : List DsnEntry) :
    (entries.foldl updateOptionsField dsn).int = dsn.int ∧
      ∀ field, (entries.foldl updateOptionsField dsn).byte field =
        if (∃ entry ∈ entries, entry.isAlias = false ∧ entry.field = field) ∧ field.type = .option then dsn.bit field
        else if (∃ entry ∈ entries, entry.isAlias = false ∧ entry.field = .isNamedPipe) ∧ field = .isTcpIp then
          1 - dsn.bit .isNamedPipe
        else dsn.byte field := by
  induction entries generalizing dsn with
  | nil =>
    refine ⟨rfl, fun field => ?_⟩
    rw [if_neg (by rintro ⟨⟨_, none, -⟩, -⟩; cases none), if_neg (by rintro ⟨⟨_, none, -⟩, -⟩; cases none)]
    rfl
  | cons entry entries ih =>
    obtain ⟨ints, bytes⟩ := ih (dsn.updateOptionsField entry)
    rw [foldl_cons]
    have int := dsn.int_updateOptionsField entry
    have bits : (dsn.updateOptionsField entry).bit = dsn.bit := by
      funext field
      rw [bit, bit, int]
    refine ⟨ints.trans int, fun field => ?_⟩
    rw [bytes, bits, byte_updateOptionsField]
    simp only [exists_mem_cons_iff]
    by_cases option : field.type = .option
    · have apart : field ≠ .isTcpIp := by
        rintro rfl
        cases option
      simp only [option, apart, and_true, and_false, ↓reduceIte]
      split
      · rename_i later
        rw [if_pos (.inr later)]
      · rename_i never
        split
        · rename_i now
          rw [if_pos (.inl now)]
        · rename_i other
          rw [if_neg (not_or_intro other never)]
    · simp only [option, and_false, ↓reduceIte]
      split
      · rename_i later
        rw [if_pos ⟨.inr later.1, later.2⟩]
      · rename_i never
        split
        · rename_i now
          rw [if_pos ⟨.inl ⟨now.1, now.2.1⟩, now.2.2⟩]
        · rename_i other
          rw [if_neg]
          rintro ⟨here | later, tcp⟩
          · exact other ⟨here.1, here.2, tcp⟩
          · exact never ⟨later, tcp⟩

theorem dsnKeys_main (field : DsnField) : ∃ entry ∈ dsnKeys, entry.isAlias = false ∧ entry.field = field := by
  cases field <;> decide

/-- **The fields behind the bits.** -/
theorem updateOptionsFields_eq :
    dsn.updateOptionsFields.int = dsn.int ∧ ∀ field, dsn.updateOptionsFields.byte field =
      if field.type = .option then dsn.bit field
      else if field = .isTcpIp then 1 - dsn.bit .isNamedPipe
      else dsn.byte field := by
  obtain ⟨int, bytes⟩ := dsn.foldl_updateOptionsField dsnKeys
  refine ⟨int, fun field => ?_⟩
  rw [updateOptionsFields, bytes]
  simp only [dsnKeys_main, true_and]

end Dsn

end MaOdbc
