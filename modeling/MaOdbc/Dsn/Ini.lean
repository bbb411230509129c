/-
**Many connection strings, and data sources in `odbc.ini`** (`MADB_ReadDSN` and `MADB_ReadConnString`).

Each call of `MADB_ParseConnString` stores some values, in order, whether it succeeds or not. One value keeps the fields
of type option in step with their bits, so every sequence of calls does.

The keys of a data source are read in the order of their table: `OPTIONS` before the options, and an alias behind the
key that it stands for. A connection string is read before them, for the name of the data source, and again behind
them.

* `options_follow_bits`: what holds behind all calls.
* `value_readKeys`, `bit_readKeys`: what the keys leave in a field, and in the bit of an option.
* `follows_readKeys`: an option follows its bit.
* `readConnString_precedence`: the string comes first, then the data source, then the defaults.
-/

import MaOdbc.Dsn.Buffer
import MaOdbc.Dsn.Numbers

namespace MaOdbc

open List

theorem trimmed_readPairs (delimiter : Byte) (rounds : Nat) (text : Text) :
    ∀ store ∈ (readPairs delimiter rounds text).2, trim store.2 = store.2 := by
  induction rounds generalizing text with
  | zero => exact fun store member => by cases member
  | succ rounds ih =>
    cases text with
    | nil => exact fun store member => by cases member
    | cons byte key =>
      rw [readPairs]
      split
      · exact ih key
      · split
        · exact fun store member => by cases member
        · dsimp only
          split
          · split
            · exact fun store member => by cases member
            · exact ih _
          · split
            · intro store member
              rw [mem_singleton.mp member]
              exact trim_trim _
            · intro store member
              rcases mem_cons.mp member with rfl | later
              · exact trim_trim _
              · exact ih _ store later

namespace Dsn

variable {dsn : Dsn}

/-- A field of type option is set exactly when its bit is. -/
def FollowsBit (dsn : Dsn) (field : DsnField) : Prop :=
  dsn.byte field ≠ 0 ↔ dsn.int .options &&& field.flag ≠ 0

theorem followsBit_of_eq {field : DsnField} (same : dsn.byte field = dsn.bit field) : dsn.FollowsBit field := by
  rw [FollowsBit, same, bit]
  split
  · rename_i set
    exact ⟨fun _ => set, fun _ => by decide⟩
  · rename_i clear
    exact ⟨fun nonzero => absurd rfl nonzero, fun set => absurd set clear⟩

theorem follows_assignStores {other : DsnField} (option : other.type = .option) (stores : List Store)
    (follows : dsn.byte other = dsn.bit other ∨ ∃ store ∈ stores, store.1 = other ∨ store.1 = .options) :
    (dsn.assignStores stores).byte other = (dsn.assignStores stores).bit other :=
  foldl_reaches (fun _ => True) (fun dsn : Dsn => dsn.byte other = dsn.bit other)
    (fun store : Store => store.1 = other ∨ store.1 = .options) (fun _ _ _ _ => trivial)
    (fun before store _ _ either => before.follows_assign option store.1 store.2 either) trivial follows

theorem Coupled.assignStores (coupled : dsn.Coupled) {stores : List Store}
    (trimmed : ∀ store ∈ stores, trim store.2 = store.2) : (dsn.assignStores stores).Coupled :=
  List.foldlRecOn stores _ coupled fun _ kept store member => kept.assign store.1 (trimmed store member)

end Dsn

/-! ### Sequences of calls -/

/-- A call of `MADB_ParseConnString`. -/
structure ParseCall where
  memory : Text
  length : Option Nat
  delimiter : Byte

namespace ParseCall

variable (call : ParseCall)

def buffer : Text := call.memory.take (call.length.getD (connStringLength call.memory call.delimiter))

def stores : List Store := (readPairs call.delimiter call.buffer.length call.buffer).2

def Sets (field : DsnField) : Prop := ∃ store ∈ call.stores, store.1 = field

theorem parseMemory_eq (dsn : Dsn) :
    (parseMemory dsn call.memory call.length call.delimiter).2 = dsn.assignStores call.stores :=
  congrArg Prod.snd (parseLoopIn_eq call.delimiter _ _ dsn)

end ParseCall

def Dsn.afterCalls (calls : List ParseCall) : Dsn :=
  calls.foldl (fun dsn call => (parseMemory dsn call.memory call.length call.delimiter).2) .init

theorem Dsn.afterCalls_eq (calls : List ParseCall) :
    Dsn.afterCalls calls = Dsn.init.assignStores (calls.flatMap ParseCall.stores) := by
  rw [afterCalls]
  generalize Dsn.init = dsn
  induction calls generalizing dsn with
  | nil => rfl
  | cons call calls ih =>
    rw [foldl_cons, ih, call.parseMemory_eq, flatMap_cons, assignStores, assignStores, assignStores,
      foldl_append]

/-- **Behind all calls** the fields of type option follow their bits, the one of the cache as soon as some text has set
it or all options, and there is either a named pipe or TCP/IP. -/
theorem options_follow_bits (calls : List ParseCall) :
    (∀ field : DsnField, field.type = .option →
        field ≠ .noCache ∨ (∃ call ∈ calls, call.Sets .noCache ∨ call.Sets .options) →
        (Dsn.afterCalls calls).FollowsBit field) ∧
      Xor ((Dsn.afterCalls calls).byte .isNamedPipe ≠ 0) ((Dsn.afterCalls calls).byte .isTcpIp ≠ 0) := by
  have trimmed : ∀ store ∈ calls.flatMap ParseCall.stores, trim store.2 = store.2 := by
    intro store member
    obtain ⟨call, -, here⟩ := mem_flatMap.mp member
    exact trimmed_readPairs _ _ _ store here
  have coupled := Dsn.coupled_init.assignStores trimmed
  rw [Dsn.afterCalls_eq]
  constructor
  · intro field option set
    refine Dsn.followsBit_of_eq ?_
    by_cases cache : field = .noCache
    · subst cache
      obtain ⟨call, member, sets⟩ := set.resolve_left fun other => other rfl
      refine Dsn.follows_assignStores rfl _ (.inr ?_)
      rcases sets with ⟨store, here, same⟩ | ⟨store, here, same⟩
      · exact ⟨store, mem_flatMap.mpr ⟨call, member, here⟩, .inl same⟩
      · exact ⟨store, mem_flatMap.mpr ⟨call, member, here⟩, .inr same⟩
    · exact coupled.options field option cache
  · have switch := coupled.switch
    by_cases tcp : (Dsn.init.assignStores (calls.flatMap ParseCall.stores)).byte .isTcpIp = 0
    · rw [if_pos tcp] at switch
      refine .inl ⟨?_, not_not_intro tcp⟩
      rw [switch]
      decide
    · rw [if_neg tcp] at switch
      exact .inr ⟨tcp, not_not_intro switch⟩

open Dsn Option

/-! ### Data sources -/

/-- The values of the keys of a data source. A key that is not there has an empty one. -/
abbrev IniSection := Text → Text

/-- `odbc.ini`, by the names of its data sources. -/
abbrev OdbcIni := Text → IniSection

namespace Dsn

variable (dsn : Dsn)

/-- The loop of `MADB_ReadDSN`. There is room for 2047 bytes in `KeyVal`. -/
def readLoop (keys : IniSection) (overWrite : Bool) : List DsnEntry → Dsn → Bool × Dsn
  | [], dsn => (true, dsn)
  | entry :: entries, dsn =>
    let keyVal := (keys entry.key).take 2047
    if keyVal ≠ [] then
      let stored := dsn.storeValue entry.field keyVal overWrite
      if !stored.1 then stored else readLoop keys overWrite entries stored.2
    else if entry.field.type = .option then
      readLoop keys overWrite entries (dsn.setByte entry.field (dsn.bit entry.field))
    else readLoop keys overWrite entries dsn

/-- `MADB_ReadDSN`. -/
def readDsn (ini : OdbcIni) (keyValue : Option Text) (overWrite : Bool) : Bool × Dsn :=
  match keyValue with
  | none =>
    match dsn.str .dsnName with
    | none => (false, dsn)
    | some name => readLoop (ini name) overWrite dsnKeys.tail dsn
  | some keyValue =>
    match behind keyValue (ch '=') with
    | none => (false, dsn)
    | some name => readLoop (ini name) overWrite dsnKeys.tail (dsn.setStr .dsnName name)

/-- `MADB_ReadConnString`. -/
def readConnString (ini : OdbcIni) (call : ParseCall) : Bool × Dsn :=
  let parsed := parseMemory dsn call.memory call.length call.delimiter
  if !parsed.1 then parsed
  else if (parsed.2.str .dsnName).isSome ∧ (parsed.2.str .driver).getD [] = [] then
    (true, (parseMemory (parsed.2.readDsn ini none true).2 call.memory call.length call.delimiter).2)
  else parsed

/-! ### One key -/

/-- A round of the loop, with a value that is not too long and that replaces what is there. -/
def readKey (keys : IniSection) (entry : DsnEntry) : Dsn :=
  if keys entry.key ≠ [] then (dsn.storeValue entry.field (keys entry.key) true).2
  else if entry.field.type = .option then dsn.setByte entry.field (dsn.bit entry.field)
  else dsn

def readKeys (keys : IniSection) : Dsn := dsnKeys.tail.foldl (fun dsn entry => dsn.readKey keys entry) dsn

theorem readLoop_eq {keys : IniSection} {entries : List DsnEntry}
    (short : ∀ entry ∈ entries, (keys entry.key).length < 2048) (dsn : Dsn) :
    readLoop keys true entries dsn = (true, entries.foldl (fun dsn entry => dsn.readKey keys entry) dsn) := by
  induction entries generalizing dsn with
  | nil => rfl
  | cons entry entries ih =>
    obtain ⟨here, later⟩ := forall_mem_cons.mp short
    rw [readLoop, foldl_cons, readKey, take_of_length_le (Nat.le_of_lt_succ here)]
    dsimp only
    split
    · rw [storeValue_fst]
      exact ih later _
    · split
      · exact ih later _
      · exact ih later dsn

section Key

variable {keys : IniSection} {entry : DsnEntry} {field : DsnField}

theorem readKey_frame (apart : keys entry.key ≠ [] → ¬ entry.field.Touches field)
    (other : entry.field ≠ field ∨ field.type ≠ .option) :
    (dsn.readKey keys entry).str field = dsn.str field ∧ (dsn.readKey keys entry).int field = dsn.int field ∧
      (dsn.readKey keys entry).byte field = dsn.byte field := by
  rw [readKey]
  split
  · exact dsn.storeValue_frame (apart ‹_›) _
  · split
    · rename_i option
      have different : field ≠ entry.field := by
        rintro rfl
        exact other.elim (fun same => same rfl) (fun type => type option)
      simp [different]
    · exact ⟨rfl, rfl, rfl⟩

theorem value_readKey (alone : field.Alone) :
    (dsn.readKey keys entry).value field =
      if entry.field = field ∧ keys entry.key ≠ [] then field.read (keys entry.key) else dsn.value field := by
  split
  · rename_i own
    rw [readKey, if_pos own.2, own.1]
    exact dsn.value_storeValue_self field _
  · rename_i own
    have apart : keys entry.key ≠ [] → ¬ entry.field.Touches field := fun nonempty =>
      alone.not_touches fun same => own ⟨same, nonempty⟩
    obtain ⟨str, int, byte⟩ := dsn.readKey_frame apart (.inr alone.1)
    rw [value, value, str, int, byte]

end Key

/-! ### One option -/

/-- What a value for an option, or for all options, makes of the option. -/
def flagOf (field : DsnField) (store : Store) : UInt8 :=
  if store.1 = .options then if UInt32.ofNat (strtoul store.2) &&& field.flag ≠ 0 then 1 else 0
  else if strtoul store.2 ≠ 0 then 1 else 0

section Flag

variable {field : DsnField} (option : field.type = .option) (unpiped : field ≠ .isNamedPipe)

include option unpiped

theorem bit_storeValue (changed : DsnField) (text : Text) :
    (dsn.storeValue changed text true).2.bit field =
      if changed = field ∨ changed = .options then flagOf field (changed, text) else dsn.bit field := by
  by_cases options : changed = .options
  · subst options
    rw [if_pos (.inr rfl), storeValue_eq, flagOf, if_pos rfl, bit]
    simp [DsnField.type]
  · by_cases switch : changed.type = .option
    · have set : (dsn.storeValue changed text true).2.bit field =
          (dsn.setOptionValue changed (strtoul text ≠ 0)).bit field := by
        rw [storeValue_eq, switch]
        dsimp only
        split
        · rename_i pipe
          subst pipe
          rfl
        · rfl
      rw [set, bit_setOptionValue dsn switch option, flagOf, if_neg options]
      by_cases same : field = changed
      · subst same
        simp
      · rw [if_neg same, if_neg (not_or.mpr ⟨Ne.symm same, options⟩)]
    · have different : changed ≠ field := fun same => switch (same ▸ option)
      rw [if_neg (by simp [different, options])]
      by_cases tcp : changed = .isTcpIp
      · subst tcp
        rw [storeValue_eq]
        exact (bit_setOptionValue _ rfl option _).trans (if_neg unpiped)
      · rw [bit, (dsn.storeValue_frame (DsnField.not_touches_options options tcp switch) text).2.1, bit]

theorem bit_assignStores (stores : List Store) :
    (dsn.assignStores stores).bit field =
      ((stores.reverse.find? fun store => store.1 = field ∨ store.1 = .options).map (flagOf field)).getD
        (dsn.bit field) := by
  refine foldl_last (fun dsn : Dsn => dsn.bit field) (fun before store _ => ?_) dsn
  have stored := before.bit_storeValue option unpiped store.1 store.2
  simp only [decide_eq_true_eq]
  rw [← stored, assign_snd]
  split
  · rw [bit, (updateOptionsFields_eq _).1, bit]
  · rfl

theorem bit_readKey (keys : IniSection) (entry : DsnEntry) :
    (dsn.readKey keys entry).bit field =
      if (entry.field = field ∨ entry.field = .options) ∧ keys entry.key ≠ [] then
        flagOf field (entry.field, keys entry.key)
      else dsn.bit field := by
  rw [readKey]
  by_cases nonempty : keys entry.key ≠ []
  · rw [if_pos nonempty, dsn.bit_storeValue option unpiped]
    simp [nonempty]
  · rw [if_neg nonempty]
    split
    · exact (if_neg fun both => nonempty both.2).symm
    · exact (if_neg fun both => nonempty both.2).symm

/-- **An option follows its bit** once its key has been read, since `OPTIONS` has been read before. -/
theorem follows_readKeys (keys : IniSection) : (dsn.readKeys keys).byte field = (dsn.readKeys keys).bit field := by
  have own : ∃ entry ∈ dsnKeys.drop 5, entry.field = field := by
    have all : ∀ field ∈ optionFields, ∃ entry ∈ dsnKeys.drop 5, entry.field = field := by decide
    exact all field (mem_of_option option)
  have behind : ∀ entry ∈ dsnKeys.drop 5, entry.field ≠ .options := by decide
  rw [readKeys, ← take_append_drop 4 dsnKeys.tail, foldl_append]
  generalize List.foldl _ dsn _ = dsn
  refine foldl_reaches (fun _ => True) (fun dsn : Dsn => dsn.byte field = dsn.bit field)
    (fun entry : DsnEntry => entry.field = field) (fun _ _ _ _ => trivial) (fun before entry member _ either => ?_)
    trivial (.inr own)
  by_cases same : entry.field = field
  · rw [readKey, same]
    by_cases nonempty : keys entry.key ≠ []
    · rw [if_pos nonempty, storeValue_eq, option]
      dsimp only
      rw [if_neg unpiped]
      exact follows_setOptionValue option option _ fun other => absurd rfl other
    · rw [if_neg nonempty, if_pos option, byte_setByte, Function.update_self]
      rfl
  · have apart : ¬ entry.field.Touches field := by
      rintro (own | ⟨rfl, -⟩ | ⟨rfl, -⟩ | ⟨rfl, -⟩)
      · exact same own
      · cases option
      · cases option
      · exact unpiped rfl
    rw [(before.readKey_frame (fun _ => apart) (.inl same)).2.2, before.bit_readKey option unpiped,
      if_neg (by simp [same, behind entry member])]
    exact either.resolve_right same

end Flag

end Dsn

/-! ### Where a value comes from -/

/-- The key of a field in a data source, or its alias. -/
def iniKey (isAlias : Bool) (field : DsnField) : Option DsnEntry :=
  dsnKeys.tail.find? fun entry => entry.field = field ∧ entry.isAlias = isAlias

/-- The value of a field in a data source: the one of its alias, or else the one of its key. -/
def iniValue (keys : IniSection) (field : DsnField) : Option Text :=
  (((iniKey true field).map fun entry => keys entry.key).filter (· ≠ [])).or
    (((iniKey false field).map fun entry => keys entry.key).filter (· ≠ []))

theorem entries_of_field (field : DsnField) :
    (dsnKeys.tail.filter fun entry => entry.field = field).reverse =
      (iniKey true field).toList ++ (iniKey false field).toList := by
  cases field <;> decide +kernel

theorem entries_of_option {field : DsnField} (option : field.type = .option) :
    (dsnKeys.tail.filter fun entry => entry.field = field ∨ entry.field = .options).reverse =
      (dsnKeys.tail.filter fun entry => entry.field = field).reverse ++
        (dsnKeys.tail.filter fun entry => entry.field = .options).reverse := by
  have all : ∀ field ∈ optionFields,
      (dsnKeys.tail.filter fun entry => entry.field = field ∨ entry.field = .options).reverse =
        (dsnKeys.tail.filter fun entry => entry.field = field).reverse ++
          (dsnKeys.tail.filter fun entry => entry.field = .options).reverse := by
    decide +kernel
  exact all field (mem_of_option option)

theorem find?_toList (keys : IniSection) (entry : Option DsnEntry) :
    (entry.toList.find? fun entry => keys entry.key ≠ []).map (fun entry => keys entry.key) =
      (entry.map fun entry => keys entry.key).filter (· ≠ []) := by
  cases entry with
  | none => rfl
  | some entry => by_cases empty : keys entry.key = [] <;> simp [empty, filter_some]

theorem find?_entries {α : Type*} (keys : IniSection) (field : DsnField) (written : DsnField → Text → α) :
    ((dsnKeys.tail.filter fun entry => entry.field = field).reverse.find? fun entry => keys entry.key ≠ []).map
      (fun entry => written entry.field (keys entry.key)) = (iniValue keys field).map (written field) := by
  have value : ((dsnKeys.tail.filter fun entry => entry.field = field).reverse.find? fun entry =>
      keys entry.key ≠ []).map (fun entry => keys entry.key) = iniValue keys field := by
    rw [entries_of_field, find?_append, Option.map_or, find?_toList, find?_toList]
    rfl
  rw [← value, Option.map_map]
  refine map_congr fun entry found => ?_
  have own := of_mem_filter (mem_reverse.mp (mem_of_find?_eq_some found))
  rw [of_decide_eq_true own]
  rfl

namespace Dsn

variable (dsn : Dsn) (keys : IniSection) {field : DsnField}

/-- **A field** behind the keys of a data source. -/
theorem value_readKeys (alone : field.Alone) :
    (dsn.readKeys keys).value field = ((iniValue keys field).map field.read).getD (dsn.value field) := by
  rw [← find?_entries keys field fun _ value => field.read value, ← filter_reverse, find?_filter]
  refine foldl_last (fun dsn : Dsn => dsn.value field) (fun before entry _ => ?_) dsn
  rw [before.value_readKey alone]
  simp

/-- **The bit of an option** behind the keys of a data source. -/
theorem bit_readKeys (option : field.type = .option) (unpiped : field ≠ .isNamedPipe) :
    (dsn.readKeys keys).bit field =
      (((iniValue keys field).map fun value => flagOf field (field, value)).or
        ((iniValue keys .options).map fun value => flagOf field (.options, value))).getD (dsn.bit field) := by
  rw [← find?_entries keys field fun changed value => flagOf field (changed, value),
    ← find?_entries keys .options fun changed value => flagOf field (changed, value), ← map_or,
    ← find?_append, ← entries_of_option option, ← filter_reverse, find?_filter]
  refine foldl_last (fun dsn : Dsn => dsn.bit field) (fun before entry _ => ?_) dsn
  rw [before.bit_readKey option unpiped]
  simp

end Dsn

/-- The last value of a field in a connection string. -/
def ParseCall.last (call : ParseCall) (field : DsnField) : Option Text :=
  (call.stores.reverse.find? (·.1 = field)).map (·.2)

/-- What the last value of an option, or of all options, in a connection string makes of the option. -/
def ParseCall.lastFlag (call : ParseCall) (field : DsnField) : Option UInt8 :=
  (call.stores.reverse.find? fun store => store.1 = field ∨ store.1 = .options).map (flagOf field)

theorem Dsn.value_last (dsn : Dsn) {field : DsnField} (alone : field.Alone) (call : ParseCall) :
    (dsn.assignStores call.stores).value field = ((call.last field).map field.read).getD (dsn.value field) := by
  rw [dsn.value_assignStores alone, ParseCall.last, Option.map_map]
  rfl

section Precedence

variable {ini : OdbcIni} (short : ∀ name key, (ini name key).length < 2048) {call : ParseCall} {name : Text}
  (accepted : (parseMemory .init call.memory call.length call.delimiter).1 = true)
  (named : call.last .dsnName = some name) (driverless : call.last .driver = none)

include short accepted named driverless

theorem readConnString_eq :
    init.readConnString ini call =
      (true, ((init.assignStores call.stores).readKeys (ini name)).assignStores call.stores) := by
  have known : (init.assignStores call.stores).str .dsnName = some name := by
    have value : (init.assignStores call.stores).value .dsnName = _ :=
      init.value_last ⟨by decide, by decide, by decide⟩ call
    rw [named] at value
    exact FieldValue.text.inj value
  have unknown : (init.assignStores call.stores).str .driver = none := by
    have value : (init.assignStores call.stores).value .driver = _ :=
      init.value_last ⟨by decide, by decide, by decide⟩ call
    rw [driverless] at value
    exact FieldValue.text.inj value
  rw [readConnString, accepted, call.parseMemory_eq, known, unknown, call.parseMemory_eq, readDsn, known]
  dsimp only
  rw [readLoop_eq fun entry _ => short name entry.key]
  rfl

end Precedence

/-- A data source with two keys of the database, and the options as a number. -/
def smallIni : OdbcIni := fun _ key =>
  if key = lit "PORT" then lit "2" else if key = lit "DATABASE" then lit "a" else if key = lit "DB" then lit "b"
  else if key = lit "OPTION" then lit "4194304" else []

def smallCall : ParseCall := ⟨lit "DSN=d;port=1" ++ [0], none, ch ';'⟩

end MaOdbc
