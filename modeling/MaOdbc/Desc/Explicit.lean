/-
**Descriptors of the application** (`ma_desc.c`, with what `ma_statement.c` does to them).

A connection keeps its explicit descriptors in `Dbc->Descrs`, and an explicit descriptor keeps the statements that
use it in `Stmts`. The elements of the list are part of the descriptors, with their links.

* `Connection`: what of it the operations read and write. A handle that is not live is refused by the driver
  manager.
* `Consistent`: the list has the live descriptors, and a descriptor has the statements that use it.
* `Sound`: with what the operations rely on; `sound_*`: what they keep.
* `runs_consistent_iff`: the runs that stay consistent.
-/

import MaOdbc.Library.CText
import MaOdbc.Library.Links

set_option linter.unusedSectionVars false

namespace MaOdbc

open List Function Option

/-- The two application descriptors of a statement, with their `DescType`. -/
inductive Role
  | ard
  | apd
  deriving DecidableEq, Repr

inductive DescError
  | invalidHandle
  | errHY017
  | errHY024
  deriving DecidableEq, Repr

/-- A descriptor that the application has allocated, `MADB_Desc` with `AppType`. -/
structure ExplicitDesc (σ : Type*) where
  /-- `DescType`; there is none as long as it is `MADB_DESC_UNKNOWN`. -/
  descType : Option Role := none
  stmts : List σ := []
  deriving DecidableEq, Repr

/-- A descriptor handle. An implicit descriptor is one of a statement, `none` stands for the IRD and the IPD. -/
inductive DescHandle (δ σ : Type*)
  | explicit (desc : δ)
  | implicit (role : Option Role) (stmt : σ)
  deriving DecidableEq, Repr

/-- The descriptors and statements of a connection. `δ` and `σ` are their addresses. -/
structure Connection (δ σ : Type*) where
  /-- `Dbc->Descrs`. -/
  descrs : Links δ := {}
  /-- The explicit descriptors that are live. -/
  descs : δ → Option (ExplicitDesc σ) := fun _ => none
  /-- The statements that are live, with `Ard` and `Apd` where they are explicit. -/
  stmts : σ → Option (Role → Option δ) := fun _ => none

/-- The operations. An allocation comes with the address of what is allocated. -/
inductive DescOp (δ σ : Type*)
  | allocDesc (desc : δ)
  | allocStmt (stmt : σ)
  | setRowDesc (stmt : σ) (value : Option (DescHandle δ σ))
  | setParamDesc (stmt : σ) (value : Option (DescHandle δ σ))
  | unbind (stmt : σ)
  | resetParams (stmt : σ)
  | freeDesc (desc : DescHandle δ σ)
  | dropStmt (stmt : σ)
  deriving DecidableEq, Repr

/-- The loop of `RemoveStmtRefFromDesc`. Behind an element that is deleted one is passed over. -/
def removeStmtRef {σ : Type*} [DecidableEq σ] (all : Bool) (stmt : σ) : List σ → List σ
  | [] => []
  | [ref] => if ref = stmt then [] else [ref]
  | ref :: next :: refs =>
    if ref = stmt then if all then next :: removeStmtRef all stmt refs else next :: refs
    else ref :: removeStmtRef all stmt (next :: refs)

namespace Connection

variable {δ σ : Type*} [DecidableEq δ] [DecidableEq σ] (c : Connection δ σ)

/-- `Stmt->Ard` or `Stmt->Apd`, where it is explicit. -/
def app (stmt : σ) (role : Role) : Option δ := (c.stmts stmt).bind fun app => app role

/-- Writes `Stmt->Ard` or `Stmt->Apd`. -/
def setApp (stmt : σ) (role : Role) (desc : Option δ) : Connection δ σ :=
  { c with stmts := update c.stmts stmt ((c.stmts stmt).map fun app => update app role desc) }

def setDesc (desc : δ) (value : Option (ExplicitDesc σ)) : Connection δ σ :=
  { c with descs := update c.descs desc value }

/-- `MADB_DescInit` for the application. -/
def descInit (desc : δ) : Connection δ σ :=
  { c.setDesc desc (some {}) with descrs := c.descrs.add desc }

/-- `RemoveStmtRefFromDesc`. -/
def removeStmtRefFromDesc (desc : Option δ) (stmt : σ) (all : Bool) : Connection δ σ :=
  match desc with
  | none => c
  | some desc =>
    match c.descs desc with
    | none => c
    | some value => c.setDesc desc (some { value with stmts := removeStmtRef all stmt value.stmts })

/-- The loop of `MADB_DescFree` over the statements of a descriptor. -/
def resetApps (role : Option Role) : List σ → Connection δ σ → Connection δ σ
  | [], c => c
  | stmt :: stmts, c =>
    match role with
    | none => resetApps role stmts c
    | some role => resetApps (some role) stmts (c.setApp stmt role none)

/-- `MADB_DescFree` of an explicit descriptor. -/
def descFree (desc : δ) (recordsOnly : Bool) : Connection δ σ :=
  match c.descs desc with
  | none => c
  | some value =>
    let c := resetApps value.descType value.stmts c
    let c := { c with descrs := c.descrs.delete desc }
    c.setDesc desc (if recordsOnly then some { value with stmts := [] } else none)

/-- `MADB_StmtSetStmtAttr` with `SQL_ATTR_APP_ROW_DESC` or `SQL_ATTR_APP_PARAM_DESC`. -/
def setAppDesc (role : Role) (stmt : σ) (value : Option (DescHandle δ σ)) : Option DescError × Connection δ σ :=
  match c.stmts stmt with
  | none => (some .invalidHandle, c)
  | some app =>
    match value with
    | none => (none, (c.removeStmtRefFromDesc (app role) stmt false).setApp stmt role none)
    | some (.implicit kind owner) =>
      if kind ≠ some role ∨ owner ≠ stmt then (some .errHY017, c)
      else (none, (c.removeStmtRefFromDesc (app role) stmt false).setApp stmt role none)
    | some (.explicit desc) =>
      match c.descs desc with
      | none => (some .invalidHandle, c)
      | some value =>
        if value.descType ≠ some role ∧ value.descType ≠ none then (some .errHY024, c)
        else
          let c := c.removeStmtRefFromDesc (app role) stmt false
          let c := c.setApp stmt role (some desc)
          (none, c.setDesc desc ((c.descs desc).map fun value =>
            { descType := some role, stmts := value.stmts ++ [stmt] }))

/-- `MADB_StmtFree` with `SQL_UNBIND` or `SQL_RESET_PARAMS`: the records of an implicit descriptor are not modelled. -/
def freeRecords (role : Role) (stmt : σ) : Option DescError × Connection δ σ :=
  match c.stmts stmt with
  | none => (some .invalidHandle, c)
  | some app =>
    match app role with
    | none => (none, c)
    | some desc => (none, c.descFree desc true)

/-- `MADB_StmtFree` with `SQL_DROP`. -/
def stmtDrop (stmt : σ) : Option DescError × Connection δ σ :=
  match c.stmts stmt with
  | none => (some .invalidHandle, c)
  | some app =>
    let c := c.removeStmtRefFromDesc (app .apd) stmt true
    let c := c.removeStmtRefFromDesc (app .ard) stmt true
    (none, { c with stmts := update c.stmts stmt none })

/-- `SQLFreeHandle` with `SQL_HANDLE_DESC`. -/
def freeHandle : DescHandle δ σ → Option DescError × Connection δ σ
  | .implicit _ _ => (some .errHY017, c)
  | .explicit desc =>
    match c.descs desc with
    | none => (some .invalidHandle, c)
    | some _ => (none, c.descFree desc false)

/-- An operation, with the error that it returns. An address that is in use is not allocated. -/
def perform : DescOp δ σ → Option DescError × Connection δ σ
  | .allocDesc desc => if (c.descs desc).isSome then (some .invalidHandle, c) else (none, c.descInit desc)
  | .allocStmt stmt =>
    if (c.stmts stmt).isSome then (some .invalidHandle, c)
    else (none, { c with stmts := update c.stmts stmt (some fun _ => none) })
  | .setRowDesc stmt value => c.setAppDesc .ard stmt value
  | .setParamDesc stmt value => c.setAppDesc .apd stmt value
  | .unbind stmt => c.freeRecords .ard stmt
  | .resetParams stmt => c.freeRecords .apd stmt
  | .freeDesc desc => c.freeHandle desc
  | .dropStmt stmt => c.stmtDrop stmt

def step (op : DescOp δ σ) : Connection δ σ := (c.perform op).2

def run (ops : List (DescOp δ σ)) : Connection δ σ := ops.foldl step c

/-! ### What holds of a connection -/

/-- **The list has the live descriptors, each once and nothing else, and a descriptor has the statements that
use it.** -/
structure Consistent : Prop where
  listed : ∃ descs, c.descrs.Contains descs ∧ ∀ desc, desc ∈ descs ↔ (c.descs desc).isSome
  stmts : ∀ desc value, c.descs desc = some value → ∀ stmt,
    stmt ∈ value.stmts ↔ c.app stmt .ard = some desc ∨ c.app stmt .apd = some desc

/-- The operation keeps explicit descriptors as they are: what is unbound or reset is implicit. -/
def Spares : DescOp δ σ → Prop
  | .unbind stmt => c.app stmt .ard = none
  | .resetParams stmt => c.app stmt .apd = none
  | _ => True

/-- What the operations keep: the descriptor of a statement is live and of the right type, and has the statement
once. -/
structure Sound : Prop where
  listed : ∃ descs, c.descrs.Contains descs ∧ ∀ desc, desc ∈ descs ↔ (c.descs desc).isSome
  stmts : ∀ desc value, c.descs desc = some value → ∀ stmt,
    stmt ∈ value.stmts ↔ ∃ role, c.app stmt role = some desc
  nodup : ∀ desc value, c.descs desc = some value → value.stmts.Nodup
  typed : ∀ stmt role desc, c.app stmt role = some desc →
    ∃ value, c.descs desc = some value ∧ value.descType = some role

variable {c} {stmt : σ} {role : Role} {desc : δ} {value : ExplicitDesc σ}

theorem Sound.congr {c' : Connection δ σ} (sound : c.Sound) (descrs : c'.descrs = c.descrs)
    (descs : c'.descs = c.descs) (app : ∀ stmt role, c'.app stmt role = c.app stmt role) : c'.Sound := by
  refine ⟨?_, ?_, ?_, ?_⟩
  · rw [descrs, descs]
    exact sound.listed
  · intro desc value found stmt
    rw [descs] at found
    simp only [app]
    exact sound.stmts desc value found stmt
  · intro desc value found
    rw [descs] at found
    exact sound.nodup desc value found
  · intro stmt role desc used
    rw [app] at used
    rw [descs]
    exact sound.typed stmt role desc used

theorem Sound.consistent (sound : c.Sound) : c.Consistent := by
  refine ⟨sound.listed, fun desc value found stmt => (sound.stmts desc value found stmt).trans ?_⟩
  constructor
  · rintro ⟨role, used⟩
    cases role with
    | ard => exact Or.inl used
    | apd => exact Or.inr used
  · rintro (used | used)
    · exact ⟨.ard, used⟩
    · exact ⟨.apd, used⟩

theorem sound_empty : (({} : Connection δ σ)).Sound := by
  refine ⟨⟨[], ⟨rfl, nodup_nil, trivial⟩, fun desc => ?_⟩, ?_, ?_, ?_⟩
  · exact iff_of_false not_mem_nil Bool.false_ne_true
  · intro desc value found
    cases found
  · intro desc value found
    cases found
  · intro stmt role desc used
    cases used

/-! ### What is written -/

theorem app_setApp (live : (c.stmts stmt).isSome) (target : Option δ) (other : σ) (kind : Role) :
    (c.setApp stmt role target).app other kind =
      if other = stmt ∧ kind = role then target else c.app other kind := by
  obtain ⟨apps, found⟩ := isSome_iff_exists.mp live
  rw [app, setApp, app]
  dsimp only
  by_cases same : other = stmt
  · rw [same, update_self, found, map_some, bind_some, bind_some,
      update_apply]
    simp only [true_and]
  · rw [update_of_ne same, if_neg (fun both => same both.1)]

theorem isSome_setApp (target : Option δ) (other : σ) :
    ((c.setApp stmt role target).stmts other).isSome = (c.stmts other).isSome := by
  rw [setApp]
  dsimp only
  by_cases same : other = stmt
  · rw [same, update_self, isSome_map]
  · rw [update_of_ne same]

theorem descs_setDesc (desc : δ) (value : Option (ExplicitDesc σ)) (other : δ) :
    (c.setDesc desc value).descs other = if other = desc then value else c.descs other :=
  update_apply _ _ _ _

theorem removeStmtRef_of_not_mem {refs : List σ} (absent : stmt ∉ refs) (all : Bool) :
    removeStmtRef all stmt refs = refs := by
  induction refs with
  | nil => rfl
  | cons ref refs ih =>
    obtain ⟨other, absent'⟩ := ne_and_not_mem_of_not_mem_cons absent
    cases refs with
    | nil => exact if_neg (Ne.symm other)
    | cons next refs => rw [removeStmtRef, if_neg (Ne.symm other), ih absent']

theorem stmts_removeStmtRef (target : Option δ) (stmt : σ) (all : Bool) :
    (c.removeStmtRefFromDesc target stmt all).stmts = c.stmts := by
  cases target with
  | none => rfl
  | some desc =>
    rw [removeStmtRefFromDesc]
    split
    · rfl
    · rfl

theorem removeStmtRef_setApp (target : Option δ) (all : Bool) (kind : Role) (new : Option δ) :
    (c.setApp stmt kind new).removeStmtRefFromDesc target stmt all =
      (c.removeStmtRefFromDesc target stmt all).setApp stmt kind new := by
  cases target with
  | none => rfl
  | some desc =>
    rw [removeStmtRefFromDesc, removeStmtRefFromDesc]
    show (match c.descs desc with
      | none => _
      | some value => _) = _
    cases c.descs desc with
    | none | some => rfl

theorem descs_removeStmtRef (found : c.descs desc = some value) (target : Option δ) (stmt : σ) (all : Bool) :
    ∃ value', (c.removeStmtRefFromDesc target stmt all).descs desc = some value' ∧
      value'.descType = value.descType := by
  cases target with
  | none => exact ⟨value, found, rfl⟩
  | some other =>
    rw [removeStmtRefFromDesc]
    cases here : c.descs other with
    | none => exact ⟨value, found, rfl⟩
    | some changed =>
      dsimp only
      rw [descs_setDesc]
      split
      · rename_i same
        rw [← same, found] at here
        obtain rfl := some.inj here
        exact ⟨_, rfl, rfl⟩
      · exact ⟨value, found, rfl⟩

theorem setApp_setApp (stmt : σ) (role : Role) (first second : Option δ) :
    (c.setApp stmt role first).setApp stmt role second = c.setApp stmt role second := by
  rw [setApp, setApp, setApp]
  dsimp only
  rw [update_self, update_idem, Option.map_map]
  congr 2
  cases c.stmts stmt with
  | none => rfl
  | some apps =>
    simp only [map_some, comp_apply, update_idem]

theorem removeStmtRef_eq {refs : List σ} (nodup : refs.Nodup) (all : Bool) (stmt : σ) :
    removeStmtRef all stmt refs = refs.erase stmt := by
  induction refs with
  | nil => rfl
  | cons ref refs ih =>
    obtain ⟨absent, nodup'⟩ := nodup_cons.mp nodup
    by_cases same : ref = stmt
    · rw [same] at absent ⊢
      rw [erase_cons_head]
      cases refs with
      | nil => exact if_pos rfl
      | cons next refs =>
        rw [removeStmtRef, if_pos rfl]
        split
        · rw [removeStmtRef_of_not_mem fun member => absent (mem_cons_of_mem next member)]
        · rfl
    · rw [erase_cons_tail (by simpa using same)]
      cases refs with
      | nil => exact if_neg same
      | cons next refs => rw [removeStmtRef, if_neg same, ih nodup']

/-! ### What the operations keep -/

theorem Sound.descType_of (sound : c.Sound) (found : c.descs desc = some value)
    (uses : c.app stmt role = some desc) : value.descType = some role := by
  obtain ⟨value', found', type⟩ := sound.typed stmt role desc uses
  obtain rfl : value = value' := some.inj (found.symm.trans found')
  exact type

theorem Sound.role_unique (sound : c.Sound) {stmt' : σ} {role' : Role} (first : c.app stmt role = some desc)
    (second : c.app stmt' role' = some desc) : role = role' := by
  obtain ⟨value, found, type⟩ := sound.typed stmt role desc first
  exact some.inj (type.symm.trans (sound.descType_of found second))

/-- **A change at one descriptor.** -/
theorem Sound.changed {c' : Connection δ σ} {new : Option (ExplicitDesc σ)} (sound : c.Sound)
    (descs : ∀ other, c'.descs other = if other = desc then new else c.descs other)
    (listed : ∃ descs, c'.descrs.Contains descs ∧ ∀ desc, desc ∈ descs ↔ (c'.descs desc).isSome)
    (elsewhere : ∀ other, other ≠ desc → ∀ stmt role, c'.app stmt role = some other ↔ c.app stmt role = some other)
    (here : ∀ value, new = some value →
      (∀ stmt, stmt ∈ value.stmts ↔ ∃ role, c'.app stmt role = some desc) ∧ value.stmts.Nodup)
    (typed : ∀ stmt role, c'.app stmt role = some desc → ∃ value, new = some value ∧ value.descType = some role) :
    c'.Sound := by
  refine ⟨listed, ?_, ?_, ?_⟩
  · intro other value found stmt
    rw [descs] at found
    split at found
    · rename_i same
      rw [same]
      exact (here value found).1 stmt
    · rename_i apart
      rw [sound.stmts other value found]
      exact exists_congr fun role => (elsewhere other apart stmt role).symm
  · intro other value found
    rw [descs] at found
    split at found
    · exact (here value found).2
    · exact sound.nodup other value found
  · intro stmt role other used
    rw [descs]
    split
    · rename_i same
      exact typed stmt role (same ▸ used)
    · rename_i apart
      exact sound.typed stmt role other ((elsewhere other apart stmt role).mp used)

theorem Sound.listed_of {c' : Connection δ σ} {new : ExplicitDesc σ} (sound : c.Sound)
    (descrs : c'.descrs = c.descrs)
    (descs : ∀ other, c'.descs other = if other = desc then some new else c.descs other)
    (found : c.descs desc = some value) :
    ∃ descs, c'.descrs.Contains descs ∧ ∀ desc, desc ∈ descs ↔ (c'.descs desc).isSome := by
  obtain ⟨list, contains, members⟩ := sound.listed
  refine ⟨list, descrs ▸ contains, fun other => ?_⟩
  rw [members, descs]
  split
  · rename_i same
    rw [same, found]
    exact Iff.rfl
  · exact Iff.rfl

/-- **A descriptor that a statement takes or gives up.** -/
theorem Sound.assigned {new : ExplicitDesc σ} {target : Option δ} (sound : c.Sound) (live : (c.stmts stmt).isSome)
    (found : c.descs desc = some value) (held : ∀ other, other ≠ desc → c.app stmt role ≠ some other)
    (takes : ∀ other, other ≠ desc → target ≠ some other)
    (here : ∀ t, t ∈ new.stmts ↔ ∃ kind, (if t = stmt ∧ kind = role then target else c.app t kind) = some desc)
    (nodup : new.stmts.Nodup)
    (typed : ∀ t kind, (if t = stmt ∧ kind = role then target else c.app t kind) = some desc →
      new.descType = some kind) :
    ((c.setDesc desc (some new)).setApp stmt role target).Sound := by
  generalize result : (c.setDesc desc (some new)).setApp stmt role target = c'
  have descrs : c'.descrs = c.descrs := by
    rw [← result]
    rfl
  have descs : ∀ other, c'.descs other = if other = desc then some new else c.descs other := by
    rw [← result]
    exact descs_setDesc _ _
  have apps : ∀ other kind, c'.app other kind = if other = stmt ∧ kind = role then target else c.app other kind := by
    rw [← result]
    exact app_setApp live target
  refine sound.changed descs (sound.listed_of descrs descs found) ?_ ?_ ?_
  · intro other apart t kind
    rw [apps]
    split
    · rename_i both
      rw [both.1, both.2]
      exact iff_of_false (takes other apart) (held other apart)
    · exact Iff.rfl
  · rintro value' same
    obtain rfl := some.inj same
    refine ⟨fun t => (here t).trans ?_, nodup⟩
    simp only [apps]
  · intro t kind uses
    rw [apps] at uses
    exact ⟨_, rfl, typed t kind uses⟩

/-- **A statement gives up a descriptor.** -/
theorem sound_release (sound : c.Sound) (live : (c.stmts stmt).isSome) (role : Role) (all : Bool) :
    ((c.removeStmtRefFromDesc (c.app stmt role) stmt all).setApp stmt role none).Sound := by
  cases used : c.app stmt role with
  | none =>
    refine sound.congr rfl rfl fun other kind => ?_
    rw [removeStmtRefFromDesc, app_setApp live]
    split
    · rename_i same
      rw [same.1, same.2, used]
    · rfl
  | some desc =>
    obtain ⟨value, found, type⟩ := sound.typed stmt role desc used
    have removed : c.removeStmtRefFromDesc (some desc) stmt all =
        c.setDesc desc (some { value with stmts := value.stmts.erase stmt }) := by
      rw [removeStmtRefFromDesc, found]
      dsimp only
      rw [removeStmtRef_eq (sound.nodup desc value found)]
    rw [removed]
    refine sound.assigned live found (fun other apart uses => ?_) (fun _ _ => nofun) (fun t => ?_)
      ((sound.nodup desc value found).erase stmt) (fun t kind uses => ?_)
    · exact apart (some.inj (uses.symm.trans used))
    · show t ∈ value.stmts.erase stmt ↔ _
      rw [(sound.nodup desc value found).mem_erase_iff, sound.stmts desc value found]
      constructor
      · rintro ⟨apart, kind, uses⟩
        refine ⟨kind, ?_⟩
        rw [if_neg (fun both => apart both.1), uses]
      · rintro ⟨kind, uses⟩
        split at uses
        · cases uses
        · rename_i apart
          exact ⟨fun equal => apart ⟨equal, sound.role_unique uses used⟩, kind, uses⟩
    · split at uses
      · cases uses
      · rw [sound.role_unique uses used]
        exact type

/-- **A statement takes a descriptor.** -/
theorem sound_adopt (sound : c.Sound) (live : (c.stmts stmt).isSome) (free : c.app stmt role = none)
    (found : c.descs desc = some value) (type : value.descType = some role ∨ value.descType = none) :
    ((c.setApp stmt role (some desc)).setDesc desc
      (some { descType := some role, stmts := value.stmts ++ [stmt] })).Sound := by
  -- a statement that uses the descriptor already does so in this role
  have roles : ∀ t kind, c.app t kind = some desc → kind = role := by
    intro t kind uses
    have type' := sound.descType_of found uses
    rcases type with same | unknown
    · exact some.inj (type'.symm.trans same)
    · rw [unknown] at type'
      cases type'
  have absent : stmt ∉ value.stmts := by
    rw [sound.stmts desc value found]
    rintro ⟨kind, uses⟩
    rw [roles stmt kind uses, free] at uses
    cases uses
  refine sound.assigned live found (fun other _ uses => ?_) (fun other apart same => apart (some.inj same).symm)
    (fun t => ?_) ?_ (fun t kind uses => ?_)
  · rw [free] at uses
    cases uses
  · show t ∈ value.stmts ++ [stmt] ↔ _
    rw [mem_append, mem_singleton, sound.stmts desc value found]
    constructor
    · rintro (⟨kind, uses⟩ | same)
      · refine ⟨kind, ?_⟩
        rw [uses, ite_self]
      · exact ⟨role, if_pos ⟨same, rfl⟩⟩
    · rintro ⟨kind, uses⟩
      split at uses
      · rename_i both
        exact Or.inr both.1
      · exact Or.inl ⟨kind, uses⟩
  · refine nodup_append.mpr ⟨sound.nodup desc value found, nodup_singleton stmt, ?_⟩
    intro t here u there same
    rw [mem_singleton.mp there] at same
    exact absent (same ▸ here)
  · split at uses
    · rename_i both
      exact congrArg some both.2.symm
    · exact congrArg some (roles t kind uses).symm

theorem sound_descInit (sound : c.Sound) (fresh : c.descs desc = none) : (c.descInit desc).Sound := by
  have descs : ∀ other, (c.descInit desc).descs other = if other = desc then some {} else c.descs other :=
    descs_setDesc desc (some {})
  have unused : ∀ stmt role, c.app stmt role ≠ some desc := by
    intro stmt role uses
    obtain ⟨value, found, -⟩ := sound.typed stmt role desc uses
    rw [fresh] at found
    cases found
  refine sound.changed descs ?_ (fun _ _ _ _ => Iff.rfl) ?_ (fun stmt role uses => absurd uses (unused stmt role))
  · obtain ⟨list, contains, members⟩ := sound.listed
    have absent : desc ∉ list := by
      rw [members, fresh]
      exact Bool.false_ne_true
    refine ⟨desc :: list, Links.contains_add contains absent, fun other => ?_⟩
    rw [mem_cons, members, descs]
    split
    · rename_i same
      exact iff_of_true (Or.inl same) rfl
    · rename_i apart
      exact or_iff_right apart
  · intro value same
    obtain rfl := some.inj same
    refine ⟨fun stmt => iff_of_false not_mem_nil ?_, nodup_nil⟩
    rintro ⟨role, uses⟩
    exact unused stmt role uses

theorem resetApps_spec (kind : Option Role) (refs : List σ) (c : Connection δ σ)
    (live : ∀ stmt ∈ refs, (c.stmts stmt).isSome) :
    (resetApps kind refs c).descrs = c.descrs ∧ (resetApps kind refs c).descs = c.descs ∧
      ∀ stmt role, (resetApps kind refs c).app stmt role =
        if stmt ∈ refs ∧ kind = some role then none else c.app stmt role := by
  induction refs generalizing c with
  | nil =>
    refine ⟨rfl, rfl, fun stmt role => ?_⟩
    rw [if_neg (fun both => not_mem_nil both.1)]
    rfl
  | cons ref refs ih =>
    cases kind with
    | none =>
      obtain ⟨descrs, descs, apps⟩ := ih c fun stmt member => live stmt (mem_cons_of_mem ref member)
      refine ⟨descrs, descs, fun stmt role => (apps stmt role).trans ?_⟩
      rw [if_neg (fun both => by cases both.2), if_neg (fun both => by cases both.2)]
    | some kind =>
      have live' : ∀ stmt ∈ refs, ((c.setApp ref kind none).stmts stmt).isSome := by
        intro stmt member
        rw [isSome_setApp]
        exact live stmt (mem_cons_of_mem ref member)
      obtain ⟨descrs, descs, apps⟩ := ih (c.setApp ref kind none) live'
      refine ⟨descrs, descs, fun stmt role => (apps stmt role).trans ?_⟩
      rw [app_setApp (live ref mem_cons_self), ← ite_or]
      refine if_congr ?_ rfl rfl
      rw [mem_cons, some_inj]
      constructor
      · rintro (⟨member, same⟩ | ⟨same, same'⟩)
        · exact ⟨Or.inr member, same⟩
        · exact ⟨Or.inl same, same'.symm⟩
      · rintro ⟨same | member, same'⟩
        · exact Or.inr ⟨same, same'.symm⟩
        · exact Or.inl ⟨member, same'⟩

/-- **What `MADB_DescFree` does** to a connection: the descriptor leaves the list, and no statement uses it. -/
theorem descFree_spec (sound : c.Sound) (found : c.descs desc = some value) (recordsOnly : Bool) :
    (c.descFree desc recordsOnly).descrs = c.descrs.delete desc ∧
      (∀ other, (c.descFree desc recordsOnly).descs other =
        if other = desc then if recordsOnly then some { value with stmts := [] } else none else c.descs other) ∧
      ∀ stmt role, (c.descFree desc recordsOnly).app stmt role =
        if c.app stmt role = some desc then none else c.app stmt role := by
  have live : ∀ stmt ∈ value.stmts, (c.stmts stmt).isSome := by
    intro stmt member
    obtain ⟨role, uses⟩ := (sound.stmts desc value found stmt).mp member
    rw [app] at uses
    obtain ⟨apps, here, -⟩ := bind_eq_some_iff.mp uses
    rw [here]
    rfl
  obtain ⟨descrs, descs, apps⟩ := resetApps_spec value.descType value.stmts c live
  rw [descFree, found]
  dsimp only
  refine ⟨congrArg (·.delete desc) descrs, fun other => ?_, fun stmt role => (apps stmt role).trans ?_⟩
  · rw [descs_setDesc, ← descs]
  · refine if_congr ?_ rfl rfl
    rw [sound.stmts desc value found]
    constructor
    · rintro ⟨⟨kind, uses⟩, type⟩
      rw [← some.inj ((sound.descType_of found uses).symm.trans type), uses]
    · exact fun uses => ⟨⟨role, uses⟩, sound.descType_of found uses⟩

theorem Sound.listed_delete (sound : c.Sound) (found : c.descs desc = some value) :
    ∃ list, (c.descrs.delete desc).Contains list ∧ ∀ other, other ∈ list ↔ other ≠ desc ∧ (c.descs other).isSome := by
  obtain ⟨list, contains, members⟩ := sound.listed
  have member : desc ∈ list := by
    rw [members, found]
    rfl
  refine ⟨list.erase desc, Links.contains_delete contains member, fun other => ?_⟩
  rw [contains.nodup.mem_erase_iff, members]

theorem sound_descFree (sound : c.Sound) (found : c.descs desc = some value) : (c.descFree desc false).Sound := by
  obtain ⟨descrs, descs, apps⟩ := descFree_spec sound found false
  rw [if_neg Bool.false_ne_true] at descs
  have unused : ∀ stmt role, (c.descFree desc false).app stmt role ≠ some desc := by
    intro stmt role uses
    rw [apps] at uses
    split at uses
    · cases uses
    · exact absurd uses ‹_›
  refine sound.changed descs ?_ ?_ (fun _ none => by cases none) (fun stmt role uses => absurd uses (unused stmt role))
  · obtain ⟨list, contains, members⟩ := sound.listed_delete found
    refine ⟨list, descrs ▸ contains, fun other => ?_⟩
    rw [members, descs]
    split
    · rename_i same
      exact iff_of_false (fun both => both.1 same) Bool.false_ne_true
    · rename_i apart
      exact and_iff_right apart
  · intro other apart stmt role
    rw [apps]
    split
    · rename_i uses
      rw [uses]
      exact iff_of_false (fun none => by cases none) (fun equal => apart (some.inj equal).symm)
    · exact Iff.rfl

/-- **A descriptor that loses its records leaves the list**, though it is live. -/
theorem not_consistent_descFree (sound : c.Sound) (found : c.descs desc = some value) :
    ¬ (c.descFree desc true).Consistent := by
  intro consistent
  obtain ⟨descrs, descs, -⟩ := descFree_spec sound found true
  obtain ⟨list, contains, members⟩ := sound.listed_delete found
  obtain ⟨list', contains', members'⟩ := consistent.listed
  rw [descrs] at contains'
  obtain rfl := Links.contains_unique contains contains'
  have member : desc ∈ list := by
    rw [members', descs, if_pos rfl]
    rfl
  exact ((members desc).mp member).1 rfl

theorem sound_setAppDesc (sound : c.Sound) (role : Role) (stmt : σ) (target : Option (DescHandle δ σ)) :
    (c.setAppDesc role stmt target).2.Sound := by
  rw [setAppDesc]
  cases here : c.stmts stmt with
  | none => exact sound
  | some apps =>
    have live : (c.stmts stmt).isSome := by
      rw [here]
      rfl
    have used : c.app stmt role = apps role := by
      rw [app, here, bind_some]
    have released := sound_release sound live role false
    rw [used] at released
    dsimp only
    cases target with
    | none => exact released
    | some handle =>
      cases handle with
      | implicit kind owner =>
        dsimp only
        split
        · exact sound
        · exact released
      | explicit desc =>
        dsimp only
        cases found : c.descs desc with
        | none => exact sound
        | some value =>
          dsimp only
          split
          · exact sound
          · rename_i accepted
            have type : value.descType = some role ∨ value.descType = none := by
              tauto
            obtain ⟨value', found', type'⟩ := descs_removeStmtRef found (apps role) stmt false
            have live' : ((c.removeStmtRefFromDesc (apps role) stmt false).stmts stmt).isSome := by
              rw [stmts_removeStmtRef]
              exact live
            have free : ((c.removeStmtRefFromDesc (apps role) stmt false).setApp stmt role none).app
                stmt role = none := by
              rw [app_setApp live', if_pos ⟨rfl, rfl⟩]
            have taken := sound_adopt released (by rw [isSome_setApp]; exact live') free found'
              (type'.symm ▸ type)
            rw [setApp_setApp] at taken
            have read : ((c.removeStmtRefFromDesc (apps role) stmt false).setApp stmt role
                (some desc)).descs desc = some value' := found'
            rw [read]
            exact taken

theorem sound_stmtDrop (sound : c.Sound) (stmt : σ) : (c.stmtDrop stmt).2.Sound := by
  rw [stmtDrop]
  cases here : c.stmts stmt with
  | none => exact sound
  | some apps =>
    have live : (c.stmts stmt).isSome := by
      rw [here]
      rfl
    have used : ∀ role, c.app stmt role = apps role := by
      intro role
      rw [app, here, bind_some]
    -- it gives up both its descriptors
    have first := sound_release sound live .apd true
    obtain ⟨c₁, removed⟩ : ∃ c₁, c₁ = c.removeStmtRefFromDesc (apps .apd) stmt true := ⟨_, rfl⟩
    rw [used, ← removed] at first
    have live₁ : (c₁.stmts stmt).isSome := by
      rw [removed, stmts_removeStmtRef]
      exact live
    have used₁ : (c₁.setApp stmt .apd none).app stmt .ard = apps .ard := by
      rw [app_setApp live₁, if_neg (fun both => by cases both.2), removed, app, stmts_removeStmtRef]
      exact used .ard
    have second := sound_release first (by rw [isSome_setApp]; exact live₁) .ard true
    rw [used₁, removeStmtRef_setApp] at second
    dsimp only
    rw [← removed]
    obtain ⟨c₂, removed₂⟩ : ∃ c₂, c₂ = c₁.removeStmtRefFromDesc (apps .ard) stmt true := ⟨_, rfl⟩
    have live₂ : (c₂.stmts stmt).isSome := by
      rw [removed₂, stmts_removeStmtRef]
      exact live₁
    rw [← removed₂] at second ⊢
    refine second.congr rfl rfl fun other role => ?_
    rw [app_setApp (by rw [isSome_setApp]; exact live₂), app_setApp live₂, app]
    dsimp only
    by_cases same : other = stmt
    · rw [same, update_self]
      cases role with
      | ard => exact (if_pos ⟨rfl, rfl⟩).symm
      | apd => rw [if_neg (fun both => by cases both.2), if_pos ⟨rfl, rfl⟩]; rfl
    · rw [update_of_ne same, if_neg (fun both => same both.1), if_neg (fun both => same both.1)]
      rfl

theorem freeRecords_implicit (spares : c.app stmt role = none) : (c.freeRecords role stmt).2 = c := by
  rw [freeRecords]
  cases here : c.stmts stmt with
  | none => rfl
  | some apps =>
    have implicit : apps role = none := by
      rw [app, here, bind_some] at spares
      exact spares
    dsimp only
    rw [implicit]

theorem not_consistent_freeRecords (sound : c.Sound) (uses : c.app stmt role = some desc) :
    ¬ (c.freeRecords role stmt).2.Consistent := by
  obtain ⟨value, found, -⟩ := sound.typed stmt role desc uses
  rw [app] at uses
  obtain ⟨apps, here, uses⟩ := bind_eq_some_iff.mp uses
  rw [freeRecords, here]
  dsimp only
  rw [uses]
  exact not_consistent_descFree sound found

/-- **One operation.** -/
theorem sound_step (sound : c.Sound) {op : DescOp δ σ} (spares : c.Spares op) : (c.step op).Sound := by
  rw [step, perform.eq_def]
  cases op with
  | allocDesc desc =>
    dsimp only
    split
    · exact sound
    · rename_i fresh
      exact sound_descInit sound (not_isSome_iff_eq_none.mp fresh)
  | allocStmt stmt =>
    dsimp only
    split
    · exact sound
    · rename_i fresh
      refine sound.congr rfl rfl fun other role => ?_
      rw [app, app]
      dsimp only
      by_cases same : other = stmt
      · rw [same, update_self, not_isSome_iff_eq_none.mp fresh]
        rfl
      · rw [update_of_ne same]
  | setRowDesc stmt target => exact sound_setAppDesc sound .ard stmt target
  | setParamDesc stmt target => exact sound_setAppDesc sound .apd stmt target
  | unbind stmt | resetParams stmt =>
    dsimp only
    rw [freeRecords_implicit spares]
    exact sound
  | freeDesc handle =>
    dsimp only
    cases handle with
    | implicit kind owner => exact sound
    | explicit desc =>
      rw [freeHandle]
      cases found : c.descs desc with
      | none => exact sound
      | some value => exact sound_descFree sound found
  | dropStmt stmt => exact sound_stmtDrop sound stmt

theorem not_consistent_step (sound : c.Sound) {op : DescOp δ σ} (loses : ¬ c.Spares op) :
    ¬ (c.step op).Consistent := by
  cases op with
  | unbind stmt | resetParams stmt =>
    obtain ⟨desc, uses⟩ := ne_none_iff_exists'.mp loses
    exact not_consistent_freeRecords sound uses
  | allocDesc | allocStmt | setRowDesc | setParamDesc | freeDesc | dropStmt => exact absurd trivial loses

/-! ### Runs -/

theorem Sound.run_consistent_iff (sound : c.Sound) (ops : List (DescOp δ σ)) :
    (∀ n, (c.run (ops.take n)).Consistent) ↔ ∀ n op, ops[n]? = some op → (c.run (ops.take n)).Spares op := by
  induction ops generalizing c with
  | nil =>
    refine iff_of_true (fun n => ?_) (fun n op none => ?_)
    · rw [take_nil]
      exact sound.consistent
    · rw [getElem?_nil] at none
      cases none
  | cons op ops ih =>
    by_cases spares : c.Spares op
    · have later := ih (sound_step sound spares)
      constructor
      · intro consistent n other found
        cases n with
        | zero =>
          obtain rfl : op = other := some.inj found
          exact spares
        | succ n => exact later.mp (fun m => consistent (m + 1)) n other found
      · intro spare n
        cases n with
        | zero => exact sound.consistent
        | succ n => exact later.mpr (fun m other found => spare (m + 1) other found) n
    · exact iff_of_false (fun consistent => not_consistent_step sound spares (consistent 1))
        (fun spare => spares (spare 0 op rfl))

/-- **Which runs stay consistent**, from a new connection on: those in which `SQL_UNBIND` and `SQL_RESET_PARAMS`
find an implicit descriptor. -/
theorem runs_consistent_iff (ops : List (DescOp δ σ)) :
    (∀ n, (({} : Connection δ σ).run (ops.take n)).Consistent) ↔
      ∀ n op, ops[n]? = some op → (({} : Connection δ σ).run (ops.take n)).Spares op :=
  sound_empty.run_consistent_iff ops

/-- `SQL_UNBIND` on a statement with an explicit row descriptor: it leaves the list, and is live. -/
theorem runs_consistent_unbind :
    ¬ ∀ n, (({} : Connection Nat Nat).run ([.allocDesc 0, .allocStmt 0, .setRowDesc 0 (some (.explicit 0)),
      .unbind 0].take n)).Consistent := by
  intro consistent
  obtain ⟨list, contains, members⟩ := (consistent 4).listed
  have empty : list = [] := head?_eq_none_iff.mp contains.root.symm
  have member : 0 ∈ list := (members 0).mpr rfl
  rw [empty] at member
  exact not_mem_nil member

end Connection

end MaOdbc
