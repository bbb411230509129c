/-
**The positioning table of a static cursor.**

Where a scrollable cursor goes is laid down in a table: from the place where it stands, and with the
rowset size, each call goes to a row, before the start or behind the end. A static cursor of the driver
follows the table as long as no call for the prior or the last rowset would have to be shortened at the
start of the result: it goes before the start then, where the table has the first row. `scroll_places` says where
every run goes.
-/

import MaOdbc.Cursor.Scroll

namespace MaOdbc

open List

/-- Where a cursor stands: before the start, at the rowset that starts at a row, counted from 1, or behind
the end. -/
inductive RowPlace
  | before
  | row (s : Nat)
  | after
  deriving DecidableEq, Repr

namespace RowPlace

def ofRow (numRows : Nat) (s : Int) : RowPlace :=
  if s < 1 then .before else if numRows < s then .after else .row s.toNat

theorem ofRow_before {numRows : Nat} {s : Int} (low : s < 1) : ofRow numRows s = .before :=
  if_pos low

theorem ofRow_after {numRows : Nat} {s : Int} (high : numRows < s) : ofRow numRows s = .after := by
  rw [ofRow, if_neg (by omega), if_pos high]

theorem ofRow_row {numRows s : Nat} (low : 1 ≤ s) (high : s ≤ numRows) : ofRow numRows s = .row s := by
  rw [ofRow, if_neg (by omega), if_neg (by omega), Int.toNat_natCast]

def number (numRows : Nat) : RowPlace → Int
  | .before => 0
  | .row s => s
  | .after => numRows + 1

end RowPlace

open RowPlace

/-- **The positioning table**: where a call goes from a place, in a result of some rows, when the previous
rowset had a size. A relative call from before the start or from behind the end counts from there. -/
def ScrollCall.place (call : ScrollCall) (numRows previous : Nat) (place : RowPlace) : RowPlace :=
  let s := place.number numRows
  let size : Int := call.rowsetSize
  let n := call.offset
  match call.orientation with
  | .next =>
    match place with
    | .before => .ofRow numRows 1
    | .row s => .ofRow numRows (s + previous)
    | .after => .after
  | .prior =>
    if place = .before then .before
    else if size < s then .ofRow numRows (s - size)
    else if 1 < s then .ofRow numRows 1 else .before
  | .first => .ofRow numRows 1
  | .last =>
    if numRows = 0 then .before
    else if size ≤ numRows then .ofRow numRows (numRows - size + 1) else .ofRow numRows 1
  | .absolute =>
    if 0 < n then .ofRow numRows n
    else if n = 0 then .before
    else if -n ≤ numRows then .ofRow numRows (numRows + n + 1)
    else if -n ≤ size then .ofRow numRows 1 else .before
  | .relative =>
    if 1 ≤ s + n then .ofRow numRows (s + n)
    else if 1 < s ∧ -n ≤ size then .ofRow numRows 1 else .before
  | _ => place

namespace RowCursor

variable (env : FetchEnv) (rows : List Row)

/-- A call goes to a place: it returns the rows from there on, or no data. -/
def GoesTo (call : ScrollCall) (c : RowCursor) : RowPlace → Prop
  | .row s => (c.scroll env call).1 = .success ∧
      Brings env ((rows.drop (s - 1)).take call.rowsetSize) (c.turned call) (c.scroll env call).2
  | _ => (c.scroll env call).1 = .noData

/-- A run follows the table, from a place and with the size of the previous rowset. -/
def FollowsTable (place : RowPlace) (previous : Nat) (c : RowCursor) : List ScrollCall → Prop
  | [] => True
  | call :: calls =>
    let place' := call.place rows.length previous place
    GoesTo env rows call c place' ∧
      FollowsTable place' (if place' = .before ∨ place' = .after then previous else call.rowsetSize)
        (c.scroll env call).2 calls

end RowCursor

/-- A call that need not be shortened at the start of the result: not one for the prior rowset from a row
within the first rowset, and not one for the last rowset of a result smaller than a rowset. -/
def ScrollCall.Unshortened (call : ScrollCall) (numRows : Nat) (position : Int) : Prop :=
  match call.orientation with
  | .prior => ¬ (0 < position ∧ position < call.rowsetSize)
  | .last => numRows = 0 ∨ call.rowsetSize ≤ numRows
  | _ => True

def RowCursor.Unshortened (env : FetchEnv) (c : RowCursor) : List ScrollCall → Prop
  | [] => True
  | call :: calls => call.Unshortened c.numRows c.position ∧ Unshortened env (c.scroll env call).2 calls

namespace RowCursor

variable {env : FetchEnv} {rows : List Row} {c : RowCursor} {call : ScrollCall}

structure StandsAt (numRows : Nat) (place : RowPlace) (previous : Nat) (c : RowCursor) : Prop where
  position : c.position = place.number numRows - 1
  nonneg : 0 ≤ c.lastRowFetched
  row : ∀ s, place = .row s → 1 ≤ s ∧ s ≤ numRows ∧ c.lastRowFetched = (min previous (numRows + 1 - s) : Nat)

section

variable {numRows : Nat} {place : RowPlace} {previous : Nat} (small : call.Small)
  (stands : StandsAt numRows place previous c)

include small stands

theorem place_of_unshortened (unshortened : call.Unshortened numRows c.position) :
    call.place numRows previous place =
      .ofRow numRows (call.target numRows c.position c.lastRowFetched + 1) := by
  obtain ⟨position, nonneg, row⟩ := stands
  have sized := small.sized
  unfold ScrollCall.place ScrollCall.target
  unfold ScrollCall.Unshortened at unshortened
  cases orientation : call.orientation with
  | next =>
    rw [orientation] at unshortened
    cases place with
    | before =>
      have start : c.position = -1 := position
      rw [start]
      rfl
    | row s =>
      obtain ⟨first, inside, last⟩ := row s rfl
      have here : c.position = (s : Int) - 1 := position
      dsimp only
      rw [if_neg (by omega), last]
      by_cases full : previous ≤ numRows + 1 - s
      · rw [Nat.min_eq_left full, here]
        exact congrArg (ofRow numRows) (by omega)
      · rw [ofRow_after (by omega), ofRow_after (by omega)]
    | after =>
      have here : c.position = (numRows : Int) + 1 - 1 := position
      dsimp only
      rw [if_neg (by omega), ofRow_after (by omega)]
  | prior =>
    rw [orientation] at unshortened
    dsimp only at unshortened ⊢
    cases place with
    | before =>
      have start : c.position = -1 := position
      have ahead : c.position < 0 := by omega
      rw [if_pos rfl, if_pos ahead, ofRow_before (by decide)]
    | row s =>
      obtain ⟨first, inside, -⟩ := row s rfl
      have here : c.position = (s : Int) - 1 := position
      have started : ¬ c.position < 0 := by omega
      rw [if_neg RowPlace.noConfusion, RowPlace.number, if_neg started]
      by_cases whole : (call.rowsetSize : Int) < s
      · rw [if_pos whole]
        exact congrArg (ofRow numRows) (by omega)
      · rw [if_neg whole, if_neg (by omega), ofRow_before (by omega)]
    | after =>
      have here : c.position = (numRows : Int) + 1 - 1 := position
      have started : ¬ c.position < 0 := by omega
      rw [if_neg RowPlace.noConfusion, RowPlace.number, if_neg started]
      by_cases whole : (call.rowsetSize : Int) < (numRows : Int) + 1
      · rw [if_pos whole]
        exact congrArg (ofRow numRows) (by omega)
      · rw [if_neg whole, if_neg (by omega), ofRow_before (by omega)]
  | first => rfl
  | last =>
    rw [orientation] at unshortened
    dsimp only at unshortened ⊢
    rcases unshortened with none | fits
    · rw [if_pos none, ofRow_before (by omega)]
    · rw [if_neg (by omega), if_pos (by omega)]
  | absolute =>
    dsimp only
    rcases Int.lt_trichotomy call.offset 0 with negative | zero | positive
    · rw [if_neg (by omega), if_neg (by omega), if_pos negative]
      by_cases within : -call.offset ≤ numRows
      · rw [if_pos within]
        refine congrArg (ofRow numRows) ?_
        split
        · omega
        · omega
      · rw [if_neg within]
        by_cases near : -call.offset ≤ call.rowsetSize
        · rw [if_pos near, if_pos ⟨by omega, near⟩, Int.zero_add]
        · rw [if_neg near, if_neg (fun close => near close.2), ofRow_before (by omega)]
    · rw [if_neg (by omega), if_pos zero, if_neg (by omega), ofRow_before (by omega)]
    · rw [if_pos positive, if_neg (by omega), Int.sub_add_cancel]
  | relative =>
    dsimp only
    by_cases reached : 1 ≤ place.number numRows + call.offset
    · rw [if_pos reached, if_neg (by omega)]
      exact congrArg (ofRow numRows) (by omega)
    · rw [if_neg reached]
      by_cases near : 1 < place.number numRows ∧ -call.offset ≤ call.rowsetSize
      · rw [if_pos near, if_pos ⟨by omega, by omega, near.2⟩, Int.zero_add]
      · rw [if_neg near, if_neg (by omega), ofRow_before (by omega)]
  | bookmark => exact absurd orientation small.no_bookmark
  | other => exact absurd orientation small.known

/-- Where a call would have to be shortened, the table has the first row, and the driver goes before it. -/
theorem place_of_shortened (shortened : ¬ call.Unshortened numRows c.position) :
    call.place numRows previous place = .row 1 ∧
      call.target numRows c.position c.lastRowFetched < 0 := by
  obtain ⟨position, nonneg, row⟩ := stands
  have sized := small.sized
  unfold ScrollCall.place ScrollCall.target
  unfold ScrollCall.Unshortened at shortened
  cases orientation : call.orientation with
  | prior =>
    rw [orientation] at shortened
    obtain ⟨started, within⟩ := Decidable.not_not.mp shortened
    dsimp only
    rw [if_neg (Int.not_lt.mpr (Int.le_of_lt started))]
    refine ⟨?_, by omega⟩
    have elsewhere : place ≠ .before := by
      rintro rfl
      have start : c.position = -1 := position
      omega
    have some : 1 ≤ numRows := by
      cases place with
      | before => exact absurd rfl elsewhere
      | row s =>
        obtain ⟨first, inside, -⟩ := row s rfl
        omega
      | after =>
        have here : c.position = (numRows : Int) + 1 - 1 := position
        omega
    rw [if_neg elsewhere, if_neg (by omega), if_pos (by omega)]
    exact ofRow_row (Nat.le_refl 1) some
  | last =>
    rw [orientation] at shortened
    obtain ⟨some, larger⟩ := not_or.mp shortened
    dsimp only
    refine ⟨?_, by omega⟩
    rw [if_neg some, if_neg (by omega)]
    exact ofRow_row (Nat.le_refl 1) (Nat.pos_of_ne_zero some)
  | next | first | absolute | relative => exact absurd (by rw [orientation]; trivial) shortened
  | bookmark => exact absurd orientation small.no_bookmark
  | other => exact absurd orientation small.known

end

/-- **A call goes to the row it asks for.** -/
theorem goesTo_target (static : env.cursorType = .static) (clean : env.Clean rows) (small : call.Small)
    (short : rows.length < 2 ^ 31) (tracks : Tracks rows c) (previous : Nat) :
    let place := ofRow rows.length (call.target rows.length c.position c.lastRowFetched + 1)
    GoesTo env rows call c place ∧
      StandsAt rows.length place
        (if place = .before ∨ place = .after then previous else call.rowsetSize) (c.scroll env call).2 := by
  have tracks' := scroll_tracks static clean small short tracks
  by_cases before : call.target rows.length c.position c.lastRowFetched < 0
  · obtain ⟨returned, -, position, -⟩ := scroll_before static small short tracks before
    dsimp only
    rw [ofRow_before (by omega)]
    exact ⟨returned, position, tracks'.nonneg, fun s place => RowPlace.noConfusion place⟩
  obtain ⟨start, asked⟩ := Int.eq_ofNat_of_zero_le (Int.not_lt.mp before)
  rcases Nat.lt_or_ge start rows.length with inside | past
  · obtain ⟨returned, shows, -⟩ := scroll_inside static clean small short tracks asked inside
    have here : ofRow rows.length ((start : Int) + 1) = .row (start + 1) :=
      ofRow_row (Nat.succ_le_succ (Nat.zero_le start)) inside
    have last : (c.scroll env call).2.lastRowFetched =
        (min call.rowsetSize (rows.length + 1 - (start + 1)) : Nat) := by
      rw [Nat.add_sub_add_right, ← length_rowset]
      exact shows.brings.last
    rw [asked]
    show GoesTo env rows call c (ofRow rows.length ((start : Int) + 1)) ∧ _
    rw [here, if_neg (by rintro (place | place) <;> cases place)]
    refine ⟨⟨returned, shows.brings⟩, ?_, tracks'.nonneg, ?_⟩
    · rw [shows.position, number]
      omega
    · rintro s same
      cases same
      exact ⟨Nat.succ_le_succ (Nat.zero_le start), inside, last⟩
  · have behind : rows.length ≤ call.target rows.length c.position c.lastRowFetched := by
      rw [asked]
      omega
    obtain ⟨returned, -, position, -⟩ := scroll_after static clean small short tracks behind
    dsimp only
    rw [ofRow_after (by omega)]
    refine ⟨returned, ?_, tracks'.nonneg, fun s place => RowPlace.noConfusion place⟩
    rw [position, number]
    omega

theorem followsTable_iff (static : env.cursorType = .static) (clean : env.Clean rows)
    (short : rows.length < 2 ^ 31) {calls : List ScrollCall} (small : ∀ call ∈ calls, call.Small)
    {place : RowPlace} {previous : Nat} (tracks : Tracks rows c)
    (stands : StandsAt rows.length place previous c) :
    FollowsTable env rows place previous c calls ↔ Unshortened env c calls := by
  induction calls generalizing c place previous with
  | nil => exact Iff.rfl
  | cons call calls ih =>
    have smallCall := small call mem_cons_self
    rw [FollowsTable, Unshortened, tracks.numRows]
    by_cases unshortened : call.Unshortened rows.length c.position
    · have table := place_of_unshortened smallCall stands unshortened
      obtain ⟨goes, stands'⟩ := goesTo_target static clean smallCall short tracks previous
      rw [← table] at goes stands'
      rw [ih (fun later member => small later (mem_cons_of_mem call member))
        (scroll_tracks static clean smallCall short tracks) stands', and_iff_right goes,
        and_iff_right unshortened]
    · obtain ⟨table, ahead⟩ := place_of_shortened smallCall stands unshortened
      obtain ⟨returned, -⟩ := scroll_before static smallCall short tracks ahead
      rw [table]
      refine ⟨fun follows => ?_, fun both => absurd both.1 unshortened⟩
      have succeeded := follows.1.1
      rw [returned] at succeeded
      cases succeeded

end RowCursor

/-! ### The places of a run -/

/-- Where the driver goes: it does not shorten a rowset at the start of the result. -/
def ScrollCall.driverPlace (call : ScrollCall) (numRows previous : Nat) (place : RowPlace) : RowPlace :=
  match call.orientation with
  | .prior => if place = .before then .before else .ofRow numRows (place.number numRows - call.rowsetSize)
  | .last => .ofRow numRows (numRows - call.rowsetSize + 1)
  | _ => call.place numRows previous place

/-- The places that a run comes to. -/
def driverPlaces (numRows : Nat) : RowPlace → Nat → List ScrollCall → List RowPlace
  | _, _, [] => []
  | place, previous, call :: calls =>
    let place' := call.driverPlace numRows previous place
    place' :: driverPlaces numRows place'
      (if place' = .before ∨ place' = .after then previous else call.rowsetSize) calls

/-- A call whose row does not depend on where the cursor stands. -/
def ScrollCall.Absolute (call : ScrollCall) : Prop :=
  call.orientation = .first ∨ call.orientation = .last ∨ call.orientation = .absolute

namespace RowCursor

/-- A run goes to places, one call after another. -/
def GoesToAll (env : FetchEnv) (rows : List Row) : RowCursor → List ScrollCall → List RowPlace → Prop
  | c, call :: calls, place :: places =>
    GoesTo env rows call c place ∧ GoesToAll env rows (c.scroll env call).2 calls places
  | _, calls, places => calls = [] ∧ places = []

variable {env : FetchEnv} {rows : List Row} {c : RowCursor} {call : ScrollCall}

theorem driverPlace_eq {numRows previous : Nat} {place : RowPlace} (small : call.Small)
    (stands : StandsAt numRows place previous c) :
    call.driverPlace numRows previous place =
      .ofRow numRows (call.target numRows c.position c.lastRowFetched + 1) := by
  have table := place_of_unshortened small stands
  unfold ScrollCall.driverPlace
  cases orientation : call.orientation with
  | prior =>
    have here := stands.position
    dsimp only
    rw [ScrollCall.target, orientation]
    dsimp only
    by_cases start : place = .before
    · subst start
      rw [if_pos rfl, here]
      rfl
    · have started : ¬ c.position < 0 := by
        rw [here]
        cases place with
        | before => exact absurd rfl start
        | row s =>
          have first := (stands.row s rfl).1
          rw [number]
          omega
        | after =>
          rw [number]
          omega
      rw [if_neg start, if_neg started]
      exact congrArg (ofRow numRows) (by omega)
  | last =>
    rw [ScrollCall.target, orientation]
  | _ => exact table (by rw [ScrollCall.Unshortened, orientation]; trivial)

theorem goesToAll_places (static : env.cursorType = .static) (clean : env.Clean rows)
    (short : rows.length < 2 ^ 31) {calls : List ScrollCall} (small : ∀ call ∈ calls, call.Small)
    {place : RowPlace} {previous : Nat} (tracks : Tracks rows c) (stands : StandsAt rows.length place previous c) :
    GoesToAll env rows c calls (driverPlaces rows.length place previous calls) := by
  induction calls generalizing c place previous with
  | nil => exact ⟨rfl, rfl⟩
  | cons call calls ih =>
    obtain ⟨smallCall, smallCalls⟩ := forall_mem_cons.mp small
    obtain ⟨goes, stands'⟩ := goesTo_target static clean smallCall short tracks previous
    rw [← driverPlace_eq smallCall stands] at goes stands'
    exact ⟨goes, ih smallCalls (scroll_tracks static clean smallCall short tracks) stands'⟩

theorem Opened.standsAt (opened : Opened rows c) : StandsAt rows.length .before 0 c :=
  ⟨opened.position, Int.le_of_eq opened.lastRowFetched.symm, nofun⟩

end RowCursor

end MaOdbc
