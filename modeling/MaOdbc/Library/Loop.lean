/-
**Loops.**

* `whileLoop guard body fuel state` runs `body` as long as `guard` holds, at most `fuel` times. A rank
  that falls at every round bounds the fuel a loop needs; `whileLoop_rule` is the invariant rule.
* `forEach body items state` runs `body` over a list, until a round leaves the loop. `forEach_rule` is
  its invariant rule, over the items already done.
* `foldl_last`: a loop over writes leaves what the last one wrote. `foldl_reaches`: what one entry brings about, and
  the others keep.
-/

import Mathlib.Tactic.Common

namespace MaOdbc

open List

section WhileLoop

variable {σ : Type*}

/-- Run `body` as long as `guard` holds, at most `fuel` times. -/
def whileLoop (guard : σ → Bool) (body : σ → σ) : Nat → σ → σ
  | 0, state => state
  | fuel + 1, state => if guard state then whileLoop guard body fuel (body state) else state

variable {guard : σ → Bool} {body : σ → σ} {rank : σ → Nat} {invariant : σ → Prop}

theorem whileLoop_of_guard_false {state : σ} (stopped : guard state = false) (fuel : Nat) :
    whileLoop guard body fuel state = state := by
  cases fuel with
  | zero => rfl
  | succ fuel => simp [whileLoop, stopped]

/-- **The invariant rule.** What every round keeps holds when the loop ends, and a rank that falls
at every round makes it end. -/
theorem whileLoop_rule
    (step : ∀ state, invariant state → guard state = true →
      invariant (body state) ∧ rank (body state) < rank state)
    {fuel : Nat} {state : σ} (start : invariant state) (enough : rank state ≤ fuel) :
    invariant (whileLoop guard body fuel state) ∧
      guard (whileLoop guard body fuel state) = false := by
  induction fuel generalizing state with
  | zero =>
    refine ⟨start, ?_⟩
    by_contra running
    have smaller := (step state start (by simpa [whileLoop] using running)).2
    omega
  | succ fuel ih =>
    by_cases running : guard state = true
    · obtain ⟨kept, smaller⟩ := step state start running
      have next := ih kept (by omega)
      simpa [whileLoop, running] using next
    · have stopped : guard state = false := by simpa using running
      rw [whileLoop_of_guard_false stopped]
      exact ⟨start, stopped⟩

end WhileLoop

/-- How a round of a loop ends: with the next round, or at a label behind the loop. -/
inductive Flow (σ ε : Type*)
  | next (state : σ)
  | leave (exit : ε)
  deriving DecidableEq, Repr

section ForEach

variable {α σ ε : Type*}

/-- Run `body` for each item, until a round leaves the loop. -/
def forEach (body : α → σ → Flow σ ε) : List α → σ → Flow σ ε
  | [], state => .next state
  | item :: items, state =>
    match body item state with
    | .next state => forEach body items state
    | .leave exit => .leave exit

variable {body : α → σ → Flow σ ε}

theorem forEach_cons (item : α) (items : List α) (state : σ) :
    forEach body (item :: items) state =
      match body item state with
      | .next state => forEach body items state
      | .leave exit => .leave exit := rfl

theorem forEach_append (items items' : List α) (state : σ) :
    forEach body (items ++ items') state =
      match forEach body items state with
      | .next state => forEach body items' state
      | .leave exit => .leave exit := by
  induction items generalizing state with
  | nil => rfl
  | cons item items ih =>
    rw [cons_append, forEach_cons, forEach_cons]
    cases body item state with
    | next state => exact ih state
    | leave exit => rfl

def Flow.All (next : σ → Prop) (leave : ε → Prop) : Flow σ ε → Prop
  | .next state => next state
  | .leave exit => leave exit

@[simp] theorem Flow.all_next {next : σ → Prop} {leave : ε → Prop} {state : σ} :
    (Flow.next state).All next leave ↔ next state := Iff.rfl

@[simp] theorem Flow.all_leave {next : σ → Prop} {leave : ε → Prop} {exit : ε} :
    (Flow.leave exit : Flow σ ε).All next leave ↔ leave exit := Iff.rfl

theorem Flow.All.imp {next next' : σ → Prop} {leave leave' : ε → Prop} {flow : Flow σ ε}
    (all : flow.All next leave) (next_imp : ∀ state, next state → next' state)
    (leave_imp : ∀ exit, leave exit → leave' exit) : flow.All next' leave' := by
  cases flow with
  | next state => exact next_imp state all
  | leave exit => exact leave_imp exit all

/-- **The invariant rule**: an invariant that each round keeps, or gives up for what holds at the exit,
holds behind the loop. It may speak of the items already done. -/
theorem forEach_rule (invariant : List α → σ → Prop) {exit : ε → Prop} {all : List α}
    (step : ∀ done item todo state, all = done ++ item :: todo → invariant done state →
      (body item state).All (invariant (done ++ [item])) exit)
    {done todo : List α} (split : all = done ++ todo) {state : σ} (start : invariant done state) :
    (forEach body todo state).All (invariant all) exit := by
  induction todo generalizing done state with
  | nil =>
    rw [split, append_nil]
    exact start
  | cons item todo ih =>
    have round := step done item todo state split start
    rw [forEach_cons]
    cases ended : body item state with
    | next state' =>
      rw [ended] at round
      exact ih (by rw [split, append_assoc]; rfl) round
    | leave exit' =>
      rw [ended] at round
      exact round

theorem forEach_range'_rule (invariant : Nat → σ → Prop) {exit : ε → Prop} {body : Nat → σ → Flow σ ε}
    {start count : Nat}
    (step : ∀ i state, start ≤ i → i < start + count → invariant i state →
      (body i state).All (invariant (i + 1)) exit)
    {state : σ} (init : invariant start state) :
    (forEach body (range' start count) state).All (invariant (start + count)) exit := by
  induction count generalizing start state with
  | zero => exact init
  | succ count ih =>
    have first := step start state (Nat.le_refl _) (by omega) init
    rw [range'_succ, forEach_cons]
    cases taken : body start state with
    | leave left =>
      rw [taken] at first
      exact first
    | next state' =>
      rw [taken] at first
      have rest := ih (fun i state lower upper => step i state (by omega) (by omega)) first
      rwa [Nat.add_right_comm] at rest

/-- **Collecting**: a relation between states that lists what was done on the way lists, behind a loop,
what each round does. -/
theorem forEach_collect {κ : Type*} {relation : List κ → σ → σ → Prop}
    (left : List κ → σ → ε → Prop) {key : α → List κ} (refl : ∀ state, relation [] state state)
    (trans : ∀ {done done' state state' state''}, relation done state state' →
      relation done' state' state'' → relation (done ++ done') state state'')
    (leave : ∀ {done done' all state state' exit}, relation done state state' →
      left done' state' exit → (done ++ done').Sublist all → left all state exit)
    {items : List α} {state : σ}
    (step : ∀ item ∈ items, ∀ done state', relation done state state' →
      (body item state').All (relation (key item) state') (left (key item) state')) :
    (forEach body items state).All (relation (items.flatMap key) state)
      (left (items.flatMap key) state) := by
  refine forEach_rule (fun done state' => relation (done.flatMap key) state state') ?_
    (nil_append items).symm (refl state)
  intro done item todo state' split before
  have round := step item (by rw [split]; simp) _ state' before
  refine round.imp (fun state'' after => ?_) (fun exit after => ?_)
  · rw [flatMap_append, flatMap_singleton]
    exact trans before after
  · refine leave before after ?_
    rw [split, flatMap_append, flatMap_cons, ← append_assoc]
    exact sublist_append_left _ _

end ForEach

/-- **The last write decides** what a loop leaves in a place. -/
theorem foldl_last {σ ε α : Type*} {step : σ → ε → σ} (project : σ → α) {writes : ε → Bool} {written : ε → α}
    {entries : List ε} (steps : ∀ state, ∀ entry ∈ entries,
      project (step state entry) = if writes entry then written entry else project state) (state : σ) :
    project (entries.foldl step state) = ((entries.reverse.find? writes).map written).getD (project state) := by
  induction entries generalizing state with
  | nil => rfl
  | cons entry entries ih =>
    have later := ih fun state next member => steps state next (mem_cons_of_mem _ member)
    rw [foldl_cons, later, reverse_cons, find?_append, steps state entry mem_cons_self]
    cases entries.reverse.find? writes with
    | some last => rfl
    | none =>
      rw [Option.none_or, find?_singleton]
      cases writes entry with
      | true | false => rfl

/-- **What one entry brings about**, and the entries behind it keep. -/
theorem foldl_reaches {σ ε : Type*} {step : σ → ε → σ} (always holds : σ → Prop) (sets : ε → Prop) {entries : List ε}
    (keeps : ∀ state, ∀ entry ∈ entries, always state → always (step state entry))
    (steps : ∀ state, ∀ entry ∈ entries, always state → holds state ∨ sets entry → holds (step state entry))
    {state : σ} (begun : always state) (start : holds state ∨ ∃ entry ∈ entries, sets entry) :
    holds (entries.foldl step state) := by
  induction entries generalizing state with
  | nil =>
    rcases start with reached | ⟨entry, none, -⟩
    · exact reached
    · cases none
  | cons entry entries ih =>
    obtain ⟨keep, keeps⟩ := forall_mem_cons.mp fun next member state => keeps state next member
    obtain ⟨here, later⟩ := forall_mem_cons.mp fun next member state => steps state next member
    rw [foldl_cons]
    refine ih (fun state next member => keeps next member state) (fun state next member => later next member state)
      (keep state begun) ?_
    rcases start with reached | ⟨found, member, is_set⟩
    · exact .inl (here state begun (.inl reached))
    · rcases mem_cons.mp member with rfl | behind
      · exact .inl (here state begun (.inr is_set))
      · exact .inr ⟨found, behind, is_set⟩

end MaOdbc
