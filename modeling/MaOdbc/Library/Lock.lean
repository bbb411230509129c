/-
**Taking and giving back a lock.**

A call takes a recursive lock some number of times and gives it back. `level` is how often the call holds
it at the end, if the lock was never given back while the call did not hold it.

Several threads take and give back one lock: `Allowed` are the schedules that it lets happen, and in each of them at
most one thread holds it (`Allowed.exclusive`).
-/

import Mathlib.Data.List.Basic

namespace MaOdbc

inductive LockOp
  | acquire
  | release
  deriving DecidableEq, Repr

/-- How often the lock is held at the end, if it is never given back while it is not held. -/
def level : List LockOp → Nat → Option Nat
  | [], held => some held
  | .acquire :: ops, held => level ops (held + 1)
  | .release :: _, 0 => none
  | .release :: ops, held + 1 => level ops held

/-- The lock is given back exactly as often as it is taken, and never while it is not held. -/
def Balanced (ops : List LockOp) : Prop := level ops 0 = some 0

instance (ops : List LockOp) : Decidable (Balanced ops) := inferInstanceAs (Decidable (_ = _))

@[simp] theorem level_nil (held : Nat) : level [] held = some held := rfl

@[simp] theorem level_acquire (ops : List LockOp) (held : Nat) :
    level (.acquire :: ops) held = level ops (held + 1) := rfl

@[simp] theorem level_release (ops : List LockOp) (held : Nat) :
    level (.release :: ops) (held + 1) = level ops held := rfl

theorem level_append (first second : List LockOp) (held : Nat) :
    level (first ++ second) held = (level first held).bind (level second) := by
  induction first generalizing held with
  | nil => rfl
  | cons op ops ih =>
    cases op with
    | acquire => exact ih (held + 1)
    | release =>
      cases held with
      | zero => rfl
      | succ held => exact ih held

/-! ### Threads -/

section Threads

open List

variable {ε τ : Type} [DecidableEq τ] (lockOp : ε → Option LockOp)

/-- How often the lock is held behind an event. A thread that does not hold it cannot give it back. -/
def heldBehind (held : Nat) (event : ε) : Nat :=
  match lockOp event with
  | some .acquire => held + 1
  | some .release => held - 1
  | none => held

/-- The lock is held at each event that needs it. -/
def Guarded (needs : ε → Bool) : Nat → List ε → Prop
  | _, [] => True
  | held, event :: events =>
    (needs event = true → 0 < held) ∧ Guarded needs (heldBehind lockOp held event) events

/-- What one thread does in a schedule. -/
def ofThread (thread : τ) (schedule : List (τ × ε)) : List ε :=
  (schedule.filter (·.1 = thread)).map Prod.snd

/-- How often a thread holds the lock behind a schedule. -/
def heldBy (thread : τ) (schedule : List (τ × ε)) : Nat :=
  (ofThread thread schedule).foldl (heldBehind lockOp) 0

/-- The schedules that a recursive lock allows: no thread takes it while another one holds it. -/
inductive Allowed : List (τ × ε) → Prop
  | nil : Allowed []
  | snoc {schedule : List (τ × ε)} {thread : τ} {event : ε} :
      Allowed schedule → (lockOp event = some .acquire → ∀ other ≠ thread, heldBy lockOp other schedule = 0) →
      Allowed (schedule ++ [(thread, event)])

variable {lockOp} {needs : ε → Bool}

theorem guarded_append {first second : List ε} {held : Nat} :
    Guarded lockOp needs held (first ++ second) ↔
      Guarded lockOp needs held first ∧ Guarded lockOp needs (first.foldl (heldBehind lockOp) held) second := by
  induction first generalizing held with
  | nil => exact (iff_of_eq (true_and _)).symm
  | cons event first ih => exact (and_congr_right fun _ => ih).trans and_assoc.symm

theorem guarded_of_silent {work : List ε} (silent : ∀ event ∈ work, lockOp event = none) {held : Nat}
    (holds : 0 < held) : Guarded lockOp needs held work ∧ work.foldl (heldBehind lockOp) held = held := by
  induction work with
  | nil => exact ⟨trivial, rfl⟩
  | cons event work ih =>
    obtain ⟨first, rest⟩ := forall_mem_cons.mp silent
    have same : heldBehind lockOp held event = held := by rw [heldBehind, first]
    rw [Guarded, foldl_cons, same]
    exact ⟨⟨fun _ => holds, (ih rest).1⟩, (ih rest).2⟩

theorem ofThread_snoc (thread other : τ) (schedule : List (τ × ε)) (event : ε) :
    ofThread other (schedule ++ [(thread, event)]) =
      ofThread other schedule ++ if thread = other then [event] else [] := by
  rw [ofThread, filter_append, map_append, ofThread]
  split
  · rename_i same
    rw [filter_cons_of_pos (by simpa using same)]
    rfl
  · rename_i different
    rw [filter_cons_of_neg (by simpa using different)]
    rfl

theorem heldBy_snoc (thread other : τ) (schedule : List (τ × ε)) (event : ε) :
    heldBy lockOp other (schedule ++ [(thread, event)]) =
      if thread = other then heldBehind lockOp (heldBy lockOp other schedule) event
      else heldBy lockOp other schedule := by
  rw [heldBy, ofThread_snoc, foldl_append]
  split
  · rfl
  · rfl

/-- **Mutual exclusion.** Of two threads, one does not hold the lock. -/
theorem Allowed.exclusive {schedule : List (τ × ε)} (allowed : Allowed lockOp schedule) {thread other : τ}
    (different : other ≠ thread) : heldBy lockOp thread schedule = 0 ∨ heldBy lockOp other schedule = 0 := by
  induction allowed with
  | nil => exact .inl rfl
  | @snoc schedule actor event _ free before =>
    rw [heldBy_snoc, heldBy_snoc]
    rcases op : lockOp event with _ | (_ | _)
    · simpa [heldBehind, op] using before
    · by_cases acts : actor = thread
      · subst acts
        rw [if_neg (Ne.symm different)]
        exact .inr (free op other different)
      · rw [if_neg acts]
        exact .inl (free op thread (Ne.symm acts))
    · refine before.imp (fun free => ?_) (fun free => ?_)
      · simp [heldBehind, op, free]
      · simp [heldBehind, op, free]

end Threads

end MaOdbc
