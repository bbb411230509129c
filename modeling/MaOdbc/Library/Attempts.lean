/-
**Work that is attempted several times.**

A run is a list of events. An event carries out some keys and may succeed; some events start another
attempt. If an attempt carries out every key at most once, and no attempt starts after a success, then
no key is carried out again once it has succeeded.
-/

import Mathlib.Data.List.Basic
import Mathlib.Data.List.Nodup

namespace MaOdbc

open List

structure Reading (ε κ : Type) where
  keys : ε → List κ
  succeeded : ε → Bool
  starts : ε → Bool

namespace Reading

variable {ε κ : Type} (reading : Reading ε κ)

def keysOf (events : List ε) : List κ := events.flatMap reading.keys

theorem keysOf_append (first second : List ε) :
    reading.keysOf (first ++ second) = reading.keysOf first ++ reading.keysOf second :=
  flatMap_append

def NoRepeat (events : List ε) : Prop :=
  events.Pairwise fun a b => reading.succeeded a = true → ∀ key ∈ reading.keys a, key ∉ reading.keys b

/-- Whenever an attempt starts, nothing has succeeded before. -/
def FreshStarts (events : List ε) : Prop :=
  events.Pairwise fun a b => reading.starts b = true → reading.succeeded a = true → reading.keys a = []

instance [DecidableEq κ] (events : List ε) : Decidable (reading.NoRepeat events) :=
  inferInstanceAs (Decidable (List.Pairwise _ _))

instance (events : List ε) : Decidable (reading.FreshStarts events) :=
  inferInstanceAs (Decidable (List.Pairwise _ _))

/-- A run of attempts, each of which carries out every key at most once. -/
inductive Attempts : List ε → Prop
  | nil : Attempts []
  | silent {events added : List ε} : Attempts events → reading.keysOf added = [] →
      Attempts (events ++ added)
  | attempt {events work : List ε} {start : ε} : Attempts events → reading.starts start = true →
      reading.keys start = [] → (reading.keysOf work).Nodup → Attempts (events ++ start :: work)

variable {reading} {events added : List ε}

theorem noRepeat_of_nodup : ∀ {work : List ε}, (reading.keysOf work).Nodup → reading.NoRepeat work
  | [], _ => List.Pairwise.nil
  | first :: rest, nodup => by
      rw [keysOf, flatMap_cons, nodup_append'] at nodup
      obtain ⟨_, nodupRest, disjoint⟩ := nodup
      refine List.Pairwise.cons ?_ (noRepeat_of_nodup nodupRest)
      intro event member _ key carried again
      exact disjoint carried (mem_flatMap.mpr ⟨event, member, again⟩)

theorem NoRepeat.append_silent (noRepeat : reading.NoRepeat events) (silent : reading.keysOf added = []) :
    reading.NoRepeat (events ++ added) := by
  refine pairwise_append.mpr ⟨noRepeat, ?_, ?_⟩
  · exact noRepeat_of_nodup (by rw [silent]; exact nodup_nil)
  · intro _ _ event member _ key _
    rw [flatMap_eq_nil_iff.mp silent event member]
    exact not_mem_nil

/-- **At most once after success**: if every attempt starts fresh, no key is carried out again once it
has succeeded. -/
theorem Attempts.noRepeat (attempts : reading.Attempts events) (fresh : reading.FreshStarts events) :
    reading.NoRepeat events := by
  induction attempts with
  | nil => exact List.Pairwise.nil
  | silent _ nothing ih =>
    exact (ih (pairwise_append.mp fresh).1).append_silent nothing
  | @attempt events work start _ starts noKeys nodup ih =>
    obtain ⟨before, _, between⟩ := pairwise_append.mp fresh
    refine pairwise_append.mpr ⟨ih before, ?_, ?_⟩
    · apply noRepeat_of_nodup
      rw [keysOf, flatMap_cons, noKeys]
      exact nodup
    · intro event member _ _ succeeded key carried
      rw [between event member start mem_cons_self starts succeeded] at carried
      exact absurd carried not_mem_nil

end Reading

end MaOdbc
