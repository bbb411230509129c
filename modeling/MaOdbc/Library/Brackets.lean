/-
**Texts with brackets.**

A row of brackets and other items, as the groups it consists of.

* `BracketRow`: a row whose brackets are paired. `Bracketed`: any row, with the place where they are not.
* `exists_bracketed`: every row of tokens has such a form.
* `BracketRow.translate`, `Bracketed.translate`: each group is replaced by what a translation makes of its body,
  innermost first and from left to right, in any monad.
-/

import Mathlib.Control.Basic

namespace MaOdbc

open List

inductive Bracket (α : Type*)
  | opening
  | closing
  | copy (item : α)
  deriving DecidableEq, Repr

inductive BracketRow (α : Type*)
  | nil
  | copy (item : α) (rest : BracketRow α)
  | group (body rest : BracketRow α)
  deriving DecidableEq, Repr

/-- Any row: a closing bracket may be without its pair, or opening ones may be, with a row behind each of them. -/
inductive Bracketed (α : Type*)
  | balanced (row : BracketRow α)
  | stray (row : BracketRow α) (rest : List (Bracket α))
  | unclosed (row inner : BracketRow α) (more : List (BracketRow α))
  deriving DecidableEq, Repr

variable {α : Type*}

def BracketRow.tokens : BracketRow α → List (Bracket α)
  | nil => []
  | copy item rest => .copy item :: rest.tokens
  | group body rest => .opening :: body.tokens ++ .closing :: rest.tokens

def openTokens (rows : List (BracketRow α)) : List (Bracket α) := rows.flatMap fun row => .opening :: row.tokens

def Bracketed.tokens : Bracketed α → List (Bracket α)
  | balanced row => row.tokens
  | stray row rest => row.tokens ++ .closing :: rest
  | unclosed row inner more => row.tokens ++ openTokens (inner :: more)

inductive BracketHead (α : Type*)
  | copy (item : α)
  | group (body : BracketRow α)

open BracketHead

def BracketHead.tokens : BracketHead α → List (Bracket α)
  | copy item => [.copy item]
  | group body => .opening :: body.tokens ++ [.closing]

def BracketHead.before : BracketHead α → BracketRow α → BracketRow α
  | copy item, row => .copy item row
  | group body, row => .group body row

theorem BracketHead.tokens_before (head : BracketHead α) (row : BracketRow α) :
    (head.before row).tokens = head.tokens ++ row.tokens := by
  cases head with
  | copy item => rfl
  | group body =>
    show Bracket.opening :: body.tokens ++ .closing :: row.tokens = _
    rw [tokens, append_assoc, singleton_append]

theorem BracketHead.exists_before (head : BracketHead α) (form : Bracketed α) :
    ∃ form' : Bracketed α, form'.tokens = head.tokens ++ form.tokens := by
  cases form with
  | balanced row => exact ⟨.balanced (head.before row), head.tokens_before row⟩
  | stray row rest =>
    refine ⟨.stray (head.before row) rest, ?_⟩
    rw [Bracketed.tokens, Bracketed.tokens, head.tokens_before, append_assoc]
  | unclosed row inner more =>
    refine ⟨.unclosed (head.before row) inner more, ?_⟩
    rw [Bracketed.tokens, Bracketed.tokens, head.tokens_before, append_assoc]

/-- **Every row of tokens has a form.** -/
theorem exists_bracketed (tokens : List (Bracket α)) : ∃ form : Bracketed α, form.tokens = tokens := by
  -- behind an opening bracket the rest has a form, and behind its pair, too
  induction size : tokens.length using Nat.strongRecOn generalizing tokens with
  | ind count ih =>
    cases tokens with
    | nil => exact ⟨.balanced .nil, rfl⟩
    | cons token tokens =>
      rw [length_cons] at size
      obtain ⟨form, same⟩ := ih tokens.length (by omega) tokens rfl
      cases token with
      | copy item =>
        obtain ⟨form', same'⟩ := (copy item).exists_before form
        exact ⟨form', same'.trans (by rw [same]; rfl)⟩
      | closing => exact ⟨.stray .nil tokens, rfl⟩
      | opening =>
        cases form with
        | balanced row =>
          refine ⟨.unclosed .nil row [], ?_⟩
          rw [← same]
          exact append_nil _
        | unclosed row inner more =>
          refine ⟨.unclosed .nil row (inner :: more), ?_⟩
          rw [← same]
          rfl
        | stray row rest =>
          have shorter : rest.length < count := by
            have length := congrArg length same
            rw [Bracketed.tokens, length_append, length_cons] at length
            omega
          obtain ⟨form', same'⟩ := ih rest.length shorter rest rfl
          obtain ⟨form'', same''⟩ := (group row).exists_before form'
          refine ⟨form'', same''.trans ?_⟩
          rw [same', ← same, BracketHead.tokens, append_assoc, singleton_append]
          rfl

/-! ### Translation -/

section Translation

universe u v

variable {α : Type u} {m : Type u → Type v} [Monad m] (rule : List α → m (List α))

/-- A row with each of its groups replaced. -/
def BracketRow.translate : BracketRow α → m (List α)
  | nil => pure []
  | copy item rest => do
      let text ← rest.translate
      pure (item :: text)
  | group body rest => do
      let inner ← body.translate
      let replacement ← rule inner
      let text ← rest.translate
      pure (replacement ++ text)

def translateRows : List (BracketRow α) → m (List α)
  | [] => pure []
  | row :: rows => do
      let text ← row.translate rule
      let more ← translateRows rows
      pure (text ++ more)

/-- **The translation of any row**: it fails where a bracket has no pair. -/
def Bracketed.translate (stray unclosed : m (List α)) : Bracketed α → m (List α)
  | .balanced row => row.translate rule
  | .stray row _ => do
      let _ ← row.translate rule
      stray
  | .unclosed row inner more => do
      let _ ← translateRows rule (row :: inner :: more)
      unclosed

end Translation

end MaOdbc
