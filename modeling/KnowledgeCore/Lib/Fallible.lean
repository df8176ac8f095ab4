import Mathlib.Data.List.Basic
import Mathlib.Logic.Relation

/-!
# Programs that act on a state and may fail

A failure leaves what has been done to the state before it. There is a rule for what a sequence
returns, one for how it fails, and one for the steps by which it changes the state whether it fails
or not.
-/

/-- A program that acts on a state of type `σ`, and returns a value of type `α` or fails with an
error of type `ε`. -/
def Fallible (σ ε α : Type) : Type := σ → Except ε α × σ

namespace Fallible

variable {σ ε α β : Type}

/-- Run `p`, and then `f` on the value it returns. -/
def bind (p : Fallible σ ε α) (f : α → Fallible σ ε β) : Fallible σ ε β := fun s =>
  match p s with
  | (.ok a, t) => f a t
  | (.error e, t) => (.error e, t)

instance : Monad (Fallible σ ε) where
  pure a := fun s => (.ok a, s)
  bind := bind

/-- The program that returns or fails with what is found in the state. -/
def reading (f : σ → Except ε α) : Fallible σ ε α := fun s => (f s, s)

/-- The program that returns or fails at once. -/
def ofExcept (r : Except ε α) : Fallible σ ε α := fun s => (r, s)

variable {p : Fallible σ ε α} {f : α → Fallible σ ε β} {s t : σ}

/-! ### Outcomes -/

theorem pure_eq_ok {a b : α} :
  (pure a : Fallible σ ε α) s = (.ok b, t) ↔ b = a ∧ t = s
  := by
  constructor
  · intro h
    cases h
    exact ⟨rfl, rfl⟩
  · rintro ⟨rfl, rfl⟩
    rfl

theorem reading_eq_ok {g : σ → Except ε α} {a : α} :
  reading g s = (.ok a, t) ↔ g s = .ok a ∧ t = s
  := by
  rw [reading, Prod.mk.injEq, eq_comm (a := s)]

theorem ofExcept_eq_ok {r : Except ε α} {a : α} :
  ofExcept r s = (.ok a, t) ↔ r = .ok a ∧ t = s
  := by
  rw [ofExcept, Prod.mk.injEq, eq_comm (a := s)]

theorem bind_of_ok {a : α} (h : p s = (.ok a, t)) :
  (p >>= f) s = f a t
  := by
  change bind p f s = _
  rw [bind, h]

theorem bind_of_error {e : ε} (h : p s = (.error e, t)) :
  (p >>= f) s = (.error e, t)
  := by
  change bind p f s = _
  rw [bind, h]

/-- A sequence returns what its second part returns after its first part has returned. -/
theorem bind_eq_ok {b : β} :
  (p >>= f) s = (.ok b, t) ↔ ∃ a u, p s = (.ok a, u) ∧ f a u = (.ok b, t)
  := by
  rcases hp : p s with ⟨e | a, u⟩
  · rw [bind_of_error hp]
    simp
  · rw [bind_of_ok hp]
    constructor
    · intro h
      use a, u
    · rintro ⟨a', u', heq, h⟩
      cases heq
      exact h

/-- A sequence fails in its first part, or in its second part after the first. -/
theorem bind_eq_error {e : ε} :
  (p >>= f) s = (.error e, t)
    ↔ p s = (.error e, t) ∨ ∃ a u, p s = (.ok a, u) ∧ f a u = (.error e, t)
  := by
  rcases hp : p s with ⟨e' | a, u⟩
  · rw [bind_of_error hp]
    simp
  · rw [bind_of_ok hp]
    constructor
    · intro h
      right
      use a, u
    · rintro (h | ⟨a', u', heq, h⟩)
      · cases h
      · cases heq
        exact h

/-! ### Steps -/

open Relation (ReflTransGen)

/-- The program leads from the state by steps of `R`, whether it fails or not. -/
def Within (R : σ → σ → Prop) (p : Fallible σ ε α) (s : σ) : Prop :=
  ReflTransGen R s (p s).2

variable {R : σ → σ → Prop}

theorem Within.pure (a : α) (s : σ) :
  Within R (pure a : Fallible σ ε α) s
  := ReflTransGen.refl

theorem Within.reading (g : σ → Except ε α) (s : σ) :
  Within R (reading g) s
  := ReflTransGen.refl

theorem Within.ofExcept (r : Except ε α) (s : σ) :
  Within R (ofExcept r : Fallible σ ε α) s
  := ReflTransGen.refl

/-- What a sequence does after its first part leads on from where that has ended. -/
theorem within_bind (hf : ∀ a t, p s = (.ok a, t) → Within R (f a) t) :
  ReflTransGen R (p s).2 ((p >>= f) s).2
  := by
  rcases hrun : p s with ⟨e | a, t⟩
  · rw [bind_of_error hrun]
  · rw [bind_of_ok hrun]
    exact hf a t hrun

/-- The second part of a sequence starts where the first part has returned. -/
theorem Within.bind (hp : Within R p s) (hf : ∀ a t, p s = (.ok a, t) → Within R (f a) t) :
  Within R (p >>= f) s
  := hp.trans (within_bind hf)

end Fallible
