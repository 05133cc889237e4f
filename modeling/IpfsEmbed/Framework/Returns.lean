import Mathlib.Logic.Basic

/-!
# Computations that may panic

A function that can panic and can fail with an error is a computation in `ExceptT ε Option`:
`none` is the panic, `some (.error e)` the error and `some (.ok a)` the value.  The
computation *returns* when it does not panic.

A sequence of steps returns when its first step does and the rest returns after every value
that step can give (`Returns.bind`); a first step that panics makes the whole sequence panic
(`run_bind_of_run_eq_none`).  A branch returns, or panics, when both sides do under their case
of the condition (`returns_ite`, `run_ite_eq_none`), which takes a chain of keyword tests apart
one test at a time.  These rules, with `pure`, `throw` and `Option.mapM`, are what a totality
proof of a parser written in this monad goes through.
-/

namespace ExceptT

variable {ε α β : Type}

/-- The computation ends in a value or an error: it does not panic. -/
def Returns (x : ExceptT ε Option α) : Prop :=
  x.run.isSome = true

theorem returns_pure (a : α) : (pure a : ExceptT ε Option α).Returns := rfl

theorem returns_throw (e : ε) : (throw e : ExceptT ε Option α).Returns := rfl

/-- A sequence returns when its first step does and the rest does after every value of the
first step. -/
theorem Returns.bind {x : ExceptT ε Option α} {f : α → ExceptT ε Option β} (hx : x.Returns)
    (hf : ∀ a, x.run = some (.ok a) → (f a).Returns) : (x >>= f).Returns := by
  obtain ⟨r, hr⟩ := Option.isSome_iff_exists.1 hx
  cases r with
  | error e => simp [Returns, ExceptT.run_bind, hr]
  | ok a =>
    have hfa := hf a hr
    simpa [Returns, ExceptT.run_bind, hr] using hfa

/-- A sequence whose first step panics panics. -/
theorem run_bind_of_run_eq_none {x : ExceptT ε Option α} {f : α → ExceptT ε Option β}
    (hx : x.run = none) : (x >>= f).run = none := by
  simp [ExceptT.run_bind, hx]

/-- An error ends the sequence. -/
theorem returns_throw_bind (e : ε) (f : α → ExceptT ε Option β) : (throw e >>= f).Returns :=
  (returns_throw e).bind fun _ h => by cases h

/-- A branch on a condition returns when each side does under its case of the condition. -/
theorem returns_ite {c : Prop} [Decidable c] {x y : ExceptT ε Option α} (hx : c → x.Returns)
    (hy : ¬ c → y.Returns) : (if c then x else y).Returns := by
  split
  · exact hx ‹c›
  · exact hy ‹¬ c›

/-- A branch on a condition panics when each side does under its case of the condition. -/
theorem run_ite_eq_none {c : Prop} [Decidable c] {x y : ExceptT ε Option α}
    (hx : c → x.run = none) (hy : ¬ c → y.run = none) : (if c then x else y).run = none := by
  split
  · exact hx ‹c›
  · exact hy ‹¬ c›

theorem Returns.map {x : ExceptT ε Option α} (hx : x.Returns) (f : α → β) : (f <$> x).Returns := by
  rw [map_eq_pure_bind]
  exact hx.bind fun a _ => returns_pure (f a)

/-- Applying a step that returns to an optional value returns. -/
theorem returns_mapM {f : α → ExceptT ε Option β} (hf : ∀ a, (f a).Returns) (o : Option α) :
    (o.mapM f).Returns := by
  cases o with
  | none => exact returns_pure none
  | some a => exact (hf a).map some

end ExceptT
