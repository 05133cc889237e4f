import Mathlib.Logic.Relation

/-!
# Reachable states of a transition system

A system is a transition relation on its states.  A component whose operations are
partial functions (`none` for a call that panics) with inputs from some alphabet becomes one
through `stepOf`, which may restrict the inputs to those satisfying a guard, so that the
same component can be run under any inputs or only under well-formed ones.

The one proof principle is the invariant rule: a property that holds initially and that
every step preserves holds in every reachable state.  `Reachable.invariant_of_aux` is the
form used when the preservation argument needs a second invariant proved before, and
`Reachable.rel` the form for a relation between the first and the last state of a run.

A system whose steps read a clock runs on one that never goes back through `onClock`: its
states carry the time of their last step.
-/

namespace Reach

variable {σ ι : Type*}

/-- The states reachable from `init` in finitely many `step`s. -/
def Reachable (step : σ → σ → Prop) (init : σ) (s : σ) : Prop :=
  Relation.ReflTransGen step init s

/-- The transition relation of a partial step function, restricted to the inputs on which
`ok` holds. -/
def stepOf (f : σ → ι → Option σ) (ok : σ → ι → Prop) (s s' : σ) : Prop :=
  ∃ i, ok s i ∧ f s i = some s'

/-- The steps of `step now` taken at times that never decrease; a state carries the time of
the step that reached it. -/
def onClock (step : Nat → σ → σ → Prop) (s s' : σ × Nat) : Prop :=
  s.2 ≤ s'.2 ∧ step s'.2 s.1 s'.1

variable {step step' : σ → σ → Prop} {init : σ}

theorem Reachable.refl : Reachable step init init :=
  Relation.ReflTransGen.refl

theorem Reachable.tail {s s' : σ} (h : Reachable step init s) (hs : step s s') :
    Reachable step init s' :=
  Relation.ReflTransGen.tail h hs

/-- **Invariant rule.** -/
theorem Reachable.invariant {inv : σ → Prop} (h0 : inv init)
    (hstep : ∀ s s', inv s → step s s' → inv s') {s : σ} (h : Reachable step init s) :
    inv s := by
  induction h with
  | refl => exact h0
  | tail _ hs ih => exact hstep _ _ ih hs

/-- The invariant rule when preservation also relies on an invariant `aux` that holds in
every reachable state. -/
theorem Reachable.invariant_of_aux {aux inv : σ → Prop}
    (haux : ∀ s, Reachable step init s → aux s) (h0 : inv init)
    (hstep : ∀ s s', aux s → inv s → step s s' → inv s') {s : σ}
    (h : Reachable step init s) : inv s := by
  induction h with
  | refl => exact h0
  | @tail s₁ s₂ hr hs ih => exact hstep s₁ s₂ (haux s₁ hr) ih hs

/-- **Relation rule.**  A relation between two states that every step establishes and that
composes relates the initial state to every reachable one: what a run does, from any start,
is what its steps do. -/
theorem Reachable.rel {R : σ → σ → Prop} (hrefl : R init init)
    (htrans : ∀ {s₁ s₂ s₃}, R s₁ s₂ → R s₂ s₃ → R s₁ s₃) (hstep : ∀ s s', step s s' → R s s')
    {s : σ} (h : Reachable step init s) : R init s := by
  induction h with
  | refl => exact hrefl
  | tail _ hs ih => exact htrans ih (hstep _ _ hs)

/-- A run of a more restricted system is a run of a less restricted one. -/
theorem Reachable.mono (himp : ∀ s s', step s s' → step' s s') {s : σ}
    (h : Reachable step init s) : Reachable step' init s :=
  Relation.ReflTransGen.mono himp _ _ h

theorem stepOf_mono {f : σ → ι → Option σ} {ok ok' : σ → ι → Prop}
    (himp : ∀ s i, ok s i → ok' s i) (s s' : σ) (h : stepOf f ok s s') : stepOf f ok' s s' := by
  obtain ⟨i, hi, hf⟩ := h
  exact ⟨i, himp s i hi, hf⟩

end Reach
