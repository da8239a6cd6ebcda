import Mathlib

/-!
Computations that may fail on a state that survives the failure, as a method with
`?` leaves the fields it has already changed. A triple has a postcondition for each
outcome, and the rule for a sequence discharges the failures of its parts once.
-/
namespace ClixonSwitch.Lib

def Failing (ε σ α : Type) : Type := σ → Except ε α × σ

namespace Failing
variable {ε σ α β : Type}

instance : Monad (Failing ε σ) where
  pure a := fun s => (.ok a, s)
  bind x f := fun s =>
    match x s with
    | (.ok a, s') => f a s'
    | (.error e, s') => (.error e, s')

theorem bind_apply (x : Failing ε σ α) (f : α → Failing ε σ β) (s : σ) :
    (x >>= f) s = match x s with
    | (.ok a, s') => f a s'
    | (.error e, s') => (.error e, s') := rfl

/-- From states with `pre`, `x` ends in `ok` with its value or fails in `failed`. -/
def Triple (pre : σ → Prop) (x : Failing ε σ α) (ok : α → σ → Prop) (failed : σ → Prop) : Prop :=
  ∀ s, pre s →
    (∀ a s', x s = (.ok a, s') → ok a s') ∧ ∀ e s', x s = (.error e, s') → failed s'

variable {pre : σ → Prop} {x : Failing ε σ α} {f : α → Failing ε σ β} {mid : α → σ → Prop}
  {done : β → σ → Prop} {failed : σ → Prop}

theorem triple_bind (first : Triple pre x mid failed)
    (rest : ∀ a, Triple (mid a) (f a) done failed) : Triple pre (x >>= f) done failed := by
  intro s hs
  obtain ⟨hok, herr⟩ := first s hs
  rw [bind_apply]
  split
  · next a s' hx => exact rest a s' (hok a s' hx)
  · next e s' hx =>
    refine ⟨(fun _ _ h => nomatch h), fun _ _ h => ?_⟩
    cases h
    exact herr e s' hx

theorem triple_pure {a : α} {post : α → σ → Prop} (h : ∀ s, pre s → post a s) :
    Triple pre (pure a : Failing ε σ α) post failed := by
  intro s hs
  refine ⟨fun _ _ heq => ?_, fun _ _ heq => nomatch heq⟩
  cases heq
  exact h s hs

theorem Triple.imp_failed {post : α → σ → Prop} {failed' : σ → Prop}
    (h : Triple pre x post failed) (imp : ∀ s, failed s → failed' s) :
    Triple pre x post failed' := by
  intro s hs
  exact ⟨(h s hs).1, fun e s' run => imp s' ((h s hs).2 e s' run)⟩

/-- A value that a computation returns in some state satisfies its postcondition. -/
theorem Triple.of_ok {post : α → σ → Prop} (h : Triple pre x post failed) {s s' : σ} {a : α}
    (start : pre s) (run : x s = (.ok a, s')) : post a s' :=
  (h s start).1 a s' run

/-- A state property that holds after both outcomes. -/
theorem Triple.after {post : α → σ → Prop} (h : Triple pre x post failed) (inv : σ → Prop)
    (hok : ∀ a s, post a s → inv s) (hfailed : ∀ s, failed s → inv s) {s : σ} (start : pre s) :
    inv (x s).2 := by
  cases hx : x s with
  | mk result s' =>
    cases result with
    | ok a => exact hok a s' ((h s start).1 a s' hx)
    | error e => exact hfailed s' ((h s start).2 e s' hx)

end Failing

end ClixonSwitch.Lib
