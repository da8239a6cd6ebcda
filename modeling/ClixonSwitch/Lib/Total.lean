import ClixonSwitch.Lib.Commands
import ClixonSwitch.Lib.Failing

/-!
Computations that do not fail, and properties of the state that a computation keeps
whether or not it fails. `Total` is a triple that also promises a value; a property that
is kept can be added to it on both sides.
-/
namespace ClixonSwitch.Lib

namespace Failing
variable {ε σ α β : Type}

theorem bind_of_ok {x : Failing ε σ α} {f : α → Failing ε σ β} {s s' : σ} {a : α}
    (h : x s = (.ok a, s')) : (x >>= f) s = f a s' := by
  rw [bind_apply, h]

theorem bind_of_error {x : Failing ε σ α} {f : α → Failing ε σ β} {s s' : σ} {e : ε}
    (h : x s = (.error e, s')) : (x >>= f) s = (.error e, s') := by
  rw [bind_apply, h]

/-- A sequence that returns a value has returned one in each part. -/
theorem bind_ok {x : Failing ε σ α} {f : α → Failing ε σ β} {s s' : σ} {b : β}
    (h : (x >>= f) s = (.ok b, s')) : ∃ a s₁, x s = (.ok a, s₁) ∧ f a s₁ = (.ok b, s') := by
  rw [bind_apply] at h
  split at h
  · next a s₁ hx => exact ⟨a, s₁, hx, h⟩
  · cases h

/-- From states with `pre`, `x` returns a value and ends in `post`. -/
def Total (pre : σ → Prop) (x : Failing ε σ α) (post : α → σ → Prop) : Prop :=
  ∀ s, pre s → ∃ a s', x s = (.ok a, s') ∧ post a s'

/-- `x` keeps `inv`, succeed or fail. -/
def Keeps (inv : σ → Prop) (x : Failing ε σ α) : Prop := ∀ s, inv s → inv (x s).2

variable {pre inv : σ → Prop} {x : Failing ε σ α} {f : α → Failing ε σ β} {mid : α → σ → Prop}
  {post : β → σ → Prop}

theorem Total.bind (first : Total pre x mid) (rest : ∀ a, Total (mid a) (f a) post) :
    Total pre (x >>= f) post := by
  intro s hs
  obtain ⟨a, s₁, hx, hmid⟩ := first s hs
  obtain ⟨b, s₂, hf, hpost⟩ := rest a s₁ hmid
  exact ⟨b, s₂, (bind_of_ok hx).trans hf, hpost⟩

theorem Total.pure {a : α} (h : ∀ s, pre s → mid a s) :
    Total pre (Pure.pure a : Failing ε σ α) mid :=
  fun s hs => ⟨a, s, rfl, h s hs⟩

theorem Total.keeping (h : Total pre x mid) (keeps : Keeps inv x) :
    Total (fun s => pre s ∧ inv s) x fun a s => mid a s ∧ inv s := by
  rintro s ⟨hs, hinv⟩
  obtain ⟨a, s', hx, hmid⟩ := h s hs
  have hafter := keeps s hinv
  rw [hx] at hafter
  exact ⟨a, s', hx, hmid, hafter⟩

theorem Keeps.bind (first : Keeps inv x) (rest : ∀ a, Keeps inv (f a)) : Keeps inv (x >>= f) := by
  intro s hs
  have hfirst := first s hs
  rw [bind_apply]
  split
  · next a s' hx =>
    rw [hx] at hfirst
    exact rest a s' hfirst
  · next e s' hx =>
    rw [hx] at hfirst
    exact hfirst

/-- A property that is kept holds after both outcomes. -/
theorem Keeps.triple (h : Keeps inv x) : Triple inv x (fun _ => inv) inv := by
  intro s hs
  have hafter := h s hs
  refine ⟨fun a s' run => ?_, fun e s' run => ?_⟩
  · rwa [run] at hafter
  · rwa [run] at hafter

theorem Keeps.pure (a : α) : Keeps inv (Pure.pure a : Failing ε σ α) := fun _ hs => hs

end Failing

/-- Commands that never fail do not fail in a sequence. -/
theorem runAll_total {α σ ε : Type} {step : α → σ → Except ε Unit × σ}
    (h : ∀ a s, ∃ s', step a s = (.ok (), s')) (as : List α) (s : σ) :
    ∃ s', runAll step as s = (.ok (), s') := by
  induction as generalizing s with
  | nil => exact ⟨s, rfl⟩
  | cons a rest ih =>
    obtain ⟨s₁, hstep⟩ := h a s
    obtain ⟨s₂, hrest⟩ := ih s₁
    exact ⟨s₂, by rw [runAll_cons_ok hstep, hrest]⟩

end ClixonSwitch.Lib
