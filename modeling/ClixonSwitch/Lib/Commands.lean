import Mathlib

/-!
Sequences of commands that may fail. A command returns its result together with
the state it leaves, also when it fails; a sequence stops at the first failure.
`trail` lists every command issued with its result and the state after it, so
that a property of the trail is a property of every intermediate state.
-/
namespace ClixonSwitch.Lib

variable {α σ ε : Type} (step : α → σ → Except ε Unit × σ)

/-- Commands in order, up to the first failure. -/
def runAll : List α → σ → Except (α × ε) Unit × σ
  | [], s => (.ok (), s)
  | a :: rest, s =>
    match step a s with
    | (.ok (), s') => runAll rest s'
    | (.error e, s') => (.error (a, e), s')

/-- The commands issued, each with its result and the state it leaves. -/
def trail : List α → σ → List (α × Except ε Unit × σ)
  | [], _ => []
  | a :: rest, s =>
    match step a s with
    | (.ok (), s') => (a, .ok (), s') :: trail rest s'
    | (.error e, s') => [(a, .error e, s')]

variable {step} {a : α} {as bs : List α} {s s' : σ}

theorem runAll_cons_ok (h : step a s = (.ok (), s')) :
    runAll step (a :: as) s = runAll step as s' := by
  simp [runAll, h]

theorem runAll_append_ok (h : runAll step as s = (.ok (), s')) :
    runAll step (as ++ bs) s = runAll step bs s' := by
  induction as generalizing s with
  | nil =>
    simp only [runAll, Prod.mk.injEq, true_and] at h
    simp [h]
  | cons a rest ih =>
    simp only [runAll, List.cons_append] at h ⊢
    split at h
    · exact ih h
    · simp at h

theorem runAll_append_error {e : α × ε} (h : runAll step as s = (.error e, s')) :
    runAll step (as ++ bs) s = (.error e, s') := by
  induction as generalizing s with
  | nil => simp [runAll] at h
  | cons a rest ih =>
    simp only [runAll, List.cons_append] at h ⊢
    split at h
    · exact ih h
    · exact h

/-- A successful sequence succeeds piece by piece. -/
theorem runAll_append_inv (as bs : List α) (h : runAll step (as ++ bs) s = (.ok (), s')) :
    ∃ mid, runAll step as s = (.ok (), mid) ∧ runAll step bs mid = (.ok (), s') := by
  cases hr : runAll step as s with
  | mk result mid =>
    cases result with
    | error e => rw [runAll_append_error hr] at h; simp at h
    | ok u => exact ⟨mid, rfl, by rw [← runAll_append_ok hr]; exact h⟩

theorem trail_append_ok (h : runAll step as s = (.ok (), s')) :
    trail step (as ++ bs) s = trail step as s ++ trail step bs s' := by
  induction as generalizing s with
  | nil =>
    simp only [runAll, Prod.mk.injEq, true_and] at h
    simp [trail, h]
  | cons a rest ih =>
    simp only [runAll, trail, List.cons_append] at h ⊢
    split at h
    · simp [ih h]
    · simp at h

theorem trail_append_error {e : α × ε} (h : runAll step as s = (.error e, s')) :
    trail step (as ++ bs) s = trail step as s := by
  induction as generalizing s with
  | nil => simp [runAll] at h
  | cons a rest ih =>
    simp only [runAll, trail, List.cons_append] at h ⊢
    split at h
    · rw [ih h]
    · rfl

/-- A property of every issued command, piece by piece. -/
theorem trail_append_forall {P : α × Except ε Unit × σ → Prop}
    (first : ∀ t ∈ trail step as s, P t)
    (second : ∀ s', runAll step as s = (.ok (), s') → ∀ t ∈ trail step bs s', P t) :
    ∀ t ∈ trail step (as ++ bs) s, P t := by
  cases hr : runAll step as s with
  | mk result mid =>
    cases result with
    | error e =>
      rw [trail_append_error hr]
      exact first
    | ok u =>
      rw [trail_append_ok hr]
      intro t ht
      rcases List.mem_append.mp ht with ht | ht
      · exact first t ht
      · exact second mid hr t ht

/-- The state a sequence ends in is the start or one its trail records. -/
theorem runAll_of_trail (inv : σ → Prop) (start : inv s)
    (during : ∀ t ∈ trail step as s, inv t.2.2) : inv (runAll step as s).2 := by
  induction as generalizing s with
  | nil => exact start
  | cons a rest ih =>
    simp only [trail] at during
    simp only [runAll]
    split
    · next s' heq =>
      simp only [heq, List.mem_cons, forall_eq_or_imp] at during
      exact ih during.1 during.2
    · next e s' heq =>
      simp only [heq, List.mem_singleton, forall_eq] at during
      exact during

/-- What every command keeps holds in every intermediate state. -/
theorem trail_invariant (inv : σ → Prop)
    (preserved : ∀ a ∈ as, ∀ s, inv s → inv (step a s).2) (start : inv s) :
    ∀ t ∈ trail step as s, inv t.2.2 := by
  induction as generalizing s with
  | nil => simp [trail]
  | cons a rest ih =>
    have hstep := preserved a (by simp) s start
    simp only [trail]
    split
    · next s' heq =>
      rw [heq] at hstep
      intro t ht
      rcases List.mem_cons.mp ht with rfl | ht
      · exact hstep
      · exact ih (fun b hb => preserved b (by simp [hb])) hstep t ht
    · next e s' heq =>
      rw [heq] at hstep
      intro t ht
      rw [List.mem_singleton] at ht
      subst ht
      exact hstep

/-- What every command keeps, a sequence keeps, wherever it stops. -/
theorem runAll_invariant (inv : σ → Prop)
    (preserved : ∀ a ∈ as, ∀ s, inv s → inv (step a s).2) (start : inv s) :
    inv (runAll step as s).2 :=
  runAll_of_trail inv start (trail_invariant inv preserved start)

/-- What every successful command keeps, a successful sequence keeps. -/
theorem runAll_ok_invariant (inv : σ → Prop)
    (preserved : ∀ a ∈ as, ∀ s s', inv s → step a s = (.ok (), s') → inv s') (start : inv s)
    (run : runAll step as s = (.ok (), s')) : inv s' := by
  induction as generalizing s with
  | nil =>
    simp only [runAll, Prod.mk.injEq, true_and] at run
    exact run ▸ start
  | cons a rest ih =>
    simp only [runAll] at run
    split at run
    · next s₁ heq =>
      exact ih (fun b hb => preserved b (by simp [hb])) (preserved a (by simp) s s₁ start heq) run
    · simp at run

/-- A sequence succeeds exactly if no command in its trail failed. -/
theorem runAll_ok_iff_trail (as : List α) (s : σ) :
    (runAll step as s).1 = .ok () ↔ ∀ t ∈ trail step as s, t.2.1 = .ok () := by
  induction as generalizing s with
  | nil => simp [runAll, trail]
  | cons a rest ih =>
    simp only [runAll, trail]
    split
    · simp [ih]
    · simp

/-- A part of the state that influences neither results nor the rest of the state
does so for no sequence. -/
theorem runAll_erase {τ : Type} {erase : σ → τ}
    (hstep : ∀ a s s', erase s = erase s' →
      (step a s).1 = (step a s').1 ∧ erase (step a s).2 = erase (step a s').2)
    (as : List α) (h : erase s = erase s') :
    (runAll step as s).1 = (runAll step as s').1 ∧
      erase (runAll step as s).2 = erase (runAll step as s').2 := by
  induction as generalizing s s' with
  | nil => exact ⟨rfl, h⟩
  | cons a rest ih =>
    obtain ⟨hresult, hrest⟩ := hstep a s s' h
    simp only [runAll]
    cases hs : step a s with
    | mk r u =>
      cases hs' : step a s' with
      | mk r' u' =>
        rw [hs, hs'] at hresult hrest
        cases (hresult : r = r')
        cases r with
        | ok _ => exact ih hrest
        | error e => exact ⟨rfl, hrest⟩

end ClixonSwitch.Lib
