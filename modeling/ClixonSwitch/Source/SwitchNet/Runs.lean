import ClixonSwitch.Lib.Commands
import ClixonSwitch.Source.SwitchNet.FakeNet

/-!
# Runs of `reconcile`

What a call of `reconcile` does to a backend, call by call. The traced backend
records the calls; `roundEvents` computes the same record by the recursion of
`reconcile` itself, so that proofs about every intermediate state go by induction
on the rounds and use the rules for command sequences inside a round.
-/
namespace ClixonSwitch.Source.SwitchNet
open Lib Source.SwitchModel

variable {σ : Type} (net : NetBackend σ)

theorem applyOps_eq_runAll (applied ops : List Op) (s : σ) :
    applyOps net applied ops s =
      match runAll net.apply ops s with
      | (.ok (), s') => (.ok (applied ++ ops), s')
      | (.error e, s') => (.error (opError e.1 e.2), s') := by
  induction ops generalizing applied s with
  | nil => simp [applyOps, runAll]
  | cons op ops ih =>
    simp only [applyOps, runAll]
    cases net.apply op s with
    | mk result after =>
      cases result with
      | error e => rfl
      | ok u => simp [ih]

/-- An apply call as the traced backend records it. -/
def applyEvent (t : Op × Except NetError Unit × σ) : Event σ := .applied t.1 t.2.1 t.2.2

theorem runAll_traced (ops : List Op) (s : σ) (log : List (Event σ)) :
    runAll net.traced.apply ops (s, log) =
      ((runAll net.apply ops s).1, (runAll net.apply ops s).2,
        log ++ (trail net.apply ops s).map applyEvent) := by
  induction ops generalizing s log with
  | nil => simp [runAll, trail]
  | cons op ops ih =>
    cases hstep : net.apply op s with
    | mk result after =>
      cases result with
      | error e => simp [runAll, trail, NetBackend.traced, hstep, applyEvent]
      | ok u =>
        have htraced : net.traced.apply op (s, log) =
            (.ok (), after, log ++ [.applied op (.ok ()) after]) := by
          simp [NetBackend.traced, hstep]
        rw [runAll_cons_ok htraced, ih]
        simp [runAll, trail, hstep, applyEvent]

/-- The operations of one round. -/
def roundOps (actual : ActualState) (planned : List Op) : List Op := actual.platformOps ++ planned

/-- The backend calls of the outer loop with `rounds` rounds left. -/
def roundEvents (desired : DesiredState) : Nat → σ → List (Event σ)
  | 0, _ => []
  | rounds + 1, s =>
    match net.observe s with
    | (.error e, _) => [.observed (.error e)]
    | (.ok actual, s) =>
      .observed (.ok actual) ::
        match plan desired actual with
        | .error _ => []
        | .ok planned =>
          if (roundOps actual planned).isEmpty then []
          else
            (trail net.apply (roundOps actual planned) s).map applyEvent ++
              match runAll net.apply (roundOps actual planned) s with
              | (.ok (), s') => roundEvents desired rounds s'
              | (.error _, _) => []

theorem reconcileRounds_traced (desired : DesiredState) (rounds : Nat) (applied : List Op)
    (s : σ) (log : List (Event σ)) :
    reconcileRounds net.traced desired rounds applied (s, log) =
      ((reconcileRounds net desired rounds applied s).1,
        (reconcileRounds net desired rounds applied s).2,
        log ++ roundEvents net desired rounds s) := by
  induction rounds generalizing applied s log with
  | zero => simp [reconcileRounds, roundEvents]
  | succ rounds ih =>
    have htraced : net.traced.observe (s, log) =
        ((net.observe s).1, (net.observe s).2, log ++ [.observed (net.observe s).1]) := rfl
    simp only [reconcileRounds, roundEvents, htraced]
    cases hobs : net.observe s with
    | mk result s₁ =>
      cases result with
      | error e => simp
      | ok actual =>
        cases hplan : plan desired actual with
        | error e => simp [hplan]
        | ok planned =>
          by_cases hempty : (actual.platformOps ++ planned).isEmpty = true
          · simp [hplan, roundOps, hempty]
          · simp only [hplan, roundOps, hempty, if_false, Bool.false_eq_true,
              applyOps_eq_runAll, runAll_traced]
            cases hrun : runAll net.apply (actual.platformOps ++ planned) s₁ with
            | mk result s₂ =>
              cases result with
              | error e => simp
              | ok u => simp [ih]

theorem reconcileTrace_eq (desired : DesiredState) (s : σ) :
    reconcileTrace net desired s = roundEvents net desired maxRounds s := by
  simp [reconcileTrace, reconcile, reconcileRounds_traced]

/-- The most recent observation of a concatenation is the second part's, if it has one. -/
theorem lastObserved_append (before after : List (Event σ)) :
    lastObserved (before ++ after) = (lastObserved after).or (lastObserved before) := by
  induction before with
  | nil => simp [lastObserved]
  | cons e rest ih =>
    simp only [List.cons_append, lastObserved, ih]
    cases lastObserved after with
    | none => simp
    | some a => simp

/-- A successful `reconcile` ended in a round that found nothing to do. -/
theorem reconcileRounds_ok (desired : DesiredState) (rounds : Nat) (applied : List Op)
    (s s' : σ) (ops : List Op)
    (success : reconcileRounds net desired rounds applied s = (.ok ops, s')) :
    ∃ last, lastObserved (roundEvents net desired rounds s) = some last ∧
      (plan desired last = .ok [] ∧ last.platformOps = []) ∧
      ∃ s₀, net.observe s₀ = (.ok last, s') := by
  induction rounds generalizing applied s with
  | zero => simp [reconcileRounds] at success
  | succ rounds ih =>
    simp only [reconcileRounds, applyOps_eq_runAll] at success
    simp only [roundEvents, roundOps]
    cases hobs : net.observe s with
    | mk result s₁ =>
      cases result with
      | error e => simp [hobs] at success
      | ok actual =>
        cases hplan : plan desired actual with
        | error e => simp [hobs, hplan] at success
        | ok planned =>
          by_cases hempty : (actual.platformOps ++ planned).isEmpty = true
          · have hnil : actual.platformOps = [] ∧ planned = [] := by simpa using hempty
            simp only [hobs, hplan, hempty, if_true, Prod.mk.injEq] at success
            exact ⟨actual, by simp [hplan, hnil, lastObserved], ⟨by rw [hplan, hnil.2], hnil.1⟩,
              s, by rw [hobs, success.2]⟩
          · simp only [hobs, hplan, hempty, if_false, Bool.false_eq_true] at success
            cases hrun : runAll net.apply (actual.platformOps ++ planned) s₁ with
            | mk result s₂ =>
              cases result with
              | error e => simp [hrun] at success
              | ok u =>
                rw [hrun] at success
                obtain ⟨last, hlast, hdone⟩ := ih _ s₂ success
                refine ⟨last, ?_, hdone⟩
                simp only [hplan, hempty, if_false, Bool.false_eq_true]
                rw [← List.cons_append, lastObserved_append, hrun]
                simp [hlast]

/-- `reconcile` succeeds only after observing a state for which there is nothing
to plan. -/
theorem reconcile_ok_lastObserved (desired : DesiredState) (s : σ) (ops : List Op)
    (success : (reconcile net desired s).1 = .ok ops) :
    ∃ last, lastObserved (reconcileTrace net desired s) = some last ∧
      plan desired last = .ok [] ∧ last.platformOps = [] := by
  rw [reconcileTrace_eq]
  obtain ⟨last, hlast, hdone, -⟩ :=
    reconcileRounds_ok net desired maxRounds [] s _ ops (Prod.ext success rfl)
  exact ⟨last, hlast, hdone⟩

/-- An invariant of every round on the kernel model holds in every state that
`reconcile` goes through. -/
theorem roundEvents_fakeNet_invariant {desired : DesiredState} {inv : ActualState → Prop}
    (round : ∀ s planned, inv s → plan desired s = .ok planned →
      ∀ t ∈ trail fakeApply (roundOps s planned) s, inv t.2.2)
    (rounds : Nat) (s : ActualState) (start : inv s) :
    ∀ op result after, Event.applied op result after ∈ roundEvents fakeNet desired rounds s →
      inv after := by
  induction rounds generalizing s with
  | zero => simp [roundEvents]
  | succ rounds ih =>
    intro op result after member
    simp only [roundEvents, fakeNet, List.mem_cons, reduceCtorEq, false_or] at member
    cases hplan : plan desired s with
    | error e => simp [hplan] at member
    | ok planned =>
      simp only [hplan] at member
      split at member
      · simp at member
      · have during := round s planned start hplan
        rcases List.mem_append.mp member with member | member
        · obtain ⟨t, ht, hevent⟩ := List.mem_map.mp member
          simp only [applyEvent, Event.applied.injEq] at hevent
          rw [← hevent.2.2]
          exact during t ht
        · split at member
          · next s' hrun =>
            have hs' : inv s' := by
              have hlast := runAll_of_trail inv start during
              rwa [hrun] at hlast
            exact ih s' hs' op result after member
          · simp at member

end ClixonSwitch.Source.SwitchNet
