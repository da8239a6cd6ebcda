import ClixonSwitch.Source.SwitchNet.Plan

/-!
# Reconciliation

`NetBackend` and `reconcile` of `crates/switch-net/src/lib.rs`. A backend is a
state with two arbitrary functions, so quantifying over backends quantifies over
every sequence of results of observe and apply. The source's `log` callback sees
exactly the operations that `apply` gets, in the same order, and is left out;
`NetBackend.traced` records every call with its result instead.
-/
namespace ClixonSwitch.Source.SwitchNet
open Lib Source.SwitchModel

structure NetBackend (σ : Type) where
  observe : σ → Except NetError ActualState × σ
  apply : Op → σ → Except NetError Unit × σ

/-- Planning rounds before `reconcile` gives up. -/
def maxRounds : Nat := 3

def opError (op : Op) (e : NetError) : NetError := ⟨op.display ++ ": " ++ e.message⟩

def notConverged : NetError := ⟨s!"kernel state did not converge after {maxRounds} rounds"⟩

/-- The inner loop: `applied` is the source's vector of operations done so far. -/
def applyOps {σ : Type} (net : NetBackend σ) :
    List Op → List Op → σ → Except NetError (List Op) × σ
  | applied, [], s => (.ok applied, s)
  | applied, op :: ops, s =>
    match net.apply op s with
    | (.ok (), s') => applyOps net (applied ++ [op]) ops s'
    | (.error e, s') => (.error (opError op e), s')

/-- The outer loop with the number of rounds left. -/
def reconcileRounds {σ : Type} (net : NetBackend σ) (desired : DesiredState) :
    Nat → List Op → σ → Except NetError (List Op) × σ
  | 0, _, s => (.error notConverged, s)
  | rounds + 1, applied, s =>
    match net.observe s with
    | (.error e, s) => (.error e, s)
    | (.ok actual, s) =>
      match plan desired actual with
      | .error e => (.error e, s)
      | .ok planned =>
        if (actual.platformOps ++ planned).isEmpty then (.ok applied, s)
        else
          match applyOps net applied (actual.platformOps ++ planned) s with
          | (.error e, s) => (.error e, s)
          | (.ok applied, s) => reconcileRounds net desired rounds applied s

/-- Changes the kernel until it matches `desired`, and returns the operations
applied. -/
def reconcile {σ : Type} (net : NetBackend σ) (desired : DesiredState) (s : σ) :
    Except NetError (List Op) × σ :=
  reconcileRounds net desired maxRounds [] s

/-- One backend call with its result; an apply also with the state it leaves. -/
inductive Event (σ : Type) where
  | observed (result : Except NetError ActualState)
  | applied (op : Op) (result : Except NetError Unit) (after : σ)
  deriving DecidableEq

/-- The same backend, recording its calls oldest first. -/
def NetBackend.traced {σ : Type} (net : NetBackend σ) : NetBackend (σ × List (Event σ)) where
  observe s :=
    let (r, s') := net.observe s.1
    (r, s', s.2 ++ [.observed r])
  apply op s :=
    let (r, s') := net.apply op s.1
    (r, s', s.2 ++ [.applied op r s'])

/-- The calls `reconcile` makes on `net` from `s`. -/
def reconcileTrace {σ : Type} (net : NetBackend σ) (desired : DesiredState) (s : σ) :
    List (Event σ) :=
  (reconcile net.traced desired (s, [])).2.2

/-- The state most recently observed in a trace. -/
def lastObserved {σ : Type} : List (Event σ) → Option ActualState
  | [] => none
  | e :: rest =>
    match lastObserved rest with
    | some a => some a
    | none =>
      match e with
      | .observed (.ok a) => some a
      | _ => none

end ClixonSwitch.Source.SwitchNet
