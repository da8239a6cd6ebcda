import ClixonSwitch.Lib.BTree

/-!
Computations that go on after a problem and collect every error they meet. A
`Collect` has its value and the errors in the order they were reported; what a
validator accepts is what is left without errors, so the rules below speak of
computations with an empty error list.
-/
namespace ClixonSwitch.Lib

structure Collect (ε α : Type) where
  value : α
  errors : List ε
  deriving DecidableEq

namespace Collect
variable {ε δ α β : Type}

instance : Monad (Collect ε) where
  pure a := ⟨a, []⟩
  bind x f := ⟨(f x.value).value, x.errors ++ (f x.value).errors⟩

def report (e : ε) : Collect ε Unit := ⟨(), [e]⟩

def reportAll (es : List ε) : Collect ε Unit := ⟨(), es⟩

def rejectIf (bad : Bool) (e : ε) : Collect ε Unit := if bad then report e else pure ()

/-- The value of a fallible computation, or none and its error. -/
def attempt : Except ε α → Collect ε (Option α)
  | .ok a => pure (some a)
  | .error e => ⟨none, [e]⟩

def mapErrors (f : ε → δ) (x : Collect ε α) : Collect δ α := ⟨x.value, x.errors.map f⟩

/-- The value, if nothing was reported. -/
def toExcept (x : Collect ε α) : Except (List ε) α :=
  if x.errors.isEmpty then .ok x.value else .error x.errors

/-- The value, if there is one and nothing was reported. -/
def require (x : Collect ε (Option α)) : Except (List ε) α :=
  match x.value with
  | some a => if x.errors.isEmpty then .ok a else .error x.errors
  | none => .error x.errors

section Rules

@[simp] theorem value_pure (a : α) : (pure a : Collect ε α).value = a := rfl

@[simp] theorem errors_pure (a : α) : (pure a : Collect ε α).errors = [] := rfl

@[simp] theorem value_bind (x : Collect ε α) (f : α → Collect ε β) :
    (x >>= f).value = (f x.value).value := rfl

@[simp] theorem errors_bind (x : Collect ε α) (f : α → Collect ε β) :
    (x >>= f).errors = x.errors ++ (f x.value).errors := rfl

@[simp] theorem value_map (f : α → β) (x : Collect ε α) : (f <$> x).value = f x.value := rfl

@[simp] theorem errors_map (f : α → β) (x : Collect ε α) : (f <$> x).errors = x.errors := by
  show x.errors ++ [] = x.errors
  rw [List.append_nil]

@[simp] theorem errors_report (e : ε) : (report e).errors = [e] := rfl

@[simp] theorem errors_reportAll (es : List ε) : (reportAll es).errors = es := rfl

@[simp] theorem errors_rejectIf (bad : Bool) (e : ε) :
    (rejectIf bad e).errors = [] ↔ bad = false := by
  cases bad <;> simp [rejectIf]

@[simp] theorem value_mapErrors (f : ε → δ) (x : Collect ε α) : (x.mapErrors f).value = x.value :=
  rfl

@[simp] theorem errors_mapErrors (f : ε → δ) (x : Collect ε α) :
    (x.mapErrors f).errors = x.errors.map f := rfl

theorem attempt_clean {x : Except ε α} (h : (attempt x).errors = []) :
    ∃ a, x = .ok a ∧ (attempt x).value = some a := by
  cases x with
  | ok a => exact ⟨a, rfl, rfl⟩
  | error e => cases h

theorem toExcept_eq_ok {x : Collect ε α} {a : α} :
    x.toExcept = .ok a ↔ x.errors = [] ∧ x.value = a := by
  unfold toExcept
  split
  · next h => simp [List.isEmpty_iff.mp h]
  · next h => simp [List.isEmpty_iff] at h; simp [h]

theorem require_eq_ok {x : Collect ε (Option α)} {a : α} :
    x.require = .ok a ↔ x.errors = [] ∧ x.value = some a := by
  unfold require
  cases x.value with
  | none => simp
  | some b =>
    cases h : x.errors with
    | nil => simp
    | cons e es => simp

/-- A computation that reports something whenever it has no value never fails
without a message. -/
theorem require_ne_error_nil {x : Collect ε (Option α)} (h : x.errors = [] → x.value.isSome = true) :
    x.require ≠ .error [] := by
  intro hfail
  unfold require at hfail
  split at hfail
  · split at hfail
    · cases hfail
    · next hne => exact hne (by rw [Except.error.inj hfail]; rfl)
  · next hnone =>
    rw [hnone] at h
    cases h (Except.error.inj hfail)

end Rules

section Loops
variable {f : β → α → Collect ε β}

/-- A loop without errors: an invariant of the items done and the value reached. -/
theorem foldlM_rule (inv : List α → β → Prop) {as : List α} {init : β}
    (step : ∀ done a rest b, as = done ++ a :: rest → inv done b → (f b a).errors = [] →
      inv (done ++ [a]) (f b a).value)
    (start : inv [] init) (clean : (as.foldlM f init).errors = []) :
    inv as (as.foldlM f init).value := by
  have general : ∀ (todo done : List α) (b : β), as = done ++ todo → inv done b →
      (todo.foldlM f b).errors = [] → inv as (todo.foldlM f b).value := by
    intro todo
    induction todo with
    | nil =>
      intro done b hdone hb _
      rw [List.append_nil] at hdone
      exact hdone ▸ hb
    | cons a rest ih =>
      intro done b hdone hb hclean
      rw [List.foldlM_cons, errors_bind, List.append_eq_nil_iff] at hclean
      rw [List.foldlM_cons, value_bind]
      exact ih (done ++ [a]) _ (by rw [hdone, List.append_assoc]; rfl)
        (step done a rest b hdone hb hclean.1) hclean.2
  exact general as [] init rfl start clean

/-- What every iteration keeps, a loop keeps, with or without errors. -/
theorem foldlM_invariant (inv : β → Prop) {as : List α} {init : β}
    (step : ∀ a ∈ as, ∀ b, inv b → inv (f b a).value) (start : inv init) :
    inv (as.foldlM f init).value := by
  induction as generalizing init with
  | nil => exact start
  | cons a rest ih =>
    rw [List.foldlM_cons, value_bind]
    exact ih (fun b hb => step b (by simp [hb])) (step a (by simp) init start)

end Loops

section Keys
variable {K V : Type} [Ord K] [Std.TransOrd K] [Std.LawfulEqOrd K]

/-- Sets a key, and reports what `clash` says about the value it had. -/
def insertUnique (m : BTreeMap K V) (k : K) (v : V) (clash : V → Option ε) :
    Collect ε (BTreeMap K V) :=
  ⟨m.insert k v, (m[k]?.bind clash).toList⟩

/-- A loop of such insertions without errors, where `clash` lets only equal values
pass: the map has exactly the items. -/
theorem insertUnique_loop {items : List α} (key : α → K) (val : α → V)
    {clash : α → V → Option ε} (same : ∀ a v, clash a v = none → v = val a)
    (clean : (items.foldlM (fun m a => insertUnique m (key a) (val a) (clash a)) ∅).errors = []) :
    ∀ a ∈ items, ∀ b ∈ items, key a = key b → val a = val b := by
  have hlookup := foldlM_rule (fun done (m : BTreeMap K V) => ∀ a ∈ done, m[key a]? = some (val a))
    (fun done b rest m _ ih hclean a ha => by
      have hpass : ∀ v, m[key b]? = some v → v = val b := by
        intro v hv
        refine same b v ?_
        simpa [insertUnique, hv, Option.toList_eq_nil_iff] using hclean
      rw [insertUnique, Std.ExtTreeMap.getElem?_insert]
      rcases List.mem_append.mp ha with ha | ha
      · by_cases hk : key b = key a
        · rw [if_pos (Std.compare_eq_iff_eq.mpr hk), hpass (val a) (hk ▸ ih a ha)]
        · rw [if_neg fun h => hk (Std.compare_eq_iff_eq.mp h), ih a ha]
      · rw [List.mem_singleton.mp ha, if_pos Std.compare_self])
    (by simp) clean
  intro a ha b hb heq
  have hab := hlookup a ha
  rw [heq, hlookup b hb] at hab
  exact (Option.some.inj hab).symm

/-- A loop of insertions of one value where every clash is reported: without errors,
no key had a value. -/
theorem insertUnique_fresh [DecidableEq K] {keys : List K} {v : V} {clash : K → V → ε}
    {m : BTreeMap K V}
    (clean : (keys.foldlM (fun m k => insertUnique m k v fun old => some (clash k old)) m).errors
      = []) :
    (∀ k ∈ keys, m[k]? = none) ∧
    ∀ k, (keys.foldlM (fun m k => insertUnique m k v fun old => some (clash k old)) m).value[k]? =
      if k ∈ keys then some v else m[k]? := by
  refine foldlM_rule (fun done (m' : BTreeMap K V) => (∀ k ∈ done, m[k]? = none) ∧
    ∀ k, m'[k]? = if k ∈ done then some v else m[k]?) ?_ (by simp) clean
  intro done a rest m' _ ⟨hfresh, hlookup⟩ hclean
  have hnone : m'[a]? = none := by
    cases hold : m'[a]? with
    | none => rfl
    | some old => simp [insertUnique, hold] at hclean
  have hnew : a ∉ done ∧ m[a]? = none := by
    rw [hlookup a] at hnone
    split at hnone
    · cases hnone
    · next hnot => exact ⟨hnot, hnone⟩
  refine ⟨fun k hk => ?_, fun k => ?_⟩
  · rcases List.mem_append.mp hk with hk | hk
    · exact hfresh k hk
    · rw [List.mem_singleton.mp hk]
      exact hnew.2
  · simp only [insertUnique, Std.ExtTreeMap.getElem?_insert, hlookup k, List.mem_append,
      List.mem_singleton]
    by_cases hk : a = k
    · simp [hk]
    · rw [if_neg fun h => hk (Std.compare_eq_iff_eq.mp h)]
      simp [Ne.symm hk]

end Keys

end Collect

end ClixonSwitch.Lib
