import ClixonSwitch.Lib.Commands

/-!
States that fall apart into independent components. Each command has a target
component and acts on nothing else, as long as a condition `ready` holds that
all commands keep. Then a sequence of commands succeeds exactly if for every
component the commands that target it do, and it leaves every component as
those commands alone would.
-/
namespace ClixonSwitch.Lib

variable {α σ ε ι κ : Type} [DecidableEq ι]

/-- Commands on one component; `none` is a refusal. -/
def runLocal (act : α → κ → Option κ) : List α → κ → Option κ
  | [], c => some c
  | a :: rest, c => (act a c).bind (runLocal act rest)

@[simp] theorem runLocal_nil (act : α → κ → Option κ) (c : κ) : runLocal act [] c = some c := rfl

@[simp] theorem runLocal_cons (act : α → κ → Option κ) (a : α) (as : List α) (c : κ) :
    runLocal act (a :: as) c = (act a c).bind (runLocal act as) := rfl

theorem runLocal_append (act : α → κ → Option κ) (as bs : List α) (c : κ) :
    runLocal act (as ++ bs) c = (runLocal act as c).bind (runLocal act bs) := by
  induction as generalizing c with
  | nil => simp
  | cons a rest ih =>
    cases h : act a c <;> simp [h, ih]

theorem runLocal_initial {act : α → κ → Option κ} {pre as : List α} {c c' : κ} (hpre : pre <+: as)
    (run : runLocal act as c = some c') : ∃ d, runLocal act pre c = some d := by
  obtain ⟨rest, rfl⟩ := hpre
  rw [runLocal_append, Option.bind_eq_some_iff] at run
  obtain ⟨d, hd, -⟩ := run
  exact ⟨d, hd⟩

theorem runLocal_invariant {act : α → κ → Option κ} {as : List α} {c c' : κ} (P : κ → Prop)
    (preserved : ∀ a ∈ as, ∀ c c', P c → act a c = some c' → P c') (start : P c)
    (run : runLocal act as c = some c') : P c' := by
  induction as generalizing c with
  | nil =>
    cases run
    exact start
  | cons a rest ih =>
    rw [runLocal_cons, Option.bind_eq_some_iff] at run
    obtain ⟨d, hd, hrest⟩ := run
    refine ih (fun b hb => preserved b (List.mem_cons_of_mem a hb)) ?_ hrest
    exact preserved a List.mem_cons_self c d start hd

/-- How a step function acts through a view of the components. -/
structure Componentwise (step : α → σ → Except ε Unit × σ) (view : σ → ι → κ)
    (target : α → ι) (act : α → κ → Option κ) (admissible : α → Prop) (ready : σ → Prop) :
    Prop where
  accepts : ∀ a s c, admissible a → ready s → act a (view s (target a)) = some c →
    ∃ s', step a s = (.ok (), s') ∧ ready s' ∧
      ∀ i, view s' i = if i = target a then c else view s i
  refuses : ∀ a s, admissible a → ready s → act a (view s (target a)) = none →
    ∃ e s', step a s = (.error e, s')

variable {step : α → σ → Except ε Unit × σ} {view : σ → ι → κ} {target : α → ι}
  {act : α → κ → Option κ} {admissible : α → Prop} {ready : σ → Prop}

/-- The commands of a sequence that target component `i`. -/
def targeting (target : α → ι) (i : ι) (as : List α) : List α := as.filter fun a => target a = i

@[simp] theorem targeting_nil (i : ι) : targeting target i [] = [] := rfl

@[simp] theorem targeting_append (i : ι) (as bs : List α) :
    targeting target i (as ++ bs) = targeting target i as ++ targeting target i bs :=
  List.filter_append ..

theorem targeting_cons (i : ι) (a : α) (as : List α) :
    targeting target i (a :: as) =
      if target a = i then a :: targeting target i as else targeting target i as := by
  simp [targeting, List.filter_cons]

theorem targeting_eq_self {i : ι} {as : List α} (h : ∀ a ∈ as, target a = i) :
    targeting target i as = as := by
  simpa [targeting] using h

theorem targeting_eq_nil {i : ι} {as : List α} (h : ∀ a ∈ as, target a ≠ i) :
    targeting target i as = [] := by
  simpa [targeting] using h

/-- One command for each key. -/
theorem targeting_map (keys : List ι) (command : ι → α) (own : ∀ k, target (command k) = k)
    (nodup : keys.Nodup) (i : ι) :
    targeting target i (keys.map command) = if i ∈ keys then [command i] else [] := by
  induction keys with
  | nil => rfl
  | cons k rest ih =>
    obtain ⟨hnew, nodup⟩ := List.nodup_cons.mp nodup
    rw [List.map_cons, targeting_cons, ih nodup, own]
    by_cases hk : k = i
    · subst hk
      simp [hnew]
    · simp [hk, Ne.symm hk]

/-- Blocks of commands listed by key, each targeting its key: the block of one key. -/
theorem targeting_flatMap {V : Type} (entries : List (ι × V)) (block : ι → V → List α)
    (own : ∀ k v, ∀ a ∈ block k v, target a = k) (nodup : (entries.map Prod.fst).Nodup) (i : ι) :
    (∀ v, (i, v) ∈ entries →
      targeting target i (entries.flatMap fun e => block e.1 e.2) = block i v) ∧
    ((∀ v, (i, v) ∉ entries) →
      targeting target i (entries.flatMap fun e => block e.1 e.2) = []) := by
  induction entries with
  | nil => simp
  | cons e rest ih =>
    rw [List.map_cons, List.nodup_cons] at nodup
    obtain ⟨hnew, nodup⟩ := nodup
    obtain ⟨hin, hout⟩ := ih nodup
    have hother : i ≠ e.1 → targeting target i (block e.1 e.2) = [] := fun hne =>
      targeting_eq_nil fun a ha => by rw [own _ _ a ha]; exact hne.symm
    simp only [List.flatMap_cons, targeting_append]
    refine ⟨fun v hv => ?_, fun hno => ?_⟩
    · rcases List.mem_cons.mp hv with rfl | hv
      · rw [targeting_eq_self (own _ _), hout, List.append_nil]
        exact fun w hw => hnew (List.mem_map.mpr ⟨_, hw, rfl⟩)
      · have hne : i ≠ e.1 := fun heq => hnew (List.mem_map.mpr ⟨_, hv, heq⟩)
        rw [hother hne, hin v hv, List.nil_append]
    · have hne : i ≠ e.1 := fun heq => hno e.2 (by simp [heq])
      rw [hother hne, hout fun v hv => hno v (by simp [hv]), List.nil_append]

/-- A sequence runs exactly if every component's own commands do, and the
components it leaves are theirs. -/
theorem Componentwise.runAll (h : Componentwise step view target act admissible ready)
    (as : List α) (s : σ) (adm : ∀ a ∈ as, admissible a) (hs : ready s) :
    (∃ s', runAll step as s = (.ok (), s') ∧ ready s' ∧
      ∀ i, runLocal act (targeting target i as) (view s i) = some (view s' i)) ∨
    (∃ e s', Lib.runAll step as s = (.error e, s') ∧
      ∃ i, runLocal act (targeting target i as) (view s i) = none) := by
  induction as generalizing s with
  | nil => exact Or.inl ⟨s, rfl, hs, fun i => rfl⟩
  | cons a rest ih =>
    have ha : admissible a := adm a (by simp)
    cases hact : act a (view s (target a)) with
    | none =>
      obtain ⟨e, s', hstep⟩ := h.refuses a s ha hs hact
      refine Or.inr ⟨(a, e), s', by simp [Lib.runAll, hstep], target a, ?_⟩
      simp [targeting_cons, hact]
    | some c =>
      obtain ⟨s', hstep, hs', hview⟩ := h.accepts a s c ha hs hact
      have hlocal : ∀ i, runLocal act (targeting target i (a :: rest)) (view s i) =
          runLocal act (targeting target i rest) (view s' i) := by
        intro i
        rw [targeting_cons, hview i]
        by_cases hi : target a = i
        · subst hi
          simp [hact]
        · simp [hi, Ne.symm hi]
      simp only [runAll_cons_ok hstep, hlocal]
      exact ih s' (fun b hb => adm b (by simp [hb])) hs'

end ClixonSwitch.Lib
