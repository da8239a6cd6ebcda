import ClixonSwitch.Lib.Collect

/-!
Collecting computations over lists in another order. Two of them agree if both are
without errors and have the same value, or both report something. A loop over a list and
one over a permutation of it agree if its steps commute; a step may see the entries of
the list changed too, as long as the steps agree.
-/
namespace ClixonSwitch.Lib

section Shuffled
variable {α β : Type} {R : α → α → Prop} {l l' : List α}

/-- A permutation of a list whose entries are then replaced by related ones. -/
def Shuffled (R : α → α → Prop) (l l' : List α) : Prop :=
  ∃ mid, l.Perm mid ∧ List.Forall₂ R mid l'

theorem Shuffled.nil : Shuffled R [] [] := ⟨[], .nil, .nil⟩

theorem Shuffled.isEmpty_eq (h : Shuffled R l l') : l'.isEmpty = l.isEmpty := by
  obtain ⟨mid, hperm, hrel⟩ := h
  rw [hperm.isEmpty_eq]
  cases hrel <;> rfl

theorem Shuffled.any_eq {p : α → Bool} (h : Shuffled R l l') (hp : ∀ a a', R a a' → p a' = p a) :
    l'.any p = l.any p := by
  obtain ⟨mid, hperm, hrel⟩ := h
  rw [hperm.any_eq]
  clear hperm
  induction hrel with
  | nil => rfl
  | cons hab _ ih => rw [List.any_cons, List.any_cons, hp _ _ hab, ih]

theorem getD_rel {S : α → β → Prop} {a : Option α} {b : Option β} {d : α} {d' : β}
    (h : Option.Rel S a b) (default : S d d') : S (a.getD d) (b.getD d') := by
  cases h with
  | some h => exact h
  | none => exact default

/-- Lists in optional containers. -/
theorem rel_getD {γ : Type} {S : List α → List α → Prop} {get : γ → List α} {c c' : Option γ}
    (h : Option.Rel (fun x y => S (get x) (get y)) c c') (hnil : S [] []) :
    S ((c.map get).getD []) ((c'.map get).getD []) := by
  cases h with
  | some h => exact h
  | none => exact hnil

theorem rel_bind {γ δ : Type} {R : α → β → Prop} {S : γ → δ → Prop} {a : Option α} {b : Option β}
    {f : α → Option γ} {g : β → Option δ} (h : Option.Rel R a b)
    (hfg : ∀ x y, R x y → Option.Rel S (f x) (g y)) : Option.Rel S (a.bind f) (b.bind g) := by
  cases h with
  | some h => exact hfg _ _ h
  | none => exact .none

theorem rel_map {γ δ : Type} {R : α → β → Prop} {S : γ → δ → Prop} {a : Option α} {b : Option β}
    {f : α → γ} {g : β → δ} (h : Option.Rel R a b) (hfg : ∀ x y, R x y → S (f x) (g y)) :
    Option.Rel S (a.map f) (b.map g) := by
  cases h with
  | some h => exact .some (hfg _ _ h)
  | none => exact .none

theorem rel_imp {R S : α → β → Prop} {a : Option α} {b : Option β} (h : Option.Rel R a b)
    (hrs : ∀ x y, R x y → S x y) : Option.Rel S a b := by
  cases h with
  | some h => exact .some (hrs _ _ h)
  | none => exact .none

theorem isSome_eq_of_rel {R : α → α → Prop} {a b : Option α} (h : Option.Rel R a b) :
    b.isSome = a.isSome := by
  cases h <;> rfl

/-- A part that related containers have in common. -/
theorem map_eq_of_rel {γ : Type} {R : α → α → Prop} {a b : Option α} {f : α → γ}
    (h : Option.Rel R a b) (hf : ∀ x y, R x y → f y = f x) : b.map f = a.map f := by
  cases h with
  | some h => exact congrArg some (hf _ _ h)
  | none => rfl

end Shuffled

namespace Collect
variable {ε δ α β : Type}

/-- Both report something, or neither does and the values are the same. -/
structure Agrees (x y : Collect ε α) : Prop where
  clean : x.errors = [] ↔ y.errors = []
  value : x.errors = [] → x.value = y.value

section Agrees
variable {x y z : Collect ε α}

theorem Agrees.refl (x : Collect ε α) : Agrees x x := ⟨Iff.rfl, fun _ => rfl⟩

theorem Agrees.of_eq (h : x = y) : Agrees x y := h ▸ Agrees.refl x

theorem Agrees.trans (h : Agrees x y) (h' : Agrees y z) : Agrees x z :=
  ⟨h.clean.trans h'.clean, fun clean => (h.value clean).trans (h'.value (h.clean.mp clean))⟩

theorem Agrees.bind {f g : α → Collect ε β} (h : Agrees x y) (hfg : ∀ a, Agrees (f a) (g a)) :
    Agrees (x >>= f) (y >>= g) := by
  constructor
  · simp only [errors_bind, List.append_eq_nil_iff]
    rw [h.clean]
    refine and_congr_right fun clean => ?_
    rw [h.value (h.clean.mpr clean)]
    exact (hfg y.value).clean
  · intro clean
    rw [errors_bind, List.append_eq_nil_iff] at clean
    rw [value_bind, value_bind, (hfg x.value).value clean.2, h.value clean.1]

theorem Agrees.mapErrors (h : Agrees x y) (f : ε → δ) : Agrees (x.mapErrors f) (y.mapErrors f) := by
  refine ⟨?_, fun clean => h.value (List.map_eq_nil_iff.mp clean)⟩
  rw [errors_mapErrors, errors_mapErrors, List.map_eq_nil_iff, List.map_eq_nil_iff]
  exact h.clean

/-- Two computations that both report something. -/
theorem Agrees.of_errors (hx : x.errors ≠ []) (hy : y.errors ≠ []) : Agrees x y :=
  ⟨iff_of_false hx hy, fun clean => absurd clean hx⟩

theorem Agrees.require {x y : Collect ε (Option α)} (h : Agrees x y) (a : α) :
    x.require = .ok a ↔ y.require = .ok a := by
  rw [require_eq_ok, require_eq_ok, h.clean]
  refine and_congr_right fun clean => ?_
  rw [h.value (h.clean.mpr clean)]

theorem toExcept_of_errors (h : x.errors ≠ []) : x.toExcept = .error x.errors :=
  if_neg (mt List.isEmpty_iff.mp h)

theorem Agrees.toExcept (h : Agrees x y) :
    (∃ e e', x.toExcept = .error e ∧ y.toExcept = .error e') ∨
      ∃ a, x.toExcept = .ok a ∧ y.toExcept = .ok a := by
  by_cases clean : x.errors = []
  · refine Or.inr ⟨x.value, toExcept_eq_ok.mpr ⟨clean, rfl⟩, toExcept_eq_ok.mpr ?_⟩
    exact ⟨h.clean.mp clean, (h.value clean).symm⟩
  · refine Or.inl ⟨x.errors, y.errors, toExcept_of_errors clean, ?_⟩
    exact toExcept_of_errors (mt h.clean.mpr clean)

end Agrees

instance : LawfulMonad (Collect ε) := LawfulMonad.mk' (Collect ε)
  (fun x => congrArg (Collect.mk x.value) (List.append_nil x.errors))
  (fun _ _ => rfl)
  (fun _ _ _ => congrArg (Collect.mk _) (List.append_assoc ..))

section Loops
variable {f : β → α → Collect ε β}

/-- The two orders of two steps. -/
def Commute (f : β → α → Collect ε β) (a b : α) : Prop :=
  ∀ s, Agrees (f s a >>= fun t => f t b) (f s b >>= fun t => f t a)

/-- A step that reports something in every state, or does one of `W` in every state. -/
def Steady (W : (β → β) → Prop) (f : β → α → Collect ε β) (a : α) : Prop :=
  (∀ s, (f s a).errors ≠ []) ∨ ∃ w, W w ∧ ∀ s, f s a = pure (w s)

theorem commute_of_steady {W W' : (β → β) → Prop} {a b : α} (ha : Steady W f a)
    (hb : Steady W' f b) (comm : ∀ w w', W w → W' w' → ∀ s, w' (w s) = w (w' s)) :
    Commute f a b := by
  intro s
  rcases ha with ha | ⟨w, hw, ha⟩
  · refine Agrees.of_errors ?_ ?_ <;> simp [ha]
  · rcases hb with hb | ⟨w', hw', hb⟩
    · refine Agrees.of_errors ?_ ?_ <;> simp [hb]
    · refine Agrees.of_eq ?_
      have hsides : ∀ {x : β}, (pure x : Collect ε β) >>= (fun t => f t b) = f x b := fun {x} => rfl
      have hsides' : ∀ {x : β}, (pure x : Collect ε β) >>= (fun t => f t a) = f x a := fun {x} => rfl
      rw [ha, hb, hsides, hsides', hb, ha, comm w w' hw hw']

/-- A step that checks something and then changes the state, where neither of two steps
changes what the other checks. -/
theorem commute_of_check {γ : Type} {check : β → α → Collect ε γ} {effect : α → γ → β → β}
    (h : ∀ s a, f s a = check s a >>= fun r => pure (effect a r s)) {a b : α}
    (ha : ∀ s r, check (effect b r s) a = check s a)
    (hb : ∀ s r, check (effect a r s) b = check s b)
    (comm : ∀ s r r', effect b r' (effect a r s) = effect a r (effect b r' s)) : Commute f a b := by
  intro s
  constructor
  · simp only [h, errors_bind, value_bind, value_pure, errors_pure, List.append_nil, ha, hb,
      List.append_eq_nil_iff]
    exact and_comm
  · intro _
    simp only [h, value_bind, value_pure, ha, hb]
    exact comm s _ _

theorem foldlM_agrees_of_perm {l l' : List α} (h : l.Perm l') {D : α → α → Prop}
    (symm : ∀ a b, D a b → D b a) (distinct : l.Pairwise D)
    (commute : ∀ a b, D a b → Commute f a b) (s : β) :
    Agrees (l.foldlM f s) (l'.foldlM f s) := by
  induction h generalizing s with
  | nil => exact Agrees.refl _
  | cons a _ ih =>
    rw [List.foldlM_cons, List.foldlM_cons]
    exact (Agrees.refl _).bind (ih (List.pairwise_cons.mp distinct).2)
  | swap a b rest =>
    have hba : D b a := (List.pairwise_cons.mp distinct).1 a List.mem_cons_self
    have hrest := (commute b a hba s).bind fun t => Agrees.refl (rest.foldlM f t)
    rwa [bind_assoc, bind_assoc] at hrest
  | trans h₁ _ ih₁ ih₂ =>
    exact (ih₁ distinct s).trans (ih₂ ((h₁.pairwise_iff fun {a b} => symm a b).mp distinct) s)

theorem foldlM_agrees_of_forall₂ {f' : β → α → Collect ε β} {R : α → α → Prop} {l l' : List α}
    (h : List.Forall₂ R l l') (step : ∀ a ∈ l, ∀ a', R a a' → ∀ s, Agrees (f s a) (f' s a'))
    (s : β) : Agrees (l.foldlM f s) (l'.foldlM f' s) := by
  induction h generalizing s with
  | nil => exact Agrees.refl _
  | cons hab _ ih =>
    rw [List.foldlM_cons, List.foldlM_cons]
    refine (step _ List.mem_cons_self _ hab s).bind (ih fun a ha => step a ?_)
    exact List.mem_cons_of_mem _ ha

/-- A loop over a list in another order, with other entries. -/
theorem foldlM_agrees {f' : β → α → Collect ε β} {R D : α → α → Prop} {l l' : List α}
    (h : Shuffled R l l') (symm : ∀ a b, D a b → D b a) (distinct : l.Pairwise D)
    (commute : ∀ a b, D a b → Commute f a b)
    (step : ∀ a ∈ l, ∀ a', R a a' → ∀ s, Agrees (f s a) (f' s a')) (s : β) :
    Agrees (l.foldlM f s) (l'.foldlM f' s) := by
  obtain ⟨mid, hperm, hrel⟩ := h
  exact (foldlM_agrees_of_perm hperm symm distinct commute s).trans
    (foldlM_agrees_of_forall₂ hrel (fun a ha => step a (hperm.mem_iff.mpr ha)) s)

/-- A loop over entries with different keys. -/
theorem foldlM_agrees_of_nodup {K : Type} {key : α → K} {l l' : List α} (h : l.Perm l')
    (distinct : (l.map key).Nodup) (commute : ∀ a b, key a ≠ key b → Commute f a b) (s : β) :
    Agrees (l.foldlM f s) (l'.foldlM f s) :=
  foldlM_agrees_of_perm h (fun _ _ hne => Ne.symm hne) (List.pairwise_map.mp distinct) commute s

/-- A loop whose steps all commute. -/
theorem foldlM_agrees_of_commute {l l' : List α} (h : l.Perm l')
    (commute : ∀ a b, Commute f a b) (s : β) : Agrees (l.foldlM f s) (l'.foldlM f s) :=
  foldlM_agrees_of_perm h (D := fun _ _ => True) (fun _ _ _ => trivial)
    (List.pairwise_of_forall fun _ _ => trivial) (fun a b _ => commute a b) s

end Loops

section Keys
variable {K V : Type} [Ord K] [Std.TransOrd K] [Std.LawfulEqOrd K]

/-- Writes under different keys commute. -/
theorem insert_comm {k k' : K} (h : k ≠ k') (m : BTreeMap K V) (v v' : V) :
    (m.insert k v).insert k' v' = (m.insert k' v').insert k v := by
  refine Std.ExtTreeMap.ext_getElem? fun a => ?_
  simp only [Std.ExtTreeMap.getElem?_insert, Std.compare_eq_iff_eq]
  by_cases hk : k = a
  · subst hk
    simp [h.symm]
  · simp [hk]

/-- Insertions that report every clash commute: the same key twice is reported in both
orders. -/
theorem insertUnique_commute (key : α → K) (val : α → V) (clash : α → V → ε) {a b : α} :
    Commute (fun (m : BTreeMap K V) a => insertUnique m (key a) (val a) fun old =>
      some (clash a old)) a b := by
  intro m
  by_cases h : key a = key b
  · refine Agrees.of_errors ?_ ?_ <;>
      simp [insertUnique, h]
  · have hread : ∀ {k k' : K} (v : V), k ≠ k' → (m.insert k v)[k']? = m[k']? := by
      intro k k' v hne
      simp [Std.ExtTreeMap.getElem?_insert, hne]
    constructor
    · simp only [errors_bind, List.append_eq_nil_iff, insertUnique, hread _ h, hread _ (Ne.symm h)]
      exact and_comm
    · intro _
      exact insert_comm h m _ _

/-- A step that reads and writes one key of a map. -/
def OnKey (key : α → K) (change : α → Option V → Collect ε (Option V))
    (f : BTreeMap K V → α → Collect ε (BTreeMap K V)) : Prop :=
  ∀ m a, f m a = change a m[key a]? >>= fun v => pure (v.elim m (m.insert (key a)))

theorem commute_of_onKey {key : α → K} {change : α → Option V → Collect ε (Option V)}
    {f : BTreeMap K V → α → Collect ε (BTreeMap K V)} (h : OnKey key change f) {a b : α}
    (hne : key a ≠ key b) : Commute f a b := by
  have hread : ∀ (m : BTreeMap K V) (k k' : K) (v : Option V), k ≠ k' →
      (v.elim m (m.insert k))[k']? = m[k']? := by
    intro m k k' v hk
    cases v with
    | none => rfl
    | some v => simp [Std.ExtTreeMap.getElem?_insert, hk]
  have hstep : ∀ m a, f m a = change a m[key a]? >>= fun v => pure (v.elim m (m.insert (key a))) := h
  intro m
  constructor
  · simp only [hstep, errors_bind, value_bind, value_pure, errors_pure, List.append_nil,
      hread m _ _ _ hne, hread m _ _ _ (Ne.symm hne), List.append_eq_nil_iff]
    exact and_comm
  · intro _
    simp only [hstep, value_bind, value_pure, hread m _ _ _ hne, hread m _ _ _ (Ne.symm hne)]
    cases (change a m[key a]?).value with
    | none => rfl
    | some v =>
      cases (change b m[key b]?).value with
      | none => rfl
      | some v' => exact insert_comm hne m v v'

end Keys
end Collect
end ClixonSwitch.Lib
