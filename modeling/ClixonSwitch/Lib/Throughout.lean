import ClixonSwitch.Lib.Commands

/-!
What holds throughout a sequence of commands: at the start and after every initial
part of it. A sequence that only gains keeps what holds at its start, one that only
loses had throughout what holds at its end.
-/
namespace ClixonSwitch.Lib

variable {α σ ε : Type} (step : α → σ → Except ε Unit × σ)

/-- `P` holds after every initial part of the sequence. -/
def Throughout (P : σ → Prop) (as : List α) (s : σ) : Prop :=
  ∀ pre, pre <+: as → P (runAll step pre s).2

variable {step} {P : σ → Prop} {as bs : List α} {s s' : σ}

theorem throughout_iff_trail (P : σ → Prop) (as : List α) (s : σ) :
    Throughout step P as s ↔ P s ∧ ∀ t ∈ trail step as s, P t.2.2 := by
  unfold Throughout
  induction as generalizing s with
  | nil => simp [List.prefix_nil, runAll, trail]
  | cons a rest ih =>
    have hcons : (∀ pre, pre <+: a :: rest → P (runAll step pre s).2) ↔
        P s ∧ ∀ pre, pre <+: rest → P (runAll step (a :: pre) s).2 := by
      constructor
      · exact fun h => ⟨h [] List.nil_prefix, fun pre hpre => h _ ((List.prefix_cons_inj a).mpr hpre)⟩
      · rintro ⟨hstart, hrest⟩ (- | ⟨b, pre⟩) hpre
        · exact hstart
        · obtain ⟨rfl, hrest'⟩ := List.cons_prefix_cons.mp hpre
          exact hrest pre hrest'
    rw [hcons]
    simp only [runAll, trail]
    split
    · next s' heq => simp [ih s']
    · next e s' heq =>
      simp only [List.mem_singleton, forall_eq]
      exact and_congr_right fun _ => ⟨fun h => h [] List.nil_prefix, fun h _ _ => h⟩

theorem throughout_append_ok (h : runAll step as s = (.ok (), s')) :
    Throughout step P (as ++ bs) s ↔ Throughout step P as s ∧ Throughout step P bs s' := by
  simp only [throughout_iff_trail, trail_append_ok h, List.mem_append]
  constructor
  · rintro ⟨hs, hall⟩
    refine ⟨⟨hs, fun t ht => hall t (Or.inl ht)⟩, ?_, fun t ht => hall t (Or.inr ht)⟩
    have hlast := runAll_of_trail P hs fun t ht => hall t (Or.inl ht)
    rwa [h] at hlast
  · rintro ⟨⟨hs, hfirst⟩, -, hsecond⟩
    exact ⟨hs, fun t ht => ht.elim (hfirst t) (hsecond t)⟩

/-- After a failure nothing more happens. -/
theorem throughout_append_error {e : α × ε} (h : runAll step as s = (.error e, s')) :
    Throughout step P (as ++ bs) s ↔ Throughout step P as s := by
  simp only [throughout_iff_trail, trail_append_error h]

theorem Throughout.start (h : Throughout step P as s) : P s := h [] List.nil_prefix

theorem Throughout.after (h : Throughout step P (as ++ bs) s)
    (run : runAll step as s = (.ok (), s')) : P s' := by
  have hlast := h as (List.prefix_append as bs)
  rwa [run] at hlast

/-- What every command keeps, succeed or fail. -/
theorem throughout_of_kept (preserved : ∀ a ∈ as, ∀ s, P s → P (step a s).2) (start : P s) :
    Throughout step P as s :=
  (throughout_iff_trail P as s).mpr ⟨start, trail_invariant P preserved start⟩

/-- What every command of a successful sequence keeps. -/
theorem throughout_of_forward
    (preserved : ∀ a ∈ as, ∀ s s', P s → step a s = (.ok (), s') → P s') (start : P s)
    (run : runAll step as s = (.ok (), s')) : Throughout step P as s := by
  intro pre hpre
  obtain ⟨rest, rfl⟩ := hpre
  obtain ⟨mid, hmid, -⟩ := runAll_append_inv pre rest run
  rw [hmid]
  exact runAll_ok_invariant P (fun a ha => preserved a (List.mem_append_left _ ha)) start hmid

/-- What no command of a successful sequence brings about. -/
theorem throughout_of_backward
    (reflected : ∀ a ∈ as, ∀ s s', P s' → step a s = (.ok (), s') → P s) (last : P s')
    (run : runAll step as s = (.ok (), s')) : Throughout step P as s := by
  induction as generalizing s with
  | nil =>
    cases run
    intro pre hpre
    rw [List.prefix_nil.mp hpre]
    exact last
  | cons a rest ih =>
    obtain ⟨mid, hfirst, hrest⟩ := runAll_append_inv [a] rest run
    have hafter := ih (fun b hb => reflected b (List.mem_cons_of_mem a hb)) hrest
    have hstep : step a s = (.ok (), mid) := by
      simp only [runAll] at hfirst
      split at hfirst
      · next heq => rw [heq, (Prod.mk.inj hfirst).2]
      · simp at hfirst
    have hs : P s := reflected a (by simp) s mid hafter.start hstep
    rw [throughout_iff_trail] at hafter ⊢
    simp only [trail, hstep, List.mem_cons, forall_eq_or_imp]
    exact ⟨hs, hafter⟩

theorem Throughout.imp {Q : σ → Prop} (h : Throughout step P as s) (imp : ∀ s, P s → Q s) :
    Throughout step Q as s :=
  fun pre hpre => imp _ (h pre hpre)

section Each
variable (step)

/-- All commands in order, also after one that fails. -/
def applyEach (as : List α) (s : σ) : σ := as.foldl (fun s a => (step a s).2) s

variable {step}

/-- An invariant that may depend on the commands that have been applied. -/
theorem applyEach_invariant (I : List α → σ → Prop) (start : I [] s)
    (preserved : ∀ pre a, pre ++ [a] <+: as → ∀ s, I pre s → I (pre ++ [a]) (step a s).2)
    (pre : List α) (hpre : pre <+: as) : I pre (applyEach step pre s) := by
  induction pre using List.reverseRecOn with
  | nil => exact start
  | append_singleton pre a ih =>
    rw [applyEach, List.foldl_append]
    exact preserved pre a hpre _ (ih ((List.prefix_append pre [a]).trans hpre))

end Each

end ClixonSwitch.Lib
