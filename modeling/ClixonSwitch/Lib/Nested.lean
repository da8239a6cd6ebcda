import ClixonSwitch.Lib.Trimmed

/-!
Maps whose values are collections, filled one element at a time. They hold no empty
collections, so they are determined by what a reader with a default sees.
-/
namespace ClixonSwitch.Lib
open Std

variable {K V : Type} [Ord K] [TransOrd K] [LawfulEqOrd K]

/-- Maps without the default among their values are equal if they read alike. -/
theorem BTreeMap.ext_getD {m m' : BTreeMap K V} {e : V} (full : ∀ k ∈ m, m.getD k e ≠ e)
    (full' : ∀ k ∈ m', m'.getD k e ≠ e) (same : ∀ k, m.getD k e = m'.getD k e) : m = m' := by
  refine ExtTreeMap.ext_getElem? fun k => ?_
  have hsame := same k
  rw [getD_eq, getD_eq] at hsame
  cases hv : m[k]? with
  | none =>
    cases hv' : m'[k]? with
    | none => rfl
    | some v' =>
      rw [hv, hv'] at hsame
      refine absurd hsame.symm ?_
      have hne := full' k ((mem_iff m' k).mpr ⟨v', hv'⟩)
      rwa [getD_eq, hv'] at hne
  | some v =>
    have hne := full k ((mem_iff m k).mpr ⟨v, hv⟩)
    rw [getD_eq, hv] at hne
    cases hv' : m'[k]? with
    | none =>
      rw [hv, hv'] at hsame
      exact absurd hsame hne
    | some v' =>
      rw [hv, hv'] at hsame
      exact congrArg some hsame

section Sets
variable {A : Type} [Ord A] [TransOrd A] [LawfulEqOrd A]

/-- `entry(k).or_default().insert(a)` on a map of sets. -/
def BTreeMap.insertInto (m : BTreeMap K (BTreeSet A)) (k : K) (a : A) : BTreeMap K (BTreeSet A) :=
  m.insert k ((m.getD k ∅).insert a)

theorem BTreeMap.mem_getD_insertInto (m : BTreeMap K (BTreeSet A)) (k k' : K) (a a' : A) :
    a' ∈ (m.insertInto k a).getD k' ∅ ↔ (k' = k ∧ a' = a) ∨ a' ∈ m.getD k' ∅ := by
  rw [insertInto, ExtTreeMap.getD_insert]
  by_cases hk : k = k'
  · subst hk
    rw [if_pos Std.compare_self, BTreeSet.mem_insert_iff]
    simp
  · rw [if_neg (mt Std.compare_eq_iff_eq.mp hk)]
    simp [Ne.symm hk]

theorem BTreeMap.mem_getD_foldl_insertInto (entries : List (K × A)) (m : BTreeMap K (BTreeSet A))
    (k : K) (a : A) :
    a ∈ (entries.foldl (fun m e => m.insertInto e.1 e.2) m).getD k ∅ ↔
      (k, a) ∈ entries ∨ a ∈ m.getD k ∅ := by
  induction entries generalizing m with
  | nil => simp
  | cons e rest ih =>
    rw [List.foldl_cons, ih, mem_getD_insertInto, List.mem_cons, Prod.ext_iff]
    tauto

omit [LawfulEqOrd A] in
theorem BTreeMap.mem_foldl_insertInto (entries : List (K × A)) (m : BTreeMap K (BTreeSet A))
    (k : K) :
    k ∈ entries.foldl (fun m e => m.insertInto e.1 e.2) m ↔ k ∈ m ∨ ∃ e ∈ entries, e.1 = k := by
  induction entries generalizing m with
  | nil => simp
  | cons e rest ih =>
    rw [List.foldl_cons, ih, insertInto, ExtTreeMap.mem_insert, Std.compare_eq_iff_eq]
    simp only [List.mem_cons, exists_eq_or_imp]
    tauto

/-- A map of sets without empty ones, from a list of its elements. -/
theorem BTreeMap.foldl_insertInto_eq (entries : List (K × A)) {m : BTreeMap K (BTreeSet A)}
    (full : ∀ k ∈ m, m.getD k ∅ ≠ ∅)
    (elements : ∀ k a, (k, a) ∈ entries ↔ a ∈ m.getD k ∅) :
    entries.foldl (fun m e => m.insertInto e.1 e.2) ∅ = m := by
  have hmem : ∀ k a, a ∈ (entries.foldl (fun m e => m.insertInto e.1 e.2)
      (∅ : BTreeMap K (BTreeSet A))).getD k ∅ ↔ a ∈ m.getD k ∅ := by
    intro k a
    rw [mem_getD_foldl_insertInto, elements]
    simp [getD_eq]
  refine ext_getD (e := ∅) (fun k hk hempty => ?_) full fun k => ?_
  · rcases (mem_foldl_insertInto entries ∅ k).mp hk with hk | ⟨⟨k', a⟩, hin, rfl⟩
    · simp at hk
    · have ha := (hmem k' a).mpr ((elements k' a).mp hin)
      rw [hempty] at ha
      simp at ha
  · exact ExtTreeSet.ext_mem fun a => hmem k a

end Sets

section Maps
variable {L : Type} [Ord L] [TransOrd L] [LawfulEqOrd L]

/-- A map of maps without empty ones, from a list of its entries. -/
theorem BTreeMap.foldl_insertUnder_eq (entries : List (K × L × V))
    {m : BTreeMap K (BTreeMap L V)} (full : ∀ k ∈ m, m.getD k ∅ ≠ ∅)
    (elements : ∀ k l v, (k, l, v) ∈ entries ↔ (m.getD k ∅)[l]? = some v) :
    entries.foldl (fun m e => insertUnder m e.1 e.2.1 e.2.2) ∅ = m := by
  have hlookup : ∀ (k : K) (l : L) (v : V), ((entries.foldl (fun m e => insertUnder m e.1 e.2.1 e.2.2)
      (∅ : BTreeMap K (BTreeMap L V))).getD k ∅)[l]? = some v ↔ (m.getD k ∅)[l]? = some v := by
    intro k l v
    rw [← elements]
    refine getElem?_foldl_insertUnder entries (fun k l v v' h h' => ?_) k l v
    have hv := (elements k l v).mp h
    rw [(elements k l v').mp h'] at hv
    exact (Option.some.inj hv).symm
  refine ext_getD (e := ∅) (fun k hk hempty => ?_) full fun k => ?_
  · rcases (mem_foldl_insertUnder entries ∅ k).mp hk with hk | ⟨⟨k', l, v⟩, hin, rfl⟩
    · simp at hk
    · have hv := (hlookup k' l v).mpr ((elements k' l v).mp hin)
      rw [hempty] at hv
      simp at hv
  · exact ExtTreeMap.ext_getElem? fun l => Option.ext fun v => hlookup k l v

end Maps

end ClixonSwitch.Lib
