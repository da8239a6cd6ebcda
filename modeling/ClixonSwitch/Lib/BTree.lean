import Mathlib

/-!
Ordered maps and sets, as `std::collections::BTreeMap` and `BTreeSet` behave:
one value per key, iteration in key order. They are Std's extensional tree maps
at the key's own order; this module adds the lookup rules that Std states for
one operation at a time and that loops over entries need for whole loops.
-/
namespace ClixonSwitch.Lib
open Std

abbrev BTreeMap (K V : Type) [Ord K] := ExtTreeMap K V compare
abbrev BTreeSet (K : Type) [Ord K] := ExtTreeSet K compare

variable {K V : Type} [Ord K] [TransOrd K]

theorem BTreeMap.mem_iff (m : BTreeMap K V) (k : K) : k ∈ m ↔ ∃ v, m[k]? = some v := by
  rw [← ExtTreeMap.isSome_getElem?_iff_mem, Option.isSome_iff_exists]

theorem BTreeMap.not_mem_iff (m : BTreeMap K V) (k : K) : k ∉ m ↔ m[k]? = none := by
  rw [← ExtTreeMap.isSome_getElem?_iff_mem, Option.not_isSome_iff_eq_none]

theorem BTreeMap.contains_eq (m : BTreeMap K V) (k : K) : m.contains k = m[k]?.isSome :=
  ExtTreeMap.contains_eq_isSome_getElem?

theorem BTreeMap.contains_eq_false (m : BTreeMap K V) (k : K) : m.contains k = false ↔ k ∉ m := by
  rw [← ExtTreeMap.contains_iff_mem, Bool.not_eq_true]

theorem BTreeSet.contains_eq_false (m : BTreeSet K) (k : K) : m.contains k = false ↔ k ∉ m := by
  rw [← ExtTreeSet.contains_iff_mem, Bool.not_eq_true]

/-- Overwriting a whole list of keys, the last write of a key wins. -/
def BTreeMap.collect (entries : List (K × V)) : BTreeMap K V :=
  entries.foldl (fun m e => m.insert e.1 e.2) ∅

/-- The value set of a key, empty if the key is absent. -/
theorem BTreeMap.getD_eq (m : BTreeMap K V) (k : K) (d : V) : m.getD k d = m[k]?.getD d :=
  ExtTreeMap.getD_eq_getD_getElem?

section Lawful
variable [LawfulEqOrd K]

theorem BTreeMap.nodup_keys (m : BTreeMap K V) : m.keys.Nodup :=
  m.distinct_keys.imp fun h heq => h (by rw [heq, Std.compare_self])

theorem BTreeMap.nodup_fst (m : BTreeMap K V) : (m.toList.map Prod.fst).Nodup := by
  rw [ExtTreeMap.map_fst_toList_eq_keys]
  exact m.nodup_keys

theorem BTreeMap.mem_erase_iff (m : BTreeMap K V) (k a : K) : a ∈ m.erase k ↔ a ≠ k ∧ a ∈ m := by
  simp [ExtTreeMap.mem_erase, ne_comm]

theorem BTreeSet.mem_erase_iff (m : BTreeSet K) (k a : K) : a ∈ m.erase k ↔ a ≠ k ∧ a ∈ m := by
  simp [ExtTreeSet.mem_erase, ne_comm]

theorem BTreeSet.mem_insert_iff (m : BTreeSet K) (k a : K) : a ∈ m.insert k ↔ a = k ∨ a ∈ m := by
  rw [ExtTreeSet.mem_insert, Std.compare_eq_iff_eq, eq_comm]

theorem BTreeSet.mem_filter_iff (m : BTreeSet K) (f : K → Bool) (a : K) :
    a ∈ m.filter f ↔ a ∈ m ∧ f a = true := by
  simp [ExtTreeSet.mem_filter, ExtTreeSet.get_eq]

theorem BTreeSet.nodup_toList (m : BTreeSet K) : m.toList.Nodup :=
  m.distinct_toList.imp fun h heq => h (by rw [heq, Std.compare_self])

/-- Lists in key order are determined by their elements. -/
theorem eq_of_ordered {xs ys : List K} (hx : xs.Pairwise fun a b => compare a b = .lt)
    (hy : ys.Pairwise fun a b => compare a b = .lt) (h : ∀ k, k ∈ xs ↔ k ∈ ys) : xs = ys := by
  have hne : ∀ {a b : K}, compare a b = .lt → a ≠ b := by
    rintro a b hlt rfl
    rw [Std.compare_self] at hlt
    cases hlt
  have hperm : xs.Perm ys :=
    (List.perm_ext_iff_of_nodup (hx.imp hne) (hy.imp hne)).mpr h
  refine hperm.eq_of_pairwise (fun a b _ _ hab hba => ?_) hx hy
  rw [OrientedCmp.gt_of_lt hab] at hba
  cases hba

/-- A map with fewer keys is smaller. -/
theorem BTreeMap.size_le_of_subset (m m' : BTreeMap K V) (h : ∀ k, k ∈ m → k ∈ m') :
    m.size ≤ m'.size := by
  rw [← ExtTreeMap.length_keys, ← ExtTreeMap.length_keys]
  refine (m.nodup_keys.subperm fun k hk => ?_).length_le
  rw [ExtTreeMap.mem_keys] at hk ⊢
  exact h k hk

/-- A collected list has no entries but its own. -/
theorem BTreeMap.mem_of_getElem?_collect {entries : List (K × V)} {k : K} {v : V}
    (h : (BTreeMap.collect entries)[k]? = some v) : (k, v) ∈ entries := by
  induction entries using List.reverseRecOn with
  | nil => simp [collect] at h
  | append_singleton entries e ih =>
    rw [collect, List.foldl_append, List.foldl_cons, List.foldl_nil,
      ExtTreeMap.getElem?_insert] at h
    split at h
    · next heq => simp [← Std.compare_eq_iff_eq.mp heq, ← Option.some.inj h]
    · exact List.mem_append_left _ (ih h)

/-- The keys of a collected list, and their number if they differ. -/
theorem BTreeMap.mem_collect (entries : List (K × V)) (k : K) :
    k ∈ BTreeMap.collect entries ↔ k ∈ entries.map Prod.fst := by
  induction entries using List.reverseRecOn with
  | nil => simp [collect]
  | append_singleton entries e ih =>
    rw [collect, List.foldl_append, List.foldl_cons, List.foldl_nil, ExtTreeMap.mem_insert,
      Std.compare_eq_iff_eq, ← collect, ih]
    simp [or_comm, eq_comm]

theorem BTreeMap.getElem?_collect (entries : List (K × V)) (nodup : (entries.map Prod.fst).Nodup)
    (k : K) (v : V) : (BTreeMap.collect entries)[k]? = some v ↔ (k, v) ∈ entries := by
  refine ⟨mem_of_getElem?_collect, fun hmem => ?_⟩
  obtain ⟨v', hv'⟩ := (mem_iff _ k).mp
    ((mem_collect entries k).mpr (List.mem_map_of_mem (f := Prod.fst) hmem))
  rw [hv']
  have hsame := List.inj_on_of_nodup_map nodup (mem_of_getElem?_collect hv') hmem rfl
  rw [(Prod.mk.inj hsame).2]

theorem BTreeMap.size_collect (entries : List (K × V)) (nodup : (entries.map Prod.fst).Nodup) :
    (BTreeMap.collect entries).size = entries.length := by
  have hkeys : (BTreeMap.collect entries).keys.Perm (entries.map Prod.fst) := by
    refine (List.perm_ext_iff_of_nodup (nodup_keys _) nodup).mpr fun k => ?_
    rw [ExtTreeMap.mem_keys, mem_collect]
  rw [← ExtTreeMap.length_keys, hkeys.length_eq, List.length_map]

section Nested
variable {L : Type} [Ord L] [TransOrd L]

/-- `entry(k).or_default().insert(l, v)` on a map of maps. -/
def BTreeMap.insertUnder (m : BTreeMap K (BTreeMap L V)) (k : K) (l : L) (v : V) :
    BTreeMap K (BTreeMap L V) :=
  m.insert k ((m.getD k ∅).insert l v)

theorem BTreeMap.mem_foldl_insertUnder (entries : List (K × L × V))
    (m : BTreeMap K (BTreeMap L V)) (k : K) :
    k ∈ entries.foldl (fun m e => insertUnder m e.1 e.2.1 e.2.2) m ↔
      k ∈ m ∨ ∃ e ∈ entries, e.1 = k := by
  induction entries generalizing m with
  | nil => simp
  | cons e rest ih =>
    rw [List.foldl_cons, ih, insertUnder, ExtTreeMap.mem_insert, Std.compare_eq_iff_eq]
    simp only [List.mem_cons, exists_eq_or_imp]
    tauto

/-- Entries under a key and a second one, if no two of them differ. -/
theorem BTreeMap.getElem?_foldl_insertUnder [LawfulEqOrd L] (entries : List (K × L × V))
    (functional : ∀ k l v v', (k, l, v) ∈ entries → (k, l, v') ∈ entries → v = v')
    (k : K) (l : L) (v : V) :
    ((entries.foldl (fun m e => insertUnder m e.1 e.2.1 e.2.2) ∅).getD k ∅)[l]? = some v ↔
      (k, l, v) ∈ entries := by
  induction entries using List.reverseRecOn with
  | nil => simp [BTreeMap.getD_eq]
  | append_singleton entries e ih =>
    obtain ⟨k', l', v'⟩ := e
    have hrest := ih fun k l v v' h h' =>
      functional k l v v' (List.mem_append_left _ h) (List.mem_append_left _ h')
    rw [List.foldl_append, List.foldl_cons, List.foldl_nil, insertUnder]
    simp only [List.mem_append, List.mem_singleton, Prod.mk.injEq]
    by_cases hk : k' = k
    · subst hk
      rw [BTreeMap.getD_eq, ExtTreeMap.getElem?_insert_self, Option.getD_some,
        ExtTreeMap.getElem?_insert]
      by_cases hl : l' = l
      · subst hl
        rw [if_pos Std.compare_self]
        constructor
        · intro heq
          exact Or.inr ⟨rfl, rfl, (Option.some.inj heq).symm⟩
        · rintro (hmem | ⟨-, -, rfl⟩)
          · rw [functional k' l' v v' (List.mem_append_left _ hmem) (by simp)]
          · rfl
      · rw [if_neg (mt Std.compare_eq_iff_eq.mp hl), hrest]
        simp [Ne.symm hl]
    · rw [BTreeMap.getD_eq, ExtTreeMap.getElem?_insert, if_neg (mt Std.compare_eq_iff_eq.mp hk),
        ← BTreeMap.getD_eq, hrest]
      simp [Ne.symm hk]

end Nested

section Aligned
variable {W : Type} {N : K → K → Prop} {R : V → W → Prop}

/-- Related keys compare alike. -/
def SameOrder (N : K → K → Prop) : Prop :=
  ∀ a a' b b', N a a' → N b b' → compare a b = compare a' b'

/-- Maps whose entries correspond one by one, in the order of their keys. -/
def BTreeMap.Aligned (N : K → K → Prop) (R : V → W → Prop) (m : BTreeMap K V)
    (m' : BTreeMap K W) : Prop :=
  List.Forall₂ (fun e e' => N e.1 e'.1 ∧ R e.2 e'.2) m.toList m'.toList

theorem exists_of_forall₂ {α β : Type} {S : α → β → Prop} {l : List α} {l' : List β}
    (h : List.Forall₂ S l l') {a : α} (ha : a ∈ l) : ∃ b ∈ l', S a b := by
  induction h with
  | nil => cases ha
  | cons hab _ ih =>
    rcases List.mem_cons.mp ha with rfl | ha
    · exact ⟨_, by simp, hab⟩
    · obtain ⟨b, hb, hrel⟩ := ih ha
      exact ⟨b, by simp [hb], hrel⟩

theorem BTreeMap.Aligned.exists_of_getElem? {m : BTreeMap K V} {m' : BTreeMap K W}
    (h : BTreeMap.Aligned N R m m') (order : SameOrder N) {k k' : K} (hk : N k k') {v : V}
    (hv : m[k]? = some v) : ∃ w, m'[k']? = some w ∧ R v w := by
  obtain ⟨⟨key, w⟩, hmem, hkey, hrel⟩ :=
    exists_of_forall₂ h (ExtTreeMap.mem_toList_iff_getElem?_eq_some.mpr hv)
  have hsame := order k k' k key hk hkey
  rw [Std.compare_self] at hsame
  obtain rfl : k' = key := Std.compare_eq_iff_eq.mp hsame.symm
  exact ⟨w, ExtTreeMap.mem_toList_iff_getElem?_eq_some.mp hmem, hrel⟩

/-- The values of related keys are related. -/
theorem BTreeMap.Aligned.getElem?_rel {m : BTreeMap K V} {m' : BTreeMap K W}
    (h : BTreeMap.Aligned N R m m') (order : SameOrder N) {k k' : K} (hk : N k k') :
    Option.Rel R m[k]? m'[k']? := by
  have hback : BTreeMap.Aligned (fun a b => N b a) (fun w v => R v w) m' m :=
    List.Forall₂.flip h
  have horder : SameOrder fun a b => N b a := fun a a' b b' ha hb => (order a' a b' b ha hb).symm
  cases hv : m[k]? with
  | some v =>
    obtain ⟨w, hw, hrel⟩ := h.exists_of_getElem? order hk hv
    rw [hw]
    exact .some hrel
  | none =>
    cases hw : m'[k']? with
    | none => exact .none
    | some w =>
      obtain ⟨v, hv', -⟩ := hback.exists_of_getElem? horder hk hw
      rw [hv] at hv'
      cases hv'

omit [LawfulEqOrd K] in
theorem BTreeMap.Aligned.isEmpty_eq {m : BTreeMap K V} {m' : BTreeMap K W}
    (h : BTreeMap.Aligned N R m m') : m.isEmpty = m'.isEmpty := by
  rw [← ExtTreeMap.isEmpty_toList, ← ExtTreeMap.isEmpty_toList, Bool.eq_iff_iff,
    List.isEmpty_iff_length_eq_zero, List.isEmpty_iff_length_eq_zero, List.Forall₂.length_eq h]

omit [TransOrd K] [LawfulEqOrd K] in
theorem sameOrder_eq : SameOrder (Eq : K → K → Prop) := by
  rintro a - b - rfl rfl
  rfl

end Aligned

variable [DecidableEq K]

/-- Writing one value under many keys. -/
theorem BTreeMap.getElem?_foldl_insert_const (keys : List K) (v : V) (m : BTreeMap K V) (k : K) :
    ((keys.map fun k => (k, v)).foldl (fun m e => m.insert e.1 e.2) m)[k]? =
      if k ∈ keys then some v else m[k]? := by
  induction keys generalizing m with
  | nil => simp
  | cons a rest ih =>
    simp only [List.map_cons, List.foldl_cons, ih, ExtTreeMap.getElem?_insert, List.mem_cons,
      Std.compare_eq_iff_eq]
    by_cases hk : k ∈ rest
    · simp [hk]
    · by_cases ha : a = k
      · simp [ha]
      · simp [hk, ha, Ne.symm ha]

end Lawful

end ClixonSwitch.Lib
