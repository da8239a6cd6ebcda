import ClixonSwitch.Lib.BTree

/-!
Maps whose values are collections, without the keys whose collection is empty: such a key
and an absent one look the same to everything that reads the elements.
-/
namespace ClixonSwitch.Lib
open Std

variable {K V : Type} [Ord K] [TransOrd K] [LawfulEqOrd K] {isEmpty : V → Bool}

/-- The entries with elements. -/
def BTreeMap.trim (isEmpty : V → Bool) (m : BTreeMap K V) : BTreeMap K V :=
  m.filter fun _ v => !isEmpty v

theorem BTreeMap.getElem?_trim (m : BTreeMap K V) (k : K) :
    (m.trim isEmpty)[k]? = m[k]?.filter fun v => !isEmpty v := by
  rw [trim, ExtTreeMap.getElem?_filter']

/-- A reader with a default does not see the difference. -/
theorem BTreeMap.getD_trim {e : V} (empty : ∀ v, isEmpty v = true → v = e)
    (m : BTreeMap K V) (k : K) : (m.trim isEmpty).getD k e = m.getD k e := by
  rw [getD_eq, getD_eq, getElem?_trim]
  cases m[k]? with
  | none => rfl
  | some v =>
    cases hv : isEmpty v with
    | false => simp [Option.filter_some, hv]
    | true => simp [Option.filter_some, hv, (empty v hv).symm]

omit [LawfulEqOrd K] in
/-- Neither does a loop over all elements. -/
theorem BTreeMap.flatMap_trim {β : Type} (f : K × V → List β)
    (empty : ∀ k v, isEmpty v = true → f (k, v) = []) (m : BTreeMap K V) :
    (m.trim isEmpty).toList.flatMap f = m.toList.flatMap f := by
  rw [trim, ExtTreeMap.toList_filter]
  induction m.toList with
  | nil => rfl
  | cons e rest ih =>
    rw [List.filter_cons, List.flatMap_cons]
    split
    · rw [List.flatMap_cons, ih]
    · next hempty =>
      rw [ih, empty e.1 e.2 (by simpa using hempty)]
      rfl

omit [LawfulEqOrd K] in
theorem BTreeMap.exists_mem_of_isEmpty {m : BTreeMap K V} (h : m.isEmpty = false) :
    ∃ k, k ∈ m := by
  by_contra hno
  rw [ExtTreeMap.eq_empty_iff_forall_not_mem.mpr (not_exists.mp hno)] at h
  cases h

omit [LawfulEqOrd K] in
theorem BTreeSet.exists_mem_of_isEmpty {m : BTreeSet K} (h : m.isEmpty = false) :
    ∃ k, k ∈ m := by
  by_contra hno
  rw [ExtTreeSet.eq_empty_iff_forall_not_mem.mpr (not_exists.mp hno)] at h
  cases h

/-- Nor does a search for an element under some keys. -/
theorem BTreeMap.any_trim (p : V → Bool) (empty : ∀ v, isEmpty v = true → p v = false)
    (m : BTreeMap K V) (keys : List K) :
    (keys.filterMap fun k => (m.trim isEmpty)[k]?).any p =
      (keys.filterMap fun k => m[k]?).any p := by
  induction keys with
  | nil => rfl
  | cons k rest ih =>
    rw [List.filterMap_cons, List.filterMap_cons, getElem?_trim]
    cases m[k]? with
    | none => exact ih
    | some v =>
      cases hv : isEmpty v with
      | false => simp [Option.filter_some, hv, ih]
      | true => simp [Option.filter_some, hv, empty v hv, ih]

end ClixonSwitch.Lib
