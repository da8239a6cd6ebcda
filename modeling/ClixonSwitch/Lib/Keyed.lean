import ClixonSwitch.Lib.BTree

/-!
Maps built from lists of entries with keys. Where keys repeat, the last entry of a key
counts; where they do not, the map has every entry.
-/
namespace ClixonSwitch.Lib

variable {α K V : Type} [Ord K] [Std.TransOrd K]

/-- The map has the entries of the list under their keys, each as a value that
`accepted` relates to it, and nothing else. -/
structure Keyed (key : α → K) (accepted : α → V → Prop) (items : List α) (m : BTreeMap K V) :
    Prop where
  lookup : ∀ (k : K) (v : V), m[k]? = some v → ∃ a ∈ items, key a = k ∧ accepted a v
  present : ∀ a ∈ items, key a ∈ m

section Keyed
variable {key : α → K} {accepted : α → V → Prop} {items : List α} {m : BTreeMap K V}

theorem Keyed.empty : Keyed key accepted [] ∅ := ⟨by simp, by simp⟩

theorem Keyed.insert [Std.LawfulEqOrd K] (h : Keyed key accepted items m) {a : α} {v : V}
    (ha : accepted a v) : Keyed key accepted (items ++ [a]) (m.insert (key a) v) := by
  refine ⟨fun k w hw => ?_, fun b hb => ?_⟩
  · rw [Std.ExtTreeMap.getElem?_insert] at hw
    split at hw
    · next heq =>
      cases hw
      exact ⟨a, by simp, Std.compare_eq_iff_eq.mp heq, ha⟩
    · obtain ⟨b, hb, hrest⟩ := h.lookup k w hw
      exact ⟨b, List.mem_append_left _ hb, hrest⟩
  · rw [Std.ExtTreeMap.mem_insert, Std.compare_eq_iff_eq]
    rcases List.mem_append.mp hb with hb | hb
    · exact Or.inr (h.present b hb)
    · rw [List.mem_singleton.mp hb]
      exact Or.inl rfl

theorem Keyed.mem_iff (h : Keyed key accepted items m) (k : K) :
    k ∈ m ↔ ∃ a ∈ items, key a = k := by
  constructor
  · intro hk
    obtain ⟨v, hv⟩ := (BTreeMap.mem_iff m k).mp hk
    obtain ⟨a, ha, hkey, -⟩ := h.lookup k v hv
    exact ⟨a, ha, hkey⟩
  · rintro ⟨a, ha, rfl⟩
    exact h.present a ha

/-- With distinct keys no entry is lost. -/
theorem Keyed.of_nodup (h : Keyed key accepted items m) (distinct : (items.map key).Nodup)
    {a : α} (ha : a ∈ items) : ∃ v, m[key a]? = some v ∧ accepted a v := by
  obtain ⟨v, hv⟩ := (BTreeMap.mem_iff m (key a)).mp (h.present a ha)
  obtain ⟨b, hb, hkey, hacc⟩ := h.lookup (key a) v hv
  obtain rfl : b = a := List.inj_on_of_nodup_map distinct hb ha hkey
  exact ⟨v, hv, hacc⟩

theorem Keyed.imp {accepted' : α → V → Prop} (h : Keyed key accepted items m)
    (himp : ∀ a v, accepted a v → accepted' a v) : Keyed key accepted' items m := by
  refine ⟨fun k v hv => ?_, h.present⟩
  obtain ⟨a, ha, hkey, hacc⟩ := h.lookup k v hv
  exact ⟨a, ha, hkey, himp a v hacc⟩

end Keyed

end ClixonSwitch.Lib
