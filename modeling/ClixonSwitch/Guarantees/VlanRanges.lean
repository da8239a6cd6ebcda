import ClixonSwitch.Guarantees.MstMapping

/-!
# VLAN sets as ranges, and back

`vlan_ranges` writes a set of VLAN ids for the state data and for mstpd, `vlan_entry`
reads the same notation from the configuration. The ranges written are the maximal runs
of the set, and each one is read as the ids of its run.
-/
namespace ClixonSwitch.Guarantees
open Std Lib Lib.NumberList
open Source.SwitchModel Source.SwitchNet

section Gaps

/-- A later run begins above the id that follows an earlier one. -/
def RunsApart (r s : UInt16 × UInt16) : Prop := r.2.toNat + 1 < s.1.toNat

theorem addToRanges_apart {done : List UInt16} {ranges : List (UInt16 × UInt16)} {vlan : UInt16}
    (h : RunsOf done ranges) (above : ∀ v ∈ done, v < vlan) (apart : ranges.Pairwise RunsApart) :
    (addToRanges ranges vlan).Pairwise RunsApart := by
  rcases List.eq_nil_or_concat' ranges with rfl | ⟨front, ⟨low, high⟩, rfl⟩
  · exact List.pairwise_singleton RunsApart (vlan, vlan)
  · obtain ⟨hfront, -, hlow⟩ := List.pairwise_append.mp apart
    simp only [addToRanges, List.getLast?_append, List.getLast?_singleton, Option.some_or]
    split
    · -- only the upper bound of the last run moves
      rw [List.dropLast_concat]
      refine List.pairwise_append.mpr ⟨hfront, List.pairwise_singleton _ _, fun r hr s hs => ?_⟩
      rw [List.mem_singleton.mp hs]
      exact hlow r hr (low, high) (by simp)
    · next hgap =>
      refine List.pairwise_append.mpr ⟨apart, List.pairwise_singleton _ _, fun r hr s hs => ?_⟩
      rw [List.mem_singleton.mp hs]
      obtain ⟨hle, hlt, hnext⟩ := h.next above
      have hne : high.toNat + 1 ≠ vlan.toNat := by
        rw [← hnext]
        exact fun heq => hgap (UInt16.toNat_inj.mp heq)
      show r.2.toNat + 1 < vlan.toNat
      rcases List.mem_append.mp hr with hr | hr
      · have hbefore : r.2.toNat + 1 < low.toNat := hlow r hr (low, high) (by simp)
        omega
      · rw [List.mem_singleton.mp hr]
        show high.toNat + 1 < vlan.toNat
        omega

theorem runs_apart (ids : List UInt16) (sorted : ids.Pairwise (· < ·)) :
    (ids.foldl addToRanges []).Pairwise RunsApart := by
  induction ids using List.reverseRecOn with
  | nil => exact List.Pairwise.nil
  | append_singleton done vlan ih =>
    obtain ⟨hdone, -, habove⟩ := List.pairwise_append.mp sorted
    rw [List.foldl_append]
    exact addToRanges_apart (runs_of_sorted done hdone) (fun v hv => habove v hv vlan (by simp))
      (ih hdone)

/-- When an id is taken, the last run so far ends below it. -/
theorem runs_below {done rest : List UInt16} {vlan low high : UInt16}
    (sorted : (done ++ vlan :: rest).Pairwise (· < ·))
    (h : (done.foldl addToRanges []).getLast? = some (low, high)) : high < vlan := by
  obtain ⟨hdone, -, habove⟩ := List.pairwise_append.mp sorted
  have hlast := (runs_of_sorted done hdone).last
  rw [h] at hlast
  exact habove high (List.mem_of_getLast? hlast.symm) vlan (by simp)

end Gaps

section Texts

/-- The text of one run. -/
def rangeString (r : UInt16 × UInt16) : String :=
  if r.1 = r.2 then toString r.1 else toString r.1 ++ ".." ++ toString r.2

theorem toList_toString (v : UInt16) : (toString v).toList = Nat.toDigits 10 v.toNat :=
  Nat.toList_repr

theorem trim_toDigits (n : Nat) : Text.trim (Nat.toDigits 10 n) = Nat.toDigits 10 n := by
  refine Text.trim_of_not_whitespace fun c hc => ?_
  have hdigit := Char.isDigit_iff_toNat.mp (Nat.isDigit_of_mem_toDigits (by decide) (by decide) hc)
  have hzero : '0'.toNat = 48 := rfl
  have hnine : '9'.toNat = 57 := rfl
  simp only [Text.isWhitespace, Bool.or_eq_false_iff, Bool.and_eq_false_iff, decide_eq_false_iff_not,
    beq_eq_false_iff_ne]
  omega

theorem parseU64_toDigits (v : UInt16) :
    parseU64 (Nat.toDigits 10 v.toNat) = some v.toUInt64 := by
  have hsmall : v.toNat < 2 ^ 64 := Nat.lt_trans v.toNat_lt (by decide)
  have hvalue : UInt64.ofNat v.toNat = v.toUInt64 := by
    rw [← UInt64.toNat_inj, UInt64.toNat_ofNat_of_lt' hsmall, UInt16.toNat_toUInt64]
  rw [parseU64, parseUnsigned_toDigits hsmall, Option.map_some, hvalue]

theorem asU64_id (v : UInt16) : (Scalar.string (toString v)).asU64 = some v.toUInt64 := by
  rw [Scalar.asU64, toList_toString, parseU64_toDigits]

theorem toList_range (low high : UInt16) :
    (toString low ++ ".." ++ toString high).toList =
      Nat.toDigits 10 low.toNat ++ ['.', '.'] ++ Nat.toDigits 10 high.toNat := by
  rw [String.toList_append, String.toList_append, toList_toString, toList_toString]
  rfl

/-- The dots are not part of a number. -/
theorem asU64_range (low high : UInt16) :
    (Scalar.string (toString low ++ ".." ++ toString high)).asU64 = none := by
  rw [Scalar.asU64, toList_range, parseU64, Option.map_eq_none_iff, ← Option.not_isSome_iff_eq_none]
  intro hsome
  exact not_mem_of_parseUnsigned hsome (by decide : Text.digitValue 10 '.' = none) (by decide)
    (by simp)

theorem rangeBounds_range (low high : UInt16) :
    rangeBounds (toString low ++ ".." ++ toString high) = some (low.toUInt64, high.toUInt64) := by
  have hdot : '.' ∉ Nat.toDigits 10 low.toNat := not_mem_toDigits rfl low.toNat
  rw [rangeBounds, toList_range, Text.splitOnce_append_of_not_mem ['.'] hdot]
  simp [trim_toDigits, parseU64_toDigits]

theorem covers_rangeString (r : UInt16 × UInt16) (ordered : r.1 ≤ r.2) (v : UInt16) :
    (Scalar.string (rangeString r)).covers v ↔ r.1 ≤ v ∧ v ≤ r.2 := by
  obtain ⟨low, high⟩ := r
  unfold rangeString Scalar.covers
  split
  · next heq =>
    obtain rfl : low = high := heq
    simp only [asU64_id, Option.some.injEq, toUInt64_inj, reduceCtorEq, false_and, or_false]
    exact ⟨fun h => by simp [h], fun h => UInt16.le_antisymm h.1 h.2⟩
  · simp [asU64_range, Scalar.display, rangeBounds_range]

theorem checkVlanId_toUInt64 {v : UInt16} (h : VlanIdValid v) :
    checkVlanId v.toUInt64 = .ok v := by
  have hlow : (1 : UInt16).toUInt64 ≤ v.toUInt64 := (toUInt64_le_toUInt64 1 v).mpr h.1
  have hhigh : v.toUInt64 ≤ (4094 : UInt16).toUInt64 := (toUInt64_le_toUInt64 v 4094).mpr h.2
  rw [checkVlanId, if_pos ⟨hlow, hhigh⟩, UInt16.toUInt16_toUInt64]

theorem vlanEntry_of_bounds {entry : Scalar} {low high : UInt16} (hid : entry.asU64 = none)
    (hbounds : rangeBounds entry.display = some (low.toUInt64, high.toUInt64))
    (hlow : VlanIdValid low) (hhigh : VlanIdValid high) (hlt : ¬ low ≥ high) :
    vlanEntry entry = .ok (vlanRange low high) := by
  unfold vlanEntry
  simp only [hid, hbounds, checkVlanId_toUInt64 hlow, checkVlanId_toUInt64 hhigh, bind,
    Except.bind, if_neg hlt]

/-- A run of valid ids is read as the ids of the run. -/
theorem vlanEntry_rangeString {r : UInt16 × UInt16} (ordered : r.1 ≤ r.2)
    (hlow : VlanIdValid r.1) (hhigh : VlanIdValid r.2) :
    vlanEntry (.string (rangeString r)) = .ok (vlanRange r.1 r.2) := by
  obtain ⟨low, high⟩ := r
  unfold rangeString
  split
  · next heq =>
    obtain rfl : low = high := heq
    have hids : vlanRange low low = [low] := by simp [vlanRange]
    rw [vlanEntry, asU64_id, hids]
    show (checkVlanId low.toUInt64).map (fun id => [id]) = .ok [low]
    rw [checkVlanId_toUInt64 hlow]
    rfl
  · next hne =>
    have hlt : ¬ low ≥ high := fun hge => hne (UInt16.le_antisymm ordered hge)
    exact vlanEntry_of_bounds (asU64_range low high) (rangeBounds_range low high) hlow hhigh hlt

theorem vlanRange_sorted (low high : UInt16) : (vlanRange low high).Pairwise (· < ·) := by
  have hbound := high.toNat_lt
  rw [vlanRange, List.pairwise_map]
  refine List.Pairwise.imp_of_mem (fun {a b} ha hb hlt => ?_) List.pairwise_lt_range'
  rw [List.mem_range'_1] at ha hb
  rw [UInt16.lt_iff_toNat_lt, UInt16.toNat_ofNat_of_lt' (by show a < 2 ^ 16; omega),
    UInt16.toNat_ofNat_of_lt' (by show b < 2 ^ 16; omega)]
  exact hlt

end Texts

section Inverse

/-- What reading back the ranges of a set gives: increasing id lists, the later ones
above the earlier ones and not next to them, that are together the set. -/
structure IdLists (vlans : BTreeSet UInt16) (lists : List (List UInt16)) : Prop where
  increasing : ∀ ids ∈ lists, ids.Pairwise (· < ·)
  disjoint : lists.Pairwise List.Disjoint
  apart : lists.Pairwise fun earlier later =>
    ∀ v ∈ earlier, ∀ w ∈ later, v.toNat + 1 < w.toNat
  union : ∀ v, v ∈ vlans ↔ ∃ ids ∈ lists, v ∈ ids

/-- The runs of the set, each with its ids. -/
theorem idLists_runs (vlans : BTreeSet UInt16) :
    IdLists vlans
      ((vlans.toList.foldl addToRanges []).map fun r => vlanRange r.1 r.2) := by
  have hruns := runs_of_set vlans
  have hapart : ((vlans.toList.foldl addToRanges []).map fun r => vlanRange r.1 r.2).Pairwise
      fun earlier later => ∀ v ∈ earlier, ∀ w ∈ later, v.toNat + 1 < w.toNat := by
    rw [List.pairwise_map]
    refine (runs_apart vlans.toList (sorted_toList vlans)).imp fun {r s} hgap v hv w hw => ?_
    rw [mem_vlanRange, UInt16.le_iff_toNat_le, UInt16.le_iff_toNat_le] at hv hw
    have hgap : r.2.toNat + 1 < s.1.toNat := hgap
    omega
  refine ⟨fun ids hids => ?_, hapart.imp fun h v hv hw => ?_, hapart, fun v => ?_⟩
  · obtain ⟨r, -, rfl⟩ := List.mem_map.mp hids
    exact vlanRange_sorted r.1 r.2
  · have hlt := h v hv v hw
    omega
  · rw [← ExtTreeSet.mem_toList, ← hruns.contains v, InRanges]
    simp only [List.mem_map, exists_exists_and_eq_and, mem_vlanRange]

/-- `vlan_ranges` loses no id and adds none, and `high + 1` stays within a `u16` at each
id it takes; the ranges of valid ids are all accepted by `vlan_entry`, and read as the
maximal runs of the set. -/
theorem vlanRanges_inverse (vlans : BTreeSet UInt16) :
    (∀ done vlan rest low high, vlans.toList = done ++ vlan :: rest →
      (done.foldl addToRanges []).getLast? = some (low, high) → high.toNat + 1 < 2 ^ 16) ∧
    (∀ v, v ∈ vlans ↔ ∃ range ∈ vlanRanges ".." vlans, (Scalar.string range).covers v) ∧
    ((∀ v ∈ vlans, VlanIdValid v) →
      ∃ lists, List.Forall₂ (fun range ids => vlanEntry (.string range) = .ok ids)
        (vlanRanges ".." vlans) lists ∧ IdLists vlans lists) := by
  have hruns := runs_of_set vlans
  have htexts : vlanRanges ".." vlans = (vlans.toList.foldl addToRanges []).map rangeString := rfl
  refine ⟨fun done vlan rest low high hsplit hlast => ?_, fun v => ?_, fun hvalid => ?_⟩
  · have hsorted := sorted_toList vlans
    rw [hsplit] at hsorted
    have hlt := UInt16.lt_iff_toNat_lt.mp (runs_below hsorted hlast)
    have hbound := vlan.toNat_lt
    omega
  · rw [htexts, ← ExtTreeSet.mem_toList, ← hruns.contains v, InRanges]
    simp only [List.mem_map, exists_exists_and_eq_and]
    exact exists_congr fun r => and_congr_right fun hr =>
      (covers_rangeString r (hruns.ordered r hr) v).symm
  · refine ⟨_, ?_, idLists_runs vlans⟩
    have hbounds : ∀ r ∈ vlans.toList.foldl addToRanges [], VlanIdValid r.1 ∧ VlanIdValid r.2 := by
      intro r hr
      have hle := hruns.ordered r hr
      have hin : ∀ v, r.1 ≤ v ∧ v ≤ r.2 → VlanIdValid v := fun v hv =>
        hvalid v (ExtTreeSet.mem_toList.mp ((hruns.contains v).mp ⟨r, hr, hv⟩))
      exact ⟨hin r.1 ⟨UInt16.le_refl _, hle⟩, hin r.2 ⟨hle, UInt16.le_refl _⟩⟩
    rw [htexts, List.forall₂_map_left_iff, List.forall₂_map_right_iff, List.forall₂_same]
    intro r hr
    exact vlanEntry_rangeString (hruns.ordered r hr) (hbounds r hr).1 (hbounds r hr).2

def sevenVlans : BTreeSet UInt16 := .ofList [7, 1, 3, 2] compare

theorem vlanRanges_inverse_seven :
    vlanRanges ".." sevenVlans = ["1..3", "7"] ∧
    ∃ lists, List.Forall₂ (fun range ids => vlanEntry (.string range) = .ok ids)
      (vlanRanges ".." sevenVlans) lists ∧ IdLists sevenVlans lists := by
  refine ⟨by decide +kernel, (vlanRanges_inverse sevenVlans).2.2 fun v hv => ?_⟩
  have hmem : v = 7 ∨ v = 1 ∨ v = 3 ∨ v = 2 := by simpa [sevenVlans] using hv
  rcases hmem with rfl | rfl | rfl | rfl <;> exact ⟨by decide, by decide⟩

end Inverse
end ClixonSwitch.Guarantees
