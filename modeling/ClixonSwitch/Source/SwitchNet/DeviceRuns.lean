import ClixonSwitch.Source.SwitchNet.Devices

/-!
# The planner's lists on one device

What the two diffs of the planner, of bridge VLAN entries and of addresses, do to
a device when they run. The device may have lost entries since the diff was
computed; then a deletion can be refused, and an entry that the diff left alone
can be missing at the end.
-/
namespace ClixonSwitch.Source.SwitchNet
open Std Lib Source.SwitchModel

section Entries
variable (dev : String)

/-- What a new PVID entry does to the others. -/
def VlanFlags.clearPvid (f : VlanFlags) : VlanFlags := { f with pvid := false }

def addEntries (entries : List (UInt16 × VlanFlags)) (vlans : VlanMap) : VlanMap :=
  entries.foldl (fun vlans e => addEntry vlans e.1 e.2) vlans

/-- At most one entry is the PVID. -/
def SinglePvid (vlans : VlanMap) : Prop :=
  ∀ (v w : UInt16) (f g : VlanFlags), vlans[v]? = some f → vlans[w]? = some g →
    f.pvid = true → g.pvid = true → v = w

theorem addEntry_getElem? (vlans : VlanMap) (v : UInt16) (f : VlanFlags) (vid : UInt16) :
    (addEntry vlans v f)[vid]? = if v = vid then some f
      else if f.pvid then vlans[vid]?.map VlanFlags.clearPvid else vlans[vid]? := by
  simp only [addEntry, ExtTreeMap.getElem?_insert, Std.compare_eq_iff_eq]
  split
  · rfl
  · split
    · rw [ExtTreeMap.getElem?_map]
      rfl
    · rfl

/-- Entries added one by one under different ids, at most one of them the PVID:
all are there in the end, and the others have lost the PVID flag if a new one has it. -/
theorem addEntries_getElem? (entries : List (UInt16 × VlanFlags)) (vlans : VlanMap)
    (nodup : (entries.map Prod.fst).Nodup)
    (single : ∀ e ∈ entries, ∀ e' ∈ entries, e.2.pvid = true → e'.2.pvid = true → e.1 = e'.1) :
    (∀ e ∈ entries, (addEntries entries vlans)[e.1]? = some e.2) ∧
    ∀ vid : UInt16, vid ∉ entries.map Prod.fst → (addEntries entries vlans)[vid]? =
      if ∃ e ∈ entries, e.2.pvid = true then vlans[vid]?.map VlanFlags.clearPvid
      else vlans[vid]? := by
  induction entries generalizing vlans with
  | nil => simp [addEntries]
  | cons e rest ih =>
    rw [List.map_cons, List.nodup_cons] at nodup
    obtain ⟨hnew, nodup⟩ := nodup
    obtain ⟨hin, hout⟩ := ih (addEntry vlans e.1 e.2) nodup fun x hx y hy =>
      single x (by simp [hx]) y (by simp [hy])
    have hunfold : addEntries (e :: rest) vlans = addEntries rest (addEntry vlans e.1 e.2) := rfl
    rw [hunfold]
    refine ⟨fun x hx => ?_, fun vid hvid => ?_⟩
    · rcases List.mem_cons.mp hx with rfl | hx
      · rw [hout x.1 hnew, addEntry_getElem?, if_pos rfl]
        split
        · next hp =>
          obtain ⟨y, hy, hyp⟩ := hp
          have hx : x.2.pvid = false := by
            by_contra hne
            have hsame := single x (by simp) y (by simp [hy]) (by simpa using hne) hyp
            exact hnew (List.mem_map.mpr ⟨y, hy, hsame.symm⟩)
          simp [VlanFlags.clearPvid, ← hx]
        · rfl
      · exact hin x hx
    · simp only [List.map_cons, List.mem_cons, not_or] at hvid
      rw [hout vid hvid.2, addEntry_getElem?, if_neg (Ne.symm hvid.1)]
      simp only [List.mem_cons, exists_eq_or_imp]
      by_cases hp : ∃ y ∈ rest, y.2.pvid = true
      · by_cases he : e.2.pvid = true
        · simp only [hp, he, if_true, or_self, Option.map_map]
          rfl
        · simp [hp, he]
      · simp [hp]

theorem runLocal_addEntries (entries : List (UInt16 × VlanFlags)) (d : Device)
    (takes : d.link.any Link.takesVlans = true) :
    runLocal act (entries.map fun e => Op.addBridgeVlan dev e.1 e.2) d =
      some { d with vlans := addEntries entries d.vlans } := by
  induction entries generalizing d with
  | nil => rfl
  | cons e rest ih =>
    simp only [List.map_cons, runLocal_cons, act, takes, if_true, Option.bind_some]
    exact ih { d with vlans := addEntry d.vlans e.1 e.2 } takes

theorem runLocal_delEntries (vids : List UInt16) (d : Device) (nodup : vids.Nodup) :
    ((∀ v ∈ vids, v ∈ d.vlans) → ∃ vlans : VlanMap,
      runLocal act (vids.map (Op.delBridgeVlan dev)) d = some { d with vlans } ∧
      ∀ vid : UInt16, vlans[vid]? = if vid ∈ vids then none else d.vlans[vid]?) ∧
    ((∃ v ∈ vids, v ∉ d.vlans) → runLocal act (vids.map (Op.delBridgeVlan dev)) d = none) := by
  induction vids generalizing d with
  | nil => exact ⟨fun _ => ⟨d.vlans, rfl, by simp⟩, by simp⟩
  | cons v rest ih =>
    obtain ⟨hnew, nodup⟩ := List.nodup_cons.mp nodup
    simp only [List.map_cons, runLocal_cons, act]
    by_cases hv : v ∈ d.vlans
    · have hc : d.vlans.contains v = true := by simpa using hv
      simp only [hc, if_true, Option.bind_some]
      obtain ⟨hok, hfail⟩ := ih { d with vlans := d.vlans.erase v } nodup
      have hkeep : ∀ w ∈ rest, (w ∈ d.vlans.erase v ↔ w ∈ d.vlans) := by
        intro w hw
        have hne : v ≠ w := fun h => hnew (h ▸ hw)
        simp [ExtTreeMap.mem_erase, hne]
      refine ⟨fun hall => ?_, fun hex => ?_⟩
      · obtain ⟨vlans, hrun, hlook⟩ := hok fun w hw => (hkeep w hw).mpr (hall w (by simp [hw]))
        refine ⟨vlans, hrun, fun vid => ?_⟩
        simp only [hlook, ExtTreeMap.getElem?_erase, Std.compare_eq_iff_eq, List.mem_cons]
        by_cases hr : vid ∈ rest
        · simp [hr]
        · by_cases heq : v = vid
          · simp [heq]
          · simp [hr, heq, Ne.symm heq]
      · refine hfail ?_
        obtain ⟨w, hw, hno⟩ := hex
        rcases List.mem_cons.mp hw with rfl | hw
        · exact absurd hv hno
        · exact ⟨w, hw, fun h => hno ((hkeep w hw).mp h)⟩
    · have hc : d.vlans.contains v = false := Bool.eq_false_iff.mpr (by simpa using hv)
      refine ⟨fun hall => absurd (hall v (by simp)) hv, fun _ => ?_⟩
      simp [hc]

/-- The entries that `syncVlans` adds, in its order. -/
def missingEntries (present want : VlanMap) : List (UInt16 × VlanFlags) :=
  ((want.toList.partition fun e => e.2.pvid).1 ++ (want.toList.partition fun e => e.2.pvid).2).filter
    fun e => present[e.1]? != some e.2

/-- The ids that `syncVlans` deletes. -/
def unwantedVids (present want : VlanMap) : List UInt16 :=
  present.keys.filter fun vid => !want.contains vid

theorem syncVlans_eq (present want : VlanMap) :
    syncVlans dev present want =
      (missingEntries present want).map (fun e => Op.addBridgeVlan dev e.1 e.2) ++
        (unwantedVids present want).map (Op.delBridgeVlan dev) := rfl

theorem mem_missingEntries (present want : VlanMap) (vid : UInt16) (flags : VlanFlags) :
    (vid, flags) ∈ missingEntries present want ↔
      want[vid]? = some flags ∧ present[vid]? ≠ some flags := by
  simp only [missingEntries, List.partition_eq_filter_filter, List.mem_filter, List.mem_append,
    ExtTreeMap.mem_toList_iff_getElem?_eq_some, bne_iff_ne]
  refine and_congr_left' ⟨fun h => h.elim And.left And.left, fun h => ?_⟩
  cases hp : flags.pvid
  · exact Or.inr ⟨h, by simp [hp]⟩
  · exact Or.inl ⟨h, by simp⟩

theorem missingEntries_nodup (present want : VlanMap) :
    ((missingEntries present want).map Prod.fst).Nodup := by
  have hkeys := want.nodup_fst
  have hperm : ((want.toList.partition fun e => e.2.pvid).1 ++
      (want.toList.partition fun e => e.2.pvid).2).Perm want.toList := by
    rw [List.partition_eq_filter_filter]
    exact List.filter_append_perm _ _
  exact ((hperm.map Prod.fst).nodup_iff.mpr hkeys).sublist (List.filter_sublist.map _)

theorem mem_unwantedVids (present want : VlanMap) (vid : UInt16) :
    vid ∈ unwantedVids present want ↔ vid ∈ present ∧ vid ∉ want := by
  simp [unwantedVids, BTreeMap.contains_eq_false]

/-- The VLAN diff on a device whose entries are those it was computed from, or
fewer. It runs exactly if no entry that it deletes is already gone; then the
wanted entries are there, except those that were right at first and are gone. -/
theorem runLocal_syncVlans (present want : VlanMap) (d : Device)
    (takes : d.link.any Link.takesVlans = true) (single : SinglePvid want)
    (fewer : ∀ vid : UInt16, d.vlans[vid]? = present[vid]? ∨ d.vlans[vid]? = none) :
    ((∀ vid, vid ∈ present → vid ∉ want → vid ∈ d.vlans) → ∃ vlans : VlanMap,
      runLocal act (syncVlans dev present want) d = some { d with vlans } ∧
      ∀ vid : UInt16, vlans[vid]? =
        if present[vid]? = want[vid]? then d.vlans[vid]? else want[vid]?) ∧
    ((∃ vid, vid ∈ present ∧ vid ∉ want ∧ vid ∉ d.vlans) →
      runLocal act (syncVlans dev present want) d = none) := by
  obtain ⟨hadded, hothers⟩ := addEntries_getElem? (missingEntries present want) d.vlans
    (missingEntries_nodup present want) (fun e he e' he' hp hp' => by
      obtain ⟨hw, -⟩ := (mem_missingEntries present want e.1 e.2).mp he
      obtain ⟨hw', -⟩ := (mem_missingEntries present want e'.1 e'.2).mp he'
      exact single _ _ _ _ hw hw' hp hp')
  have hmissing : ∀ vid : UInt16, vid ∉ (missingEntries present want).map Prod.fst ↔
      ∀ flags, want[vid]? = some flags → present[vid]? = some flags := by
    intro vid
    simp only [List.mem_map, Prod.exists, exists_and_right, exists_eq_right, mem_missingEntries,
      not_exists, not_and, not_not]
  have hstays : ∀ vid : UInt16, vid ∉ want →
      (vid ∈ addEntries (missingEntries present want) d.vlans ↔ vid ∈ d.vlans) := by
    intro vid hno
    have hnone := (BTreeMap.not_mem_iff want vid).mp hno
    have hout := hothers vid ((hmissing vid).mpr (by simp [hnone]))
    rw [← ExtTreeMap.isSome_getElem?_iff_mem, ← ExtTreeMap.isSome_getElem?_iff_mem, hout]
    split <;> simp
  rw [syncVlans_eq, runLocal_append, runLocal_addEntries dev _ d takes, Option.bind_some]
  obtain ⟨hok, hfail⟩ := runLocal_delEntries dev (unwantedVids present want)
    { d with vlans := addEntries (missingEntries present want) d.vlans }
    (present.nodup_keys.filter _)
  refine ⟨fun hall => ?_, fun ⟨vid, hp, hno, hgone⟩ => ?_⟩
  · obtain ⟨vlans, hrun, hlook⟩ := hok fun v hv => by
      obtain ⟨hp, hno⟩ := (mem_unwantedVids present want v).mp hv
      exact (hstays v hno).mpr (hall v hp hno)
    refine ⟨vlans, hrun, fun vid => ?_⟩
    rw [hlook vid]
    simp only [mem_unwantedVids]
    cases hw : want[vid]? with
    | none =>
      have hno := (BTreeMap.not_mem_iff want vid).mpr hw
      by_cases hp : vid ∈ present
      · simp [hp, hno]
      · have hnone := (BTreeMap.not_mem_iff present vid).mp hp
        have hgone : d.vlans[vid]? = none := by rcases fewer vid with h | h <;> simp [h, hnone]
        have hout := hothers vid ((hmissing vid).mpr (by simp [hw]))
        simp only [hp, false_and, if_false, hnone, if_true, hout, hgone]
        split <;> rfl
    | some f =>
      have hin : vid ∈ want := (BTreeMap.mem_iff want vid).mpr ⟨f, hw⟩
      simp only [hin, not_true, and_false, if_false]
      by_cases hp : present[vid]? = some f
      · rw [if_pos hp]
        have hout := hothers vid ((hmissing vid).mpr (by simp [hw, hp]))
        rw [hout]
        split
        · next hpvid =>
          -- The entry keeps its flags: the new PVID is another one, so this is none.
          obtain ⟨e, he, hep⟩ := hpvid
          obtain ⟨hew, hedge⟩ := (mem_missingEntries present want e.1 e.2).mp he
          have hf : f.pvid = false := by
            by_contra hne
            have hsame := single _ _ _ _ hw hew (by simpa using hne) hep
            rw [← hsame, hw] at hew
            exact hedge (by rw [← hsame, hp, hew])
          rcases fewer vid with h | h
          · simp [h, hp, VlanFlags.clearPvid, ← hf]
          · simp [h]
        · rfl
      · rw [if_neg hp]
        exact hadded (vid, f) ((mem_missingEntries present want vid f).mpr ⟨hw, hp⟩)
  · exact hfail ⟨vid, (mem_unwantedVids present want vid).mpr ⟨hp, hno⟩,
      fun h => hgone ((hstays vid hno).mp h)⟩

end Entries

section Addresses
variable (dev : String)

/-- No prefix is both permanent and leased. -/
def Device.Disjoint (d : Device) : Prop := ∀ p, p ∈ d.addresses → p ∉ d.leases

/-- Deleting different addresses that are all there, permanent or leased. -/
theorem runLocal_delAddresses (ps : List Ipv4Prefix) (d : Device) (nodup : ps.Nodup)
    (there : ∀ p ∈ ps, p ∈ d.addresses ∨ p ∈ d.leases) :
    ∃ addresses leases, runLocal act (ps.map (Op.delAddress dev)) d =
        some { d with addresses, leases } ∧
      (∀ p, p ∈ addresses ↔ p ∈ d.addresses ∧ p ∉ ps) ∧
      ∀ p, p ∈ leases ↔ p ∈ d.leases ∧ p ∉ ps := by
  induction ps generalizing d with
  | nil => exact ⟨d.addresses, d.leases, rfl, by simp, by simp⟩
  | cons p rest ih =>
    obtain ⟨hnew, nodup⟩ := List.nodup_cons.mp nodup
    have hc : (d.addresses.contains p || d.leases.contains p) = true := by
      simpa using there p (by simp)
    have hne : ∀ q ∈ rest, p ≠ q := fun q hq h => hnew (h ▸ hq)
    obtain ⟨addresses, leases, hrun, haddr, hlease⟩ :=
      ih { d with addresses := d.addresses.erase p, leases := d.leases.erase p } nodup
        (fun q hq => by simpa [hne q hq] using there q (by simp [hq]))
    refine ⟨addresses, leases, ?_, fun q => ?_, fun q => ?_⟩
    · simp only [List.map_cons, runLocal_cons, act, hc, if_true, Option.bind_some]
      exact hrun
    · rw [haddr q]
      simp only [BTreeSet.mem_erase_iff, List.mem_cons, not_or]
      tauto
    · rw [hlease q]
      simp only [BTreeMap.mem_erase_iff, List.mem_cons, not_or]
      tauto

/-- Adding different addresses that are not there; one that is leased is deleted
right before. -/
theorem runLocal_addAddresses (leased : Ipv4Prefix → Bool) (ps : List Ipv4Prefix) (d : Device)
    (nodup : ps.Nodup) (exist : d.link.isSome = true) (absent : ∀ p ∈ ps, p ∉ d.addresses)
    (hleased : ∀ p ∈ ps, (leased p = true ↔ p ∈ d.leases)) :
    ∃ addresses leases, runLocal act (ps.flatMap fun p =>
        (if leased p then [Op.delAddress dev p] else []) ++ [Op.addAddress dev p]) d =
        some { d with addresses, leases } ∧
      (∀ p, p ∈ addresses ↔ p ∈ d.addresses ∨ p ∈ ps) ∧
      ∀ p, p ∈ leases ↔ p ∈ d.leases ∧ p ∉ ps := by
  induction ps generalizing d with
  | nil => exact ⟨d.addresses, d.leases, rfl, by simp, by simp⟩
  | cons p rest ih =>
    obtain ⟨hnew, nodup⟩ := List.nodup_cons.mp nodup
    have hne : ∀ q ∈ rest, p ≠ q := fun q hq h => hnew (h ▸ hq)
    have habsent : d.addresses.contains p = false :=
      (BTreeSet.contains_eq_false _ _).mpr (absent p (by simp))
    have hstep : ∃ addresses leases, runLocal act
        ((if leased p then [Op.delAddress dev p] else []) ++ [Op.addAddress dev p]) d =
        some { d with addresses, leases } ∧ (∀ q, q ∈ addresses ↔ q ∈ d.addresses ∨ q = p) ∧
        ∀ q, q ∈ leases ↔ q ∈ d.leases ∧ q ≠ p := by
      cases hl : leased p with
      | true =>
        have hin : p ∈ d.leases := (hleased p (by simp)).mp hl
        have hc : d.leases.contains p = true := by simpa using hin
        refine ⟨(d.addresses.erase p).insert p, d.leases.erase p, ?_, fun q => ?_, fun q => ?_⟩
        · simp [act, hc, exist]
        · rw [BTreeSet.mem_insert_iff, BTreeSet.mem_erase_iff]
          tauto
        · rw [BTreeMap.mem_erase_iff, and_comm]
      | false =>
        have hno : p ∉ d.leases := fun h => by simp [(hleased p (by simp)).mpr h] at hl
        have hc : d.leases.contains p = false := (BTreeMap.contains_eq_false _ _).mpr hno
        refine ⟨d.addresses.insert p, d.leases, ?_, fun q => ?_, fun q => ?_⟩
        · simp [act, hc, habsent, exist]
        · rw [BTreeSet.mem_insert_iff, or_comm]
        · refine ⟨fun h => ⟨h, fun heq => hno (heq ▸ h)⟩, And.left⟩
    obtain ⟨addresses₁, leases₁, hrun₁, haddr₁, hlease₁⟩ := hstep
    obtain ⟨addresses, leases, hrun, haddr, hlease⟩ :=
      ih { d with addresses := addresses₁, leases := leases₁ } nodup exist
        (fun q hq h => by
          rcases (haddr₁ q).mp h with h | h
          · exact absent q (by simp [hq]) h
          · exact hne q hq h.symm)
        (fun q hq => by
          rw [hleased q (by simp [hq]), hlease₁ q]
          exact ⟨fun h => ⟨h, (hne q hq).symm⟩, And.left⟩)
    refine ⟨addresses, leases, ?_, fun q => ?_, fun q => ?_⟩
    · rw [List.flatMap_cons, runLocal_append, hrun₁, Option.bind_some, hrun]
    · rw [haddr q, haddr₁ q, List.mem_cons, or_assoc]
    · rw [hlease q, hlease₁ q, List.mem_cons, not_or, and_assoc]

section Diff
variable (svi : Svi) (present : BTreeSet Ipv4Prefix) (dhcp : BTreeMap Ipv4Prefix UInt32)

def missingAddresses : List Ipv4Prefix := svi.addresses.toList.filter fun p => !present.contains p

/-- Permanent addresses that are not configured, and without the client such leases. -/
def unwantedAddresses : List Ipv4Prefix :=
  present.toList.filter (fun p => !svi.addresses.contains p) ++
    if svi.dhcpClient then [] else dhcp.keys.filter fun p => !svi.addresses.contains p

/-- The operations that add the missing addresses. -/
def addMissing : List Op :=
  (missingAddresses svi present).flatMap fun p =>
    (if dhcp.contains p then [Op.delAddress dev p] else []) ++ [Op.addAddress dev p]

theorem syncAddresses_eq : syncAddresses dev svi present dhcp =
    addMissing dev svi present dhcp ++ (unwantedAddresses svi present dhcp).map (.delAddress dev) := by
  cases hd : svi.dhcpClient <;>
    simp [syncAddresses, addMissing, missingAddresses, unwantedAddresses, hd]

theorem mem_missingAddresses (p : Ipv4Prefix) :
    p ∈ missingAddresses svi present ↔ p ∈ svi.addresses ∧ p ∉ present := by
  simp [missingAddresses, BTreeSet.contains_eq_false]

theorem mem_unwantedAddresses (p : Ipv4Prefix) : p ∈ unwantedAddresses svi present dhcp ↔
    p ∉ svi.addresses ∧ (p ∈ present ∨ svi.dhcpClient = false ∧ p ∈ dhcp) := by
  cases hd : svi.dhcpClient <;>
    simp [unwantedAddresses, hd, BTreeSet.contains_eq_false] <;> tauto

theorem unwantedAddresses_nodup (disjoint : ∀ p, p ∈ present → p ∉ dhcp) :
    (unwantedAddresses svi present dhcp).Nodup := by
  refine List.nodup_append.mpr ⟨(BTreeSet.nodup_toList _).filter _, ?_, fun p hp q hq heq => ?_⟩
  · split
    · exact List.nodup_nil
    · exact (BTreeMap.nodup_keys _).filter _
  · subst heq
    have hpresent : p ∈ present := by simpa using (List.mem_filter.mp hp).1
    split at hq
    · cases hq
    · exact disjoint p hpresent (ExtTreeMap.mem_keys.mp (List.mem_filter.mp hq).1)

/-- Adding what is missing on the device that it was computed from. -/
theorem runLocal_addMissing (d : Device) (exist : d.link.isSome = true) :
    ∃ addresses leases, runLocal act (addMissing dev svi d.addresses d.leases) d =
        some { d with addresses, leases } ∧
      (∀ p, p ∈ addresses ↔ p ∈ d.addresses ∨ p ∈ svi.addresses) ∧
      ∀ p, p ∈ leases ↔ p ∈ d.leases ∧ (p ∈ svi.addresses → p ∈ d.addresses) := by
  obtain ⟨addresses, leases, hrun, haddr, hlease⟩ := runLocal_addAddresses dev
    (fun p => d.leases.contains p) (missingAddresses svi d.addresses) d
    ((BTreeSet.nodup_toList _).filter _) exist
    (fun p hp => ((mem_missingAddresses svi d.addresses p).mp hp).2) (fun p _ => by simp)
  refine ⟨addresses, leases, hrun, fun p => ?_, fun p => ?_⟩
  · rw [haddr p, mem_missingAddresses]
    tauto
  · rw [hlease p, mem_missingAddresses]
    tauto

end Diff

/-- The address diff runs on the device it was computed from. It leaves the
configured addresses, and only for a DHCP client the leases that are not among them. -/
theorem runLocal_syncAddresses (svi : Svi) (d : Device) (exist : d.link.isSome = true)
    (disjoint : d.Disjoint) :
    ∃ addresses leases, runLocal act (syncAddresses dev svi d.addresses d.leases) d =
        some { d with addresses, leases } ∧
      (∀ p, p ∈ addresses ↔ p ∈ svi.addresses) ∧
      ∀ p, p ∈ leases ↔ p ∈ d.leases ∧ p ∉ svi.addresses ∧ svi.dhcpClient = true := by
  obtain ⟨addresses₁, leases₁, hrun₁, haddr₁, hlease₁⟩ := runLocal_addMissing dev svi d exist
  obtain ⟨addresses, leases, hrun, haddr, hlease⟩ := runLocal_delAddresses dev
    (unwantedAddresses svi d.addresses d.leases)
    { d with addresses := addresses₁, leases := leases₁ }
    (unwantedAddresses_nodup svi _ _ disjoint) (fun p hp => by
      obtain ⟨hno, hin | ⟨-, hin⟩⟩ := (mem_unwantedAddresses _ _ _ p).mp hp
      · exact Or.inl ((haddr₁ p).mpr (Or.inl hin))
      · exact Or.inr ((hlease₁ p).mpr ⟨hin, fun h => absurd h hno⟩))
  refine ⟨addresses, leases, ?_, fun p => ?_, fun p => ?_⟩
  · rw [syncAddresses_eq, runLocal_append, hrun₁, Option.bind_some, hrun]
  · have hd := disjoint p
    rw [haddr p, haddr₁ p, mem_unwantedAddresses]
    tauto
  · have hd := disjoint p
    rw [hlease p, hlease₁ p, mem_unwantedAddresses]
    cases svi.dhcpClient <;> simp <;> tauto

end Addresses

end ClixonSwitch.Source.SwitchNet
