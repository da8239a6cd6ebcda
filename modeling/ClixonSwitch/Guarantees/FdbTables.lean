import ClixonSwitch.Source.SwitchModel.Mib

/-!
# The forwarding tables of Q-BRIDGE-MIB

dot1qTpFdbTable has the VLANs of the forwarding database, dot1qFdbTable those that the
kernel has on configured ports. They belong together exactly if the database has no entry
in another VLAN; the bridge's own address in the VLAN of an SVI that no port carries is one.
-/
namespace ClixonSwitch.Guarantees
open Std Lib Source.SwitchModel Source.SwitchModel.Mib

/-- The entry is a learned one in the VLAN. -/
def learnedIn (vid : UInt16) (e : FdbEntry) : Bool :=
  e.vlan == some vid && e.status == .learned

/-- Every address has the row of its database, and every row the number of its learned
addresses. -/
structure FdbConsistent (fdb : List QFdbEntry) (tpFdb : List QTpFdbEntry) : Prop where
  row : ∀ e ∈ tpFdb, fdb.countP (fun r => r.fdbId == e.fdbId) = 1
  dynamic : ∀ r ∈ fdb, r.dynamicCount.toNat =
    tpFdb.countP fun e => e.fdbId == r.fdbId && e.status == .learned

section Counts

/-- The counter is a 32-bit one. -/
theorem dynamicCounts_toNat (fdb : List FdbEntry) (vid : UInt16) :
    ((dynamicCounts fdb).getD vid 0).toNat = fdb.countP (learnedIn vid) % 2 ^ 32 := by
  have general : ∀ (fdb : List FdbEntry) (counts : BTreeMap UInt16 UInt32),
      ((fdb.foldl countLearned counts).getD vid 0).toNat =
        ((counts.getD vid 0).toNat + fdb.countP (learnedIn vid)) % 2 ^ 32 := by
    intro fdb
    induction fdb with
    | nil =>
      intro counts
      exact (Nat.mod_eq_of_lt (UInt32.toNat_lt _)).symm
    | cons e rest ih =>
      intro counts
      obtain ⟨mac, vlan, port, status⟩ := e
      rw [List.foldl_cons, ih, List.countP_cons]
      cases vlan with
      | none => simp [countLearned, learnedIn]
      | some v =>
        cases status with
        | learned =>
          by_cases hv : v = vid
          · subst hv
            simp only [countLearned, learnedIn, ExtTreeMap.getD_insert_self, UInt32.toNat_add,
              beq_self_eq_true, Bool.and_self, if_true, UInt32.toNat_one]
            omega
          · simp [countLearned, learnedIn, ExtTreeMap.getD_insert, hv]
        | _ => simp [countLearned, learnedIn]
  simpa [dynamicCounts] using general fdb ∅

theorem tpFdbTable_countP (numbers : BTreeMap String UInt16) (fdb : List FdbEntry) (vid : UInt16) :
    (tpFdbTable numbers fdb).countP (fun e => e.fdbId == vid && e.status == .learned) =
      fdb.countP (learnedIn vid) := by
  rw [tpFdbTable, List.countP_filterMap]
  congr 1
  funext e
  cases hv : e.vlan <;> simp [learnedIn, hv]

theorem fdbTable_countP (current : BTreeMap UInt16 (BTreeMap String Bool)) (fdb : List FdbEntry)
    (vid : UInt16) :
    (fdbTable current fdb).countP (fun r => r.fdbId == vid) = if vid ∈ current then 1 else 0 := by
  rw [fdbTable, List.countP_map]
  have hcount : current.keys.count vid = if vid ∈ current then 1 else 0 := by
    rw [List.Nodup.count (BTreeMap.nodup_keys current)]
    simp only [ExtTreeMap.mem_keys]
  rw [← hcount]
  rfl

end Counts

/-- A VLAN that the kernel has on a configured port. -/
def carriedVlan (info : BridgeInfo) (vid : UInt16) : Prop :=
  ∃ port vlans, port ∈ info.applied.ports ∧ info.portVlans[port]? = some vlans ∧ vid ∈ vlans.vlans

theorem mem_currentVlans_iff (info : BridgeInfo) (vid : UInt16) :
    vid ∈ currentVlans info (portNumbers info.applied.ports.keys) ↔ carriedVlan info vid := by
  rw [mem_currentVlans]
  constructor
  · rintro ⟨port, untagged, hport, hvlan⟩
    obtain ⟨vlans, hvlans, huntagged⟩ := Option.bind_eq_some_iff.mp hvlan
    rw [mem_portNumbers, ExtTreeMap.mem_keys] at hport
    exact ⟨port, vlans, hport, hvlans, (BTreeMap.mem_iff _ _).mpr ⟨untagged, huntagged⟩⟩
  · rintro ⟨port, vlans, hport, hvlans, hvid⟩
    obtain ⟨untagged, huntagged⟩ := (BTreeMap.mem_iff _ _).mp hvid
    refine ⟨port, untagged, ?_, Option.bind_eq_some_iff.mpr ⟨vlans, hvlans, huntagged⟩⟩
    rwa [mem_portNumbers, ExtTreeMap.mem_keys]

/-- The tables are consistent exactly if every VLAN of the database is on a configured port
in the kernel, and no counter overflows. -/
theorem fdbTables_consistent_iff (info : BridgeInfo) (fdb : List FdbEntry)
    (read : info.fdb = some fdb) :
    ∃ mib rows addresses,
      qBridge info (portNumbers info.applied.ports.keys) = some mib ∧
      mib.fdb = some (rows, addresses) ∧
      (FdbConsistent rows addresses ↔
        (∀ e ∈ fdb, ∀ vid, e.vlan = some vid → carriedVlan info vid) ∧
        ∀ vid, carriedVlan info vid → fdb.countP (learnedIn vid) < 2 ^ 32) := by
  have hnumbered := portNumbers_numbered (BTreeMap.nodup_keys info.applied.ports)
  obtain ⟨mib, hmib, -⟩ := qBridge_some hnumbered info
  have hfdb : mib.fdb = some
      (fdbTable (currentVlans info (portNumbers info.applied.ports.keys)) fdb,
        tpFdbTable (portNumbers info.applied.ports.keys) fdb) := by
    simp only [qBridge, Option.bind_eq_bind, Option.bind_eq_some_iff] at hmib
    obtain ⟨current, -, table, -, hmib⟩ := hmib
    cases hmib
    rw [read]
    rfl
  refine ⟨mib, _, _, hmib, hfdb, ?_⟩
  constructor
  · intro consistent
    constructor
    · intro e he vid hvid
      have hrow := consistent.row ⟨vid, e.mac, _, e.status⟩
        (List.mem_filterMap.mpr ⟨e, he, by rw [hvid]; rfl⟩)
      rw [fdbTable_countP] at hrow
      rw [← mem_currentVlans_iff]
      by_contra hno
      rw [if_neg hno] at hrow
      cases hrow
    · intro vid hcarried
      have hdynamic := consistent.dynamic ⟨vid, _⟩ (List.mem_map.mpr
        ⟨vid, ExtTreeMap.mem_keys.mpr ((mem_currentVlans_iff info vid).mpr hcarried), rfl⟩)
      rw [tpFdbTable_countP, dynamicCounts_toNat] at hdynamic
      rw [← hdynamic]
      exact Nat.mod_lt _ (by decide)
  · rintro ⟨hvlans, hcounts⟩
    constructor
    · intro row hrow
      obtain ⟨e, he, hentry⟩ := List.mem_filterMap.mp hrow
      obtain ⟨vid, hvid, rfl⟩ := Option.map_eq_some_iff.mp hentry
      rw [fdbTable_countP, if_pos ((mem_currentVlans_iff info vid).mpr (hvlans e he vid hvid))]
    · intro row hrow
      obtain ⟨vid, hvid, rfl⟩ := List.mem_map.mp hrow
      rw [ExtTreeMap.mem_keys, mem_currentVlans_iff] at hvid
      rw [tpFdbTable_countP, dynamicCounts_toNat, Nat.mod_eq_of_lt (hcounts vid hvid)]

/-- A port with two learned addresses and the bridge's own, all in VLAN 20. -/
def learnedInfo : BridgeInfo where
  applied := { ports := BTreeMap.collect [("lan1", ⟨true, some 20, ∅⟩)] }
  portVlans := BTreeMap.collect [("lan1", ⟨some 20, BTreeMap.collect [(20, true)]⟩)]
  fdb := some [⟨[2, 0, 0, 0, 0, 1], some 20, "lan1", .learned⟩,
    ⟨[2, 0, 0, 0, 0, 2], some 20, "lan1", .learned⟩, ⟨[2, 0, 0, 0, 0, 9], some 20, "br-lan", .own⟩]

theorem fdbTables_consistent_iff_learned : ∃ mib rows addresses,
    qBridge learnedInfo (portNumbers learnedInfo.applied.ports.keys) = some mib ∧
      mib.fdb = some (rows, addresses) ∧ FdbConsistent rows addresses := by
  obtain ⟨mib, rows, addresses, hmib, hfdb, hiff⟩ := fdbTables_consistent_iff learnedInfo _ rfl
  have hcarried : carriedVlan learnedInfo 20 :=
    ⟨"lan1", ⟨some 20, BTreeMap.collect [(20, true)]⟩, by decide +kernel, by decide +kernel,
      by decide +kernel⟩
  refine ⟨mib, rows, addresses, hmib, hfdb, hiff.mpr ⟨fun e he vid hvid => ?_, fun vid _ => ?_⟩⟩
  · have hall : ∀ e ∈ learnedInfo.fdb.getD [], e.vlan = some 20 := by decide
    have hsame : some vid = some 20 := hvid.symm.trans (hall e he)
    rwa [Option.some.inj hsame]
  · exact Nat.lt_of_le_of_lt List.countP_le_length (by decide)

/-- An SVI on VLAN 10, which no port carries: the bridge has its address in VLAN 10. -/
def lonelySviInfo : BridgeInfo where
  applied :=
    { vlans := BTreeMap.collect [(10, ⟨none, true⟩), (20, ⟨none, true⟩)]
      ports := BTreeMap.collect [("lan1", ⟨true, some 20, ∅⟩)]
      svis := BTreeMap.collect [("vlan10", ⟨true, 10, ∅, true⟩)] }
  portVlans := BTreeMap.collect [("lan1", ⟨some 20, BTreeMap.collect [(20, true)]⟩)]
  fdb := some [⟨[2, 0, 0, 0, 0, 9], some 10, "br-lan", .own⟩]

/-- Its address has a row in dot1qTpFdbTable, and its database none in dot1qFdbTable. -/
theorem fdbTables_lonely_svi : ∃ mib,
    qBridge lonelySviInfo (portNumbers lonelySviInfo.applied.ports.keys) = some mib ∧
      mib.fdb = some ([⟨20, 0⟩], [⟨10, [2, 0, 0, 0, 0, 9], 0, .own⟩]) ∧
      ¬ FdbConsistent [⟨20, 0⟩] [⟨10, [2, 0, 0, 0, 0, 9], 0, .own⟩] := by
  have hnumbered := portNumbers_numbered (BTreeMap.nodup_keys lonelySviInfo.applied.ports)
  obtain ⟨mib, hmib, -⟩ := qBridge_some hnumbered lonelySviInfo
  have htables : (qBridge lonelySviInfo (portNumbers lonelySviInfo.applied.ports.keys)).bind
      QBridgeMib.fdb = some ([⟨20, 0⟩], [⟨10, [2, 0, 0, 0, 0, 9], 0, .own⟩]) := by decide +kernel
  rw [hmib] at htables
  refine ⟨mib, hmib, htables, fun consistent => ?_⟩
  exact absurd (consistent.row _ List.mem_cons_self) (by decide)

end ClixonSwitch.Guarantees
