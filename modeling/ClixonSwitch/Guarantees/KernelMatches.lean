import ClixonSwitch.Source.SwitchNet.FakeNet
import ClixonSwitch.Source.SwitchNet.Runs

/-!
# An empty plan means a matching kernel

`Matches` says what a kernel that carries a desired state looks like, without
reference to the planner. The planner and `platform_ops` have nothing to do
exactly in the matching states, so a successful `reconcile` has observed one.
-/
namespace ClixonSwitch.Guarantees
open Std Lib Source.SwitchModel Source.SwitchNet

/-- Bridge VLAN entry of a device for one VLAN. -/
def vlanEntry (s : ActualState) (dev : String) (vid : UInt16) : Option VlanFlags :=
  (s.bridgeVlans.getD dev ∅)[vid]?

def hasAddress (s : ActualState) (dev : String) (p : Ipv4Prefix) : Prop :=
  p ∈ s.addresses.getD dev ∅

def hasLease (s : ActualState) (dev : String) (p : Ipv4Prefix) : Prop :=
  p ∈ s.dhcpAddresses.getD dev ∅

/-- The entry a port should have: its native VLAN as untagged PVID, its other
VLANs tagged. -/
def portEntry (port : Port) (vid : UInt16) : Option VlanFlags :=
  if port.nativeVlan = some vid then some access
  else if vid ∈ port.taggedVlans then some tagged
  else none

/-- `lo` or the conduit of a switch port. -/
def isPlatform (s : ActualState) (name : String) : Prop :=
  name = "lo" ∨ ∃ (port : String) (link : Link),
    s.links[port]? = some link ∧ link.kind = .dsa (some name)

/-- The kernel carries the desired state. -/
structure Matches (desired : DesiredState) (s : ActualState) : Prop where
  bridge : ∃ stp master, s.links[bridgeName]? = some ⟨.bridge ⟨true, 0, true, stp⟩, true, master⟩ ∧
    stp = if desired.stp.isSome then .user else .off
  sviLinks : ∀ (name : String) (id : UInt16) (up : Bool) (master : Option String),
    s.links[name]? = some ⟨.vlan bridgeName id, up, master⟩ → name ∈ desired.svis
  svis : ∀ (name : String) (svi : Svi), desired.svis[name]? = some svi →
    ∃ master, s.links[name]? = some ⟨.vlan bridgeName svi.vlan, svi.enabled, master⟩
  ports : ∀ (name : String) (link : Link) (port : Port), s.links[name]? = some link →
    link.kind.isDsa = true → desired.ports[name]? = some port →
    link.master = some bridgeName ∧ link.up = port.enabled ∧
      ∀ vid, vlanEntry s name vid = portEntry port vid
  otherPorts : ∀ (name : String) (link : Link), s.links[name]? = some link →
    link.kind.isDsa = true → name ∉ desired.ports → link.master = none ∧ link.up = false
  selfEntries : ∀ (vid : UInt16) (flags : VlanFlags), vlanEntry s bridgeName vid = some flags ↔
    flags = tagged ∧ desired.vlanActive vid = true ∧
      ∃ (name : String) (svi : Svi), desired.svis[name]? = some svi ∧ svi.vlan = vid
  addresses : ∀ (name : String) (svi : Svi), desired.svis[name]? = some svi →
    ∀ p, hasAddress s name p ↔ p ∈ svi.addresses
  leases : ∀ (name : String) (svi : Svi), desired.svis[name]? = some svi →
    svi.dhcpClient = false → ∀ p, hasLease s name p → p ∈ svi.addresses
  unaddressed : ∀ dev, dev = bridgeName ∨ dev ∈ s.switchPorts →
    ∀ p, ¬ hasAddress s dev p ∧ ¬ hasLease s dev p
  platform : ∀ (name : String) (link : Link), isPlatform s name → s.links[name]? = some link →
    link.up = true

section Tables

@[simp] theorem portVlans_getElem? (port : Port) (vid : UInt16) :
    (portVlans port)[vid]? = portEntry port vid := by
  simp only [portVlans, BTreeMap.collect, List.foldl_append,
    BTreeMap.getElem?_foldl_insert_const, portEntry]
  simp

/-- The native VLAN, and it alone, is the PVID. -/
theorem pvidEntries_portVlans (port : Port) :
    ((portVlans port).toList.filter fun e => e.2.pvid) =
      port.nativeVlan.toList.map fun vid => (vid, access) := by
  have hmem : ∀ e, e ∈ ((portVlans port).toList.filter fun e => e.2.pvid) ↔
      e ∈ port.nativeVlan.toList.map fun vid => (vid, access) := by
    rintro ⟨vid, flags⟩
    rw [List.mem_filter, ExtTreeMap.mem_toList_iff_getElem?_eq_some, portVlans_getElem?,
      portEntry]
    simp only [List.mem_map, Option.mem_toList, Prod.mk.injEq]
    constructor
    · rintro ⟨hentry, hp⟩
      split at hentry
      · next heq => exact ⟨vid, heq, rfl, Option.some.inj hentry⟩
      · split at hentry
        · rw [← Option.some.inj hentry] at hp
          cases hp
        · cases hentry
    · rintro ⟨vid', heq, rfl, rfl⟩
      exact ⟨if_pos heq, rfl⟩
  have hnodup : ((portVlans port).toList.filter fun e => e.2.pvid).Nodup :=
    (List.Nodup.of_map Prod.fst (portVlans port).nodup_fst).filter _
  have hsingle : (port.nativeVlan.toList.map fun vid => (vid, access)).Nodup := by
    cases port.nativeVlan <;> simp
  have hperm := (List.perm_ext_iff_of_nodup hnodup hsingle).mpr hmem
  cases hn : port.nativeVlan with
  | none =>
    rw [hn] at hperm
    exact hperm.eq_nil
  | some vid =>
    rw [hn] at hperm
    exact List.perm_singleton.mp hperm

theorem selfVlans_getElem? (desired : DesiredState) (vid : UInt16) (flags : VlanFlags) :
    (selfVlans desired)[vid]? = some flags ↔
      flags = tagged ∧ desired.vlanActive vid = true ∧
        ∃ (name : String) (svi : Svi), desired.svis[name]? = some svi ∧ svi.vlan = vid := by
  let carried := (desired.svis.toList.filter fun e => desired.vlanActive e.2.vlan).map
    fun e => e.2.vlan
  have hmem : vid ∈ carried ↔ desired.vlanActive vid = true ∧
      ∃ (name : String) (svi : Svi), desired.svis[name]? = some svi ∧ svi.vlan = vid := by
    simp only [carried, List.mem_map, List.mem_filter, Prod.exists,
      ExtTreeMap.mem_toList_iff_getElem?_eq_some]
    constructor
    · rintro ⟨name, svi, ⟨hsvi, hactive⟩, rfl⟩
      exact ⟨hactive, name, svi, hsvi, rfl⟩
    · rintro ⟨hactive, name, svi, hsvi, rfl⟩
      exact ⟨name, svi, ⟨hsvi, hactive⟩, rfl⟩
  have hlookup : (selfVlans desired)[vid]? = if vid ∈ carried then some tagged else none := by
    have hmap : ((desired.svis.toList.filter fun e => desired.vlanActive e.2.vlan).map
        fun e => (e.2.vlan, tagged)) = carried.map fun v => (v, tagged) := by
      simp [carried, Function.comp_def]
    rw [selfVlans, hmap, BTreeMap.collect, BTreeMap.getElem?_foldl_insert_const]
    simp
  rw [hlookup, ← hmem]
  by_cases hv : vid ∈ carried <;> simp [hv, eq_comm]

/-- The diff of two VLAN tables is empty only if they are equal. -/
theorem syncVlans_eq_nil (dev : String) (present want : VlanMap) :
    syncVlans dev present want = [] ↔ ∀ vid : UInt16, present[vid]? = want[vid]? := by
  simp only [syncVlans, List.partition_eq_filter_filter, List.append_eq_nil_iff, List.map_eq_nil_iff,
    List.filter_eq_nil_iff, List.mem_append, List.mem_filter, Prod.forall,
    ExtTreeMap.mem_toList_iff_getElem?_eq_some, ExtTreeMap.mem_keys]
  constructor
  · rintro ⟨hadd, hdel⟩ vid
    cases hw : want[vid]? with
    | some flags =>
      have hsame := hadd vid flags (by cases h : flags.pvid <;> simp [hw, h])
      simpa using hsame
    | none =>
      cases hp : present[vid]? with
      | none => rfl
      | some flags =>
        have hin : vid ∈ present := (BTreeMap.mem_iff present vid).mpr ⟨flags, hp⟩
        have hmem : vid ∈ want := by simpa using hdel vid hin
        exact absurd hw (by rwa [← BTreeMap.not_mem_iff, not_not])
  · intro heq
    refine ⟨fun vid flags h => ?_, fun vid hin => ?_⟩
    · have hw : want[vid]? = some flags := by rcases h with h | h <;> exact h.1
      simp [heq vid, hw]
    · obtain ⟨flags, hp⟩ := (BTreeMap.mem_iff present vid).mp hin
      have hmem : vid ∈ want := (BTreeMap.mem_iff want vid).mpr ⟨flags, by rw [← heq, hp]⟩
      simpa using hmem

end Tables

/-- The VLAN links of a bridge that stays. -/
theorem mem_bridgeVlanLinks (actual : ActualState) (name : String) (id : UInt16) :
    (name, id) ∈ bridgeVlanLinks actual false ↔
      ∃ up master, actual.links[name]? = some ⟨.vlan bridgeName id, up, master⟩ := by
  simp only [bridgeVlanLinks, Bool.false_eq_true, if_false, List.mem_filterMap, Prod.exists,
    ExtTreeMap.mem_toList_iff_getElem?_eq_some]
  constructor
  · rintro ⟨n, ⟨kind, up, master⟩, hl, hk⟩
    cases kind with
    | vlan parent vid =>
      simp only [Option.ite_none_right_eq_some, Option.some.injEq, Prod.mk.injEq] at hk
      obtain ⟨rfl, rfl, rfl⟩ := hk
      exact ⟨up, master, hl⟩
    | _ => simp at hk
  · rintro ⟨up, master, hl⟩
    exact ⟨name, _, hl, by simp⟩

theorem sviMatches_iff (desired : DesiredState) (name : String) (id : UInt16) :
    sviMatches desired (name, id) = true ↔
      ∃ svi, desired.svis[name]? = some svi ∧ svi.vlan = id := by
  unfold sviMatches
  cases desired.svis[name]? <;> simp

section Sections
variable (desired : DesiredState) (actual : ActualState)

theorem planBridge_eq_nil :
    (planBridge actual).1 = [] ↔ ∃ stp up master,
      actual.links[bridgeName]? = some ⟨.bridge ⟨true, 0, true, stp⟩, up, master⟩ := by
  unfold planBridge
  cases hl : actual.links[bridgeName]? with
  | none => simp
  | some link =>
    obtain ⟨kind, up, master⟩ := link
    cases kind with
    | bridge b =>
      obtain ⟨vlanFiltering, defaultPvid, mstEnabled, stp⟩ := b
      by_cases hc : (⟨vlanFiltering, defaultPvid, mstEnabled, stp⟩ : BridgeSettings).configured
      · simp only [Option.map_some, hc, if_true, true_iff]
        simp only [BridgeSettings.configured, Bool.and_eq_true, beq_iff_eq] at hc
        obtain ⟨⟨rfl, rfl⟩, rfl⟩ := hc
        exact ⟨stp, up, master, rfl⟩
      · simp only [Option.map_some, hc, Bool.false_eq_true, if_false, Option.some.injEq,
          Link.mk.injEq, LinkKind.bridge.injEq, BridgeSettings.mk.injEq]
        have hne : ¬ (vlanFiltering = true ∧ defaultPvid = 0 ∧ mstEnabled = true) := by
          simpa [BridgeSettings.configured, and_assoc] using hc
        split <;> simpa using hne
    | _ => simp

/-- On a bridge that needs no change the planner sees the observed links. -/
theorem planBridge_of_configured {stp : BridgeStp} {up : Bool} {master : Option String}
    (hl : actual.links[bridgeName]? = some ⟨.bridge ⟨true, 0, true, stp⟩, up, master⟩) :
    planBridge actual = ([], false) := by
  simp [planBridge, hl, BridgeSettings.configured]

theorem planBridgeUp_eq_nil {kind : LinkKind} {up : Bool} {master : Option String}
    (hl : actual.links[bridgeName]? = some ⟨kind, up, master⟩) :
    planBridgeUp actual false = [] ↔ up = true := by
  simp [planBridgeUp, ActualState.isDown, hl]

theorem planStp_eq_nil {stp : BridgeStp} {up : Bool} {master : Option String}
    (hl : actual.links[bridgeName]? = some ⟨.bridge ⟨true, 0, true, stp⟩, up, master⟩) :
    planStp desired actual false = [] ↔ stp = if desired.stp.isSome then .user else .off := by
  simp only [planStp, bridgeStp, hl, Option.map_some]
  cases stp <;> cases desired.stp.isSome <;> simp

theorem planStaleSvis_eq_nil :
    planStaleSvis desired actual false = [] ↔
      ∀ (name : String) (id : UInt16) (up : Bool) (master : Option String),
        actual.links[name]? = some ⟨.vlan bridgeName id, up, master⟩ →
          ∃ svi, desired.svis[name]? = some svi ∧ svi.vlan = id := by
  simp only [planStaleSvis, List.map_eq_nil_iff, List.filter_eq_nil_iff, mem_bridgeVlanLinks,
    Prod.forall, Bool.not_eq_true, Bool.not_eq_false', sviMatches_iff, forall_exists_index]

theorem takenSviName_eq_none :
    takenSviName desired actual = none ↔
      ∀ (name : String) (link : Link), name ∈ desired.svis → actual.links[name]? = some link →
        link.kind.isBridgeVlan = true := by
  simp only [takenSviName, List.find?_eq_none, ExtTreeMap.mem_keys]
  constructor
  · intro h name link hin hl
    simpa [hl] using h name hin
  · intro h name hin
    cases hl : actual.links[name]? with
    | none => simp
    | some link => simp [h name link hin hl]

theorem plan_eq_ok {ops : List Op} :
    plan desired actual = .ok ops ↔ takenSviName desired actual = none ∧
      planBridgeSection desired actual ++ planDeviceSection desired actual = ops := by
  unfold plan
  cases takenSviName desired actual <;> simp

theorem mem_existingSvis (name : String) :
    name ∈ existingSvis desired actual false ↔ ∃ svi up master, desired.svis[name]? = some svi ∧
      actual.links[name]? = some ⟨.vlan bridgeName svi.vlan, up, master⟩ := by
  simp only [existingSvis, ExtTreeSet.mem_ofList, List.contains_iff_mem, List.mem_map,
    List.mem_filter, Prod.exists, mem_bridgeVlanLinks, sviMatches_iff]
  constructor
  · rintro ⟨n, id, ⟨⟨up, master, hl⟩, svi, hsvi, rfl⟩, rfl⟩
    exact ⟨svi, up, master, hsvi, hl⟩
  · rintro ⟨svi, up, master, hsvi, hl⟩
    exact ⟨name, svi.vlan, ⟨⟨up, master, hl⟩, svi, hsvi, rfl⟩, rfl⟩

theorem svi_of_existing {name : String} (h : name ∈ existingSvis desired actual false) :
    name ∈ desired.svis := by
  obtain ⟨svi, up, master, hsvi, -⟩ := (mem_existingSvis desired actual name).mp h
  exact (BTreeMap.mem_iff _ _).mpr ⟨svi, hsvi⟩

theorem planPorts_eq_nil :
    planPorts desired actual false = [] ↔
      (∀ (name : String) (link : Link) (port : Port), actual.links[name]? = some link →
        link.kind.isDsa = true → desired.ports[name]? = some port →
        link.master = some bridgeName ∧ link.up = port.enabled ∧
          ∀ vid, vlanEntry actual name vid = portEntry port vid) ∧
      ∀ (name : String) (link : Link), actual.links[name]? = some link →
        link.kind.isDsa = true → name ∉ desired.ports → link.master = none ∧ link.up = false := by
  have hport : ∀ (name : String) (link : Link) (port : Port), link.kind.isDsa = true →
      desired.ports[name]? = some port → (planPort desired actual false name link = [] ↔
        link.master = some bridgeName ∧ link.up = port.enabled ∧
          ∀ vid, vlanEntry actual name vid = portEntry port vid) := by
    intro name link port hdsa hport
    simp only [planPort, hdsa, if_true, hport, Bool.not_false, Bool.true_and,
      List.append_eq_nil_iff, syncVlans_eq_nil, vlanEntry, portVlans_getElem?]
    by_cases hm : link.master = some bridgeName
    · simp [hm, and_comm]
    · simp [hm]
  have hother : ∀ (name : String) (link : Link), link.kind.isDsa = true →
      name ∉ desired.ports → (planPort desired actual false name link = [] ↔
        link.master = none ∧ link.up = false) := by
    intro name link hdsa hno
    have hnone := (BTreeMap.not_mem_iff desired.ports name).mp hno
    simp [planPort, hdsa, hnone]
  simp only [planPorts, List.flatMap_eq_nil_iff, Prod.forall,
    ExtTreeMap.mem_toList_iff_getElem?_eq_some]
  constructor
  · intro h
    exact ⟨fun name link port hl hdsa hp => (hport name link port hdsa hp).mp (h name link hl),
      fun name link hl hdsa hno => (hother name link hdsa hno).mp (h name link hl)⟩
  · rintro ⟨hconf, hrest⟩ name link hl
    by_cases hdsa : link.kind.isDsa = true
    · cases hp : desired.ports[name]? with
      | some port => exact (hport name link port hdsa hp).mpr (hconf name link port hl hdsa hp)
      | none =>
        have hno := (BTreeMap.not_mem_iff desired.ports name).mpr hp
        exact (hother name link hdsa hno).mpr (hrest name link hl hdsa hno)
    · simp [planPort, hdsa]

theorem planSelfVlans_eq_nil :
    planSelfVlans desired actual false = [] ↔ ∀ (vid : UInt16) (flags : VlanFlags),
      vlanEntry actual bridgeName vid = some flags ↔ flags = tagged ∧
        desired.vlanActive vid = true ∧
        ∃ (name : String) (svi : Svi), desired.svis[name]? = some svi ∧ svi.vlan = vid := by
  simp only [planSelfVlans, Bool.false_eq_true, if_false, syncVlans_eq_nil, ← selfVlans_getElem?,
    vlanEntry]
  constructor
  · intro h vid flags
    rw [h]
  · intro h vid
    exact Option.ext fun flags => h vid flags

theorem syncAddresses_eq_nil (name : String) (svi : Svi) (present : BTreeSet Ipv4Prefix)
    (dhcp : BTreeMap Ipv4Prefix UInt32) :
    syncAddresses name svi present dhcp = [] ↔ (∀ p, p ∈ present ↔ p ∈ svi.addresses) ∧
      (svi.dhcpClient = false → ∀ p, p ∈ dhcp → p ∈ svi.addresses) := by
  have hadd : ((svi.addresses.toList.filter fun p => !present.contains p).flatMap fun p =>
      (if dhcp.contains p then [Op.delAddress name p] else []) ++ [.addAddress name p]) = [] ↔
      ∀ p, p ∈ svi.addresses → p ∈ present := by
    simp
  have hdel : ((present.toList.filter fun p => !svi.addresses.contains p).map
      (Op.delAddress name)) = [] ↔ ∀ p, p ∈ present → p ∈ svi.addresses := by
    simp
  have hlease : (if svi.dhcpClient then []
      else (dhcp.keys.filter fun p => !svi.addresses.contains p).map (Op.delAddress name)) = [] ↔
      (svi.dhcpClient = false → ∀ p, p ∈ dhcp → p ∈ svi.addresses) := by
    cases svi.dhcpClient <;> simp
  rw [syncAddresses, List.append_eq_nil_iff, List.append_eq_nil_iff, hadd, hdel, hlease]
  refine and_congr_left' ⟨fun h p => ⟨h.2 p, h.1 p⟩, fun h => ⟨fun p => (h p).mpr, fun p => (h p).mp⟩⟩

theorem planSvis_eq_nil :
    planSvis desired actual false = [] ↔
      ∀ (name : String) (svi : Svi), desired.svis[name]? = some svi →
        (∃ master, actual.links[name]? = some ⟨.vlan bridgeName svi.vlan, svi.enabled, master⟩) ∧
        (∀ p, hasAddress actual name p ↔ p ∈ svi.addresses) ∧
        (svi.dhcpClient = false → ∀ p, hasLease actual name p → p ∈ svi.addresses) := by
  simp only [planSvis, List.flatMap_eq_nil_iff, Prod.forall,
    ExtTreeMap.mem_toList_iff_getElem?_eq_some]
  refine forall_congr' fun name => forall_congr' fun svi => ?_
  refine imp_congr_right fun hsvi => ?_
  by_cases hex : name ∈ existingSvis desired actual false
  · obtain ⟨svi', up, master, hsvi', hl⟩ := (mem_existingSvis desired actual name).mp hex
    obtain rfl : svi = svi' := by simpa [hsvi] using hsvi'
    have hc : (existingSvis desired actual false).contains name = true := by simpa using hex
    simp only [planSvi, hc, if_true, List.nil_append, List.append_eq_nil_iff,
      syncAddresses_eq_nil, hl, hasAddress, hasLease]
    rw [and_comm]
    simp
  · have hc : (existingSvis desired actual false).contains name = false :=
      Bool.eq_false_iff.mpr (by simpa using hex)
    simp only [planSvi, hc, Bool.false_eq_true, if_false, List.append_eq_nil_iff, reduceCtorEq,
      false_and, false_iff, not_and]
    rintro ⟨master, hl⟩
    exact absurd ((mem_existingSvis desired actual name).mpr ⟨svi, _, master, hsvi, hl⟩) hex

theorem planLeftovers_eq_nil (hb : ∃ b up master,
    actual.links[bridgeName]? = some ⟨.bridge b, up, master⟩) :
    planLeftovers actual false = [] ↔ ∀ dev, dev = bridgeName ∨ dev ∈ actual.switchPorts →
      ∀ p, ¬ hasAddress actual dev p ∧ ¬ hasLease actual dev p := by
  have howns : ∀ dev, ownsAddresses actual false dev = true ↔
      dev = bridgeName ∨ dev ∈ actual.switchPorts := by
    intro dev
    obtain ⟨b, up, master, hb⟩ := hb
    by_cases hdev : dev = bridgeName
    · subst hdev
      simp [ownsAddresses, hb]
    · unfold ownsAddresses
      cases hl : actual.links[dev]? with
      | none => simp [hdev, hl]
      | some link =>
        obtain ⟨kind, lup, lmaster⟩ := link
        cases kind <;> simp [hdev, hl, LinkKind.isDsa]
  have hstatic : ∀ dev p, (∃ set : BTreeSet Ipv4Prefix, actual.addresses[dev]? = some set ∧ p ∈ set) ↔
      hasAddress actual dev p := by
    intro dev p
    rw [hasAddress, BTreeMap.getD_eq]
    cases actual.addresses[dev]? <;> simp
  have hleased : ∀ dev p, (∃ set : BTreeMap Ipv4Prefix UInt32,
      actual.dhcpAddresses[dev]? = some set ∧ p ∈ set) ↔ hasLease actual dev p := by
    intro dev p
    rw [hasLease, BTreeMap.getD_eq]
    cases actual.dhcpAddresses[dev]? <;> simp
  simp only [planLeftovers, List.map_eq_nil_iff, List.filter_eq_nil_iff, List.mem_append,
    List.mem_flatMap, List.mem_map, Prod.exists, Prod.forall, Prod.mk.injEq,
    ExtTreeMap.mem_toList_iff_getElem?_eq_some, ExtTreeSet.mem_toList,
    ExtTreeMap.mem_keys, howns]
  constructor
  · intro h dev hdev p
    refine ⟨fun ha => ?_, fun ha => ?_⟩
    · obtain ⟨set, hset, hp⟩ := (hstatic dev p).mpr ha
      exact h dev p (Or.inl ⟨dev, set, hset, p, hp, rfl, rfl⟩) hdev
    · obtain ⟨set, hset, hp⟩ := (hleased dev p).mpr ha
      exact h dev p (Or.inr ⟨dev, set, hset, p, hp, rfl, rfl⟩) hdev
  · rintro h dev p (⟨_, set, hset, _, hp, rfl, rfl⟩ | ⟨_, set, hset, _, hp, rfl, rfl⟩) hdev
    · exact (h _ hdev _).1 ((hstatic _ _).mp ⟨set, hset, hp⟩)
    · exact (h _ hdev _).2 ((hleased _ _).mp ⟨set, hset, hp⟩)

theorem platformOps_eq_nil :
    actual.platformOps = [] ↔ ∀ (name : String) (link : Link), isPlatform actual name →
      actual.links[name]? = some link → link.up = true := by
  simp only [ActualState.platformOps, List.map_eq_nil_iff, List.filter_eq_nil_iff,
    ExtTreeSet.mem_toList, mem_platformNames, ActualState.isDown]
  constructor
  · intro h name link hp hl
    simpa [hl] using h name hp
  · intro h name hp
    cases hl : actual.links[name]? with
    | none => simp
    | some link => simp [h name link hp hl]

end Sections

/-- The planner's sections on a bridge that needs no change. -/
theorem plan_eq_nil_iff_sections (desired : DesiredState) (actual : ActualState)
    (hb : planBridge actual = ([], false)) :
    plan desired actual = .ok [] ↔ takenSviName desired actual = none ∧
      planBridgeUp actual false = [] ∧ planStp desired actual false = [] ∧
      planStaleSvis desired actual false = [] ∧ planPorts desired actual false = [] ∧
      planSelfVlans desired actual false = [] ∧ planSvis desired actual false = [] ∧
      planLeftovers actual false = [] := by
  unfold plan planBridgeSection planDeviceSection
  rw [hb]
  cases takenSviName desired actual <;> simp

/-- With nothing to plan the bridge is there and configured. -/
theorem bridge_of_idle {desired : DesiredState} {actual : ActualState}
    (h : plan desired actual = .ok []) : ∃ stp up master,
      actual.links[bridgeName]? = some ⟨.bridge ⟨true, 0, true, stp⟩, up, master⟩ := by
  obtain ⟨-, hnil⟩ := (plan_eq_ok desired actual).mp h
  simp only [planBridgeSection, List.append_eq_nil_iff] at hnil
  exact (planBridge_eq_nil actual).mp hnil.1.1.1.1

/-- There is nothing to plan exactly in the matching states. -/
theorem plan_nil_iff_matches (desired : DesiredState) (actual : ActualState) :
    plan desired actual = .ok [] ∧ actual.platformOps = [] ↔ Matches desired actual := by
  constructor
  · rintro ⟨hplan, hplatform⟩
    obtain ⟨stp, up, master, hl⟩ := bridge_of_idle hplan
    rw [plan_eq_nil_iff_sections desired actual (planBridge_of_configured actual hl),
      planBridgeUp_eq_nil actual hl, planStp_eq_nil desired actual hl, planStaleSvis_eq_nil,
      planPorts_eq_nil, planSelfVlans_eq_nil, planSvis_eq_nil,
      planLeftovers_eq_nil actual ⟨_, _, _, hl⟩] at hplan
    obtain ⟨-, rfl, hstp, hstale, ⟨hports, hothers⟩, hself, hsvis, hleft⟩ := hplan
    exact {
      bridge := ⟨stp, master, hl, hstp⟩
      sviLinks := fun name id up master hv => by
        obtain ⟨svi, hsvi, -⟩ := hstale name id up master hv
        exact (BTreeMap.mem_iff _ _).mpr ⟨svi, hsvi⟩
      svis := fun name svi hsvi => (hsvis name svi hsvi).1
      ports := hports
      otherPorts := hothers
      selfEntries := hself
      addresses := fun name svi hsvi => (hsvis name svi hsvi).2.1
      leases := fun name svi hsvi => (hsvis name svi hsvi).2.2
      unaddressed := hleft
      platform := (platformOps_eq_nil actual).mp hplatform }
  · intro m
    obtain ⟨stp, master, hl, hstp⟩ := m.bridge
    refine ⟨?_, (platformOps_eq_nil actual).mpr m.platform⟩
    rw [plan_eq_nil_iff_sections desired actual (planBridge_of_configured actual hl),
      planBridgeUp_eq_nil actual hl, planStp_eq_nil desired actual hl, planStaleSvis_eq_nil,
      planPorts_eq_nil, planSelfVlans_eq_nil, planSvis_eq_nil,
      planLeftovers_eq_nil actual ⟨_, _, _, hl⟩, takenSviName_eq_none]
    refine ⟨?_, rfl, hstp, ?_, ⟨m.ports, m.otherPorts⟩, m.selfEntries,
      fun name svi hsvi => ⟨m.svis name svi hsvi, m.addresses name svi hsvi, m.leases name svi hsvi⟩,
      m.unaddressed⟩
    · intro name link hin hlink
      obtain ⟨svi, hsvi⟩ := (BTreeMap.mem_iff _ _).mp hin
      obtain ⟨vmaster, hv⟩ := m.svis name svi hsvi
      obtain rfl := Option.some.inj (hlink.symm.trans hv)
      simp [LinkKind.isBridgeVlan]
    · intro name id vup vmaster hv
      obtain ⟨svi, hsvi⟩ := (BTreeMap.mem_iff _ _).mp (m.sviLinks name id vup vmaster hv)
      obtain ⟨vmaster', hv'⟩ := m.svis name svi hsvi
      have hsame := Option.some.inj (hv.symm.trans hv')
      simp only [Link.mk.injEq, LinkKind.vlan.injEq, true_and] at hsame
      exact ⟨svi, hsvi, hsame.1.symm⟩

/-- Whatever the backend answers, a successful `reconcile` has last observed a
kernel that carries the desired state, and in every such kernel there is nothing
to do. -/
theorem reconcile_ok_observed_matching {σ : Type} (net : NetBackend σ) (desired : DesiredState) :
    (∀ s ops, (reconcile net desired s).1 = .ok ops →
      ∃ last, lastObserved (reconcileTrace net desired s) = some last ∧ Matches desired last) ∧
    (∀ actual, Matches desired actual →
      plan desired actual = .ok [] ∧ actual.platformOps = []) := by
  refine ⟨fun s ops success => ?_, fun actual => (plan_nil_iff_matches desired actual).mpr⟩
  obtain ⟨last, hlast, hdone⟩ := reconcile_ok_lastObserved net desired s ops success
  exact ⟨last, hlast, (plan_nil_iff_matches desired last).mp hdone⟩

/-- One access port on VLAN 10, and an SVI on it with an address. -/
def onePortDesired : DesiredState where
  vlans := ExtTreeMap.ofList [(10, ⟨none, true⟩)] compare
  ports := ExtTreeMap.ofList [("lan1", ⟨true, some 10, ∅⟩)] compare
  svis := ExtTreeMap.ofList
    [("vlan10", ⟨true, 10, ExtTreeSet.ofList [⟨⟨0xC0A80101⟩, 24⟩] compare, false⟩)] compare

/-- After boot: one DSA port on its conduit, and loopback. -/
def onePortBoot : ActualState where
  links := ExtTreeMap.ofList [("lan1", ⟨.dsa (some "eth0"), false, none⟩),
    ("eth0", ⟨.other, false, none⟩), ("lo", ⟨.other, false, none⟩)] compare

theorem reconcile_ok_observed_matching_boot :
    ∃ ops last, (reconcile fakeNet onePortDesired onePortBoot).1 = .ok ops ∧
      lastObserved (reconcileTrace fakeNet onePortDesired onePortBoot) = some last ∧
      Matches onePortDesired last ∧ plan onePortDesired last = .ok [] ∧
      last.platformOps = [] := by
  obtain ⟨observed, idle⟩ := reconcile_ok_observed_matching fakeNet onePortDesired
  have success : (reconcile fakeNet onePortDesired onePortBoot).1 =
      .ok [.setUp "eth0" true, .setUp "lo" true, .createBridge "br-lan", .setUp "br-lan" true,
        .setMaster "lan1" (some "br-lan"), .addBridgeVlan "lan1" 10 access, .setUp "lan1" true,
        .addBridgeVlan "br-lan" 10 tagged, .createVlan "vlan10" "br-lan" 10,
        .addAddress "vlan10" ⟨⟨0xC0A80101⟩, 24⟩, .setUp "vlan10" true] := by
    decide
  obtain ⟨last, hlast, hmatches⟩ := observed onePortBoot _ success
  exact ⟨_, last, success, hlast, hmatches, idle last hmatches⟩

end ClixonSwitch.Guarantees
