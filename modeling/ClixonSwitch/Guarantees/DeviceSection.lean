import ClixonSwitch.Guarantees.BridgeSection

/-!
# The second half of a round

Once the bridge is ready, every operation acts on one device. This module says
which operations a round has for a port, for the bridge itself and for an SVI, and
what they do to it. The only operation that can be refused is the deletion of a
default entry that ConfigureBridge has dropped in the same round (`StaleAt`).
-/
namespace ClixonSwitch.Guarantees
open Std Lib Source.SwitchModel Source.SwitchNet

section Targets
variable (desired : DesiredState) (s : ActualState)

def portOps (dev : String) : List Op :=
  match s.links[dev]? with
  | some l => planPort desired s (planBridge s).2 dev l
  | none => []

def selfOps (dev : String) : List Op :=
  if dev = bridgeName then planSelfVlans desired s (planBridge s).2 else []

def sviOps (dev : String) : List Op :=
  match desired.svis[dev]? with
  | some svi =>
    planSvi s ((existingSvis desired s (planBridge s).2).contains dev) dev svi
  | none => []

def leftoverOps (dev : String) : List Op :=
  if ownsAddresses s (planBridge s).2 dev then
    ((device s dev).addresses.toList ++ (device s dev).leases.keys).map (Op.delAddress dev)
  else []

theorem syncVlans_target {dev : String} {present want : VlanMap} :
    ∀ op ∈ syncVlans dev present want, op.target = dev ∧ op.isQuiet = true := by
  intro op hop
  rw [syncVlans_eq, List.mem_append] at hop
  rcases hop with hop | hop
  · obtain ⟨e, -, rfl⟩ := List.mem_map.mp hop
    exact ⟨rfl, rfl⟩
  · obtain ⟨vid, -, rfl⟩ := List.mem_map.mp hop
    exact ⟨rfl, rfl⟩

theorem planPort_target {fresh : Bool} {dev : String} {l : Link} :
    ∀ op ∈ planPort desired s fresh dev l, op.target = dev ∧ op.isQuiet = true := by
  intro op hop
  unfold planPort at hop
  split at hop
  · split at hop
    · simp only [List.mem_append] at hop
      rcases hop with (hop | hop) | hop
      · split at hop
        · simp at hop
        · rw [List.mem_singleton.mp hop]
          exact ⟨rfl, by simp [Op.isQuiet]⟩
      · exact syncVlans_target op hop
      · split at hop
        · rw [List.mem_singleton.mp hop]
          exact ⟨rfl, rfl⟩
        · simp at hop
    · simp only [List.mem_append] at hop
      rcases hop with hop | hop <;> split at hop
      · rw [List.mem_singleton.mp hop]
        exact ⟨rfl, rfl⟩
      · simp at hop
      · rw [List.mem_singleton.mp hop]
        exact ⟨rfl, rfl⟩
      · simp at hop
  · simp at hop

theorem syncAddresses_target {dev : String} {svi : Svi} {present : BTreeSet Ipv4Prefix}
    {dhcp : BTreeMap Ipv4Prefix UInt32} :
    ∀ op ∈ syncAddresses dev svi present dhcp, op.target = dev ∧ op.onDevice = true := by
  intro op hop
  simp only [syncAddresses, List.mem_append, List.mem_flatMap, List.mem_map] at hop
  rcases hop with (⟨p, -, hop | hop⟩ | ⟨p, -, rfl⟩) | hop
  · split at hop
    · rw [List.mem_singleton.mp hop]
      exact ⟨rfl, rfl⟩
    · simp at hop
  · rw [List.mem_singleton.mp hop]
    exact ⟨rfl, rfl⟩
  · exact ⟨rfl, rfl⟩
  · split at hop
    · simp at hop
    · obtain ⟨p, -, rfl⟩ := List.mem_map.mp hop
      exact ⟨rfl, rfl⟩

theorem planSvi_target {existing : Bool} {dev : String} {svi : Svi} :
    ∀ op ∈ planSvi s existing dev svi, op.target = dev ∧ op.onDevice = true := by
  intro op hop
  simp only [planSvi, List.mem_append] at hop
  rcases hop with (hop | hop) | hop
  · split at hop
    · simp at hop
    · rw [List.mem_singleton.mp hop]
      exact ⟨rfl, by simp [Op.onDevice, Op.isLocal]⟩
  · exact syncAddresses_target op hop
  · split at hop
    · rw [List.mem_singleton.mp hop]
      exact ⟨rfl, rfl⟩
    · simp at hop

theorem planDeviceSection_onDevice : ∀ op ∈ planDeviceSection desired s, op.onDevice = true := by
  intro op hop
  simp only [planDeviceSection, planPorts, planSelfVlans, planSvis, planLeftovers,
    List.mem_append, List.mem_flatMap] at hop
  rcases hop with ((⟨e, -, hop⟩ | hop) | ⟨e, -, hop⟩) | hop
  · exact Op.onDevice_of_isQuiet (planPort_target desired s op hop).2
  · exact Op.onDevice_of_isQuiet (syncVlans_target op hop).2
  · exact (planSvi_target s op hop).2
  · obtain ⟨e, -, rfl⟩ := List.mem_map.mp hop
    rfl

theorem planDeviceSection_isLocal (op : Op) (h : op ∈ planDeviceSection desired s) :
    op.isLocal = true :=
  Op.isLocal_of_onDevice (planDeviceSection_onDevice desired s op h)

/-- Blocks listed by interface name: the block of one interface. -/
theorem targeting_blocks {V : Type} (m : BTreeMap String V) (block : String → V → List Op)
    (own : ∀ k v, ∀ op ∈ block k v, op.target = k) (dev : String) :
    targeting Op.target dev (m.toList.flatMap fun e => block e.1 e.2) =
      match m[dev]? with
      | some v => block dev v
      | none => [] := by
  obtain ⟨hin, hout⟩ := targeting_flatMap m.toList block own m.nodup_fst dev
  cases hv : m[dev]? with
  | some v => exact hin v (ExtTreeMap.mem_toList_iff_getElem?_eq_some.mpr hv)
  | none =>
    refine hout fun v hmem => ?_
    rw [ExtTreeMap.mem_toList_iff_getElem?_eq_some, hv] at hmem
    cases hmem

theorem targeting_leftovers (dev : String) :
    targeting Op.target dev (planLeftovers s (planBridge s).2) = leftoverOps s dev := by
  have howned : ∀ {V : Type} (l : List (String × V)) (listed : V → List Ipv4Prefix),
      (((l.flatMap fun e => (listed e.2).map fun p => (e.1, p)).filter
        fun e => ownsAddresses s (planBridge s).2 e.1).map fun e => Op.delAddress e.1 e.2) =
      l.flatMap fun e =>
        if ownsAddresses s (planBridge s).2 e.1 then (listed e.2).map (Op.delAddress e.1) else [] := by
    intro V l listed
    rw [List.filter_flatMap, List.map_flatMap]
    refine List.flatMap_congr fun e _ => ?_
    cases h : ownsAddresses s (planBridge s).2 e.1 <;>
      simp [List.filter_map, Function.comp_def, h]
  rw [planLeftovers, List.filter_append, List.map_append, howned s.addresses.toList,
    howned s.dhcpAddresses.toList, targeting_append,
    targeting_blocks s.addresses (fun k v => if ownsAddresses s (planBridge s).2 k
      then v.toList.map (Op.delAddress k) else []),
    targeting_blocks s.dhcpAddresses (fun k v => if ownsAddresses s (planBridge s).2 k
      then v.keys.map (Op.delAddress k) else [])]
  · unfold leftoverOps
    simp only [device, BTreeMap.getD_eq]
    cases h : ownsAddresses s (planBridge s).2 dev <;>
      cases s.addresses[dev]? <;> cases s.dhcpAddresses[dev]? <;> simp
  · intro k v op hop
    split at hop
    · obtain ⟨p, -, rfl⟩ := List.mem_map.mp hop
      rfl
    · simp at hop
  · intro k v op hop
    split at hop
    · obtain ⟨p, -, rfl⟩ := List.mem_map.mp hop
      rfl
    · simp at hop

theorem targeting_svis (dev : String) :
    targeting Op.target dev (planSvis desired s (planBridge s).2) = sviOps desired s dev := by
  rw [planSvis, targeting_blocks desired.svis (fun k svi => planSvi s
    ((existingSvis desired s (planBridge s).2).contains k) k svi)
    (fun k v op hop => (planSvi_target s op hop).1) dev]
  unfold sviOps
  cases desired.svis[dev]? <;> rfl

theorem targeting_deviceSection (dev : String) :
    targeting Op.target dev (planDeviceSection desired s) =
      portOps desired s dev ++ selfOps desired s dev ++ sviOps desired s dev ++
        leftoverOps s dev := by
  rw [planDeviceSection, targeting_append, targeting_append, targeting_append, targeting_leftovers,
    targeting_svis]
  congr 3
  · rw [planPorts, targeting_blocks s.links (planPort desired s (planBridge s).2)
      (fun k v op hop => (planPort_target desired s op hop).1) dev]
    unfold portOps
    cases s.links[dev]? <;> rfl
  · unfold selfOps
    split
    · next h => exact targeting_eq_self fun op hop => (syncVlans_target op hop).1.trans h.symm
    · next h =>
      refine targeting_eq_nil fun op hop => ?_
      rw [(syncVlans_target op hop).1]
      exact Ne.symm h

end Targets

/-- The round drops the default entry of `dev`, and then deletes it again, because
the desired state has no entry for that VLAN on it. -/
def StaleAt (desired : DesiredState) (s : ActualState) (dev : String) : Prop :=
  droppedPvid s ≠ 0 ∧ (device s dev).enslavedTo bridgeName = true ∧
    vlanEntry s dev (droppedPvid s) = some access ∧
    ((dev ∈ s.switchPorts ∧
        ∃ port, desired.ports[dev]? = some port ∧ portEntry port (droppedPvid s) = none) ∨
      (dev = bridgeName ∧ droppedPvid s ∉ selfVlans desired))

/-- No SVI name is taken by a link that is not a VLAN link of the bridge. -/
def NoForeign (desired : DesiredState) (s : ActualState) : Prop :=
  ∀ (name : String) (link : Link), name ∈ desired.svis → s.links[name]? = some link →
    link.kind.isBridgeVlan = true

section Entries

theorem portVlans_singlePvid (port : Port) : SinglePvid (portVlans port) := by
  have hnative : ∀ (vid : UInt16) (f : VlanFlags), (portVlans port)[vid]? = some f →
      f.pvid = true → port.nativeVlan = some vid := by
    intro vid f hf hp
    rw [portVlans_getElem?, portEntry] at hf
    split at hf
    · assumption
    · split at hf
      · cases hf
        cases hp
      · cases hf
  intro v w f g hf hg hfp hgp
  exact Option.some.inj ((hnative v f hf hfp).symm.trans (hnative w g hg hgp))

theorem selfVlans_singlePvid (desired : DesiredState) : SinglePvid (selfVlans desired) := by
  intro v w f g hf _ hfp _
  rw [((selfVlans_getElem? desired v f).mp hf).1] at hfp
  cases hfp

/-- The VLAN diff of a device whose default entry may have been dropped since. -/
theorem runLocal_syncDropped (dev : String) (old : UInt16) (want : VlanMap) (d : Device)
    (present : VlanMap) (hd : d.vlans = dropDefault old present)
    (takes : d.link.any Link.takesVlans = true) (single : SinglePvid want) :
    ((old ≠ 0 ∧ present[old]? = some access ∧ old ∉ want) →
      runLocal act (syncVlans dev present want) d = none) ∧
    (¬ (old ≠ 0 ∧ present[old]? = some access ∧ old ∉ want) → ∃ vlans : VlanMap,
      runLocal act (syncVlans dev present want) d = some { d with vlans } ∧
      (old = 0 → ∀ vid : UInt16, vlans[vid]? = want[vid]?)) := by
  have hlook : ∀ vid : UInt16, d.vlans[vid]? =
      if old ≠ 0 ∧ present[old]? = some access ∧ vid = old then none else present[vid]? := by
    intro vid
    rw [hd, dropDefault_getElem?]
  obtain ⟨hok, hfail⟩ := runLocal_syncVlans dev present want d takes single fun vid => by
    rw [hlook vid]
    split
    · exact Or.inr rfl
    · exact Or.inl rfl
  refine ⟨fun ⟨hz, hp, hno⟩ => ?_, fun hstale => ?_⟩
  · refine hfail ⟨old, (BTreeMap.mem_iff _ _).mpr ⟨_, hp⟩, hno, ?_⟩
    rw [BTreeMap.not_mem_iff, hlook, if_pos ⟨hz, hp, rfl⟩]
  · obtain ⟨vlans, hrun, hv⟩ := hok fun vid hp hno => by
      rw [BTreeMap.mem_iff, hlook, if_neg]
      · exact (BTreeMap.mem_iff _ _).mp hp
      · rintro ⟨hz, ha, rfl⟩
        exact hstale ⟨hz, ha, hno⟩
    refine ⟨vlans, hrun, fun hz vid => ?_⟩
    rw [hv vid]
    split
    · next heq => rw [hlook, if_neg fun h => h.1 hz, heq]
    · rfl

/-- A device goes up or down if it was not as wanted; `free` are those that stay as they were
until then. -/
theorem runLocal_setUp (dev : String) {d : Device} {kind : LinkKind} {up old : Bool}
    {master : Option String} {free : Prop} (hl : d.link = some ⟨kind, up, master⟩)
    (hup : free → up = old) (want : Bool) :
    ∃ up', runLocal act (if old != want then [Op.setUp dev want] else []) d =
        some { d with link := some ⟨kind, up', master⟩ } ∧ (free → up' = want) := by
  by_cases he : old = want
  · refine ⟨up, ?_, fun h => (hup h).trans he⟩
    rw [← hl]
    simp [he]
  · exact ⟨want, by simp [he, act, hl], fun _ => rfl⟩

/-- Deleting all addresses and leases of a device. -/
theorem runLocal_clear (dev : String) (d : Device) (disjoint : d.Disjoint) :
    ∃ addresses leases,
      runLocal act ((d.addresses.toList ++ d.leases.keys).map (Op.delAddress dev)) d =
        some { d with addresses, leases } ∧ (∀ p, p ∉ addresses) ∧ ∀ p, p ∉ leases := by
  have hnodup : (d.addresses.toList ++ d.leases.keys).Nodup := by
    refine List.nodup_append.mpr
      ⟨BTreeSet.nodup_toList _, BTreeMap.nodup_keys _, fun p hp q hq heq => ?_⟩
    rw [ExtTreeSet.mem_toList] at hp
    rw [ExtTreeMap.mem_keys] at hq
    exact disjoint p hp (heq ▸ hq)
  obtain ⟨addresses, leases, hrun, ha, hl⟩ := runLocal_delAddresses dev _ d hnodup fun p hp => by
    simpa using hp
  refine ⟨addresses, leases, hrun, fun p hp => ?_, fun p hp => ?_⟩
  · obtain ⟨hin, hno⟩ := (ha p).mp hp
    exact hno (by simp [hin])
  · obtain ⟨hin, hno⟩ := (hl p).mp hp
    exact hno (by simp [hin])

end Entries

section Devices
variable {desired : DesiredState} {s : ActualState} {removed : List String}

theorem mem_bridgeRoots {name : String} (h : name ∈ bridgeRoots desired s) :
    name = bridgeName ∨ (device s name).parent = some bridgeName := by
  unfold bridgeRoots at h
  split at h
  · split at h
    · exact Or.inl (List.mem_singleton.mp h)
    · simp at h
  · exact Or.inr (staleNames_parent h)

/-- A link other than the bridge that is no VLAN link survives. -/
theorem kept_of_parent (cascade : Cascade s (bridgeRoots desired s) removed) {dev : String}
    (hdev : dev ≠ bridgeName) (hparent : (device s dev).parent = none) : dev ∉ removed :=
  cascade_not_mem cascade hparent fun h => by
    rcases mem_bridgeRoots h with heq | hp
    · exact hdev heq
    · rw [hparent] at hp
      cases hp

/-- While the bridge stays, nobody's master goes. -/
theorem masterIn_false_of_kept (coherent : Coherent s)
    (cascade : Cascade s (bridgeRoots desired s) removed) (hfresh : (planBridge s).2 = false)
    {d : Device} (dev : String) (hmaster : d.master = (device s dev).master) :
    d.masterIn removed = false := by
  refine masterIn_false coherent cascade (fun name hn => ?_) hmaster
  exact staleNames_not_bridge (by simpa [bridgeRoots, hfresh] using hn)

/-- A surviving device other than the bridge, before the second half of the round. -/
theorem bridgeView_kept (coherent : Coherent s)
    (cascade : Cascade s (bridgeRoots desired s) removed) {dev : String} {l : Link}
    (hl : s.links[dev]? = some l) (hdev : dev ≠ bridgeName) (hkept : dev ∉ removed) :
    ∃ up master vlans,
      bridgeView desired s removed dev =
        { device s dev with link := some ⟨l.kind, up, master⟩, vlans } ∧
      (dev ∉ s.platformNames → up = l.up) ∧ (dev ∈ s.platformNames → up = true) ∧
      (l.master = none → master = none) ∧
      ((planBridge s).2 = false → master = l.master ∧ vlans =
        if (device s dev).enslavedTo bridgeName
        then dropDefault (droppedPvid s) (device s dev).vlans else (device s dev).vlans) := by
  obtain ⟨kind, up, master⟩ := l
  have hd : (device s dev).link = some ⟨kind, up, master⟩ := hl
  obtain ⟨up', hup, hno, hyes⟩ : ∃ up', platformView s dev =
      { device s dev with link := some ⟨kind, up', master⟩ } ∧
      (dev ∉ s.platformNames → up' = up) ∧ (dev ∈ s.platformNames → up' = true) := by
    unfold platformView
    by_cases hp : dev ∈ s.platformNames
    · exact ⟨true, by simp [hp, raised, hd], fun h => absurd hp h, fun _ => rfl⟩
    · exact ⟨up, by simp [hp, ← hd], fun _ => rfl, fun h => absurd h hp⟩
  have henslaved : (platformView s dev).enslavedTo bridgeName =
      (device s dev).enslavedTo bridgeName := platformView_enslavedTo s dev bridgeName
  have hdrop : (platformView s dev).dropDefault bridgeName (droppedPvid s) =
      { device s dev with
        link := some ⟨kind, up', master⟩
        vlans := if (device s dev).enslavedTo bridgeName
          then dropDefault (droppedPvid s) (device s dev).vlans else (device s dev).vlans } := by
    unfold Device.dropDefault
    rw [henslaved, hup]
    split <;> rfl
  rw [bridgeView, if_neg hdev, hdrop, Device.without, if_neg hkept]
  by_cases hm : Device.masterIn { device s dev with
      link := some ⟨kind, up', master⟩
      vlans := if (device s dev).enslavedTo bridgeName
        then dropDefault (droppedPvid s) (device s dev).vlans else (device s dev).vlans } removed = true
  · refine ⟨up', none, ∅, by rw [if_pos hm]; rfl, hno, hyes, fun _ => rfl, fun hfresh => ?_⟩
    rw [masterIn_false_of_kept coherent cascade hfresh dev (by simp [Device.master, hd])] at hm
    cases hm
  · exact ⟨up', master, _, by rw [if_neg hm], hno, hyes, id, fun _ => ⟨rfl, rfl⟩⟩

theorem parent_of_isDsa {d : Device} {l : Link} (hl : d.link = some l) (h : l.kind.isDsa = true) :
    d.parent = none := by
  obtain ⟨kind, up, master⟩ := l
  unfold Device.parent
  rw [hl]
  cases kind <;> simp_all [LinkKind.isDsa]

theorem ne_bridge_of_isDsa (coherent : Coherent s) {dev : String} {l : Link}
    (hl : s.links[dev]? = some l) (h : l.kind.isDsa = true) : dev ≠ bridgeName := by
  rintro rfl
  have hno := coherent.bridgeNotPort
  simp [Device.isDsa, device_link, hl, h] at hno

theorem not_svi_of_isDsa (foreign : NoForeign desired s) {dev : String} {l : Link}
    (hl : s.links[dev]? = some l) (h : l.kind.isDsa = true) : desired.svis[dev]? = none := by
  rw [← BTreeMap.not_mem_iff]
  intro hin
  have hv := foreign dev l hin hl
  cases hk : l.kind <;> simp_all [LinkKind.isDsa, LinkKind.isBridgeVlan]

section Plain
variable {dev : String} (plain : ∀ l, s.links[dev]? = some l → l.kind.isDsa = false)
include plain

theorem portOps_of_plain : portOps desired s dev = [] := by
  unfold portOps
  cases hl : s.links[dev]? with
  | none => rfl
  | some l => simp [planPort, plain l hl]

theorem leftoverOps_of_plain (gone : dev = bridgeName → (planBridge s).2 = true) :
    leftoverOps s dev = [] := by
  have howns : ownsAddresses s (planBridge s).2 dev = false := by
    unfold ownsAddresses
    cases hl : s.links[dev]? with
    | none => rfl
    | some l =>
      have hk := plain l hl
      cases hkind : l.kind <;> simp_all [LinkKind.isDsa]
  simp [leftoverOps, howns]

end Plain

/-- The operations for a port: its own and the left-over addresses. -/
theorem targeting_port (coherent : Coherent s) (foreign : NoForeign desired s) {dev : String}
    {l : Link} (hl : s.links[dev]? = some l) (hdsa : l.kind.isDsa = true) :
    targeting Op.target dev (planDeviceSection desired s) =
      planPort desired s (planBridge s).2 dev l ++
        ((device s dev).addresses.toList ++ (device s dev).leases.keys).map (Op.delAddress dev) := by
  have hself : selfOps desired s dev = [] := if_neg (ne_bridge_of_isDsa coherent hl hdsa)
  have hsvi : sviOps desired s dev = [] := by
    simp [sviOps, not_svi_of_isDsa foreign hl hdsa]
  have howns : ownsAddresses s (planBridge s).2 dev = true := by
    unfold ownsAddresses
    rw [hl]
    cases hk : l.kind <;> simp_all [LinkKind.isDsa]
  rw [targeting_deviceSection, hself, hsvi]
  simp [portOps, hl, leftoverOps, howns]

/-- The last operations for a port never fail: it goes up or down and loses its addresses. -/
theorem port_end (coherent : Coherent s) {dev : String} (kind : LinkKind) {up old : Bool}
    (master : Option String) (hup : dev ∉ s.platformNames → up = old) (want : Bool)
    (table : VlanMap) : ∃ d up', runLocal act
      ((if old != want then [Op.setUp dev want] else []) ++
        ((device s dev).addresses.toList ++ (device s dev).leases.keys).map (Op.delAddress dev))
      { device s dev with link := some ⟨kind, up, master⟩, vlans := table } = some d ∧
      d.link = some ⟨kind, up', master⟩ ∧ (dev ∉ s.platformNames → up' = want) ∧
      d.vlans = table ∧ (∀ p, p ∉ d.addresses) ∧ ∀ p, p ∉ d.leases := by
  obtain ⟨up', hfirst, hup'⟩ := runLocal_setUp dev
    (d := { device s dev with link := some ⟨kind, up, master⟩, vlans := table }) rfl hup want
  obtain ⟨addresses, leases, hclear, ha, hlease⟩ := runLocal_clear dev
    { device s dev with link := some ⟨kind, up', master⟩, vlans := table }
    (coherent.fit dev).disjoint
  exact ⟨_, up', by rw [runLocal_append, hfirst, Option.bind_some, hclear], rfl, hup', rfl, ha, hlease⟩

/-- A configured port: refused exactly if its default entry is stale; otherwise it
ends as a port of the bridge, with its entries unless ConfigureBridge interfered. -/
theorem configuredPort_run (coherent : Coherent s) (foreign : NoForeign desired s)
    (cascade : Cascade s (bridgeRoots desired s) removed) {dev : String} {l : Link} {port : Port}
    (hl : s.links[dev]? = some l) (hdsa : l.kind.isDsa = true)
    (hport : desired.ports[dev]? = some port) :
    (StaleAt desired s dev → runLocal act (targeting Op.target dev (planDeviceSection desired s))
      (bridgeView desired s removed dev) = none) ∧
    (¬ StaleAt desired s dev → ∃ d up, runLocal act
        (targeting Op.target dev (planDeviceSection desired s)) (bridgeView desired s removed dev) =
        some d ∧ d.link = some ⟨l.kind, up, some bridgeName⟩ ∧
      (dev ∉ s.platformNames → up = port.enabled) ∧
      (droppedPvid s = 0 → ∀ vid : UInt16, d.vlans[vid]? = portEntry port vid) ∧
      (∀ p, p ∉ d.addresses) ∧ ∀ p, p ∉ d.leases) := by
  have hdev := ne_bridge_of_isDsa coherent hl hdsa
  obtain ⟨up, master, vlans, hview, hup, -, -, hkeep⟩ := bridgeView_kept coherent cascade hl hdev
    (kept_of_parent cascade hdev (parent_of_isDsa hl hdsa))
  have hswitch : dev ∈ s.switchPorts := (mem_switchPorts s dev).mpr ⟨l, hl, hdsa⟩
  have hpresent : s.bridgeVlans.getD dev ∅ = (device s dev).vlans := rfl
  have hrest := port_end coherent l.kind (some bridgeName) hup port.enabled
  rw [targeting_port coherent foreign hl hdsa, hview]
  by_cases hen : (planBridge s).2 = false ∧ l.master = some bridgeName
  · obtain ⟨hfresh, hm⟩ := hen
    obtain ⟨rfl, rfl⟩ := hkeep hfresh
    have hens : (device s dev).enslavedTo bridgeName = true := by
      simp [Device.enslavedTo, device_link, hl, Link.enslavedTo, hm]
    have hplan : planPort desired s (planBridge s).2 dev l =
        syncVlans dev (device s dev).vlans (portVlans port) ++
          (if l.up != port.enabled then [Op.setUp dev port.enabled] else []) := by
      simp [planPort, hdsa, hport, hfresh, hm, hpresent]
    have hstale : StaleAt desired s dev ↔ droppedPvid s ≠ 0 ∧
        (device s dev).vlans[droppedPvid s]? = some access ∧ droppedPvid s ∉ portVlans port := by
      rw [BTreeMap.not_mem_iff, portVlans_getElem?]
      constructor
      · rintro ⟨hz, -, hentry, ⟨-, port', hport', hno⟩ | ⟨heq, -⟩⟩
        · obtain rfl : port' = port := Option.some.inj (hport'.symm.trans hport)
          exact ⟨hz, hentry, hno⟩
        · exact absurd heq hdev
      · rintro ⟨hz, hentry, hno⟩
        exact ⟨hz, hens, hentry, Or.inl ⟨hswitch, port, hport, hno⟩⟩
    obtain ⟨hfail, hok⟩ := runLocal_syncDropped dev (droppedPvid s) (portVlans port)
      { device s dev with
        link := some ⟨l.kind, up, l.master⟩
        vlans := if (device s dev).enslavedTo bridgeName
          then dropDefault (droppedPvid s) (device s dev).vlans else (device s dev).vlans }
      (device s dev).vlans (by simp [hens]) (by simp [Link.takesVlans, hm])
      (portVlans_singlePvid port)
    rw [hplan, List.append_assoc, runLocal_append]
    refine ⟨fun h => ?_, fun h => ?_⟩
    · rw [hfail (hstale.mp h)]
      rfl
    · obtain ⟨table, hrun, htable⟩ := hok (mt hstale.mpr h)
      obtain ⟨d, up', hd, hlink, hup', hvlans, ha, hlease⟩ := hrest table
      refine ⟨d, up', ?_, hlink, hup', fun hz vid => ?_, ha, hlease⟩
      · rw [hrun, Option.bind_some, ← hd, hm]
      · rw [hvlans, htable hz vid, portVlans_getElem?]
  · have hplan : planPort desired s (planBridge s).2 dev l =
        [Op.setMaster dev (some bridgeName)] ++ (syncVlans dev ∅ (portVlans port) ++
          (if l.up != port.enabled then [Op.setUp dev port.enabled] else [])) := by
      have hflag : (!(planBridge s).2 && l.master == some bridgeName) = false := by
        cases hf : (planBridge s).2 <;> simp_all
      simp [planPort, hdsa, hport, hflag]
    have hstale : ¬ StaleAt desired s dev := by
      -- Only a bridge that stays has its default dropped, and only a port of it loses an entry.
      rintro ⟨hz, hens, -⟩
      refine hen ⟨by rw [(reconfigured_of_dropped hz).1], ?_⟩
      simpa [Device.enslavedTo, device_link, hl, Link.enslavedTo] using hens
    obtain ⟨hok, -⟩ := runLocal_syncVlans dev ∅ (portVlans port)
      { device s dev with link := some ⟨l.kind, up, some bridgeName⟩, vlans := ∅ }
      (by simp [Link.takesVlans]) (portVlans_singlePvid port) (by simp)
    obtain ⟨table, hrun, htable⟩ := hok (by simp)
    obtain ⟨d, up', hd, hlink, hup', hvlans, ha, hlease⟩ := hrest table
    refine ⟨fun h => absurd h hstale, fun _ => ⟨d, up', ?_, hlink, hup', fun _ vid => ?_, ha, hlease⟩⟩
    · rw [hplan, List.append_assoc, List.append_assoc, runLocal_append]
      simp only [runLocal_cons, act, Option.map_some, Option.bind_some, runLocal_nil]
      rw [runLocal_append, hrun, Option.bind_some, hd]
    · rw [hvlans, htable vid, ← portVlans_getElem?]
      split
      · next heq => rw [← heq]
      · rfl

/-- A port that is not configured leaves its bridge and goes down. -/
theorem otherPort_run (coherent : Coherent s) (foreign : NoForeign desired s)
    (cascade : Cascade s (bridgeRoots desired s) removed) {dev : String} {l : Link}
    (hl : s.links[dev]? = some l) (hdsa : l.kind.isDsa = true) (hno : dev ∉ desired.ports) :
    ∃ d up, runLocal act (targeting Op.target dev (planDeviceSection desired s))
        (bridgeView desired s removed dev) = some d ∧ d.link = some ⟨l.kind, up, none⟩ ∧
      (dev ∉ s.platformNames → up = false) ∧ (∀ p, p ∉ d.addresses) ∧ ∀ p, p ∉ d.leases := by
  have hdev := ne_bridge_of_isDsa coherent hl hdsa
  obtain ⟨up, master, vlans, hview, hup, -, hmaster, -⟩ := bridgeView_kept coherent cascade hl hdev
    (kept_of_parent cascade hdev (parent_of_isDsa hl hdsa))
  have hnone := (BTreeMap.not_mem_iff desired.ports dev).mp hno
  have hplan : planPort desired s (planBridge s).2 dev l =
      (if l.master.isSome then [Op.setMaster dev none] else []) ++
        (if l.up != false then [Op.setUp dev false] else []) := by
    simp [planPort, hdsa, hnone]
  obtain ⟨table, hfirst⟩ : ∃ table, runLocal act
      (if l.master.isSome then [Op.setMaster dev none] else [])
      { device s dev with link := some ⟨l.kind, up, master⟩, vlans } =
      some { device s dev with link := some ⟨l.kind, up, none⟩, vlans := table } := by
    cases hm : l.master with
    | none => exact ⟨vlans, by simp [hmaster hm]⟩
    | some m => exact ⟨∅, by simp [act]⟩
  obtain ⟨d, up', hd, hlink, hup', -, ha, hlease⟩ := port_end coherent l.kind none hup false table
  refine ⟨d, up', ?_, hlink, hup', ha, hlease⟩
  rw [targeting_port coherent foreign hl hdsa, hview, hplan, List.append_assoc, runLocal_append,
    hfirst, Option.bind_some, hd]

/-- The bridge's own entries and left-over addresses. -/
theorem bridge_run (coherent : Coherent s) (hsvi : bridgeName ∉ desired.svis) :
    (StaleAt desired s bridgeName → runLocal act
      (targeting Op.target bridgeName (planDeviceSection desired s))
      (bridgeView desired s removed bridgeName) = none) ∧
    (¬ StaleAt desired s bridgeName → ∃ d, runLocal act
        (targeting Op.target bridgeName (planDeviceSection desired s))
        (bridgeView desired s removed bridgeName) = some d ∧
      d.link = (bridgeDevice desired s).link ∧
      (droppedPvid s = 0 → ∀ vid : UInt16, d.vlans[vid]? = (selfVlans desired)[vid]?) ∧
      (∀ p, p ∉ d.addresses) ∧ ∀ p, p ∉ d.leases) := by
  have plain : ∀ l, s.links[bridgeName]? = some l → l.kind.isDsa = false := by
    intro l hl
    simpa [Device.isDsa, device_link, hl] using coherent.bridgeNotPort
  have hnone : sviOps desired s bridgeName = [] := by
    simp [sviOps, (BTreeMap.not_mem_iff desired.svis bridgeName).mp hsvi]
  have hstart : bridgeView desired s removed bridgeName = bridgeDevice desired s := if_pos rfl
  rw [targeting_deviceSection, portOps_of_plain plain, hnone, hstart, List.nil_append, List.append_nil]
  cases hfresh : (planBridge s).2 with
  | true =>
    have hbase : bridgeBase s = {} := by simp [bridgeBase, hfresh]
    have hpvid : droppedPvid s = 0 := by
      by_contra hdropped
      simp [(reconfigured_of_dropped hdropped).1] at hfresh
    have hself : selfOps desired s bridgeName = syncVlans bridgeName ∅ (selfVlans desired) := by
      simp [selfOps, planSelfVlans, hfresh]
    obtain ⟨hok, -⟩ := runLocal_syncVlans bridgeName ∅ (selfVlans desired) (bridgeDevice desired s)
      (by simp [bridgeDevice, Link.takesVlans, LinkKind.isBridge]) (selfVlans_singlePvid desired)
      (by simp [bridgeDevice, hbase])
    obtain ⟨table, hrun, htable⟩ := hok (by simp)
    refine ⟨fun h => absurd hpvid h.1, fun _ => ⟨{ bridgeDevice desired s with vlans := table }, ?_,
      rfl, fun _ vid => ?_, ?_, ?_⟩⟩
    · rw [hself, leftoverOps_of_plain plain fun _ => hfresh, List.append_nil, hrun]
    · rw [htable vid]
      split
      · next heq => rw [← heq, bridgeDevice, hbase]
      · rfl
    · simp [bridgeDevice, hbase]
    · simp [bridgeDevice, hbase]
  | false =>
    have hbr := bridge_of_not_fresh hfresh
    have howns : ownsAddresses s (planBridge s).2 bridgeName = true := by
      obtain ⟨l, hl, hk⟩ := (Option.any_eq_true _ _).mp hbr
      rw [device_link] at hl
      unfold ownsAddresses
      rw [hl, hfresh]
      cases hkind : l.kind <;> simp_all [LinkKind.isBridge]
    have hleft : leftoverOps s bridgeName = ((device s bridgeName).addresses.toList ++
        (device s bridgeName).leases.keys).map (Op.delAddress bridgeName) := by
      simp [leftoverOps, howns]
    have hself : selfOps desired s bridgeName =
        syncVlans bridgeName (device s bridgeName).vlans (selfVlans desired) := by
      simp only [selfOps, planSelfVlans, hfresh, if_true, Bool.false_eq_true, if_false]
      rfl
    let old := if (device s bridgeName).enslavedTo bridgeName then droppedPvid s else 0
    have hvlans : (bridgeDevice desired s).vlans = dropDefault old (device s bridgeName).vlans := by
      simp only [bridgeDevice, bridgeBase, hfresh, Bool.false_eq_true, if_false, Device.dropDefault,
        old]
      split
      · rfl
      · rw [dropDefault_zero]
    have haddr : (bridgeDevice desired s).addresses = (device s bridgeName).addresses ∧
        (bridgeDevice desired s).leases = (device s bridgeName).leases := by
      simp only [bridgeDevice, bridgeBase, hfresh, Bool.false_eq_true, if_false, Device.dropDefault]
      split <;> exact ⟨rfl, rfl⟩
    have hstale : StaleAt desired s bridgeName ↔ old ≠ 0 ∧
        (device s bridgeName).vlans[old]? = some access ∧ old ∉ selfVlans desired := by
      by_cases hens : (device s bridgeName).enslavedTo bridgeName = true
      · have hold : old = droppedPvid s := if_pos hens
        rw [hold]
        constructor
        · rintro ⟨hz, -, hentry, ⟨hsp, -⟩ | ⟨-, hno⟩⟩
          · obtain ⟨l, hl, hdsa⟩ := (mem_switchPorts s bridgeName).mp hsp
            exact absurd rfl (ne_bridge_of_isDsa coherent hl hdsa)
          · exact ⟨hz, hentry, hno⟩
        · rintro ⟨hz, hentry, hno⟩
          exact ⟨hz, hens, hentry, Or.inr ⟨rfl, hno⟩⟩
      · have hold : old = 0 := if_neg hens
        exact ⟨fun h => absurd h.2.1 hens, fun h => absurd hold h.1⟩
    obtain ⟨hfail, hok⟩ := runLocal_syncDropped bridgeName old (selfVlans desired)
      (bridgeDevice desired s) (device s bridgeName).vlans hvlans
      (by simp [bridgeDevice, Link.takesVlans, LinkKind.isBridge]) (selfVlans_singlePvid desired)
    rw [hself, hleft, runLocal_append]
    refine ⟨fun h => ?_, fun h => ?_⟩
    · rw [hfail (hstale.mp h)]
      rfl
    · obtain ⟨table, hrun, htable⟩ := hok (mt hstale.mpr h)
      obtain ⟨addresses, leases, hclear, ha, hlease⟩ := runLocal_clear bridgeName
        { bridgeDevice desired s with vlans := table }
        (by
          intro p hp hq
          simp only [haddr.1, haddr.2] at hp hq
          exact (coherent.fit bridgeName).disjoint p hp hq)
      simp only [haddr.1, haddr.2] at hclear
      refine ⟨{ bridgeDevice desired s with vlans := table, addresses, leases }, ?_, rfl,
        fun hz vid => ?_, ha, hlease⟩
      · rw [hrun, Option.bind_some, ← hclear, haddr.1, haddr.2]
      · exact htable (by simp [old, hz]) vid

/-- A wanted VLAN link on a bridge that stays survives the deletions. -/
theorem svi_kept (cascade : Cascade s (bridgeRoots desired s) removed)
    (hfresh : (planBridge s).2 = false) {dev : String}
    (hex : dev ∈ existingSvis desired s false) : dev ∉ removed := by
  obtain ⟨svi, up, master, hsvi, hl⟩ := (mem_existingSvis desired s dev).mp hex
  have hparent : (device s dev).parent = some bridgeName := by
    simp [Device.parent, device_link, hl]
  have hbr := bridge_of_not_fresh hfresh
  have hnotStale : bridgeName ∉ bridgeRoots desired s := by
    intro hin
    have hstale : bridgeName ∈ staleNames desired s := by simpa [bridgeRoots, hfresh] using hin
    exact Bool.false_ne_true ((staleNames_not_bridge hstale).symm.trans hbr)
  intro hin
  rcases cascade.reason dev hin with hroot | ⟨p, hp, hpar⟩
  · have hstale : dev ∈ staleNames desired s := by simpa [bridgeRoots, hfresh] using hroot
    obtain ⟨id, up', master', hl', hno⟩ := (mem_staleNames desired s dev).mp hstale
    rw [hl] at hl'
    cases hl'
    exact hno ⟨svi, hsvi, rfl⟩
  · rw [hparent] at hpar
    cases hpar
    exact cascade_not_mem cascade (parent_of_isBridge hbr) hnotStale hp

/-- VLAN links on the bridge that are not wanted as they are go. -/
theorem bridgeVlan_removed (coherent : Coherent s)
    (cascade : Cascade s (bridgeRoots desired s) removed) {dev : String} {l : Link}
    (hl : s.links[dev]? = some l) (hv : l.kind.isBridgeVlan = true)
    (hno : (planBridge s).2 = false → dev ∉ existingSvis desired s false) : dev ∈ removed := by
  obtain ⟨kind, up, master⟩ := l
  obtain ⟨id, rfl⟩ : ∃ id, kind = .vlan bridgeName id := by
    cases kind <;> simp_all [LinkKind.isBridgeVlan]
  have hparent : (device s dev).parent = some bridgeName := by
    simp [Device.parent, device_link, hl]
  cases hfresh : (planBridge s).2 with
  | true =>
    have hbr := coherent.parents dev bridgeName hparent
    rw [device_link, ← BTreeMap.contains_eq] at hbr
    refine cascade.closed dev bridgeName hparent (cascade.self bridgeName ?_)
    simp [bridgeRoots, hfresh, hbr]
  | false =>
    have hstale : dev ∈ staleNames desired s := by
      refine (mem_staleNames desired s dev).mpr ⟨id, up, master, hl, ?_⟩
      rintro ⟨svi, hs, rfl⟩
      exact hno hfresh ((mem_existingSvis desired s dev).mpr ⟨svi, up, master, hs, hl⟩)
    exact cascade.self dev (by simpa [bridgeRoots, hfresh] using hstale)

/-- Any other link under an SVI's name is gone by then. -/
theorem svi_absent (coherent : Coherent s) (foreign : NoForeign desired s)
    (cascade : Cascade s (bridgeRoots desired s) removed) {dev : String}
    (hsvi : dev ∈ desired.svis) (hdev : dev ≠ bridgeName)
    (hno : dev ∉ existingSvis desired s (planBridge s).2) :
    bridgeView desired s removed dev = {} := by
  rw [bridgeView, if_neg hdev]
  cases hl : s.links[dev]? with
  | none =>
    have hempty : device s dev = {} := (coherent.fit dev).eq_empty hl
    have hplat : platformView s dev = {} := by
      rw [platformView, hempty]
      split <;> rfl
    rw [hplat, Device.dropDefault, Device.enslavedTo, Device.without]
    simp [Device.masterIn]
  | some l =>
    have hin := bridgeVlan_removed coherent cascade hl (foreign dev l hsvi hl)
      fun hfresh => hfresh ▸ hno
    rw [Device.without, if_pos hin]

/-- The operations under an SVI's name are the SVI's. -/
theorem targeting_svi (foreign : NoForeign desired s) {dev : String} {svi : Svi}
    (hsvi : desired.svis[dev]? = some svi) (hdev : dev ≠ bridgeName) :
    targeting Op.target dev (planDeviceSection desired s) =
      planSvi s ((existingSvis desired s (planBridge s).2).contains dev) dev svi := by
  have plain : ∀ l, s.links[dev]? = some l → l.kind.isDsa = false := by
    intro l hl
    by_contra hdsa
    have hnone := not_svi_of_isDsa foreign hl (by simpa using hdsa)
    rw [hsvi] at hnone
    cases hnone
  rw [targeting_deviceSection, portOps_of_plain plain, leftoverOps_of_plain plain fun h => absurd h hdev]
  simp [selfOps, hdev, sviOps, hsvi]

/-- An SVI is created if need be, and ends with its addresses and state. -/
theorem svi_run (coherent : Coherent s) (foreign : NoForeign desired s)
    (cascade : Cascade s (bridgeRoots desired s) removed) {dev : String} {svi : Svi}
    (hsvi : desired.svis[dev]? = some svi) (hdev : dev ≠ bridgeName) :
    ∃ d up master, runLocal act (targeting Op.target dev (planDeviceSection desired s))
        (bridgeView desired s removed dev) = some d ∧
      d.link = some ⟨.vlan bridgeName svi.vlan, up, master⟩ ∧
      (dev ∉ s.platformNames → up = svi.enabled) ∧
      (∀ p, p ∈ d.addresses ↔ p ∈ svi.addresses) ∧
      ∀ p, p ∈ d.leases → svi.dhcpClient = true ∧ p ∉ svi.addresses := by
  have hmem : dev ∈ desired.svis := (BTreeMap.mem_iff _ _).mpr ⟨svi, hsvi⟩
  rw [targeting_svi foreign hsvi hdev]
  by_cases hex : dev ∈ existingSvis desired s (planBridge s).2
  · have hfresh : (planBridge s).2 = false := by
      by_contra h
      simp [existingSvis, bridgeVlanLinks, h] at hex
    have hc : (existingSvis desired s (planBridge s).2).contains dev = true := by simpa using hex
    rw [hfresh] at hex
    have hkept := svi_kept cascade hfresh hex
    obtain ⟨svi', u, m, hs', hl⟩ := (mem_existingSvis desired s dev).mp hex
    obtain rfl : svi = svi' := Option.some.inj (hsvi.symm.trans hs')
    obtain ⟨up, master, vlans, hview, hup, -, -, -⟩ := bridgeView_kept coherent cascade hl hdev hkept
    obtain ⟨addresses, leases, hrun, ha, hlease⟩ := runLocal_syncAddresses dev svi
      { device s dev with link := some ⟨.vlan bridgeName svi.vlan, up, master⟩, vlans } rfl
      (coherent.fit dev).disjoint
    have hplan : planSvi s true dev svi =
        syncAddresses dev svi (device s dev).addresses (device s dev).leases ++
          (if u != svi.enabled then [Op.setUp dev svi.enabled] else []) := by
      simp [planSvi, hl, device]
    obtain ⟨up', hlast, hup'⟩ := runLocal_setUp dev (d := { device s dev with
      link := some ⟨.vlan bridgeName svi.vlan, up, master⟩, vlans, addresses, leases }) rfl hup
      svi.enabled
    rw [hc, hview, hplan, runLocal_append, hrun, Option.bind_some]
    refine ⟨_, up', master, hlast, rfl, hup', ha, fun p hp => ?_⟩
    exact ⟨((hlease p).mp hp).2.2, ((hlease p).mp hp).2.1⟩
  · have hc : (existingSvis desired s (planBridge s).2).contains dev = false :=
      (BTreeSet.contains_eq_false _ _).mpr hex
    obtain ⟨addresses, leases, hrun, ha, hlease⟩ := runLocal_syncAddresses dev svi
      ({ link := some (newLink (.vlan bridgeName svi.vlan)) } : Device) rfl (by simp [Device.Disjoint])
    have hplan : planSvi s false dev svi = [Op.createVlan dev bridgeName svi.vlan] ++
        (syncAddresses dev svi ∅ ∅ ++
          (if false != svi.enabled then [Op.setUp dev svi.enabled] else [])) := by
      cases he : svi.enabled <;> simp [planSvi, he]
    obtain ⟨up, hlast, hup⟩ := runLocal_setUp dev
      (d := { link := some (newLink (.vlan bridgeName svi.vlan)), addresses, leases })
      rfl (fun _ : True => rfl) svi.enabled
    rw [hc, svi_absent coherent foreign cascade hmem hdev hex, hplan, runLocal_append]
    simp only [runLocal_cons, act, Option.isSome_none, Bool.false_eq_true, if_false,
      Option.bind_some, runLocal_nil]
    rw [runLocal_append, hrun, Option.bind_some]
    refine ⟨_, up, none, hlast, rfl, fun _ => hup trivial, ha, fun p hp => ?_⟩
    exact ⟨((hlease p).mp hp).2.2, ((hlease p).mp hp).2.1⟩

/-- Nothing happens under any other name. -/
theorem targeting_other {dev : String} (hdev : dev ≠ bridgeName) (hno : dev ∉ desired.svis)
    (hport : dev ∉ s.switchPorts) : targeting Op.target dev (planDeviceSection desired s) = [] := by
  have plain : ∀ l, s.links[dev]? = some l → l.kind.isDsa = false := by
    intro l hl
    by_contra hk
    exact hport ((mem_switchPorts s dev).mpr ⟨l, hl, by simpa using hk⟩)
  rw [targeting_deviceSection, portOps_of_plain plain, leftoverOps_of_plain plain fun h => absurd h hdev]
  simp [selfOps, hdev, sviOps, (BTreeMap.not_mem_iff desired.svis dev).mp hno]

end Devices

end ClixonSwitch.Guarantees
