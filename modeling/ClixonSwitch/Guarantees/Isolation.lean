import ClixonSwitch.Guarantees.Rounds
import ClixonSwitch.Source.SwitchNet.Frames

/-!
# Unrelated interfaces are not disturbed

With a bridge that is right, what the planner does to an interface depends on that
interface alone: on its link, entries and addresses, and on the port or SVI that it should
be. An interface that already is as it should be is not named at all.
-/
namespace ClixonSwitch.Guarantees
open Std Lib Source.SwitchModel Source.SwitchNet

/-- `br-lan` filters VLANs, has no default PVID and has MST enabled. -/
def BridgeConfigured (s : ActualState) : Prop :=
  ∃ b up master, s.links[bridgeName]? = some ⟨.bridge b, up, master⟩ ∧
    b.vlanFiltering = true ∧ b.defaultPvid = 0 ∧ b.mstEnabled = true

/-- The interfaces that an operation names. -/
def namesOf : Op → List String
  | .createVlan name parent _ => [name, parent]
  | .setMaster name (some master) => [name, master]
  | op => [op.target]

/-- A switch port is as it should be. -/
structure PortMatches (desired : DesiredState) (s : ActualState) (dev : String) (l : Link) :
    Prop where
  link : s.links[dev]? = some l
  dsa : l.kind.isDsa = true
  configured : ∀ port, desired.ports[dev]? = some port → l.master = some bridgeName ∧
    l.up = port.enabled ∧ ∀ vid, vlanEntry s dev vid = portEntry port vid
  unconfigured : dev ∉ desired.ports → l.master = none ∧ l.up = false
  unaddressed : ∀ p, ¬ hasAddress s dev p ∧ ¬ hasLease s dev p

/-- The VLAN link of an SVI is as it should be. -/
structure SviLinkMatches (desired : DesiredState) (s : ActualState) (dev : String) (svi : Svi) :
    Prop where
  wanted : desired.svis[dev]? = some svi
  link : ∃ master, s.links[dev]? = some ⟨.vlan bridgeName svi.vlan, svi.enabled, master⟩
  addresses : ∀ p, hasAddress s dev p ↔ p ∈ svi.addresses
  leases : svi.dhcpClient = false → ∀ p, ¬ hasLease s dev p

/-- Two pairs of a desired and an actual state have the same of one interface. -/
structure SameInterface (dev : String) (desired : DesiredState) (s : ActualState)
    (desired' : DesiredState) (s' : ActualState) : Prop where
  link : s.links[dev]? = s'.links[dev]?
  vlans : s.bridgeVlans.getD dev ∅ = s'.bridgeVlans.getD dev ∅
  addresses : s.addresses.getD dev ∅ = s'.addresses.getD dev ∅
  leases : (s.dhcpAddresses.getD dev ∅).keys = (s'.dhcpAddresses.getD dev ∅).keys
  port : desired.ports[dev]? = desired'.ports[dev]?
  svi : desired.svis[dev]? = desired'.svis[dev]?

section Sections
variable {desired desired' : DesiredState} {s s' : ActualState} {dev : String}

theorem BridgeConfigured.planBridge (h : BridgeConfigured s) : planBridge s = ([], false) := by
  obtain ⟨⟨vlanFiltering, defaultPvid, mstEnabled, stp⟩, up, master, hl, rfl, rfl, rfl⟩ := h
  exact planBridge_of_configured s hl

theorem not_isBridge_of_isDsa {kind : LinkKind} (h : kind.isDsa = true) :
    kind.isBridge = false := by
  cases kind with
  | dsa conduit => rfl
  | _ => cases h

theorem BridgeConfigured.ne_bridge (h : BridgeConfigured s) {l : Link}
    (hl : s.links[dev]? = some l) (hkind : l.kind.isBridge = false) : dev ≠ bridgeName := by
  rintro rfl
  obtain ⟨b, up, master, hl', -⟩ := h
  rw [hl'] at hl
  cases hl
  cases hkind

/-- What the first half of the plan does to an interface other than the bridge. -/
def staleOps (desired : DesiredState) (s : ActualState) (dev : String) : List Op :=
  if dev ∈ staleNames desired s then [.deleteLink dev] else []

theorem targeting_bridgeSection (h : BridgeConfigured s) (hdev : dev ≠ bridgeName) :
    targeting Op.target dev (planBridgeSection desired s) = staleOps desired s dev := by
  have hup : targeting Op.target dev (planBridgeUp s false) = [] := by
    refine targeting_eq_nil fun op hop => ?_
    rw [planBridgeUp, List.mem_ite_nil_right, List.mem_singleton] at hop
    rw [hop.2]
    exact hdev.symm
  have hstp : targeting Op.target dev (planStp desired s false) = [] := by
    refine targeting_eq_nil fun op hop => ?_
    simp only [planStp, List.mem_append, List.mem_ite_nil_right, List.mem_singleton] at hop
    rcases hop with ⟨-, rfl⟩ | ⟨-, rfl⟩ <;> exact hdev.symm
  have hstale : planStaleSvis desired s false = (staleNames desired s).map Op.deleteLink := by
    simp [planStaleSvis, staleNames, Function.comp_def]
  rw [planBridgeSection, h.planBridge, targeting_append, targeting_append, targeting_append, hup,
    hstp, hstale, targeting_map _ _ (fun _ => rfl) (staleNames_nodup desired s)]
  rfl

/-- All that the plan does to an interface other than the bridge. -/
theorem targeting_plan {ops : List Op} (h : BridgeConfigured s) (planned : plan desired s = .ok ops)
    (hdev : dev ≠ bridgeName) :
    targeting Op.target dev ops = staleOps desired s dev ++ (portOps desired s dev ++
      sviOps desired s dev ++ leftoverOps s dev) := by
  obtain ⟨-, rfl⟩ := (plan_eq_ok desired s).mp planned
  rw [targeting_append, targeting_bridgeSection h hdev, targeting_deviceSection, selfOps,
    if_neg hdev, List.append_nil]

/-- Beside operations on one device, the plan only deletes stale VLAN links of the bridge. -/
theorem plan_spreads {ops : List Op} (h : BridgeConfigured s) (planned : plan desired s = .ok ops)
    {op : Op} (hop : op ∈ ops) :
    op.spreads = false ∨ ∃ x, op = .deleteLink x ∧ x ∈ staleNames desired s := by
  obtain ⟨-, rfl⟩ := (plan_eq_ok desired s).mp planned
  rcases List.mem_append.mp hop with hfirst | hsecond
  · cases bridgeOp_of_mem hfirst with
    | stale x id up master stays link unwanted =>
      refine Or.inr ⟨x, rfl, ?_⟩
      simp only [staleNames, List.mem_map, List.mem_filter]
      exact ⟨(x, id), ⟨(mem_bridgeVlanLinks _ _ _).mpr ⟨up, master, link⟩, by simp [unwanted]⟩, rfl⟩
    | setUp => exact Or.inl rfl
    | setStp on => exact Or.inl rfl
    | _ planned =>
      rw [h.planBridge] at planned
      cases planned
  · have hlocal := planDeviceSection_isLocal desired s op hsecond
    cases op with
    | configureBridge x => cases hlocal
    | deleteLink x => cases hlocal
    | _ => exact Or.inl rfl

/-- A switch port gets its own operations, and its left-over addresses are deleted. -/
theorem targeting_plan_port {ops : List Op} (h : BridgeConfigured s)
    (planned : plan desired s = .ok ops) {l : Link} (hl : s.links[dev]? = some l)
    (hdsa : l.kind.isDsa = true) :
    targeting Op.target dev ops = portOps desired s dev ++ leftoverOps s dev := by
  have hdev := h.ne_bridge hl (not_isBridge_of_isDsa hdsa)
  obtain ⟨hnone, -⟩ := (plan_eq_ok desired s).mp planned
  have hsvi : desired.svis[dev]? = none :=
    not_svi_of_isDsa ((takenSviName_eq_none desired s).mp hnone) hl hdsa
  have hstale : staleOps desired s dev = [] := by
    refine if_neg fun hmem => ?_
    obtain ⟨id, up, master, hl', -⟩ := (mem_staleNames desired s dev).mp hmem
    rw [hl] at hl'
    cases hl'
    cases hdsa
  rw [targeting_plan h planned hdev, hstale, sviOps, hsvi]
  simp

theorem staleOps_congr (agree : SameInterface dev desired s desired' s') :
    staleOps desired s dev = staleOps desired' s' dev := by
  have hiff : dev ∈ staleNames desired s ↔ dev ∈ staleNames desired' s' := by
    rw [mem_staleNames, mem_staleNames, agree.link, agree.svi]
  unfold staleOps
  split <;> split <;> simp_all

theorem portOps_congr (h : BridgeConfigured s) (h' : BridgeConfigured s')
    (agree : SameInterface dev desired s desired' s') :
    portOps desired s dev = portOps desired' s' dev := by
  simp only [portOps, h.planBridge, h'.planBridge, planPort, agree.link, agree.vlans, agree.port]

theorem syncAddresses_congr {dhcp dhcp' : BTreeMap Ipv4Prefix UInt32} (h : dhcp.keys = dhcp'.keys)
    (name : String) (svi : Svi) (present : BTreeSet Ipv4Prefix) :
    syncAddresses name svi present dhcp = syncAddresses name svi present dhcp' := by
  have hcontains : ∀ p, dhcp.contains p = dhcp'.contains p := by
    intro p
    rw [Bool.eq_iff_iff, ← ExtTreeMap.mem_iff_contains, ← ExtTreeMap.mem_iff_contains,
      ← ExtTreeMap.mem_keys, h, ExtTreeMap.mem_keys]
  simp only [syncAddresses, h, hcontains]

theorem sviOps_congr (h : BridgeConfigured s) (h' : BridgeConfigured s')
    (agree : SameInterface dev desired s desired' s') :
    sviOps desired s dev = sviOps desired' s' dev := by
  have hexisting : (existingSvis desired s false).contains dev =
      (existingSvis desired' s' false).contains dev := by
    rw [Bool.eq_iff_iff, ← ExtTreeSet.mem_iff_contains, ← ExtTreeSet.mem_iff_contains,
      mem_existingSvis, mem_existingSvis, agree.link, agree.svi]
  simp only [sviOps, h.planBridge, h'.planBridge, agree.svi, hexisting]
  split
  · next svi _ =>
    simp only [planSvi, agree.link, agree.addresses]
    split
    · rw [syncAddresses_congr agree.leases]
    · rfl
  · rfl

theorem leftoverOps_congr (h : BridgeConfigured s) (h' : BridgeConfigured s')
    (agree : SameInterface dev desired s desired' s') : leftoverOps s dev = leftoverOps s' dev := by
  have haddresses : (device s dev).addresses = (device s' dev).addresses := agree.addresses
  have hleases : (device s dev).leases.keys = (device s' dev).leases.keys := agree.leases
  simp only [leftoverOps, ownsAddresses, h.planBridge, h'.planBridge, agree.link, haddresses,
    hleases]

/-- An operation names, beside its own interface, at most the bridge. -/
theorem plan_names {ops : List Op} (planned : plan desired s = .ok ops) {op : Op} (hop : op ∈ ops) :
    ∀ name ∈ namesOf op, name = op.target ∨ name = bridgeName := by
  obtain ⟨-, rfl⟩ := (plan_eq_ok desired s).mp planned
  rcases List.mem_append.mp hop with hop | hop
  · cases bridgeOp_of_mem hop <;> exact fun name hname => Or.inl (List.mem_singleton.mp hname)
  · have hlocal := planDeviceSection_isLocal desired s op hop
    intro name hname
    cases op with
    | createVlan dev parent id =>
      rcases List.mem_pair.mp hname with rfl | rfl
      · exact Or.inl rfl
      · exact Or.inr (beq_iff_eq.mp hlocal)
    | setMaster dev master =>
      cases master with
      | none => exact Or.inl (List.mem_singleton.mp hname)
      | some m =>
        rcases List.mem_pair.mp hname with rfl | rfl
        · exact Or.inl rfl
        · exact Or.inr (beq_iff_eq.mp hlocal)
    | _ => exact Or.inl (List.mem_singleton.mp hname)

theorem not_named {ops : List Op} (planned : plan desired s = .ok ops) (hdev : dev ≠ bridgeName)
    (hnil : targeting Op.target dev ops = []) : ∀ op ∈ ops, dev ∉ namesOf op := by
  intro op hop hname
  rcases plan_names planned hop dev hname with htarget | hbr
  · have hmem : op ∈ targeting Op.target dev ops := by
      simpa [targeting, ← htarget] using hop
    rw [hnil] at hmem
    cases hmem
  · exact hdev hbr

theorem leftoverOps_nil (unaddressed : ∀ p, ¬ hasAddress s dev p ∧ ¬ hasLease s dev p) :
    leftoverOps s dev = [] := by
  have haddresses : (device s dev).addresses.toList = [] :=
    List.eq_nil_iff_forall_not_mem.mpr fun p hp =>
      (unaddressed p).1 (ExtTreeSet.mem_toList.mp hp)
  have hleases : (device s dev).leases.keys = [] :=
    List.eq_nil_iff_forall_not_mem.mpr fun p hp =>
      (unaddressed p).2 (ExtTreeMap.mem_keys.mp hp)
  rw [leftoverOps, haddresses, hleases]
  split <;> rfl

theorem PortMatches.idle {l : Link} (m : PortMatches desired s dev l) (h : BridgeConfigured s)
    {ops : List Op} (planned : plan desired s = .ok ops) :
    ∀ op ∈ ops, dev ∉ namesOf op := by
  have hport : portOps desired s dev = [] := by
    simp only [portOps, m.link, h.planBridge, planPort, m.dsa, if_true]
    cases hp : desired.ports[dev]? with
    | none =>
      obtain ⟨hmaster, hup⟩ := m.unconfigured ((BTreeMap.not_mem_iff _ _).mpr hp)
      simp [hmaster, hup]
    | some port =>
      obtain ⟨hmaster, hup, hentries⟩ := m.configured port hp
      have hsync : syncVlans dev (s.bridgeVlans.getD dev ∅) (portVlans port) = [] := by
        rw [syncVlans_eq_nil]
        intro vid
        rw [portVlans_getElem?]
        exact hentries vid
      simp [hmaster, hup, hsync]
  refine not_named planned (h.ne_bridge m.link (not_isBridge_of_isDsa m.dsa)) ?_
  rw [targeting_plan_port h planned m.link m.dsa, hport, leftoverOps_nil m.unaddressed]
  rfl

theorem SviLinkMatches.idle {svi : Svi} (m : SviLinkMatches desired s dev svi)
    (h : BridgeConfigured s) {ops : List Op} (planned : plan desired s = .ok ops) :
    ∀ op ∈ ops, dev ∉ namesOf op := by
  obtain ⟨master, hl⟩ := m.link
  have hdev := h.ne_bridge hl rfl
  have hstale : staleOps desired s dev = [] := by
    refine if_neg fun hmem => ?_
    obtain ⟨id, up, master', hl', hno⟩ := (mem_staleNames desired s dev).mp hmem
    rw [hl] at hl'
    cases hl'
    exact hno ⟨svi, m.wanted, rfl⟩
  have hport : portOps desired s dev = [] := by
    simp [portOps, hl, planPort, LinkKind.isDsa]
  have hexisting : (existingSvis desired s false).contains dev = true := by
    rw [← ExtTreeSet.mem_iff_contains, mem_existingSvis]
    exact ⟨svi, svi.enabled, master, m.wanted, hl⟩
  have hsync : syncAddresses dev svi (s.addresses.getD dev ∅) (s.dhcpAddresses.getD dev ∅) = [] := by
    rw [syncAddresses_eq_nil]
    exact ⟨m.addresses, fun hclient p hp => absurd hp (m.leases hclient p)⟩
  have hsvi : sviOps desired s dev = [] := by
    simp [sviOps, m.wanted, h.planBridge, hexisting, planSvi, hsync, hl]
  have hleft : leftoverOps s dev = [] := by
    simp [leftoverOps, ownsAddresses, hl]
  refine not_named planned hdev ?_
  rw [targeting_plan h planned hdev, hstale, hport, hsvi, hleft]
  rfl

end Sections

/-- With a bridge that is right, an interface that already matches is not named, and any
other interface gets the same operations whatever else differs. -/
theorem plan_isolates_interfaces (desired desired' : DesiredState) (s s' : ActualState)
    (ops ops' : List Op) (ready : BridgeConfigured s) (ready' : BridgeConfigured s')
    (planned : plan desired s = .ok ops) (planned' : plan desired' s' = .ok ops')
    (dev : String) :
    ((∃ l, PortMatches desired s dev l) ∨ (∃ svi, SviLinkMatches desired s dev svi) →
        ∀ op ∈ ops, dev ∉ namesOf op) ∧
      (dev ≠ bridgeName → SameInterface dev desired s desired' s' →
        targeting Op.target dev ops = targeting Op.target dev ops') := by
  constructor
  · rintro (⟨l, m⟩ | ⟨svi, m⟩)
    · exact m.idle ready planned
    · exact m.idle ready planned
  · intro hdev agree
    rw [targeting_plan ready planned hdev, targeting_plan ready' planned' hdev,
      staleOps_congr agree, portOps_congr ready ready' agree, sviOps_congr ready ready' agree,
      leftoverOps_congr ready ready' agree]

/-- One port in service, and one that has not been configured so far. -/
def halfInService : ActualState where
  links := ExtTreeMap.ofList
    [("br-lan", ⟨.bridge ⟨true, 0, true, .off⟩, true, none⟩),
      ("lan1", ⟨.dsa none, true, some "br-lan"⟩), ("lan2", ⟨.dsa none, false, none⟩)] compare
  bridgeVlans := ExtTreeMap.ofList [("lan1", portVlans ⟨true, some 10, ∅⟩)] compare

/-- Both ports with a native VLAN, that of the second one given. -/
def bothPorts (vid : UInt16) : DesiredState where
  ports := ExtTreeMap.ofList
    [("lan1", ⟨true, some 10, ∅⟩), ("lan2", ⟨true, some vid, ∅⟩)] compare

def joinSecond (vid : UInt16) : List Op :=
  [.setMaster "lan2" (some "br-lan"), .addBridgeVlan "lan2" vid access, .setUp "lan2" true]

theorem plan_isolates_interfaces_second_port :
    (∀ op ∈ joinSecond 20, "lan1" ∉ namesOf op) ∧
      targeting Op.target "lan1" (joinSecond 20) = targeting Op.target "lan1" (joinSecond 30) := by
  have hready : BridgeConfigured halfInService :=
    ⟨⟨true, 0, true, .off⟩, true, none, by decide +kernel, rfl, rfl, rfl⟩
  have hlan1 : halfInService.links["lan1"]? = some ⟨.dsa none, true, some "br-lan"⟩ := by
    decide +kernel
  have hentries : halfInService.bridgeVlans.getD "lan1" ∅ = portVlans ⟨true, some 10, ∅⟩ := by
    decide +kernel
  have hport : (bothPorts 20).ports["lan1"]? = some ⟨true, some 10, ∅⟩ := by decide +kernel
  have hmatch : PortMatches (bothPorts 20) halfInService "lan1" ⟨.dsa none, true, some "br-lan"⟩ := by
    refine ⟨hlan1, rfl, fun port hp => ?_, fun hno => absurd ?_ hno, fun p => ?_⟩
    · rw [hport] at hp
      cases hp
      refine ⟨rfl, rfl, fun vid => ?_⟩
      rw [vlanEntry, hentries, portVlans_getElem?]
    · exact (BTreeMap.mem_iff _ _).mpr ⟨_, hport⟩
    · simp [hasAddress, hasLease, halfInService]
  obtain ⟨hidle, hsame⟩ := plan_isolates_interfaces (bothPorts 20) (bothPorts 30) halfInService
    halfInService (joinSecond 20) (joinSecond 30) hready hready (by decide +kernel)
    (by decide +kernel) "lan1"
  exact ⟨hidle (Or.inl ⟨_, hmatch⟩),
    hsame (by decide) ⟨rfl, rfl, rfl, rfl, by decide +kernel, by decide +kernel⟩⟩

end ClixonSwitch.Guarantees
