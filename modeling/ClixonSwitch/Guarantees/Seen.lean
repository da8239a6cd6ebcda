import ClixonSwitch.Guarantees.WellFormed
import ClixonSwitch.Lib.Trimmed
import ClixonSwitch.Source.SwitchNet.Plan

/-!
# What an observation shows of a kernel state

The kernel reports links, entries and addresses one by one. A link that has none of a kind
shows no collection of it, and a conduit, parent or master shows only if it is a link
itself. The planner plans the same from what is shown as from the state.
-/
namespace ClixonSwitch.Guarantees
open Std Lib Source.SwitchModel Source.SwitchNet

def trimmed (s : ActualState) : ActualState where
  links := s.links
  bridgeVlans := s.bridgeVlans.trim (·.isEmpty)
  addresses := s.addresses.trim (·.isEmpty)
  dhcpAddresses := s.dhcpAddresses.trim (·.isEmpty)

def shownKind (links : BTreeMap String Link) : LinkKind → LinkKind
  | .dsa conduit => .dsa (conduit.filter links.contains)
  | .vlan parent id => if links.contains parent then .vlan parent id else .other
  | kind => kind

def shownLink (links : BTreeMap String Link) (l : Link) : Link :=
  ⟨shownKind links l.kind, l.up, l.master.filter links.contains⟩

/-- The collections of links that are not empty. -/
def shownOn {V : Type} (links : BTreeMap String Link) (isEmpty : V → Bool) (m : BTreeMap String V) :
    BTreeMap String V :=
  m.filter fun name v => links.contains name && !isEmpty v

/-- What the kernel reports of `s`. -/
def seen (s : ActualState) : ActualState where
  links := s.links.map fun _ l => shownLink s.links l
  bridgeVlans := shownOn s.links (·.isEmpty) s.bridgeVlans
  addresses := shownOn s.links (·.isEmpty) s.addresses
  dhcpAddresses := shownOn s.links (·.isEmpty) s.dhcpAddresses

/-- Conduits, parents and masters are links, and what has entries or addresses is one. -/
structure Linked (s : ActualState) : Prop where
  links : ∀ (name : String) (l : Link), s.links[name]? = some l → shownLink s.links l = l
  vlans : ∀ name vid, vid ∈ s.bridgeVlans.getD name ∅ → name ∈ s.links
  addresses : ∀ name p, p ∈ s.addresses.getD name ∅ ∨ p ∈ s.dhcpAddresses.getD name ∅ →
    name ∈ s.links

theorem shownOn_eq_trim {V : Type} (links : BTreeMap String Link) (isEmpty : V → Bool)
    (m : BTreeMap String V)
    (owned : ∀ (name : String) (v : V), m[name]? = some v → isEmpty v = false → name ∈ links) :
    shownOn links isEmpty m = m.trim isEmpty := by
  refine ExtTreeMap.ext_getElem? fun name => ?_
  rw [shownOn, ExtTreeMap.getElem?_filter', BTreeMap.getElem?_trim]
  cases hv : m[name]? with
  | none => rfl
  | some v =>
    cases hempty : isEmpty v with
    | true => simp [Option.filter_some, hempty]
    | false => simp [Option.filter_some, hempty, owned name v hv hempty]

theorem seen_of_linked {s : ActualState} (h : Linked s) : seen s = trimmed s := by
  have hlinks : (s.links.map fun _ l => shownLink s.links l) = s.links := by
    refine ExtTreeMap.ext_getElem? fun name => ?_
    rw [ExtTreeMap.getElem?_map]
    cases hl : s.links[name]? with
    | none => rfl
    | some l => rw [Option.map_some, h.links name l hl]
  have hvlans := shownOn_eq_trim s.links (·.isEmpty) s.bridgeVlans fun name v hv hsome => by
    obtain ⟨vid, hvid⟩ := BTreeMap.exists_mem_of_isEmpty hsome
    exact h.vlans name vid (by rwa [BTreeMap.getD_eq, hv])
  have haddresses := shownOn_eq_trim s.links (·.isEmpty) s.addresses fun name v hv hsome => by
    obtain ⟨p, hp⟩ := BTreeSet.exists_mem_of_isEmpty hsome
    exact h.addresses name p (Or.inl (by rwa [BTreeMap.getD_eq, hv]))
  have hleases := shownOn_eq_trim s.links (·.isEmpty) s.dhcpAddresses fun name v hv hsome => by
    obtain ⟨p, hp⟩ := BTreeMap.exists_mem_of_isEmpty hsome
    exact h.addresses name p (Or.inr (by rwa [BTreeMap.getD_eq, hv]))
  rw [seen, hlinks, hvlans, haddresses, hleases]
  rfl

theorem Coherent.linked {s : ActualState} (h : Coherent s)
    (conduits : ∀ (port : String) (l : Link) (c : String), s.links[port]? = some l →
      l.kind = .dsa (some c) → c ∈ s.links) : Linked s := by
  have hin : ∀ name : String, (device s name).link.isSome = true → s.links.contains name = true := by
    intro name hsome
    rwa [BTreeMap.contains_eq, ← device_link]
  have hmem : ∀ name : String, (device s name).link.isSome = true → name ∈ s.links :=
    fun name hsome => ExtTreeMap.contains_iff_mem.mp (hin name hsome)
  refine ⟨?_, fun name vid hvid => ?_, fun name p hp => hmem name ((h.fit name).addressed p hp)⟩
  swap
  · have htakes := (h.fit name).entries vid hvid
    refine hmem name ?_
    cases hl : (device s name).link with
    | none => simp [hl] at htakes
    | some l => rfl
  rintro name ⟨kind, up, master⟩ hl
  have hmaster : master.filter s.links.contains = master := by
    cases master with
    | none => rfl
    | some m =>
      have hbridge := h.masters name m (by simp [Device.master, device_link, hl])
      rw [Option.filter_some, if_pos]
      refine hin m ?_
      cases hm : (device s m).link with
      | none => simp [Device.isBridge, hm] at hbridge
      | some l => rfl
  have hkind : shownKind s.links kind = kind := by
    cases kind with
    | dsa conduit =>
      cases conduit with
      | none => rfl
      | some c =>
        have hc := conduits name _ c hl rfl
        simp [shownKind, hc]
    | vlan parent id =>
      have hp := h.parents name parent (by simp [Device.parent, device_link, hl])
      rw [shownKind, if_pos (hin parent hp)]
    | bridge b => rfl
    | other => rfl
  rw [shownLink, hkind, hmaster]

section Plan
variable (d : DesiredState) (s : ActualState)

theorem portVlansRemain_trimmed (pvid : UInt16) :
    portVlansRemain (trimmed s) pvid = portVlansRemain s pvid := by
  have hfilter : ∀ (vlans : BTreeMap String VlanMap) (links : List (String × Link)),
      (links.filterMap fun e => vlans[e.1]?) = (links.map Prod.fst).filterMap fun k => vlans[k]? := by
    intro vlans links
    rw [List.filterMap_map]
    rfl
  unfold portVlansRemain
  rw [hfilter, hfilter]
  refine BTreeMap.any_trim _ (fun v hv => ?_) s.bridgeVlans _
  rw [show v = ∅ from ExtTreeMap.isEmpty_iff.mp hv]
  rfl

theorem planBridge_trimmed : planBridge (trimmed s) = planBridge s := by
  simp only [planBridge, portVlansRemain_trimmed]
  rfl

theorem getD_vlans_trimmed (name : String) :
    (trimmed s).bridgeVlans.getD name ∅ = s.bridgeVlans.getD name ∅ :=
  BTreeMap.getD_trim (fun _ => ExtTreeMap.isEmpty_iff.mp) s.bridgeVlans name

theorem getD_addresses_trimmed (name : String) :
    (trimmed s).addresses.getD name ∅ = s.addresses.getD name ∅ :=
  BTreeMap.getD_trim (fun _ => ExtTreeSet.isEmpty_iff.mp) s.addresses name

theorem getD_leases_trimmed (name : String) :
    (trimmed s).dhcpAddresses.getD name ∅ = s.dhcpAddresses.getD name ∅ :=
  BTreeMap.getD_trim (fun _ => ExtTreeMap.isEmpty_iff.mp) s.dhcpAddresses name

theorem planBridgeSection_trimmed : planBridgeSection d (trimmed s) = planBridgeSection d s := by
  simp only [planBridgeSection, planBridge_trimmed]
  rfl

theorem planLeftovers_trimmed (fresh : Bool) :
    planLeftovers (trimmed s) fresh = planLeftovers s fresh := by
  have haddresses : ((trimmed s).addresses.toList.flatMap fun e => e.2.toList.map fun p => (e.1, p)) =
      s.addresses.toList.flatMap fun e => e.2.toList.map fun p => (e.1, p) := by
    refine BTreeMap.flatMap_trim _ (fun k v hv => ?_) s.addresses
    rw [show v = ∅ from ExtTreeSet.isEmpty_iff.mp hv]
    rfl
  have hleases : ((trimmed s).dhcpAddresses.toList.flatMap fun e => e.2.keys.map fun p => (e.1, p)) =
      s.dhcpAddresses.toList.flatMap fun e => e.2.keys.map fun p => (e.1, p) := by
    refine BTreeMap.flatMap_trim _ (fun k v hv => ?_) s.dhcpAddresses
    rw [show v = ∅ from ExtTreeMap.isEmpty_iff.mp hv]
    rfl
  unfold planLeftovers
  rw [haddresses, hleases]
  rfl

theorem planDeviceSection_trimmed : planDeviceSection d (trimmed s) = planDeviceSection d s := by
  have hports : ∀ fresh, planPorts d (trimmed s) fresh = planPorts d s fresh := by
    intro fresh
    simp only [planPorts, planPort, getD_vlans_trimmed]
    rfl
  have hself : ∀ fresh, planSelfVlans d (trimmed s) fresh = planSelfVlans d s fresh := by
    intro fresh
    simp only [planSelfVlans, getD_vlans_trimmed]
  have hsvis : ∀ fresh, planSvis d (trimmed s) fresh = planSvis d s fresh := by
    intro fresh
    simp only [planSvis, planSvi, getD_addresses_trimmed, getD_leases_trimmed]
    rfl
  simp only [planDeviceSection, planBridge_trimmed, hports, hself, hsvis, planLeftovers_trimmed]

/-- Collections without elements make no difference to the plan. -/
theorem plan_trimmed : plan d (trimmed s) = plan d s := by
  simp only [plan, planBridgeSection_trimmed, planDeviceSection_trimmed]
  rfl

end Plan

/-- What an observation returns of `s`: the whole state, or what the kernel reports. -/
def Shows (s a : ActualState) : Prop := a = s ∨ a = seen s

section Shows
variable {s a : ActualState}

theorem Shows.trimmed_or (h : Shows s a) (linked : Linked s) : a = s ∨ a = trimmed s := by
  rcases h with rfl | rfl
  · exact Or.inl rfl
  · exact Or.inr (seen_of_linked linked)

theorem Shows.plan_eq (h : Shows s a) (linked : Linked s) (d : DesiredState) :
    plan d a = plan d s := by
  rcases h.trimmed_or linked with rfl | rfl
  · rfl
  · exact plan_trimmed d s

theorem Shows.platformOps_eq (h : Shows s a) (linked : Linked s) :
    a.platformOps = s.platformOps := by
  rcases h.trimmed_or linked with rfl | rfl
  · rfl
  · rfl

theorem Shows.switchPorts_eq (h : Shows s a) (linked : Linked s) :
    a.switchPorts = s.switchPorts := by
  rcases h.trimmed_or linked with rfl | rfl
  · rfl
  · rfl

end Shows

end ClixonSwitch.Guarantees
