import ClixonSwitch.Guarantees.MstMapping
import ClixonSwitch.Source.SwitchModel.SnmpAccepted

/-!
# Nothing configured is dropped silently

What an accepted configuration lists is in the desired state: interfaces, VLANs or
groups with their ports, addresses, MSTIs with their VLANs, and SNMP users, views and
groups with all that they list.
-/
namespace ClixonSwitch.Guarantees
open Std Lib Source.SwitchModel

/-- YANG lists have one entry of each key. Of the lists for which only the keys are kept
track of, nothing needs to be assumed. -/
structure DistinctEntries (config : Config) : Prop extends DistinctNames config where
  mstInstances : ((instancesOf config.stpConfig).map MstInstance.id).Nodup
  views : ∀ c, config.snmp = some c → (c.viewEntries.map VacmView.name).Nodup
  vacmGroups : ∀ c, config.snmp = some c → (c.groupEntries.map VacmGroup.name).Nodup

/-- Each interface is a port or an SVI and not both, and there are no others. -/
structure InterfacesKept (config : Config) (state : DesiredState) : Prop where
  each : ∀ i ∈ config.interfaceList,
    i.name ∈ state.ports ∧ i.name ∉ state.svis ∨ i.name ∈ state.svis ∧ i.name ∉ state.ports
  noOthers : ∀ name, name ∈ state.ports ∨ name ∈ state.svis →
    ∃ i ∈ config.interfaceList, i.name = name
  addresses : ∀ i ∈ config.interfaceList, i.isSvi = true → ∀ address ∈ i.addressEntries,
    ∃ (svi : Svi) (p : Ipv4Prefix), state.svis[i.name]? = some svi ∧ address.parsed = some p ∧
      p ∈ svi.addresses

/-- The VLANs are those of the mode, and the other mode's list is empty. -/
structure VlansKept (config : Config) (state : DesiredState) : Prop where
  mode : state.mode = (vlanMode config).value
  dot1q : state.mode = .dot1q → config.groups = [] ∧
    (∀ entry ∈ config.vlanEntries, entry.key.isSome = true) ∧
    ∀ id, id ∈ state.vlans ↔ ∃ entry ∈ config.vlanEntries, entry.key = some id
  portBased : state.mode = .portBased → config.vlanEntries = [] ∧
    (∀ group ∈ config.groups, group.key.isSome = true) ∧
    ∀ id, id ∈ state.vlans ↔ ∃ group ∈ config.groups, group.key = some id
  groupPorts : ∀ group ∈ config.groups, ∀ name ∈ group.config.port,
    ∃ (port : Port) (id : UInt16), state.ports[name]? = some port ∧ group.key = some id ∧
      port.nativeVlan = some id

/-- The MSTIs are the instances, with all VLANs of their entries. -/
structure MstisKept (config : Config) (s : Stp) : Prop where
  ids : ∀ inst ∈ instancesOf config.stpConfig, inst.id.isSome = true
  mem_iff : ∀ id, id ∈ s.mstis ↔ ∃ inst ∈ instancesOf config.stpConfig, inst.id = some id
  vlans : ∀ inst ∈ instancesOf config.stpConfig, ∀ id, inst.id = some id →
    ∃ msti, s.mstis[id]? = some msti ∧ ∀ v, v ∈ msti.vlans ↔ Names inst v

/-- The agent has the users, views and groups of the configuration. -/
structure AgentKept (config : SnmpConfig) (snmp : Snmp) : Prop where
  users : ∀ name, name ∈ snmp.users ↔ ∃ user ∈ usmUsers config, user.name = name
  views : ∀ name, name ∈ snmp.views ↔ ∃ view ∈ config.viewEntries, view.name = name
  groups : ∀ name, name ∈ snmp.groups ↔ ∃ group ∈ config.groupEntries, group.name = name
  oids : ∀ view ∈ config.viewEntries, ∃ v, snmp.views[view.name]? = some v ∧
    view.included.map numericOid = v.included.map some ∧
    view.excluded.map numericOid = v.excluded.map some
  entries : ∀ group ∈ config.groupEntries, ∃ g, snmp.groups[group.name]? = some g ∧
    (∀ user, user ∈ g.members ↔ ∃ member ∈ group.member, member.securityName = user) ∧
    group.access.map Access.granted = g.access.map some

structure NothingDropped (config : Config) (state : DesiredState) : Prop where
  interfaces : InterfacesKept config state
  vlans : VlansKept config state
  mstis : (∃ identity ∈ config.stpConfig.identities, protocolOf identity = some .mstp) →
    ∃ s, state.stp = some s ∧ MstisKept config s
  snmp : ∀ c, config.snmp = some c → c.enabled = true →
    ∃ snmp, state.snmp = some snmp ∧ AgentKept c snmp

section Accepted
variable {config : Config} {switchPorts : BTreeSet String} {state : DesiredState} {domain : Domain}

theorem isPort_not_isSvi {i : Interface} (h : i.isPort = true) : i.isSvi = false := by
  simp only [Interface.isPort, Interface.isSvi, beq_iff_eq] at h ⊢
  rw [h]
  rfl

theorem interfacesKept_of_accepted (h : StateAccepted config switchPorts state domain)
    (distinct : (config.interfaceList.map Interface.name).Nodup) : InterfacesKept config state := by
  -- a port's name is one of the switch, an SVI's is not
  have hports : ∀ name, name ∈ state.ports → name ∈ switchPorts := by
    intro name hin
    obtain ⟨p, hp⟩ := (BTreeMap.mem_iff _ _).mp hin
    obtain ⟨i, -, rfl, -, accepted⟩ := h.translates.ports name p hp
    exact accepted.name
  have hsvis : ∀ name, name ∈ state.svis → name ∉ switchPorts := by
    intro name hin
    obtain ⟨s, hs⟩ := (BTreeMap.mem_iff _ _).mp hin
    obtain ⟨i, -, rfl, -, accepted⟩ := h.translates.svis name s hs
    exact accepted.notPort
  refine ⟨fun i hi => ?_, fun name hin => ?_, fun i hi hsvi address haddress => ?_⟩
  · rcases h.translates.each i hi with ⟨-, hin⟩ | ⟨-, hin⟩
    · exact Or.inl ⟨hin, fun hs => hsvis _ hs (hports _ hin)⟩
    · exact Or.inr ⟨hin, fun hp => hsvis _ hin (hports _ hp)⟩
  · rcases hin with hin | hin
    · obtain ⟨p, hp⟩ := (BTreeMap.mem_iff _ _).mp hin
      obtain ⟨i, hi, hname, -⟩ := h.translates.ports name p hp
      exact ⟨i, hi, hname⟩
    · obtain ⟨s, hs⟩ := (BTreeMap.mem_iff _ _).mp hin
      obtain ⟨i, hi, hname, -⟩ := h.translates.svis name s hs
      exact ⟨i, hi, hname⟩
  · have hin : i.name ∈ state.svis := by
      rcases h.translates.each i hi with ⟨hport, -⟩ | ⟨-, hin⟩
      · rw [isPort_not_isSvi hport] at hsvi
        cases hsvi
      · exact hin
    obtain ⟨s, hs⟩ := (BTreeMap.mem_iff _ _).mp hin
    obtain ⟨j, hj, hname, -, accepted⟩ := h.translates.svis i.name s hs
    obtain rfl : j = i := List.inj_on_of_nodup_map distinct hj hi hname
    obtain ⟨p, hp⟩ := Option.isSome_iff_exists.mp (accepted.addresses.parsed address haddress)
    exact ⟨s, p, hs, hp, (accepted.addresses.mem_iff p).mpr ⟨address, haddress, hp⟩⟩

theorem vlansKept_of_accepted (h : StateAccepted config switchPorts state domain) :
    VlansKept config state := by
  have hmode : state.mode = domain.mode := h.translates.mode
  refine ⟨hmode.trans h.mode.2, fun hdot1q => ?_, fun hportBased => ?_, fun group hg name hn => ?_⟩
  · rcases h.source with source | source
    · refine ⟨source.noGroups, fun entry he => ?_, fun id => ?_⟩
      · obtain ⟨id, hid, -⟩ := source.declares.present entry he
        rw [hid]
        rfl
      · rw [h.vlans]
        constructor
        · intro hin
          obtain ⟨v, hv⟩ := (BTreeMap.mem_iff _ _).mp hin
          obtain ⟨-, -, entry, he, hkey, -⟩ := source.declares.lookup id v hv
          exact ⟨entry, he, hkey⟩
        · rintro ⟨entry, he, hkey⟩
          obtain ⟨id', hid, hin⟩ := source.declares.present entry he
          rw [hkey] at hid
          exact Option.some.inj hid ▸ hin
    · rw [hmode, source.groups.mode] at hdot1q
      cases hdot1q
  · rcases h.source with source | source
    · rw [hmode, source.mode] at hportBased
      cases hportBased
    · refine ⟨source.noVlans, fun group hg => ?_, fun id => ?_⟩
      · obtain ⟨id, hid, -⟩ := source.groups.present group hg
        rw [hid]
        rfl
      · rw [h.vlans]
        constructor
        · intro hin
          obtain ⟨v, hv⟩ := (BTreeMap.mem_iff _ _).mp hin
          obtain ⟨-, -, -, group, hg, hkey⟩ := source.groups.lookup id v hv
          exact ⟨group, hg, hkey⟩
        · rintro ⟨group, hg, hkey⟩
          obtain ⟨id', hid, hin⟩ := source.groups.present group hg
          rw [hkey] at hid
          exact Option.some.inj hid ▸ hin
  · rcases h.source with source | source
    · rw [source.noGroups] at hg
      cases hg
    · obtain ⟨i, hi, rfl, hport⟩ := source.known group hg name hn
      have hin : i.name ∈ state.ports := by
        rcases h.translates.each i hi with ⟨-, hin⟩ | ⟨hsvi, -⟩
        · exact hin
        · rw [isPort_not_isSvi hport] at hsvi
          cases hsvi
      obtain ⟨p, hp⟩ := (BTreeMap.mem_iff _ _).mp hin
      obtain ⟨j, -, hname, -, accepted⟩ := h.translates.ports i.name p hp
      obtain ⟨-, g, hgroup, hnative⟩ := accepted.carries.portBased source.groups.mode
      obtain ⟨id, hid, -⟩ := source.groups.present group hg
      have hsame := (source.groups.members i.name id).mpr ⟨group, hg, hid, hn⟩
      rw [hname, hsame] at hgroup
      exact ⟨p, id, hp, hid, hnative.trans hgroup.symm⟩

theorem mstisKept_of_accepted {ports : BTreeSet String} {s : Stp}
    (h : MstisAccepted (instancesOf config.stpConfig) ports s.mstis)
    (distinct : ((instancesOf config.stpConfig).map MstInstance.id).Nodup) : MstisKept config s := by
  refine ⟨fun inst hin => ?_, fun id => ?_, fun inst hin id hid => ?_⟩
  · obtain ⟨id, hid, -⟩ := h.present inst hin
    rw [hid]
    rfl
  · constructor
    · intro hin
      obtain ⟨msti, hm⟩ := (BTreeMap.mem_iff _ _).mp hin
      obtain ⟨inst, hinst, hid, -⟩ := h.configured id msti hm
      exact ⟨inst, hinst, hid⟩
    · rintro ⟨inst, hinst, hid⟩
      obtain ⟨id', hid', hin⟩ := h.present inst hinst
      rw [hid] at hid'
      exact Option.some.inj hid' ▸ hin
  · obtain ⟨msti, hm, accepted⟩ := h.of_nodup distinct hin hid
    exact ⟨msti, hm, accepted.vlans⟩

theorem agentKept_of_accepted {c : SnmpConfig} {snmp : Snmp} (h : SnmpAccepted c snmp)
    (views : (c.viewEntries.map VacmView.name).Nodup)
    (groups : (c.groupEntries.map VacmGroup.name).Nodup) : AgentKept c snmp := by
  refine ⟨h.users.mem_iff, h.views.mem_iff, h.groups.mem_iff, fun view hv => ?_, fun group hg => ?_⟩
  · obtain ⟨v, hlookup, accepted⟩ := h.views.of_nodup views hv
    exact ⟨v, hlookup, accepted.included, accepted.excluded⟩
  · obtain ⟨g, hlookup, accepted⟩ := h.groups.of_nodup groups hg
    exact ⟨g, hlookup, accepted.members, accepted.access⟩

end Accepted

/-- What an accepted configuration lists is in the desired state. -/
theorem desiredState_nothing_dropped (config : Config) (switchPorts : BTreeSet String)
    (state : DesiredState) (distinct : DistinctEntries config)
    (accepted : desiredState config switchPorts = .ok state) : NothingDropped config state := by
  obtain ⟨domain, h⟩ := desiredState_ok accepted
  refine ⟨interfacesKept_of_accepted h distinct.interfaces, vlansKept_of_accepted h, ?_,
    fun c hc enabled => ?_⟩
  · intro enabled
    obtain ⟨s, hs, hmstis⟩ := desiredState_mstp accepted enabled
    exact ⟨s, hs, mstisKept_of_accepted hmstis distinct.mstInstances⟩
  · obtain ⟨hruns, hagent⟩ := desiredState_snmp accepted
    obtain ⟨snmp, hs⟩ := hruns c hc enabled
    obtain ⟨c', hc', -, hsnmp⟩ := hagent snmp hs
    obtain rfl : c' = c := Option.some.inj (hc'.symm.trans hc)
    exact ⟨snmp, hs, agentKept_of_accepted hsnmp (distinct.views c' hc) (distinct.vacmGroups c' hc)⟩

/-- A port, an SVI with an address, an MSTP region, and an SNMP agent with one user who
may read one view. -/
def agentConfig : Config where
  interfaces := some { interface :=
    [{ name := "lan1"
       config := { ifType := some "iana-if-type:ethernetCsmacd" }
       ethernet := some { switchedVlan := some { config :=
         { interfaceMode := some "ACCESS", accessVlan := some 20 } } } },
     { name := "vlan20"
       config := { ifType := some "iana-if-type:l3ipvlan" }
       routedVlan := some
         { config := { vlan := some (.number 20) }
           ipv4 := some
             { addresses := { address :=
                 [{ ip := "192.168.1.1", config := { prefixLength := some 24 } }] } } } }] }
  vlans := some { vlan := [{ vlanId := some 20 }] }
  stp := regionConfig.stp
  snmp := some
    { engine := some
        { enabled := some true
          listen := [{ name := "all", udp := some { ip := "0.0.0.0" } }]
          version := some ["v3"] }
      usm := some { localUsers := some { user :=
        [{ name := "monitor"
           auth := some
             { sha := some { key := "00112233445566778899aabbccddeeff00112233" } } }] } }
      vacm := some
        { group := [{ name := "readers"
                      member := [{ securityName := "monitor", securityModel := ["usm"] }]
                      access := [{ securityModel := some "usm"
                                   securityLevel := some "auth-no-priv"
                                   readView := some "system" }] }]
          view := [{ name := "system", included := [".1.3.6.1.2.1"] }] } }

def agentKey : List UInt8 :=
  [0x00, 0x11, 0x22, 0x33, 0x44, 0x55, 0x66, 0x77, 0x88, 0x99, 0xaa, 0xbb, 0xcc, 0xdd, 0xee, 0xff,
    0x00, 0x11, 0x22, 0x33]

def agentSnmp : Snmp where
  listen := ExtTreeSet.ofList [⟨⟨0⟩, 161⟩] compare
  users := BTreeMap.collect [("monitor", ⟨agentKey, none⟩)]
  groups := BTreeMap.collect [("readers",
    ⟨ExtTreeSet.ofList ["monitor"] compare, [⟨.authNoPriv, some "system"⟩]⟩)]
  views := BTreeMap.collect [("system", ⟨["1.3.6.1.2.1"], []⟩)]

def agentState : DesiredState where
  vlans := BTreeMap.collect [(20, ⟨none, true⟩)]
  ports := BTreeMap.collect [("lan1", ⟨true, some 20, ∅⟩)]
  svis := BTreeMap.collect [("vlan20",
    ⟨true, 20, ExtTreeSet.ofList [⟨⟨0xC0A80101⟩, 24⟩] compare, false⟩)]
  stp := some regionStp
  snmp := some agentSnmp

theorem desiredState_nothing_dropped_agent :
    desiredState agentConfig oneSwitchPort = .ok agentState ∧
      NothingDropped agentConfig agentState := by
  have accepted : desiredState agentConfig oneSwitchPort = .ok agentState := by decide +kernel
  refine ⟨accepted, desiredState_nothing_dropped agentConfig oneSwitchPort agentState ?_ accepted⟩
  refine ⟨⟨by decide +kernel⟩, by decide +kernel, ?_, ?_⟩
  · rintro _ ⟨⟩
    decide +kernel
  · rintro _ ⟨⟩
    decide +kernel

end ClixonSwitch.Guarantees
