import ClixonSwitch.Source.SwitchModel.Accepted

/-!
# Accepted configurations give sound desired states

What the planner relies on: ids in range, ports that exist, VLANs that are declared
and active, usable interface names, and no VLAN, address or DHCP client twice.
-/
namespace ClixonSwitch.Guarantees
open Std Lib Source.SwitchModel

/-- A name that Linux takes for an interface. -/
structure LinuxIfname (name : String) : Prop where
  nonempty : 1 ≤ name.utf8ByteSize
  short : name.utf8ByteSize ≤ 15
  notDot : name ≠ "."
  notDots : name ≠ ".."
  chars : ∀ c ∈ name.toList, c ≠ '/' ∧ c ≠ ':' ∧ Text.isWhitespace c = false

def VlanIdValid (vid : UInt16) : Prop := 1 ≤ vid ∧ vid ≤ 4094

structure PortSound (state : DesiredState) (switchPorts : BTreeSet String) (name : String)
    (port : Port) : Prop where
  name : name ∈ switchPorts
  vlans : ∀ vid, port.carries vid = true →
    VlanIdValid vid ∧ ∃ v, state.vlans[vid]? = some v ∧ v.active = true
  native : ∀ vid, port.nativeVlan = some vid → vid ∉ port.taggedVlans
  portBased : state.mode = .portBased → port.nativeVlan.isSome = true ∧ port.taggedVlans = ∅

structure SviSound (state : DesiredState) (switchPorts : BTreeSet String) (name : String)
    (svi : Svi) : Prop where
  ifname : LinuxIfname name
  notBridge : name ≠ bridgeName
  notPort : name ∉ switchPorts
  vlan : VlanIdValid svi.vlan ∧ svi.vlan ∈ state.vlans
  lengths : ∀ p ∈ svi.addresses, p.prefixLen ≤ 32

structure Sound (state : DesiredState) (switchPorts : BTreeSet String) : Prop where
  vlans : ∀ vid, vid ∈ state.vlans → VlanIdValid vid
  ports : ∀ (name : String) (port : Port), state.ports[name]? = some port →
    PortSound state switchPorts name port
  svis : ∀ (name : String) (svi : Svi), state.svis[name]? = some svi →
    SviSound state switchPorts name svi
  uniqueVlans : ∀ (a b : String) (s r : Svi), state.svis[a]? = some s → state.svis[b]? = some r →
    s.vlan = r.vlan → a = b
  uniqueAddresses : ∀ (a b : String) (s r : Svi), state.svis[a]? = some s →
    state.svis[b]? = some r → ∀ p ∈ s.addresses, ∀ q ∈ r.addresses, p.addr = q.addr → a = b
  singleDhcp : ∀ (a b : String) (s r : Svi), state.svis[a]? = some s → state.svis[b]? = some r →
    s.dhcpClient = true → r.dhcpClient = true → a = b

theorem validIfname_sound {name : String} (h : validIfname name = true) : LinuxIfname name := by
  simp only [validIfname, maxIfnameLen, Bool.and_eq_true, Bool.not_eq_true',
    bne_iff_ne, ne_eq, List.any_eq_false, Bool.or_eq_true, beq_iff_eq, not_or,
    Bool.not_eq_true] at h
  obtain ⟨⟨⟨⟨hne, hlen⟩, hdot⟩, hdots⟩, hchars⟩ := h
  refine ⟨?_, of_decide_eq_true hlen, hdot, hdots,
    fun c hc => ⟨(hchars c hc).1.1, (hchars c hc).1.2, (hchars c hc).2⟩⟩
  by_contra hzero
  have hempty : name = "" := String.utf8ByteSize_eq_zero_iff.mp (by omega)
  rw [hempty] at hne
  cases hne

section Accepted
variable {config : Config} {switchPorts : BTreeSet String} {state : DesiredState} {domain : Domain}

theorem port_sound (h : StateAccepted config switchPorts state domain) {name : String}
    {port : Port} (hp : state.ports[name]? = some port) :
    PortSound state switchPorts name port := by
  obtain ⟨i, -, rfl, -, accepted⟩ := h.translates.ports name port hp
  refine ⟨accepted.name, fun vid hcarries => ?_, fun vid hv => ?_, fun hmode => ?_⟩
  · have hv : port.nativeVlan = some vid ∨ vid ∈ port.taggedVlans := by
      simpa [Port.carries] using hcarries
    obtain ⟨v, hlookup, hactive⟩ := Domain.exists_of_active (accepted.carries.active h.source hv)
    rw [h.vlans]
    exact ⟨h.source.ids ((BTreeMap.mem_iff _ _).mpr ⟨v, hlookup⟩), v, hlookup, hactive⟩
  · exact accepted.carries.native_not_tagged h.source hv
  · rw [h.translates.mode] at hmode
    obtain ⟨hempty, g, -, hnative⟩ := accepted.carries.portBased hmode
    simp only at hempty hnative
    exact ⟨by rw [hnative]; rfl, hempty⟩

theorem svi_sound (h : StateAccepted config switchPorts state domain) {name : String}
    {svi : Svi} (hs : state.svis[name]? = some svi) : SviSound state switchPorts name svi := by
  obtain ⟨i, -, rfl, -, accepted⟩ := h.translates.svis name svi hs
  exact ⟨validIfname_sound accepted.name, accepted.notBridge, accepted.notPort,
    ⟨h.source.ids accepted.vlan, h.vlans ▸ accepted.vlan⟩, accepted.lengths⟩

end Accepted

/-- Every accepted configuration has a sound desired state. -/
theorem desiredState_sound (config : Config) (switchPorts : BTreeSet String) (state : DesiredState)
    (accepted : desiredState config switchPorts = .ok state) : Sound state switchPorts := by
  obtain ⟨domain, h⟩ := desiredState_ok accepted
  refine ⟨fun vid hin => h.source.ids (h.vlans ▸ hin), fun name port => port_sound h,
    fun name svi => svi_sound h, h.uniqueVlans, fun a b s r hs hr p hp q hq => ?_, h.singleDhcp⟩
  exact h.uniqueAddresses a b s r hs hr p q hp hq

/-- A trunk port with a native VLAN, a range and a suspended VLAN, and an SVI by VLAN
name. -/
def trunkConfig : Config where
  interfaces := some { interface :=
    [{ name := "lan1"
       config := { ifType := some "iana-if-type:ethernetCsmacd" }
       ethernet := some { switchedVlan := some { config :=
         { interfaceMode := some "TRUNK"
           nativeVlan := some 10
           trunkVlans := [.string "10..20", .number 30] } } } },
     { name := "vlan20"
       config := { ifType := some "iana-if-type:l3ipvlan" }
       routedVlan := some
         { config := { vlan := some (.string "mgmt") }
           ipv4 := some
             { addresses := { address :=
                 [{ ip := "192.168.1.1", config := { prefixLength := some 24 } }] } } } }] }
  vlans := some { vlan :=
    [{ vlanId := some 10 }, { vlanId := some 20, config := { name := some "mgmt" } },
     { vlanId := some 30, config := { status := some "SUSPENDED" } }] }

def oneSwitchPort : BTreeSet String := ExtTreeSet.ofList ["lan1"] compare

def trunkState : DesiredState where
  vlans := BTreeMap.collect [(10, ⟨none, true⟩), (20, ⟨some "mgmt", true⟩), (30, ⟨none, false⟩)]
  ports := BTreeMap.collect [("lan1", ⟨true, some 10, ExtTreeSet.ofList [20] compare⟩)]
  svis := BTreeMap.collect [("vlan20",
    ⟨true, 20, ExtTreeSet.ofList [⟨⟨0xC0A80101⟩, 24⟩] compare, false⟩)]

theorem desiredState_sound_trunk : desiredState trunkConfig oneSwitchPort = .ok trunkState ∧
    Sound trunkState oneSwitchPort :=
  have accepted : desiredState trunkConfig oneSwitchPort = .ok trunkState := by decide +kernel
  ⟨accepted, desiredState_sound trunkConfig oneSwitchPort trunkState accepted⟩

end ClixonSwitch.Guarantees
