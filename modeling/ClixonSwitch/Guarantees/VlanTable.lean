import ClixonSwitch.Guarantees.KernelMatches
import ClixonSwitch.Guarantees.ValidationSound

/-!
# From the configuration to the kernel's VLAN table

Which VLANs a configuration puts on a port, said of the configuration alone, and
that a successful `reconcile` leaves exactly these entries.
-/
namespace ClixonSwitch.Guarantees
open Lib Source.SwitchModel Source.SwitchNet

section Meaning

/-- The mode leaf of the configuration. -/
def modeLeaf (config : Config) : Option String := config.switch.bind fun s => s.config.vlanMode

def InDot1q (config : Config) : Prop := modeLeaf config = none ∨ modeLeaf config = some "DOT1Q"

def InPortBased (config : Config) : Prop := modeLeaf config = some "PORT_BASED"

/-- The VLAN database has `vid`, not SUSPENDED. -/
def DeclaredActive (config : Config) (vid : UInt16) : Prop :=
  ∃ entry ∈ config.vlanEntries, entry.key = some vid ∧ entry.config.status ≠ some "SUSPENDED"

def AccessMode (c : SwitchedVlanConfig) : Prop :=
  c.interfaceMode = none ∨ c.interfaceMode = some "ACCESS"

/-- `vid` is the access VLAN of an access port or the native VLAN of a trunk. -/
def Untagged (c : SwitchedVlanConfig) (vid : UInt16) : Prop :=
  AccessMode c ∧ c.accessVlan = some vid ∨
    c.interfaceMode = some "TRUNK" ∧ c.nativeVlan = some vid

/-- A trunk whose trunk-vlans is empty or has `vid`, as an id or in a range. -/
def Trunked (c : SwitchedVlanConfig) (vid : UInt16) : Prop :=
  c.interfaceMode = some "TRUNK" ∧
    (c.trunkVlans = [] ∨ ∃ entry ∈ c.trunkVlans, entry.covers vid)

def InGroup (config : Config) (port : String) (vid : UInt16) : Prop :=
  ∃ group ∈ config.groups, group.key = some vid ∧ port ∈ group.config.port

/-- The configuration puts `vid` on the port `i`. -/
def Member (config : Config) (i : Interface) (vid : UInt16) : Prop :=
  (InDot1q config → DeclaredActive config vid ∧
    ∃ c, i.vlanConfig = some c ∧ (Untagged c vid ∨ Trunked c vid)) ∧
  (InPortBased config → InGroup config i.name vid)

/-- `vid` is the access VLAN, the native VLAN or the group of `i`. -/
def Native (config : Config) (i : Interface) (vid : UInt16) : Prop :=
  (InDot1q config → ∃ c, i.vlanConfig = some c ∧ Untagged c vid) ∧
  (InPortBased config → InGroup config i.name vid)

/-- `i` is a port of the switch as `s` shows it. -/
def PortExists (s : ActualState) (i : Interface) : Prop :=
  i.isPort = true ∧ ∃ link, s.links[i.name]? = some link ∧ link.kind.isDsa = true

/-- The bridge VLAN entries of all configured ports and of the bridge itself are what
the configuration says. -/
structure VlanTable (config : Config) (s : ActualState) : Prop where
  mode : InDot1q config ∨ InPortBased config
  present : ∀ i ∈ config.interfaceList, PortExists s i → ∀ vid,
    (vlanEntry s i.name vid).isSome = true ↔ Member config i vid
  untagged : ∀ i ∈ config.interfaceList, PortExists s i → ∀ vid flags,
    vlanEntry s i.name vid = some flags →
      (flags = access ↔ Native config i vid) ∧ (flags = tagged ↔ ¬ Native config i vid)
  shared : InPortBased config → ∀ i ∈ config.interfaceList, ∀ j ∈ config.interfaceList,
    PortExists s i → PortExists s j →
      ((∃ vid, (vlanEntry s i.name vid).isSome = true ∧ (vlanEntry s j.name vid).isSome = true) ↔
        ∃ vid, InGroup config i.name vid ∧ InGroup config j.name vid)
  suspended : InDot1q config → ∀ entry ∈ config.vlanEntries, ∀ vid, entry.key = some vid →
    entry.config.status = some "SUSPENDED" → vlanEntry s bridgeName vid = none ∧
      ∀ i ∈ config.interfaceList, PortExists s i → vlanEntry s i.name vid = none

end Meaning

section Accepted
variable {config : Config} {switchPorts : BTreeSet String} {state : DesiredState} {domain : Domain}

theorem not_inDot1q_and_inPortBased (h : InDot1q config) (hp : InPortBased config) : False := by
  unfold InPortBased at hp
  rcases h with h | h
  · rw [h] at hp
    cases hp
  · rw [h] at hp
    simp at hp

theorem mode_cases (h : StateAccepted config switchPorts state domain) :
    InDot1q config ∧ domain.mode = .dot1q ∨ InPortBased config ∧ domain.mode = .portBased := by
  obtain ⟨clean, hmode⟩ := h.mode
  rw [hmode]
  unfold vlanMode at clean ⊢
  split at clean
  · next hleaf => exact Or.inl ⟨Or.inl hleaf, rfl⟩
  · next hleaf => exact Or.inl ⟨Or.inr hleaf, rfl⟩
  · next hleaf => exact Or.inr ⟨hleaf, rfl⟩
  · simp at clean

theorem domain_cases (h : StateAccepted config switchPorts state domain) :
    InDot1q config ∧ Dot1qDomain config domain ∨
      InPortBased config ∧ PortBasedDomain config domain := by
  rcases mode_cases h with ⟨hmode, hdomain⟩ | ⟨hmode, hdomain⟩
  · refine Or.inl ⟨hmode, h.source.resolve_right fun source => ?_⟩
    rw [source.groups.mode] at hdomain
    cases hdomain
  · refine Or.inr ⟨hmode, h.source.resolve_left fun source => ?_⟩
    rw [source.mode] at hdomain
    cases hdomain

/-- With distinct ids, a VLAN is active exactly if its entry is. -/
theorem active_iff (distinct : DistinctKeys config) (h : Dot1qDomain config domain)
    (vid : UInt16) : domain.active vid = true ↔ DeclaredActive config vid := by
  constructor
  · intro hactive
    obtain ⟨v, hv, hact⟩ := Domain.exists_of_active hactive
    obtain ⟨-, -, entry, hmem, hkey, rfl⟩ := h.declares.lookup vid v hv
    exact ⟨entry, hmem, hkey, by simpa using hact⟩
  · rintro ⟨entry, hmem, hkey, hstatus⟩
    obtain ⟨id, hid, hin⟩ := h.declares.present entry hmem
    rw [hkey] at hid
    cases hid
    obtain ⟨v, hv⟩ := (BTreeMap.mem_iff _ _).mp hin
    obtain ⟨-, -, entry', hmem', hkey', rfl⟩ := h.declares.lookup vid v hv
    obtain rfl := distinct.vlan_inj hmem' hmem hkey' hkey
    simp [Domain.active, hv, hstatus]

theorem isAccess_meaning {c : SwitchedVlanConfig} {v : PortVlans} (h : IsAccess c domain v)
    (vid : UInt16) :
    (v.1 = some vid ↔ domain.active vid = true ∧ Untagged c vid) ∧
      (vid ∈ v.2 ↔ domain.active vid = true ∧ Trunked c vid ∧ ¬ Untagged c vid) := by
  obtain ⟨a, ha, -, hnative⟩ := h.vlan
  have hmode : c.interfaceMode ≠ some "TRUNK" := by
    rcases h.mode with hm | hm <;> simp [hm]
  constructor
  · rw [hnative]
    unfold Untagged
    simp only [ha, hmode, false_and, or_false, Option.some.injEq]
    by_cases hact : domain.active a = true
    · simp only [hact, if_true, Option.some.injEq]
      constructor
      · rintro rfl
        exact ⟨hact, h.mode, rfl⟩
      · rintro ⟨-, -, rfl⟩
        rfl
    · simp only [hact, Bool.false_eq_true, if_false, reduceCtorEq, false_iff]
      rintro ⟨hvid, -, rfl⟩
      exact hact hvid
  · simp [h.tagged, Trunked, hmode]

theorem isTrunk_meaning {c : SwitchedVlanConfig} {v : PortVlans} (h : IsTrunk c domain v)
    (vid : UInt16) :
    (v.1 = some vid ↔ domain.active vid = true ∧ Untagged c vid) ∧
      (vid ∈ v.2 ↔ domain.active vid = true ∧ Trunked c vid ∧ ¬ Untagged c vid) := by
  have hmode : ¬ AccessMode c := by
    rintro (hm | hm) <;> simp [h.mode] at hm
  have huntagged : Untagged c vid ↔ c.nativeVlan = some vid := by
    simp [Untagged, hmode, h.mode]
  constructor
  · rw [h.native, Option.filter_eq_some_iff, huntagged, and_comm]
  · rw [h.tagged vid, huntagged]
    constructor
    · rintro ⟨⟨-, hlisted⟩, hne, hact⟩
      exact ⟨hact, ⟨h.mode, hlisted⟩, hne⟩
    · rintro ⟨hact, ⟨-, hlisted⟩, hne⟩
      obtain ⟨w, hw, -⟩ := Domain.exists_of_active hact
      exact ⟨⟨(BTreeMap.mem_iff _ _).mpr ⟨w, hw⟩, hlisted⟩, hne, hact⟩

/-- The entry of a configured port, in terms of the configuration. -/
structure EntryMeaning (config : Config) (i : Interface) (port : Port) (vid : UInt16) : Prop where
  native : port.nativeVlan = some vid ↔ Member config i vid ∧ Native config i vid
  tagged : vid ∈ port.taggedVlans ↔ Member config i vid ∧ ¬ Native config i vid

theorem entryMeaning_dot1q {i : Interface} {port : Port} (distinct : DistinctKeys config)
    (hmode : InDot1q config) (source : Dot1qDomain config domain)
    (h : CarriesAsConfigured i domain (port.nativeVlan, port.taggedVlans)) (vid : UInt16) :
    EntryMeaning config i port vid := by
  obtain ⟨c, hc, hport⟩ := h.dot1q source.mode
  obtain ⟨hnative, htagged⟩ : (port.nativeVlan = some vid ↔ domain.active vid = true ∧ Untagged c vid) ∧
      (vid ∈ port.taggedVlans ↔ domain.active vid = true ∧ Trunked c vid ∧ ¬ Untagged c vid) := by
    rcases hport with haccess | htrunk
    · exact isAccess_meaning haccess vid
    · exact isTrunk_meaning htrunk vid
  have hno : ¬ InPortBased config := not_inDot1q_and_inPortBased hmode
  have hmember : Member config i vid ↔
      DeclaredActive config vid ∧ (Untagged c vid ∨ Trunked c vid) := by
    simp [Member, hmode, hno, hc]
  have hnat : Native config i vid ↔ Untagged c vid := by
    simp [Native, hmode, hno, hc]
  rw [active_iff distinct source] at hnative htagged
  refine ⟨?_, ?_⟩
  · rw [hnative, hmember, hnat]
    exact ⟨fun ⟨hd, hu⟩ => ⟨⟨hd, Or.inl hu⟩, hu⟩, fun ⟨⟨hd, _⟩, hu⟩ => ⟨hd, hu⟩⟩
  · rw [htagged, hmember, hnat]
    exact ⟨fun ⟨hd, ht, hu⟩ => ⟨⟨hd, Or.inr ht⟩, hu⟩,
      fun ⟨⟨hd, hor⟩, hu⟩ => ⟨hd, hor.resolve_left hu, hu⟩⟩

theorem entryMeaning_portBased {i : Interface} {port : Port} (hmode : InPortBased config)
    (source : PortBasedDomain config domain)
    (h : CarriesAsConfigured i domain (port.nativeVlan, port.taggedVlans)) (vid : UInt16) :
    EntryMeaning config i port vid := by
  obtain ⟨hempty, g, hg, hnative⟩ := h.portBased source.groups.mode
  simp only at hempty hnative
  have hno : ¬ InDot1q config := fun hd => not_inDot1q_and_inPortBased hd hmode
  have hmember : Member config i vid ↔ InGroup config i.name vid := by
    simp [Member, hmode, hno]
  have hnat : Native config i vid ↔ InGroup config i.name vid := by
    simp [Native, hmode, hno]
  have hgroup : port.nativeVlan = some vid ↔ InGroup config i.name vid := by
    unfold InGroup
    rw [← source.groups.members, hg, hnative]
  refine ⟨?_, ?_⟩
  · rw [hgroup, hmember, hnat, and_self]
  · simp [hempty, hmember, hnat]

theorem entryMeaning (distinct : DistinctKeys config)
    (h : StateAccepted config switchPorts state domain) {i : Interface} {port : Port}
    (hcarries : CarriesAsConfigured i domain (port.nativeVlan, port.taggedVlans)) (vid : UInt16) :
    EntryMeaning config i port vid := by
  rcases domain_cases h with ⟨hmode, source⟩ | ⟨hmode, source⟩
  · exact entryMeaning_dot1q distinct hmode source hcarries vid
  · exact entryMeaning_portBased hmode source hcarries vid

/-- A configured port of the desired state is the one its interface entry gives. -/
theorem port_of_interface (distinct : DistinctKeys config)
    (h : StateAccepted config switchPorts state domain) {i : Interface}
    (hi : i ∈ config.interfaceList) (hport : i.isPort = true) :
    ∃ port, state.ports[i.name]? = some port ∧ PortAccepted i switchPorts domain port := by
  rcases h.translates.each i hi with ⟨-, hin⟩ | ⟨hsvi, -⟩
  · obtain ⟨port, hp⟩ := (BTreeMap.mem_iff _ _).mp hin
    obtain ⟨j, hj, hname, -, accepted⟩ := h.translates.ports i.name port hp
    obtain rfl := List.inj_on_of_nodup_map distinct.interfaces hj hi hname
    exact ⟨port, hp, accepted⟩
  · simp only [Interface.isPort, Interface.isSvi, beq_iff_eq] at hport hsvi
    rw [hport] at hsvi
    simp at hsvi

theorem portEntry_meaning {i : Interface} {port : Port} {vid : UInt16}
    (h : EntryMeaning config i port vid) :
    ((portEntry port vid).isSome = true ↔ Member config i vid) ∧
      ∀ flags, portEntry port vid = some flags →
        (flags = access ↔ Native config i vid) ∧ (flags = tagged ↔ ¬ Native config i vid) := by
  unfold portEntry
  by_cases hn : port.nativeVlan = some vid
  · obtain ⟨hm, hnat⟩ := h.native.mp hn
    simp [hn, hm, hnat, access, tagged]
  · by_cases ht : vid ∈ port.taggedVlans
    · obtain ⟨hm, hnat⟩ := h.tagged.mp ht
      simp [hn, ht, hm, hnat, access, tagged]
    · have hm : ¬ Member config i vid := fun hm => by
        by_cases hnat : Native config i vid
        · exact hn (h.native.mpr ⟨hm, hnat⟩)
        · exact ht (h.tagged.mpr ⟨hm, hnat⟩)
      simp [hn, ht, hm]

/-- A declared VLAN that the desired state has as active is not SUSPENDED. -/
theorem declaredActive_of_vlanActive (distinct : DistinctKeys config)
    (h : StateAccepted config switchPorts state domain) {entry : VlanEntry} {vid : UInt16}
    (hmem : entry ∈ config.vlanEntries) (hkey : entry.key = some vid) (hactive : state.vlanActive vid = true) :
    DeclaredActive config vid := by
  rcases h.source with source | source
  · rw [← active_iff distinct source]
    obtain ⟨id, hid, hin⟩ := source.declares.present entry hmem
    rw [hkey] at hid
    cases hid
    obtain ⟨v, hv⟩ := (BTreeMap.mem_iff _ _).mp hin
    simp only [DesiredState.vlanActive, h.vlans, hv] at hactive
    simp [Domain.active, hv, hactive]
  · rw [source.noVlans] at hmem
    cases hmem

/-- A kernel that carries the desired state has the VLAN table of the configuration. -/
theorem vlanTable_of_matches {s : ActualState} (distinct : DistinctKeys config)
    (h : StateAccepted config switchPorts state domain) (hmatch : Matches state s) :
    VlanTable config s := by
  have hentry : ∀ i ∈ config.interfaceList, PortExists s i → ∀ vid,
      ((vlanEntry s i.name vid).isSome = true ↔ Member config i vid) ∧
      ∀ flags, vlanEntry s i.name vid = some flags →
        (flags = access ↔ Native config i vid) ∧ (flags = tagged ↔ ¬ Native config i vid) := by
    rintro i hi ⟨hport, link, hl, hdsa⟩ vid
    obtain ⟨port, hp, accepted⟩ := port_of_interface distinct h hi hport
    rw [(hmatch.ports i.name link port hl hdsa hp).2.2 vid]
    exact portEntry_meaning (entryMeaning distinct h accepted.carries vid)
  refine ⟨(mode_cases h).imp And.left And.left, fun i hi he vid => (hentry i hi he vid).1,
    fun i hi he vid => (hentry i hi he vid).2, fun hmode i hi j hj hie hje => ?_,
    fun hmode entry hmem vid hkey hstatus => ?_⟩
  · have hno : ¬ InDot1q config := fun hd => not_inDot1q_and_inPortBased hd hmode
    refine exists_congr fun vid => ?_
    rw [(hentry i hi hie vid).1, (hentry j hj hje vid).1]
    simp [Member, hmode, hno]
  · have hinactive : ¬ DeclaredActive config vid := by
      rintro ⟨other, hmem', hkey', hactive⟩
      obtain rfl := distinct.vlan_inj hmem' hmem hkey' hkey
      exact hactive hstatus
    constructor
    · rw [Option.eq_none_iff_forall_ne_some]
      intro flags hflags
      obtain ⟨-, hactive, -⟩ := (hmatch.selfEntries vid flags).mp hflags
      exact hinactive (declaredActive_of_vlanActive distinct h hmem hkey hactive)
    · intro i hi he
      rw [← Option.not_isSome_iff_eq_none, (hentry i hi he vid).1]
      exact fun hm => hinactive (hm.1 hmode).1

end Accepted

/-- Whatever the backend answers, after a successful `reconcile` for an accepted
configuration the last observed state has the VLAN table of the configuration. -/
theorem reconcile_ok_vlanTable {σ : Type} (net : NetBackend σ) (config : Config)
    (switchPorts : BTreeSet String) (desired : DesiredState) (s : σ) (ops : List Op)
    (distinct : DistinctKeys config) (accepted : desiredState config switchPorts = .ok desired)
    (success : (reconcile net desired s).1 = .ok ops) :
    ∃ last, lastObserved (reconcileTrace net desired s) = some last ∧ VlanTable config last := by
  obtain ⟨domain, h⟩ := desiredState_ok accepted
  obtain ⟨last, hlast, hdone⟩ := reconcile_ok_lastObserved net desired s ops success
  exact ⟨last, hlast, vlanTable_of_matches distinct h ((plan_nil_iff_matches desired last).mp hdone)⟩

theorem reconcile_ok_vlanTable_trunk :
    ∃ last, lastObserved (reconcileTrace fakeNet trunkState onePortBoot) = some last ∧
      VlanTable trunkConfig last := by
  have distinct : DistinctKeys trunkConfig := ⟨⟨by decide⟩, by decide⟩
  have accepted : desiredState trunkConfig oneSwitchPort = .ok trunkState := by decide +kernel
  have success : (reconcile fakeNet trunkState onePortBoot).1 =
      .ok [.setUp "eth0" true, .setUp "lo" true, .createBridge "br-lan", .setUp "br-lan" true,
        .setMaster "lan1" (some "br-lan"), .addBridgeVlan "lan1" 10 access,
        .addBridgeVlan "lan1" 20 tagged, .setUp "lan1" true, .addBridgeVlan "br-lan" 20 tagged,
        .createVlan "vlan20" "br-lan" 20, .addAddress "vlan20" ⟨⟨0xC0A80101⟩, 24⟩,
        .setUp "vlan20" true] := by
    decide +kernel
  exact reconcile_ok_vlanTable fakeNet trunkConfig oneSwitchPort trunkState onePortBoot _
    distinct accepted success

end ClixonSwitch.Guarantees
