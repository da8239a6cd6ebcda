import ClixonSwitch.Guarantees.DeviceSection
import ClixonSwitch.Guarantees.ValidationSound
import ClixonSwitch.Source.Plugin.MibState

/-!
# The two Q-BRIDGE views of the VLANs agree

When the planner has nothing to do, the kernel has for every configured port the entries
of `portVlans`. The plugin reads them back, and the current VLAN table has the rows and
the port lists that the static one has from the configuration.
-/
namespace ClixonSwitch.Guarantees
open Std Lib Source.SwitchModel Source.SwitchNet
open Source.Plugin Source.SwitchModel.Mib

section Kernel
variable {desired : DesiredState} {actual : ActualState} {name : String} {port : Port}

theorem kernelVlans_getElem? (vlans : VlanMap) (vid : UInt16) :
    (kernelVlans vlans).vlans[vid]? = vlans[vid]?.map VlanFlags.untagged := by
  have hkeys : ((vlans.toList.map fun e => (e.1, e.2.untagged)).map Prod.fst).Nodup := by
    rw [List.map_map]
    exact vlans.nodup_fst
  refine Option.ext fun untagged => ?_
  rw [kernelVlans, BTreeMap.getElem?_collect _ hkeys, Option.map_eq_some_iff]
  simp only [List.mem_map, Prod.exists, Prod.mk.injEq,
    ExtTreeMap.mem_toList_iff_getElem?_eq_some]
  constructor
  · rintro ⟨vid', flags, hflags, rfl, rfl⟩
    exact ⟨flags, hflags, rfl⟩
  · rintro ⟨flags, hflags, rfl⟩
    exact ⟨vid, flags, hflags, rfl, rfl⟩

theorem kernelVlans_pvid (port : Port) : (kernelVlans (portVlans port)).pvid = port.nativeVlan := by
  rw [kernelVlans, ← List.head?_filter, pvidEntries_portVlans]
  cases port.nativeVlan <;> rfl

theorem mibPortVlans_getElem? (h : name ∈ desired.ports) :
    (mibPortVlans desired actual)[name]? = actual.bridgeVlans[name]?.map kernelVlans := by
  have hsub : (((actual.bridgeVlans.toList.filter fun e => desired.ports.contains e.1).map
      fun e => (e.1, kernelVlans e.2)).map Prod.fst).Nodup := by
    rw [List.map_map]
    exact actual.bridgeVlans.nodup_fst.sublist (List.filter_sublist.map Prod.fst)
  refine Option.ext fun vlans => ?_
  rw [mibPortVlans, BTreeMap.getElem?_collect _ hsub, Option.map_eq_some_iff]
  simp only [List.mem_map, List.mem_filter, Prod.exists, Prod.mk.injEq,
    ExtTreeMap.mem_toList_iff_getElem?_eq_some, ExtTreeMap.contains_iff_mem]
  constructor
  · rintro ⟨name', entries, ⟨hentries, -⟩, rfl, rfl⟩
    exact ⟨entries, hentries, rfl⟩
  · rintro ⟨entries, hentries, rfl⟩
    exact ⟨name, entries, ⟨hentries, h⟩, rfl, rfl⟩

/-- With nothing to plan, a configured port has its own entries. -/
theorem entries_of_idle (planned : plan desired actual = .ok []) (present : name ∈ actual.switchPorts)
    (hp : desired.ports[name]? = some port) :
    actual.bridgeVlans.getD name ∅ = portVlans port := by
  obtain ⟨stp, up, master, hbridge⟩ := bridge_of_idle planned
  rw [plan_eq_nil_iff_sections desired actual (planBridge_of_configured actual hbridge)] at planned
  obtain ⟨-, -, -, -, hports, -⟩ := planned
  obtain ⟨link, hl, hdsa⟩ := (mem_switchPorts actual name).mp present
  obtain ⟨-, -, hentries⟩ :=
    ((planPorts_eq_nil desired actual).mp hports).1 name link port hl hdsa hp
  refine ExtTreeMap.ext_getElem? fun vid => ?_
  rw [portVlans_getElem?]
  exact hentries vid

end Kernel

/-- Every configured port is a switch port that is there, and the planner has nothing to do. -/
structure InEffect (desired : DesiredState) (actual : ActualState) : Prop where
  present : ∀ name, name ∈ desired.ports → name ∈ actual.switchPorts
  planned : plan desired actual = .ok []

section Tables
variable {desired : DesiredState} {actual : ActualState} {xpath : String} {fdb : List FdbEntry}
  {name : String} {port : Port} {vid : UInt16}

variable (effect : InEffect desired actual)
include effect

theorem InEffect.pvid (hp : desired.ports[name]? = some port) :
    (mibPortVlans desired actual)[name]?.bind PortVlans.pvid = port.nativeVlan := by
  have hin : name ∈ desired.ports := (BTreeMap.mem_iff _ _).mpr ⟨port, hp⟩
  have hentries := entries_of_idle effect.planned (effect.present name hin) hp
  rw [mibPortVlans_getElem? hin, ← kernelVlans_pvid, ← hentries, BTreeMap.getD_eq]
  cases actual.bridgeVlans[name]? <;> rfl

/-- A port is in the current table of the VLANs that it carries. -/
theorem InEffect.vlans (hp : desired.ports[name]? = some port) (vid : UInt16) :
    (mibPortVlans desired actual)[name]?.bind (fun v => v.vlans[vid]?) =
      if port.carries vid then some (port.nativeVlan == some vid) else none := by
  have hin : name ∈ desired.ports := (BTreeMap.mem_iff _ _).mpr ⟨port, hp⟩
  have hentries := entries_of_idle effect.planned (effect.present name hin) hp
  have hread : (mibPortVlans desired actual)[name]?.bind (fun v => v.vlans[vid]?) =
      (portEntry port vid).map VlanFlags.untagged := by
    rw [mibPortVlans_getElem? hin, ← portVlans_getElem?, ← hentries, BTreeMap.getD_eq]
    cases actual.bridgeVlans[name]? with
    | none => simp
    | some vlans => exact kernelVlans_getElem? vlans vid
  rw [hread, portEntry]
  by_cases hn : port.nativeVlan = some vid
  · simp [Port.carries, hn, access]
  · by_cases ht : vid ∈ port.taggedVlans
    · simp [Port.carries, hn, ht, tagged]
    · simp [Port.carries, hn, ht]

def numbersOf (desired : DesiredState) : BTreeMap String UInt16 := portNumbers desired.ports.keys

omit effect in
theorem numbersOf_numbered (desired : DesiredState) : Numbered (numbersOf desired) :=
  portNumbers_numbered desired.ports.nodup_keys

omit effect in
theorem mem_numbersOf : name ∈ numbersOf desired ↔ name ∈ desired.ports := by
  rw [numbersOf, mem_portNumbers, ExtTreeMap.mem_keys]

theorem InEffect.current (xpath : String) (fdb : List FdbEntry) (untagged : Bool) :
    (name ∈ numbersOf desired ∧ (mibInfo desired actual xpath fdb).portVlans[name]?.bind
        (fun v => v.vlans[vid]?) = some untagged) ↔
      ∃ port, desired.ports[name]? = some port ∧ port.carries vid = true ∧
        untagged = (port.nativeVlan == some vid) := by
  rw [mem_numbersOf]
  constructor
  · rintro ⟨hin, hread⟩
    obtain ⟨port, hp⟩ := (BTreeMap.mem_iff _ _).mp hin
    refine ⟨port, hp, ?_⟩
    have hvlans := effect.vlans hp vid
    rw [show (mibInfo desired actual xpath fdb).portVlans = mibPortVlans desired actual from rfl,
      hvlans] at hread
    split at hread
    · next hcarries => exact ⟨hcarries, (Option.some.inj hread).symm⟩
    · cases hread
  · rintro ⟨port, hp, hcarries, rfl⟩
    refine ⟨(BTreeMap.mem_iff _ _).mpr ⟨port, hp⟩, (effect.vlans hp vid).trans (if_pos hcarries)⟩

/-- A VLAN is in the current table exactly if a configured port carries it. -/
theorem InEffect.mem_current (xpath : String) (fdb : List FdbEntry) :
    vid ∈ currentVlans (mibInfo desired actual xpath fdb) (numbersOf desired) ↔
      ∃ (name : String) (port : Port), desired.ports[name]? = some port ∧
        port.carries vid = true := by
  rw [mem_currentVlans]
  constructor
  · rintro ⟨name, untagged, h⟩
    obtain ⟨port, hp, hcarries, -⟩ := (effect.current xpath fdb untagged).mp h
    exact ⟨name, port, hp, hcarries⟩
  · rintro ⟨name, port, hp, hcarries⟩
    exact ⟨name, _, (effect.current xpath fdb _).mpr ⟨port, hp, hcarries, rfl⟩⟩

/-- The ports of a current VLAN, in the order of the static table. -/
theorem InEffect.members {ports : BTreeMap String Bool}
    (h : (currentVlans (mibInfo desired actual xpath fdb) (numbersOf desired))[vid]? = some ports) :
    ports.keys = (desired.ports.toList.filter fun e => e.2.carries vid).map Prod.fst ∧
      (ports.toList.filter fun e => e.2).map Prod.fst =
        ((desired.ports.toList.filter fun e => e.2.carries vid).filter
          fun e => e.2.nativeVlan == some vid).map Prod.fst := by
  have hports : ∀ (name : String) (untagged : Bool), ports[name]? = some untagged ↔
      ∃ port, desired.ports[name]? = some port ∧ port.carries vid = true ∧
        untagged = (port.nativeVlan == some vid) := by
    intro name untagged
    rw [← effect.current xpath fdb, ← currentVlans_getElem?, BTreeMap.getD_eq, h,
      Option.getD_some]
  have hordered : ∀ {V : Type} (m : BTreeMap String V) (p : String × V → Bool),
      ((m.toList.filter p).map Prod.fst).Pairwise fun a b => compare a b = .lt :=
    fun m p => List.pairwise_map.mpr (m.ordered_keys_toList.filter p)
  constructor
  · refine eq_of_ordered ports.ordered_keys (hordered _ _) fun name => ?_
    simp only [ExtTreeMap.mem_keys, BTreeMap.mem_iff, hports, List.mem_map, List.mem_filter,
      Prod.exists, ExtTreeMap.mem_toList_iff_getElem?_eq_some]
    constructor
    · rintro ⟨untagged, port, hp, hcarries, -⟩
      exact ⟨name, port, ⟨hp, hcarries⟩, rfl⟩
    · rintro ⟨name', port, ⟨hp, hcarries⟩, rfl⟩
      exact ⟨_, port, hp, hcarries, rfl⟩
  · rw [List.filter_filter]
    refine eq_of_ordered (hordered _ _) (hordered _ _) fun name => ?_
    simp only [hports, List.mem_map, List.mem_filter, Prod.exists, Bool.and_eq_true,
      ExtTreeMap.mem_toList_iff_getElem?_eq_some]
    constructor
    · rintro ⟨name', untagged, ⟨⟨port, hp, hcarries, heq⟩, htrue⟩, rfl⟩
      exact ⟨name', port, ⟨hp, heq ▸ htrue, hcarries⟩, rfl⟩
    · rintro ⟨name', port, ⟨hp, hnative, hcarries⟩, rfl⟩
      exact ⟨name', true, ⟨⟨port, hp, hcarries, hnative.symm⟩, rfl⟩, rfl⟩

end Tables

/-- After a commit the current VLAN table has a row for every VLAN that a configured port
carries and no other, with the port lists of the static table, and a port's PVID is its
native VLAN. -/
theorem qBridge_views_agree (config : Config) (switchPorts : BTreeSet String)
    (desired : DesiredState) (actual : ActualState)
    (accepted : desiredState config switchPorts = .ok desired) (effect : InEffect desired actual)
    (xpath : String) (fdb : List FdbEntry) :
    ∃ mib, qBridge (mibInfo desired actual xpath fdb) (portNumbers desired.ports.keys) = some mib ∧
      (∀ vid, (∃ row ∈ mib.vlanCurrent, row.index = vid) ↔
        ∃ (name : String) (port : Port), desired.ports[name]? = some port ∧
          port.carries vid = true) ∧
      (∀ row ∈ mib.vlanCurrent,
        (∃ static ∈ mib.vlanStatic, static.index = row.index) ∧
        ∀ static ∈ mib.vlanStatic, static.index = row.index →
          row.egressPorts = static.egressPorts ∧ row.untaggedPorts = static.untaggedPorts) ∧
      ∀ (name : String) (port : Port), desired.ports[name]? = some port →
        (portVlanEntry (mibInfo desired actual xpath fdb) name).pvid = port.nativeVlan ∧
        ((portVlanEntry (mibInfo desired actual xpath fdb) name).acceptableFrameTypes =
          .admitOnlyVlanTagged ↔ port.nativeVlan = none) := by
  have hnumbered := numbersOf_numbered desired
  obtain ⟨mib, hmib, hrows, hstatics⟩ := qBridge_some hnumbered (mibInfo desired actual xpath fdb)
  refine ⟨mib, hmib, fun vid => ?_, fun row hrow => ?_, fun name port hp => ?_⟩
  · rw [← effect.mem_current xpath fdb, BTreeMap.mem_iff]
    constructor
    · rintro ⟨row, hrow, rfl⟩
      obtain ⟨vid, ports, hports, hentry⟩ := (hrows row).mp hrow
      rw [(vlanCurrentEntry_eq_some hentry).1]
      exact ⟨ports, hports⟩
    · rintro ⟨ports, hports⟩
      obtain ⟨row, hentry⟩ := vlanCurrentEntry_some hnumbered vid ports
      exact ⟨row, (hrows row).mpr ⟨vid, ports, hports, hentry⟩, (vlanCurrentEntry_eq_some hentry).1⟩
  · obtain ⟨vid, ports, hports, hentry⟩ := (hrows row).mp hrow
    obtain ⟨hindex, hegress, huntagged⟩ := vlanCurrentEntry_eq_some hentry
    obtain ⟨hmembers, hnative⟩ := effect.members hports
    rw [hmembers] at hegress
    rw [hnative] at huntagged
    constructor
    · -- What a port of an accepted configuration carries is declared.
      have hin := (BTreeMap.mem_iff _ vid).mpr ⟨ports, hports⟩
      obtain ⟨name, port, hp, hcarries⟩ := (effect.mem_current xpath fdb).mp hin
      obtain ⟨domain, haccepted⟩ := desiredState_ok accepted
      obtain ⟨-, vlan, hvlan, -⟩ := (port_sound haccepted hp).vlans vid hcarries
      obtain ⟨static, hstatic⟩ := vlanStaticEntry_some hnumbered desired vid vlan
      refine ⟨static, (hstatics static).mpr ⟨vid, vlan, hvlan, hstatic⟩, ?_⟩
      rw [(vlanStaticEntry_eq_some hstatic).1, hindex]
    · intro static hstatic hsame
      obtain ⟨vid', vlan, -, hentry'⟩ := (hstatics static).mp hstatic
      obtain ⟨hindex', hegress', huntagged'⟩ := vlanStaticEntry_eq_some hentry'
      obtain rfl : vid' = vid := by rw [← hindex', hsame, hindex]
      exact ⟨Option.some.inj (hegress.symm.trans hegress'),
        Option.some.inj (huntagged.symm.trans huntagged')⟩
  · have hpvid : (portVlanEntry (mibInfo desired actual xpath fdb) name).pvid = port.nativeVlan :=
      effect.pvid hp
    refine ⟨hpvid, ?_⟩
    have htypes : (portVlanEntry (mibInfo desired actual xpath fdb) name).acceptableFrameTypes =
        if port.nativeVlan.isSome then .admitAll else .admitOnlyVlanTagged := by
      rw [← hpvid]
      rfl
    rw [htypes]
    cases port.nativeVlan <;> simp

/-- The kernel after the trunk configuration has been applied. -/
def trunkKernel : ActualState where
  links := ExtTreeMap.ofList
    [("br-lan", ⟨.bridge ⟨true, 0, true, .off⟩, true, none⟩),
      ("lan1", ⟨.dsa none, true, some "br-lan"⟩),
      ("vlan20", ⟨.vlan "br-lan" 20, true, none⟩)] compare
  bridgeVlans := ExtTreeMap.ofList
    [("br-lan", ExtTreeMap.ofList [(20, tagged)] compare),
      ("lan1", ExtTreeMap.ofList [(10, access), (20, tagged)] compare)] compare
  addresses := ExtTreeMap.ofList
    [("vlan20", ExtTreeSet.ofList [⟨⟨0xC0A80101⟩, 24⟩] compare)] compare

theorem qBridge_views_agree_trunk :
    ∃ mib, qBridge (mibInfo trunkState trunkKernel "" []) (portNumbers trunkState.ports.keys) =
        some mib ∧
      (∀ vid, (∃ row ∈ mib.vlanCurrent, row.index = vid) ↔
        ∃ (name : String) (port : Port), trunkState.ports[name]? = some port ∧
          port.carries vid = true) ∧
      (∀ row ∈ mib.vlanCurrent,
        (∃ static ∈ mib.vlanStatic, static.index = row.index) ∧
        ∀ static ∈ mib.vlanStatic, static.index = row.index →
          row.egressPorts = static.egressPorts ∧ row.untaggedPorts = static.untaggedPorts) ∧
      ∀ (name : String) (port : Port), trunkState.ports[name]? = some port →
        (portVlanEntry (mibInfo trunkState trunkKernel "" []) name).pvid = port.nativeVlan ∧
        ((portVlanEntry (mibInfo trunkState trunkKernel "" []) name).acceptableFrameTypes =
          .admitOnlyVlanTagged ↔ port.nativeVlan = none) := by
  have accepted : desiredState trunkConfig oneSwitchPort = .ok trunkState := by decide +kernel
  have hsubset : ∀ name ∈ trunkState.ports.keys, name ∈ trunkKernel.switchPorts := by
    decide +kernel
  have effect : InEffect trunkState trunkKernel :=
    ⟨fun name hin => hsubset name (ExtTreeMap.mem_keys.mpr hin), by decide +kernel⟩
  exact qBridge_views_agree trunkConfig oneSwitchPort trunkState trunkKernel accepted effect "" []

end ClixonSwitch.Guarantees
