import ClixonSwitch.Guarantees.VlanTable
import ClixonSwitch.Lib.VlanBridge

/-!
# What the switch does with frames

The configuration says which VLANs a port is in and which of them is native: an 802.1Q
bridge. The kernel forwards by its VLAN table, by entries with a PVID and an untagged flag.
The bridge of the kernel is not part of this program: what is taken of it is `DataPath`. For
any such data path, after a successful `reconcile` both do the same with every frame on the
ports that spanning tree lets forward.
-/
namespace ClixonSwitch.Guarantees
open Lib Source.SwitchModel Source.SwitchNet

section Kernel

/-- A frame of VLAN `vid` leaves with this tag or without one, by the entries of the port. -/
def Emits (vlans : VlanMap) (vid : UInt16) (tag : Option UInt16) : Prop :=
  ∃ flags, vlans[vid]? = some flags ∧ tag = if flags.untagged then none else some vid

/-- A port of the bridge that is up. -/
def InBridge (s : ActualState) (dev : String) : Prop :=
  ∃ l : Link, s.links[dev]? = some l ∧ l.up = true ∧ l.master = some bridgeName

end Kernel

/-- The bridge that the configuration describes, with these ports in the forwarding state. -/
def configuredBridge (config : Config) (forwarding : String → Prop) : VlanBridge Interface UInt16 where
  attached i := i.config.enabled.getD true = true ∧ forwarding i.name
  member := Member config
  native := Native config

section Tables
variable {port : Port} {vlans : VlanMap}

/-- The VLAN map of a port that carries `port`. -/
def HoldsVlans (port : Port) (vlans : VlanMap) : Prop := ∀ vid : UInt16, vlans[vid]? = portEntry port vid

theorem HoldsVlans.emits (h : HoldsVlans port vlans) (vid : UInt16) (tag : Option UInt16) :
    Emits vlans vid tag ↔ (portEntry port vid).isSome = true ∧
      match tag with
      | some t => t = vid ∧ port.nativeVlan ≠ some vid
      | none => port.nativeVlan = some vid := by
  rw [Emits, h vid, portEntry]
  by_cases hn : port.nativeVlan = some vid
  · cases tag <;> simp [hn, access]
  · by_cases ht : vid ∈ port.taggedVlans
    · cases tag <;> simp [hn, ht, tagged]
    · simp [hn, ht]

end Tables

section Accepted
variable {config : Config} {switchPorts : BTreeSet String} {state : DesiredState} {domain : Domain}
  {s : ActualState} {kernel : Paths}

/-- A configured port in a kernel that carries the desired state. -/
structure PortMeaning (config : Config) (s : ActualState) (i : Interface) (port : Port) : Prop where
  carries : HoldsVlans port (s.bridgeVlans.getD i.name ∅)
  attached : InBridge s i.name ↔ i.config.enabled.getD true = true
  entries : ∀ vid, EntryMeaning config i port vid

theorem PortMeaning.leaves {i : Interface} {port : Port} (h : PortMeaning config s i port)
    (forwarding : String → Prop) (vid : UInt16) (tag : Option UInt16) :
    Emits (s.bridgeVlans.getD i.name ∅) vid tag ↔
      (configuredBridge config forwarding).Leaves i vid tag := by
  rw [h.carries.emits, (portEntry_meaning (h.entries vid)).1]
  refine and_congr_right fun hmember => ?_
  have hnative := (h.entries vid).native.trans (and_iff_right hmember)
  cases tag with
  | some t => exact and_congr_right fun _ => not_congr hnative
  | none => exact hnative

end Accepted

section Bench

end Bench

end ClixonSwitch.Guarantees
