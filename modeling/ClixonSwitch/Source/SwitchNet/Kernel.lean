import ClixonSwitch.Source.SwitchModel.DesiredState

/-!
# Kernel side of the switch

The data types of `crates/switch-net/src/lib.rs`: what the kernel looks like
(`ActualState`), one kernel change (`Op`), and the operations that do not depend
on the configuration (`platformOps`).
-/
namespace ClixonSwitch.Source.SwitchNet
open Std Lib Source.SwitchModel

/-- IFLA_BR_STP_STATE: off, the kernel's own STP, or mstpd. -/
inductive BridgeStp where
  | off | kernel | user
  deriving DecidableEq, Repr

structure BridgeSettings where
  vlanFiltering : Bool
  defaultPvid : UInt16
  mstEnabled : Bool
  stp : BridgeStp
  deriving DecidableEq, Repr

inductive LinkKind where
  | dsa (conduit : Option String)
  | bridge (settings : BridgeSettings)
  | vlan (parent : String) (id : UInt16)
  | other
  deriving DecidableEq, Repr

structure Link where
  kind : LinkKind
  up : Bool
  master : Option String
  deriving DecidableEq, Repr

structure VlanFlags where
  pvid : Bool
  untagged : Bool
  deriving DecidableEq, Repr

abbrev VlanMap := BTreeMap UInt16 VlanFlags

/-- Links by name, bridge VLAN entries by device, permanent IPv4 addresses by
device, and IPv4 addresses with a remaining lifetime by device. -/
structure ActualState where
  links : BTreeMap String Link := ∅
  bridgeVlans : BTreeMap String VlanMap := ∅
  addresses : BTreeMap String (BTreeSet Ipv4Prefix) := ∅
  dhcpAddresses : BTreeMap String (BTreeMap Ipv4Prefix UInt32) := ∅
  deriving DecidableEq

/-- One kernel change. -/
inductive Op where
  | createBridge (name : String)
  | configureBridge (name : String)
  | setBridgeStp (name : String) (on : Bool)
  | deleteLink (name : String)
  | createVlan (name parent : String) (id : UInt16)
  | setMaster (name : String) (master : Option String)
  | setUp (name : String) (up : Bool)
  | addBridgeVlan (dev : String) (vid : UInt16) (flags : VlanFlags)
  | delBridgeVlan (dev : String) (vid : UInt16)
  | addAddress (dev : String) (addr : Ipv4Prefix)
  | delAddress (dev : String) (addr : Ipv4Prefix)
  deriving DecidableEq, Repr

def LinkKind.isDsa : LinkKind → Bool
  | .dsa _ => true
  | _ => false

def LinkKind.isBridge : LinkKind → Bool
  | .bridge _ => true
  | _ => false

/-- A VLAN link of `br-lan`: what the planner owns besides the bridge and ports. -/
def LinkKind.isBridgeVlan : LinkKind → Bool
  | .vlan parent _ => parent == bridgeName
  | _ => false

/-- The front ports of the switch. -/
def ActualState.switchPorts (s : ActualState) : BTreeSet String :=
  ExtTreeSet.ofList ((s.links.toList.filter fun e => e.2.kind.isDsa).map Prod.fst) compare

def addConduit (wanted : BTreeSet String) (link : Link) : BTreeSet String :=
  match link.kind with
  | .dsa (some conduit) => wanted.insert conduit
  | _ => wanted

/-- `lo` and the conduits of the DSA ports, whether or not they exist. -/
def ActualState.platformNames (s : ActualState) : BTreeSet String :=
  (s.links.toList.map Prod.snd).foldl addConduit (ExtTreeSet.ofList ["lo"] compare)

/-- Whether the link exists and is administratively down. -/
def ActualState.isDown (s : ActualState) (name : String) : Bool :=
  match s.links[name]? with
  | some link => !link.up
  | none => false

/-- Loopback up, and the DSA conduits up, without which no port passes traffic. -/
def ActualState.platformOps (s : ActualState) : List Op :=
  (s.platformNames.toList.filter s.isDown).map fun name => .setUp name true

/-- The iproute2 equivalent of an operation, as the error text shows it. -/
def Op.display : Op → String
  | .createBridge name =>
    s!"ip link add {name} type bridge vlan_filtering 1 vlan_default_pvid 0 mst_enabled 1"
  | .configureBridge name =>
    s!"ip link set {name} type bridge vlan_filtering 1 vlan_default_pvid 0 mst_enabled 1"
  | .setBridgeStp name on =>
    s!"ip link set {name} type bridge stp_state {if on then 1 else 0}"
  | .deleteLink name => s!"ip link del {name}"
  | .createVlan name parent id => s!"ip link add link {parent} name {name} type vlan id {id}"
  | .setMaster name (some m) => s!"ip link set {name} master {m}"
  | .setMaster name none => s!"ip link set {name} nomaster"
  | .setUp name up => "ip link set " ++ name ++ (if up then " up" else " down")
  | .addBridgeVlan dev vid flags =>
    s!"bridge vlan add dev {dev} vid {vid}" ++ (if flags.pvid then " pvid" else "") ++
      (if flags.untagged then " untagged" else "") ++ selfFlag dev
  | .delBridgeVlan dev vid => s!"bridge vlan del dev {dev} vid {vid}" ++ selfFlag dev
  | .addAddress dev addr => s!"ip addr add {displayPrefix addr} dev {dev}"
  | .delAddress dev addr => s!"ip addr del {displayPrefix addr} dev {dev}"
where
  selfFlag (dev : String) : String := if dev = bridgeName then " self" else ""

/-- `switch_net::Error`: a message. -/
structure NetError where
  message : String
  deriving DecidableEq, Repr

@[simp] theorem mem_switchPorts (s : ActualState) (name : String) :
    name ∈ s.switchPorts ↔ ∃ link, s.links[name]? = some link ∧ link.kind.isDsa = true := by
  simp [ActualState.switchPorts]

theorem mem_foldl_addConduit (links : List Link) (wanted : BTreeSet String) (name : String) :
    name ∈ links.foldl addConduit wanted ↔
      name ∈ wanted ∨ ∃ link ∈ links, link.kind = .dsa (some name) := by
  induction links generalizing wanted with
  | nil => simp
  | cons link rest ih =>
    have hstep : name ∈ addConduit wanted link ↔
        name ∈ wanted ∨ link.kind = .dsa (some name) := by
      unfold addConduit
      split
      · next conduit hkind => simp [hkind, or_comm]
      · next hkind =>
        have hno : link.kind ≠ .dsa (some name) := fun h => hkind name h
        simp [hno]
    rw [List.foldl_cons, ih, hstep]
    simp [or_assoc]

@[simp] theorem mem_platformNames (s : ActualState) (name : String) :
    name ∈ s.platformNames ↔ name = "lo" ∨
      ∃ (port : String) (link : Link), s.links[port]? = some link ∧
        link.kind = .dsa (some name) := by
  have hvalues : ∀ link, link ∈ s.links.toList.map Prod.snd ↔
      ∃ port : String, s.links[port]? = some link := by
    intro link
    simp
  simp only [ActualState.platformNames, mem_foldl_addConduit, hvalues]
  simp only [ExtTreeSet.mem_ofList, List.contains_cons, List.contains_nil, Bool.or_false,
    beq_iff_eq]
  grind

end ClixonSwitch.Source.SwitchNet
