import ClixonSwitch.Source.SwitchModel.Mib
import ClixonSwitch.Source.SwitchModel.Snmp
import ClixonSwitch.Source.SwitchNet.Mstpctl

/-!
# State data of the switch

`state_xml` of `crates/switch-model/src/lib.rs` and `stp_state_xml` of
`crates/switch-model/src/stp.rs`: XML written from one end to the other, where a start tag
and its end tag may come from different writes. Texts of a fixed set are enumerations.
-/
namespace ClixonSwitch.Source.SwitchModel
open Lib Source.SwitchNet
open Source.SwitchModel.Mib (escape leaf)

section Reported

/-- OpenConfig oper-status. -/
inductive OperStatus where
  | up | down | lowerLayerDown | testing | dormant | notPresent | unknown
  deriving DecidableEq, Repr

def OperStatus.asStr : OperStatus → String
  | .up => "UP"
  | .down => "DOWN"
  | .lowerLayerDown => "LOWER_LAYER_DOWN"
  | .testing => "TESTING"
  | .dormant => "DORMANT"
  | .notPresent => "NOT_PRESENT"
  | .unknown => "UNKNOWN"

inductive AddressOrigin where
  | static | dhcp
  deriving DecidableEq, Repr

def AddressOrigin.asStr : AddressOrigin → String
  | .static => "STATIC"
  | .dhcp => "DHCP"

/-- A DHCP lease, as the udhcpc script recorded it. -/
structure DhcpLease where
  address : Option Ipv4Prefix := none
  routers : List Ipv4Addr := []
  dnsServers : List Ipv4Addr := []
  domain : Option String := none
  server : Option Ipv4Addr := none
  leaseTime : Option UInt32 := none
  remainingTime : Option UInt32 := none

/-- Operational state of one interface, as the kernel reports it. -/
structure InterfaceState where
  adminUp : Bool := false
  operStatus : OperStatus := .unknown
  mac : Option String := none
  inOctets : UInt64 := 0
  inPkts : UInt64 := 0
  outOctets : UInt64 := 0
  outPkts : UInt64 := 0
  addresses : BTreeMap Ipv4Prefix AddressOrigin := ∅
  dhcpLease : Option DhcpLease := none

/-- A bridge identifier: priority and MAC address. -/
structure BridgeId where
  priority : UInt16
  address : String

structure BridgeState where
  bridge : Option BridgeId := none
  root : Option BridgeId := none
  rootPort : Option String := none
  rootCost : Option UInt32 := none
  topologyChanges : Option UInt64 := none

inductive PortRole where
  | root | designated | alternate | backup
  deriving DecidableEq, Repr

def PortRole.asStr : PortRole → String
  | .root => "ROOT"
  | .designated => "DESIGNATED"
  | .alternate => "ALTERNATE"
  | .backup => "BACKUP"

inductive StpPortState where
  | disabled | blocking | learning | forwarding
  deriving DecidableEq, Repr

def StpPortState.asStr : StpPortState → String
  | .disabled => "DISABLED"
  | .blocking => "BLOCKING"
  | .learning => "LEARNING"
  | .forwarding => "FORWARDING"

structure PortState where
  portNum : Option UInt16 := none
  role : Option PortRole := none
  portState : Option StpPortState := none
  designatedRoot : Option BridgeId := none
  designatedCost : Option UInt32 := none
  designatedBridge : Option BridgeId := none
  designatedPortPriority : Option UInt8 := none
  designatedPortNum : Option UInt16 := none
  forwardTransitions : Option UInt64 := none
  bpduSent : Option UInt64 := none
  bpduReceived : Option UInt64 := none

structure TreeState where
  bridge : Option BridgeState := none
  ports : BTreeMap String PortState := ∅

/-- State of spanning tree as mstpd reports it. -/
structure StpState where
  cist : TreeState
  mstis : BTreeMap UInt16 TreeState

end Reported

section Tags

def startTag (name : String) : String := "<" ++ name ++ ">"

/-- A start tag with attributes. -/
def startTagWith (name attrs : String) : String := "<" ++ name ++ " " ++ attrs ++ ">"

def endTag (name : String) : String := "</" ++ name ++ ">"

def xmlns (ns : String) : String := "xmlns=\"" ++ ns ++ "\""

def stpNs : String := "http://openconfig.net/yang/spanning-tree"

def typesXmlns : String :=
  "xmlns:oc-stp-types=\"http://openconfig.net/yang/spanning-tree/types\""

/-- `if let Some(..)` around one write. -/
def optionally {α : Type} (value : Option α) (write : α → String) : String :=
  (value.map write).getD ""

end Tags

section Interfaces

def leaseXml (lease : DhcpLease) : String :=
  startTagWith "dhcp-lease" (xmlns switchNs) ++
    optionally lease.address (fun a =>
      leaf "address" (displayAddr a.addr) ++ leaf "prefix-length" (toString a.prefixLen)) ++
    String.join (lease.routers.map fun router => leaf "router" (displayAddr router)) ++
    String.join (lease.dnsServers.map fun dns => leaf "dns-server" (displayAddr dns)) ++
    optionally lease.domain (fun domain => leaf "domain" (escape domain)) ++
    optionally lease.server (fun server => leaf "server" (displayAddr server)) ++
    optionally lease.leaseTime (fun t => leaf "lease-time" (toString t)) ++
    optionally lease.remainingTime (fun t => leaf "remaining-time" (toString t)) ++
    endTag "dhcp-lease"

/-- routed-vlan/ipv4 state of an SVI: its addresses with their origin, whether the DHCP
client runs, and the lease. -/
def sviIpv4StateXml (svi : Svi) (s : InterfaceState) : String :=
  startTagWith "routed-vlan" (xmlns "http://openconfig.net/yang/vlan") ++
    startTagWith "ipv4" (xmlns "http://openconfig.net/yang/interfaces/ip") ++
    startTag "addresses" ++
    String.join (s.addresses.toList.map fun e =>
      startTag "address" ++ leaf "ip" (displayAddr e.1.addr) ++ startTag "state" ++
        leaf "ip" (displayAddr e.1.addr) ++ leaf "prefix-length" (toString e.1.prefixLen) ++
        leaf "origin" e.2.asStr ++ endTag "state" ++ endTag "address") ++
    endTag "addresses" ++ startTag "state" ++ leaf "dhcp-client" (toString svi.dhcpClient) ++
    (if svi.dhcpClient then optionally s.dhcpLease leaseXml else "") ++
    endTag "state" ++ endTag "ipv4" ++ endTag "routed-vlan"

/-- One interface; without state it is skipped. -/
def interfaceXml (states : BTreeMap String InterfaceState) (name : String) (svi : Option Svi) :
    String :=
  optionally states[name]? fun s =>
    startTag "interface" ++ leaf "name" (escape name) ++ startTag "state" ++
      leaf "admin-status" (if s.adminUp then "UP" else "DOWN") ++
      leaf "oper-status" s.operStatus.asStr ++ startTag "counters" ++
      leaf "in-octets" (toString s.inOctets) ++ leaf "in-pkts" (toString s.inPkts) ++
      leaf "out-octets" (toString s.outOctets) ++ leaf "out-pkts" (toString s.outPkts) ++
      endTag "counters" ++ endTag "state" ++
      (match svi, s.mac with
      | none, some mac =>
        startTagWith "ethernet" (xmlns "http://openconfig.net/yang/interfaces/ethernet") ++
          startTag "state" ++ leaf "hw-mac-address" (escape mac) ++ endTag "state" ++
          endTag "ethernet"
      | _, _ => "") ++
      optionally svi (fun svi => sviIpv4StateXml svi s) ++ endTag "interface"

end Interfaces

section Vlans
variable (applied : DesiredState)

def VlanMode.asStr : VlanMode → String
  | .dot1q => "DOT1Q"
  | .portBased => "PORT_BASED"

/-- The ports that carry a VLAN, as they are written. -/
def members (vlan : UInt16) : List String :=
  (applied.ports.toList.filter fun e => e.2.carries vlan).map fun e => escape e.1

def nameXml (vlan : Vlan) : String := optionally vlan.name fun n => leaf "name" (escape n)

def vlanXml (id : UInt16) (vlan : Vlan) : String :=
  startTag "vlan" ++ leaf "vlan-id" (toString id) ++ startTag "state" ++
    leaf "vlan-id" (toString id) ++ nameXml vlan ++
    leaf "status" (if vlan.active then "ACTIVE" else "SUSPENDED") ++ endTag "state" ++
    startTag "members" ++
    String.join ((members applied id).map fun port =>
      startTag "member" ++ startTag "state" ++ leaf "interface" port ++ endTag "state" ++
        endTag "member") ++
    endTag "members" ++ endTag "vlan"

def groupXml (id : UInt16) (vlan : Vlan) : String :=
  startTag "group" ++ leaf "id" (toString id) ++ startTag "state" ++ leaf "id" (toString id) ++
    nameXml vlan ++ String.join ((members applied id).map fun port => leaf "port" port) ++
    endTag "state" ++ endTag "group"

def vlansXml : String :=
  if applied.vlans.isEmpty then ""
  else
    match applied.mode with
    | .dot1q =>
      startTagWith "vlans" (xmlns switchNs) ++
        String.join (applied.vlans.toList.map fun e => vlanXml applied e.1 e.2) ++ endTag "vlans"
    | .portBased =>
      startTagWith "port-based-vlans" (xmlns switchNs) ++
        String.join (applied.vlans.toList.map fun e => groupXml applied e.1 e.2) ++
        endTag "port-based-vlans"

end Vlans

section SpanningTree

def StpProtocol.identity : StpProtocol → String
  | .stp => "sw:STP"
  | .rstp => "oc-stp-types:RSTP"
  | .mstp => "oc-stp-types:MSTP"

def EdgePort.identity : EdgePort → String
  | .enable => "oc-stp-types:EDGE_ENABLE"
  | .disable => "oc-stp-types:EDGE_DISABLE"
  | .auto => "oc-stp-types:EDGE_AUTO"

/-- What `namespaced` makes of the text up to the next '<'. -/
def namespacePart (ns : String) (part : List Char) : List Char :=
  if part.head? = some '/' then part
  else
    match Text.splitOnce ['>'] part with
    | some (tag, rest) => tag ++ ' ' :: (xmlns ns).toList ++ '>' :: rest
    | none => part

/-- Puts the top-level elements of `fragment`, a sequence of leaves as `common_state_xml`
writes them, into namespace `ns`. -/
def namespaced (fragment ns : String) : String :=
  String.ofList (['<'].intercalate ((fragment.toList.splitOn '<').map (namespacePart ns)))

/-- `str::replacen` with a count of 1. -/
def replaceFirst (text pattern replacement : String) : String :=
  match Text.splitOnce pattern.toList text.toList with
  | some (before, after) => String.ofList (before ++ replacement.toList ++ after)
  | none => text

/-- stp-common-state leaves. -/
def commonStateXml (bridge : Option BridgeState) : String :=
  optionally bridge fun b =>
    optionally b.bridge (fun id => leaf "bridge-address" id.address) ++
      optionally b.root (fun root =>
        leaf "designated-root-priority" (toString root.priority) ++
          leaf "designated-root-address" root.address) ++
      optionally b.rootPort (fun port => leaf "root-port" (escape port)) ++
      optionally b.rootCost (fun cost => leaf "root-cost" (toString cost)) ++
      optionally b.topologyChanges (fun n => leaf "topology-changes" (toString n))

def portStateXml (s : PortState) : String :=
  optionally s.portNum (fun n => leaf "port-num" (toString n)) ++
    optionally s.role (fun role =>
      startTagWith "role" typesXmlns ++ "oc-stp-types:" ++ role.asStr ++ endTag "role") ++
    optionally s.portState (fun state =>
      startTagWith "port-state" typesXmlns ++ "oc-stp-types:" ++ state.asStr ++
        endTag "port-state") ++
    optionally s.designatedRoot (fun root =>
      leaf "designated-root-priority" (toString root.priority) ++
        leaf "designated-root-address" root.address) ++
    optionally s.designatedCost (fun cost => leaf "designated-cost" (toString cost)) ++
    optionally s.designatedBridge (fun bridge =>
      leaf "designated-bridge-priority" (toString bridge.priority) ++
        leaf "designated-bridge-address" bridge.address) ++
    optionally s.designatedPortPriority (fun p => leaf "designated-port-priority" (toString p)) ++
    optionally s.designatedPortNum (fun n => leaf "designated-port-num" (toString n)) ++
    optionally s.forwardTransitions (fun n => leaf "forward-transisitions" (toString n)) ++
    (if s.bpduSent.isSome || s.bpduReceived.isSome then
      startTag "counters" ++ optionally s.bpduSent (fun n => leaf "bpdu-sent" (toString n)) ++
        optionally s.bpduReceived (fun n => leaf "bpdu-received" (toString n)) ++
        endTag "counters"
    else "")

/-- stp-interfaces-top state of one tree. -/
def treePortsXml (element : String) (tree : Tree) (state : TreeState) : String :=
  startTag element ++
    String.join (tree.ports.toList.map fun e =>
      startTag "interface" ++ leaf "name" (escape e.1) ++ startTag "state" ++
        leaf "name" (escape e.1) ++ optionally e.2.cost (fun cost => leaf "cost" (toString cost)) ++
        leaf "port-priority" (toString e.2.priority) ++
        optionally state.ports[e.1]? portStateXml ++ endTag "state" ++ endTag "interface") ++
    endTag element

def timersXml (stp : Stp) : String :=
  leaf "hello-time" (toString stp.helloTime) ++ leaf "max-age" (toString stp.maxAge) ++
    leaf "forwarding-delay" (toString stp.forwardDelay) ++
    leaf "hold-count" (toString stp.holdCount)

def mstInstanceXml (id : UInt16) (msti : Msti) (state : TreeState) : String :=
  startTag "mst-instance" ++ leaf "mst-id" (toString id) ++ startTag "state" ++
    leaf "mst-id" (toString id) ++
    String.join ((vlanRanges ".." msti.vlans).map fun range => leaf "vlan" range) ++
    leaf "bridge-priority" (toString msti.tree.bridgePriority) ++ commonStateXml state.bridge ++
    endTag "state" ++ treePortsXml "interfaces" msti.tree state ++ endTag "mst-instance"

def protocolXml (stp : Stp) (state : Option StpState) : String :=
  let cistState := (state.map StpState.cist).getD {}
  match stp.protocol with
  | .stp | .rstp =>
    startTag "rstp" ++ startTag "state" ++ timersXml stp ++
      leaf "bridge-priority" (toString stp.cist.bridgePriority) ++
      commonStateXml cistState.bridge ++ endTag "state" ++
      treePortsXml "interfaces" stp.cist cistState ++ endTag "rstp"
  | .mstp =>
    startTag "mstp" ++ startTag "state" ++
      optionally stp.regionName (fun name => leaf "name" (escape name)) ++
      leaf "revision" (toString stp.regionRevision) ++ leaf "max-hop" (toString stp.maxHops) ++
      timersXml stp ++ startTagWith "bridge-priority" (xmlns switchNs) ++
      toString stp.cist.bridgePriority ++ endTag "bridge-priority" ++
      -- The CIST's state leaves are clixon-switch augments.
      namespaced (commonStateXml cistState.bridge) switchNs ++ endTag "state" ++
      startTag "mst-instances" ++
      String.join (stp.mstis.toList.map fun e =>
        mstInstanceXml e.1 e.2 ((state.bind fun s => s.mstis[e.1]?).getD {})) ++
      endTag "mst-instances" ++
      replaceFirst (treePortsXml "interfaces" stp.cist cistState) (startTag "interfaces")
        (startTagWith "interfaces" (xmlns switchNs)) ++
      endTag "mstp"

def featuresXml (name : String) (f : PortFeatures) : String :=
  startTag "interface" ++ leaf "name" (escape name) ++ startTag "state" ++
    leaf "name" (escape name) ++ startTagWith "edge-port" typesXmlns ++ f.edge.identity ++
    endTag "edge-port" ++
    optionally f.pointToPoint (fun p2p => leaf "link-type" (if p2p then "P2P" else "SHARED")) ++
    leaf "guard" (if f.rootGuard then "ROOT" else "NONE") ++
    leaf "bpdu-guard" (toString f.bpduGuard) ++ leaf "bpdu-filter" (toString f.bpduFilter) ++
    endTag "state" ++ endTag "interface"

/-- State data of `/stp`: the applied configuration, and what mstpd reports. -/
def stpStateXml (stp : Stp) (state : Option StpState) : String :=
  startTagWith "stp" (xmlns stpNs) ++ startTag "global" ++ startTag "state" ++
    startTagWith "enabled-protocol" ("xmlns:sw=\"" ++ switchNs ++ "\" " ++ typesXmlns) ++
    stp.protocol.identity ++ endTag "enabled-protocol" ++ endTag "state" ++ endTag "global" ++
    protocolXml stp state ++ startTag "interfaces" ++
    String.join (stp.ports.toList.map fun e => featuresXml e.1 e.2) ++ endTag "interfaces" ++
    endTag "stp"

end SpanningTree

/-- State data for the configuration in `applied`: several top-level elements, the
interfaces first. -/
def stateXml (applied : DesiredState) (states : BTreeMap String InterfaceState)
    (stp : Option StpState) : String :=
  startTagWith "interfaces" (xmlns "http://openconfig.net/yang/interfaces") ++
    String.join (applied.ports.toList.map fun e => interfaceXml states e.1 none) ++
    String.join (applied.svis.toList.map fun e => interfaceXml states e.1 (some e.2)) ++
    endTag "interfaces" ++ startTagWith "switch" (xmlns switchNs) ++ startTag "state" ++
    leaf "vlan-mode" applied.mode.asStr ++ endTag "state" ++ endTag "switch" ++
    vlansXml applied ++ optionally applied.stp (fun s => stpStateXml s stp)

end ClixonSwitch.Source.SwitchModel
