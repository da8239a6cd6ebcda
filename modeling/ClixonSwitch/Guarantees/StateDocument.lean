import ClixonSwitch.Lib.Xml
import ClixonSwitch.Source.SwitchModel.StateXml

/-!
# State data as a document

The elements that the state data consists of. Names, addresses and numbers are the texts
of the leaves as they are, without escaping. In MSTP the leaves of the CIST and its list
of interfaces are those of the other protocols in the switch's own namespace.
-/
namespace ClixonSwitch.Guarantees
open Lib Lib.Xml
open Source.SwitchModel Source.SwitchNet

section Building

def tagNamed (name : String) (plain : PlainName name = true := by decide) : Tag :=
  ⟨name, "", plain, rfl⟩

def tagWith (name attrs : String) (plainName : PlainName name = true := by decide)
    (plainAttrs : PlainAttrs attrs = true := by decide) : Tag :=
  ⟨name, attrs, plainName, plainAttrs⟩

def leafNode (name text : String) (plain : PlainName name = true := by decide) : Element :=
  .elem (tagNamed name plain) text []

def node (name : String) (children : List Element) (plain : PlainName name = true := by decide) :
    Element :=
  .elem (tagNamed name plain) "" children

/-- What is there if the value is. -/
def present {α : Type} (value : Option α) (doc : α → List Element) : List Element :=
  (value.map doc).getD []

/-- The same element with other attributes. -/
def withAttrs (attrs : String) (plain : PlainAttrs attrs = true) : Element → Element
  | .elem tag text children => .elem ⟨tag.name, attrs, tag.plainName, plain⟩ text children

theorem plain_switchNs : PlainAttrs (xmlns switchNs) = true := by decide

/-- An element in the switch's own namespace. -/
def inSwitchNs (n : Element) : Element := withAttrs (xmlns switchNs) plain_switchNs n

end Building

section Interfaces

def leaseDoc (lease : DhcpLease) : Element :=
  inSwitchNs (node "dhcp-lease"
    (present lease.address (fun a =>
        [leafNode "address" (displayAddr a.addr), leafNode "prefix-length" (toString a.prefixLen)]) ++
      lease.routers.map (fun router => leafNode "router" (displayAddr router)) ++
      lease.dnsServers.map (fun dns => leafNode "dns-server" (displayAddr dns)) ++
      present lease.domain (fun domain => [leafNode "domain" domain]) ++
      present lease.server (fun server => [leafNode "server" (displayAddr server)]) ++
      present lease.leaseTime (fun t => [leafNode "lease-time" (toString t)]) ++
      present lease.remainingTime (fun t => [leafNode "remaining-time" (toString t)])))

def addressDoc (e : Ipv4Prefix × AddressOrigin) : Element :=
  node "address"
    [leafNode "ip" (displayAddr e.1.addr),
      node "state"
        [leafNode "ip" (displayAddr e.1.addr), leafNode "prefix-length" (toString e.1.prefixLen),
          leafNode "origin" e.2.asStr]]

def sviIpv4Doc (svi : Svi) (s : InterfaceState) : Element :=
  .elem (tagWith "routed-vlan" (xmlns "http://openconfig.net/yang/vlan")) ""
    [.elem (tagWith "ipv4" (xmlns "http://openconfig.net/yang/interfaces/ip")) ""
      [node "addresses" (s.addresses.toList.map addressDoc),
        node "state"
          (leafNode "dhcp-client" (toString svi.dhcpClient) ::
            (if svi.dhcpClient then present s.dhcpLease fun lease => [leaseDoc lease] else []))]]

def ethernetDoc (mac : String) : Element :=
  .elem (tagWith "ethernet" (xmlns "http://openconfig.net/yang/interfaces/ethernet")) ""
    [node "state" [leafNode "hw-mac-address" mac]]

def countersDoc (s : InterfaceState) : Element :=
  node "counters"
    [leafNode "in-octets" (toString s.inOctets), leafNode "in-pkts" (toString s.inPkts),
      leafNode "out-octets" (toString s.outOctets), leafNode "out-pkts" (toString s.outPkts)]

def interfaceDoc (states : BTreeMap String InterfaceState) (name : String) (svi : Option Svi) :
    List Element :=
  present states[name]? fun s =>
    [node "interface"
      ([leafNode "name" name,
        node "state"
          [leafNode "admin-status" (if s.adminUp then "UP" else "DOWN"),
            leafNode "oper-status" s.operStatus.asStr, countersDoc s]] ++
        (match svi, s.mac with
        | none, some mac => [ethernetDoc mac]
        | _, _ => []) ++
        present svi fun svi => [sviIpv4Doc svi s])]

end Interfaces

section Vlans
variable (applied : DesiredState)

def memberNames (vlan : UInt16) : List String :=
  (applied.ports.toList.filter fun e => e.2.carries vlan).map Prod.fst

def nameDoc (name : Option String) : List Element := present name fun n => [leafNode "name" n]

def vlanDoc (e : UInt16 × Vlan) : Element :=
  node "vlan"
    [leafNode "vlan-id" (toString e.1),
      node "state"
        (leafNode "vlan-id" (toString e.1) :: (nameDoc e.2.name ++
          [leafNode "status" (if e.2.active then "ACTIVE" else "SUSPENDED")])),
      node "members" ((memberNames applied e.1).map fun port =>
        node "member" [node "state" [leafNode "interface" port]])]

def groupDoc (e : UInt16 × Vlan) : Element :=
  node "group"
    [leafNode "id" (toString e.1),
      node "state"
        (leafNode "id" (toString e.1) :: (nameDoc e.2.name ++
          (memberNames applied e.1).map fun port => leafNode "port" port))]

def vlansDoc : List Element :=
  if applied.vlans.isEmpty then []
  else
    match applied.mode with
    | .dot1q => [inSwitchNs (node "vlans" (applied.vlans.toList.map (vlanDoc applied)))]
    | .portBased =>
      [inSwitchNs (node "port-based-vlans" (applied.vlans.toList.map (groupDoc applied)))]

end Vlans

section SpanningTree

def bridgeIdDoc (priority address : String) (id : BridgeId)
    (plainPriority : PlainName priority = true := by decide)
    (plainAddress : PlainName address = true := by decide) : List Element :=
  [leafNode priority (toString id.priority) plainPriority,
    leafNode address id.address plainAddress]

def commonStateDoc (bridge : Option BridgeState) : List Element :=
  present bridge fun b =>
    present b.bridge (fun id => [leafNode "bridge-address" id.address]) ++
      present b.root (bridgeIdDoc "designated-root-priority" "designated-root-address") ++
      present b.rootPort (fun port => [leafNode "root-port" port]) ++
      present b.rootCost (fun cost => [leafNode "root-cost" (toString cost)]) ++
      present b.topologyChanges (fun n => [leafNode "topology-changes" (toString n)])

def typesTag (name : String) (plain : PlainName name = true := by decide) : Tag :=
  ⟨name, typesXmlns, plain, by decide⟩

def portStateDoc (s : PortState) : List Element :=
  present s.portNum (fun n => [leafNode "port-num" (toString n)]) ++
    present s.role (fun role => [.elem (typesTag "role") ("oc-stp-types:" ++ role.asStr) []]) ++
    present s.portState (fun state =>
      [.elem (typesTag "port-state") ("oc-stp-types:" ++ state.asStr) []]) ++
    present s.designatedRoot (bridgeIdDoc "designated-root-priority" "designated-root-address") ++
    present s.designatedCost (fun cost => [leafNode "designated-cost" (toString cost)]) ++
    present s.designatedBridge
      (bridgeIdDoc "designated-bridge-priority" "designated-bridge-address") ++
    present s.designatedPortPriority (fun p => [leafNode "designated-port-priority" (toString p)]) ++
    present s.designatedPortNum (fun n => [leafNode "designated-port-num" (toString n)]) ++
    present s.forwardTransitions (fun n => [leafNode "forward-transisitions" (toString n)]) ++
    (if s.bpduSent.isSome || s.bpduReceived.isSome then
      [node "counters"
        (present s.bpduSent (fun n => [leafNode "bpdu-sent" (toString n)]) ++
          present s.bpduReceived (fun n => [leafNode "bpdu-received" (toString n)]))]
    else [])

def treePortDoc (state : TreeState) (e : String × TreePort) : Element :=
  node "interface"
    [leafNode "name" e.1,
      node "state"
        (leafNode "name" e.1 ::
          (present e.2.cost (fun cost => [leafNode "cost" (toString cost)]) ++
            leafNode "port-priority" (toString e.2.priority) ::
              present state.ports[e.1]? portStateDoc))]

def treePortsDoc (tree : Tree) (state : TreeState) : Element :=
  node "interfaces" (tree.ports.toList.map (treePortDoc state))

def timersDoc (stp : Stp) : List Element :=
  [leafNode "hello-time" (toString stp.helloTime), leafNode "max-age" (toString stp.maxAge),
    leafNode "forwarding-delay" (toString stp.forwardDelay),
    leafNode "hold-count" (toString stp.holdCount)]

def mstInstanceDoc (id : UInt16) (msti : Msti) (state : TreeState) : Element :=
  node "mst-instance"
    [leafNode "mst-id" (toString id),
      node "state"
        (leafNode "mst-id" (toString id) ::
          ((vlanRanges ".." msti.vlans).map (fun range => leafNode "vlan" range) ++
            leafNode "bridge-priority" (toString msti.tree.bridgePriority) ::
              commonStateDoc state.bridge)),
      treePortsDoc msti.tree state]

def cistStateOf (state : Option StpState) : TreeState := (state.map StpState.cist).getD {}

def mstiStateOf (state : Option StpState) (id : UInt16) : TreeState :=
  (state.bind fun s => s.mstis[id]?).getD {}

def protocolDoc (stp : Stp) (state : Option StpState) : Element :=
  match stp.protocol with
  | .stp | .rstp =>
    node "rstp"
      [node "state"
        (timersDoc stp ++ leafNode "bridge-priority" (toString stp.cist.bridgePriority) ::
          commonStateDoc (cistStateOf state).bridge),
        treePortsDoc stp.cist (cistStateOf state)]
  | .mstp =>
    node "mstp"
      [node "state"
        (nameDoc stp.regionName ++ leafNode "revision" (toString stp.regionRevision) ::
          leafNode "max-hop" (toString stp.maxHops) :: (timersDoc stp ++
            inSwitchNs (leafNode "bridge-priority" (toString stp.cist.bridgePriority)) ::
              (commonStateDoc (cistStateOf state).bridge).map inSwitchNs)),
        node "mst-instances" (stp.mstis.toList.map fun e =>
          mstInstanceDoc e.1 e.2 (mstiStateOf state e.1)),
        inSwitchNs (treePortsDoc stp.cist (cistStateOf state))]

def featuresDoc (e : String × PortFeatures) : Element :=
  node "interface"
    [leafNode "name" e.1,
      node "state"
        (leafNode "name" e.1 :: .elem (typesTag "edge-port") e.2.edge.identity [] ::
          (present e.2.pointToPoint (fun p2p =>
            [leafNode "link-type" (if p2p then "P2P" else "SHARED")]) ++
            [leafNode "guard" (if e.2.rootGuard then "ROOT" else "NONE"),
              leafNode "bpdu-guard" (toString e.2.bpduGuard),
              leafNode "bpdu-filter" (toString e.2.bpduFilter)]))]

def enabledProtocolTag : Tag :=
  tagWith "enabled-protocol" ("xmlns:sw=\"" ++ switchNs ++ "\" " ++ typesXmlns)

def stpStateDoc (stp : Stp) (state : Option StpState) : Element :=
  .elem (tagWith "stp" (xmlns stpNs)) ""
    [node "global" [node "state" [.elem enabledProtocolTag stp.protocol.identity []]],
      protocolDoc stp state, node "interfaces" (stp.ports.toList.map featuresDoc)]

end SpanningTree

/-- The document of `state_xml`. -/
def stateDoc (applied : DesiredState) (states : BTreeMap String InterfaceState)
    (stp : Option StpState) : List Element :=
  .elem (tagWith "interfaces" (xmlns "http://openconfig.net/yang/interfaces")) ""
      (applied.ports.toList.flatMap (fun e => interfaceDoc states e.1 none) ++
        applied.svis.toList.flatMap fun e => interfaceDoc states e.1 (some e.2)) ::
    inSwitchNs (node "switch" [node "state" [leafNode "vlan-mode" applied.mode.asStr]]) ::
      (vlansDoc applied ++ present applied.stp fun s => [stpStateDoc s stp])

end ClixonSwitch.Guarantees
