import ClixonSwitch.Lib.Total
import ClixonSwitch.Source.SwitchModel.StateXml
import ClixonSwitch.Source.SwitchNet.Reconcile

/-!
# The kernel over rtnetlink

`NetlinkBackend` of `crates/switch-net/src/netlink.rs`. The messages have the attributes
that the source reads or writes; all others are `other`. What the peer sends is a list of
datagrams of decoded packets, which stand in the socket until they are received, so that
an answer to an earlier request can be found in front of the one that is waited for.
-/
namespace ClixonSwitch.Source.SwitchNet
open Lib Source.SwitchModel

namespace Netlink

section Messages

inductive StpState where
  | disabled | kernelStp | userStp
  | other (value : UInt32)
  deriving DecidableEq

inductive InfoBridge where
  | vlanFiltering (on : Bool)
  | vlanDefaultPvid (vid : UInt16)
  /-- The MST bit of the value and of the mask. -/
  | multiBoolOpt (value mask : Bool)
  | stpState (state : StpState)
  /-- BridgeStpMode::User. -/
  | stpModeUser
  | other
  deriving DecidableEq

inductive InfoKind where
  | dsa | bridge | vlan | other
  deriving DecidableEq

inductive InfoDsa where
  | conduit (index : Nat)
  | other
  deriving DecidableEq

inductive InfoVlan where
  | id (vid : UInt16)
  | other
  deriving DecidableEq

inductive InfoData where
  | dsa (attributes : List InfoDsa)
  | bridge (attributes : List InfoBridge)
  | vlan (attributes : List InfoVlan)
  | other
  deriving DecidableEq

inductive LinkInfo where
  | kind (kind : InfoKind)
  | data (data : InfoData)
  | other
  deriving DecidableEq

structure BridgeVlanInfo where
  vid : UInt16
  pvid : Bool
  untagged : Bool
  deriving DecidableEq

inductive AfSpecBridge where
  /-- BRIDGE_FLAGS_SELF. -/
  | lowerDev
  | vlanInfo (info : BridgeVlanInfo)
  | other
  deriving DecidableEq

/-- IFLA_OPERSTATE; all values that the source does not name are `other`. -/
inductive OperState where
  | up | down | lowerLayerDown | testing | dormant | notPresent | other
  deriving DecidableEq

structure Stats64 where
  rxBytes : UInt64
  rxPackets : UInt64
  txBytes : UInt64
  txPackets : UInt64
  deriving DecidableEq

inductive LinkAttribute where
  | ifName (name : String)
  | link (index : Nat)
  | controller (index : Nat)
  | linkInfo (infos : List LinkInfo)
  | afSpecBridge (spec : List AfSpecBridge)
  /-- RTEXT_FILTER_BRVLAN. -/
  | extMaskBrvlan
  | operState (state : OperState)
  | address (octets : List UInt8)
  | stats64 (stats : Stats64)
  | other
  deriving DecidableEq

inductive AddressFamily where
  | unspec | bridge | inet
  deriving DecidableEq

structure LinkMessage where
  family : AddressFamily := .unspec
  index : Nat := 0
  /-- IFF_UP, in the flags and in the mask of flags to change. -/
  up : Bool := false
  changeUp : Bool := false
  attributes : List LinkAttribute := []
  deriving DecidableEq

inductive IpAddr where
  | v4 (addr : Ipv4Addr)
  | v6
  deriving DecidableEq

inductive AddressAttribute where
  | local (ip : IpAddr)
  | address (ip : IpAddr)
  | broadcast (ip : Ipv4Addr)
  /-- IFA_F_PERMANENT in IFA_FLAGS. -/
  | flags (permanent : Bool)
  | cacheInfo (valid : UInt32)
  | other
  deriving DecidableEq

structure AddressMessage where
  family : AddressFamily := .unspec
  index : Nat := 0
  prefixLen : UInt8 := 0
  /-- IFA_F_PERMANENT in the header. -/
  permanent : Bool := false
  attributes : List AddressAttribute := []
  deriving DecidableEq

inductive NeighbourAttribute where
  | linkLayerAddress (octets : List UInt8)
  | vlan (vid : UInt16)
  | controller (index : Nat)
  | other
  deriving DecidableEq

inductive NeighbourState where
  | permanent | noarp | other
  deriving DecidableEq

structure NeighbourMessage where
  family : AddressFamily := .unspec
  ifindex : Nat := 0
  /-- NTF_SELF. -/
  own : Bool := false
  state : NeighbourState := .other
  attributes : List NeighbourAttribute := []
  deriving DecidableEq

inductive RouteMessage where
  | newLink (m : LinkMessage)
  | getLink (m : LinkMessage)
  | setLink (m : LinkMessage)
  | delLink (m : LinkMessage)
  | newAddress (m : AddressMessage)
  | getAddress (m : AddressMessage)
  | delAddress (m : AddressMessage)
  | newNeighbour (m : NeighbourMessage)
  | getNeighbour (m : NeighbourMessage)
  | other
  deriving DecidableEq

/-- The flags of a request besides NLM_F_REQUEST. -/
structure Flags where
  ack : Bool := false
  create : Bool := false
  excl : Bool := false
  dump : Bool := false
  deriving DecidableEq

structure Request where
  seq : UInt32
  flags : Flags
  message : RouteMessage
  deriving DecidableEq

inductive Payload where
  | inner (m : RouteMessage)
  | done
  /-- The negative error number, or none for an acknowledgement. -/
  | error (code : Option Int)
  | other
  deriving DecidableEq

structure Packet where
  seq : UInt32
  length : Nat
  payload : Payload
  deriving DecidableEq

/-- A packet of a datagram, or why it does not decode. -/
abbrev Frame : Type := Except String Packet

/-- A datagram, or why receiving it fails. -/
abbrev Datagram : Type := Except String (List Frame)

end Messages

section Requests

/-- The kernel behind the socket, with the text of an error number. -/
structure Peer (κ : Type) where
  /-- Sends a request, which makes these datagrams arrive. -/
  send : Request → κ → Except String (List Datagram) × κ
  osError : Int → String

structure Backend (κ : Type) where
  seq : UInt32 := 0
  ports : Option (BTreeSet String) := none
  /-- What waits in the socket. -/
  incoming : List Datagram := []
  kernel : κ

abbrev BackendM (κ α : Type) : Type := Failing NetError (Backend κ) α

/-- What reading a datagram comes to: on to the next, or the result of the request. -/
inductive Read where
  | more (replies : List RouteMessage)
  | stop (result : Except NetError (List RouteMessage))

variable (osError : Int → String)

/-- The inner loop of `request`, over the packets of a datagram. -/
def readFrames (seq : UInt32) : List RouteMessage → List Frame → Read
  | replies, [] => .more replies
  | _, .error e :: _ => .stop (.error ⟨s!"netlink decode: {e}"⟩)
  | replies, .ok packet :: rest =>
    if packet.length = 0 then .stop (.error ⟨"netlink: zero-length message"⟩)
    else if packet.seq ≠ seq then readFrames seq replies rest
    else
      match packet.payload with
      | .inner m => readFrames seq (replies ++ [m]) rest
      | .done => .stop (.ok replies)
      | .error none => .stop (.ok replies)
      | .error (some code) => .stop (.error ⟨osError (-code)⟩)
      | .other => readFrames seq replies rest

/-- Nothing more arrives: the source would wait for ever. -/
def blocked : NetError := ⟨"netlink receive: blocked"⟩

/-- The outer loop of `request`, over the datagrams, with those that are left. -/
def receive (seq : UInt32) : List RouteMessage → List Datagram →
    Except NetError (List RouteMessage) × List Datagram
  | _, [] => (.error blocked, [])
  | _, .error e :: rest => (.error ⟨s!"netlink receive: {e}"⟩, rest)
  | replies, .ok frames :: rest =>
    match readFrames osError seq replies frames with
    | .more replies => receive seq replies rest
    | .stop result => (result, rest)

variable {κ : Type} (peer : Peer κ)

/-- Sends one request and collects the replies up to the final DONE (for dumps) or
ACK/error (for requests with NLM_F_ACK). -/
def request (message : RouteMessage) (flags : Flags) : BackendM κ (List RouteMessage) := fun b =>
  let seq := b.seq + 1
  match peer.send ⟨seq, flags, message⟩ b.kernel with
  | (.error e, kernel) => (.error ⟨s!"netlink send: {e}"⟩, { b with seq, kernel })
  | (.ok arrived, kernel) =>
    match receive peer.osError seq [] (b.incoming ++ arrived) with
    | (result, incoming) => (result, { b with seq, kernel, incoming })

def modify (message : RouteMessage) (flags : Flags) : BackendM κ Unit := do
  let _ ← request peer message { flags with ack := true }
  pure ()

def newLink? : RouteMessage → Option LinkMessage
  | .newLink m => some m
  | _ => none

def dumpLinks (family : AddressFamily) (attributes : List LinkAttribute) :
    BackendM κ (List LinkMessage) := do
  let replies ← request peer (.getLink { family, attributes }) { dump := true }
  pure (replies.filterMap newLink?)

/-- `map_err` on a request. -/
def withError {α : Type} (x : BackendM κ α) (f : NetError → NetError) : BackendM κ α := fun b =>
  match x b with
  | (.ok a, b) => (.ok a, b)
  | (.error e, b) => (.error (f e), b)

def throw {α : Type} (e : NetError) : BackendM κ α := fun b => (.error e, b)

def index (name : String) : BackendM κ Nat := do
  let replies ← withError
    (request peer (.getLink { attributes := [.ifName name] }) { ack := true })
    fun e => ⟨s!"{name}: {e.message}"⟩
  match (replies.filterMap newLink?).head? with
  | some m => pure m.index
  | none => throw ⟨s!"{name}: no such interface"⟩

end Requests

section Reading

def LinkAttribute.ifName? : LinkAttribute → Option String
  | .ifName name => some name
  | _ => none

def linkName (m : LinkMessage) : Option String := m.attributes.findSome? LinkAttribute.ifName?

/-- Names by index; of two links with one index the later. -/
def linkNames (links : List LinkMessage) : BTreeMap Nat String :=
  BTreeMap.collect (links.filterMap fun m => (linkName m).map fun name => (m.index, name))

/-- What `link_kind` gathers from the attributes, the last of each. -/
structure KindParts where
  kind : Option InfoKind := none
  data : Option InfoData := none
  link : Option Nat := none

def KindParts.addInfo (parts : KindParts) : LinkInfo → KindParts
  | .kind k => { parts with kind := some k }
  | .data d => { parts with data := some d }
  | .other => parts

def KindParts.add (parts : KindParts) : LinkAttribute → KindParts
  | .linkInfo infos => infos.foldl KindParts.addInfo parts
  | .link index => { parts with link := some index }
  | _ => parts

def InfoDsa.conduit? : InfoDsa → Option Nat
  | .conduit index => some index
  | .other => none

def InfoVlan.id? : InfoVlan → Option UInt16
  | .id vid => some vid
  | .other => none

def StpState.bridgeStp : StpState → BridgeStp
  | .disabled => .off
  | .userStp => .user
  | _ => .kernel

def addBridgeInfo (b : BridgeSettings) : InfoBridge → BridgeSettings
  | .vlanFiltering v => { b with vlanFiltering := v }
  | .vlanDefaultPvid p => { b with defaultPvid := p }
  | .multiBoolOpt value _ => { b with mstEnabled := value }
  | .stpState s => { b with stp := s.bridgeStp }
  | _ => b

/-- Kernel defaults, in case the attributes are missing. -/
def kernelDefaults : BridgeSettings := ⟨false, 1, false, .off⟩

def linkKind (m : LinkMessage) (names : BTreeMap Nat String) : LinkKind :=
  let parts := m.attributes.foldl KindParts.add {}
  let nameOf := fun index : Nat => names[index]?
  match parts.kind, parts.data with
  | some .dsa, data =>
    let conduit :=
      match data with
      | some (.dsa attributes) => attributes.findSome? InfoDsa.conduit?
      | _ => none
    .dsa ((conduit.or parts.link).bind nameOf)
  | some .bridge, data =>
    .bridge (match data with
      | some (.bridge attributes) => attributes.foldl addBridgeInfo kernelDefaults
      | _ => kernelDefaults)
  | some .vlan, some (.vlan attributes) =>
    match parts.link.bind nameOf, attributes.findSome? InfoVlan.id? with
    | some parent, some id => .vlan parent id
    | _, _ => .other
  | _, _ => .other

/-- The `ports` of the backend decide which links are switch ports. -/
def overridePorts (ports : Option (BTreeSet String)) (name : String) (kind : LinkKind) : LinkKind :=
  match ports with
  | none => kind
  | some ports =>
    match kind with
    | .dsa conduit => if ports.contains name then .dsa conduit else .other
    | .other => if ports.contains name then .dsa none else .other
    | kind => kind

def LinkAttribute.master? (names : BTreeMap Nat String) : LinkAttribute → Option String
  | .controller index => names[index]?
  | _ => none

def addLink (ports : Option (BTreeSet String)) (names : BTreeMap Nat String) (s : ActualState)
    (m : LinkMessage) : ActualState :=
  match names[m.index]? with
  | none => s
  | some name =>
    let link : Link :=
      { kind := overridePorts ports name (linkKind m names)
        up := m.up
        master := m.attributes.findSome? (LinkAttribute.master? names) }
    { s with links := s.links.insert name link }

def addVlan (name : String) (vlans : BTreeMap String VlanMap) : AfSpecBridge → BTreeMap String VlanMap
  | .vlanInfo info => vlans.insertUnder name info.vid ⟨info.pvid, info.untagged⟩
  | _ => vlans

def addVlanAttribute (name : String) (vlans : BTreeMap String VlanMap) :
    LinkAttribute → BTreeMap String VlanMap
  | .afSpecBridge spec => spec.foldl (addVlan name) vlans
  | _ => vlans

def addVlans (names : BTreeMap Nat String) (s : ActualState) (m : LinkMessage) : ActualState :=
  match names[m.index]? with
  | none => s
  | some name => { s with bridgeVlans := m.attributes.foldl (addVlanAttribute name) s.bridgeVlans }

def AddressAttribute.local? : AddressAttribute → Option Ipv4Addr
  | .local (.v4 ip) => some ip
  | _ => none

def AddressAttribute.address? : AddressAttribute → Option Ipv4Addr
  | .address (.v4 ip) => some ip
  | _ => none

def AddressAttribute.flags? : AddressAttribute → Option Bool
  | .flags permanent => some permanent
  | _ => none

def AddressAttribute.valid? : AddressAttribute → Option UInt32
  | .cacheInfo valid => some valid
  | _ => none

def addAddressMessage (names : BTreeMap Nat String) (s : ActualState) (m : AddressMessage) :
    ActualState :=
  match names[m.index]?, (m.attributes.findSome? AddressAttribute.local?).or
      (m.attributes.findSome? AddressAttribute.address?) with
  | some name, some addr =>
    let address : Ipv4Prefix := ⟨addr, m.prefixLen⟩
    -- IFA_FLAGS carries all 32 bits; the header only the lower 8.
    if (m.attributes.findSome? AddressAttribute.flags?).getD m.permanent then
      { s with addresses := s.addresses.insert name ((s.addresses.getD name ∅).insert address) }
    else
      let valid := (m.attributes.findSome? AddressAttribute.valid?).getD 0
      { s with dhcpAddresses := s.dhcpAddresses.insertUnder name address valid }
  | _, _ => s

def newAddress? : RouteMessage → Option AddressMessage
  | .newAddress m => some m
  | _ => none

variable {κ : Type} (peer : Peer κ)

def observe : BackendM κ ActualState := do
  let links ← dumpLinks peer .unspec []
  let ports ← (fun b => (.ok b.ports, b) : BackendM κ (Option (BTreeSet String)))
  let names := linkNames links
  let s := links.foldl (addLink ports names) {}
  let bridgeLinks ← dumpLinks peer .bridge [.extMaskBrvlan]
  let s := bridgeLinks.foldl (addVlans names) s
  let replies ← request peer (.getAddress { family := .inet }) { dump := true }
  pure ((replies.filterMap newAddress?).foldl (addAddressMessage names) s)

end Reading

section Applying
variable {κ : Type} (peer : Peer κ)

def bridgeInfo : LinkAttribute :=
  .linkInfo [.kind .bridge,
    .data (.bridge [.vlanFiltering true, .vlanDefaultPvid 0, .multiBoolOpt true true])]

def bridgeVlan (dev : String) (vid : UInt16) (add : Option VlanFlags) : BackendM κ Unit := do
  let info : BridgeVlanInfo := ⟨vid, add.any VlanFlags.pvid, add.any VlanFlags.untagged⟩
  -- On the bridge device the entry is the bridge's own. On a port the kernel's default
  -- is the bridge.
  let spec := (if dev = bridgeName then [.lowerDev] else []) ++ [.vlanInfo info]
  let index ← index peer dev
  let message : LinkMessage := { family := .bridge, index, attributes := [.afSpecBridge spec] }
  modify peer (if add.isSome then .setLink message else .delLink message) {}

/-- The broadcast address of a prefix shorter than 31 bits. -/
def broadcastAddr (p : Ipv4Prefix) : Ipv4Addr :=
  ⟨p.addr.bits ||| (0xFFFFFFFF >>> p.prefixLen.toUInt32)⟩

def address (dev : String) (p : Ipv4Prefix) (add : Bool) : BackendM κ Unit := do
  let index ← index peer dev
  let attributes := [.local (.v4 p.addr), .address (.v4 p.addr)]
  let message : AddressMessage := { family := .inet, index, prefixLen := p.prefixLen, attributes }
  if add then
    let broadcast := if p.prefixLen < 31 then [.broadcast (broadcastAddr p)] else []
    modify peer (.newAddress { message with attributes := attributes ++ broadcast })
      { create := true, excl := true }
  else modify peer (.delAddress message) {}

def setBridgeInfo (bridge : String) (data : List InfoBridge) : BackendM κ Unit := do
  let index ← index peer bridge
  modify peer (.newLink { index, attributes := [.linkInfo [.kind .bridge, .data (.bridge data)]] }) {}

def setStpState (bridge : String) (state : StpState) : BackendM κ Unit :=
  setBridgeInfo peer bridge [.stpState state]

def kernelStpRefused : NetError :=
  ⟨"the kernel did not leave spanning tree to mstpd: it is older than Linux 7.1, and " ++
    "/sbin/bridge-stp is missing, failed, or the bridge is not in the host's network namespace"⟩

/-- Whether a dump shows the bridge with the kernel's own spanning tree. -/
def showsKernelStp (name : String) (m : LinkMessage) : Bool :=
  linkName m == some name &&
    match linkKind m ∅ with
    | .bridge b => b.stp == .kernel
    | _ => false

/-- Asks for spanning tree in userspace, and checks what the kernel made of it. -/
def enableStp (name : String) : BackendM κ Unit := do
  setBridgeInfo peer name [.stpModeUser, .stpState .disabled]
  setStpState peer name .kernelStp
  let links ← dumpLinks peer .unspec []
  if links.any (showsKernelStp name) then
    setStpState peer name .disabled
    throw kernelStpRefused
  else pure ()

/-- The index of the new master, 0 for none. -/
def masterIndex : Option String → BackendM κ Nat
  | some m => index peer m
  | none => pure 0

def apply (op : Op) : BackendM κ Unit :=
  match op with
  | .createBridge name =>
    modify peer (.newLink { attributes := [.ifName name, bridgeInfo] })
      { create := true, excl := true }
  | .configureBridge name => do
    let index ← index peer name
    modify peer (.newLink { index, attributes := [bridgeInfo] }) {}
  | .setBridgeStp name false => setStpState peer name .disabled
  | .setBridgeStp name true => enableStp peer name
  | .deleteLink name => do
    let index ← index peer name
    modify peer (.delLink { index }) {}
  | .createVlan name parent id => do
    let parent ← index peer parent
    modify peer (.newLink { attributes := [.ifName name, .link parent,
      .linkInfo [.kind .vlan, .data (.vlan [.id id])]] }) { create := true, excl := true }
  | .setMaster name master => do
    let master ← masterIndex peer master
    let index ← index peer name
    modify peer (.setLink { index, attributes := [.controller master] }) {}
  | .setUp name up => do
    let index ← index peer name
    modify peer (.setLink { index, up, changeUp := true }) {}
  | .addBridgeVlan dev vid flags => bridgeVlan peer dev vid (some flags)
  | .delBridgeVlan dev vid => bridgeVlan peer dev vid none
  | .addAddress dev p => address peer dev p true
  | .delAddress dev p => address peer dev p false

def netBackend : NetBackend (Backend κ) where
  observe := observe peer
  apply := Netlink.apply peer

end Applying

section StateData
variable {κ : Type} (peer : Peer κ)

-- No result is about `fdb`: those about the MIB are for whatever entries it returns.

/-- What `fdb` gathers from the attributes of a neighbour. -/
structure Station where
  mac : Option (List UInt8) := none
  vlan : Option UInt16 := none
  controller : Option Nat := none

def Station.add (station : Station) : NeighbourAttribute → Station
  | .linkLayerAddress octets =>
    { station with mac := if octets.length = 6 then some octets else none }
  | .vlan vid => { station with vlan := some vid }
  | .controller index => { station with controller := some index }
  | .other => station

def fdbStatus : NeighbourState → Mib.FdbStatus
  | .permanent => .own
  | .noarp => .mgmt
  | .other => .learned

/-- One entry of the forwarding database of the bridge with index `bridge`: its own and
those of its ports, but not the port drivers' (NTF_SELF), and no multicast addresses. -/
def fdbEntry (names : BTreeMap Nat String) (bridge : Nat) (m : NeighbourMessage) :
    Option Mib.FdbEntry :=
  let station := m.attributes.foldl Station.add {}
  let onBridge := m.ifindex == bridge
  let ofBridge := station.controller == some bridge && !m.own
  match station.mac, onBridge || ofBridge with
  | some mac, true =>
    if mac.head?.any fun octet => octet &&& 1 == 1 then none
    else (names[m.ifindex]?).map fun port =>
      { mac, vlan := station.vlan, port, status := fdbStatus m.state }
  | _, _ => none

def newNeighbour? : RouteMessage → Option NeighbourMessage
  | .newNeighbour m => some m
  | _ => none

/-- The forwarding database of `bridge`. -/
def fdb (bridge : String) : BackendM κ (List Mib.FdbEntry) := do
  let links ← dumpLinks peer .unspec []
  let names := linkNames links
  match names.toList.find? fun e => e.2 == bridge with
  | none => pure []
  | some (bridgeIndex, _) =>
    let replies ← request peer (.getNeighbour { family := .bridge }) { dump := true }
    pure ((replies.filterMap newNeighbour?).filterMap (fdbEntry names bridgeIndex))

end StateData

end Netlink

end ClixonSwitch.Source.SwitchNet
