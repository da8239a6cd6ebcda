import ClixonSwitch.Source.SwitchNet.Kernel

/-!
# The planner

`crates/switch-net/src/plan.rs`: the operations that turn an observed state into
a desired one. The source function is one long body over a growing vector; each
of its commented sections is a definition here, and `plan` concatenates them in
source order. `fresh` is the source's `fresh_bridge`.
-/
namespace ClixonSwitch.Source.SwitchNet
open Lib Source.SwitchModel

/-- The planner's `ACCESS` and `TAGGED` flags. -/
def access : VlanFlags := ⟨true, true⟩
def tagged : VlanFlags := ⟨false, false⟩

/-- Whether a port of the bridge keeps VLAN entries when ConfigureBridge sets
vlan_default_pvid from `defaultPvid` to 0, which removes the default entries. -/
def portVlansRemain (actual : ActualState) (defaultPvid : UInt16) : Bool :=
  ((actual.links.toList.filter fun e => e.2.master == some bridgeName).filterMap
      fun e => actual.bridgeVlans[e.1]?).any
    fun vlans => vlans.toList.any fun e => e.1 != defaultPvid || e.2 != access

/-- Bridge VLAN entries of a port: its native VLAN untagged and as PVID, the
others tagged. -/
def portVlans (port : Port) : VlanMap :=
  BTreeMap.collect (port.taggedVlans.toList.map (fun vid => (vid, tagged)) ++
    port.nativeVlan.toList.map (fun vid => (vid, access)))

/-- The bridge's own entries: one tagged entry per SVI on an active VLAN. -/
def selfVlans (desired : DesiredState) : VlanMap :=
  BTreeMap.collect ((desired.svis.toList.filter fun e => desired.vlanActive e.2.vlan).map
    fun e => (e.2.vlan, tagged))

/-- Adds first, the PVID entry before all others, then deletes. -/
def syncVlans (dev : String) (present want : VlanMap) : List Op :=
  let (pvid, others) := want.toList.partition fun e => e.2.pvid
  (((pvid ++ others).filter fun e => present[e.1]? != some e.2).map
      fun e => .addBridgeVlan dev e.1 e.2) ++
    (present.keys.filter fun vid => !want.contains vid).map (.delBridgeVlan dev)

/-- The first SVI whose name is taken by a link that is not a VLAN link of the
bridge. -/
def takenSviName (desired : DesiredState) (actual : ActualState) : Option String :=
  desired.svis.keys.find? fun name =>
    match actual.links[name]? with
    | some link => !link.kind.isBridgeVlan
    | none => false

def BridgeSettings.configured (b : BridgeSettings) : Bool :=
  b.vlanFiltering && b.defaultPvid == 0 && b.mstEnabled

/-- The bridge: kept, reconfigured, replaced or created, and whether it is fresh. -/
def planBridge (actual : ActualState) : List Op × Bool :=
  match actual.links[bridgeName]?.map Link.kind with
  | some (.bridge b) =>
    if b.configured then ([], false)
    else if b.mstEnabled || !portVlansRemain actual b.defaultPvid then
      ([.configureBridge bridgeName], false)
    else ([.deleteLink bridgeName, .createBridge bridgeName], true)
  | some _ => ([.deleteLink bridgeName, .createBridge bridgeName], true)
  | none => ([.createBridge bridgeName], true)

def planBridgeUp (actual : ActualState) (fresh : Bool) : List Op :=
  if fresh || actual.isDown bridgeName then [.setUp bridgeName true] else []

/-- The bridge's STP state as the planner sees it; a fresh bridge has it off. -/
def bridgeStp (actual : ActualState) (fresh : Bool) : BridgeStp :=
  match fresh, actual.links[bridgeName]?.map Link.kind with
  | false, some (.bridge b) => b.stp
  | _, _ => .off

def planStp (desired : DesiredState) (actual : ActualState) (fresh : Bool) : List Op :=
  let stp := bridgeStp actual fresh
  let wantStp := desired.stp.isSome
  (if stp = .kernel then [.setBridgeStp bridgeName false] else []) ++
    (if wantStp != (stp == .user) then [.setBridgeStp bridgeName wantStp] else [])

/-- VLAN links on the bridge with their ids; none on a fresh bridge, whatever
`actual` says about the link it replaces. -/
def bridgeVlanLinks (actual : ActualState) (fresh : Bool) : List (String × UInt16) :=
  if fresh then []
  else actual.links.toList.filterMap fun e =>
    match e.2.kind with
    | .vlan parent id => if parent = bridgeName then some (e.1, id) else none
    | _ => none

def sviMatches (desired : DesiredState) (e : String × UInt16) : Bool :=
  match desired.svis[e.1]? with
  | some svi => svi.vlan == e.2
  | none => false

def existingSvis (desired : DesiredState) (actual : ActualState) (fresh : Bool) :
    BTreeSet String :=
  Std.ExtTreeSet.ofList
    (((bridgeVlanLinks actual fresh).filter (sviMatches desired)).map Prod.fst) compare

/-- VLAN links on the bridge that are no longer wanted, or have the wrong id. -/
def planStaleSvis (desired : DesiredState) (actual : ActualState) (fresh : Bool) : List Op :=
  ((bridgeVlanLinks actual fresh).filter fun e => !sviMatches desired e).map
    fun e => .deleteLink e.1

/-- One switch port; other links are skipped. -/
def planPort (desired : DesiredState) (actual : ActualState) (fresh : Bool)
    (name : String) (link : Link) : List Op :=
  if link.kind.isDsa then
    let enslaved := !fresh && link.master == some bridgeName
    match desired.ports[name]? with
    | some port =>
      (if enslaved then [] else [.setMaster name (some bridgeName)]) ++
        syncVlans name (if enslaved then actual.bridgeVlans.getD name ∅ else ∅)
          (portVlans port) ++
        (if link.up != port.enabled then [.setUp name port.enabled] else [])
    | none =>
      (if link.master.isSome then [.setMaster name none] else []) ++
        (if link.up then [.setUp name false] else [])
  else []

def planPorts (desired : DesiredState) (actual : ActualState) (fresh : Bool) : List Op :=
  actual.links.toList.flatMap fun e => planPort desired actual fresh e.1 e.2

def planSelfVlans (desired : DesiredState) (actual : ActualState) (fresh : Bool) : List Op :=
  syncVlans bridgeName (if fresh then ∅ else actual.bridgeVlans.getD bridgeName ∅)
    (selfVlans desired)

/-- Addresses of one SVI: add before delete, and delete first a leased address
that is to become permanent. -/
def syncAddresses (name : String) (svi : Svi) (present : BTreeSet Ipv4Prefix)
    (dhcp : BTreeMap Ipv4Prefix UInt32) : List Op :=
  ((svi.addresses.toList.filter fun p => !present.contains p).flatMap fun p =>
      (if dhcp.contains p then [.delAddress name p] else []) ++ [.addAddress name p]) ++
    ((present.toList.filter fun p => !svi.addresses.contains p).map (.delAddress name)) ++
    (if svi.dhcpClient then []
      else (dhcp.keys.filter fun p => !svi.addresses.contains p).map (.delAddress name))

def planSvi (actual : ActualState) (existing : Bool) (name : String) (svi : Svi) : List Op :=
  (if existing then [] else [.createVlan name bridgeName svi.vlan]) ++
    syncAddresses name svi
      (if existing then actual.addresses.getD name ∅ else ∅)
      (if existing then actual.dhcpAddresses.getD name ∅ else ∅) ++
    (if (existing && (actual.links[name]?.any Link.up)) != svi.enabled
      then [.setUp name svi.enabled] else [])

def planSvis (desired : DesiredState) (actual : ActualState) (fresh : Bool) : List Op :=
  desired.svis.toList.flatMap fun e =>
    planSvi actual ((existingSvis desired actual fresh).contains e.1) e.1 e.2

/-- Whether left-over addresses of the device are the planner's to remove. -/
def ownsAddresses (actual : ActualState) (fresh : Bool) (dev : String) : Bool :=
  match actual.links[dev]?.map Link.kind with
  | some (.dsa _) => true
  | some (.bridge _) => dev == bridgeName && !fresh
  | _ => false

/-- Addresses on the bridge or on ports, permanent ones first. -/
def planLeftovers (actual : ActualState) (fresh : Bool) : List Op :=
  ((actual.addresses.toList.flatMap fun e => e.2.toList.map fun p => (e.1, p)) ++
      (actual.dhcpAddresses.toList.flatMap fun e => e.2.keys.map fun p => (e.1, p))).filter
    (fun e => ownsAddresses actual fresh e.1) |>.map fun e => .delAddress e.1 e.2

/-- What `plan` does to the bridge itself and to stale VLAN links on it. -/
def planBridgeSection (desired : DesiredState) (actual : ActualState) : List Op :=
  (planBridge actual).1 ++ planBridgeUp actual (planBridge actual).2 ++
    planStp desired actual (planBridge actual).2 ++
    planStaleSvis desired actual (planBridge actual).2

/-- What `plan` does device by device once the bridge is right. -/
def planDeviceSection (desired : DesiredState) (actual : ActualState) : List Op :=
  planPorts desired actual (planBridge actual).2 ++
    planSelfVlans desired actual (planBridge actual).2 ++
    planSvis desired actual (planBridge actual).2 ++
    planLeftovers actual (planBridge actual).2

/-- Operations that turn `actual` into `desired`, in an order the kernel accepts. -/
def plan (desired : DesiredState) (actual : ActualState) : Except NetError (List Op) :=
  match takenSviName desired actual with
  | some name =>
    .error ⟨s!"interface {name} already exists and is not a VLAN link of {bridgeName}"⟩
  | none => .ok (planBridgeSection desired actual ++ planDeviceSection desired actual)

end ClixonSwitch.Source.SwitchNet
