import ClixonSwitch.Source.SwitchModel.Snmp
import ClixonSwitch.Source.SwitchModel.Stp

/-!
# Validation of a configuration

`desired_state` of `crates/switch-model/src/lib.rs` and its helpers. Every check goes
on after a problem with a placeholder, so that all problems are reported at once;
the result counts only if there were none.
-/
namespace ClixonSwitch.Source.SwitchModel
open Lib Lib.Collect

/-- IFNAMSIZ - 1. -/
def maxIfnameLen : Nat := 15

/-- The VLANs that ports and SVIs may use, in either mode. -/
structure Domain where
  mode : VlanMode
  vlans : BTreeMap UInt16 Vlan
  groupOfPort : BTreeMap String UInt16

/-- Checks that `id` is a valid, declared VLAN (or group). -/
def Domain.declared (domain : Domain) (id : UInt64) : Except String UInt16 := do
  let id ← checkVlanId id
  if domain.vlans.contains id then .ok id
  else match domain.mode with
    | .dot1q => .error s!"VLAN {id} is not declared in vlans"
    | .portBased => .error s!"port-based-vlans group {id} does not exist"

def Domain.active (domain : Domain) (id : UInt16) : Bool :=
  domain.vlans[id]?.any Vlan.active

section Domains

/-- A declared VLAN's status; an unknown one counts as active here. -/
def vlanStatus (id : UInt16) (status : Option String) : Collect Error Bool :=
  match status with
  | none => pure true
  | some "ACTIVE" => pure true
  | some "SUSPENDED" => pure false
  | some other => do
    report (Error.global s!"vlans: VLAN {id}: status {other} is not supported")
    pure true

def VlanEntry.key (entry : VlanEntry) : Option UInt16 := entry.config.vlanId.or entry.vlanId

/-- One entry of the VLAN database. -/
def declareVlan (vlans : BTreeMap UInt16 Vlan) (entry : VlanEntry) :
    Collect Error (BTreeMap UInt16 Vlan) :=
  match entry.key with
  | none => do
    report (Error.global "vlans: vlan without vlan-id")
    pure vlans
  | some id =>
    match checkVlanId id.toUInt64 with
    | .error e => do
      report (Error.global s!"vlans: {e}")
      pure vlans
    | .ok id => do
      let active ← vlanStatus id entry.config.status
      pure (vlans.insert id { name := entry.config.name, active })

def Config.vlanEntries (config : Config) : List VlanEntry := (config.vlans.map Vlans.vlan).getD []

def Config.groups (config : Config) : List Group :=
  (config.portBasedVlans.map PortBasedVlans.group).getD []

def dot1qVlans (config : Config) : Collect Error Domain := do
  rejectIf (!config.groups.isEmpty)
    (Error.global "port-based-vlans requires switch vlan-mode PORT_BASED")
  let vlans ← config.vlanEntries.foldlM declareVlan ∅
  pure { mode := .dot1q, vlans, groupOfPort := ∅ }

/-- Whether the interface is configured as a switch port. -/
def Interface.isPort (i : Interface) : Bool :=
  i.config.ifType.map unprefixed == some "ethernetCsmacd"

def groupPort (interfaces : List Interface) (switchPorts : BTreeSet String) (id : UInt16)
    (groupOfPort : BTreeMap String UInt16) (port : String) :
    Collect Error (BTreeMap String UInt16) :=
  let isPort := interfaces.any fun i => i.name == port && i.isPort
  if !isPort || !switchPorts.contains port then do
    report (Error.global s!"port-based-vlans group {id}: {port} is not a configured switch port")
    pure groupOfPort
  else
    insertUnique groupOfPort port id fun other =>
      some (Error.global
        s!"port-based-vlans group {id}: {port} is already a member of group {other}")

def Group.key (group : Group) : Option UInt16 := group.config.id.or group.id

def declareGroup (interfaces : List Interface) (switchPorts : BTreeSet String) (domain : Domain)
    (group : Group) : Collect Error Domain :=
  match group.key with
  | none => do
    report (Error.global "port-based-vlans: group without id")
    pure domain
  | some id =>
    match checkVlanId id.toUInt64 with
    | .error e => do
      report (Error.global s!"port-based-vlans group {id}: {e}")
      pure domain
    | .ok id => do
      let vlans := domain.vlans.insert id { name := group.config.name, active := true }
      let groupOfPort ← group.config.port.foldlM (groupPort interfaces switchPorts id)
        domain.groupOfPort
      pure { domain with vlans, groupOfPort }

def portGroups (config : Config) (interfaces : List Interface) (switchPorts : BTreeSet String) :
    Collect Error Domain := do
  rejectIf (!config.vlanEntries.isEmpty) (Error.global
    "vlans requires switch vlan-mode DOT1Q; in PORT_BASED mode use port-based-vlans")
  config.groups.foldlM (declareGroup interfaces switchPorts)
    { mode := .portBased, vlans := ∅, groupOfPort := ∅ }

end Domains

section Ports

/-- `id` if it is declared, otherwise none and an error. -/
def declared (domain : Domain) (id : UInt16) : Collect String (Option UInt16) :=
  attempt (domain.declared id.toUInt64)

/-- One trunk-vlans entry: a declared VLAN id, or a range "x..y" standing for the
declared VLANs in it. -/
def trunkEntry (entry : Scalar) (domain : Domain) : Except String (List UInt16) :=
  match entry.asU64 with
  | some id => (domain.declared id).map fun id => [id]
  | none =>
    let range := entry.display
    match rangeBounds range with
    | none => .error ("trunk-vlans \"" ++ range ++ "\" is neither a VLAN id nor a range x..y")
    | some (low, high) => do
      let low ← checkVlanId low
      let high ← checkVlanId high
      if low ≥ high then .error s!"trunk-vlans range {range}: {low} is not below {high}"
      else .ok (domain.vlans.keys.filter fun id => low ≤ id && id ≤ high)

/-- The native VLAN and the tagged VLANs of a port. -/
abbrev PortVlans := Option UInt16 × BTreeSet UInt16

def accessVlans (c : SwitchedVlanConfig) (domain : Domain) :
    Collect String (Option PortVlans) := do
  let access ← c.accessVlan.mapM (declared domain)
  rejectIf (c.nativeVlan.isSome || !c.trunkVlans.isEmpty)
    "native-vlan and trunk-vlans require interface-mode TRUNK"
  match access with
  | none => do
    report "switched-vlan access-vlan is required"
    pure none
  | some none => pure none
  | some (some vlan) => pure (some ((some vlan).filter domain.active, ∅))

/-- Adds the VLANs of one trunk-vlans entry; the flag falls if the entry is bad. -/
def addTrunkEntry (domain : Domain) (acc : Bool × BTreeSet UInt16) (entry : Scalar) :
    Collect String (Bool × BTreeSet UInt16) :=
  match trunkEntry entry domain with
  | .ok ids => pure (acc.1, acc.2.insertMany ids)
  | .error e => do
    report e
    pure (false, acc.2)

def trunkVlans (c : SwitchedVlanConfig) (domain : Domain) :
    Collect String (Option PortVlans) := do
  let native ← c.nativeVlan.mapM (declared domain)
  rejectIf c.accessVlan.isSome "access-vlan requires interface-mode ACCESS"
  -- An empty leaf-list allows every declared VLAN.
  let all : BTreeSet UInt16 :=
    if c.trunkVlans.isEmpty then Std.ExtTreeSet.ofList domain.vlans.keys compare else ∅
  let (ok, tagged) ← c.trunkVlans.foldlM (addTrunkEntry domain)
    (native != some none && c.accessVlan.isNone, all)
  let tagged := tagged.filter fun v => some v != native.join && domain.active v
  pure (if ok then some (native.join.filter domain.active, tagged) else none)

/-- The native and tagged VLANs of an 802.1Q port, without the suspended ones. -/
def switchedVlans (c : SwitchedVlanConfig) (domain : Domain) :
    Collect String (Option PortVlans) :=
  match c.interfaceMode with
  | none => accessVlans c domain
  | some "ACCESS" => accessVlans c domain
  | some "TRUNK" => trunkVlans c domain
  | some mode => do
    report s!"interface-mode {mode} is not supported"
    pure none

def Interface.vlanConfig (i : Interface) : Option SwitchedVlanConfig :=
  (i.ethernet.bind Ethernet.switchedVlan).map SwitchedVlan.config

/-- The VLANs of a port in the mode of the switch. -/
def portVlansOf (i : Interface) (domain : Domain) : Collect String (Option PortVlans) :=
  match domain.mode with
  | .dot1q =>
    match i.vlanConfig with
    | none => do
      report ("ethernet/switched-vlan/config is required: " ++
        "interface-mode ACCESS with an access-vlan, or TRUNK")
      pure none
    | some c => switchedVlans c domain
  | .portBased => do
    rejectIf i.vlanConfig.isSome ("switched-vlan requires switch vlan-mode DOT1Q; " ++
      "in PORT_BASED mode add the port to a port-based-vlans group")
    match domain.groupOfPort[i.name]? with
    | some group => pure (some (some group, ∅))
    | none => do
      report "not a member of any port-based-vlans group"
      pure none

def port (i : Interface) (switchPorts : BTreeSet String) (domain : Domain) :
    Except (List String) Port :=
  Collect.require do
    rejectIf (!switchPorts.contains i.name) ("not a port of this switch (ports: " ++
      String.intercalate ", " switchPorts.toList ++ ")")
    rejectIf i.routedVlan.isSome "routed-vlan is only supported on l3ipvlan interfaces"
    let vlans ← portVlansOf i domain
    pure (vlans.map fun v =>
      { enabled := i.config.enabled.getD true, nativeVlan := v.1, taggedVlans := v.2 })

end Ports

section Svis

/-- Linux accepts any name of 1..15 bytes without '/', ':' or whitespace, except "."
and "..". -/
def validIfname (name : String) : Bool :=
  !name.isEmpty && name.utf8ByteSize ≤ maxIfnameLen && name != "." && name != ".." &&
    !name.toList.any fun c => c == '/' || c == ':' || Text.isWhitespace c

def ifnameMessage (name : String) : String :=
  "\"" ++ name ++ s!"\" is not a valid Linux interface name (1..{maxIfnameLen} bytes, " ++
    "no '/', ':' or spaces)"

def VlanMode.what : VlanMode → String
  | .dot1q => "VLAN"
  | .portBased => "port-based-vlans group"

def Domain.vlansNamed (domain : Domain) (name : String) : List UInt16 :=
  (domain.vlans.toList.filter fun e => e.2.name == some name).map Prod.fst

def vlanByName (name : String) (domain : Domain) : Except String UInt16 :=
  match domain.vlansNamed name with
  | [id] => .ok id
  | [] => .error ("routed-vlan vlan \"" ++ name ++ s!"\": no {domain.mode.what} has this name")
  | ids => .error ("routed-vlan vlan \"" ++ name ++
      s!"\": the name is ambiguous ({domain.mode.what}s " ++
      String.intercalate ", " (ids.map toString) ++ ")")

def routedVlanId (vlan : Option Scalar) (domain : Domain) : Except String UInt16 :=
  match vlan with
  | none => .error "routed-vlan/config/vlan is required"
  | some v =>
    match v.asU64 with
    | some id => domain.declared id
    | none => vlanByName v.display domain

def addAddress (addresses : BTreeSet Ipv4Prefix) (address : Address) :
    Collect String (BTreeSet Ipv4Prefix) :=
  match parseIpv4Addr address.ip with
  | none => do
    report s!"{address.ip} is not an IPv4 address"
    pure addresses
  | some addr =>
    match address.config.prefixLength with
    | some p =>
      if p ≤ 32 then pure (addresses.insert ⟨addr, p⟩)
      else do
        report s!"{displayAddr addr}: prefix-length {p} is out of range"
        pure addresses
    | none => do
      report s!"{displayAddr addr}: prefix-length is required"
      pure addresses

def sviOf (i : Interface) (routed : RoutedVlan) (domain : Domain) :
    Collect String (Option Svi) := do
  let vlan ← attempt (routedVlanId routed.config.vlan domain)
  let entries := (routed.ipv4.map fun ip => ip.addresses.address).getD []
  let addresses ← entries.foldlM addAddress ∅
  let dhcpClient := (routed.ipv4.bind fun ip => ip.config.dhcpClient).getD false
  pure (vlan.map fun vlan =>
    { enabled := i.config.enabled.getD true, vlan, addresses, dhcpClient })

def svi (i : Interface) (switchPorts : BTreeSet String) (domain : Domain) :
    Except (List String) Svi :=
  Collect.require do
    rejectIf (!validIfname i.name) (ifnameMessage i.name)
    rejectIf (i.name == bridgeName || switchPorts.contains i.name)
      "name is reserved for a switch port or the bridge"
    rejectIf i.vlanConfig.isSome "switched-vlan is only supported on switch ports"
    match i.routedVlan with
    | none => do
      report "routed-vlan/config/vlan is required"
      pure none
    | some routed => sviOf i routed domain

end Svis

section State

def Config.interfaceList (config : Config) : List Interface :=
  (config.interfaces.map Interfaces.interface).getD []

def vlanMode (config : Config) : Collect Error VlanMode :=
  match config.switch.bind fun s => s.config.vlanMode with
  | none => pure .dot1q
  | some "DOT1Q" => pure .dot1q
  | some "PORT_BASED" => pure .portBased
  | some other => do
    report (Error.global s!"switch vlan-mode {other} is not supported")
    pure .dot1q

def vlanDomain (config : Config) (switchPorts : BTreeSet String) (mode : VlanMode) :
    Collect Error Domain :=
  match mode with
  | .dot1q => dot1qVlans config
  | .portBased => portGroups config config.interfaceList switchPorts

/-- One interface of the configuration becomes a port or an SVI. -/
def addInterface (switchPorts : BTreeSet String) (domain : Domain) (state : DesiredState)
    (i : Interface) : Collect Error DesiredState :=
  match i.config.ifType.map unprefixed with
  | some "ethernetCsmacd" =>
    match port i switchPorts domain with
    | .ok p => pure { state with ports := state.ports.insert i.name p }
    | .error messages => do
      reportAll (messages.map (Error.mk i.name))
      pure state
  | some "l3ipvlan" =>
    match svi i switchPorts domain with
    | .ok s => pure { state with svis := state.svis.insert i.name s }
    | .error messages => do
      reportAll (messages.map (Error.mk i.name))
      pure state
  | some _ => do
    report ⟨i.name, "type " ++ i.config.ifType.getD "" ++
      " is not supported, only ethernetCsmacd (switch ports) and l3ipvlan (routed VLANs)"⟩
    pure state
  | none => do
    report ⟨i.name, "type is missing"⟩
    pure state

def systemLine (value : Option String) (what : String) : Collect Error (Option String) :=
  match value.filter fun v => !v.isEmpty with
  | none => pure none
  | some v => do
    checkLine s!"system {what}" v
    pure (some v)

def systemConfig (system : Option System) : Collect Error SystemConfig := do
  let contact ← systemLine (system.bind fun s => s.config.contact) "contact"
  let location ← systemLine (system.bind fun s => s.config.location) "location"
  pure { contact, location }

def checkUniqueVlans (svis : BTreeMap String Svi) : Collect Error (BTreeMap UInt16 String) :=
  svis.toList.foldlM (fun byVlan e => insertUnique byVlan e.2.vlan e.1 fun other =>
    some ⟨e.1, s!"VLAN {e.2.vlan} already has a routed interface, {other}"⟩) ∅

/-- The addresses of all SVIs with the name of theirs. -/
def sviAddresses (svis : BTreeMap String Svi) : List (String × Ipv4Addr) :=
  svis.toList.flatMap fun e => e.2.addresses.toList.map fun p => (e.1, p.addr)

def checkUniqueAddresses (svis : BTreeMap String Svi) :
    Collect Error (BTreeMap Ipv4Addr String) :=
  (sviAddresses svis).foldlM (fun byAddr e => insertUnique byAddr e.2 e.1 fun other =>
    if other ≠ e.1
    then some ⟨e.1, s!"address {displayAddr e.2} is already configured on {other}"⟩
    else none) ∅

def dhcpNames (svis : BTreeMap String Svi) : List String :=
  (svis.toList.filter fun e => e.2.dhcpClient).map Prod.fst

/-- One DHCP client at most: it owns the default route and resolv.conf. -/
def checkSingleDhcpClient (svis : BTreeMap String Svi) : Collect Error Unit :=
  match dhcpNames svis with
  | [] => pure ()
  | first :: names => reportAll (names.map fun name =>
      ⟨name, s!"ipv4 dhcp-client is already enabled on {first}; only one interface may run a DHCP client"⟩)

/-- Validates `config` and translates it; `switchPorts` are the ports that exist on
this switch. -/
def desiredState (config : Config) (switchPorts : BTreeSet String) :
    Except (List Error) DesiredState :=
  Collect.toExcept do
    let mode ← vlanMode config
    let domain ← vlanDomain config switchPorts mode
    let state ← config.interfaceList.foldlM (addInterface switchPorts domain) { mode }
    let stp ← desiredStp config.stp (Std.ExtTreeSet.ofList state.ports.keys compare)
    let snmp ← desiredSnmp config.snmp
    let system ← systemConfig config.system
    let _ ← checkUniqueVlans state.svis
    let _ ← checkUniqueAddresses state.svis
    checkSingleDhcpClient state.svis
    pure { state with vlans := domain.vlans, stp, snmp, system }

end State

end ClixonSwitch.Source.SwitchModel
