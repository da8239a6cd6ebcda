import ClixonSwitch.Lib.Decode
import ClixonSwitch.Source.SwitchModel.Supported
import ClixonSwitch.Source.SwitchModel.Validation

/-!
# From a JSON tree to a desired state

The `Deserialize` instances of `crates/switch-model/src/{lib,stp,snmp}.rs`, field by
field in the order of the source, and `validate`, from the point where the text has
been parsed.
-/
namespace ClixonSwitch.Source.SwitchModel
open Lib Lib.Decode

section Leaves

/-- `Scalar`, an untagged enum. -/
def Scalar.decode : Decoder Scalar
  | .number (.unsigned n) => .ok (.number n)
  | .string s => .ok (.string s)
  | _ => .error "data did not match any variant of untagged enum Scalar"

/-- `opt_int` for an unsigned type with values below `bound`. -/
def optInt {α : Type} (bound : Nat) (ofNat : Nat → α) : Decoder (Option α) := fun v => do
  match ← option Scalar.decode v with
  | none => .ok none
  | some s =>
    match s.asU64 with
    | some n =>
      if n.toNat < bound then .ok (some (ofNat n.toNat))
      else .error s!"integer out of range: {s.display}"
    | none => .error s!"integer out of range: {s.display}"

def optU8 (name : String) : Record (Option UInt8) :=
  defaulted name none (optInt (2 ^ 8) UInt8.ofNat)

def optU16 (name : String) : Record (Option UInt16) :=
  defaulted name none (optInt (2 ^ 16) UInt16.ofNat)

def optU32 (name : String) : Record (Option UInt32) :=
  defaulted name none (optInt (2 ^ 32) UInt32.ofNat)

/-- A list, empty if it is missing. -/
def entries {α : Type} (name : String) (decode : Decoder α) : Record (List α) :=
  defaulted name [] (list decode)

end Leaves

section Interfaces

def InterfaceConfig.decode : Decoder InterfaceConfig := record do
  let ifType ← optional "type" string
  let enabled ← optional "enabled" bool
  pure { ifType, enabled }

def SwitchedVlanConfig.decode : Decoder SwitchedVlanConfig := record do
  let interfaceMode ← optional "interface-mode" string
  let accessVlan ← optU16 "access-vlan"
  let nativeVlan ← optU16 "native-vlan"
  let trunkVlans ← entries "trunk-vlans" Scalar.decode
  pure { interfaceMode, accessVlan, nativeVlan, trunkVlans }

def SwitchedVlan.decode : Decoder SwitchedVlan := record do
  let config ← defaulted "config" {} SwitchedVlanConfig.decode
  pure { config }

def Ethernet.decode : Decoder Ethernet := record do
  let switchedVlan ← optional "openconfig-vlan:switched-vlan" SwitchedVlan.decode
  pure { switchedVlan }

def RoutedVlanConfig.decode : Decoder RoutedVlanConfig := record do
  let vlan ← optional "vlan" Scalar.decode
  pure { vlan }

def AddressConfig.decode : Decoder AddressConfig := record do
  let prefixLength ← optU8 "prefix-length"
  pure { prefixLength }

def Address.decode : Decoder Address := record do
  let ip ← required "ip" string
  let config ← defaulted "config" {} AddressConfig.decode
  pure { ip, config }

def Addresses.decode : Decoder Addresses := record do
  let address ← entries "address" Address.decode
  pure { address }

def Ipv4Config.decode : Decoder Ipv4Config := record do
  let dhcpClient ← optional "dhcp-client" bool
  pure { dhcpClient }

def Ipv4.decode : Decoder Ipv4 := record do
  let addresses ← defaulted "addresses" {} Addresses.decode
  let config ← defaulted "config" {} Ipv4Config.decode
  pure { addresses, config }

def RoutedVlan.decode : Decoder RoutedVlan := record do
  let config ← defaulted "config" {} RoutedVlanConfig.decode
  let ipv4 ← optional "openconfig-if-ip:ipv4" Ipv4.decode
  pure { config, ipv4 }

def Interface.decode : Decoder Interface := record do
  let name ← required "name" string
  let config ← defaulted "config" {} InterfaceConfig.decode
  let ethernet ← optional "openconfig-if-ethernet:ethernet" Ethernet.decode
  let routedVlan ← optional "openconfig-vlan:routed-vlan" RoutedVlan.decode
  pure { name, config, ethernet, routedVlan }

def Interfaces.decode : Decoder Interfaces := record do
  let interface ← entries "interface" Interface.decode
  pure { interface }

end Interfaces

section Vlans

def VlanEntryConfig.decode : Decoder VlanEntryConfig := record do
  let vlanId ← optU16 "vlan-id"
  let name ← optional "name" string
  let status ← optional "status" string
  pure { vlanId, name, status }

def VlanEntry.decode : Decoder VlanEntry := record do
  let vlanId ← optU16 "vlan-id"
  let config ← defaulted "config" {} VlanEntryConfig.decode
  pure { vlanId, config }

def Vlans.decode : Decoder Vlans := record do
  let vlan ← entries "vlan" VlanEntry.decode
  pure { vlan }

def SwitchConfig.decode : Decoder SwitchConfig := record do
  let vlanMode ← optional "vlan-mode" string
  pure { vlanMode }

def Switch.decode : Decoder Switch := record do
  let config ← defaulted "config" {} SwitchConfig.decode
  pure { config }

def GroupConfig.decode : Decoder GroupConfig := record do
  let id ← optU16 "id"
  let name ← optional "name" string
  let port ← entries "port" string
  pure { id, name, port }

def Group.decode : Decoder Group := record do
  let id ← optU16 "id"
  let config ← defaulted "config" {} GroupConfig.decode
  pure { id, config }

def PortBasedVlans.decode : Decoder PortBasedVlans := record do
  let group ← entries "group" Group.decode
  pure { group }

end Vlans

section SpanningTree

def GlobalConfig.decode : Decoder GlobalConfig := record do
  let enabledProtocol ← entries "enabled-protocol" string
  let bpduGuard ← optional "bpdu-guard" bool
  let bpduFilter ← optional "bpdu-filter" bool
  pure { enabledProtocol, bpduGuard, bpduFilter }

def Global.decode : Decoder Global := record do
  let config ← defaulted "config" {} GlobalConfig.decode
  pure { config }

def TimerConfig.decode : Decoder TimerConfig := record do
  let helloTime ← optU8 "hello-time"
  let maxAge ← optU8 "max-age"
  let forwardingDelay ← optU8 "forwarding-delay"
  let holdCount ← optU8 "hold-count"
  -- In `mstp/config` the leaf is an augment, with a prefix.
  let bridgePriority ← field ["bridge-priority", "clixon-switch:bridge-priority"] (some none)
    (some none) (optInt (2 ^ 16) UInt16.ofNat)
  let name ← optional "name" string
  let revision ← optU32 "revision"
  let maxHop ← optU8 "max-hop"
  pure { helloTime, maxAge, forwardingDelay, holdCount, bridgePriority, name, revision, maxHop }

def TreeInterfaceConfig.decode : Decoder TreeInterfaceConfig := record do
  let cost ← optU32 "cost"
  let portPriority ← optU8 "port-priority"
  pure { cost, portPriority }

def TreeInterface.decode : Decoder TreeInterface := record do
  let name ← required "name" string
  let config ← defaulted "config" {} TreeInterfaceConfig.decode
  pure { name, config }

def TreeInterfaces.decode : Decoder TreeInterfaces := record do
  let interface ← entries "interface" TreeInterface.decode
  pure { interface }

def Rstp.decode : Decoder Rstp := record do
  let config ← defaulted "config" {} TimerConfig.decode
  let interfaces ← optional "interfaces" TreeInterfaces.decode
  pure { config, interfaces }

def MstInstanceConfig.decode : Decoder MstInstanceConfig := record do
  let mstId ← optU16 "mst-id"
  let vlan ← entries "vlan" Scalar.decode
  let bridgePriority ← optU16 "bridge-priority"
  pure { mstId, vlan, bridgePriority }

def MstInstance.decode : Decoder MstInstance := record do
  let mstId ← optU16 "mst-id"
  let config ← defaulted "config" {} MstInstanceConfig.decode
  let interfaces ← optional "interfaces" TreeInterfaces.decode
  pure { mstId, config, interfaces }

def MstInstances.decode : Decoder MstInstances := record do
  let mstInstance ← entries "mst-instance" MstInstance.decode
  pure { mstInstance }

def Mstp.decode : Decoder Mstp := record do
  let config ← defaulted "config" {} TimerConfig.decode
  let mstInstances ← optional "mst-instances" MstInstances.decode
  let interfaces ← optional "clixon-switch:interfaces" TreeInterfaces.decode
  pure { config, mstInstances, interfaces }

def FeatureInterfaceConfig.decode : Decoder FeatureInterfaceConfig := record do
  let edgePort ← optional "edge-port" string
  let linkType ← optional "link-type" string
  let guard ← optional "guard" string
  let bpduGuard ← optional "bpdu-guard" bool
  let bpduFilter ← optional "bpdu-filter" bool
  pure { edgePort, linkType, guard, bpduGuard, bpduFilter }

def FeatureInterface.decode : Decoder FeatureInterface := record do
  let name ← required "name" string
  let config ← defaulted "config" {} FeatureInterfaceConfig.decode
  pure { name, config }

def FeatureInterfaces.decode : Decoder FeatureInterfaces := record do
  let interface ← entries "interface" FeatureInterface.decode
  pure { interface }

def StpConfig.decode : Decoder StpConfig := record do
  let global ← optional "global" Global.decode
  let rstp ← optional "rstp" Rstp.decode
  let mstp ← optional "mstp" Mstp.decode
  let interfaces ← optional "interfaces" FeatureInterfaces.decode
  pure { global, rstp, mstp, interfaces }

end SpanningTree

section Snmp

def Udp.decode : Decoder Udp := record do
  let ip ← required "ip" string
  let port ← optU16 "port"
  pure { ip, port }

def Listen.decode : Decoder Listen := record do
  let name ← required "name" string
  let udp ← optional "udp" Udp.decode
  pure { name, udp }

def Engine.decode : Decoder Engine := record do
  let enabled ← optional "enabled" bool
  let listen ← entries "listen" Listen.decode
  let version ← optional "version" keys
  let engineId ← optional "engine-id" string
  pure { enabled, listen, version, engineId }

def Key.decode : Decoder Key := record do
  let key ← required "key" string
  pure { key }

def Auth.decode : Decoder Auth := record do
  let sha ← optional "sha" Key.decode
  pure { sha }

def Privacy.decode : Decoder Privacy := record do
  let aes ← optional "aes" Key.decode
  pure { aes }

def User.decode : Decoder User := record do
  let name ← required "name" string
  let auth ← optional "auth" Auth.decode
  let privacy ← optional "priv" Privacy.decode
  pure { name, auth, privacy }

def UsmLocal.decode : Decoder UsmLocal := record do
  let user ← entries "user" User.decode
  pure { user }

def Usm.decode : Decoder Usm := record do
  let localUsers ← optional "local" UsmLocal.decode
  pure { localUsers }

def Member.decode : Decoder Member := record do
  let securityName ← required "security-name" string
  let securityModel ← entries "security-model" string
  pure { securityName, securityModel }

def Access.decode : Decoder Access := record do
  let securityModel ← optional "security-model" string
  let securityLevel ← optional "security-level" string
  let readView ← optional "read-view" string
  pure { securityModel, securityLevel, readView }

def VacmGroup.decode : Decoder VacmGroup := record do
  let name ← required "name" string
  let member ← entries "member" Member.decode
  let access ← entries "access" Access.decode
  pure { name, member, access }

def VacmView.decode : Decoder VacmView := record do
  let name ← required "name" string
  let included ← entries "include" string
  let excluded ← entries "exclude" string
  pure { name, included, excluded }

def Vacm.decode : Decoder Vacm := record do
  let group ← entries "group" VacmGroup.decode
  let view ← entries "view" VacmView.decode
  pure { group, view }

def SnmpConfig.decode : Decoder SnmpConfig := record do
  let engine ← optional "engine" Engine.decode
  let usm ← optional "usm" Usm.decode
  let vacm ← optional "vacm" Vacm.decode
  pure { engine, usm, vacm }

end Snmp

section Top

def SystemConfigJson.decode : Decoder SystemConfigJson := record do
  let contact ← optional "contact" string
  let location ← optional "location" string
  pure { contact, location }

def System.decode : Decoder System := record do
  let config ← defaulted "config" {} SystemConfigJson.decode
  pure { config }

def Config.decode : Decoder Config := record do
  let interfaces ← optional "openconfig-interfaces:interfaces" Interfaces.decode
  let vlans ← optional "clixon-switch:vlans" Vlans.decode
  let switch ← optional "clixon-switch:switch" Switch.decode
  let portBasedVlans ← optional "clixon-switch:port-based-vlans" PortBasedVlans.decode
  let stp ← optional "openconfig-spanning-tree:stp" StpConfig.decode
  let system ← optional "clixon-switch:system" System.decode
  let snmp ← optional "ietf-snmp:snmp" SnmpConfig.decode
  pure { interfaces, vlans, switch, portBasedVlans, stp, system, snmp }

/-- Rejects configuration the switch does not implement, and translates the rest.
Reports all problems at once. -/
def validate (value : Json) (switchPorts : BTreeSet String) : Except (List Error) DesiredState :=
  let errors := Supported.check value
  match Config.decode value with
  | .ok config =>
    match desiredState config switchPorts with
    | .ok state => if errors.isEmpty then .ok state else .error errors
    | .error e => .error (errors ++ e)
  | .error e => .error (errors ++ [Error.global s!"cannot parse the configuration: {e}"])

theorem validate_ok {value : Json} {switchPorts : BTreeSet String} {state : DesiredState} :
    validate value switchPorts = .ok state ↔ Supported.check value = [] ∧
      ∃ config, Config.decode value = .ok config ∧ desiredState config switchPorts = .ok state := by
  unfold validate
  cases hd : Config.decode value with
  | error e => simp
  | ok config =>
    cases hs : desiredState config switchPorts with
    | error e => simp [hs]
    | ok s =>
      by_cases hempty : Supported.check value = []
      · simp [hempty, hs]
      · simp [hempty, hs]

end Top

end ClixonSwitch.Source.SwitchModel
