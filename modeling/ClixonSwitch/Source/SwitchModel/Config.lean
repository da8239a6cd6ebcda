import ClixonSwitch.Lib.Text

/-!
# The configuration tree

The deserialized RFC 7951 JSON of `crates/switch-model/src/{lib,stp,snmp}.rs`: the
part of the OpenConfig and ietf-snmp trees that the switch acts on, with an absent
container or leaf as `none`, an absent list as the empty list and an absent
`config` container as an empty one, as serde fills them in.
-/
namespace ClixonSwitch.Source.SwitchModel
open Lib

/-- A leaf that may arrive as a JSON number or a string. -/
inductive Scalar where
  | number (n : UInt64)
  | string (s : String)
  deriving DecidableEq, Repr

/-- `str::parse::<u64>`. -/
def parseU64 (text : List Char) : Option UInt64 :=
  (Text.parseUnsigned 10 (2 ^ 64) text).map UInt64.ofNat

def Scalar.asU64 : Scalar → Option UInt64
  | .number n => some n
  | .string s => parseU64 s.toList

def Scalar.display : Scalar → String
  | .number n => toString n
  | .string s => s

def checkVlanId (id : UInt64) : Except String UInt16 :=
  if 1 ≤ id ∧ id ≤ 4094 then .ok id.toUInt16
  else .error s!"VLAN id {id} is out of range 1..4094"

/-- The bounds of a range "x..y", not yet checked. -/
def rangeBounds (range : String) : Option (UInt64 × UInt64) := do
  let (low, high) ← Text.splitOnce ['.', '.'] range.toList
  let low ← parseU64 (Text.trim low)
  let high ← parseU64 (Text.trim high)
  pure (low, high)

/-- An identity without its module prefix. -/
def unprefixed (identity : String) : String := String.ofList (Text.afterLast ':' identity.toList)

section InterfaceTree

structure InterfaceConfig where
  ifType : Option String := none
  enabled : Option Bool := none
  deriving DecidableEq, Repr

structure SwitchedVlanConfig where
  interfaceMode : Option String := none
  accessVlan : Option UInt16 := none
  nativeVlan : Option UInt16 := none
  trunkVlans : List Scalar := []
  deriving DecidableEq, Repr

structure SwitchedVlan where
  config : SwitchedVlanConfig := {}
  deriving DecidableEq, Repr

structure Ethernet where
  switchedVlan : Option SwitchedVlan := none
  deriving DecidableEq, Repr

/-- The VLAN by id or by name. -/
structure RoutedVlanConfig where
  vlan : Option Scalar := none
  deriving DecidableEq, Repr

structure AddressConfig where
  prefixLength : Option UInt8 := none
  deriving DecidableEq, Repr

structure Address where
  ip : String
  config : AddressConfig := {}
  deriving DecidableEq, Repr

structure Addresses where
  address : List Address := []
  deriving DecidableEq, Repr

structure Ipv4Config where
  dhcpClient : Option Bool := none
  deriving DecidableEq, Repr

structure Ipv4 where
  addresses : Addresses := {}
  config : Ipv4Config := {}
  deriving DecidableEq, Repr

structure RoutedVlan where
  config : RoutedVlanConfig := {}
  ipv4 : Option Ipv4 := none
  deriving DecidableEq, Repr

structure Interface where
  name : String
  config : InterfaceConfig := {}
  ethernet : Option Ethernet := none
  routedVlan : Option RoutedVlan := none
  deriving DecidableEq, Repr

structure Interfaces where
  interface : List Interface := []
  deriving DecidableEq, Repr

end InterfaceTree

section VlanTree

structure VlanEntryConfig where
  vlanId : Option UInt16 := none
  name : Option String := none
  status : Option String := none
  deriving DecidableEq, Repr

structure VlanEntry where
  vlanId : Option UInt16 := none
  config : VlanEntryConfig := {}
  deriving DecidableEq, Repr

/-- `/vlans`: the VLAN database. -/
structure Vlans where
  vlan : List VlanEntry := []
  deriving DecidableEq, Repr

structure SwitchConfig where
  vlanMode : Option String := none
  deriving DecidableEq, Repr

structure Switch where
  config : SwitchConfig := {}
  deriving DecidableEq, Repr

structure GroupConfig where
  id : Option UInt16 := none
  name : Option String := none
  port : List String := []
  deriving DecidableEq, Repr

structure Group where
  id : Option UInt16 := none
  config : GroupConfig := {}
  deriving DecidableEq, Repr

structure PortBasedVlans where
  group : List Group := []
  deriving DecidableEq, Repr

end VlanTree

section SpanningTree

structure GlobalConfig where
  enabledProtocol : List String := []
  bpduGuard : Option Bool := none
  bpduFilter : Option Bool := none
  deriving DecidableEq, Repr

structure Global where
  config : GlobalConfig := {}
  deriving DecidableEq, Repr

/-- `rstp/config` and `mstp/config`. -/
structure TimerConfig where
  helloTime : Option UInt8 := none
  maxAge : Option UInt8 := none
  forwardingDelay : Option UInt8 := none
  holdCount : Option UInt8 := none
  bridgePriority : Option UInt16 := none
  name : Option String := none
  revision : Option UInt32 := none
  maxHop : Option UInt8 := none
  deriving DecidableEq, Repr

structure TreeInterfaceConfig where
  cost : Option UInt32 := none
  portPriority : Option UInt8 := none
  deriving DecidableEq, Repr

structure TreeInterface where
  name : String
  config : TreeInterfaceConfig := {}
  deriving DecidableEq, Repr

structure TreeInterfaces where
  interface : List TreeInterface := []
  deriving DecidableEq, Repr

structure Rstp where
  config : TimerConfig := {}
  interfaces : Option TreeInterfaces := none
  deriving DecidableEq, Repr

structure MstInstanceConfig where
  mstId : Option UInt16 := none
  vlan : List Scalar := []
  bridgePriority : Option UInt16 := none
  deriving DecidableEq, Repr

structure MstInstance where
  mstId : Option UInt16 := none
  config : MstInstanceConfig := {}
  interfaces : Option TreeInterfaces := none
  deriving DecidableEq, Repr

structure MstInstances where
  mstInstance : List MstInstance := []
  deriving DecidableEq, Repr

structure Mstp where
  config : TimerConfig := {}
  mstInstances : Option MstInstances := none
  interfaces : Option TreeInterfaces := none
  deriving DecidableEq, Repr

structure FeatureInterfaceConfig where
  edgePort : Option String := none
  linkType : Option String := none
  guard : Option String := none
  bpduGuard : Option Bool := none
  bpduFilter : Option Bool := none
  deriving DecidableEq, Repr

structure FeatureInterface where
  name : String
  config : FeatureInterfaceConfig := {}
  deriving DecidableEq, Repr

structure FeatureInterfaces where
  interface : List FeatureInterface := []
  deriving DecidableEq, Repr

structure StpConfig where
  global : Option Global := none
  rstp : Option Rstp := none
  mstp : Option Mstp := none
  interfaces : Option FeatureInterfaces := none
  deriving DecidableEq, Repr

end SpanningTree

section SnmpTree

structure Udp where
  ip : String
  port : Option UInt16 := none
  deriving DecidableEq, Repr

structure Listen where
  name : String
  udp : Option Udp := none
  deriving DecidableEq, Repr

/-- `engine`; of the map under `version` only the keys are read. -/
structure Engine where
  enabled : Option Bool := none
  listen : List Listen := []
  version : Option (List String) := none
  engineId : Option String := none
  deriving DecidableEq, Repr

structure Key where
  key : String
  deriving DecidableEq, Repr

structure Auth where
  sha : Option Key := none
  deriving DecidableEq, Repr

structure Privacy where
  aes : Option Key := none
  deriving DecidableEq, Repr

structure User where
  name : String
  auth : Option Auth := none
  privacy : Option Privacy := none
  deriving DecidableEq, Repr

structure UsmLocal where
  user : List User := []
  deriving DecidableEq, Repr

structure Usm where
  localUsers : Option UsmLocal := none
  deriving DecidableEq, Repr

structure Member where
  securityName : String
  securityModel : List String := []
  deriving DecidableEq, Repr

structure Access where
  securityModel : Option String := none
  securityLevel : Option String := none
  readView : Option String := none
  deriving DecidableEq, Repr

structure VacmGroup where
  name : String
  member : List Member := []
  access : List Access := []
  deriving DecidableEq, Repr

structure VacmView where
  name : String
  included : List String := []
  excluded : List String := []
  deriving DecidableEq, Repr

structure Vacm where
  group : List VacmGroup := []
  view : List VacmView := []
  deriving DecidableEq, Repr

structure SnmpConfig where
  engine : Option Engine := none
  usm : Option Usm := none
  vacm : Option Vacm := none
  deriving DecidableEq, Repr

end SnmpTree

structure SystemConfigJson where
  contact : Option String := none
  location : Option String := none
  deriving DecidableEq, Repr

structure System where
  config : SystemConfigJson := {}
  deriving DecidableEq, Repr

/-- Top of a datastore tree. -/
structure Config where
  interfaces : Option Interfaces := none
  vlans : Option Vlans := none
  switch : Option Switch := none
  portBasedVlans : Option PortBasedVlans := none
  stp : Option StpConfig := none
  system : Option System := none
  snmp : Option SnmpConfig := none
  deriving DecidableEq, Repr

end ClixonSwitch.Source.SwitchModel
