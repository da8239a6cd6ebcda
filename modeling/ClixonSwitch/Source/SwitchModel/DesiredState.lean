import ClixonSwitch.Lib.BTree

/-!
# The desired state of the switch

The result types of `crates/switch-model/src/{lib,stp,snmp}.rs`: what the kernel,
mstpd and snmpd should look like, independent of how they get there. Validation
(`SwitchModel.Validation`) builds these values; the planner, the mstpctl command
list and the snmpd.conf writer read them.
-/
namespace ClixonSwitch.Source.SwitchModel
open Lib

/-- Linux bridge that holds all switch ports. -/
def bridgeName : String := "br-lan"

inductive VlanMode where
  | dot1q | portBased
  deriving DecidableEq, Repr, Inhabited

/-- A declared VLAN, or a port-based VLAN group. -/
structure Vlan where
  name : Option String
  active : Bool
  deriving DecidableEq, Repr

structure Port where
  enabled : Bool
  nativeVlan : Option UInt16
  taggedVlans : BTreeSet UInt16
  deriving DecidableEq

/-- Whether the port carries `vlan`, tagged or not. -/
def Port.carries (port : Port) (vlan : UInt16) : Bool :=
  port.nativeVlan == some vlan || port.taggedVlans.contains vlan

/-- `std::net::Ipv4Addr` as its big-endian number, which is its order. -/
structure Ipv4Addr where
  bits : UInt32
  deriving DecidableEq, Repr

instance : Ord Ipv4Addr := ⟨compareOn Ipv4Addr.bits⟩

instance : Std.TransOrd Ipv4Addr := inferInstanceAs (Std.TransCmp (compareOn Ipv4Addr.bits))

instance : Std.LawfulEqOrd Ipv4Addr where
  eq_of_compare {a b} h := by
    have hb : a.bits = b.bits := Std.LawfulEqOrd.eq_of_compare (h : compare a.bits b.bits = .eq)
    cases a; cases b; simp_all

structure Ipv4Prefix where
  addr : Ipv4Addr
  prefixLen : UInt8
  deriving DecidableEq, Repr

instance : Ord Ipv4Prefix :=
  ⟨compareLex (compareOn Ipv4Prefix.addr) (compareOn Ipv4Prefix.prefixLen)⟩

instance : Std.TransOrd Ipv4Prefix :=
  inferInstanceAs (Std.TransCmp (compareLex (compareOn Ipv4Prefix.addr) (compareOn Ipv4Prefix.prefixLen)))

instance : Std.LawfulEqOrd Ipv4Prefix where
  eq_of_compare {a b} h := by
    have hl : (compare a.addr b.addr).then (compare a.prefixLen b.prefixLen) = .eq := h
    rw [Ordering.then_eq_eq] at hl
    have ha : a.addr = b.addr := Std.LawfulEqOrd.eq_of_compare hl.1
    have hp : a.prefixLen = b.prefixLen := Std.LawfulEqOrd.eq_of_compare hl.2
    cases a; cases b; simp_all

/-- `Ipv4Addr`'s text: four decimal octets. -/
def displayAddr (a : Ipv4Addr) : String :=
  let n := a.bits.toNat
  s!"{n / 2 ^ 24}.{n / 2 ^ 16 % 256}.{n / 2 ^ 8 % 256}.{n % 256}"

def displayPrefix (p : Ipv4Prefix) : String :=
  s!"{displayAddr p.addr}/{p.prefixLen}"

structure Svi where
  enabled : Bool
  vlan : UInt16
  addresses : BTreeSet Ipv4Prefix
  dhcpClient : Bool
  deriving DecidableEq

inductive StpProtocol where
  | stp | rstp | mstp
  deriving DecidableEq, Repr

/-- mstpd's name, for `mstpctl setforcevers`. -/
def StpProtocol.mstpdName : StpProtocol → String
  | .stp => "stp"
  | .rstp => "rstp"
  | .mstp => "mstp"

/-- Position in the derived order of the source enum. -/
def StpProtocol.rank : StpProtocol → Nat
  | .stp => 0
  | .rstp => 1
  | .mstp => 2

instance : Ord StpProtocol := ⟨compareOn StpProtocol.rank⟩

instance : Std.TransOrd StpProtocol := inferInstanceAs (Std.TransCmp (compareOn StpProtocol.rank))

instance : Std.LawfulEqOrd StpProtocol where
  eq_of_compare {a b} h := by
    have hr : a.rank = b.rank := Std.LawfulEqOrd.eq_of_compare (h : compare a.rank b.rank = .eq)
    cases a <;> cases b <;> first | rfl | cases hr

def defaultBridgePriority : UInt16 := 32768
def defaultPortPriority : UInt8 := 128
def defaultHelloTime : UInt8 := 2
def defaultMaxAge : UInt8 := 20
def defaultForwardDelay : UInt8 := 15
def defaultHoldCount : UInt8 := 6
def defaultMaxHops : UInt8 := 20

/-- Port cost and priority in one tree; no cost means derived from the link speed. -/
structure TreePort where
  cost : Option UInt32 := none
  priority : UInt8 := defaultPortPriority
  deriving DecidableEq, Repr, Inhabited

structure Tree where
  bridgePriority : UInt16
  ports : BTreeMap String TreePort
  deriving DecidableEq

structure Msti where
  vlans : BTreeSet UInt16
  tree : Tree
  deriving DecidableEq

inductive EdgePort where
  | enable | disable | auto
  deriving DecidableEq, Repr

structure PortFeatures where
  edge : EdgePort := .auto
  pointToPoint : Option Bool := none
  rootGuard : Bool := false
  bpduGuard : Bool := false
  bpduFilter : Bool := false
  deriving DecidableEq, Repr

/-- Spanning tree as it should run. Present only while a protocol is enabled. -/
structure Stp where
  protocol : StpProtocol
  helloTime : UInt8
  maxAge : UInt8
  forwardDelay : UInt8
  holdCount : UInt8
  maxHops : UInt8
  regionName : Option String
  regionRevision : UInt16
  cist : Tree
  mstis : BTreeMap UInt16 Msti
  ports : BTreeMap String PortFeatures
  deriving DecidableEq

structure UsmUser where
  authKey : List UInt8
  privKey : Option (List UInt8)
  deriving DecidableEq, Repr

inductive SecurityLevel where
  | authNoPriv | authPriv
  deriving DecidableEq, Repr

structure SnmpAccess where
  level : SecurityLevel
  readView : Option String
  deriving DecidableEq, Repr

structure SnmpGroup where
  members : BTreeSet String := ∅
  access : List SnmpAccess := []
  deriving DecidableEq

structure SnmpView where
  included : List String
  excluded : List String
  deriving DecidableEq, Repr

/-- A UDP listener: the pair `(Ipv4Addr, u16)` of the source, ordered as a pair. -/
structure Listener where
  ip : Ipv4Addr
  port : UInt16
  deriving DecidableEq, Repr

instance : Ord Listener := ⟨compareLex (compareOn Listener.ip) (compareOn Listener.port)⟩

instance : Std.TransOrd Listener :=
  inferInstanceAs (Std.TransCmp (compareLex (compareOn Listener.ip) (compareOn Listener.port)))

instance : Std.LawfulEqOrd Listener where
  eq_of_compare {a b} h := by
    have hl : (compare a.ip b.ip).then (compare a.port b.port) = .eq := h
    rw [Ordering.then_eq_eq] at hl
    have hi : a.ip = b.ip := Std.LawfulEqOrd.eq_of_compare hl.1
    have hp : a.port = b.port := Std.LawfulEqOrd.eq_of_compare hl.2
    cases a; cases b; simp_all

/-- The SNMP agent as it should run. Present only while the engine is enabled. -/
structure Snmp where
  engineId : Option (List UInt8) := none
  listen : BTreeSet Listener := ∅
  users : BTreeMap String UsmUser := ∅
  groups : BTreeMap String SnmpGroup := ∅
  views : BTreeMap String SnmpView := ∅
  deriving DecidableEq

structure SystemConfig where
  contact : Option String := none
  location : Option String := none
  deriving DecidableEq, Repr

/-- What the kernel and the daemons should look like. -/
structure DesiredState where
  mode : VlanMode := .dot1q
  vlans : BTreeMap UInt16 Vlan := ∅
  ports : BTreeMap String Port := ∅
  svis : BTreeMap String Svi := ∅
  stp : Option Stp := none
  snmp : Option Snmp := none
  system : SystemConfig := {}
  deriving DecidableEq

/-- Whether frames of `vlan` are forwarded at all; a VLAN without an entry counts
as active. -/
def DesiredState.vlanActive (desired : DesiredState) (vlan : UInt16) : Bool :=
  match desired.vlans[vlan]? with
  | some v => v.active
  | none => true

/-- The SVI that runs the DHCP client: the first by name. -/
def DesiredState.dhcpSvi (desired : DesiredState) : Option String :=
  (desired.svis.toList.find? fun e => e.2.dhcpClient).map Prod.fst

/-- One problem of a configuration; the interface is empty for switch-wide ones. -/
structure Error where
  interface : String
  message : String
  deriving DecidableEq, Repr

def Error.global (message : String) : Error := ⟨"", message⟩

end ClixonSwitch.Source.SwitchModel
