import ClixonSwitch.Source.SwitchNet.Reconcile

/-!
# The kernel model

`crates/switch-net/src/fake.rs`: the in-memory backend that models the kernel's
behaviour. An operation that fails returns its error together with the state it
leaves behind, which for ConfigureBridge is not the state it started from.
-/
namespace ClixonSwitch.Source.SwitchNet
open Lib Source.SwitchModel

abbrev Applied := Except NetError Unit × ActualState

def fail (message : String) (s : ActualState) : Applied := (.error ⟨message⟩, s)

/-- A new link: down, without master. -/
def newLink (kind : LinkKind) : Link := ⟨kind, false, none⟩

def freshBridgeKind : LinkKind := .bridge ⟨true, 0, true, .off⟩

/-- Whether `l` is a port of `name`. -/
def Link.enslavedTo (l : Link) (name : String) : Bool := l.master == some name

/-- What dropping default PVID `old` does to one port's entries: the default
VLAN goes if it is still there unchanged. -/
def dropDefault (old : UInt16) (vlans : VlanMap) : VlanMap :=
  if old != 0 && vlans[old]?.any (fun f => f.pvid && f.untagged) then vlans.erase old else vlans

/-- One iteration of ConfigureBridge's loop over the links, with the entries so
far and whether a port still had any. -/
def configurePort (name : String) (old : UInt16) (acc : BTreeMap String VlanMap × Bool)
    (e : String × Link) : BTreeMap String VlanMap × Bool :=
  if e.2.enslavedTo name then
    match acc.1[e.1]? with
    | some vlans => (acc.1.insert e.1 (dropDefault old vlans), acc.2 || !(dropDefault old vlans).isEmpty)
    | none => acc
  else acc

def applyConfigureBridge (name : String) (s : ActualState) : Applied :=
  match s.links[name]? with
  | some ⟨.bridge b, up, master⟩ =>
    let kind := .bridge { b with vlanFiltering := true, defaultPvid := 0, mstEnabled := true }
    let links := s.links.insert name ⟨kind, up, master⟩
    let (bridgeVlans, portVlans) :=
      links.toList.foldl (configurePort name b.defaultPvid) (s.bridgeVlans, false)
    let s := { s with links, bridgeVlans }
    if !b.mstEnabled && portVlans then
      fail "Device or resource busy: MST mode can't be changed while VLANs exist" s
    else (.ok (), s)
  | _ => fail "not a bridge" s

def applySetBridgeStp (name : String) (on : Bool) (s : ActualState) : Applied :=
  match s.links[name]? with
  | some ⟨.bridge b, up, master⟩ =>
    let kind := .bridge { b with stp := if on then .user else .off }
    (.ok (), { s with links := s.links.insert name ⟨kind, up, master⟩ })
  | _ => fail "not a bridge" s

/-- VLAN links on `name`. -/
def vlanChildren (s : ActualState) (name : String) : List String :=
  (s.links.toList.filter fun e => match e.2.kind with
    | .vlan parent _ => parent == name
    | _ => false).map Prod.fst

/-- The link with everything the kernel keeps under its name. -/
def removeLink (name : String) (s : ActualState) : ActualState where
  links := s.links.erase name
  bridgeVlans := s.bridgeVlans.erase name
  addresses := s.addresses.erase name
  dhcpAddresses := s.dhcpAddresses.erase name

/-- The ports of a deleted bridge lose their master and their entries. -/
def releasePorts (name : String) (s : ActualState) : ActualState :=
  { s with
    links := s.links.map fun _ l => if l.enslavedTo name then { l with master := none } else l
    bridgeVlans := (s.links.toList.filter fun e => e.2.enslavedTo name).foldl
      (fun vlans e => vlans.erase e.1) s.bridgeVlans }

def deleteEach (delete : String → ActualState → Applied) : List String → ActualState → Applied
  | [], s => (.ok (), s)
  | name :: rest, s =>
    match delete name s with
    | (.ok (), s) => deleteEach delete rest s
    | (.error e, s) => (.error e, s)

/-- DeleteLink with its recursion on VLAN children. The fuel is the number of
links: every level removes one, and without links the source errs as well. -/
def applyDeleteLink : Nat → String → ActualState → Applied
  | 0, _, s => fail "Cannot find device" s
  | fuel + 1, name, s =>
    if s.links.contains name then
      let s := removeLink name s
      match deleteEach (applyDeleteLink fuel) (vlanChildren s name) s with
      | (.ok (), s) => (.ok (), releasePorts name s)
      | (.error e, s) => (.error e, s)
    else fail "Cannot find device" s

def applyCreateLink (name : String) (kind : LinkKind) (s : ActualState) : ActualState :=
  { s with links := s.links.insert name (newLink kind) }

/-- Default PVID of the new master, which a joining port gets as an entry. -/
def masterPvid (master : Option String) (s : ActualState) : Option UInt16 :=
  match master with
  | none => some 0
  | some m =>
    match s.links[m]?.map Link.kind with
    | some (.bridge b) => some b.defaultPvid
    | _ => none

def applySetMaster (name : String) (master : Option String) (s : ActualState) : Applied :=
  match masterPvid master s with
  | none => fail "master is not a bridge" s
  | some pvid =>
    match s.links[name]? with
    | none => fail "Cannot find device" s
    | some l =>
      (.ok (), { s with
        links := s.links.insert name { l with master }
        bridgeVlans :=
          if pvid != 0 then s.bridgeVlans.insert name ((∅ : VlanMap).insert pvid access)
          else s.bridgeVlans.erase name })

def applySetUp (name : String) (up : Bool) (s : ActualState) : Applied :=
  match s.links[name]? with
  | some l => (.ok (), { s with links := s.links.insert name { l with up } })
  | none => fail "Cannot find device" s

def applyAddBridgeVlan (dev : String) (vid : UInt16) (flags : VlanFlags) (s : ActualState) :
    Applied :=
  match s.links[dev]? with
  | none => fail "Cannot find device" s
  | some l =>
    if !l.kind.isBridge && l.master.isNone then
      fail "Operation not supported: not a bridge port" s
    else
      let vlans := s.bridgeVlans.getD dev ∅
      let vlans := if flags.pvid then vlans.map fun _ f => { f with pvid := false } else vlans
      (.ok (), { s with bridgeVlans := s.bridgeVlans.insert dev (vlans.insert vid flags) })

def applyDelBridgeVlan (dev : String) (vid : UInt16) (s : ActualState) : Applied :=
  match s.bridgeVlans[dev]? with
  | some vlans =>
    if vlans.contains vid then
      (.ok (), { s with bridgeVlans := s.bridgeVlans.insert dev (vlans.erase vid) })
    else fail "No such VLAN entry" s
  | none => fail "No such VLAN entry" s

/-- Adding creates the device's set also when the address is a duplicate, but not
when the address is leased. -/
def applyAddAddress (dev : String) (addr : Ipv4Prefix) (s : ActualState) : Applied :=
  if !s.links.contains dev then fail "Cannot find device" s
  else if s.dhcpAddresses[dev]?.any (·.contains addr) then fail "File exists" s
  else
    let addrs := s.addresses.getD dev ∅
    let s := { s with addresses := s.addresses.insert dev (addrs.insert addr) }
    if addrs.contains addr then fail "File exists" s else (.ok (), s)

/-- Deleting removes the address from both sets. -/
def applyDelAddress (dev : String) (addr : Ipv4Prefix) (s : ActualState) : Applied :=
  let permanent := s.addresses[dev]?.any (·.contains addr)
  let dhcp := s.dhcpAddresses[dev]?.any (·.contains addr)
  let s := { s with
    addresses := s.addresses.modify dev (·.erase addr)
    dhcpAddresses := s.dhcpAddresses.modify dev (·.erase addr) }
  if !permanent && !dhcp then fail "Cannot assign requested address" s else (.ok (), s)

def fakeApply (op : Op) (s : ActualState) : Applied :=
  match op with
  | .createBridge name =>
    if s.links.contains name then fail "File exists" s
    else (.ok (), applyCreateLink name freshBridgeKind s)
  | .configureBridge name => applyConfigureBridge name s
  | .setBridgeStp name on => applySetBridgeStp name on s
  | .deleteLink name => applyDeleteLink s.links.size name s
  | .createVlan name parent id =>
    if s.links.contains name then fail "File exists" s
    else if !s.links.contains parent then fail "Cannot find parent device" s
    else (.ok (), applyCreateLink name (.vlan parent id) s)
  | .setMaster name master => applySetMaster name master s
  | .setUp name up => applySetUp name up s
  | .addBridgeVlan dev vid flags => applyAddBridgeVlan dev vid flags s
  | .delBridgeVlan dev vid => applyDelBridgeVlan dev vid s
  | .addAddress dev addr => applyAddAddress dev addr s
  | .delAddress dev addr => applyDelAddress dev addr s

/-- `FakeNet`: observing never fails and returns the whole state. -/
def fakeNet : NetBackend ActualState where
  observe s := (.ok s, s)
  apply := fakeApply

end ClixonSwitch.Source.SwitchNet
