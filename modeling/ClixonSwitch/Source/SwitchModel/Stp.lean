import ClixonSwitch.Lib.Collect
import ClixonSwitch.Source.SwitchModel.Config
import ClixonSwitch.Source.SwitchModel.DesiredState

/-!
# Validation of `/stp`

`desired_stp` of `crates/switch-model/src/stp.rs` and its helpers. The container of
the protocol not in use is validated too. Messages are collected without the
`stp: ` that `desired_stp` puts before each of them.
-/
namespace ClixonSwitch.Source.SwitchModel
open Lib Lib.Collect

/-- The VLAN ids of an inclusive range. -/
def vlanRange (low high : UInt16) : List UInt16 :=
  (List.range' low.toNat (high.toNat + 1 - low.toNat)).map UInt16.ofNat

/-- One `vlan` entry of an MSTI: a VLAN id, or a range "x..y" with all VLANs in it. -/
def vlanEntry (entry : Scalar) : Except String (List UInt16) :=
  match entry.asU64 with
  | some id => (checkVlanId id).map fun id => [id]
  | none =>
    let range := entry.display
    match rangeBounds range with
    | none => .error ("vlan \"" ++ range ++ "\" is neither a VLAN id nor a range x..y")
    | some (low, high) => do
      let low ← checkVlanId low
      let high ← checkVlanId high
      if low ≥ high then .error s!"vlan range {range}: {low} is not below {high}"
      else .ok (vlanRange low high)

structure Timers where
  maxAge : UInt8
  forwardDelay : UInt8
  holdCount : UInt8
  deriving DecidableEq, Repr

def timers (config : Option TimerConfig) (what : String) : Collect String Timers := do
  let c := config.getD {}
  let hello := c.helloTime.getD defaultHelloTime
  rejectIf (hello != defaultHelloTime)
    s!"{what}: hello-time {hello} is not supported, only {defaultHelloTime}"
  let maxAge := c.maxAge.getD defaultMaxAge
  let forwardDelay := c.forwardingDelay.getD defaultForwardDelay
  -- IEEE 802.1D 17.14, in u16 with a saturating subtraction.
  rejectIf (2 * (forwardDelay.toNat - 1) < maxAge.toNat)
    s!"{what}: max-age {maxAge} is greater than 2 * (forwarding-delay {forwardDelay} - 1)"
  pure { maxAge, forwardDelay, holdCount := c.holdCount.getD defaultHoldCount }

def bridgePriority (priority : Option UInt16) (what : String) : Collect String UInt16 :=
  match priority with
  | none => pure defaultBridgePriority
  | some p =>
    if p % 4096 = 0 ∧ p ≤ 61440 then pure p
    else do
      report s!"{what}: bridge-priority {p} is not a multiple of 4096 in 0..61440"
      pure defaultBridgePriority

def treeInterfaces (interfaces : Option TreeInterfaces) : List TreeInterface :=
  (interfaces.map TreeInterfaces.interface).getD []

/-- One `interfaces` entry of a tree, which sets cost and priority of its port. -/
def treePort (what : String) (ports : BTreeMap String TreePort) (i : TreeInterface) :
    Collect String (BTreeMap String TreePort) :=
  match ports[i.name]? with
  | none => do
    report s!"{what}: interface {i.name} is not a configured switch port"
    pure ports
  | some port =>
    let port := { port with cost := i.config.cost }
    match i.config.portPriority with
    | none => pure (ports.insert i.name port)
    | some p =>
      if p % 16 = 0 then pure (ports.insert i.name { port with priority := p })
      else do
        report s!"{what}: interface {i.name}: port-priority {p} is not a multiple of 16"
        pure (ports.insert i.name port)

/-- A spanning tree's bridge priority and ports: every switch port, with the settings
of its `interfaces` entry. -/
def tree (priority : Option UInt16) (interfaces : Option TreeInterfaces)
    (ports : BTreeSet String) (what : String) : Collect String Tree := do
  let bridgePriority ← bridgePriority priority what
  let default := BTreeMap.collect (ports.toList.map fun p => (p, ({} : TreePort)))
  let ports ← (treeInterfaces interfaces).foldlM (treePort what) default
  pure { bridgePriority, ports }

/-- The entries of an MSTI, one after the other; a bad one is reported and skipped. -/
def mstiVlans (what : String) (entries : List Scalar) : Collect String (BTreeSet UInt16) :=
  entries.foldlM (fun (vlans : BTreeSet UInt16) entry =>
    match vlanEntry entry with
    | .ok ids => pure (vlans.insertMany ids)
    | .error e => do
      report s!"{what}: {e}"
      pure vlans) ∅

/-- The MSTIs so far, and the MSTI of each VLAN mapped so far. -/
structure MstiTable where
  mstis : BTreeMap UInt16 Msti := ∅
  mstiOfVlan : BTreeMap UInt16 UInt16 := ∅

def mstInstance (ports : BTreeSet String) (table : MstiTable) (inst : MstInstance) :
    Collect String MstiTable :=
  match inst.config.mstId.or inst.mstId with
  | none => do
    report "mstp: mst-instance without mst-id"
    pure table
  | some id => do
    let what := s!"mstp mst-instance {id}"
    let vlans ← mstiVlans what inst.config.vlan
    let mstiOfVlan ← vlans.toList.foldlM (fun m vlan => insertUnique m vlan id fun other =>
      some s!"{what}: VLAN {vlan} is already mapped to mst-instance {other}") table.mstiOfVlan
    let tree ← tree inst.config.bridgePriority inst.interfaces ports what
    pure { mstis := table.mstis.insert id { vlans, tree }, mstiOfVlan }

/-- The id of an `mst-instance`: the one in its `config`, or its key. -/
def MstInstance.id (inst : MstInstance) : Option UInt16 := inst.config.mstId.or inst.mstId

def MstInstances.listed (instances : Option MstInstances) : List MstInstance :=
  (instances.map MstInstances.mstInstance).getD []

/-- The `mst-instance` entries of `/stp`. -/
def instancesOf (config : StpConfig) : List MstInstance :=
  MstInstances.listed (config.mstp.bind Mstp.mstInstances)

def mstis (instances : Option MstInstances) (ports : BTreeSet String) :
    Collect String (BTreeMap UInt16 Msti) := do
  let table ← (MstInstances.listed instances).foldlM (mstInstance ports) {}
  pure table.mstis

/-- A feature leaf: its value, or the one before and a report. -/
def feature {α : Type} (old : α) (value : Option α) (message : String) : Collect String α :=
  match value with
  | some v => pure v
  | none => do
    report message
    pure old

def edgePort (old : EdgePort) (leaf : Option String) (name : String) : Collect String EdgePort :=
  let value := leaf.map unprefixed
  feature old
    (match value with
    | none => some .auto
    | some "EDGE_AUTO" => some .auto
    | some "EDGE_ENABLE" => some .enable
    | some "EDGE_DISABLE" => some .disable
    | some _ => none)
    s!"interfaces: interface {name}: edge-port {value.getD default} is not supported"

def linkType (old : Option Bool) (leaf : Option String) (name : String) :
    Collect String (Option Bool) :=
  feature old
    (match leaf with
    | none => some none
    | some "P2P" => some (some true)
    | some "SHARED" => some (some false)
    | some _ => none)
    s!"interfaces: interface {name}: link-type {leaf.getD default} is not supported"

def rootGuard (old : Bool) (leaf : Option String) (name : String) : Collect String Bool :=
  feature old
    (match leaf with
    | none => some false
    | some "NONE" => some false
    | some "ROOT" => some true
    | some _ => none)
    s!"interfaces: interface {name}: guard {leaf.getD default} is not supported, only ROOT and NONE"

def portFeature (features : BTreeMap String PortFeatures) (i : FeatureInterface) :
    Collect String (BTreeMap String PortFeatures) :=
  match features[i.name]? with
  | none => do
    report s!"interfaces: interface {i.name} is not a configured switch port"
    pure features
  | some f => do
    let c := i.config
    let edge ← edgePort f.edge c.edgePort i.name
    let pointToPoint ← linkType f.pointToPoint c.linkType i.name
    let rootGuard ← rootGuard f.rootGuard c.guard i.name
    pure (features.insert i.name
      { edge, pointToPoint, rootGuard
        bpduGuard := c.bpduGuard.getD f.bpduGuard
        bpduFilter := c.bpduFilter.getD f.bpduFilter })

/-- Features of every switch port: the global defaults, overridden by
`/stp/interfaces`. -/
def portFeatures (config : StpConfig) (ports : BTreeSet String) :
    Collect String (BTreeMap String PortFeatures) :=
  let global := config.global.map Global.config
  let default : PortFeatures :=
    { bpduGuard := (global.bind GlobalConfig.bpduGuard).getD false
      bpduFilter := (global.bind GlobalConfig.bpduFilter).getD false }
  ((config.interfaces.map FeatureInterfaces.interface).getD []).foldlM portFeature
    (BTreeMap.collect (ports.toList.map fun p => (p, default)))

def enabledProtocol (protocols : BTreeSet StpProtocol) (identity : String) :
    Collect String (BTreeSet StpProtocol) :=
  match unprefixed identity with
  | "STP" => pure (protocols.insert .stp)
  | "RSTP" => pure (protocols.insert .rstp)
  | "MSTP" => pure (protocols.insert .mstp)
  | other => do
    report s!"enabled-protocol {other} is not supported, only RSTP, MSTP and STP"
    pure protocols

def regionRevision (revision : Option UInt32) : Collect String UInt16 :=
  match revision with
  | none => pure 0
  | some r =>
    if r.toNat < 2 ^ 16 then pure r.toUInt16
    else do
      report s!"mstp: revision {r} is out of range 0..65535"
      pure 0

def maxHops (hops : Option UInt8) : Collect String UInt8 :=
  match hops with
  | none => pure defaultMaxHops
  | some h =>
    if 6 ≤ h ∧ h ≤ 40 then pure h
    else do
      report s!"mstp: max-hop {h} is out of range 6..40"
      pure defaultMaxHops

def rstpOnly (config : Option TimerConfig) : Bool :=
  config.any fun c => c.name.isSome || c.revision.isSome || c.maxHop.isSome

/-- The body of `desired_stp`, with its messages. -/
def stpMessages (config : StpConfig) (ports : BTreeSet String) : Collect String (Option Stp) := do
  let protocols ← ((config.global.map fun g => g.config.enabledProtocol).getD []).foldlM
    enabledProtocol ∅
  rejectIf (protocols.size > 1) "enabled-protocol: only one protocol may be enabled"
  let features ← portFeatures config ports
  let rstpConfig := config.rstp.map Rstp.config
  let rstpTimers ← timers rstpConfig "rstp"
  rejectIf (rstpOnly rstpConfig) "rstp: name, revision and max-hop are MSTP settings"
  let rstpTree ← tree (rstpConfig.bind TimerConfig.bridgePriority)
    (config.rstp.bind Rstp.interfaces) ports "rstp"
  let mstpConfig := config.mstp.map Mstp.config
  let mstpTimers ← timers mstpConfig "mstp"
  let revision ← regionRevision (mstpConfig.bind TimerConfig.revision)
  let hops ← maxHops (mstpConfig.bind TimerConfig.maxHop)
  let cist ← tree (mstpConfig.bind TimerConfig.bridgePriority)
    (config.mstp.bind Mstp.interfaces) ports "mstp"
  let mstis ← mstis (config.mstp.bind Mstp.mstInstances) ports
  pure (protocols.toList.head?.map fun protocol =>
    if protocol = .mstp then
      { protocol
        helloTime := defaultHelloTime
        maxAge := mstpTimers.maxAge
        forwardDelay := mstpTimers.forwardDelay
        holdCount := mstpTimers.holdCount
        maxHops := hops
        regionName := mstpConfig.bind TimerConfig.name
        regionRevision := revision
        cist, mstis
        ports := features }
    else
      { protocol
        helloTime := defaultHelloTime
        maxAge := rstpTimers.maxAge
        forwardDelay := rstpTimers.forwardDelay
        holdCount := rstpTimers.holdCount
        maxHops := defaultMaxHops
        regionName := none
        regionRevision := 0
        cist := rstpTree
        mstis := ∅
        ports := features })

/-- Validates `/stp` against the configured switch ports: what should run, `none`
while no protocol is enabled. -/
def desiredStp (config : Option StpConfig) (ports : BTreeSet String) : Collect Error (Option Stp) :=
  (stpMessages (config.getD {}) ports).mapErrors fun message => Error.global s!"stp: {message}"

end ClixonSwitch.Source.SwitchModel
