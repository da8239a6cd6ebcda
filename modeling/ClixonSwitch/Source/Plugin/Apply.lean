import ClixonSwitch.Lib.Failing
import ClixonSwitch.Source.SwitchModel.Snmp
import ClixonSwitch.Source.SwitchNet.Dhcp
import ClixonSwitch.Source.SwitchNet.Mstpd
import ClixonSwitch.Source.SwitchNet.Reconcile

/-!
# Applying a desired state

`SwitchPlugin::apply` of `crates/clixon-switch-plugin/src/lib.rs`. The kernel, the
processes and everything else outside the plugin act on one world, so a platform
stands for every behaviour of all of them together. What the plugin logs is left out.
-/
namespace ClixonSwitch.Source.Plugin
open Lib Source.SwitchModel Source.SwitchNet

structure Platform (ω : Type) where
  net : NetBackend ω
  mstpd : MstpdEnv ω
  dhcp : DhcpEnv ω
  /-- `interface_states`, of which only the MAC address is read. -/
  interfaceMacs : ω → Except NetError (BTreeMap String (Option String)) × ω
  /-- /proc/sys/kernel/hostname, trimmed. -/
  hostname : ω → Option String × ω
  /-- Name and version of the operating system. -/
  system : ω → (Option String × Option String) × ω
  /-- `Snmpd::sync`. -/
  snmp : Option String → ω → Except NetError Unit × ω
  agentxSocket : String

structure SwitchPlugin where
  mstpd : Mstpd := {}
  dhcp : DhcpClients := {}
  /-- The engine ID snmpd runs with. -/
  engineId : Option (List UInt8) := none
  /-- The configuration last applied, for state data. -/
  applied : DesiredState := {}

abbrev PluginM (ω α : Type) : Type := Failing NetError (SwitchPlugin × ω) α

variable {ω : Type} (platform : Platform ω)

def stopUnwanted (wanted : Option String) : PluginM ω (List DhcpEvent) := fun (p, w) =>
  match p.dhcp.stopUnwanted platform.dhcp wanted w with
  | (events, dhcp, w) => (.ok events, { p with dhcp }, w)

def prepareMstpd (wanted : Bool) : PluginM ω (List StpEvent) := fun (p, w) =>
  match p.mstpd.prepare platform.mstpd wanted w with
  | (result, mstpd, w) => (result, { p with mstpd }, w)

def reconcileNet (desired : DesiredState) : PluginM ω (List Op) := fun (p, w) =>
  match reconcile platform.net desired w with
  | (result, w) => (result, p, w)

/-- The MAC address of the bridge, if `interface_states` has it. -/
def readBridgeMac : PluginM ω (Option String) := fun (p, w) =>
  match platform.interfaceMacs w with
  | (.error e, w) => (.error e, p, w)
  | (.ok macs, w) => (.ok (macs[bridgeName]?.bind id), p, w)

def configureMstpd (stp : Option Stp) (bridgeMac : String) (resend : Bool) : PluginM ω Unit :=
  fun (p, w) =>
    match p.mstpd.configure platform.mstpd stp bridgeMac resend w with
    | (result, mstpd, w) => (result, { p with mstpd }, w)

def syncDhcp (wanted : Option String) (relinked : Bool) : PluginM ω (List DhcpEvent) :=
  fun (p, w) =>
    match platform.hostname w with
    | (hostname, w) =>
      match p.dhcp.sync platform.dhcp wanted relinked hostname w with
      | (.error e, dhcp, w) =>
        (.error ⟨"cannot start the DHCP client: " ++ e⟩, { p with dhcp }, w)
      | (.ok events, dhcp, w) => (.ok events, { p with dhcp }, w)

/-- Whether mstpd has lost settings: of a bridge that is new, or of ports that join. -/
def needsResend (ops : List Op) : Bool :=
  ops.any fun op =>
    match op with
    | .createBridge _ => true
    | .setMaster _ (some _) => true
    | _ => false

/-- Whether the link that the DHCP client is bound to was created anew. -/
def isRelinked (ops : List Op) (wanted : Option String) : Bool :=
  ops.any fun op =>
    match op with
    | .createVlan name _ _ => wanted == some name
    | _ => false

def noEngineMac : NetError :=
  ⟨s!"snmp: {bridgeName} has no MAC address for the engine ID; configure engine-id"⟩

def setEngineId (id : Option (List UInt8)) : PluginM ω Unit := fun (p, w) =>
  (.ok (), { p with engineId := id }, w)

/-- The engine ID to run with: the configured one, or the default for the bridge's MAC
address. -/
def engineIdInUse (snmp : Snmp) : PluginM ω (List UInt8) :=
  match snmp.engineId with
  | some id => pure id
  | none => do
    let mac ← readBridgeMac platform
    match mac.bind parseMac with
    | some mac => pure (defaultEngineId mac)
    | none => fun s => (.error noEngineMac, s)

def systemDescription : Option String × Option String → Option String
  | (some name, some version) => some s!"{name} {version}"
  | (some name, none) => some name
  | (none, _) => none

def readSystem : PluginM ω (Option String × Option String) := fun (p, w) =>
  match platform.system w with
  | (system, w) => (.ok system, p, w)

def runSnmpd (conf : Option String) : PluginM ω Unit := fun (p, w) =>
  match platform.snmp conf w with
  | (.ok (), w) => (.ok (), p, w)
  | (.error e, w) => (.error e, { p with engineId := none }, w)

/-- Runs snmpd with the configuration of `desired`, or stops it. -/
def syncSnmp (desired : DesiredState) : PluginM ω Unit := do
  match desired.snmp with
  | none =>
    setEngineId none
    runSnmpd platform none
  | some snmp =>
    let engineId ← engineIdInUse platform snmp
    let system ← readSystem platform
    setEngineId (some engineId)
    runSnmpd platform (some (snmpdConf snmp
      { engineId
        agentxSocket := platform.agentxSocket
        system := desired.system
        description := systemDescription system }))

def setApplied (desired : DesiredState) : PluginM ω Unit := fun (p, w) =>
  (.ok (), { p with applied := desired }, w)

/-- The MAC address of the bridge is only read for spanning tree. -/
def macForStp (stp : Bool) : PluginM ω (Option String) :=
  if stp then readBridgeMac platform else pure none

/-- Everything before mstpd is configured: the operations applied to the kernel and the
MAC address of the bridge. -/
def applyKernel (desired : DesiredState) : PluginM ω (List Op × String) := do
  let _ ← stopUnwanted platform desired.dhcpSvi
  let _ ← prepareMstpd platform desired.stp.isSome
  let ops ← reconcileNet platform desired
  let mac ← macForStp platform desired.stp.isSome
  pure (ops, mac.getD "")

def configureStp (stp : Option Stp) (bridgeMac : String) (ops : List Op) : PluginM ω Unit :=
  if stp.isSome then configureMstpd platform stp bridgeMac (needsResend ops) else pure ()

/-- With spanning tree, mstpd is configured and its process stays the same. -/
theorem configureStp_run {stp : Option Stp} (h : stp.isSome = true) (mac : String) (ops : List Op)
    (p : SwitchPlugin) (w : ω) :
    ∃ result m w', p.mstpd.configure platform.mstpd stp mac (needsResend ops) w = (result, m, w') ∧
      configureStp platform stp mac ops (p, w) = (result, { p with mstpd := m }, w') ∧
      m.pid = p.mstpd.pid := by
  have hpid := Mstpd.configure_pid platform.mstpd (m := p.mstpd) (w := w) stp mac (needsResend ops)
  cases hconf : p.mstpd.configure platform.mstpd stp mac (needsResend ops) w with
  | mk result rest =>
    rw [hconf] at hpid
    refine ⟨result, rest.1, rest.2, rfl, ?_, hpid⟩
    simp only [configureStp, h, if_true, configureMstpd, hconf]

/-- Everything before the DHCP client is synchronised. -/
def applyStp (desired : DesiredState) : PluginM ω (List Op) := do
  let (ops, mac) ← applyKernel platform desired
  let _ ← configureStp platform desired.stp mac ops
  pure ops

def apply (desired : DesiredState) : PluginM ω Unit := do
  let ops ← applyStp platform desired
  let _ ← syncDhcp platform desired.dhcpSvi (isRelinked ops desired.dhcpSvi)
  syncSnmp platform desired
  setApplied desired

end ClixonSwitch.Source.Plugin
