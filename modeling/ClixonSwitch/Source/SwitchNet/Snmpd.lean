import ClixonSwitch.Lib.Failing
import ClixonSwitch.Source.SwitchModel.Snmp
import ClixonSwitch.Source.SwitchNet.Kernel

/-!
# The SNMP agent and its subagent

`Snmpd` of `crates/switch-net/src/snmp.rs`: snmpd with the configuration that is wanted,
and clixon_snmp with it. The processes, the files and the clock are arbitrary functions
of a world. The command lines name fixed paths and have no part in which process runs;
they are left to the world.
-/
namespace ClixonSwitch.Source.SwitchNet
open Lib Source.SwitchModel

inductive SnmpProgram where
  | snmpd
  | clixonSnmp
  deriving DecidableEq, Repr

def SnmpProgram.name : SnmpProgram → String
  | .snmpd => "snmpd"
  | .clixonSnmp => "clixon_snmp"

/-- The paths of `SnmpConfig` that its messages name. -/
structure SnmpPaths where
  confFile : String
  persistentDir : String
  persistentFile : String
  agentxSocket : String

structure SnmpdEnv (ω : Type) where
  paths : SnmpPaths
  spawn : SnmpProgram → ω → Except String UInt32 × ω
  running : UInt32 → ω → Bool × ω
  stop : UInt32 → ω → ω
  /-- `write_private` of the configuration file. -/
  writeConf : String → ω → Except String Unit × ω
  createPersistentDir : ω → Except String Unit × ω
  readPersistent : ω → Option String × ω
  writePersistent : String → ω → Except String Unit × ω
  removeSocket : ω → ω
  socketExists : ω → Bool × ω
  /-- Whether the deadline of the start has passed. -/
  expired : ω → Bool × ω

inductive SnmpEvent where
  | started (program : SnmpProgram) (pid : UInt32)
  | stopped (program : SnmpProgram) (pid : UInt32)
  | exited (program : SnmpProgram) (pid : UInt32)
  deriving DecidableEq, Repr

structure Snmpd where
  snmpd : Option UInt32 := none
  subagent : Option UInt32 := none
  /-- The configuration snmpd runs with. -/
  conf : Option String := none
  deriving DecidableEq, Repr

def Snmpd.slot (s : Snmpd) : SnmpProgram → Option UInt32
  | .snmpd => s.snmpd
  | .clixonSnmp => s.subagent

def Snmpd.setSlot (s : Snmpd) (program : SnmpProgram) (pid : Option UInt32) : Snmpd :=
  match program with
  | .snmpd => { s with snmpd := pid }
  | .clixonSnmp => { s with subagent := pid }

abbrev SnmpdM (ω α : Type) : Type := Failing NetError (Snmpd × ω) α

namespace Snmpd
variable {ω : Type} (env : SnmpdEnv ω)

section Stop

/-- A process that has exited by itself is forgotten. -/
def forgetExited (program : SnmpProgram) : SnmpdM ω (List SnmpEvent) := fun (s, w) =>
  match s.slot program with
  | none => (.ok [], s, w)
  | some pid =>
    match env.running pid w with
    | (true, w) => (.ok [], s, w)
    | (false, w) => (.ok [.exited program pid], s.setSlot program none, w)

def stopProgram (program : SnmpProgram) : SnmpdM ω (List SnmpEvent) := fun (s, w) =>
  match s.slot program with
  | none => (.ok [], s, w)
  | some pid => (.ok [.stopped program pid], s.setSlot program none, env.stop pid w)

def clearConf : SnmpdM ω Unit := fun (s, w) => (.ok (), { s with conf := none }, w)

/-- The subagent first: it would log snmpd going away. -/
def stop : SnmpdM ω (List SnmpEvent) := do
  let subagent ← stopProgram env .clixonSnmp
  let agent ← stopProgram env .snmpd
  clearConf
  pure (subagent ++ agent)

end Stop

section Start

/-- A call on a file, with what the message says that it was for. -/
def onFile (call : ω → Except String Unit × ω) (what path : String) : SnmpdM ω Unit :=
  fun (s, w) =>
    match call w with
    | (.ok (), w) => (.ok (), s, w)
    | (.error e, w) => (.error ⟨s!"{what} {path}: {e}"⟩, s, w)

def readPersistent : SnmpdM ω (Option String) := fun (s, w) =>
  match env.readPersistent w with
  | (text, w) => (.ok text, s, w)

def removeSocket : SnmpdM ω Unit := fun (s, w) => (.ok (), s, env.removeSocket w)

/-- The files that snmpd finds when it starts. -/
def prepareFiles (conf : String) : SnmpdM ω Unit := do
  onFile (env.writeConf conf) "cannot write" env.paths.confFile
  onFile env.createPersistentDir "cannot create" env.paths.persistentDir
  let text ← readPersistent env
  match text with
  | some text =>
    onFile (env.writePersistent (stripPersistentUsers text)) "cannot write"
      env.paths.persistentFile
  | none => pure ()
  removeSocket env

/-- Starts a program and records it. -/
def launch (program : SnmpProgram) (record : UInt32 → Snmpd → Snmpd) :
    SnmpdM ω UInt32 := fun (s, w) =>
  match env.spawn program w with
  | (.error e, w) => (.error ⟨s!"cannot start {program.name}: {e}"⟩, s, w)
  | (.ok pid, w) => (.ok pid, record pid s, w)

/-- Polls of 20 ms after which the five seconds of START_TIMEOUT are over. -/
def socketPolls : Nat := 250

def exitedAtStart (paths : SnmpPaths) : NetError :=
  ⟨s!"snmpd exited at start: see its log for errors in {paths.confFile}"⟩

def noSocket (paths : SnmpPaths) : NetError :=
  ⟨s!"snmpd did not open its AgentX socket {paths.agentxSocket}"⟩

/-- Polls a started snmpd until its AgentX socket exists, with the number of polls left.
One that exits is forgotten; one that is too slow stays recorded. -/
def waitSocket (pid : UInt32) : Nat → SnmpdM ω Unit
  | polls, (s, w) =>
    match env.socketExists w with
    | (true, w) => (.ok (), s, w)
    | (false, w) =>
      match env.running pid w with
      | (false, w) =>
        (.error (exitedAtStart env.paths), { s with snmpd := none, conf := none }, w)
      | (true, w) =>
        match env.expired w, polls with
        | (false, w), polls + 1 => waitSocket pid polls (s, w)
        | (_, w), _ => (.error (noSocket env.paths), s, w)

def startSnmpd (conf : String) : SnmpdM ω (List SnmpEvent) := do
  prepareFiles env conf
  let pid ← launch env .snmpd fun pid s => { s with snmpd := some pid, conf := some conf }
  waitSocket env pid socketPolls
  pure [.started .snmpd pid]

def startSubagent : SnmpdM ω (List SnmpEvent) := fun (s, w) =>
  match s.subagent with
  | some _ => (.ok [], s, w)
  | none =>
    (do
      let pid ← launch env .clixonSnmp fun pid s => { s with subagent := some pid }
      pure [.started .clixonSnmp pid] : SnmpdM ω (List SnmpEvent)) (s, w)

end Start

/-- snmpd does not run, or runs with another configuration. -/
def Outdated (s : Snmpd) (conf : String) : Prop := s.snmpd = none ∨ s.conf ≠ some conf

instance (s : Snmpd) (conf : String) : Decidable (s.Outdated conf) :=
  inferInstanceAs (Decidable (_ ∨ _))

def restartIf (conf : String) : SnmpdM ω (List SnmpEvent) := fun (s, w) =>
  if s.Outdated conf then
    (do
      let stopped ← stop env
      let started ← startSnmpd env conf
      pure (stopped ++ started) : SnmpdM ω (List SnmpEvent)) (s, w)
  else (.ok [], s, w)

/-- Makes snmpd run with `conf`, and clixon_snmp with it, or neither. -/
def sync (conf : Option String) : SnmpdM ω (List SnmpEvent) := do
  let exited ← forgetExited env .snmpd
  let exited' ← forgetExited env .clixonSnmp
  match conf with
  | none =>
    let stopped ← stop env
    pure (exited ++ exited' ++ stopped)
  | some conf =>
    let restarted ← restartIf env conf
    let subagent ← startSubagent env
    pure (exited ++ exited' ++ restarted ++ subagent)

end Snmpd

end ClixonSwitch.Source.SwitchNet
