import ClixonSwitch.Source.Plugin.Apply
import ClixonSwitch.Source.SwitchModel.Deserialize
import ClixonSwitch.Source.SwitchNet.Snmpd

/-!
# The callbacks of a transaction

`desired`, `start`, `trans_validate`, `trans_commit` and `trans_revert` of
`crates/clixon-switch-plugin/src/lib.rs`, with what they read of the datastore trees
(`tree_json` of `crates/clixon-plugin/src/lib.rs`). clixon_backend is single-threaded, so a
history of the plugin is one callback after the other, whether or not they succeed, with
the world moving on in between.
-/
namespace ClixonSwitch.Source.Plugin
open Lib Source.SwitchModel Source.SwitchNet

/-- The text of a datastore tree as serde reads it; an empty text is the empty object. -/
inductive ConfigText where
  | malformed (message : String)
  | json (value : Json)

/-- What `tree_json` returns of a tree. -/
abbrev ConfigTree : Type := Except String ConfigText

/-- A commit in progress: the datastore tree before and after. -/
structure Transaction where
  source : ConfigTree
  target : ConfigTree

/-- `Display` of one problem. -/
def displayError (e : Error) : String :=
  if e.interface.isEmpty then e.message else s!"interface {e.interface}: {e.message}"

/-- `Display` of all problems of a configuration. -/
def displayErrors (errors : List Error) : String := "; ".intercalate (errors.map displayError)

/-- `validate` from the text on. -/
def validateText (text : ConfigText) (switchPorts : BTreeSet String) :
    Except (List Error) DesiredState :=
  match text with
  | .malformed e => .error [Error.global s!"cannot parse the configuration: {e}"]
  | .json value => validate value switchPorts

variable {ω : Type} (platform : Platform ω)

def observeNet : PluginM ω ActualState := fun (p, w) =>
  match platform.net.observe w with
  | (result, w) => (result, p, w)

def treeJson (tree : ConfigTree) : PluginM ω ConfigText := fun s =>
  match tree with
  | .ok text => (.ok text, s)
  | .error e => (.error ⟨e⟩, s)

/-- The state that a configuration asks for, on the ports that the switch has now. -/
def desired (text : ConfigText) : PluginM ω DesiredState := do
  let actual ← observeNet platform
  match validateText text actual.switchPorts with
  | .ok d => pure d
  | .error errors => fun s => (.error ⟨displayErrors errors⟩, s)

def transValidate (tx : Transaction) : PluginM ω Unit := do
  let json ← treeJson tx.target
  let _ ← desired platform json
  pure ()

/-- What a commit does with the target tree and a revert with the source tree. -/
def applyTree (tree : ConfigTree) : PluginM ω Unit := do
  let json ← treeJson tree
  let d ← desired platform json
  apply platform d

def transCommit (tx : Transaction) : PluginM ω Unit := applyTree platform tx.target

def transRevert (tx : Transaction) : PluginM ω Unit := applyTree platform tx.source

/-- The loop of `start` over the platform operations. -/
def applyPlatformOps : List Op → PluginM ω Unit
  | [], s => (.ok (), s)
  | op :: ops, (p, w) =>
    match platform.net.apply op w with
    | (.ok (), w) => applyPlatformOps ops (p, w)
    | (.error e, w) => (.error e, p, w)

/-- Loopback and the DSA conduits come up before any commit, and the processes of an earlier
backend are stopped. -/
def start (stopOrphans : ω → ω) : PluginM ω Unit := do
  let actual ← observeNet platform
  applyPlatformOps platform actual.platformOps
  fun (p, w) => (.ok (), p, stopOrphans w)

/-- One thing that happens to the plugin. Requests for state data and RPCs change the world
but not the plugin, as does everything that happens between two callbacks. -/
inductive Callback (ω : Type) where
  | start (stopOrphans : ω → ω)
  | validate (tx : Transaction)
  | commit (tx : Transaction)
  | revert (tx : Transaction)
  | elapse (change : ω → ω)

def Callback.run (c : Callback ω) : PluginM ω Unit :=
  match c with
  | .start stopOrphans => Plugin.start platform stopOrphans
  | .validate tx => transValidate platform tx
  | .commit tx => transCommit platform tx
  | .revert tx => transRevert platform tx
  | .elapse change => fun (p, w) => (.ok (), p, change w)

/-- One callback after the other, whether or not they succeed. -/
def runCallbacks (history : List (Callback ω)) (s : SwitchPlugin × ω) : SwitchPlugin × ω :=
  history.foldl (fun s c => (c.run platform s).2) s

section Snmpd

/-- A call that has no part in the agent. -/
def beside {α : Type} (f : ω → α × ω) : Snmpd × ω → α × Snmpd × ω := fun (s, w) =>
  match f w with
  | (a, w) => (a, s, w)

/-- The platform with the agent as `Snmpd` supervises it. -/
def Platform.withSnmpd (platform : Platform ω) (env : SnmpdEnv ω) : Platform (Snmpd × ω) where
  net :=
    { observe := beside platform.net.observe
      apply := fun op => beside (platform.net.apply op) }
  mstpd :=
    { spawn := beside platform.mstpd.spawn
      running := fun pid => beside (platform.mstpd.running pid)
      stop := fun pid (s, w) => (s, platform.mstpd.stop pid w)
      run := fun c => beside (platform.mstpd.run c)
      expired := beside platform.mstpd.expired }
  dhcp :=
    { spawn := fun interface hostname => beside (platform.dhcp.spawn interface hostname)
      running := fun pid => beside (platform.dhcp.running pid)
      stop := fun interface pid (s, w) => (s, platform.dhcp.stop interface pid w) }
  interfaceMacs := beside platform.interfaceMacs
  hostname := beside platform.hostname
  system := beside platform.system
  snmp := fun conf s =>
    match Snmpd.sync env conf s with
    | (.ok _, s) => (.ok (), s)
    | (.error e, s) => (.error e, s)
  agentxSocket := env.paths.agentxSocket

end Snmpd

end ClixonSwitch.Source.Plugin
