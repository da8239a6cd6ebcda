import ClixonSwitch.Source.SwitchNet.Kernel

/-!
# The DHCP client

`DhcpClients` of `crates/switch-net/src/dhcp.rs`: one udhcpc for the SVI that wants
it. The processes are arbitrary functions of a world. The command line and the files
of the client have no part in which client runs, and are left to the world too.
-/
namespace ClixonSwitch.Source.SwitchNet
open Lib Source.SwitchModel

structure DhcpEnv (ω : Type) where
  /-- Starts udhcpc for an interface, with the host name to send. -/
  spawn : String → Option String → ω → Except String UInt32 × ω
  running : UInt32 → ω → Bool × ω
  /-- Stops a process and removes the lease file of its interface. -/
  stop : String → UInt32 → ω → ω

inductive DhcpEvent where
  | started (interface : String) (pid : UInt32)
  | stopped (interface : String) (pid : UInt32)
  | exited (interface : String) (pid : UInt32)
  deriving DecidableEq, Repr

/-- The running client: interface and pid. -/
structure DhcpClients where
  client : Option (String × UInt32) := none
  deriving DecidableEq, Repr

variable {ω : Type} (env : DhcpEnv ω)

/-- Stops the client unless it runs on `wanted` and is still alive. -/
def DhcpClients.stopUnwanted (c : DhcpClients) (wanted : Option String) (w : ω) :
    List DhcpEvent × DhcpClients × ω :=
  match c.client with
  | none => ([], c, w)
  | some (interface, pid) =>
    match env.running pid w with
    | (false, w) => ([.exited interface pid], {}, w)
    | (true, w) =>
      if wanted = some interface then ([], c, w)
      else ([.stopped interface pid], {}, env.stop interface pid w)

/-- A client whose link was created anew is bound to one that no longer exists. -/
def DhcpClients.stopRelinked (c : DhcpClients) (relinked : Bool) (w : ω) :
    List DhcpEvent × DhcpClients × ω :=
  match relinked, c.client with
  | true, some (interface, pid) => ([.stopped interface pid], {}, env.stop interface pid w)
  | _, _ => ([], c, w)

/-- Starts the client on `wanted` unless one runs. -/
def DhcpClients.start (c : DhcpClients) (wanted hostname : Option String) (w : ω) :
    Except String (List DhcpEvent) × DhcpClients × ω :=
  match wanted, c.client with
  | some interface, none =>
    match env.spawn interface hostname w with
    | (.error e, w) => (.error e, c, w)
    | (.ok pid, w) => (.ok [.started interface pid], ⟨some (interface, pid)⟩, w)
  | _, _ => (.ok [], c, w)

/-- Makes the client run on `wanted`, or on no interface. -/
def DhcpClients.sync (c : DhcpClients) (wanted : Option String) (relinked : Bool)
    (hostname : Option String) (w : ω) : Except String (List DhcpEvent) × DhcpClients × ω :=
  match c.stopUnwanted env wanted w with
  | (unwanted, c, w) =>
    match c.stopRelinked env relinked w with
    | (stale, c, w) =>
      match c.start env wanted hostname w with
      | (.error e, c, w) => (.error e, c, w)
      | (.ok started, c, w) => (.ok (unwanted ++ stale ++ started), c, w)

end ClixonSwitch.Source.SwitchNet
