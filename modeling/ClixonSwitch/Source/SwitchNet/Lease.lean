import ClixonSwitch.Lib.Fields
import ClixonSwitch.Lib.Lines
import ClixonSwitch.Source.SwitchModel.StateXml
import ClixonSwitch.Source.SwitchNet.Dhcp

/-!
# Leases

udhcpc calls `scripts/udhcpc-script.sh` on every lease event. The script sets the address
with a lifetime, the default route and resolv.conf, and records the lease in a file that
`parse_lease` of `crates/switch-net/src/dhcp.rs` reads for state data. It learns from the
text of `ip addr show` whether an address is its own. The `ip` command is an arbitrary
function of a world.
-/
namespace ClixonSwitch.Source.SwitchNet
open Lib Source.SwitchModel

section File

/-- The `key=value` lines of a lease file; the last one of a key counts. -/
def leaseValues (text : String) : BTreeMap String String :=
  BTreeMap.collect ((textLines text.toList).filterMap fun line =>
    (Fields.entry '=' line).map fun e => (String.ofList e.1, String.ofList e.2))

def leaseAddrs (values : BTreeMap String String) (key : String) : List Ipv4Addr :=
  match values[key]? with
  | some text => (Fields.fields Text.isWhitespace text.toList).filterMap fun addr =>
      parseIpv4Addr (String.ofList addr)
  | none => []

/-- Unknown keys and bad values are skipped. -/
def parseLease (text : String) : DhcpLease :=
  let values := leaseValues text
  let ip := values["ip"]?.bind parseIpv4Addr
  let mask := (values["mask"]?.bind fun v => Text.parseUnsigned 10 256 v.toList).filter (· ≤ 32)
  { address := ip.bind fun addr => mask.map fun len => ⟨addr, UInt8.ofNat len⟩
    routers := leaseAddrs values "router"
    dnsServers := leaseAddrs values "dns"
    domain := values["domain"]?.filter (!·.isEmpty)
    server := values["serverid"]?.bind parseIpv4Addr
    leaseTime := (values["lease"]?.bind fun v => Text.parseUnsigned 10 (2 ^ 32) v.toList).map
      UInt32.ofNat
    remainingTime := none }

end File

/-- The lease as udhcpc passes it in the environment. -/
structure LeaseEnv where
  ip : String
  mask : String
  router : String
  dns : String
  domain : String
  serverid : String
  lease : String
  broadcast : String
  deriving DecidableEq, Repr

inductive LeaseEvent where
  | deconfig
  | bound (env : LeaseEnv)
  | renew (env : LeaseEnv)
  | leasefail
  | nak
  deriving DecidableEq, Repr

/-- The `ip` command. -/
structure IpCommand (ω : Type) where
  /-- The lines of `ip -o -4 addr show dev`, as `read` gives them. -/
  addrShow : String → ω → List String
  /-- `ip -4 addr replace`: interface, address, lifetime and broadcast address if any. -/
  addrReplace : String → String → String → String → ω → ω
  /-- `ip -4 addr del`: interface and address. -/
  addrDel : String → String → ω → ω
  /-- `ip -4 route replace default`: interface and gateway. -/
  routeReplace : String → String → ω → ω
  /-- `ip -4 route del default`, and whether it succeeds. -/
  routeDel : String → ω → Bool × ω

/-- What the script changes: the world of `ip`, and two files. -/
structure Host (ω : Type) where
  world : ω
  resolvConf : String := ""
  leaseFile : Option String := none

/-- The shell's word splitting. -/
def isIfs (c : Char) : Bool := c == ' ' || c == '\t' || c == '\n'

def shellWords (text : String) : List String :=
  (Fields.fields isIfs text.toList).map String.ofList

/-- The output of a command that prints these lines, as the shell substitutes it. -/
def captured (ls : List String) : String :=
  String.ofList ((String.intercalate "\n" ls).toList.reverse.dropWhile (· == '\n')).reverse

section Script
variable {ω : Type} (ip : IpCommand ω) (interface : String)

inductive AddressKind where
  | dynamic | permanent
  deriving DecidableEq, Repr

/-- `address_kind`: a word for each line that shows the address. -/
def addressKind (address : String) (w : ω) : List AddressKind :=
  (ip.addrShow interface w).filterMap fun line =>
    (Text.splitOnce (" inet " ++ address ++ " ").toList line.toList).map fun parts =>
      if Fields.occurs "dynamic".toList parts.2 then .dynamic else .permanent

def deleteDynamic (address : String) (w : ω) : ω :=
  if addressKind ip interface address w = [.dynamic] then ip.addrDel interface address w else w

def sedLine (key line : String) : Option String :=
  if (key ++ "=").toList.isPrefixOf line.toList
  then some (String.ofList (line.toList.drop (key ++ "=").length)) else none

/-- `sed -n 's/^key=//p'`. -/
def sedValue (key text : String) : String := captured ((Lines.lines text).filterMap (sedLine key))

/-- `recorded_address`: the address of the recorded lease. -/
def recordedAddress (leaseFile : Option String) : Option String :=
  leaseFile.bind fun text =>
    if (sedValue "ip" text).isEmpty then none
    else some (sedValue "ip" text ++ "/" ++ sedValue "mask" text)

def resolvText (env : LeaseEnv) : String :=
  (if env.domain.isEmpty then "" else s!"search {env.domain}\n") ++
    String.join ((shellWords env.dns).map fun server => s!"nameserver {server}\n")

def leaseText (env : LeaseEnv) : String :=
  Lines.unlines [s!"ip={env.ip}", s!"mask={env.mask}", s!"router={env.router}", s!"dns={env.dns}",
    s!"domain={env.domain}", s!"serverid={env.serverid}", s!"lease={env.lease}"]

/-- `while ip -4 route del default`, with the number of rounds that are left. -/
def deleteRoutes : Nat → ω → ω
  | 0, w => w
  | rounds + 1, w =>
    match ip.routeDel interface w with
    | (true, w) => deleteRoutes rounds w
    | (false, w) => w

def deleteRecorded (old : Option String) (w : ω) : ω :=
  match old with
  | some old => deleteDynamic ip interface old w
  | none => w

def deconfig (rounds : Nat) (h : Host ω) : Host ω where
  world := deleteRoutes ip interface rounds
    (deleteRecorded ip interface (recordedAddress h.leaseFile) h.world)

/-- Static addresses are left alone. -/
def setAddress (new lease broadcast : String) (w : ω) : ω :=
  if addressKind ip interface new w = [.permanent] then w
  else ip.addrReplace interface new lease broadcast w

def deleteOld (old : Option String) (new : String) (w : ω) : ω :=
  match old with
  | some old => if old = new then w else deleteDynamic ip interface old w
  | none => w

/-- The first router is the default gateway. -/
def setGateway (rounds : Nat) (routers : List String) (w : ω) : ω :=
  match routers with
  | gateway :: _ => ip.routeReplace interface gateway w
  | [] => deleteRoutes ip interface rounds w

/-- The branch of `bound` and `renew`. -/
def takeLease (rounds : Nat) (env : LeaseEnv) (h : Host ω) : Host ω :=
  let new := env.ip ++ "/" ++ env.mask
  let addressed := deleteOld ip interface (recordedAddress h.leaseFile) new
    (setAddress ip interface new env.lease env.broadcast h.world)
  { world := setGateway ip interface rounds (shellWords env.router) addressed
    resolvConf := resolvText env
    leaseFile := some (leaseText env) }

/-- `scripts/udhcpc-script.sh`. -/
def udhcpcScript (rounds : Nat) (event : LeaseEvent) (h : Host ω) : Host ω :=
  match event with
  | .deconfig => deconfig ip interface rounds h
  | .bound env | .renew env => takeLease ip interface rounds env h
  | .leasefail | .nak => h

end Script

/-- `DhcpClients::lease`: the lease of the running client, as recorded by the script. -/
def DhcpClients.lease (clients : DhcpClients) (leaseFile : String → Option String) :
    Option (String × DhcpLease) :=
  clients.client.bind fun client =>
    (leaseFile client.1).map fun text => (client.1, parseLease text)

end ClixonSwitch.Source.SwitchNet
