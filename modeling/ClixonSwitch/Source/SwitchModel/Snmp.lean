import ClixonSwitch.Lib.Collect
import ClixonSwitch.Source.SwitchModel.Config
import ClixonSwitch.Source.SwitchModel.DesiredState

/-!
# Validation of `/snmp` and snmpd's configuration

`desired_snmp` and `snmpd_conf` of `crates/switch-model/src/snmp.rs`. Messages are
collected without the `snmp: ` that `desired_snmp` puts before each of them.
-/
namespace ClixonSwitch.Source.SwitchModel
open Lib Lib.Collect

def snmpPort : UInt16 := 161

/-- Octets of a localized HMAC-SHA-96 key. -/
def shaKeyLen : Nat := 20

def aesKeyLen : Nat := 16

section Texts

/-- `str::parse::<Ipv4Addr>`. -/
def parseIpv4Addr (text : String) : Option Ipv4Addr :=
  (Text.parseIpv4 text.toList).map fun octets =>
    ⟨UInt32.ofNat (octets.foldl (fun n o => n * 256 + o) 0)⟩

def hexPairs : List Char → Option (List UInt8)
  | [] => some []
  | [_] => none
  | a :: b :: rest =>
    (Text.parseUnsigned 16 256 [a, b]).bind fun o => (hexPairs rest).map (UInt8.ofNat o :: ·)

/-- Octets of "aa:bb:cc", or "aabbcc". The source slices bytes; a slice with a
character outside ASCII never parses, so pairs of characters give the same. -/
def hexOctets (text : String) : Option (List UInt8) :=
  let digits := text.toList.filter (· != ':')
  if digits.isEmpty then none else hexPairs digits

def stripDot : List Char → List Char
  | '.' :: rest => rest
  | text => text

/-- "1.3.6.1", also with a leading dot. -/
def numericOid (text : String) : Option String :=
  let oid := stripDot text.toList
  if !oid.isEmpty && (oid.splitOn '.').all fun part =>
      !part.isEmpty && (Text.parseUnsigned 10 (2 ^ 32) part).isSome
  then some (String.ofList oid) else none

def nameChar (c : Char) : Bool :=
  Text.isAsciiAlphanumeric c || c == '-' || c == '_' || c == '.'

/-- snmpd's configuration file takes names as words. -/
def validName (name : String) : Bool := !name.isEmpty && name.toList.all nameChar

def checkName (what name : String) : Collect String Bool := do
  rejectIf (!validName name)
    (what ++ " name \"" ++ name ++
      "\" is not supported: only letters, digits, '-', '_' and '.'")
  pure (validName name)

/-- One line of text, as snmpd.conf takes it. -/
def checkLine (what value : String) : Collect Error Unit :=
  rejectIf (value.toList.any Text.isControl)
    (Error.global s!"{what} must be one line without control characters")

end Texts

section Validation

def engineListen (listen : BTreeSet Listener) (l : Listen) : Collect String (BTreeSet Listener) :=
  match l.udp with
  | none => do
    report s!"engine listen {l.name}: udp is required"
    pure listen
  | some udp =>
    match parseIpv4Addr udp.ip with
    | some ip => pure (listen.insert ⟨ip, udp.port.getD snmpPort⟩)
    | none => do
      report s!"engine listen {l.name}: {udp.ip} is not an IPv4 address"
      pure listen

def engineId (id : Option String) : Collect String (Option (List UInt8)) :=
  match id with
  | none => pure none
  | some id =>
    match (hexOctets id).filter fun octets => 5 ≤ octets.length ∧ octets.length ≤ 32 with
    | some octets => pure (some octets)
    | none => do
      report s!"engine: engine-id {id} is not 5 to 32 colon-separated hex octets"
      pure none

def engineConfig (engine : Engine) (enabled : Bool) : Collect String Snmp := do
  rejectIf (enabled && !engine.version.any fun v => v.contains "v3")
    "engine: version v3 is required"
  let listen ← engine.listen.foldlM engineListen ∅
  rejectIf (enabled && listen.isEmpty)
    "engine: a listen entry is required while the engine is enabled"
  let engineId ← engineId engine.engineId
  pure { engineId, listen }

/-- A localized key of one of the given lengths; an absent one is no problem here. -/
def usmKey (name : String) (key : Option Key) (lens : List Nat) (what : String) :
    Collect String (Option (List UInt8)) :=
  match key with
  | none => pure none
  | some key =>
    match (hexOctets key.key).filter fun octets => lens.contains octets.length with
    | some octets => pure (some octets)
    | none => do
      report (s!"usm user {name}: the localized {what} key must be " ++
        String.intercalate " or " (lens.map toString) ++ " colon-separated hex octets")
      pure none

/-- The privacy key, and whether privacy is as it should be. -/
def usmPrivacy (name : String) (privacy : Option Privacy) :
    Collect String (Bool × Option (List UInt8)) :=
  match privacy with
  | none => pure (true, none)
  | some p =>
    match p.aes with
    | none => do
      report s!"usm user {name}: priv requires aes"
      pure (false, none)
    | some aes => do
      let key ← usmKey name (some aes) [aesKeyLen, shaKeyLen] "aes"
      pure (key.isSome, key)

def usmUser (user : User) : Collect String (Option UsmUser) := do
  let named ← checkName "usm user" user.name
  let sha := user.auth.bind Auth.sha
  let auth ← usmKey user.name sha [shaKeyLen] "sha"
  match auth with
  | none => do
    rejectIf sha.isNone s!"usm user {user.name}: auth sha is required"
    pure none
  | some authKey => do
    let (ok, privKey) ← usmPrivacy user.name user.privacy
    pure (if named && ok then some { authKey, privKey } else none)

/-- The OIDs that are numeric; the others are reported. -/
def viewOids (view : String) (entries : List String) : Collect String (List String) :=
  entries.foldlM (fun oids oid =>
    match numericOid oid with
    | some oid => pure (oids ++ [oid])
    | none => do
      report s!"vacm view {view}: {oid} is not a numeric OID (no names or wildcards)"
      pure oids) []

def vacmView (view : VacmView) : Collect String (Option SnmpView) := do
  let named ← checkName "vacm view" view.name
  let included ← viewOids view.name view.included
  let excluded ← viewOids view.name view.excluded
  let numeric := (view.included ++ view.excluded).all fun oid => (numericOid oid).isSome
  pure (if named && numeric then some { included, excluded } else none)

def groupMember (name : String) (snmp : Snmp) (group : Bool × SnmpGroup) (member : Member) :
    Collect String (Bool × SnmpGroup) := do
  let user := member.securityName
  let foreign := member.securityModel.any (· != "usm")
  let unknown := !snmp.users.contains user
  rejectIf foreign s!"vacm group {name} member {user}: only security-model usm is supported"
  rejectIf unknown s!"vacm group {name}: member {user} is not a usm local user"
  pure (group.1 && !foreign && !unknown,
    { group.2 with members := group.2.members.insert user })

def securityLevel : Option String → Option SecurityLevel
  | some "auth-no-priv" => some .authNoPriv
  | some "auth-priv" => some .authPriv
  | _ => none

/-- The members that cannot use auth-priv. -/
def withoutPrivacy (snmp : Snmp) (members : BTreeSet String) : List String :=
  members.toList.filter fun user => snmp.users[user]?.any fun u => u.privKey.isNone

def groupAccess (name : String) (snmp : Snmp) (group : Bool × SnmpGroup) (access : Access) :
    Collect String (Bool × SnmpGroup) := do
  let otherModel := access.securityModel != some "usm" && access.securityModel != some "any"
  rejectIf otherModel (s!"vacm group {name} access: security-model " ++
    access.securityModel.getD "" ++ " is not supported, only usm")
  match securityLevel access.securityLevel with
  | none => do
    report (s!"vacm group {name} access: security-level " ++ access.securityLevel.getD "" ++
      " is not supported, only auth-no-priv and auth-priv")
    pure (false, group.2)
  | some level => do
    let noView := access.readView.any fun view => !snmp.views.contains view
    rejectIf noView
      (s!"vacm group {name} access: read-view " ++ access.readView.getD "" ++ " does not exist")
    let weak := if level = .authPriv then withoutPrivacy snmp group.2.members else []
    reportAll (weak.map fun user => s!"vacm group {name} access: security-level auth-priv, but " ++
      s!"member {user} has no priv key")
    pure (group.1 && !otherModel && !noView && weak.isEmpty,
      { group.2 with access := group.2.access ++ [{ level, readView := access.readView }] })

def vacmGroup (group : VacmGroup) (snmp : Snmp) : Collect String (Option SnmpGroup) := do
  let named ← checkName "vacm group" group.name
  let out ← group.member.foldlM (groupMember group.name snmp) (named, {})
  let out ← group.access.foldlM (groupAccess group.name snmp) out
  pure (if out.1 then some out.2 else none)

def addUser (snmp : Snmp) (user : User) : Collect String Snmp := do
  match ← usmUser user with
  | some u => pure { snmp with users := snmp.users.insert user.name u }
  | none => pure snmp

def addView (snmp : Snmp) (view : VacmView) : Collect String Snmp := do
  match ← vacmView view with
  | some v => pure { snmp with views := snmp.views.insert view.name v }
  | none => pure snmp

def addGroup (snmp : Snmp) (group : VacmGroup) : Collect String Snmp := do
  match ← vacmGroup group snmp with
  | some g => pure { snmp with groups := snmp.groups.insert group.name g }
  | none => pure snmp

def usmUsers (config : SnmpConfig) : List User :=
  ((config.usm.bind Usm.localUsers).map UsmLocal.user).getD []

/-- The body of `desired_snmp`, with its messages. -/
def snmpMessages (config : SnmpConfig) : Collect String (Option Snmp) := do
  let enabled := (config.engine.bind Engine.enabled).getD false
  let snmp ← match config.engine with
    | some engine => engineConfig engine enabled
    | none => pure {}
  let snmp ← (usmUsers config).foldlM addUser snmp
  let snmp ← ((config.vacm.map Vacm.view).getD []).foldlM addView snmp
  let snmp ← ((config.vacm.map Vacm.group).getD []).foldlM addGroup snmp
  rejectIf (enabled && snmp.users.isEmpty)
    "usm: a local user is required while the engine is enabled"
  rejectIf (enabled && snmp.groups.toList.all fun g => g.2.access.isEmpty)
    "vacm: a group with access is required while the engine is enabled"
  pure (if enabled then some snmp else none)

/-- Validates `/snmp`: the agent to run, `none` while the engine is disabled. -/
def desiredSnmp (config : Option SnmpConfig) : Collect Error (Option Snmp) :=
  match config with
  | none => pure none
  | some config => (snmpMessages config).mapErrors fun message => Error.global s!"snmp: {message}"

end Validation

section Writer

def hexDigit (n : Nat) : Char := "0123456789abcdef".toList.getD n '0'

def hexOctet (o : UInt8) : List Char := [hexDigit (o.toNat / 16), hexDigit (o.toNat % 16)]

def hex (octets : List UInt8) : String := String.ofList (octets.flatMap hexOctet)

def colonHex (octets : List UInt8) : String :=
  String.ofList (List.intercalate [':'] (octets.map hexOctet))

/-- The engine ID snmpd derives from a MAC address: Net-SNMP's enterprise number with
the top bit set, 3, the MAC. -/
def defaultEngineId (mac : List UInt8) : List UInt8 :=
  [0x80, 0x00, 0x1f, 0x88, 3] ++ mac

/-- "aa:bb:cc:dd:ee:ff". -/
def parseMac (text : String) : Option (List UInt8) :=
  (hexOctets text).filter fun octets =>
    (text.toList.filter (· == ':')).length == 5 && octets.length == 6

/-- What snmpd's configuration needs besides `Snmp`. -/
structure SnmpdParams where
  engineId : List UInt8
  agentxSocket : String
  system : SystemConfig
  description : Option String
  deriving DecidableEq, Repr

def headerLines (snmp : Snmp) (params : SnmpdParams) : List String :=
  ["# Written by the clixon-switch backend plugin from /snmp.",
    "agentaddress " ++ String.intercalate ","
      (snmp.listen.toList.map fun l => s!"udp:{displayAddr l.ip}:{l.port}"),
    s!"exactEngineID 0x{hex params.engineId}",
    "master agentx",
    s!"agentXSocket unix:{params.agentxSocket}",
    "agentXPerms 0600 0700",
    "sysServices 2"] ++
  (params.description.map fun d => s!"sysDescr {d}").toList ++
  ["sysContact " ++ params.system.contact.getD "",
    "sysLocation " ++ params.system.location.getD ""]

def userLine (params : SnmpdParams) (name : String) (user : UsmUser) : String :=
  s!"createUser -e 0x{hex params.engineId} {name} SHA -l 0x{hex user.authKey}" ++
    (match user.privKey with
    | some key => s!" AES -l 0x{hex key}"
    | none => "")

def viewLines (name : String) (view : SnmpView) : List String :=
  (view.included.map fun oid => s!"view {name} included .{oid}") ++
    view.excluded.map fun oid => s!"view {name} excluded .{oid}"

def levelWord : SecurityLevel → String
  | .authNoPriv => "auth"
  | .authPriv => "priv"

def accessLine (name : String) (access : SnmpAccess) : String :=
  s!"access {name} \"\" usm {levelWord access.level} exact " ++ access.readView.getD "none" ++
    " none none"

def groupLines (name : String) (group : SnmpGroup) : List String :=
  (group.members.toList.map fun user => s!"group {name} usm {user}") ++
    group.access.map (accessLine name)

/-- The lines of snmpd.conf for `snmp`, in the order they are written. -/
def confLines (snmp : Snmp) (params : SnmpdParams) : List String :=
  headerLines snmp params ++
    snmp.users.toList.map (fun e => userLine params e.1 e.2) ++
    snmp.views.toList.flatMap (fun e => viewLines e.1 e.2) ++
    snmp.groups.toList.flatMap fun e => groupLines e.1 e.2

/-- snmpd.conf for `snmp`. -/
def snmpdConf (snmp : Snmp) (params : SnmpdParams) : String :=
  String.join ((confLines snmp params).map (· ++ "\n"))

/-- `str::lines`: a carriage return before a line break belongs to the break, and nothing
follows the last one. -/
def textLines (text : List Char) : List (List Char) :=
  (text.splitOn '\n').dropLast.map stripReturn ++
    (text.splitOn '\n').getLast?.toList.filter (· ≠ [])
where
  stripReturn (line : List Char) : List Char :=
    if line.getLast? = some '\r' then line.dropLast else line

/-- Removes the USM users from the text of snmpd's persistent file, which would bring
back users that the configuration no longer has. -/
def stripPersistentUsers (text : String) : String :=
  String.ofList (((textLines text.toList).filter fun line =>
    !"usmUser ".toList.isPrefixOf (line.dropWhile Text.isWhitespace)).flatMap (· ++ ['\n']))

/-- The YANG namespace of the switch's own modules. -/
def switchNs : String := "urn:github:albrechtl:clixon-switch"

def snmpNs : String := "urn:ietf:params:xml:ns:yang:ietf-snmp"

/-- State data of `/snmp`: the engine ID in use. -/
def snmpStateXml (engineId : List UInt8) : String :=
  "<snmp xmlns=\"" ++ snmpNs ++ "\"><engine><engine-id-in-use xmlns=\"" ++ switchNs ++ "\">" ++
    colonHex engineId ++ "</engine-id-in-use></engine></snmp>"

end Writer

end ClixonSwitch.Source.SwitchModel
