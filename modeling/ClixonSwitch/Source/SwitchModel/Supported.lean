import ClixonSwitch.Lib.Json
import ClixonSwitch.Source.SwitchModel.Config
import ClixonSwitch.Source.SwitchModel.DesiredState

/-!
# The configuration the switch implements

The rule tables and `check` of `crates/switch-model/src/supported.rs`. Every
configuration node is implemented, or accepted only with its YANG default, because
clixon fills defaults into the tree; nodes that a table does not list are rejected.
-/
namespace ClixonSwitch.Source.SwitchModel.Supported
open Lib

inductive Rule where
  /-- Implemented: any value. -/
  | any
  /-- Not implemented: accepted with this YANG default only. -/
  | default (value : String)
  /-- A container with these members. -/
  | node (rules : List (String × Rule))
  /-- A list whose entries have these members. -/
  | list (rules : List (String × Rule))
  /-- Operational state. -/
  | ignore

abbrev Rules := List (String × Rule)

section Tables

def state : String × Rule := ("state", .ignore)

def ethernet : Rules :=
  [("config", .node
      [("enable-flow-control", .default "false"),
       ("auto-negotiate", .default "true"),
       ("standalone-link-training", .default "false")]),
   state,
   ("openconfig-vlan:switched-vlan", .node
      [("config", .node
          [("interface-mode", .any), ("access-vlan", .any), ("native-vlan", .any),
           ("trunk-vlans", .any)]),
       state])]

def ipv4 : Rules :=
  [("addresses", .node
      [("address", .list
          [("ip", .any),
           ("config", .node
              [("ip", .any), ("prefix-length", .any), ("type", .default "PRIMARY")]),
           state])]),
   ("config", .node [("enabled", .default "true"), ("dhcp-client", .any)]),
   state,
   ("proxy-arp", .node [("config", .node [("mode", .default "DISABLE")]), state]),
   ("unnumbered", .node [("config", .node [("enabled", .default "false")]), state]),
   ("urpf", .node [("config", .node [("enabled", .default "false")]), state])]

def ipv6 : Rules :=
  [("config", .node
      [("enabled", .default "true"),
       ("dup-addr-detect-transmits", .default "1"),
       ("learn-unsolicited", .default "NONE"),
       ("dhcp-client", .default "false")]),
   state,
   ("router-advertisement", .node
      [("config", .node
          [("enable", .default "true"),
           ("suppress", .default "false"),
           ("mode", .default "ALL"),
           ("managed", .default "false"),
           ("other-config", .default "false")]),
       state]),
   ("unnumbered", .node [("config", .node [("enabled", .default "false")]), state]),
   ("urpf", .node [("config", .node [("enabled", .default "false")]), state])]

def routedVlan : Rules :=
  [("config", .node [("vlan", .any)]),
   state,
   ("openconfig-if-ip:ipv4", .node ipv4),
   ("openconfig-if-ip:ipv6", .node ipv6)]

/-- Members of `/interfaces/interface`. -/
def interface : Rules :=
  [("name", .any),
   ("config", .node
      [("name", .any),
       ("type", .any),
       ("enabled", .any),
       ("description", .any),
       ("loopback-mode", .default "NONE"),
       ("openconfig-vlan:tpid", .default "TPID_0X8100")]),
   state,
   ("hold-time", .node
      [("config", .node [("up", .default "0"), ("down", .default "0")]), state]),
   ("penalty-based-aied", .node
      [("config", .node
          [("max-suppress-time", .default "0"),
           ("decay-half-life", .default "0"),
           ("suppress-threshold", .default "0"),
           ("reuse-threshold", .default "0"),
           ("flap-penalty", .default "0")]),
       state]),
   ("openconfig-if-ethernet:ethernet", .node ethernet),
   ("openconfig-vlan:routed-vlan", .node routedVlan)]

/-- Cost and priority of the ports in one spanning tree. -/
def stpTreeInterfaces : Rules :=
  [("interface", .list
      [("name", .any),
       ("config", .node [("name", .any), ("cost", .any), ("port-priority", .any)]),
       state])]

def stp : Rules :=
  [("global", .node
      [("config", .node
          [("enabled-protocol", .any),
           ("bridge-assurance", .default "false"),
           ("etherchannel-misconfig-guard", .default "false"),
           ("loop-guard", .default "false"),
           ("bpdu-guard", .any),
           ("bpdu-filter", .any)]),
       state]),
   ("rstp", .node
      [("config", .node
          [("hello-time", .any),
           ("max-age", .any),
           ("forwarding-delay", .any),
           ("hold-count", .any),
           ("bridge-priority", .any)]),
       state,
       ("interfaces", .node stpTreeInterfaces)]),
   ("mstp", .node
      [("config", .node
          [("name", .any),
           ("revision", .any),
           ("max-hop", .any),
           ("hello-time", .any),
           ("max-age", .any),
           ("forwarding-delay", .any),
           ("hold-count", .any),
           ("clixon-switch:bridge-priority", .any)]),
       state,
       ("mst-instances", .node
          [("mst-instance", .list
              [("mst-id", .any),
               ("config", .node [("mst-id", .any), ("vlan", .any), ("bridge-priority", .any)]),
               state,
               ("interfaces", .node stpTreeInterfaces)])]),
       ("clixon-switch:interfaces", .node stpTreeInterfaces)]),
   ("interfaces", .node
      [("interface", .list
          [("name", .any),
           ("config", .node
              [("name", .any),
               ("edge-port", .any),
               ("link-type", .any),
               ("guard", .any),
               ("bpdu-guard", .any),
               ("bpdu-filter", .any)]),
           state])])]

def snmp : Rules :=
  [("engine", .node
      [("enabled", .any),
       ("listen", .list [("name", .any), ("udp", .node [("ip", .any), ("port", .any)])]),
       ("version", .node [("v3", .any)]),
       ("engine-id", .any),
       ("enable-authen-traps", .default "false")]),
   ("usm", .node
      [("local", .node
          [("user", .list
              [("name", .any),
               ("auth", .node [("sha", .node [("key", .any)])]),
               ("priv", .node [("aes", .node [("key", .any)])])])])]),
   ("vacm", .node
      [("group", .list
          [("name", .any),
           ("member", .list [("security-name", .any), ("security-model", .any)]),
           ("access", .list
              [("context", .default ""),
               ("context-match", .default "exact"),
               ("security-model", .any),
               ("security-level", .any),
               ("read-view", .any)])]),
       ("view", .list [("name", .any), ("include", .any), ("exclude", .any)])])]

/-- The top-level containers besides `/interfaces`. -/
def top : Rules :=
  [("clixon-switch:vlans", .node
      [("vlan", .list
          [("vlan-id", .any),
           ("config", .node [("vlan-id", .any), ("name", .any), ("status", .any)]),
           state,
           ("members", .ignore)])]),
   ("clixon-switch:switch", .node [("config", .node [("vlan-mode", .any)]), state]),
   ("clixon-switch:system", .node
      [("config", .node [("contact", .any), ("location", .any)]), state]),
   ("clixon-switch:port-based-vlans", .node
      [("group", .list
          [("id", .any),
           ("config", .node [("id", .any), ("name", .any), ("port", .any)]),
           state])]),
   ("openconfig-spanning-tree:stp", .node stp),
   ("ietf-snmp:snmp", .node snmp)]

end Tables

section Check

/-- Compares a leaf with a default written as text. Identities may carry a module
prefix, numbers may arrive quoted. -/
def isValue (value : Json) (expected : String) : Bool :=
  match value with
  | .string s => s == expected || unprefixed s == expected
  | .bool b => toString b == expected
  | .number n => n.display == expected
  | _ => false

/-- A leaf as a message shows it. -/
def shown : Json → String
  | .string s => s
  | other => other.display

/-- A path without module prefixes, e.g. "routed-vlan/ipv6/config". -/
def childPath (path key : String) : String :=
  if path.isEmpty then unprefixed key else path ++ "/" ++ unprefixed key

mutual
/-- `check_value`, with `check_members` of a value as its case for a container. Wrong
shapes are reported when the tree is deserialized. -/
def checkValue (value : Json) (rule : Rule) (path : String) : List String :=
  match value, rule with
  | value, .default d =>
    if isValue value d then []
    else [path ++ " " ++ shown value ++ " is not supported, only " ++ d]
  | .object members, .node rules => checkEach members rules path
  | .array items, .list rules => checkEntries items rules path
  | _, _ => []
termination_by structural value

def checkEach (members : List (String × Json)) (rules : Rules) (path : String) : List String :=
  match members with
  | [] => []
  | m :: rest => checkMember m rules path ++ checkEach rest rules path
termination_by structural members

def checkMember (m : String × Json) (rules : Rules) (path : String) : List String :=
  match m with
  | (key, child) =>
    match rules.lookup key with
    | none => [childPath path key ++ " is not supported"]
    | some rule => checkValue child rule (childPath path key)
termination_by structural m

def checkEntries (items : List Json) (rules : Rules) (path : String) : List String :=
  match items with
  | [] => []
  | entry :: rest => checkValue entry (.node rules) path ++ checkEntries rest rules path
termination_by structural items
end

def checkMembers (value : Json) (rules : Rules) (path : String) : List String :=
  checkValue value (.node rules) path

/-- The entries of `/interfaces/interface`. -/
def interfaces (config : Json) : List Json :=
  (((config.get "openconfig-interfaces:interfaces").bind (Json.get "interface")).bind
    Json.asArray).getD []

def interfaceName (entry : Json) : String := ((entry.get "name").bind Json.asStr).getD "?"

/-- One error per configured node that the switch does not implement. -/
def check (config : Json) : List Error :=
  ((interfaces config).flatMap fun entry =>
    (checkMembers entry interface "").map (Error.mk (interfaceName entry))) ++
  top.flatMap fun e =>
    match config.get e.1 with
    | none => []
    | some value => (checkValue value e.2 (unprefixed e.1)).map Error.global

end Check

end ClixonSwitch.Source.SwitchModel.Supported
