import ClixonSwitch.Source.SwitchModel.Deserialize
import ClixonSwitch.Source.SwitchModel.SnmpAccepted

/-!
# Accepted SNMP configurations give agents that snmpd can run

With the engine enabled an accepted tree gives an agent that listens, has a user and a
group with access, keys and an engine ID of the lengths that snmpd takes, and no
reference to a user or a view that it does not have.
-/
namespace ClixonSwitch.Guarantees
open Std Lib Lib.Json Lib.Decode
open Source.SwitchModel

section Enabled

/-- The leaf `/snmp/engine/enabled` is true. -/
def EngineEnabled (tree : Json) : Prop :=
  tree.at? [.key "ietf-snmp:snmp", .key "engine", .key "enabled"] = some (.bool true)

/-- A record that is there is decoded as one. -/
theorem option_ok_object {α : Type} {decode : Decoder α} {members : List (String × Json)}
    {a : Option α} (h : option decode (.object members) = .ok a) :
    ∃ b, a = some b ∧ decode (.object members) = .ok b := by
  rw [option] at h
  cases hd : decode (.object members) with
  | error e => simp [hd, Except.map] at h
  | ok b =>
    rw [hd] at h
    exact ⟨b, (Except.ok.inj h).symm, rfl⟩
  · nofun

theorem engine_decode_enabled {members : List (String × Json)} {engine : Engine}
    (h : Engine.decode (.object members) = .ok engine)
    (leaf : members.lookup "enabled" = some (.bool true)) : engine.enabled = some true := by
  obtain ⟨rest, hfields⟩ := record_object_ok h
  obtain ⟨enabled, _, henabled, hfields⟩ := record_bind_ok.mp hfields
  obtain ⟨listen, _, -, hfields⟩ := record_bind_ok.mp hfields
  obtain ⟨version, _, -, hfields⟩ := record_bind_ok.mp hfields
  obtain ⟨engineId, _, -, hpure⟩ := record_bind_ok.mp hfields
  have hvalue := optional_named_ok henabled leaf
  obtain rfl : enabled = some true := (Except.ok.inj hvalue).symm
  rw [← (Prod.mk.inj (Except.ok.inj hpure)).1]

theorem snmpConfig_decode_engine {members : List (String × Json)} {c : SnmpConfig}
    (h : SnmpConfig.decode (.object members) = .ok c) {v : List (String × Json)}
    (hv : members.lookup "engine" = some (.object v)) :
    ∃ engine, c.engine = some engine ∧ Engine.decode (.object v) = .ok engine := by
  obtain ⟨rest, hfields⟩ := record_object_ok h
  obtain ⟨engine, _, hengine, hfields⟩ := record_bind_ok.mp hfields
  obtain ⟨usm, _, -, hfields⟩ := record_bind_ok.mp hfields
  obtain ⟨vacm, _, -, hpure⟩ := record_bind_ok.mp hfields
  obtain ⟨e, rfl, hdecode⟩ := option_ok_object (optional_named_ok hengine hv)
  rw [← (Prod.mk.inj (Except.ok.inj hpure)).1]
  exact ⟨e, rfl, hdecode⟩

theorem config_decode_snmp {members : List (String × Json)} {config : Config}
    (h : Config.decode (.object members) = .ok config) {v : List (String × Json)}
    (hv : members.lookup "ietf-snmp:snmp" = some (.object v)) :
    ∃ c, config.snmp = some c ∧ SnmpConfig.decode (.object v) = .ok c := by
  obtain ⟨rest, hfields⟩ := record_object_ok h
  obtain ⟨interfaces, _, hfield, hfields⟩ := record_bind_ok.mp hfields
  obtain rfl := field_named_ok hfield
  obtain ⟨vlans, _, hfield, hfields⟩ := record_bind_ok.mp hfields
  obtain rfl := field_named_ok hfield
  obtain ⟨switch, _, hfield, hfields⟩ := record_bind_ok.mp hfields
  obtain rfl := field_named_ok hfield
  obtain ⟨portBasedVlans, _, hfield, hfields⟩ := record_bind_ok.mp hfields
  obtain rfl := field_named_ok hfield
  obtain ⟨stp, _, hfield, hfields⟩ := record_bind_ok.mp hfields
  obtain rfl := field_named_ok hfield
  obtain ⟨system, _, hfield, hfields⟩ := record_bind_ok.mp hfields
  obtain rfl := field_named_ok hfield
  obtain ⟨snmp, _, hfield, hpure⟩ := record_bind_ok.mp hfields
  obtain ⟨c, rfl, hdecode⟩ := option_ok_object (optional_named_ok hfield hv)
  rw [← (Prod.mk.inj (Except.ok.inj hpure)).1]
  exact ⟨c, rfl, hdecode⟩

theorem at?_key {v w : Json} {k : String} {rest : List Step}
    (h : v.at? (.key k :: rest) = some w) :
    ∃ members child, v = .object members ∧ members.lookup k = some child ∧
      child.at? rest = some w := by
  cases v with
  | object members =>
    obtain ⟨child, hchild, hrest⟩ := Option.bind_eq_some_iff.mp h
    exact ⟨members, child, rfl, hchild, hrest⟩
  | _ => cases h

/-- What is decoded of a tree with the engine enabled has it enabled. -/
theorem config_decode_enabled {tree : Json} {config : Config} (enabled : EngineEnabled tree)
    (h : Config.decode tree = .ok config) : ∃ c, config.snmp = some c ∧ c.enabled = true := by
  obtain ⟨members, snmp, rfl, hsnmp, hengine⟩ := at?_key enabled
  obtain ⟨snmpMembers, engine, rfl, hengine, hleaf⟩ := at?_key hengine
  obtain ⟨engineMembers, leaf, rfl, henabled, hleaf⟩ := at?_key hleaf
  obtain rfl := Option.some.inj hleaf
  obtain ⟨c, hc, hdecode⟩ := config_decode_snmp h hsnmp
  obtain ⟨e, he, hdecode⟩ := snmpConfig_decode_engine hdecode hengine
  refine ⟨c, hc, ?_⟩
  simp [SnmpConfig.enabled, he, engine_decode_enabled hdecode henabled]

end Enabled

/-- An agent as snmpd can run it. -/
structure AgentSound (s : Snmp) : Prop where
  listener : ∃ l, l ∈ s.listen
  user : ∃ name, name ∈ s.users
  groupWithAccess : ∃ (name : String) (g : SnmpGroup), s.groups[name]? = some g ∧ g.access ≠ []
  authKeys : ∀ (name : String) (u : UsmUser), s.users[name]? = some u → u.authKey.length = 20
  privKeys : ∀ (name : String) (u : UsmUser), s.users[name]? = some u → ∀ key,
    u.privKey = some key → key.length = 16 ∨ key.length = 20
  engineId : ∀ id, s.engineId = some id → 5 ≤ id.length ∧ id.length ≤ 32
  members : ∀ (name : String) (g : SnmpGroup), s.groups[name]? = some g → ∀ user ∈ g.members,
    user ∈ s.users
  readViews : ∀ (name : String) (g : SnmpGroup), s.groups[name]? = some g → ∀ a ∈ g.access,
    ∀ view, a.readView = some view → view ∈ s.views
  privacy : ∀ (name : String) (g : SnmpGroup), s.groups[name]? = some g →
    (∃ a ∈ g.access, a.level = .authPriv) → ∀ user ∈ g.members, ∃ u key,
      s.users[user]? = some u ∧ u.privKey = some key

theorem agentSound_of_accepted {c : SnmpConfig} {s : Snmp} (enabled : c.enabled = true)
    (h : SnmpAccepted c s) : AgentSound s where
  listener := by
    by_contra hnone
    exact (h.engine enabled).listens
      (ExtTreeSet.eq_empty_iff_forall_not_mem.mpr fun l hl => hnone ⟨l, hl⟩)
  user := by
    by_contra hnone
    exact h.hasUser enabled
      (ExtTreeMap.eq_empty_iff_forall_not_mem.mpr fun name hname => hnone ⟨name, hname⟩)
  groupWithAccess := h.hasAccess enabled
  authKeys name u hu := by
    obtain ⟨user, -, -, accepted⟩ := h.users.lookup name u hu
    exact accepted.authLen
  privKeys name u hu key hkey := by
    obtain ⟨user, -, -, accepted⟩ := h.users.lookup name u hu
    exact accepted.privLen key hkey
  engineId := (h.engine enabled).engineId
  members name g hg user huser := by
    obtain ⟨group, -, -, accepted⟩ := h.groups.lookup name g hg
    exact accepted.known user huser
  readViews name g hg a ha view hview := by
    obtain ⟨group, -, -, accepted⟩ := h.groups.lookup name g hg
    exact accepted.readViews a ha view hview
  privacy name g hg hpriv user huser := by
    obtain ⟨a, ha, hlevel⟩ := hpriv
    obtain ⟨group, -, -, accepted⟩ := h.groups.lookup name g hg
    obtain ⟨u, hu⟩ := (BTreeMap.mem_iff s.users user).mp (accepted.known user huser)
    obtain ⟨key, hkey⟩ :=
      Option.isSome_iff_exists.mp (accepted.privacy a ha hlevel user huser u hu)
    exact ⟨u, key, hu, hkey⟩

/-- An accepted tree with the engine enabled gives an agent that snmpd can run. -/
theorem validate_agent_sound (tree : Json) (switchPorts : BTreeSet String) (state : DesiredState)
    (accepted : validate tree switchPorts = .ok state) (enabled : EngineEnabled tree) :
    ∃ s, state.snmp = some s ∧ AgentSound s := by
  obtain ⟨-, config, hdecode, hstate⟩ := validate_ok.mp accepted
  obtain ⟨c, hc, henabled⟩ := config_decode_enabled enabled hdecode
  obtain ⟨hruns, hagent⟩ := desiredState_snmp hstate
  obtain ⟨s, hs⟩ := hruns c hc henabled
  obtain ⟨c', -, henabled', hsnmp⟩ := hagent s hs
  exact ⟨s, hs, agentSound_of_accepted henabled' hsnmp⟩

section Trees

/-- A tree with an agent that has two users, of whom the first has a privacy key. -/
def agentTree (groups views : List Json) : Json :=
  .object
    [("ietf-snmp:snmp", .object
      [("engine", .object
        [("enabled", .bool true),
         ("listen", .array
          [.object [("name", .string "all"), ("udp", .object [("ip", .string "0.0.0.0")])]]),
         ("version", .object [("v3", .array [.null])])]),
       ("usm", .object
        [("local", .object
          [("user", .array
            [.object
              [("auth", .object [("sha", .object
                [("key", .string "00112233445566778899aabbccddeeff00112233")])]),
               ("name", .string "admin"),
               ("priv", .object [("aes", .object
                [("key", .string "00112233445566778899aabbccddeeff")])])],
             .object
              [("auth", .object [("sha", .object
                [("key", .string "00112233445566778899aabbccddeeff00112233")])]),
               ("name", .string "monitor")]])])]),
       ("vacm", .object [("group", .array groups), ("view", .array views)])])]

/-- A group of one user. -/
def groupEntry (name user : String) (access : List Json) : Json :=
  .object
    [("access", .array access),
     ("member", .array
      [.object [("security-model", .array [.string "usm"]), ("security-name", .string user)]]),
     ("name", .string name)]

/-- Access to a view. -/
def accessEntry (context model level : String) (readView : Option String) : Json :=
  .object
    ([("context", .string context), ("context-match", .string "exact")] ++
      (readView.map fun view => ("read-view", .string view)).toList ++
      [("security-level", .string level), ("security-model", .string model)])

def viewEntry (name oid : String) : Json :=
  .object [("include", .array [.string oid]), ("name", .string name)]

/-- The users of `agentTree`. -/
def agentUsers : BTreeMap String UsmUser :=
  BTreeMap.collect
    [("admin", ⟨0x00 :: 0x11 :: agentOctets ++ [0x00, 0x11, 0x22, 0x33],
        some (0x00 :: 0x11 :: agentOctets)⟩),
     ("monitor", ⟨0x00 :: 0x11 :: agentOctets ++ [0x00, 0x11, 0x22, 0x33], none⟩)]
where
  agentOctets : List UInt8 :=
    [0x22, 0x33, 0x44, 0x55, 0x66, 0x77, 0x88, 0x99, 0xaa, 0xbb, 0xcc, 0xdd, 0xee, 0xff]

/-- The agent of `agentTree`. -/
def agentOf (groups : List (String × SnmpGroup)) (views : List (String × SnmpView)) : Snmp where
  listen := ExtTreeSet.ofList [⟨⟨0⟩, 161⟩] compare
  users := agentUsers
  groups := BTreeMap.collect groups
  views := BTreeMap.collect views

end Trees

/-- A group that needs privacy. -/
def privateTree : Json :=
  agentTree [groupEntry "admins" "admin" [accessEntry "" "usm" "auth-priv" (some "all")]]
    [viewEntry "all" ".1.3.6.1"]

def privateState : DesiredState where
  snmp := some (agentOf
    [("admins", ⟨ExtTreeSet.ofList ["admin"] compare, [⟨.authPriv, some "all"⟩]⟩)]
    [("all", ⟨["1.3.6.1"], []⟩)])

theorem validate_agent_sound_private :
    validate privateTree ∅ = .ok privateState ∧ ∃ s, privateState.snmp = some s ∧ AgentSound s := by
  have accepted : validate privateTree ∅ = .ok privateState := by decide +kernel
  exact ⟨accepted, validate_agent_sound privateTree ∅ privateState accepted rfl⟩

end ClixonSwitch.Guarantees
