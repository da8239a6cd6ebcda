import ClixonSwitch.Source.SwitchNet.Daemon

/-!
# What the commands of a configuration write

`settingValue` is a configuration as a function of the settings, and the commands write
exactly this function; only the forward delay is written twice. The changed commands
are a part of them, with the trees of the previous configuration that are gone
deleted.
-/
namespace ClixonSwitch.Source.SwitchNet
open Std Lib Source.SwitchModel

def treeAt (stp : Stp) (id : UInt16) : Option Tree :=
  if id = 0 then some stp.cist else stp.mstis[id]?.map Msti.tree

def bridgeValue (stp : Stp) (bridgeMac : String) : BridgeSetting → List String
  | .forceVers => [stp.protocol.mstpdName]
  | .fdelay => [toString stp.forwardDelay]
  | .maxAge => [toString stp.maxAge]
  | .txHoldCount => [toString stp.holdCount]
  | .maxHops => [toString stp.maxHops]
  | .mstConfId =>
    [toString stp.regionRevision, stp.regionName.getD (defaultRegionName bridgeMac)]
  | .vid2fid => "0:1-4094" :: vid2fidArgs stp.mstis
  | .fid2mstid => "0:0-4095" :: stp.mstis.keys.map fun id => toString id ++ ":" ++ toString id

def portValue (stp : Stp) (port : String) (f : PortFeatures) : PortSetting → String
  | .pathCost => toString ((stp.cist.ports[port]?.getD {}).cost.getD 0)
  | .adminEdge => yesNo (f.edge = .enable)
  | .autoEdge => yesNo (f.edge = .auto)
  | .p2p => (f.pointToPoint.map yesNo).getD "auto"
  | .restrRole => yesNo f.rootGuard
  | .bpduGuard => yesNo f.bpduGuard
  | .bpduFilter => yesNo f.bpduFilter

def treePortValue (p : TreePort) : TreePortSetting → String
  | .prio => toString (p.priority / 16)
  | .cost => toString (p.cost.getD 0)

/-- The value that a configuration gives a setting, if it has one. -/
def settingValue (stp : Stp) (bridgeMac : String) : Setting → Option (List String)
  | .bridge w => some (bridgeValue stp bridgeMac w)
  | .treePrio id => (treeAt stp id).map fun t => [toString (t.bridgePriority / 4096)]
  | .port w p => stp.ports[p]?.map fun f => [portValue stp p f w]
  | .treePort w p id =>
    (treeAt stp id).bind fun t => t.ports[p]?.map fun port => [treePortValue port w]

theorem mem_trees {stp : Stp} (cistOnly : 0 ∉ stp.mstis) (id : UInt16) (tree : Tree) :
    (id, tree) ∈ trees stp ↔ treeAt stp id = some tree := by
  unfold trees treeAt
  by_cases hid : id = 0
  · subst hid
    have hnone : stp.mstis[(0 : UInt16)]? = none := by simpa using cistOnly
    simp [hnone, eq_comm]
  · simp [hid, ExtTreeMap.mem_toList_iff_getElem?_eq_some]

theorem mem_bridgeCommands (stp : Stp) (mac : String) (c : Command) :
    c ∈ bridgeCommands stp mac ↔ c = .set (.bridge .fdelay) [maxForwardDelay] ∨
      ∃ w, w ≠ .vid2fid ∧ w ≠ .fid2mstid ∧ c = .set (.bridge w) (bridgeValue stp mac w) := by
  constructor
  · intro h
    simp only [bridgeCommands, List.mem_cons, List.not_mem_nil, or_false] at h
    rcases h with rfl | rfl | rfl | rfl | rfl | rfl | rfl
    · exact .inr ⟨.forceVers, by decide, by decide, rfl⟩
    · exact .inl rfl
    · exact .inr ⟨.maxAge, by decide, by decide, rfl⟩
    · exact .inr ⟨.fdelay, by decide, by decide, rfl⟩
    · exact .inr ⟨.txHoldCount, by decide, by decide, rfl⟩
    · exact .inr ⟨.maxHops, by decide, by decide, rfl⟩
    · exact .inr ⟨.mstConfId, by decide, by decide, rfl⟩
  · rintro (rfl | ⟨w, hvid, hfid, rfl⟩)
    · simp [bridgeCommands]
    · cases w <;> simp_all [bridgeCommands, bridgeValue]

theorem mem_mappingCommands (stp : Stp) (mac : String) (c : Command) :
    c ∈ mappingCommands stp ↔ (∃ id ∈ stp.mstis, c = .createTree id) ∨
      c = .set (.bridge .vid2fid) (bridgeValue stp mac .vid2fid) ∨
      c = .set (.bridge .fid2mstid) (bridgeValue stp mac .fid2mstid) := by
  simp only [mappingCommands, bridgeValue, List.mem_append, List.mem_map, List.mem_cons,
    List.not_mem_nil, or_false, ExtTreeMap.mem_keys, eq_comm]

theorem mem_portCommands (stp : Stp) (port : String) (f : PortFeatures) (c : Command) :
    c ∈ portCommands stp port f ↔ ∃ w, c = .set (.port w port) [portValue stp port f w] := by
  constructor
  · intro h
    simp only [portCommands, List.mem_cons, List.not_mem_nil, or_false] at h
    rcases h with rfl | rfl | rfl | rfl | rfl | rfl | rfl
    exacts [⟨.pathCost, rfl⟩, ⟨.adminEdge, rfl⟩, ⟨.autoEdge, rfl⟩, ⟨.p2p, rfl⟩, ⟨.restrRole, rfl⟩,
      ⟨.bpduGuard, rfl⟩, ⟨.bpduFilter, rfl⟩]
  · rintro ⟨w, rfl⟩
    cases w <;> simp [portCommands, portValue]

theorem mem_treePortCommands (id : UInt16) (port : String) (p : TreePort) (c : Command) :
    c ∈ treePortCommands id port p ↔
      ∃ w, c = .set (.treePort w port id) [treePortValue p w] := by
  constructor
  · intro h
    simp only [treePortCommands, List.mem_cons, List.not_mem_nil, or_false] at h
    rcases h with rfl | rfl
    exacts [⟨.prio, rfl⟩, ⟨.cost, rfl⟩]
  · rintro ⟨w, rfl⟩
    cases w <;> simp [treePortCommands, treePortValue]

/-- The commands of a configuration: the longest forward delay, one for each MSTI, and
one for each setting. -/
theorem mem_commands {stp : Stp} {mac : String} {c : Command} :
    c ∈ commands stp mac ↔ c = .set (.bridge .fdelay) [maxForwardDelay] ∨
      (∃ id ∈ stp.mstis, c = .createTree id) ∨
      (∃ w, c = .set (.bridge w) (bridgeValue stp mac w)) ∨
      (∃ e ∈ trees stp, c = treeCommand e) ∨
      (∃ port f w, stp.ports[port]? = some f ∧ c = .set (.port w port) [portValue stp port f w]) ∨
      ∃ e ∈ trees stp, ∃ port p w, e.2.ports[port]? = some p ∧
        c = .set (.treePort w port e.1) [treePortValue p w] := by
  have hbridge : (c ∈ bridgeCommands stp mac ∨ c ∈ mappingCommands stp) ↔
      c = .set (.bridge .fdelay) [maxForwardDelay] ∨ (∃ id ∈ stp.mstis, c = .createTree id) ∨
        ∃ w, c = .set (.bridge w) (bridgeValue stp mac w) := by
    rw [mem_bridgeCommands, mem_mappingCommands stp mac]
    constructor
    · rintro ((h | ⟨w, -, -, h⟩) | h | h | h)
      exacts [.inl h, .inr (.inr ⟨w, h⟩), .inr (.inl h), .inr (.inr ⟨_, h⟩), .inr (.inr ⟨_, h⟩)]
    · rintro (h | h | ⟨w, h⟩)
      · exact .inl (.inl h)
      · exact .inr (.inl h)
      · by_cases hvid : w = .vid2fid
        · exact .inr (.inr (.inl (hvid ▸ h)))
        · by_cases hfid : w = .fid2mstid
          · exact .inr (.inr (.inr (hfid ▸ h)))
          · exact .inl (.inr ⟨w, hvid, hfid, h⟩)
  simp only [commands, List.mem_append, hbridge, List.mem_flatMap, List.mem_map, mem_portCommands,
    mem_treePortCommands, ExtTreeMap.mem_toList_iff_getElem?_eq_some, Prod.exists]
  grind

theorem set_mem_commands {stp : Stp} (cistOnly : 0 ∉ stp.mstis) {mac : String} {s : Setting}
    (hs : s ≠ .bridge .fdelay) (value : List String) :
    .set s value ∈ commands stp mac ↔ settingValue stp mac s = some value := by
  rw [mem_commands]
  cases s with
  | bridge w => simp_all [settingValue, treeCommand, eq_comm]
  | treePrio id =>
    simp [settingValue, treeCommand, mem_trees cistOnly, eq_comm]
  | port w p => simp [settingValue, treeCommand, eq_comm]
  | treePort w p id =>
    simp only [settingValue, Option.bind_eq_some_iff, Option.map_eq_some_iff]
    simp [treeCommand, mem_trees cistOnly, eq_comm]

theorem createTree_mem_commands {stp : Stp} {mac : String} (id : UInt16) :
    .createTree id ∈ commands stp mac ↔ id ∈ stp.mstis := by
  rw [mem_commands]
  simp [treeCommand]

section Full
variable {stp : Stp} {mac : String} {c : Command}

theorem commands_shape (member : c ∈ commands stp mac) :
    (∃ id, c = .createTree id) ∨ ∃ s value, c = .set s value := by
  rcases mem_commands.mp member with h | ⟨id, -, h⟩ | ⟨w, h⟩ | ⟨e, -, h⟩ |
    ⟨port, f, w, -, h⟩ | ⟨e, -, port, p, w, -, h⟩
  exacts [.inr ⟨_, _, h⟩, .inl ⟨id, h⟩, .inr ⟨_, _, h⟩, .inr ⟨_, _, h⟩, .inr ⟨_, _, h⟩,
    .inr ⟨_, _, h⟩]

/-- A command of a configuration that touches a setting sets it. -/
theorem set_of_touches (member : c ∈ commands stp mac) {s : Setting}
    (touched : c.touches (.setting s) = true) : ∃ value, c = .set s value := by
  rcases commands_shape member with ⟨id, rfl⟩ | ⟨s', value, rfl⟩
  · simp [Command.touches] at touched
  · obtain rfl : s = s' := by simpa [Command.touches] using touched
    exact ⟨value, rfl⟩

theorem createTree_of_touches (member : c ∈ commands stp mac) {id : UInt16}
    (touched : c.touches (.tree id) = true) : c = .createTree id := by
  rcases commands_shape member with ⟨id', rfl⟩ | ⟨s, value, rfl⟩
  · obtain rfl : id = id' := by simpa [Command.touches] using touched
    rfl
  · simp [Command.touches] at touched

theorem timer_mem_commands : c ∈ commands stp mac ∧ c.isTimer = true ↔
    c = .set (.bridge .fdelay) [maxForwardDelay] ∨
      c = .set (.bridge .maxAge) (bridgeValue stp mac .maxAge) ∨
      c = .set (.bridge .fdelay) (bridgeValue stp mac .fdelay) := by
  rw [mem_commands]
  constructor
  · rintro ⟨rfl | ⟨id, -, rfl⟩ | ⟨w, rfl⟩ | ⟨e, -, rfl⟩ | ⟨port, f, w, -, rfl⟩ |
      ⟨e, -, port, p, w, -, rfl⟩, timer⟩
    case inr.inr.inl => cases w <;> simp_all [Command.isTimer]
    all_goals simp_all [Command.isTimer, treeCommand]
  · rintro (rfl | rfl | rfl)
    · exact ⟨.inl rfl, rfl⟩
    · exact ⟨.inr (.inr (.inl ⟨.maxAge, rfl⟩)), rfl⟩
    · exact ⟨.inr (.inr (.inl ⟨.fdelay, rfl⟩)), rfl⟩

/-- The forward delay is the last timer command. -/
theorem commands_fdelay (stp : Stp) (mac : String) :
    ∃ before after, commands stp mac =
        before ++ .set (.bridge .fdelay) (bridgeValue stp mac .fdelay) :: after ∧
      ∀ c ∈ after, c.touches (.setting (.bridge .fdelay)) = false := by
  refine ⟨(bridgeCommands stp mac).take 3, (bridgeCommands stp mac).drop 4 ++
    mappingCommands stp ++ (trees stp).map treeCommand ++
    stp.ports.toList.flatMap (fun e => portCommands stp e.1 e.2) ++
    (trees stp).flatMap fun e => e.2.ports.toList.flatMap fun p => treePortCommands e.1 p.1 p.2,
    rfl, ?_⟩
  intro c member
  simp only [List.mem_append, List.mem_flatMap, List.mem_map, mem_mappingCommands stp mac,
    mem_portCommands, mem_treePortCommands, treeCommand] at member
  rcases member with (((h | ⟨id, -, rfl⟩ | rfl | rfl) | ⟨e, -, rfl⟩) |
    ⟨e, -, w, rfl⟩) | ⟨e, -, p, -, w, rfl⟩
  · simp only [bridgeCommands, List.drop_succ_cons, List.drop_zero, List.mem_cons,
      List.not_mem_nil, or_false] at h
    rcases h with rfl | rfl | rfl <;> rfl
  all_goals simp [Command.touches]

/-- All commands of a configuration give every setting its value. -/
theorem execAll_commands_setting (cistOnly : 0 ∉ stp.mstis) (b : BridgeData) (s : Setting) :
    execAll (commands stp mac) b (.setting s) =
      (settingValue stp mac s).or (b (.setting s)) := by
  rw [execAll_cell]
  by_cases hs : s = .bridge .fdelay
  · subst hs
    obtain ⟨before, after, hsplit, hafter⟩ := commands_fdelay stp mac
    have hlast : lastWriter (commands stp mac) (.setting (.bridge .fdelay)) =
        some (.set (.bridge .fdelay) (bridgeValue stp mac .fdelay)) := by
      rw [hsplit]
      exact lastTouch_of_split (by simp [Command.touches]) hafter
    simp [hlast, settingValue, Command.leaves]
  · cases hvalue : settingValue stp mac s with
    | none =>
      have hlast : lastWriter (commands stp mac) (.setting s) = none := by
        refine lastTouch_eq_none.mpr fun c member => ?_
        by_contra htouch
        obtain ⟨value, rfl⟩ := set_of_touches member (Bool.not_eq_false _ ▸ htouch)
        rw [set_mem_commands cistOnly hs, hvalue] at member
        cases member
      rw [hlast]
      rfl
    | some value =>
      have hlast : lastWriter (commands stp mac) (.setting s) = some (.set s value) := by
        refine lastTouch_of_unique ((set_mem_commands cistOnly hs value).mpr hvalue)
          (by simp [Command.touches]) fun c member touched => ?_
        obtain ⟨value', rfl⟩ := set_of_touches member touched
        rw [set_mem_commands cistOnly hs, hvalue] at member
        rw [Option.some.inj member]
      rw [hlast]
      rfl

theorem execAll_commands_hasTree (b : BridgeData) (id : UInt16) :
    (execAll (commands stp mac) b).HasTree id ↔ id ∈ stp.mstis ∨ b.HasTree id := by
  rw [BridgeData.HasTree, execAll_cell]
  by_cases hid : id ∈ stp.mstis
  · have hlast : lastWriter (commands stp mac) (.tree id) = some (.createTree id) :=
      lastTouch_of_unique ((createTree_mem_commands id).mpr hid) (by simp [Command.touches])
        fun c member touched => createTree_of_touches member touched
    simp [hlast, hid, Command.leaves]
  · have hlast : lastWriter (commands stp mac) (.tree id) = none := by
      refine lastTouch_eq_none.mpr fun c member => ?_
      by_contra htouch
      obtain rfl := createTree_of_touches member (Bool.not_eq_false _ ▸ htouch)
      exact hid ((createTree_mem_commands id).mp member)
    simp [hlast, hid, BridgeData.HasTree]

end Full

section Changed
variable {previous : Option StpApplied} {stp : Stp} {mac : String}

/-- The commands that mstpd has run for the cached configuration. -/
def ranCommands (previous : Option StpApplied) : List Command :=
  (previous.map StpApplied.commands).getD []

/-- Whether a timer command has not been run, so that all of them run. -/
def timersChanged (previous : Option StpApplied) (next : List Command) : Prop :=
  ∃ c ∈ next, c.isTimer = true ∧ c ∉ ranCommands previous

theorem mem_changedCommands (next : List Command) (c : Command) :
    c ∈ changedCommands previous next stp ↔
      (c ∈ next ∧ (c ∉ ranCommands previous ∨ timersChanged previous next ∧ c.isTimer = true)) ∨
        (∃ f ∈ next, f.isFid2mstid = true) ∧ ∃ id ∈ goneTrees previous stp, c = .deleteTree id := by
  unfold changedCommands timersChanged ranCommands
  simp only [List.mem_flatMap, List.mem_append]
  constructor
  · rintro ⟨c', hc', h | h⟩
    · split at h
      · next hrun =>
        rw [List.mem_singleton] at h
        subst h
        exact .inl ⟨hc', by simpa [and_assoc] using hrun⟩
      · exact absurd h List.not_mem_nil
    · split at h
      · next hfid =>
        obtain ⟨id, hid, rfl⟩ := List.mem_map.mp h
        exact .inr ⟨⟨c', hc', hfid⟩, id, hid, rfl⟩
      · exact absurd h List.not_mem_nil
  · rintro (⟨hc, hrun⟩ | ⟨⟨f, hf, hfid⟩, id, hid, rfl⟩)
    · refine ⟨c, hc, .inl ?_⟩
      rw [if_pos (by simpa [and_assoc] using hrun)]
      exact List.mem_singleton_self c
    · refine ⟨f, hf, .inr ?_⟩
      rw [if_pos hfid]
      exact List.mem_map.mpr ⟨id, hid, rfl⟩

theorem fid2mstid_mem_commands (stp : Stp) (mac : String) :
    ∃ f ∈ commands stp mac, f.isFid2mstid = true :=
  ⟨_, mem_commands.mpr (.inr (.inr (.inl ⟨.fid2mstid, rfl⟩))), rfl⟩

/-- The cached configuration has the tree. -/
def cachedTree (previous : Option StpApplied) (id : UInt16) : Prop :=
  ∃ a, previous = some a ∧ id ∈ a.stp.mstis

theorem mem_goneTrees (id : UInt16) :
    id ∈ goneTrees previous stp ↔ cachedTree previous id ∧ id ∉ stp.mstis := by
  cases previous with
  | none => simp [goneTrees, cachedTree]
  | some a =>
    have hmem : (!stp.mstis.contains id) = true ↔ id ∉ stp.mstis := by
      rw [Bool.not_eq_true', ← Bool.not_eq_true, ExtTreeMap.contains_iff_mem]
    simp only [goneTrees, cachedTree, List.mem_filter, ExtTreeMap.mem_keys, hmem,
      Option.some.injEq, exists_eq_left']

theorem createTree_mem_ranCommands (id : UInt16) :
    .createTree id ∈ ranCommands previous ↔ cachedTree previous id := by
  cases previous with
  | none => simp [ranCommands, cachedTree]
  | some a =>
    obtain ⟨mac, hmac⟩ := a.complete
    simp [ranCommands, cachedTree, hmac, createTree_mem_commands]

/-- Once a timer has changed, the forward delay is the last timer command again. -/
theorem changedCommands_fdelay (changed : timersChanged previous (commands stp mac)) :
    lastWriter (configureCommands previous stp mac) (.setting (.bridge .fdelay)) =
      some (.set (.bridge .fdelay) (bridgeValue stp mac .fdelay)) := by
  obtain ⟨before, after, hsplit, hafter⟩ := commands_fdelay stp mac
  have hany : ((commands stp mac).any fun c =>
      c.isTimer && !((previous.map StpApplied.commands).getD []).contains c) = true := by
    obtain ⟨c, member, timer, new⟩ := changed
    exact List.any_eq_true.mpr ⟨c, member, by simpa [timer, ranCommands] using new⟩
  have htimer : (Command.set (.bridge .fdelay) (bridgeValue stp mac .fdelay)).isTimer = true := rfl
  have hfid : (Command.set (.bridge .fdelay) (bridgeValue stp mac .fdelay)).isFid2mstid = false :=
    rfl
  unfold configureCommands changedCommands
  simp only [hany]
  rw [hsplit, List.flatMap_append, List.flatMap_cons, ← List.cons_append]
  simp only [htimer, hfid, Bool.and_true, Bool.or_true, if_true, Bool.false_eq_true, if_false,
    List.append_nil, List.singleton_append]
  refine lastTouch_of_split (by simp [Command.touches]) fun c member => ?_
  obtain ⟨c', member', h⟩ := List.mem_flatMap.mp member
  rcases List.mem_append.mp h with h | h
  · split at h
    · rw [List.mem_singleton.mp h]
      exact hafter c' member'
    · cases h
  · split at h
    · obtain ⟨id, -, rfl⟩ := List.mem_map.mp h
      rfl
    · cases h

/-- What a run of `configure` consists of. -/
theorem mem_configureCommands (previous : Option StpApplied) (c : Command) :
    c ∈ configureCommands previous stp mac ↔ c = .addBridge ∨
      (c ∈ commands stp mac ∧ (c ∉ ranCommands previous ∨
        timersChanged previous (commands stp mac) ∧ c.isTimer = true)) ∨
      ∃ id ∈ goneTrees previous stp, c = .deleteTree id := by
  rw [configureCommands, List.mem_cons, mem_changedCommands,
    and_iff_right (fid2mstid_mem_commands stp mac)]

/-- The changed commands create the trees that are new and delete those that are
gone, and touch no other tree. -/
theorem changedCommands_tree {c : Command} {id : UInt16} (touched : c.touches (.tree id) = true) :
    c ∈ changedCommands previous (commands stp mac) stp ↔
      (c = .createTree id ∧ id ∈ stp.mstis ∧ ¬ cachedTree previous id) ∨
        (c = .deleteTree id ∧ cachedTree previous id ∧ id ∉ stp.mstis) := by
  rw [mem_changedCommands, and_iff_right (fid2mstid_mem_commands stp mac)]
  cases c with
  | createTree id' =>
    obtain rfl : id = id' := by simpa [Command.touches] using touched
    simp [createTree_mem_commands, createTree_mem_ranCommands, Command.isTimer]
  | deleteTree id' =>
    obtain rfl : id = id' := by simpa [Command.touches, Cell.treeOf] using touched
    simp [mem_commands, treeCommand, mem_goneTrees]
  | set s value => simp [Command.touches] at touched
  | addBridge | delBridge => simp [mem_commands, treeCommand]
  | debugLevel => simp [Command.touches] at touched

/-- The trees after `configure` has run its commands. -/
theorem configureCommands_hasTree (b : BridgeData) (id : UInt16) :
    (execAll (configureCommands previous stp mac) b).HasTree id ↔
      (id = 0 ∨ b.HasTree id ∨ id ∈ stp.mstis ∧ ¬ cachedTree previous id) ∧
        ¬ (cachedTree previous id ∧ id ∉ stp.mstis) := by
  have hcons : execAll (configureCommands previous stp mac) b =
      execAll (changedCommands previous (commands stp mac) stp) (Command.addBridge.exec b) := rfl
  have hadd : (Command.addBridge.exec b).HasTree id ↔ id = 0 ∨ b.HasTree id := by
    by_cases hid : id = 0 <;>
      simp [BridgeData.HasTree, Command.exec, Command.touches, Command.leaves, hid]
  rw [hcons, BridgeData.HasTree, execAll_cell]
  by_cases hnew : id ∈ stp.mstis ∧ ¬ cachedTree previous id
  · have hlast : lastWriter (changedCommands previous (commands stp mac) stp) (.tree id) =
        some (.createTree id) := by
      have touched : (Command.createTree id).touches (.tree id) = true := by
        simp [Command.touches]
      refine lastTouch_of_unique ((changedCommands_tree touched).mpr (.inl ⟨rfl, hnew⟩)) touched ?_
      intro c member touched
      rcases (changedCommands_tree touched).mp member with ⟨rfl, -⟩ | ⟨-, hgone⟩
      · rfl
      · exact absurd hnew.1 hgone.2
    simp [hlast, Command.leaves, hnew]
  · by_cases hgone : cachedTree previous id ∧ id ∉ stp.mstis
    · have hlast : lastWriter (changedCommands previous (commands stp mac) stp) (.tree id) =
          some (.deleteTree id) := by
        have touched : (Command.deleteTree id).touches (.tree id) = true := by
          simp [Command.touches, Cell.treeOf]
        refine lastTouch_of_unique ((changedCommands_tree touched).mpr (.inr ⟨rfl, hgone⟩))
          touched ?_
        intro c member touched
        rcases (changedCommands_tree touched).mp member with ⟨-, h⟩ | ⟨rfl, -⟩
        · exact absurd h hnew
        · rfl
      simp [hlast, Command.leaves, hgone]
    · have hlast : lastWriter (changedCommands previous (commands stp mac) stp) (.tree id) =
          none := by
        refine lastTouch_eq_none.mpr fun c member => ?_
        by_contra htouch
        rw [Bool.not_eq_false] at htouch
        rcases (changedCommands_tree htouch).mp member with ⟨-, h⟩ | ⟨-, h⟩
        · exact hnew h
        · exact hgone h
      rw [hlast, Option.map_none, Option.getD_none]
      exact hadd.trans (by simp only [hnew, hgone, or_false, not_false_iff, and_true])

end Changed

end ClixonSwitch.Source.SwitchNet
