import ClixonSwitch.Lib.Total
import ClixonSwitch.Source.Plugin.Transactions

/-!
# What the stages of `apply` need and keep

Of all stages only `reconcile` calls on the kernel. `KeepsUnplanned` says what the other
calls of a platform keep, and `Cooperative` that they succeed; for each stage follows what
it keeps and that it succeeds.
-/
namespace ClixonSwitch.Source.Plugin
open Lib Source.SwitchModel Source.SwitchNet

variable {ω : Type}

/-- Every call that is neither on the kernel nor for the agent keeps `inv`. -/
structure Platform.KeepsBesides (platform : Platform ω) (inv : ω → Prop) : Prop where
  mstpd : platform.mstpd.Keeps inv
  dhcpSpawn : ∀ interface hostname w, inv w → inv (platform.dhcp.spawn interface hostname w).2
  dhcpRunning : ∀ pid w, inv w → inv (platform.dhcp.running pid w).2
  dhcpStop : ∀ interface pid w, inv w → inv (platform.dhcp.stop interface pid w)
  interfaceMacs : ∀ w, inv w → inv (platform.interfaceMacs w).2
  hostname : ∀ w, inv w → inv (platform.hostname w).2
  system : ∀ w, inv w → inv (platform.system w).2

/-- Every call that is none on the kernel keeps `inv`. -/
structure Platform.KeepsUnplanned (platform : Platform ω) (inv : ω → Prop) : Prop
    extends platform.KeepsBesides inv where
  snmp : ∀ conf w, inv w → inv (platform.snmp conf w).2

/-- Processes start and commands succeed, and a bridge that exists has a MAC address. -/
structure Platform.Cooperative (platform : Platform ω) (bridged : ω → Prop) : Prop where
  mstpdSpawn : ∀ w, ∃ pid w', platform.mstpd.spawn w = (.ok pid, w')
  mstpctl : ∀ c w, ∃ w', platform.mstpd.run c w = (.ok (), w')
  dhcpSpawn : ∀ interface hostname w, ∃ pid w',
    platform.dhcp.spawn interface hostname w = (.ok pid, w')
  bridgeMac : ∀ w, bridged w → ∃ macs w' mac octets, platform.interfaceMacs w = (.ok macs, w') ∧
    macs[bridgeName]? = some (some mac) ∧ parseMac mac = some octets
  snmp : ∀ conf w, ∃ w', platform.snmp conf w = (.ok (), w')

section Keeps
variable {platform : Platform ω} {inv : ω → Prop}

/-- The world of a plugin has `inv`. -/
def WorldHas (inv : ω → Prop) (s : SwitchPlugin × ω) : Prop := inv s.2

section Besides
variable (keeps : platform.KeepsBesides inv)
include keeps

theorem stopUnwanted_keeps_world (c : DhcpClients) (wanted : Option String) {w : ω} (h : inv w) :
    inv (c.stopUnwanted platform.dhcp wanted w).2.2 := by
  unfold DhcpClients.stopUnwanted
  split
  · exact h
  · next interface pid _ =>
    have hrunning := keeps.dhcpRunning pid w h
    split
    · next hrun =>
      rw [hrun] at hrunning
      exact hrunning
    · next hrun =>
      rw [hrun] at hrunning
      split
      · exact hrunning
      · exact keeps.dhcpStop _ _ _ hrunning

theorem stopRelinked_keeps_world (c : DhcpClients)
    (relinked : Bool) {w : ω} (h : inv w) : inv (c.stopRelinked platform.dhcp relinked w).2.2 := by
  unfold DhcpClients.stopRelinked
  split
  · exact keeps.dhcpStop _ _ _ h
  · exact h

theorem start_keeps_world (c : DhcpClients) (wanted hostname : Option String) {w : ω} (h : inv w) :
    inv (c.start platform.dhcp wanted hostname w).2.2 := by
  unfold DhcpClients.start
  split
  · next interface _ =>
    have hspawn := keeps.dhcpSpawn interface hostname w h
    split
    · next heq => simpa only [heq] using hspawn
    · next heq => simpa only [heq] using hspawn
  · exact h

theorem sync_keeps_world (c : DhcpClients)
    (wanted : Option String) (relinked : Bool) (hostname : Option String) {w : ω} (h : inv w) :
    inv (c.sync platform.dhcp wanted relinked hostname w).2.2 := by
  have hunwanted := stopUnwanted_keeps_world keeps c wanted h
  cases hfirst : c.stopUnwanted platform.dhcp wanted w with
  | mk unwanted rest =>
  obtain ⟨c₁, w₁⟩ := rest
  rw [hfirst] at hunwanted
  have hrelinked := stopRelinked_keeps_world keeps c₁ relinked hunwanted
  cases hsecond : c₁.stopRelinked platform.dhcp relinked w₁ with
  | mk stale rest =>
  obtain ⟨c₂, w₂⟩ := rest
  rw [hsecond] at hrelinked
  have hstart := start_keeps_world keeps c₂ wanted hostname hrelinked
  simp only [DhcpClients.sync, hfirst, hsecond]
  split
  · next heq => simpa only [heq] using hstart
  · next heq => simpa only [heq] using hstart

theorem stopUnwanted_keeps (wanted : Option String) :
    Failing.Keeps (WorldHas inv) (stopUnwanted platform wanted) :=
  fun s h => stopUnwanted_keeps_world keeps s.1.dhcp wanted h

theorem prepareMstpd_keeps (wanted : Bool) :
    Failing.Keeps (WorldHas inv) (prepareMstpd platform wanted) :=
  fun s h => Mstpd.prepare_keeps (m := s.1.mstpd) keeps.mstpd wanted h

theorem readBridgeMac_keeps : Failing.Keeps (WorldHas inv) (readBridgeMac platform) := by
  rintro ⟨p, w⟩ h
  have hmacs := keeps.interfaceMacs w h
  simp only [WorldHas, readBridgeMac]
  split
  · next heq => simpa only [heq] using hmacs
  · next heq => simpa only [heq] using hmacs

theorem macForStp_keeps (stp : Bool) : Failing.Keeps (WorldHas inv) (macForStp platform stp) := by
  unfold macForStp
  split
  · exact readBridgeMac_keeps keeps
  · exact Failing.Keeps.pure _

theorem configureStp_keeps (stp : Option Stp) (bridgeMac : String) (ops : List Op) :
    Failing.Keeps (WorldHas inv) (configureStp platform stp bridgeMac ops) := by
  unfold configureStp
  split
  · exact fun s h =>
      Mstpd.configure_keeps (m := s.1.mstpd) keeps.mstpd.toKeepsPolling stp bridgeMac _ h
  · exact Failing.Keeps.pure _

theorem syncDhcp_keepsBesides (wanted : Option String)
    (relinked : Bool) : Failing.Keeps (WorldHas inv) (syncDhcp platform wanted relinked) := by
  rintro ⟨p, w⟩ h
  have hsync := sync_keeps_world keeps p.dhcp wanted relinked (platform.hostname w).1
    (keeps.hostname w h)
  simp only [WorldHas, syncDhcp]
  split
  · next heq => simpa only [heq] using hsync
  · next heq => simpa only [heq] using hsync

theorem engineIdInUse_keeps (snmp : Snmp) :
    Failing.Keeps (WorldHas inv) (engineIdInUse platform snmp) := by
  unfold engineIdInUse
  split
  · exact Failing.Keeps.pure _
  · refine (readBridgeMac_keeps keeps).bind fun mac => ?_
    split
    · exact Failing.Keeps.pure _
    · exact fun _ h => h

end Besides

theorem runSnmpd_keeps (keeps : platform.KeepsUnplanned inv) (conf : Option String) :
    Failing.Keeps (WorldHas inv) (runSnmpd platform conf) := by
  rintro ⟨p, w⟩ h
  have hsnmp := keeps.snmp conf w h
  simp only [WorldHas, runSnmpd]
  split
  · next heq => simpa only [heq] using hsnmp
  · next heq => simpa only [heq] using hsnmp

theorem syncSnmp_keeps (keeps : platform.KeepsUnplanned inv) (d : DesiredState) :
    Failing.Keeps (WorldHas inv) (syncSnmp platform d) := by
  have hset : ∀ id, Failing.Keeps (WorldHas inv) (setEngineId (ω := ω) id) := fun _ _ h => h
  have hsystem : Failing.Keeps (WorldHas inv) (readSystem platform) := by
    rintro ⟨p, w⟩ h
    exact keeps.system w h
  unfold syncSnmp
  split
  · exact (hset none).bind fun _ => runSnmpd_keeps keeps none
  · next snmp _ =>
    exact (engineIdInUse_keeps keeps.toKeepsBesides snmp).bind fun id => hsystem.bind fun system =>
      (hset (some id)).bind fun _ => runSnmpd_keeps keeps _

theorem apply_keeps (keeps : platform.KeepsUnplanned inv) (d : DesiredState)
    (net : Failing.Keeps (WorldHas inv) (reconcileNet platform d)) :
    Failing.Keeps (WorldHas inv) (apply platform d) := by
  have hkernel : Failing.Keeps (WorldHas inv) (applyKernel platform d) :=
    (stopUnwanted_keeps keeps.toKeepsBesides _).bind fun _ =>
      (prepareMstpd_keeps keeps.toKeepsBesides _).bind fun _ => net.bind fun _ =>
        (macForStp_keeps keeps.toKeepsBesides _).bind fun _ => Failing.Keeps.pure _
  have hstp : Failing.Keeps (WorldHas inv) (applyStp platform d) :=
    hkernel.bind fun _ => (configureStp_keeps keeps.toKeepsBesides _ _ _).bind fun _ =>
      Failing.Keeps.pure _
  exact hstp.bind fun _ => (syncDhcp_keepsBesides keeps.toKeepsBesides _ _).bind fun _ =>
    (syncSnmp_keeps keeps d).bind fun _ _ h => h

end Keeps

section Agent
variable {env : SnmpdEnv ω} {inv : ω → Prop}

/-- What every call for the agent keeps. -/
structure Agent.Keeps (env : SnmpdEnv ω) (inv : ω → Prop) : Prop where
  spawn : ∀ program w, inv w → inv (env.spawn program w).2
  running : ∀ pid w, inv w → inv (env.running pid w).2
  stop : ∀ pid w, inv w → inv (env.stop pid w)
  writeConf : ∀ text w, inv w → inv (env.writeConf text w).2
  createPersistentDir : ∀ w, inv w → inv (env.createPersistentDir w).2
  readPersistent : ∀ w, inv w → inv (env.readPersistent w).2
  writePersistent : ∀ text w, inv w → inv (env.writePersistent text w).2
  removeSocket : ∀ w, inv w → inv (env.removeSocket w)
  socketExists : ∀ w, inv w → inv (env.socketExists w).2
  expired : ∀ w, inv w → inv (env.expired w).2

/-- The world of an agent has `inv`. -/
def AgentWorldHas (inv : ω → Prop) (s : Snmpd × ω) : Prop := inv s.2

variable (keeps : Agent.Keeps env inv)
include keeps

theorem Agent.forgetExited_keeps (program : SnmpProgram) :
    Failing.Keeps (AgentWorldHas inv) (Snmpd.forgetExited env program) := by
  rintro ⟨s, w⟩ h
  cases hslot : s.slot program with
  | none =>
    simp only [AgentWorldHas, Snmpd.forgetExited, hslot]
    exact h
  | some pid =>
    have hrunning := keeps.running pid w h
    simp only [AgentWorldHas, Snmpd.forgetExited, hslot]
    split
    · next heq => simpa only [heq] using hrunning
    · next heq => simpa only [heq] using hrunning

theorem Agent.stop_keeps : Failing.Keeps (AgentWorldHas inv) (Snmpd.stop env) := by
  have hprogram : ∀ program, Failing.Keeps (AgentWorldHas inv) (Snmpd.stopProgram env program) := by
    rintro program ⟨s, w⟩ h
    cases hslot : s.slot program with
    | none =>
      simp only [AgentWorldHas, Snmpd.stopProgram, hslot]
      exact h
    | some pid =>
      simp only [AgentWorldHas, Snmpd.stopProgram, hslot]
      exact keeps.stop pid w h
  exact (hprogram .clixonSnmp).bind fun _ => (hprogram .snmpd).bind fun _ =>
    Failing.Keeps.bind (x := Snmpd.clearConf) (fun _ h => h) fun _ => Failing.Keeps.pure _

theorem Agent.launch_keeps (program : SnmpProgram) (record : UInt32 → Snmpd → Snmpd) :
    Failing.Keeps (AgentWorldHas inv) (Snmpd.launch env program record) := by
  rintro ⟨s, w⟩ h
  have hspawn := keeps.spawn program w h
  simp only [AgentWorldHas, Snmpd.launch]
  split
  · next heq => simpa only [heq] using hspawn
  · next heq => simpa only [heq] using hspawn

theorem Agent.prepareFiles_keeps (conf : String) :
    Failing.Keeps (AgentWorldHas inv) (Snmpd.prepareFiles env conf) := by
  have hfile : ∀ (call : ω → Except String Unit × ω) (what path : String),
      (∀ w, inv w → inv (call w).2) →
      Failing.Keeps (AgentWorldHas inv) (Snmpd.onFile call what path) := by
    rintro call what path hcall ⟨s, w⟩ h
    have hafter := hcall w h
    simp only [AgentWorldHas, Snmpd.onFile]
    split
    · next heq => simpa only [heq] using hafter
    · next heq => simpa only [heq] using hafter
  have hsocket : Failing.Keeps (AgentWorldHas inv) (Snmpd.removeSocket env) :=
    fun s h => keeps.removeSocket s.2 h
  have hread : Failing.Keeps (AgentWorldHas inv) (Snmpd.readPersistent env) :=
    fun s h => keeps.readPersistent s.2 h
  refine (hfile _ _ _ (keeps.writeConf conf)).bind fun _ =>
    (hfile _ _ _ keeps.createPersistentDir).bind fun _ => hread.bind fun text => ?_
  cases text with
  | none => exact fun s h => hsocket s h
  | some text => exact (hfile _ _ _ (keeps.writePersistent _)).bind fun _ => hsocket

theorem Agent.waitSocket_keeps (pid : UInt32) (polls : Nat) (s : Snmpd) (w : ω) (h : inv w) :
    inv (Snmpd.waitSocket env pid polls (s, w)).2.2 := by
  induction polls generalizing w
  all_goals
    have hexists := keeps.socketExists w h
    have hrunning := keeps.running pid _ hexists
    have hexpired := keeps.expired _ hrunning
    unfold Snmpd.waitSocket
    grind

/-- What every call for the agent keeps, `sync` keeps. -/
theorem Agent.sync_keeps (conf : Option String) :
    Failing.Keeps (AgentWorldHas inv) (Snmpd.sync env conf) := by
  have hstart : ∀ conf, Failing.Keeps (AgentWorldHas inv) (Snmpd.startSnmpd env conf) :=
    fun conf => (Agent.prepareFiles_keeps keeps conf).bind fun _ =>
      (Agent.launch_keeps keeps _ _).bind fun pid =>
        Failing.Keeps.bind (x := Snmpd.waitSocket env pid Snmpd.socketPolls)
          (fun s h => Agent.waitSocket_keeps keeps pid _ s.1 s.2 h) fun _ => Failing.Keeps.pure _
  have hrestart : ∀ conf, Failing.Keeps (AgentWorldHas inv) (Snmpd.restartIf env conf) := by
    rintro conf ⟨s, w⟩ h
    simp only [Snmpd.restartIf]
    split
    · exact ((Agent.stop_keeps keeps).bind fun _ => (hstart conf).bind fun _ =>
        Failing.Keeps.pure _) (s, w) h
    · exact h
  have hsub : Failing.Keeps (AgentWorldHas inv) (Snmpd.startSubagent env) := by
    rintro ⟨s, w⟩ h
    simp only [Snmpd.startSubagent]
    split
    · exact h
    · exact ((Agent.launch_keeps keeps _ _).bind fun _ => Failing.Keeps.pure _) (s, w) h
  refine (Agent.forgetExited_keeps keeps _).bind fun _ =>
    (Agent.forgetExited_keeps keeps _).bind fun _ => ?_
  cases conf with
  | none => exact (Agent.stop_keeps keeps).bind fun _ => Failing.Keeps.pure _
  | some conf => exact (hrestart conf).bind fun _ => hsub.bind fun _ => Failing.Keeps.pure _

theorem withSnmpd_snmp_keeps (platform : Platform ω) (conf : Option String) (y : Snmpd × ω)
    (h : inv y.2) : inv ((platform.withSnmpd env).snmp conf y).2.2 := by
  have hsync := Agent.sync_keeps keeps conf y h
  simp only [Platform.withSnmpd]
  split
  · next heq => simpa only [AgentWorldHas, heq] using hsync
  · next heq => simpa only [AgentWorldHas, heq] using hsync

end Agent

section Total
variable {platform : Platform ω} {bridged : ω → Prop}

/-- A stage that is not asked for a postcondition. -/
abbrev Succeeds {α : Type} (pre : ω → Prop) (x : PluginM ω α) : Prop :=
  Failing.Total (WorldHas pre) x fun _ _ => True

theorem stopUnwanted_succeeds (platform : Platform ω) (wanted : Option String) :
    Succeeds (fun _ => True) (stopUnwanted platform wanted) :=
  fun _ _ => ⟨_, _, rfl, trivial⟩

variable (coop : platform.Cooperative bridged)
include coop

theorem prepareMstpd_succeeds (wanted : Bool) :
    Succeeds (fun _ => True) (prepareMstpd platform wanted) := by
  rintro ⟨p, w⟩ -
  have hok : ∃ events m w', p.mstpd.prepare platform.mstpd wanted w = (.ok events, m, w') := by
    unfold Mstpd.prepare
    obtain ⟨events, m, w₀⟩ := p.mstpd.forgetExited platform.mstpd w
    simp only
    split
    · obtain ⟨pid, w₁, hspawn⟩ := coop.mstpdSpawn w₀
      obtain ⟨w₂, hrun⟩ := coop.mstpctl .debugLevel w₁
      have hready : waitReady platform.mstpd pid startPolls w₁ = (.ok (), w₂) := by
        unfold waitReady
        rw [hrun]
      simp only [hspawn, hready]
      exact ⟨_, _, _, rfl⟩
    · exact ⟨_, _, _, rfl⟩
    · exact ⟨_, _, _, rfl⟩
  obtain ⟨events, m, w', hok⟩ := hok
  exact ⟨events, ({ p with mstpd := m }, w'), by simp only [prepareMstpd, hok], trivial⟩

theorem readBridgeMac_total : Failing.Total (WorldHas bridged) (readBridgeMac platform)
      fun mac _ => ∃ octets, mac.bind parseMac = some octets := by
  rintro ⟨p, w⟩ h
  obtain ⟨macs, w', mac, octets, hmacs, hbridge, hparse⟩ := coop.bridgeMac w h
  refine ⟨some mac, (p, w'), ?_, octets, hparse⟩
  simp only [readBridgeMac, hmacs, hbridge]
  rfl

theorem macForStp_succeeds (stp : Bool) : Succeeds bridged (macForStp platform stp) := by
  unfold macForStp
  split
  · intro s hs
    obtain ⟨mac, s', hread, -⟩ := readBridgeMac_total coop s hs
    exact ⟨mac, s', hread, trivial⟩
  · exact Failing.Total.pure fun _ _ => trivial

theorem configureStp_succeeds (stp : Option Stp) (bridgeMac : String) (ops : List Op) :
    Succeeds (fun _ => True) (configureStp platform stp bridgeMac ops) := by
  unfold configureStp
  split
  · rintro ⟨p, w⟩ -
    cases stp with
    | none => exact ⟨(), (p, w), rfl, trivial⟩
    | some stp =>
      obtain ⟨w', hrun⟩ := runAll_total coop.mstpctl
        (configureCommands (p.mstpd.previous (needsResend ops)) stp bridgeMac) w
      exact ⟨(), ({ p with mstpd := { p.mstpd with applied := some (.of stp bridgeMac) } }, w'),
        by simp only [configureMstpd, Mstpd.configure, hrun], trivial⟩
  · exact Failing.Total.pure fun _ _ => trivial

theorem syncDhcp_succeeds (wanted : Option String)
    (relinked : Bool) : Succeeds (fun _ => True) (syncDhcp platform wanted relinked) := by
  rintro ⟨p, w⟩ -
  have hstart : ∀ (c : DhcpClients) (hostname : Option String) (w : ω), ∃ events c' w',
      c.start platform.dhcp wanted hostname w = (.ok events, c', w') := by
    intro c hostname w
    unfold DhcpClients.start
    split
    · next interface _ =>
      obtain ⟨pid, w', hspawn⟩ := coop.dhcpSpawn interface hostname w
      rw [hspawn]
      exact ⟨_, _, _, rfl⟩
    · exact ⟨_, _, _, rfl⟩
  have hok : ∀ (hostname : Option String) (w : ω), ∃ events c w',
      p.dhcp.sync platform.dhcp wanted relinked hostname w = (.ok events, c, w') := by
    intro hostname w
    unfold DhcpClients.sync
    simp only
    obtain ⟨events, c, w', hok⟩ := hstart
      ((p.dhcp.stopUnwanted platform.dhcp wanted w).2.1.stopRelinked platform.dhcp relinked
        (p.dhcp.stopUnwanted platform.dhcp wanted w).2.2).2.1 hostname
      ((p.dhcp.stopUnwanted platform.dhcp wanted w).2.1.stopRelinked platform.dhcp relinked
        (p.dhcp.stopUnwanted platform.dhcp wanted w).2.2).2.2
    rw [hok]
    exact ⟨_, _, _, rfl⟩
  obtain ⟨events, c, w', hsync⟩ := hok (platform.hostname w).1 (platform.hostname w).2
  exact ⟨events, ({ p with dhcp := c }, w'), by simp only [syncDhcp, hsync], trivial⟩

theorem runSnmpd_succeeds (conf : Option String) :
    Succeeds (fun _ => True) (runSnmpd platform conf) := by
  rintro ⟨p, w⟩ -
  obtain ⟨w', hsnmp⟩ := coop.snmp conf w
  exact ⟨(), (p, w'), by simp only [runSnmpd, hsnmp], trivial⟩

theorem engineIdInUse_succeeds (snmp : Snmp) : Succeeds bridged (engineIdInUse platform snmp) := by
  unfold engineIdInUse
  split
  · exact Failing.Total.pure fun _ _ => trivial
  · refine (readBridgeMac_total coop).bind fun mac => ?_
    rintro s ⟨octets, hparse⟩
    simp only [hparse]
    exact ⟨_, s, rfl, trivial⟩

theorem syncSnmp_succeeds (d : DesiredState) : Succeeds bridged (syncSnmp platform d) := by
  have hset : ∀ id, Succeeds (fun _ => True) (setEngineId (ω := ω) id) :=
    fun _ _ _ => ⟨_, _, rfl, trivial⟩
  have hsystem : Succeeds (fun _ => True) (readSystem platform) := fun _ _ => ⟨_, _, rfl, trivial⟩
  unfold syncSnmp
  split
  · intro s _
    exact ((hset none).bind fun _ => runSnmpd_succeeds coop none) s trivial
  · next snmp _ =>
    exact (engineIdInUse_succeeds coop snmp).bind fun id => hsystem.bind fun system =>
      (hset (some id)).bind fun _ => runSnmpd_succeeds coop _

end Total

/-- Processes that start, and a kernel that nothing but operations changes. -/
def bench (net : NetBackend ActualState) : Platform ActualState where
  net := net
  mstpd :=
    { spawn := fun s => (.ok 100, s)
      running := fun _ s => (true, s)
      stop := fun _ s => s
      run := fun _ s => (.ok (), s)
      expired := fun s => (false, s) }
  dhcp :=
    { spawn := fun _ _ s => (.ok 200, s)
      running := fun _ s => (true, s)
      stop := fun _ _ s => s }
  interfaceMacs s := (.ok (BTreeMap.collect [(bridgeName, some "02:00:00:00:00:01")]), s)
  hostname s := (some "switch", s)
  system s := ((none, none), s)
  snmp _ s := (.ok (), s)
  agentxSocket := "/run/agentx.sock"

end ClixonSwitch.Source.Plugin
