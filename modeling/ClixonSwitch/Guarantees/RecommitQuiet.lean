import ClixonSwitch.Guarantees.InLine
import ClixonSwitch.Guarantees.MstpdResend
import ClixonSwitch.Source.SwitchNet.Changed

/-!
# Committing the same configuration again

Some commits change nothing that this plugin is responsible for, and a commit that was
interrupted is repeated. If the processes that a commit left still run, applying the same
desired state once more sends mstpd one addbridge if spanning tree is on, and does nothing
else: no operation, no process started or stopped, no file written.
-/
namespace ClixonSwitch.Guarantees
open Lib Source.SwitchModel Source.SwitchNet
  ClixonSwitch.Source.Plugin

variable {ω : Type}

/-- What is read is what there is: a state that is observed is the kernel's, the MAC
addresses are those of its links and the system has one name and version. Nothing but the
planned operations changes the kernel. -/
structure Reads (platform : Platform ω) (env : SnmpdEnv ω) (kernel : ω → ActualState)
    (macs : ActualState → BTreeMap String (Option String)) (host : Option String × Option String) :
    Prop where
  observe : ∀ w actual w', platform.net.observe w = (.ok actual, w') → actual = kernel w'
  macs : ∀ w read w', platform.interfaceMacs w = (.ok read, w') → read = macs (kernel w')
  system : ∀ w, (platform.system w).1 = host
  unplanned : ∀ k, (platform.withSnmpd env).KeepsUnplanned fun y => kernel y.2 = k

/-- At `w` reading succeeds and changes nothing, and every recorded process runs. -/
structure Still (platform : Platform ω) (env : SnmpdEnv ω) (p : SwitchPlugin) (agent : Snmpd)
    (w : ω) : Prop where
  observe : ∃ actual, platform.net.observe w = (.ok actual, w)
  macs : ∃ read, platform.interfaceMacs w = (.ok read, w)
  hostname : (platform.hostname w).2 = w
  system : (platform.system w).2 = w
  mstpdRuns : ∀ pid, p.mstpd.pid = some pid → platform.mstpd.running pid w = (true, w)
  dhcpRuns : ∀ client, p.dhcp.client = some client → platform.dhcp.running client.2 w = (true, w)
  agentRuns : ∀ program pid, agent.slot program = some pid → env.running pid w = (true, w)

/-- The MAC address that mstpd is configured with. -/
def bridgeMacOf (macs : BTreeMap String (Option String)) : String :=
  (macs[bridgeName]?.bind id).getD ""

/-- The engine ID for `snmp` on a switch with these MAC addresses. -/
def engineIdOf (macs : BTreeMap String (Option String)) (snmp : Snmp) : Option (List UInt8) :=
  match snmp.engineId with
  | some id => some id
  | none => ((macs[bridgeName]?.bind id).bind parseMac).map defaultEngineId

/-- The configuration that the agent needs for `d`. -/
def agentConf (socket : String) (macs : BTreeMap String (Option String))
    (host : Option String × Option String) (d : DesiredState) : Option String :=
  d.snmp.bind fun snmp => (engineIdOf macs snmp).map fun id =>
    snmpdConf snmp ⟨id, socket, d.system, systemDescription host⟩

/-- What a successful `apply` of `d` leaves in the plugin, exactly. -/
structure AsApplied (socket : String) (macs : BTreeMap String (Option String))
    (host : Option String × Option String) (d : DesiredState) (p : SwitchPlugin) (agent : Snmpd) :
    Prop where
  applied : p.applied = d
  process : p.mstpd.pid ≠ none ↔ d.stp.isSome = true
  settings : p.mstpd.applied = d.stp.map fun stp => .of stp (bridgeMacOf macs)
  dhcp : p.dhcp.client.map Prod.fst = d.dhcpSvi
  engineId : p.engineId = d.snmp.bind (engineIdOf macs)
  known : ∀ snmp, d.snmp = some snmp → (engineIdOf macs snmp).isSome = true
  agent : RecordedWith (agentConf socket macs host d) agent

variable {platform : Platform ω} {env : SnmpdEnv ω} {kernel : ω → ActualState}
  {macs : ActualState → BTreeMap String (Option String)} {host : Option String × Option String}
  {d : DesiredState} {p : SwitchPlugin} {agent : Snmpd} {w : ω}

section Commands

/-- Nothing has changed since the commands of the same settings. -/
theorem configureCommands_same (stp : Stp) (mac : String) :
    configureCommands (some (.of stp mac)) stp mac = [.addBridge] := by
  have hran : ranCommands (some (.of stp mac)) = commands stp mac := rfl
  have hgone : goneTrees (some (.of stp mac)) stp = [] := by
    simp only [goneTrees, StpApplied.of, List.filter_eq_nil_iff]
    intro id hid
    have hin : id ∈ stp.mstis := Std.ExtTreeMap.mem_keys.mp hid
    simpa using hin
  rw [configureCommands, List.cons.injEq, List.eq_nil_iff_forall_not_mem]
  refine ⟨rfl, fun c hc => ?_⟩
  rcases (mem_changedCommands _ c).mp hc with ⟨hnext, hnew | ⟨⟨c', hc', -, hnew⟩, -⟩⟩ | ⟨-, id, hid, -⟩
  · exact hnew (hran ▸ hnext)
  · exact hnew (hran ▸ hc')
  · rw [hgone] at hid
    cases hid

end Commands

section Leaves

/-- What is left of a successful run of the stages before the agent. -/
structure StagesDone (kernel : ω → ActualState)
    (macs : ActualState → BTreeMap String (Option String)) (d : DesiredState)
    (s : SwitchPlugin × Snmpd × ω) : Prop where
  planned : plan d (kernel s.2.2) = .ok []
  platformOps : (kernel s.2.2).platformOps = []
  process : s.1.mstpd.pid ≠ none ↔ d.stp.isSome = true
  settings : s.1.mstpd.applied = d.stp.map fun stp => .of stp (bridgeMacOf (macs (kernel s.2.2)))

variable (reads : Reads platform env kernel macs host)
include reads

theorem Reads.readBridgeMac_ok {mac : Option String} {s' : SwitchPlugin × Snmpd × ω}
    (h : readBridgeMac (platform.withSnmpd env) (p, agent, w) = (.ok mac, s')) :
    mac = (macs (kernel w))[bridgeName]?.bind id ∧ s'.1 = p ∧ kernel s'.2.2 = kernel w := by
  have hkernel := (reads.unplanned (kernel w)).interfaceMacs (agent, w) rfl
  cases hread : platform.interfaceMacs w with
  | mk result w' =>
    simp only [readBridgeMac, Platform.withSnmpd, beside, hread] at h hkernel
    cases result with
    | error e => cases h
    | ok read =>
      cases h
      obtain rfl := reads.macs w read w' hread
      exact ⟨by rw [show kernel w' = kernel w from hkernel], rfl, hkernel⟩

theorem Reads.macForStp_ok {stp : Bool} {mac : Option String} {s' : SwitchPlugin × Snmpd × ω}
    (h : macForStp (platform.withSnmpd env) stp (p, agent, w) = (.ok mac, s')) :
    s'.1 = p ∧ kernel s'.2.2 = kernel w ∧
      (stp = true → mac.getD "" = bridgeMacOf (macs (kernel w))) := by
  cases stp with
  | false =>
    cases h
    exact ⟨rfl, rfl, fun h => nomatch h⟩
  | true =>
    obtain ⟨rfl, hp, hkernel⟩ := reads.readBridgeMac_ok h
    exact ⟨hp, hkernel, fun _ => rfl⟩

theorem Reads.engineIdInUse_ok {snmp : Snmp} {engineId : List UInt8} {s' : SwitchPlugin × Snmpd × ω}
    (h : engineIdInUse (platform.withSnmpd env) snmp (p, agent, w) = (.ok engineId, s')) :
    engineIdOf (macs (kernel w)) snmp = some engineId ∧ s'.1 = p := by
  unfold engineIdInUse at h
  unfold engineIdOf
  cases hid : snmp.engineId with
  | some id' =>
    rw [hid] at h
    cases h
    exact ⟨rfl, rfl⟩
  | none =>
    rw [hid] at h
    obtain ⟨mac, s₁, hmac, h⟩ := Failing.bind_ok h
    obtain ⟨rfl, hp, -⟩ := reads.readBridgeMac_ok hmac
    cases hparse : ((macs (kernel w))[bridgeName]?.bind id).bind parseMac with
    | none =>
      rw [hparse] at h
      cases h
    | some octets =>
      rw [hparse] at h
      cases h
      exact ⟨rfl, hp⟩

/-- A successful `reconcile` ends with nothing left to do. -/
theorem Reads.reconcileRounds_done {rounds : Nat} {applied ops : List Op} {y y' : Snmpd × ω}
    (h : reconcileRounds (platform.withSnmpd env).net d rounds applied y = (.ok ops, y')) :
    plan d (kernel y'.2) = .ok [] ∧ (kernel y'.2).platformOps = [] := by
  obtain ⟨actual, -, hdone, y₀, hobserve⟩ := reconcileRounds_ok _ d rounds applied y y' ops h
  obtain ⟨hread, hrest⟩ := Prod.mk.inj hobserve
  have hactual := reads.observe y₀.2 actual y'.2
    (Prod.ext hread (congrArg (Prod.snd : Snmpd × ω → ω) hrest))
  rw [← hactual]
  exact hdone

theorem Reads.applyStp_done
    {s s' : SwitchPlugin × Snmpd × ω} {ops : List Op} (owned : s.1.mstpd.CacheOwned)
    (h : applyStp (platform.withSnmpd env) d s = (.ok ops, s')) : StagesDone kernel macs d s' := by
  obtain ⟨⟨ops', mac⟩, s₄, hkernel, h⟩ := Failing.bind_ok h
  obtain ⟨_, s₁, hstop, hkernel⟩ := Failing.bind_ok hkernel
  obtain ⟨_, s₂, hprepare, hkernel⟩ := Failing.bind_ok hkernel
  obtain ⟨ops'', s₃, hreconcile, hkernel⟩ := Failing.bind_ok hkernel
  obtain ⟨mac', s₄', hmac, hkernel⟩ := Failing.bind_ok hkernel
  cases hkernel
  obtain ⟨_, s₅, hconfigure, h⟩ := Failing.bind_ok h
  cases h
  have hbefore : Before s.1.engineId s.1.applied s.2.1 s := ⟨owned, rfl, rfl, rfl⟩
  have hbefore₁ := (stopUnwanted_before d.dhcpSvi).of_ok hbefore hstop
  obtain ⟨hbefore₂, hpid⟩ := (prepareMstpd_before d.stp.isSome).of_ok hbefore₁ hprepare
  obtain ⟨p₂, agent₂, w₂⟩ := s₂
  obtain ⟨p₃, agent₃, w₃⟩ := s₃
  have hdone : plan d (kernel w₃) = .ok [] ∧ (kernel w₃).platformOps = [] ∧ p₃ = p₂ := by
    simp only [reconcileNet] at hreconcile
    cases hrun : reconcile (platform.withSnmpd env).net d (agent₂, w₂) with
    | mk result y =>
      rw [hrun] at hreconcile
      cases hreconcile
      obtain ⟨hplan, hops⟩ := reads.reconcileRounds_done hrun
      exact ⟨hplan, hops, rfl⟩
  obtain ⟨hplan, hops, rfl⟩ := hdone
  obtain ⟨p₄, agent₄, w₄⟩ := s₄
  obtain ⟨hp, hread, hmacOf⟩ := reads.macForStp_ok hmac
  obtain rfl : p₄ = p₃ := hp
  have hworld := configureStp_keeps (reads.unplanned (kernel w₃)).toKeepsBesides d.stp
    (mac'.getD "") ops (p₄, agent₄, w₄) hread
  rw [hconfigure] at hworld
  have hkernel : kernel s'.2.2 = kernel w₃ := hworld
  rw [← hkernel] at hplan hops hmacOf
  have hsettings : s'.1.mstpd.pid = p₄.mstpd.pid ∧ s'.1.mstpd.applied =
      d.stp.map fun stp => .of stp (bridgeMacOf (macs (kernel s'.2.2))) := by
    cases hstp : d.stp with
    | none =>
      rw [hstp] at hconfigure hpid
      cases hconfigure
      have hcache : p₄.mstpd.applied = none := by
        by_contra hsome
        simpa using hpid.mp (hbefore₂.owned hsome)
      exact ⟨rfl, hcache⟩
    | some stp =>
      rw [hstp] at hconfigure hmacOf
      simp only [configureStp, configureMstpd, Option.isSome_some, if_true] at hconfigure
      cases hrun : p₄.mstpd.configure (platform.withSnmpd env).mstpd (some stp)
          (mac'.getD "") (needsResend ops) (agent₄, w₄) with
      | mk result rest =>
        rw [hrun] at hconfigure
        cases hconfigure
        obtain ⟨-, hm⟩ := Mstpd.configure_run (platform.withSnmpd env).mstpd hrun
        rw [hm, hmacOf rfl]
        exact ⟨rfl, rfl⟩
  exact ⟨hplan, hops, by rw [hsettings.1]; exact hpid, hsettings.2⟩

/-- The stage that synchronises the agent. -/
theorem Reads.syncSnmp_left {p p' : SwitchPlugin} {agent agent' : Snmpd} {w w' : ω}
    (h : syncSnmp (platform.withSnmpd env) d (p, agent, w) = (.ok (), p', agent', w')) :
    p' = { p with engineId := d.snmp.bind (engineIdOf (macs (kernel w))) } ∧
      (∀ snmp, d.snmp = some snmp → (engineIdOf (macs (kernel w)) snmp).isSome = true) ∧
      RecordedWith (agentConf env.paths.agentxSocket (macs (kernel w)) host d) agent' := by
  unfold syncSnmp at h
  cases hsnmp : d.snmp with
  | none =>
    rw [hsnmp] at h
    obtain ⟨hp, hrecorded⟩ := (runSnmpd_at p agent none none).of_ok rfl h
    refine ⟨hp, (fun snmp hsome => nomatch hsome), ?_⟩
    rw [agentConf, hsnmp]
    exact hrecorded
  | some snmp =>
    rw [hsnmp] at h
    obtain ⟨id, ⟨p₁, agent₁, w₁⟩, hid, hrest⟩ := Failing.bind_ok h
    obtain ⟨hengine, rfl⟩ := reads.engineIdInUse_ok hid
    obtain ⟨system, s₂, hsystem, hrun⟩ := Failing.bind_ok hrest
    obtain ⟨hread, rfl⟩ := Prod.mk.inj hsystem
    obtain rfl : system = host := (Except.ok.inj hread).symm.trans (reads.system w₁)
    obtain ⟨hp, hrecorded⟩ := (runSnmpd_at _ agent _ (some id)).of_ok rfl hrun
    refine ⟨by rw [Option.bind_some, hengine]; exact hp, fun snmp' hsome => ?_, ?_⟩
    · cases hsome
      rw [hengine]
      rfl
    · rw [agentConf, hsnmp, Option.bind_some, hengine, Option.map_some]
      exact hrecorded

/-- What a successful `apply` leaves. -/
theorem Reads.apply_left {s : SwitchPlugin × Snmpd × ω} {p : SwitchPlugin} {agent : Snmpd} {w : ω}
    (owned : s.1.mstpd.CacheOwned)
    (h : apply (platform.withSnmpd env) d s = (.ok (), p, agent, w)) :
    AsApplied env.paths.agentxSocket (macs (kernel w)) host d p agent ∧
      plan d (kernel w) = .ok [] ∧ (kernel w).platformOps = [] := by
  obtain ⟨ops, s₁, hstp, h⟩ := Failing.bind_ok h
  obtain ⟨_, s₂, hdhcp, h⟩ := Failing.bind_ok h
  obtain ⟨_, s₃, hsnmp, h⟩ := Failing.bind_ok h
  have hdone := reads.applyStp_done owned hstp
  obtain ⟨p₂, agent₂, w₂⟩ := s₂
  obtain ⟨p₃, agent₃, w₃⟩ := s₃
  cases h
  have hworld₂ := syncDhcp_keepsBesides (reads.unplanned (kernel s₁.2.2)).toKeepsBesides d.dhcpSvi
    (isRelinked ops d.dhcpSvi) s₁ rfl
  rw [hdhcp] at hworld₂
  have hworld₃ := syncSnmp_keeps (reads.unplanned (kernel w₂)) d (p₂, agent₂, w₂) rfl
  rw [hsnmp] at hworld₃
  have hkernel₂ : kernel w₂ = kernel s₁.2.2 := hworld₂
  have hkernel : kernel w = kernel s₁.2.2 := Eq.trans hworld₃ hkernel₂
  obtain ⟨hp₃, hknown, hrecorded⟩ := reads.syncSnmp_left hsnmp
  have hclient : p₂.mstpd = s₁.1.mstpd ∧ p₂.dhcp.client.map Prod.fst = d.dhcpSvi := by
    simp only [syncDhcp] at hdhcp
    split at hdhcp
    · cases hdhcp
    · next hsync =>
      cases hdhcp
      exact ⟨rfl, sync_client hsync⟩
  rw [hkernel₂, ← hkernel] at hp₃ hknown hrecorded
  have hplan := hdone.planned
  have hops := hdone.platformOps
  have hsettings := hdone.settings
  rw [← hkernel] at hplan hops hsettings
  refine ⟨?_, hplan, hops⟩
  subst hp₃
  exact
    { applied := rfl
      process := by rw [show p₂.mstpd = _ from hclient.1]; exact hdone.process
      settings := by rw [show p₂.mstpd = _ from hclient.1]; exact hsettings
      dhcp := hclient.2
      engineId := rfl
      known := hknown
      agent := hrecorded }

end Leaves

section Again

/-- The world after the addbridge that every commit with spanning tree sends. -/
def afterAddBridge (platform : Platform ω) (d : DesiredState) (w : ω) : ω :=
  if d.stp.isSome then (platform.mstpd.run .addBridge w).2 else w

theorem configureStp_eq (sent : d.stp.isSome = true → (platform.mstpd.run .addBridge w).1 = .ok ())
    (settings : p.mstpd.applied = d.stp.map fun stp => .of stp (bridgeMacOf (macs (kernel w))))
    {mac : String} (hmac : d.stp.isSome = true → mac = bridgeMacOf (macs (kernel w))) :
    configureStp (platform.withSnmpd env) d.stp mac [] (p, agent, w) =
      (.ok (), p, agent, afterAddBridge platform d w) := by
  cases hstp : d.stp with
  | none => simp only [afterAddBridge, hstp]; rfl
  | some stp =>
    rw [hstp] at settings hmac
    obtain rfl := hmac rfl
    obtain ⟨w', hrun⟩ : ∃ w', platform.mstpd.run .addBridge w = (.ok (), w') :=
      ⟨_, Prod.ext (sent (by rw [hstp]; rfl)) rfl⟩
    have hall : runAll (platform.withSnmpd env).mstpd.run
        (configureCommands (p.mstpd.previous (needsResend [])) stp (bridgeMacOf (macs (kernel w))))
        (agent, w) = (.ok (), agent, w') := by
      rw [show p.mstpd.previous (needsResend []) = p.mstpd.applied from rfl, settings,
        Option.map_some, configureCommands_same]
      simp only [runAll, Platform.withSnmpd, beside, hrun]
    have hsame : ({ p with mstpd := { p.mstpd with
        applied := some (.of stp (bridgeMacOf (macs (kernel w)))) } } : SwitchPlugin) = p := by
      rw [Option.map_some] at settings
      rw [← settings]
    simp only [configureStp, configureMstpd, Mstpd.configure, Option.isSome_some, if_true, hall,
      hsame, afterAddBridge, hstp, hrun]

variable (still : Still platform env p agent w)
include still

/-- A client on the wanted interface that runs is left alone. -/
theorem Still.stopUnwanted_eq (client : p.dhcp.client.map Prod.fst = d.dhcpSvi) :
    p.dhcp.stopUnwanted (platform.withSnmpd env).dhcp d.dhcpSvi (agent, w) =
      ([], p.dhcp, agent, w) := by
  unfold DhcpClients.stopUnwanted
  cases hclient : p.dhcp.client with
  | none => rfl
  | some entry =>
    have hwanted : d.dhcpSvi = some entry.1 := by
      rw [← client, hclient]
      rfl
    simp only [Platform.withSnmpd, beside, still.dhcpRuns entry hclient, hwanted, if_true]

theorem Still.prepareMstpd_eq (process : p.mstpd.pid ≠ none ↔ d.stp.isSome = true) :
    prepareMstpd (platform.withSnmpd env) d.stp.isSome (p, agent, w) = (.ok [], p, agent, w) := by
  have hforget : p.mstpd.forgetExited (platform.withSnmpd env).mstpd (agent, w) =
      ([], p.mstpd, agent, w) := by
    unfold Mstpd.forgetExited
    cases hpid : p.mstpd.pid with
    | none => rfl
    | some pid => simp only [Platform.withSnmpd, beside, still.mstpdRuns pid hpid]
  have hprepare : p.mstpd.prepare (platform.withSnmpd env).mstpd d.stp.isSome (agent, w) =
      (.ok [], p.mstpd, agent, w) := by
    simp only [Mstpd.prepare, hforget]
    cases hpid : p.mstpd.pid with
    | none =>
      have hoff : d.stp.isSome = false := by
        by_contra hon
        exact process.mpr (Bool.not_eq_false _ ▸ hon) hpid
      rw [hoff]
    | some pid => rw [process.mp (by simp [hpid])]
  simp only [prepareMstpd, hprepare]

theorem Still.syncDhcp_eq (client : p.dhcp.client.map Prod.fst = d.dhcpSvi) :
    syncDhcp (platform.withSnmpd env) d.dhcpSvi (isRelinked [] d.dhcpSvi) (p, agent, w) =
      (.ok [], p, agent, w) := by
  have hname : ((platform.withSnmpd env).hostname (agent, w)).2 = (agent, w) :=
    Prod.ext rfl still.hostname
  have hsync : ∀ hostname, p.dhcp.sync (platform.withSnmpd env).dhcp d.dhcpSvi
      (isRelinked [] d.dhcpSvi) hostname (agent, w) = (.ok [], p.dhcp, agent, w) := by
    intro hostname
    have hstart : p.dhcp.start (platform.withSnmpd env).dhcp d.dhcpSvi hostname (agent, w) =
        (.ok [], p.dhcp, agent, w) := by
      unfold DhcpClients.start
      cases hclient : p.dhcp.client with
      | none =>
        rw [← client, hclient]
        rfl
      | some entry => cases d.dhcpSvi <;> rfl
    simp only [DhcpClients.sync, still.stopUnwanted_eq client]
    rw [show p.dhcp.stopRelinked (platform.withSnmpd env).dhcp (isRelinked [] d.dhcpSvi)
      (agent, w) = ([], p.dhcp, agent, w) from rfl]
    simp only [hstart, List.append_nil]
  simp only [syncDhcp, hname, hsync]

/-- An agent that runs as recorded is left alone. -/
theorem Still.sync_eq {conf : Option String} (recorded : RecordedWith conf agent) :
    ∃ events, Snmpd.sync env conf (agent, w) = (.ok events, agent, w) := by
  have hforget : ∀ program, Snmpd.forgetExited env program (agent, w) = (.ok [], agent, w) := by
    intro program
    cases hslot : agent.slot program with
    | none => simp only [Snmpd.forgetExited, hslot]
    | some pid => simp only [Snmpd.forgetExited, hslot, still.agentRuns program pid hslot]
  simp only [Snmpd.sync, Failing.bind_apply, hforget]
  cases conf with
  | none =>
    obtain rfl : agent = {} := recorded
    exact ⟨_, rfl⟩
  | some conf =>
    obtain ⟨⟨hsnmpd, hconf⟩, hsub⟩ := recorded
    obtain ⟨pid, hpid⟩ := Option.ne_none_iff_exists'.mp hsub
    have hrestart : Snmpd.restartIf env conf (agent, w) = (.ok [], agent, w) := by
      simp only [Snmpd.restartIf]
      rw [if_neg]
      simp [Snmpd.Outdated, hsnmpd, hconf]
    have hsubagent : Snmpd.startSubagent env (agent, w) = (.ok [], agent, w) := by
      simp only [Snmpd.startSubagent, hpid]
    simp only [Failing.bind_apply, hrestart, hsubagent]
    exact ⟨_, rfl⟩

variable (reads : Reads platform env kernel macs host)
include reads

theorem Still.reconcileNet_eq (planned : plan d (kernel w) = .ok [])
    (platformOps : (kernel w).platformOps = []) :
    reconcileNet (platform.withSnmpd env) d (p, agent, w) = (.ok [], p, agent, w) := by
  have hobserve : (platform.withSnmpd env).net.observe (agent, w) =
      (.ok (kernel w), agent, w) := by
    obtain ⟨actual, hread⟩ := still.observe
    obtain rfl := reads.observe w actual w hread
    simp only [Platform.withSnmpd, beside, hread]
  simp only [reconcileNet, reconcile, maxRounds, reconcileRounds, hobserve, planned, platformOps]
  rfl

/-- Reading finds what the kernel has. -/
theorem Still.readBridgeMac_eq :
    readBridgeMac (platform.withSnmpd env) (p, agent, w) =
      (.ok ((macs (kernel w))[bridgeName]?.bind id), p, agent, w) := by
  obtain ⟨read, hread⟩ := still.macs
  obtain rfl := reads.macs w read w hread
  simp only [readBridgeMac, Platform.withSnmpd, beside, hread]

theorem Still.syncSnmp_eq
    (left : AsApplied env.paths.agentxSocket (macs (kernel w)) host d p agent) :
    syncSnmp (platform.withSnmpd env) d (p, agent, w) = (.ok (), p, agent, w) := by
  have hrun : runSnmpd (platform.withSnmpd env)
      (agentConf env.paths.agentxSocket (macs (kernel w)) host d) (p, agent, w) =
      (.ok (), p, agent, w) := by
    obtain ⟨events, hsync⟩ := still.sync_eq left.agent
    simp only [runSnmpd, Platform.withSnmpd, hsync]
  unfold syncSnmp
  cases hsnmp : d.snmp with
  | none =>
    have hset : ({ p with engineId := none } : SwitchPlugin) = p := by
      rw [show (none : Option (List UInt8)) = p.engineId by rw [left.engineId, hsnmp]; rfl]
    rw [agentConf, hsnmp] at hrun
    simp only [Failing.bind_apply, setEngineId, hset]
    exact hrun
  | some snmp =>
    obtain ⟨id, hid⟩ := Option.isSome_iff_exists.mp (left.known snmp hsnmp)
    have hset : ({ p with engineId := some id } : SwitchPlugin) = p := by
      rw [show some id = p.engineId by rw [left.engineId, hsnmp, Option.bind_some, hid]]
    have hsystem : readSystem (platform.withSnmpd env) (p, agent, w) = (.ok host, p, agent, w) := by
      simp only [readSystem, Platform.withSnmpd, beside, reads.system, still.system]
    have hengine : engineIdInUse (platform.withSnmpd env) snmp (p, agent, w) =
        (.ok id, p, agent, w) := by
      unfold engineIdInUse
      unfold engineIdOf at hid
      cases hown : snmp.engineId with
      | some id' =>
        rw [hown] at hid
        cases hid
        rfl
      | none =>
        rw [hown] at hid
        obtain ⟨octets, hoctets, rfl⟩ := Option.map_eq_some_iff.mp hid
        simp only [Failing.bind_apply, still.readBridgeMac_eq reads, hoctets]
        rfl
    rw [agentConf, hsnmp, Option.bind_some, hid, Option.map_some] at hrun
    simp only [Failing.bind_apply, hengine, hsystem, setEngineId, hset]
    exact hrun

/-- From what a successful `apply` leaves, the next one sends an addbridge at most. -/
theorem Still.apply_eq
    (left : AsApplied env.paths.agentxSocket (macs (kernel w)) host d p agent)
    (planned : plan d (kernel w) = .ok []) (platformOps : (kernel w).platformOps = [])
    (sent : d.stp.isSome = true → (platform.mstpd.run .addBridge w).1 = .ok ())
    (stillAfter : Still platform env p agent (afterAddBridge platform d w)) :
    apply (platform.withSnmpd env) d (p, agent, w) =
      (.ok (), p, agent, afterAddBridge platform d w) := by
  have hstop : stopUnwanted (platform.withSnmpd env) d.dhcpSvi (p, agent, w) =
      (.ok [], p, agent, w) := by
    simp only [stopUnwanted, still.stopUnwanted_eq left.dhcp]
  obtain ⟨mac, hmac, hmacOf⟩ : ∃ mac, macForStp (platform.withSnmpd env) d.stp.isSome (p, agent, w) =
      (.ok mac, p, agent, w) ∧
        (d.stp.isSome = true → mac.getD "" = bridgeMacOf (macs (kernel w))) := by
    cases d.stp.isSome with
    | false => exact ⟨none, rfl, fun h => nomatch h⟩
    | true => exact ⟨_, still.readBridgeMac_eq reads, fun _ => rfl⟩
  have hkernel : kernel (afterAddBridge platform d w) = kernel w := by
    unfold afterAddBridge
    split
    · exact (reads.unplanned (kernel w)).mstpd.run .addBridge (agent, w) rfl
    · rfl
  have hstp : applyStp (platform.withSnmpd env) d (p, agent, w) =
      (.ok [], p, agent, afterAddBridge platform d w) := by
    simp only [applyStp, applyKernel, Failing.bind_apply, hstop, still.prepareMstpd_eq left.process,
      still.reconcileNet_eq reads planned platformOps, hmac]
    simp only [pure, configureStp_eq sent left.settings hmacOf]
  have happlied : ({ p with applied := d } : SwitchPlugin) = p := by rw [← left.applied]
  simp only [apply, Failing.bind_apply, hstp, stillAfter.syncDhcp_eq left.dhcp,
    stillAfter.syncSnmp_eq reads (by rw [hkernel]; exact left), setApplied, happlied]

end Again

/-- After a successful `apply`, whatever happened before and during it: if reading then changes
nothing, the processes that it recorded run and mstpctl takes an addbridge, another `apply` of
the same state succeeds, leaves the plugin and the agent as they are, and changes the world by
one addbridge if spanning tree is on and otherwise not at all. -/
theorem apply_again_quiet (platform : Platform ω) (env : SnmpdEnv ω) (kernel : ω → ActualState)
    (macs : ActualState → BTreeMap String (Option String)) (host : Option String × Option String)
    (reads : Reads platform env kernel macs host) (d : DesiredState) (s : SwitchPlugin × Snmpd × ω)
    (owned : s.1.mstpd.CacheOwned) (p : SwitchPlugin) (agent : Snmpd) (w : ω)
    (first : apply (platform.withSnmpd env) d s = (.ok (), p, agent, w))
    (still : Still platform env p agent w)
    (sent : d.stp.isSome = true → (platform.mstpd.run .addBridge w).1 = .ok ())
    (stillAfter : Still platform env p agent (afterAddBridge platform d w)) :
    apply (platform.withSnmpd env) d (p, agent, w) =
      (.ok (), p, agent, afterAddBridge platform d w) := by
  obtain ⟨left, planned, platformOps⟩ := reads.apply_left owned first
  exact still.apply_eq reads left planned platformOps sent stillAfter

theorem bench_reads : Reads (bench fakeNet) agentBench id
    (fun _ => BTreeMap.collect [(bridgeName, some "02:00:00:00:00:01")]) (none, none) where
  observe _ _ _ h := by
    cases h
    rfl
  macs _ _ _ h := by
    cases h
    rfl
  system _ := rfl
  unplanned k :=
    { mstpd := ⟨⟨fun _ _ h => h, fun _ _ h => h, fun _ h => h⟩, fun _ h => h, fun _ _ h => h⟩
      dhcpSpawn := fun _ _ _ h => h
      dhcpRunning := fun _ _ h => h
      dhcpStop := fun _ _ _ h => h
      interfaceMacs := fun _ h => h
      hostname := fun _ h => h
      system := fun _ h => h
      snmp := withSnmpd_snmp_keeps (agentBench_keeps fun w => w = k) _ }

theorem bench_still (p : SwitchPlugin) (agent : Snmpd) (w : ActualState) :
    Still (bench fakeNet) agentBench p agent w where
  observe := ⟨w, rfl⟩
  macs := ⟨_, rfl⟩
  hostname := rfl
  system := rfl
  mstpdRuns _ _ := rfl
  dhcpRuns _ _ := rfl
  agentRuns _ _ _ := rfl

/-- An access port with spanning tree, and the agent. -/
def watchedAccess : DesiredState := { rstpAccess with snmp := privateState.snmp }

theorem apply_again_quiet_watched : ∃ p agent w,
    apply ((bench fakeNet).withSnmpd agentBench) watchedAccess ({}, {}, onePortBoot) =
        (.ok (), p, agent, w) ∧
      apply ((bench fakeNet).withSnmpd agentBench) watchedAccess (p, agent, w) =
        (.ok (), p, agent, w) := by
  have hok : (apply ((bench fakeNet).withSnmpd agentBench) watchedAccess
      ({}, {}, onePortBoot)).1 = .ok () := by decide +kernel
  cases hfirst : apply ((bench fakeNet).withSnmpd agentBench) watchedAccess
      ({}, {}, onePortBoot) with
  | mk result s =>
    obtain ⟨p, agent, w⟩ := s
    rw [hfirst] at hok
    obtain rfl : result = .ok () := hok
    exact ⟨p, agent, w, rfl, apply_again_quiet (bench fakeNet) agentBench id _ _ bench_reads
      watchedAccess ({}, {}, onePortBoot) (fun h => absurd rfl h) p agent w hfirst
      (bench_still p agent w) (fun _ => rfl) (bench_still p agent _)⟩

end ClixonSwitch.Guarantees
