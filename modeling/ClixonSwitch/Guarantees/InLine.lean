import ClixonSwitch.Guarantees.SnmpSound
import ClixonSwitch.Guarantees.SnmpdProcesses
import ClixonSwitch.Guarantees.Tended
import ClixonSwitch.Source.Plugin.Stages

/-!
# The parts of the plugin and what was applied

mstpd, the DHCP client and the SNMP agent are each kept by a part of the plugin. Whatever
the processes do and wherever commits fail, an engine ID in use is the one in the
configuration that the agent serves, and once a commit or revert has succeeded every part
is in line with the configuration that it applied.
-/
namespace ClixonSwitch.Guarantees
open Lib Source.SwitchModel Source.SwitchNet
  ClixonSwitch.Source.Plugin

/-- The agent runs with the configuration of `d` and the engine ID `id`. -/
def ServesWith (socket : String) (d : DesiredState) (id : List UInt8) (agent : Snmpd) : Prop :=
  ∃ snmp description, d.snmp = some snmp ∧ (∀ own, snmp.engineId = some own → own = id) ∧
    Serves (snmpdConf snmp ⟨id, socket, d.system, description⟩) agent ∧ agent.subagent ≠ none

/-- An engine ID that is in use is the agent's, and the agent runs as last applied. -/
def EngineIdServed (socket : String) (p : SwitchPlugin) (agent : Snmpd) : Prop :=
  ∀ id, p.engineId = some id → ServesWith socket p.applied id agent

/-- mstpd is there exactly if spanning tree is wanted, and has its settings. -/
structure StpInLine (stp : Option Stp) (m : Mstpd) : Prop where
  process : m.pid ≠ none ↔ stp.isSome = true
  settings : m.applied.map StpApplied.stp = stp

/-- All parts are in line with `d`. -/
structure PartsInLine (d : DesiredState) (p : SwitchPlugin) (agent : Snmpd) : Prop where
  stp : StpInLine d.stp p.mstpd
  dhcp : p.dhcp.client.map Prod.fst = d.dhcpSvi
  engineId : p.engineId.isSome = d.snmp.isSome
  noAgent : d.snmp = none → agent = {}

section Clients
variable {ω : Type} {env : DhcpEnv ω} {c c' : DhcpClients} {wanted : Option String} {w w' : ω}

theorem stopUnwanted_client (h : (c.stopUnwanted env wanted w).2.1 = c') :
    c'.client = none ∨ c'.client.map Prod.fst = wanted := by
  subst h
  unfold DhcpClients.stopUnwanted
  split
  · next hnone => exact Or.inl hnone
  · next interface pid hsome =>
    split
    · exact Or.inl rfl
    · split
      · next hwanted => exact Or.inr (by rw [hsome, hwanted]; rfl)
      · exact Or.inl rfl

/-- A successful `sync` leaves a client on the wanted interface, or none if none is wanted. -/
theorem sync_client {relinked : Bool} {hostname : Option String} {events : List DhcpEvent}
    (h : c.sync env wanted relinked hostname w = (.ok events, c', w')) :
    c'.client.map Prod.fst = wanted := by
  cases hfirst : c.stopUnwanted env wanted w with
  | mk unwanted rest =>
  obtain ⟨c₁, w₁⟩ := rest
  have hc₁ := stopUnwanted_client (show (c.stopUnwanted env wanted w).2.1 = c₁ by rw [hfirst])
  cases hsecond : c₁.stopRelinked env relinked w₁ with
  | mk stale rest =>
  obtain ⟨c₂, w₂⟩ := rest
  have hc₂ : c₂.client = none ∨ c₂.client.map Prod.fst = wanted := by
    have heq : (c₁.stopRelinked env relinked w₁).2.1 = c₂ := by rw [hsecond]
    unfold DhcpClients.stopRelinked at heq
    split at heq
    · exact Or.inl (by rw [← heq])
    · exact heq ▸ hc₁
  simp only [DhcpClients.sync, hfirst, hsecond] at h
  cases wanted with
  | none =>
    simp only [DhcpClients.start] at h
    cases h
    rcases hc₂ with hnone | hnone
    · rw [hnone]
      rfl
    · exact hnone
  | some interface =>
    rcases hc₂ with hnone | hsome
    · cases hspawn : env.spawn interface hostname w₂ with
      | mk result w₃ =>
        cases result with
        | error e => simp [DhcpClients.start, hnone, hspawn] at h
        | ok pid =>
          simp only [DhcpClients.start, hnone, hspawn] at h
          cases h
          rfl
    · obtain ⟨client, hclient⟩ := Option.map_eq_some_iff.mp hsome
      simp only [DhcpClients.start, hclient.1] at h
      cases h
      exact hsome

end Clients

section Agent
variable {ω : Type} (env : SnmpdEnv ω)

theorem stopProgram_slot (program : SnmpProgram) (s : Snmpd × ω) :
    ∃ events w', Snmpd.stopProgram env program s = (.ok events, s.1.setSlot program none, w') := by
  obtain ⟨s, w⟩ := s
  cases hslot : s.slot program with
  | none =>
    have hsame : s.setSlot program none = s := by
      obtain ⟨snmpd, subagent, conf⟩ := s
      cases program with
      | snmpd => rw [show snmpd = none from hslot]; rfl
      | clixonSnmp => rw [show subagent = none from hslot]; rfl
    exact ⟨[], w, by simp [Snmpd.stopProgram, hslot, hsame]⟩
  | some pid =>
    exact ⟨[.stopped program pid], env.stop pid w, by simp only [Snmpd.stopProgram, hslot]⟩

/-- Stopping leaves nothing recorded. -/
theorem stop_empty (s : Snmpd × ω) : ∃ events w', Snmpd.stop env s = (.ok events, {}, w') := by
  obtain ⟨subagent, w₁, hsub⟩ := stopProgram_slot env .clixonSnmp s
  obtain ⟨agent, w₂, hagent⟩ := stopProgram_slot env .snmpd (s.1.setSlot .clixonSnmp none, w₁)
  refine ⟨subagent ++ agent, w₂, ?_⟩
  simp only [Snmpd.stop, Failing.bind_apply, hsub, hagent]
  rfl

/-- What is recorded does not change while the files are prepared. -/
theorem prepareFiles_record (conf : String) (s : Snmpd) :
    Failing.Keeps (fun x : Snmpd × ω => x.1 = s) (Snmpd.prepareFiles env conf) := by
  have hfile : ∀ call what path,
      Failing.Keeps (fun x : Snmpd × ω => x.1 = s) (Snmpd.onFile call what path) := by
    rintro call what path ⟨s', w⟩ h
    simp only [Snmpd.onFile]
    split
    · exact h
    · exact h
  refine (hfile _ _ _).bind fun _ => (hfile _ _ _).bind fun _ =>
    Failing.Keeps.bind (x := Snmpd.readPersistent env) (fun _ h => h) fun text => ?_
  cases text with
  | none => exact Failing.Keeps.bind (Failing.Keeps.pure _) fun _ _ h => h
  | some text => exact (hfile _ _ _).bind fun _ _ h => h

theorem waitSocket_record (pid : UInt32) (polls : Nat) (s : Snmpd) (w : ω) {w' : ω} {s' : Snmpd}
    (h : Snmpd.waitSocket env pid polls (s, w) = (.ok (), s', w')) : s' = s := by
  induction polls generalizing w
  all_goals
    unfold Snmpd.waitSocket at h
    grind

theorem startSnmpd_serves {conf : String} {s s' : Snmpd} {w w' : ω} {events : List SnmpEvent}
    (h : Snmpd.startSnmpd env conf (s, w) = (.ok events, s', w')) : Serves conf s' := by
  have hfiles := prepareFiles_record env conf s (s, w) rfl
  simp only [Snmpd.startSnmpd, Failing.bind_apply] at h
  split at h
  · next u s₁ hprepare =>
    rw [hprepare] at hfiles
    split at h
    · next pid s₂ hlaunch =>
      split at h
      · next u s₃ hwait =>
        cases h
        have hrecord : s₂.1.snmpd = some pid ∧ s₂.1.conf = some conf := by
          simp only [Snmpd.launch] at hlaunch
          split at hlaunch
          · cases hlaunch
          · cases hlaunch
            exact ⟨rfl, rfl⟩
        rw [Serves, waitSocket_record env pid Snmpd.socketPolls s₂.1 s₂.2 hwait, hrecord.1]
        exact ⟨by simp, hrecord.2⟩
      · cases h
    · cases h
  · cases h

theorem restartIf_serves {conf : String} {s s' : Snmpd} {w w' : ω} {events : List SnmpEvent}
    (h : Snmpd.restartIf env conf (s, w) = (.ok events, s', w')) : Serves conf s' := by
  simp only [Snmpd.restartIf] at h
  split at h
  · obtain ⟨stopped, w₁, hstop⟩ := stop_empty env (s, w)
    simp only [Failing.bind_apply, hstop] at h
    split at h
    · next started s₂ hstart =>
      cases h
      exact startSnmpd_serves env hstart
    · cases h
  · next houtdated =>
    cases h
    simpa [Snmpd.Outdated, Serves] using houtdated

theorem startSubagent_runs {s s' : Snmpd} {w w' : ω} {events : List SnmpEvent}
    (h : Snmpd.startSubagent env (s, w) = (.ok events, s', w')) :
    s'.subagent ≠ none ∧ s'.snmpd = s.snmpd ∧ s'.conf = s.conf := by
  simp only [Snmpd.startSubagent] at h
  split at h
  · next hsome =>
    cases h
    exact ⟨by simp [hsome], rfl, rfl⟩
  · simp only [Failing.bind_apply, Snmpd.launch] at h
    split at h
    · next hspawn =>
      split at hspawn
      · cases hspawn
      · cases hspawn
        cases h
        exact ⟨by simp, rfl, rfl⟩
    · cases h

/-- The agent and its subagent run with `conf`, or neither does. -/
def RecordedWith (conf : Option String) (s : Snmpd) : Prop :=
  match conf with
  | none => s = {}
  | some conf => Serves conf s ∧ s.subagent ≠ none

theorem sync_recorded {conf : Option String} {s s' : Snmpd} {w w' : ω} {events : List SnmpEvent}
    (h : Snmpd.sync env conf (s, w) = (.ok events, s', w')) : RecordedWith conf s' := by
  simp only [Snmpd.sync, Failing.bind_apply] at h
  split at h
  · split at h
    · next s₂ _ =>
      obtain ⟨s₂, w₂⟩ := s₂
      cases conf with
      | none =>
        obtain ⟨stopped, w₃, hstop⟩ := stop_empty env (s₂, w₂)
        simp only [Failing.bind_apply, hstop] at h
        cases h
        rfl
      | some conf =>
        simp only [Failing.bind_apply] at h
        split at h
        · next restarted s₃ hrestart =>
          obtain ⟨s₃, w₃⟩ := s₃
          split at h
          · next started s₄ hsub =>
            cases h
            obtain ⟨hruns, hsnmpd, hconf⟩ := startSubagent_runs env hsub
            have hserves := restartIf_serves env hrestart
            exact ⟨⟨hsnmpd ▸ hserves.1, hconf ▸ hserves.2⟩, hruns⟩
          · cases h
        · cases h
    · cases h
  · cases h

end Agent

section Stages
variable {ω : Type} {platform : Platform ω} {env : SnmpdEnv ω} {d : DesiredState}

/-- Until the agent is synchronised, a commit changes only the parts for mstpd and DHCP. -/
structure Before (id : Option (List UInt8)) (applied : DesiredState) (agent : Snmpd)
    (x : SwitchPlugin × Snmpd × ω) : Prop where
  owned : x.1.mstpd.CacheOwned
  engineId : x.1.engineId = id
  applied : x.1.applied = applied
  agent : x.2.1 = agent

/-- No call but those for the agent reaches it. -/
theorem withSnmpd_keepsBesides (platform : Platform ω) (env : SnmpdEnv ω) (agent : Snmpd) :
    (platform.withSnmpd env).KeepsBesides fun x => x.1 = agent where
  mstpd := ⟨⟨fun _ _ h => h, fun _ _ h => h, fun _ h => h⟩, fun _ h => h, fun _ _ h => h⟩
  dhcpSpawn _ _ _ h := h
  dhcpRunning _ _ h := h
  dhcpStop _ _ _ h := h
  interfaceMacs _ h := h
  hostname _ h := h
  system _ h := h

theorem withSnmpd_netKeeps (platform : Platform ω) (env : SnmpdEnv ω) (agent : Snmpd) :
    NetKeeps (platform.withSnmpd env).net fun x => x.1 = agent :=
  ⟨fun _ h => h, fun _ _ h => h⟩

variable {id : Option (List UInt8)} {applied : DesiredState} {agent : Snmpd}

/-- A stage that keeps the plugin as it is. -/
theorem Before.unchanged {α : Type} {x : PluginM (Snmpd × ω) α}
    (plugin : ∀ s, (x s).2.1 = s.1) (world : Failing.Keeps (WorldHas fun y => y.1 = agent) x)
    (Q : SwitchPlugin → Prop) :
    Failing.Triple (fun s => Before id applied agent s ∧ Q s.1) x
      (fun _ s => Before id applied agent s ∧ Q s.1) (Before id applied agent) := by
  rintro s ⟨h, hq⟩
  have hplugin := plugin s
  have hworld := world s h.agent
  have hafter : Before id applied agent (x s).2 :=
    ⟨hplugin ▸ h.owned, hplugin ▸ h.engineId, hplugin ▸ h.applied, hworld⟩
  refine ⟨fun a s' run => ?_, fun e s' run => ?_⟩
  · rw [run] at hafter hplugin
    exact ⟨hafter, hplugin ▸ hq⟩
  · rwa [run] at hafter

theorem stopUnwanted_before (wanted : Option String) :
    Failing.Triple (Before id applied agent) (stopUnwanted (platform.withSnmpd env) wanted)
      (fun _ => Before id applied agent) (Before id applied agent) := by
  intro s h
  have hworld := stopUnwanted_keeps (withSnmpd_keepsBesides platform env agent) wanted s h.agent
  refine ⟨fun events s' run => ?_, fun e s' run => nomatch run⟩
  rw [run] at hworld
  cases run
  exact ⟨h.owned, h.engineId, h.applied, hworld⟩

theorem prepareMstpd_before (wanted : Bool) :
    Failing.Triple (Before id applied agent) (prepareMstpd (platform.withSnmpd env) wanted)
      (fun _ s => Before id applied agent s ∧ (s.1.mstpd.pid ≠ none ↔ wanted = true))
      (Before id applied agent) := by
  rintro ⟨p, y⟩ h
  have hworld := prepareMstpd_keeps (withSnmpd_keepsBesides platform env agent) wanted (p, y) h.agent
  have howned := Mstpd.prepare_cacheOwned (w := y) (platform.withSnmpd env).mstpd h.owned wanted
  cases hprepare : p.mstpd.prepare (platform.withSnmpd env).mstpd wanted y with
  | mk result rest =>
    simp only [WorldHas, prepareMstpd, hprepare] at hworld
    rw [hprepare] at howned
    have hafter : Before id applied agent ({ p with mstpd := rest.1 }, rest.2) :=
      ⟨howned, h.engineId, h.applied, hworld⟩
    refine ⟨fun events s' run => ?_, fun e s' run => ?_⟩
    · simp only [prepareMstpd, hprepare] at run
      cases run
      exact ⟨hafter, Mstpd.prepare_pid hprepare⟩
    · simp only [prepareMstpd, hprepare] at run
      cases run
      exact hafter

theorem reconcileNet_before (Q : SwitchPlugin → Prop) :
    Failing.Triple (fun s => Before id applied agent s ∧ Q s.1)
      (reconcileNet (platform.withSnmpd env) d)
      (fun _ s => Before id applied agent s ∧ Q s.1) (Before id applied agent) :=
  Before.unchanged (x := reconcileNet (platform.withSnmpd env) d) (fun _ => rfl)
    (fun _ h => reconcileRounds_keeps (withSnmpd_netKeeps platform env agent) d maxRounds [] h) Q

theorem readBridgeMac_plugin (platform : Platform ω) (s : SwitchPlugin × ω) :
    (readBridgeMac platform s).2.1 = s.1 := by
  simp only [readBridgeMac]
  split <;> rfl

theorem macForStp_before (stp : Bool) (Q : SwitchPlugin → Prop) :
    Failing.Triple (fun s => Before id applied agent s ∧ Q s.1)
      (macForStp (platform.withSnmpd env) stp)
      (fun _ s => Before id applied agent s ∧ Q s.1) (Before id applied agent) := by
  refine Before.unchanged (fun s => ?_) (macForStp_keeps (withSnmpd_keepsBesides platform env agent) stp) Q
  unfold macForStp
  split
  · exact readBridgeMac_plugin _ s
  · rfl

theorem configureStp_before (stp : Option Stp) (mac : String) (ops : List Op) :
    Failing.Triple
      (fun s => Before id applied agent s ∧ (s.1.mstpd.pid ≠ none ↔ stp.isSome = true))
      (configureStp (platform.withSnmpd env) stp mac ops)
      (fun _ s => Before id applied agent s ∧ StpInLine stp s.1.mstpd)
      (Before id applied agent) := by
  rintro ⟨p, y⟩ ⟨h, hpid⟩
  have hworld := configureStp_keeps (withSnmpd_keepsBesides platform env agent) stp mac ops (p, y) h.agent
  cases stp with
  | none =>
    -- Without a process there is nothing cached.
    have hcache : p.mstpd.applied = none := by
      by_contra hsome
      simpa using hpid.mp (h.owned hsome)
    refine ⟨fun a s' run => ?_, fun e s' run => nomatch run⟩
    cases run
    exact ⟨h, hpid, by rw [hcache]; rfl⟩
  | some stp =>
    obtain ⟨result, m, y', hconf, hrun, hsame⟩ :=
      configureStp_run (platform.withSnmpd env) (Option.isSome_some (a := stp)) mac ops p y
    rw [← hsame] at hpid
    rw [hrun] at hworld ⊢
    have hafter : Before id applied agent ({ p with mstpd := m }, y') :=
      ⟨fun _ => hpid.mpr rfl, h.engineId, h.applied, hworld⟩
    refine ⟨fun a s' run => ?_, fun e s' run => ?_⟩
    · cases run
      obtain ⟨-, hm⟩ := Mstpd.configure_run (platform.withSnmpd env).mstpd hconf
      exact ⟨hafter, hpid, by rw [hm]; rfl⟩
    · cases run
      exact hafter

theorem syncDhcp_before (wanted : Option String) (relinked : Bool) (stp : Option Stp) :
    Failing.Triple (fun s => Before id applied agent s ∧ StpInLine stp s.1.mstpd)
      (syncDhcp (platform.withSnmpd env) wanted relinked)
      (fun _ s => Before id applied agent s ∧ StpInLine stp s.1.mstpd ∧
        s.1.dhcp.client.map Prod.fst = wanted) (Before id applied agent) := by
  rintro ⟨p, y⟩ ⟨h, hstp⟩
  have hworld := syncDhcp_keepsBesides (withSnmpd_keepsBesides platform env agent) wanted relinked (p, y) h.agent
  cases hname : (platform.withSnmpd env).hostname y with
  | mk hostname y₁ =>
  cases hsync : p.dhcp.sync (platform.withSnmpd env).dhcp wanted relinked hostname y₁ with
  | mk result rest =>
    cases result with
    | error e =>
      have hrun : syncDhcp (platform.withSnmpd env) wanted relinked (p, y) =
          (.error ⟨"cannot start the DHCP client: " ++ e⟩, { p with dhcp := rest.1 }, rest.2) := by
        simp only [syncDhcp, hname, hsync]
      rw [hrun] at hworld ⊢
      refine ⟨fun a s' run => ?_, fun e s' run => ?_⟩
      · cases run
      · cases run
        exact ⟨h.owned, h.engineId, h.applied, hworld⟩
    | ok events =>
      have hrun : syncDhcp (platform.withSnmpd env) wanted relinked (p, y) =
          (.ok events, { p with dhcp := rest.1 }, rest.2) := by
        simp only [syncDhcp, hname, hsync]
      rw [hrun] at hworld ⊢
      refine ⟨fun a s' run => ?_, fun e s' run => ?_⟩
      · cases run
        exact ⟨⟨h.owned, h.engineId, h.applied, hworld⟩, hstp, sync_client hsync⟩
      · cases run

end Stages

section SnmpStage
variable {ω : Type} {platform : Platform ω} {env : SnmpdEnv ω} {d : DesiredState}

/-- The plugin is `p` and the agent is recorded as `agent`. -/
def At (p : SwitchPlugin) (agent : Snmpd) (x : SwitchPlugin × Snmpd × ω) : Prop :=
  x.1 = p ∧ x.2.1 = agent

/-- What a failure while the agent is synchronised leaves of plugin `p`: no engine ID, or
everything about the agent as it was. -/
structure AgentFailed (p : SwitchPlugin) (agent : Snmpd) (x : SwitchPlugin × Snmpd × ω) :
    Prop where
  mstpd : x.1.mstpd = p.mstpd
  applied : x.1.applied = p.applied
  agent : x.1.engineId = none ∨ x.1.engineId = p.engineId ∧ x.2.1 = agent

/-- The agent as `d` wants it. -/
def AgentDone (socket : String) (d : DesiredState) (id : Option (List UInt8)) (agent : Snmpd) :
    Prop :=
  match id with
  | none => d.snmp = none ∧ agent = {}
  | some id => ServesWith socket d id agent

variable {p : SwitchPlugin} {agent : Snmpd}

theorem At.failed {x : SwitchPlugin × Snmpd × ω} (h : At p agent x) : AgentFailed p agent x := by
  obtain ⟨rfl, rfl⟩ := h
  exact ⟨rfl, rfl, Or.inr ⟨rfl, rfl⟩⟩

theorem readBridgeMac_at : Failing.Triple (At p agent) (readBridgeMac (platform.withSnmpd env))
    (fun _ => At p agent) (AgentFailed p agent) := by
  intro s h
  have hplugin := readBridgeMac_plugin (platform.withSnmpd env) s
  have hworld := readBridgeMac_keeps (withSnmpd_keepsBesides platform env agent) s h.2
  refine ⟨fun mac s' run => ?_, fun e s' run => ?_⟩
  · rw [run] at hplugin hworld
    exact ⟨hplugin.trans h.1, hworld⟩
  · rw [run] at hplugin hworld
    exact At.failed ⟨hplugin.trans h.1, hworld⟩

theorem engineIdInUse_at (snmp : Snmp) :
    Failing.Triple (At p agent) (engineIdInUse (platform.withSnmpd env) snmp)
      (fun id s => At p agent s ∧ ∀ own, snmp.engineId = some own → own = id)
      (AgentFailed p agent) := by
  unfold engineIdInUse
  split
  · next id hid =>
    refine Failing.triple_pure fun s h => ⟨h, fun own hown => ?_⟩
    rw [hid] at hown
    exact (Option.some.inj hown).symm
  · next hnone =>
    refine Failing.triple_bind readBridgeMac_at fun mac => ?_
    split
    · exact Failing.triple_pure fun s h => ⟨h, fun own hown => by rw [hnone] at hown; cases hown⟩
    · intro s h
      refine ⟨(fun a s' run => nomatch run), fun e s' run => ?_⟩
      cases run
      exact h.failed

/-- Running the agent keeps the plugin if it succeeds, and takes back the engine ID if it
fails. -/
theorem runSnmpd_at (p : SwitchPlugin) (agent : Snmpd) (conf : Option String)
    (id : Option (List UInt8)) :
    Failing.Triple (fun s => s.1 = { p with engineId := id })
      (runSnmpd (platform.withSnmpd env) conf)
      (fun _ s => s.1 = { p with engineId := id } ∧ RecordedWith conf s.2.1)
      (AgentFailed p agent) := by
  rintro ⟨p', s, w⟩ h
  obtain rfl : p' = _ := h
  cases hsync : Snmpd.sync env conf (s, w) with
  | mk result rest =>
    obtain ⟨s', w'⟩ := rest
    cases result with
    | ok events =>
      have hrun : runSnmpd (platform.withSnmpd env) conf ({ p with engineId := id }, s, w) =
          (.ok (), { p with engineId := id }, s', w') := by
        simp only [runSnmpd, Platform.withSnmpd, hsync]
      rw [hrun]
      refine ⟨fun a x run => ?_, fun e x run => ?_⟩
      · cases run
        exact ⟨rfl, sync_recorded env hsync⟩
      · cases run
    | error e =>
      have hrun : runSnmpd (platform.withSnmpd env) conf ({ p with engineId := id }, s, w) =
          (.error e, { p with engineId := none }, s', w') := by
        simp only [runSnmpd, Platform.withSnmpd, hsync]
      rw [hrun]
      refine ⟨fun a x run => ?_, fun e x run => ?_⟩
      · cases run
      · cases run
        exact ⟨rfl, rfl, Or.inl rfl⟩

theorem setEngineId_at (p : SwitchPlugin) (agent : Snmpd) (id : Option (List UInt8)) :
    Failing.Triple (At p agent) (setEngineId (ω := Snmpd × ω) id)
      (fun _ s => s.1 = { p with engineId := id }) (AgentFailed p agent) := by
  rintro ⟨p', y⟩ ⟨rfl, -⟩
  refine ⟨fun a x run => ?_, fun e x run => nomatch run⟩
  cases run
  rfl

theorem readSystem_at (Q : Prop) :
    Failing.Triple (fun s => At p agent s ∧ Q) (readSystem (platform.withSnmpd env))
      (fun _ s => At p agent s ∧ Q) (AgentFailed p agent) := by
  intro s hs
  refine ⟨fun a x run => ?_, fun e x run => nomatch run⟩
  cases run
  exact hs

theorem syncSnmp_at (p : SwitchPlugin) (agent : Snmpd) (d : DesiredState) :
    Failing.Triple (At p agent) (syncSnmp (platform.withSnmpd env) d)
      (fun _ s => ∃ id, s.1 = { p with engineId := id } ∧
        AgentDone env.paths.agentxSocket d id s.2.1) (AgentFailed p agent) := by
  unfold syncSnmp
  split
  · next hnone =>
    refine Failing.triple_bind (setEngineId_at p agent none) fun _ => ?_
    intro s hs
    refine ⟨fun a x run => ?_, (runSnmpd_at p agent none none s hs).2⟩
    obtain ⟨hp, hagent⟩ := (runSnmpd_at p agent none none s hs).1 a x run
    exact ⟨none, hp, hnone, hagent⟩
  · next snmp hsnmp =>
    refine Failing.triple_bind (engineIdInUse_at snmp) fun id => ?_
    refine Failing.triple_bind (readSystem_at _) fun system => ?_
    · intro s hs
      refine Failing.triple_bind (setEngineId_at p agent (some id))
        (fun _ => (?_ : Failing.Triple _ _ _ _)) s hs.1
      intro s' hs'
      refine ⟨fun a x run => ?_, (runSnmpd_at p agent _ (some id) s' hs').2⟩
      obtain ⟨hp, hserves, hsub⟩ := (runSnmpd_at p agent _ (some id) s' hs').1 a x run
      exact ⟨some id, hp, snmp, systemDescription system, hsnmp, hs.2, hserves, hsub⟩

end SnmpStage

section Commit
variable {ω : Type} {platform : Platform ω} {env : SnmpdEnv ω}

/-- What holds of the plugin at all times. -/
structure Upheld (socket : String) (x : SwitchPlugin × Snmpd × ω) : Prop where
  owned : x.1.mstpd.CacheOwned
  served : EngineIdServed socket x.1 x.2.1

/-- A stage before the agent leaves what is upheld. -/
theorem Before.upheld {socket : String} {x₀ x : SwitchPlugin × Snmpd × ω}
    (h : Before x₀.1.engineId x₀.1.applied x₀.2.1 x) (start : Upheld socket x₀) :
    Upheld socket x := by
  refine ⟨h.owned, fun id hid => ?_⟩
  rw [h.applied, h.agent]
  exact start.served id (h.engineId ▸ hid)

/-- `apply` upholds what holds at all times, and if it succeeds all parts are in line. -/
theorem apply_inLine (d : DesiredState) :
    Failing.Triple (Upheld env.paths.agentxSocket) (apply (platform.withSnmpd env) d)
      (fun _ x => Upheld env.paths.agentxSocket x ∧ x.1.applied = d ∧ PartsInLine d x.1 x.2.1)
      (Upheld env.paths.agentxSocket) := by
  intro x₀ start
  have hbefore : ∀ x : SwitchPlugin × Snmpd × ω,
      Before x₀.1.engineId x₀.1.applied x₀.2.1 x → Upheld env.paths.agentxSocket x :=
    fun x h => h.upheld start
  have hkernel : Failing.Triple (Before x₀.1.engineId x₀.1.applied x₀.2.1)
      (applyKernel (platform.withSnmpd env) d)
      (fun _ x => Before x₀.1.engineId x₀.1.applied x₀.2.1 x ∧
        (x.1.mstpd.pid ≠ none ↔ d.stp.isSome = true))
      (Upheld env.paths.agentxSocket) := by
    refine Failing.Triple.imp_failed ?_ hbefore
    exact Failing.triple_bind (stopUnwanted_before _) fun _ =>
      Failing.triple_bind (prepareMstpd_before _) fun _ =>
        Failing.triple_bind
          (reconcileNet_before fun p => p.mstpd.pid ≠ none ↔ d.stp.isSome = true) fun _ =>
          Failing.triple_bind
            (macForStp_before _ fun p => p.mstpd.pid ≠ none ↔ d.stp.isSome = true) fun _ =>
            Failing.triple_pure fun _ => id
  have hstp : Failing.Triple (Before x₀.1.engineId x₀.1.applied x₀.2.1)
      (applyStp (platform.withSnmpd env) d)
      (fun _ x => Before x₀.1.engineId x₀.1.applied x₀.2.1 x ∧ StpInLine d.stp x.1.mstpd)
      (Upheld env.paths.agentxSocket) :=
    Failing.triple_bind hkernel fun _ => Failing.triple_bind
      ((configureStp_before _ _ _).imp_failed hbefore) fun _ => Failing.triple_pure fun _ => id
  refine Failing.triple_bind hstp (fun _ => Failing.triple_bind
    ((syncDhcp_before _ _ _).imp_failed hbefore) fun _ => ?_) x₀ ⟨start.owned, rfl, rfl, rfl⟩
  rintro x ⟨hx, hparts, hclient⟩
  refine Failing.triple_bind ((syncSnmp_at x.1 x.2.1 d).imp_failed ?_)
    (fun _ => (?_ : Failing.Triple _ _ _ _)) x ⟨rfl, rfl⟩
  · rintro y hy
    refine ⟨hy.mstpd ▸ hx.owned, fun id hid => ?_⟩
    rcases hy.agent with hnone | ⟨hsame, hagent⟩
    · rw [hnone] at hid
      cases hid
    · rw [hy.applied, hagent]
      exact (hx.upheld start).served id (hsame ▸ hid)
  · rintro ⟨q, agent, w⟩ ⟨id, hq, hdone⟩
    obtain rfl : q = _ := hq
    refine ⟨fun a y run => ?_, fun e y run => nomatch run⟩
    cases run
    refine ⟨⟨hx.owned, fun id' hid => ?_⟩, rfl, hparts, hclient, ?_, fun hnone => ?_⟩
    · obtain rfl : id = some id' := hid
      exact hdone
    · cases id with
      | none => exact (by rw [hdone.1]; rfl)
      | some id =>
        obtain ⟨snmp, description, hsnmp, -⟩ := hdone
        rw [hsnmp]
        rfl
    · cases id with
      | none => exact hdone.2
      | some id =>
        obtain ⟨snmp, description, hsnmp, -⟩ := hdone
        rw [hnone] at hsnmp
        cases hsnmp

end Commit

section Histories
variable {ω : Type} {platform : Platform ω} {env : SnmpdEnv ω}

def isTransaction : Callback ω → Bool
  | .commit _ => true
  | .revert _ => true
  | _ => false

/-- One callback after the other, with whether the last commit or revert has succeeded. -/
def runSettled (platform : Platform ω) (history : List (Callback ω))
    (x : Bool × SwitchPlugin × ω) : Bool × SwitchPlugin × ω :=
  history.foldl (fun x c =>
    match c.run platform x.2 with
    | (result, s) => (if isTransaction c then result.isOk else x.1, s)) x

/-- What happens between callbacks does not change which agent the plugin has recorded. -/
def LeavesAgent : Callback (Snmpd × ω) → Prop
  | .start stopOrphans => ∀ y, (stopOrphans y).1 = y.1
  | .elapse change => ∀ y, (change y).1 = y.1
  | _ => True

/-- The plugin upholds what it always does, and is in line once it is settled. -/
def Consistent (socket : String) (x : Bool × SwitchPlugin × Snmpd × ω) : Prop :=
  Upheld socket x.2 ∧ (x.1 = true → PartsInLine x.2.1.applied x.2.1 x.2.2.1)

/-- A callback that keeps the plugin and its agent keeps it consistent. -/
theorem Consistent.unchanged {socket : String} {settled : Bool}
    {s s' : SwitchPlugin × Snmpd × ω} (h : Consistent socket (settled, s)) (plugin : s'.1 = s.1)
    (agent : s'.2.1 = s.2.1) : Consistent socket (settled, s') := by
  obtain ⟨p, snmpd, w⟩ := s
  obtain ⟨p', snmpd', w'⟩ := s'
  obtain rfl : p' = p := plugin
  obtain rfl : snmpd' = snmpd := agent
  exact ⟨⟨h.1.owned, h.1.served⟩, h.2⟩

theorem observeNet_at {p : SwitchPlugin} {agent : Snmpd} :
    Failing.Keeps (At p agent) (observeNet (platform.withSnmpd env)) := fun _ h => h

theorem desired_at {p : SwitchPlugin} {agent : Snmpd} (text : ConfigText) :
    Failing.Keeps (At p agent) (desired (platform.withSnmpd env) text) := by
  refine observeNet_at.bind fun actual => ?_
  split
  · exact Failing.Keeps.pure _
  · exact fun _ h => h

theorem applyTree_consistent (tree : ConfigTree) {s : SwitchPlugin × Snmpd × ω}
    (h : Upheld env.paths.agentxSocket s) :
    Consistent env.paths.agentxSocket
      ((applyTree (platform.withSnmpd env) tree s).1.isOk,
        (applyTree (platform.withSnmpd env) tree s).2) := by
  have htriple : Failing.Triple (Upheld env.paths.agentxSocket)
      (applyTree (platform.withSnmpd env) tree)
      (fun _ x => Upheld env.paths.agentxSocket x ∧ PartsInLine x.1.applied x.1 x.2.1)
      (Upheld env.paths.agentxSocket) := by
    have hkeep : ∀ {α : Type} {x : PluginM (Snmpd × ω) α},
        (∀ p agent, Failing.Keeps (At p agent) x) →
        Failing.Triple (Upheld env.paths.agentxSocket) x (fun _ => Upheld env.paths.agentxSocket)
          (Upheld env.paths.agentxSocket) := by
      intro α x hx s hs
      have hafter := hx s.1 s.2.1 s ⟨rfl, rfl⟩
      have hupheld : Upheld env.paths.agentxSocket (x s).2 := by
        refine ⟨hafter.1 ▸ hs.owned, ?_⟩
        rw [hafter.1, hafter.2]
        exact hs.served
      refine ⟨fun a s' run => ?_, fun e s' run => ?_⟩
      · rwa [run] at hupheld
      · rwa [run] at hupheld
    refine Failing.triple_bind (hkeep fun p agent => ?_) fun text =>
      Failing.triple_bind (hkeep fun p agent => desired_at text) fun d => ?_
    · cases tree <;> exact fun _ h => h
    · intro s hs
      refine ⟨fun a x run => ?_, (apply_inLine d s hs).2⟩
      obtain ⟨hupheld, rfl, hparts⟩ := (apply_inLine d s hs).1 a x run
      exact ⟨hupheld, hparts⟩
  cases hrun : applyTree (platform.withSnmpd env) tree s with
  | mk result s' =>
    cases result with
    | ok a =>
      obtain ⟨hupheld, hparts⟩ := (htriple s h).1 a s' hrun
      exact ⟨hupheld, fun _ => hparts⟩
    | error e => exact ⟨(htriple s h).2 e s' hrun, fun hok => nomatch hok⟩

theorem applyPlatformOps_at (ops : List Op) {p : SwitchPlugin} {agent : Snmpd} :
    Failing.Keeps (At p agent) (applyPlatformOps (platform.withSnmpd env) ops) := by
  induction ops with
  | nil => exact fun _ h => h
  | cons op ops ih =>
    rintro ⟨p', snmpd, w⟩ h
    have hagent : ((platform.withSnmpd env).net.apply op (snmpd, w)).2.1 = snmpd := rfl
    simp only [applyPlatformOps]
    split
    · next y heq =>
      rw [heq] at hagent
      exact ih _ ⟨h.1, hagent.trans h.2⟩
    · next e y heq =>
      rw [heq] at hagent
      exact ⟨h.1, hagent.trans h.2⟩

theorem start_at (platform : Platform ω) (env : SnmpdEnv ω)
    {stopOrphans : Snmpd × ω → Snmpd × ω} (leaves : ∀ y, (stopOrphans y).1 = y.1)
    {p : SwitchPlugin} {agent : Snmpd} :
    Failing.Keeps (At p agent) (start (platform.withSnmpd env) stopOrphans) :=
  observeNet_at.bind fun _ => (applyPlatformOps_at _).bind fun _ s h =>
    ⟨h.1, (leaves s.2).trans h.2⟩

theorem transValidate_at (platform : Platform ω) (env : SnmpdEnv ω) (tx : Transaction)
    {p : SwitchPlugin} {agent : Snmpd} :
    Failing.Keeps (At p agent) (transValidate (platform.withSnmpd env) tx) := by
  refine Failing.Keeps.bind (x := treeJson tx.target) ?_ fun text =>
    (desired_at text).bind fun _ => Failing.Keeps.pure _
  cases tx.target <;> exact fun _ h => h

theorem runSettled_consistent (platform : Platform ω) (env : SnmpdEnv ω)
    (history : List (Callback (Snmpd × ω)))
    (leaves : ∀ c ∈ history, LeavesAgent c) (x : Bool × SwitchPlugin × Snmpd × ω)
    (h : Consistent env.paths.agentxSocket x) :
    Consistent env.paths.agentxSocket (runSettled (platform.withSnmpd env) history x) := by
  induction history generalizing x with
  | nil => exact h
  | cons c history ih =>
    refine ih (fun c hc => leaves c (List.mem_cons_of_mem _ hc)) _ ?_
    have hleaves := leaves c List.mem_cons_self
    obtain ⟨settled, s⟩ := x
    cases c with
    | commit tx => exact applyTree_consistent tx.target h.1
    | revert tx => exact applyTree_consistent tx.source h.1
    | start stopOrphans =>
      have hafter := start_at platform env hleaves s ⟨rfl, rfl⟩
      exact h.unchanged hafter.1 hafter.2
    | validate tx =>
      have hafter := transValidate_at platform env tx s ⟨rfl, rfl⟩
      exact h.unchanged hafter.1 hafter.2
    | elapse change => exact h.unchanged rfl (hleaves s.2)

end Histories

/-- Whatever the kernel, the processes and the files do, and wherever callbacks fail: an
engine ID in use is that of an agent recorded as running with the applied configuration, and
while the last commit or revert has succeeded, mstpd, the DHCP client and the agent are in
line with the applied configuration. -/
theorem callbacks_parts_in_line {ω : Type} (platform : Platform ω) (env : SnmpdEnv ω)
    (history : List (Callback (Snmpd × ω))) (leaves : ∀ c ∈ history, LeavesAgent c) (w : ω) :
    let x := runSettled (platform.withSnmpd env) history (true, {}, {}, w)
    EngineIdServed env.paths.agentxSocket x.2.1 x.2.2.1 ∧
      (x.1 = true → PartsInLine x.2.1.applied x.2.1 x.2.2.1) := by
  have start : Consistent env.paths.agentxSocket (true, ({} : SwitchPlugin), ({} : Snmpd), w) :=
    ⟨⟨fun h => absurd rfl h, fun _ hid => nomatch hid⟩,
      fun _ => ⟨⟨by simp, rfl⟩, rfl, rfl, fun _ => rfl⟩⟩
  have hrun := runSettled_consistent platform env history leaves _ start
  exact ⟨hrun.1.served, hrun.2⟩

/-- Agents that start and open their socket. -/
def agentBench : SnmpdEnv ActualState where
  paths := ⟨"/run/snmpd.conf", "/var/lib/snmp", "/var/lib/snmp/snmpd.conf", "/run/agentx.sock"⟩
  spawn program s := (.ok (match program with | .snmpd => 300 | .clixonSnmp => 301), s)
  running _ s := (true, s)
  stop _ s := s
  writeConf _ s := (.ok (), s)
  createPersistentDir s := (.ok (), s)
  readPersistent s := (none, s)
  writePersistent _ s := (.ok (), s)
  removeSocket s := s
  socketExists s := (true, s)
  expired s := (false, s)

theorem agentBench_keeps (inv : ActualState → Prop) : Agent.Keeps agentBench inv where
  spawn _ _ h := h
  running _ _ h := h
  stop _ _ h := h
  writeConf _ _ h := h
  createPersistentDir _ h := h
  readPersistent _ h := h
  writePersistent _ _ h := h
  removeSocket _ h := h
  socketExists _ h := h
  expired _ h := h

/-- A commit that starts the agent. -/
def agentHistory : List (Callback (Snmpd × ActualState)) :=
  [.commit ⟨.ok (.json (.object [])), .ok (.json privateTree)⟩, .elapse id]

theorem callbacks_parts_in_line_agent :
    let x := runSettled ((bench fakeNet).withSnmpd agentBench) agentHistory
      (true, {}, {}, ({} : ActualState))
    x.1 = true ∧ x.2.1.engineId = some (defaultEngineId [2, 0, 0, 0, 0, 1]) ∧
      PartsInLine x.2.1.applied x.2.1 x.2.2.1 := by
  have hleaves : ∀ c ∈ agentHistory, LeavesAgent c := by simp [agentHistory, LeavesAgent]
  have hsettled : (runSettled ((bench fakeNet).withSnmpd agentBench) agentHistory
      (true, {}, {}, ({} : ActualState))).1 = true := by decide +kernel
  exact ⟨hsettled, by decide +kernel,
    (callbacks_parts_in_line (bench fakeNet) agentBench agentHistory hleaves {}).2 hsettled⟩

end ClixonSwitch.Guarantees
