import ClixonSwitch.Guarantees.Convergence
import ClixonSwitch.Source.Plugin.History

/-!
# The DHCP client across failed commits

A client is bound to the link it was started on, and restarts when an operation of the
same commit creates the link anew. The operations of a commit that fails before the
client is synchronised are not remembered, so the client may stay on a link that is
gone.
-/
namespace ClixonSwitch.Guarantees
open Lib Lib.Failing Source.SwitchModel
  ClixonSwitch.Source.SwitchNet ClixonSwitch.Source.Plugin

/-- The client was started for the interface, was not seen to end since, and the link
was not created anew since. -/
def StartedSince (log : List Act) (interface : String) (pid : UInt32) : Prop :=
  ∃ before after, log = before ++ .dhcpStarted interface pid :: after ∧
    .dhcpEnded pid ∉ after ∧ ∀ parent id, .kernel (.createVlan interface parent id) ∉ after

theorem StartedSince.append {log acts : List Act} {interface : String} {pid : UInt32}
    (h : StartedSince log interface pid) (running : .dhcpEnded pid ∉ acts)
    (linked : ∀ parent id, .kernel (.createVlan interface parent id) ∉ acts) :
    StartedSince (log ++ acts) interface pid := by
  obtain ⟨before, after, rfl, hrunning, hlinked⟩ := h
  refine ⟨before, after ++ acts, by simp, fun member => ?_, fun parent id member => ?_⟩
  · exact (List.mem_append.mp member).elim hrunning running
  · exact (List.mem_append.mp member).elim (hlinked parent id) (linked parent id)

/-- The recorded client runs on the link that there is. -/
structure ClientSound (v : View) : Prop where
  owned : v.mstpd.CacheOwned
  client : ∀ n pid, v.dhcp.client = some (n, pid) → StartedSince v.log n pid

/-- The wanted interface has a client. -/
def HasClient (wanted : Option String) (v : View) : Prop :=
  ∀ n, wanted = some n → ∃ pid, v.dhcp.client = some (n, pid)

/-- If `apply` fails before it synchronises the DHCP client, it has not created the link
of a client that is still recorded. -/
def StpFailureHarmless {ω : Type} (platform : Platform ω) (desired : DesiredState)
    (s : Traced ω) : Prop :=
  ∀ e (s' : Traced ω), applyStp platform.traced desired s = (.error e, s') →
    ∀ acts, s'.view.log = s.view.log ++ acts →
      ∀ n pid, s'.view.dhcp.client = some (n, pid) →
        ∀ parent id, .kernel (.createVlan n parent id) ∉ acts

/-- What happens before the DHCP client is synchronised, from `v₀` on: the operations
are among `ops`, and a client that is kept was neither started nor ended. -/
structure StpStage (v₀ : View) (ops : List Op) (v : View) : Prop where
  owned : v.mstpd.CacheOwned
  log : ∃ acts, v.log = v₀.log ++ acts ∧ (∀ op, .kernel op ∈ acts → op ∈ ops) ∧
    (v.dhcp.client ≠ none → v.dhcp = v₀.dhcp ∧ ∀ a ∈ acts, a.isDhcp = false)

section Stages
variable {ω : Type} {platform : Platform ω} {desired : DesiredState} {s₀ : Traced ω}

theorem stpStage_of_kernel {v₀ v : View} {wanted : Option String} {ops : List Op}
    (stage : KernelStage v₀ wanted ops v) {mstpd : Mstpd} (owned : mstpd.CacheOwned)
    {more : List Act} (hmore : ∀ a ∈ more, a.isMstpctl = true) :
    StpStage v₀ ops ⟨mstpd, v.dhcp, v.log ++ more⟩ := by
  obtain ⟨acts, hlog, hacts, hclient⟩ := stage.log
  refine ⟨owned, acts ++ ops.map .kernel ++ more, by simp [hlog], fun op member => ?_,
    fun hsome => ?_⟩
  · rw [List.append_assoc, List.mem_append, List.mem_append] at member
    rcases member with h | h | h
    · exact absurd (hacts _ h) (by simp [Act.isKernel])
    · simpa using h
    · exact absurd (hmore _ h) (by simp [Act.isMstpctl])
  · obtain ⟨hkept, -, hmstpctl⟩ := hclient hsome
    refine ⟨hkept, fun a member => ?_⟩
    have hkind : a.isMstpctl = true ∨ a.isKernel = true := by
      rw [List.append_assoc, List.mem_append, List.mem_append] at member
      rcases member with h | h | h
      · exact .inl (hmstpctl a h)
      · obtain ⟨op, -, rfl⟩ := List.mem_map.mp h
        exact .inr rfl
      · exact .inl (hmore a h)
    cases a <;> simp_all [Act.isMstpctl, Act.isKernel, Act.isDhcp]

theorem configureStp_stage {stp : Option Stp} {ops : List Op} {mac : String} {v₀ : View}
    {wanted : Option String} :
    Triple (fun s => KernelStage v₀ wanted ops (Traced.view s) ∧
        (s.view.mstpd.pid ≠ none ↔ stp.isSome = true))
      (configureStp platform.traced stp mac ops) (fun _ s => StpStage v₀ ops s.view)
      fun s => ∃ ops, StpStage v₀ ops s.view := by
  rintro ⟨p, w⟩ ⟨stage, hpid⟩
  cases hstp : stp.isSome with
  | false =>
    have hskip : configureStp platform.traced stp mac ops (p, w) = (.ok (), p, w) := by
      simp only [configureStp, hstp, Bool.false_eq_true, if_false]
      rfl
    rw [hskip]
    refine ⟨fun _ s' hs' => ?_, fun e s' hs' => by cases hs'⟩
    cases hs'
    simpa [Traced.view] using stpStage_of_kernel stage stage.owned (by simp : ∀ a ∈ [], _)
  | true =>
    obtain ⟨result, m, w', hconf, hrun, hsame⟩ := configureStp_run platform.traced hstp mac ops p w
    have hgrown := Mstpd.configure_keeps (m := p.mstpd)
      (mstpd_keepsGrown platform w.2).toKeepsPolling stp mac (needsResend ops) (Grown.refl _ _)
    rw [hconf] at hgrown
    obtain ⟨more, hlog, hmore⟩ := hgrown
    have hafter := stpStage_of_kernel stage (fun _ => hsame ▸ hpid.mpr hstp : m.CacheOwned) hmore
    rw [show (Traced.view (p, w)).log ++ more = w'.2 from hlog.symm] at hafter
    rw [hrun]
    refine ⟨fun _ s' hs' => ?_, fun e s' hs' => ?_⟩
    · cases hs'
      exact hafter
    · cases hs'
      exact ⟨ops, hafter⟩

theorem applyStp_stage (platform : Platform ω) (desired : DesiredState)
    (owned : s₀.view.mstpd.CacheOwned) :
    Triple (· = s₀) (applyStp platform.traced desired)
      (fun ops s => StpStage s₀.view ops s.view)
      fun s => ∃ ops, StpStage s₀.view ops s.view := by
  have hkernel : Triple (· = s₀) (applyKernel platform.traced desired)
      (fun r s => KernelStage s₀.view desired.dhcpSvi r.1 s.view ∧
        (s.view.mstpd.pid ≠ none ↔ desired.stp.isSome = true))
      fun s => ∃ ops, StpStage s₀.view ops s.view := by
    rintro s rfl
    obtain ⟨hok, hfailed⟩ := applyKernel_stage platform desired owned s rfl
    refine ⟨hok, fun e s' hs' => ?_⟩
    obtain ⟨ops, stage⟩ := hfailed e s' hs'
    refine ⟨ops, ?_⟩
    simpa [Traced.view] using stpStage_of_kernel stage stage.owned (by simp : ∀ a ∈ [], _)
  refine triple_bind hkernel ?_
  rintro ⟨ops, mac⟩
  exact triple_bind configureStp_stage fun _ => triple_pure fun _ => id

/-- A client that is kept by `sync` runs on the link that there is. -/
theorem stpStage_startedSince {v₀ v : View} {ops : List Op} {n : String} {pid : UInt32}
    (sound : ClientSound v₀) (stage : StpStage v₀ ops v)
    (linked : isRelinked ops (some n) = false) (hclient : v.dhcp.client = some (n, pid)) :
    StartedSince v.log n pid := by
  obtain ⟨acts, hlog, hops, hkept⟩ := stage.log
  obtain ⟨hdhcp, hquiet⟩ := hkept (by simp [hclient])
  rw [hlog]
  refine (sound.client n pid (hdhcp ▸ hclient)).append (fun member => ?_) fun parent id member => ?_
  · exact absurd (hquiet _ member) (by simp [Act.isDhcp])
  · have hop := List.any_eq_false.mp linked _ (hops _ member)
    exact hop (by simp)

theorem syncEnd_sound {ops : List Op} {v₀ : View} {p : SwitchPlugin} {w : ω × List Act}
    (sound : ClientSound v₀) (stage : StpStage v₀ ops (Traced.view (p, w)))
    {result : Except String (List DhcpEvent)} {dhcp : DhcpClients} {log : List Act}
    (hend : SyncEnd p.dhcp desired.dhcpSvi (isRelinked ops desired.dhcpSvi) w.2 result dhcp log) :
    ClientSound ⟨p.mstpd, dhcp, log⟩ ∧ ((∃ events, result = .ok events) →
      HasClient desired.dhcpSvi ⟨p.mstpd, dhcp, log⟩) := by
  cases hend with
  | failed => exact ⟨⟨stage.owned, fun _ _ h => nomatch h⟩, fun ⟨_, h⟩ => nomatch h⟩
  | unwanted hnone =>
    refine ⟨⟨stage.owned, fun _ _ h => nomatch h⟩, fun _ n hn => ?_⟩
    rw [hnone] at hn
    cases hn
  | kept hclient hwanted hlinked =>
    rw [hwanted] at hlinked
    have hstarted := stpStage_startedSince sound stage hlinked hclient
    refine ⟨⟨stage.owned, fun n pid h => ?_⟩, fun _ n hn => ?_⟩
    · cases hclient.symm.trans h
      exact hstarted
    · rw [hwanted] at hn
      cases hn
      exact ⟨_, hclient⟩
  | started hwanted =>
    refine ⟨⟨stage.owned, fun n pid h => ?_⟩, fun _ n hn => ?_⟩
    · cases h
      exact ⟨_, [], rfl, by simp, by simp⟩
    · rw [hwanted] at hn
      cases hn
      exact ⟨_, rfl⟩

theorem syncDhcp_sound_client {ops : List Op} {v₀ : View} (sound : ClientSound v₀) :
    Triple (fun s => StpStage v₀ ops (Traced.view s))
      (syncDhcp platform.traced desired.dhcpSvi (isRelinked ops desired.dhcpSvi))
      (fun _ s => ClientSound s.view ∧ HasClient desired.dhcpSvi s.view)
      fun s => ClientSound s.view := by
  rintro ⟨p, w⟩ stage
  cases hname : platform.traced.hostname w with
  | mk hostname w₁ =>
    have hlog₁ : w₁.2 = w.2 := congrArg (·.2.2) hname.symm
    cases hsync : p.dhcp.sync platform.traced.dhcp desired.dhcpSvi
        (isRelinked ops desired.dhcpSvi) hostname w₁ with
    | mk result rest =>
      obtain ⟨dhcp, w'⟩ := rest
      have hend := (sync_end platform p.dhcp desired.dhcpSvi (isRelinked ops desired.dhcpSvi)
        hostname w₁).2
      rw [hsync, hlog₁] at hend
      have hafter : ClientSound ⟨p.mstpd, dhcp, w'.2⟩ ∧ ((∃ events, result = .ok events) →
          HasClient desired.dhcpSvi ⟨p.mstpd, dhcp, w'.2⟩) := by
        refine syncEnd_sound sound stage ?_
        exact hend
      refine ⟨fun events s' hs' => ?_, fun e s' hs' => ?_⟩
      all_goals
        simp only [syncDhcp, hname, hsync] at hs'
        cases result with
        | error e =>
          cases hs'
          try exact hafter.1
        | ok events =>
          cases hs'
          try exact ⟨hafter.1, hafter.2 ⟨_, rfl⟩⟩

/-- One call of `apply`: whatever its outcome a recorded client runs on the link that
there is, and if it succeeds the wanted interface has one. -/
theorem apply_client (sound : ClientSound s₀.view)
    (harmless : StpFailureHarmless platform desired s₀) :
    Triple (· = s₀) (apply platform.traced desired)
      (fun _ s => ClientSound s.view ∧ HasClient desired.dhcpSvi s.view)
      fun s => ClientSound s.view := by
  refine apply_triple platform (HasClient desired.dhcpSvi) ?_ fun ops => syncDhcp_sound_client sound
  rintro s rfl
  obtain ⟨hok, hfailed⟩ := applyStp_stage platform desired sound.owned s rfl
  refine ⟨hok, fun e s' hs' => ?_⟩
  obtain ⟨ops, stage⟩ := hfailed e s' hs'
  obtain ⟨acts, hlog, -, hkept⟩ := stage.log
  refine ⟨stage.owned, fun n pid hclient => ?_⟩
  obtain ⟨hdhcp, hquiet⟩ := hkept (by simp [hclient])
  rw [hlog]
  refine (sound.client n pid (hdhcp ▸ hclient)).append (fun member => ?_)
    (harmless e s' hs' acts hlog n pid hclient)
  exact absurd (hquiet _ member) (by simp [Act.isDhcp])

end Stages

theorem bootPlugin_client {ω : Type} (w : ω) : ClientSound (bootPlugin w).view where
  owned h := absurd rfl h
  client _ _ h := nomatch h

/-- In every run in which no failed commit creates the link of a client that stays
recorded, a successful commit with a DHCP interface leaves a client that was started
on its link. -/
theorem apply_ok_client_started {ω : Type} (platform : Platform ω) (w : ω)
    (earlier : List DesiredState) (desired : DesiredState) (interface : String)
    (harmless : EveryApply platform (StpFailureHarmless platform) (earlier ++ [desired])
      (bootPlugin w))
    (wanted : desired.dhcpSvi = some interface)
    (success : (apply platform.traced desired
      (runApplies platform earlier (bootPlugin w))).1 = .ok ()) :
    ∃ pid, (runApplies platform (earlier ++ [desired]) (bootPlugin w)).view.dhcp.client =
        some (interface, pid) ∧
      StartedSince (runApplies platform (earlier ++ [desired]) (bootPlugin w)).view.log
        interface pid := by
  obtain ⟨hafter, hclient⟩ := runApplies_last platform
    (fun d _ => HasClient d.dhcpSvi) (fun _ _ => apply_client) (bootPlugin_client w) harmless success
  obtain ⟨pid, hpid⟩ := hclient interface wanted
  exact ⟨pid, hpid, hafter.client interface pid hpid⟩

/-- A management interface with a DHCP client on the given VLAN. -/
def mgmtConfig (vlan : UInt16) : Config where
  interfaces := some { interface :=
    [{ name := "mgmt"
       config := { ifType := some "iana-if-type:l3ipvlan" }
       routedVlan := some
         { config := { vlan := some (.number vlan.toUInt64) }
           ipv4 := some { config := { dhcpClient := some true } } } }] }
  vlans := some { vlan := [{ vlanId := some 20 }, { vlanId := some 30 }] }

def mgmtOn (vlan : UInt16) : DesiredState where
  vlans := BTreeMap.collect [(20, ⟨none, true⟩), (30, ⟨none, true⟩)]
  svis := BTreeMap.collect [("mgmt", ⟨true, vlan, ∅, true⟩)]

/-- The first commit fails before there is a client, and the second starts one. -/
theorem apply_ok_client_started_retry :
    ∃ pid, (runApplies rig ([mgmtOn 20] ++ [mgmtOn 20])
        (bootPlugin { kernel := onePortBoot, refused := [7] })).view.dhcp.client =
          some ("mgmt", pid) ∧
      StartedSince (runApplies rig ([mgmtOn 20] ++ [mgmtOn 20])
        (bootPlugin { kernel := onePortBoot, refused := [7] })).view.log "mgmt" pid := by
  refine apply_ok_client_started rig { kernel := onePortBoot, refused := [7] } [mgmtOn 20]
    (mgmtOn 20) "mgmt" ⟨?_, ?_, trivial⟩ (by decide +kernel) (by decide +kernel)
  · intro e s' hs' acts _ n pid hclient
    have hnone : (Traced.view (applyStp rig.traced (mgmtOn 20)
        (bootPlugin { kernel := onePortBoot, refused := [7] })).2).dhcp.client.isNone := by
      decide +kernel
    rw [hs', hclient] at hnone
    cases hnone
  · intro e s' hs'
    have hok : (applyStp rig.traced (mgmtOn 20) (apply rig.traced (mgmtOn 20)
        (bootPlugin { kernel := onePortBoot, refused := [7] })).2).1.isOk := by decide +kernel
    rw [hs'] at hok
    cases hok

/-- The interface moves from VLAN 20 to VLAN 30: its link is created anew, setting it up
is refused, and the same commit is made again. -/
def movedLink : Traced Rig := bootPlugin { kernel := onePortBoot, refused := [12] }

theorem client_left_after_failure :
    desiredState (mgmtConfig 20) onePortBoot.switchPorts = .ok (mgmtOn 20) ∧
      desiredState (mgmtConfig 30) onePortBoot.switchPorts = .ok (mgmtOn 30) ∧
      (apply rig.traced (mgmtOn 20) movedLink).1 = .ok () ∧
      (apply rig.traced (mgmtOn 30) (runApplies rig [mgmtOn 20] movedLink)).1 =
        .error (opError (.setUp "mgmt" true) ⟨"Device or resource busy"⟩) ∧
      (apply rig.traced (mgmtOn 30) (runApplies rig [mgmtOn 20, mgmtOn 30] movedLink)).1 =
        .ok () ∧
      (runApplies rig [mgmtOn 20, mgmtOn 30, mgmtOn 30] movedLink).view.dhcp.client =
        some ("mgmt", 200) ∧
      ¬ StartedSince (runApplies rig [mgmtOn 20, mgmtOn 30, mgmtOn 30] movedLink).view.log
        "mgmt" 200 := by
  refine ⟨by decide +kernel, by decide +kernel, by decide +kernel, by decide +kernel,
    by decide +kernel, by decide +kernel, ?_⟩
  rintro ⟨before, after, hlog, -, hafter⟩
  -- The only start of the client is followed by the creation of the link.
  have hcreated : ∀ t ∈ (runApplies rig [mgmtOn 20, mgmtOn 30, mgmtOn 30]
      movedLink).view.log.tails, t.head? = some (.dhcpStarted "mgmt" 200) →
        Act.kernel (.createVlan "mgmt" "br-lan" 30) ∈ t := by decide +kernel
  have hcreate := hcreated (.dhcpStarted "mgmt" 200 :: after)
    (List.mem_tails _ _ |>.mpr ⟨before, hlog.symm⟩) rfl
  exact hafter "br-lan" 30 (by simpa using hcreate)

end ClixonSwitch.Guarantees
