import ClixonSwitch.Guarantees.Convergence
import ClixonSwitch.Guarantees.MstpdIncremental
import ClixonSwitch.Source.Plugin.History
import ClixonSwitch.Source.SwitchNet.Changed

/-!
# mstpd settings across failed commits

The plugin caches the commands that mstpd has run and sends them again when an
operation of the same commit made mstpd forget them. The operations of a commit that
fails before mstpd is configured are not remembered, so the cache may outlive what it
describes.
-/
namespace ClixonSwitch.Guarantees
open Lib Lib.Failing Source.SwitchModel
  ClixonSwitch.Source.SwitchNet ClixonSwitch.Source.Plugin

/-- The port that a command names. -/
def commandPort : Command → Option String
  | .set s _ => s.portOf
  | _ => none

/-- After the operation, mstpd does not have the setting of the command: the bridge is
new, or the port that the command names joins it. -/
def Forgets (op : Op) (c : Command) : Prop :=
  match op with
  | .createBridge _ => True
  | .setMaster port (some master) => master = bridgeName ∧ commandPort c = some port
  | _ => False

/-- The command was run, and no later operation made mstpd forget it. -/
def RunSince (log : List Act) (c : Command) : Prop :=
  ∃ before after, log = before ++ .mstpctl c :: after ∧
    ∀ op, .kernel op ∈ after → ¬ Forgets op c

/-- Every cached command is in effect. -/
def CacheTrue (m : Mstpd) (log : List Act) : Prop :=
  ∀ a, m.applied = some a → ∀ c ∈ a.commands, RunSince log c

theorem RunSince.append {log acts : List Act} {c : Command} (h : RunSince log c)
    (harmless : ∀ op, .kernel op ∈ acts → ¬ Forgets op c) : RunSince (log ++ acts) c := by
  obtain ⟨before, after, rfl, hafter⟩ := h
  refine ⟨before, after ++ acts, by simp, fun op member => ?_⟩
  exact (List.mem_append.mp member).elim (hafter op) (harmless op)

theorem RunSince.of_mem {log : List Act} {cs : List Command} {c : Command} (member : c ∈ cs) :
    RunSince (log ++ cs.map .mstpctl) c := by
  obtain ⟨before, after, rfl⟩ := List.append_of_mem member
  refine ⟨log ++ before.map .mstpctl, after.map .mstpctl, by simp, fun op hop => ?_⟩
  simp at hop

theorem CacheTrue.of_none {m : Mstpd} {log : List Act} (h : m.applied = none) :
    CacheTrue m log := by
  intro a ha
  rw [h] at ha
  cases ha

theorem CacheTrue.append {m : Mstpd} {log acts : List Act} (h : CacheTrue m log)
    (harmless : ∀ a ∈ acts, a.isKernel = false) : CacheTrue m (log ++ acts) := by
  intro a ha c hc
  refine (h a ha c hc).append fun op member => ?_
  exact absurd (harmless _ member) (by simp [Act.isKernel])

/-- The cache belongs to a process and tells the truth. -/
structure CacheSound (v : View) : Prop where
  owned : v.mstpd.CacheOwned
  cache : CacheTrue v.mstpd v.log

/-- If `apply` fails before it configures mstpd, no operation that it has applied made
mstpd forget a command that is still cached. -/
def KernelFailureHarmless {ω : Type} (platform : Platform ω) (desired : DesiredState)
    (s : Traced ω) : Prop :=
  ∀ e (s' : Traced ω), applyKernel platform.traced desired s = (.error e, s') →
    ∀ acts, s'.view.log = s.view.log ++ acts →
      ∀ a, s'.view.mstpd.applied = some a → ∀ op, .kernel op ∈ acts →
        ∀ c ∈ a.commands, ¬ Forgets op c

section Stages
variable {ω : Type} {platform : Platform ω} {desired : DesiredState} {s₀ : Traced ω}

theorem kernelStage_cacheTrue {v₀ v : View} {wanted : Option String} {ops : List Op}
    (stage : KernelStage v₀ wanted ops v) (sound : CacheSound v₀) : CacheTrue v.mstpd v₀.log := by
  intro a ha
  rcases stage.cache with hnone | hkept
  · rw [hnone] at ha
    cases ha
  · exact sound.cache a (hkept ▸ ha)

theorem applyKernel_sound (sound : CacheSound s₀.view)
    (harmless : KernelFailureHarmless platform desired s₀) :
    Triple (· = s₀) (applyKernel platform.traced desired)
      (fun r s => applyKernel platform.traced desired s₀ = (.ok r, s) ∧
        KernelStage s₀.view desired.dhcpSvi r.1 s.view ∧
        (s.view.mstpd.pid ≠ none ↔ desired.stp.isSome = true))
      fun s => CacheSound s.view := by
  rintro s rfl
  obtain ⟨hok, hfailed⟩ := applyKernel_stage platform desired sound.owned s rfl
  refine ⟨fun r s' hrun => ⟨hrun, hok r s' hrun⟩, fun e s' hrun => ?_⟩
  obtain ⟨ops, stage⟩ := hfailed e s' hrun
  obtain ⟨acts, hlog, -⟩ := stage.log
  refine ⟨stage.owned, fun a ha c hc => ?_⟩
  rw [hlog, List.append_assoc]
  refine (kernelStage_cacheTrue stage sound a ha c hc).append fun op member => ?_
  exact harmless e s' hrun _ (by rw [hlog, List.append_assoc]) a ha op member c hc

/-- Without a reason to send everything again, the operations make mstpd forget
nothing. -/
theorem not_forgets_of_needsResend {ops : List Op} (h : needsResend ops = false) {op : Op}
    (member : op ∈ ops) (c : Command) : ¬ Forgets op c := by
  have hop := List.any_eq_false.mp h op member
  unfold Forgets
  split
  · exact absurd rfl hop
  · exact absurd rfl hop
  · exact id

/-- After a successful `configure` every command of the configuration is in effect: it
has just been run, or it is cached and the operations made mstpd forget nothing. -/
theorem configured_runSince {m : Mstpd} {st : Stp} {mac : String} {ops : List Op}
    {log₀ acts log log' : List Act} (cache : CacheTrue m log₀)
    (hlog : log = log₀ ++ acts ++ ops.map .kernel) (quiet : ∀ a ∈ acts, a.isKernel = false)
    (hlog' : log' = log ++
      (configureCommands (m.previous (needsResend ops)) st mac).map .mstpctl) :
    ∀ c ∈ commands st mac, RunSince log' c := by
  intro c hc
  by_cases hrun : c ∈ configureCommands (m.previous (needsResend ops)) st mac
  · rw [hlog']
    exact RunSince.of_mem hrun
  · have hran : c ∈ ranCommands (m.previous (needsResend ops)) := by
      by_contra hnew
      exact hrun ((mem_configureCommands _ c).mpr (.inr (.inl ⟨hc, .inl hnew⟩)))
    unfold Mstpd.previous at hran
    split at hran
    · exact absurd hran List.not_mem_nil
    · next hresend =>
      cases happlied : m.applied with
      | none => exact absurd (happlied ▸ hran) List.not_mem_nil
      | some a =>
        rw [happlied] at hran
        rw [hlog', hlog, List.append_assoc, List.append_assoc]
        refine (cache a happlied c hran).append fun op member => ?_
        rcases List.mem_append.mp member with member | member
        · exact absurd (quiet _ member) (by simp [Act.isKernel])
        · have hop : op ∈ ops := by simpa using member
          exact not_forgets_of_needsResend (by simpa using hresend) hop c

theorem configureStp_sound {stp : Option Stp} {ops : List Op} {mac : String} {v₀ : View}
    {wanted : Option String} (sound : CacheSound v₀) :
    Triple (fun s => KernelStage v₀ wanted ops (Traced.view s) ∧
        (s.view.mstpd.pid ≠ none ↔ stp.isSome = true))
      (configureStp platform.traced stp mac ops)
      (fun _ s => CacheSound s.view ∧
        ∀ st, stp = some st → ∀ c ∈ commands st mac, RunSince s.view.log c)
      fun s => CacheSound s.view := by
  rintro ⟨p, w⟩ ⟨stage, hpid⟩
  obtain ⟨acts, hlog, hacts, -⟩ := stage.log
  have hcache := kernelStage_cacheTrue stage sound
  cases stp with
  | none =>
    have hnone : p.mstpd.applied = none := by
      by_contra hsome
      exact absurd (hpid.mp (stage.owned hsome)) Bool.false_ne_true
    refine ⟨fun _ s' hs' => ?_, fun e s' hs' => nomatch hs'⟩
    cases hs'
    exact ⟨⟨stage.owned, CacheTrue.of_none hnone⟩, fun st h => nomatch h⟩
  | some st =>
    obtain ⟨result, m, w', hconf, hrun, hsame⟩ :=
      configureStp_run platform.traced (Option.isSome_some (a := st)) mac ops p w
    have howned : m.CacheOwned := fun _ => hsame ▸ hpid.mpr rfl
    rw [hrun]
    refine ⟨fun _ s' hs' => ?_, fun e s' hs' => ?_⟩
    · cases hs'
      obtain ⟨hrunAll, hm⟩ := Mstpd.configure_run _ hconf
      have hall := configured_runSince hcache hlog hacts (runAll_mstpctl_log platform hrunAll)
      refine ⟨⟨howned, fun a ha c hc => ?_⟩, fun st' h => Option.some.inj h ▸ hall⟩
      obtain rfl : StpApplied.of st mac = a :=
        Option.some.inj ((congrArg Mstpd.applied hm).symm.trans ha)
      exact hall c hc
    · cases hs'
      have hfailed : (p.mstpd.configure platform.traced.mstpd (some st) mac (needsResend ops)
          w).1 ≠ .ok () := by simp [hconf]
      have hnone : m.applied = none := by simpa [hconf] using Mstpd.configure_failed _ hfailed
      exact ⟨howned, CacheTrue.of_none hnone⟩

theorem syncDhcp_sound (wanted : Option String) (relinked : Bool) {keep : List Act → Prop}
    (grows : ∀ log acts, keep log → (∀ a ∈ acts, a.isKernel = false) → keep (log ++ acts)) :
    Triple (fun s => CacheSound (Traced.view s) ∧ keep s.view.log)
      (syncDhcp platform.traced wanted relinked)
      (fun _ s => CacheSound s.view ∧ keep s.view.log)
      fun s => CacheSound s.view ∧ keep s.view.log := by
  refine syncDhcp_keeps platform wanted relinked (fun v => CacheSound v ∧ keep v.log) ?_
  rintro v dhcp acts ⟨sound, hkeep⟩ hacts
  have hquiet : ∀ a ∈ acts, a.isKernel = false := fun a ha => by
    simpa using Act.not_isKernel_of_isDhcp a (hacts a ha)
  exact ⟨⟨sound.owned, sound.cache.append hquiet⟩, grows _ _ hkeep hquiet⟩

/-- Every command of the configuration is in effect, with the MAC address that this call
of `apply` has read. -/
def SettingsRun (platform : Platform ω) (desired : DesiredState) (s₀ : Traced ω)
    (log : List Act) : Prop :=
  ∃ ops mac s₁, applyKernel platform.traced desired s₀ = (.ok (ops, mac), s₁) ∧
    ∀ st, desired.stp = some st → ∀ c ∈ commands st mac, RunSince log c

theorem SettingsRun.append {log acts : List Act} (h : SettingsRun platform desired s₀ log)
    (quiet : ∀ a ∈ acts, a.isKernel = false) :
    SettingsRun platform desired s₀ (log ++ acts) := by
  obtain ⟨ops, mac, s₁, hkernel, hrun⟩ := h
  refine ⟨ops, mac, s₁, hkernel, fun st hst c hc => (hrun st hst c hc).append fun op member => ?_⟩
  exact absurd (quiet _ member) (by simp [Act.isKernel])

/-- One call of `apply`: whatever its outcome the cache stays sound, and if it succeeds
every command of the configuration is in effect. -/
theorem apply_sound (sound : CacheSound s₀.view)
    (harmless : KernelFailureHarmless platform desired s₀) :
    Triple (· = s₀) (apply platform.traced desired)
      (fun _ s => CacheSound s.view ∧ SettingsRun platform desired s₀ s.view.log)
      fun s => CacheSound s.view := by
  have hstp : Triple (· = s₀) (applyStp platform.traced desired)
      (fun _ s => CacheSound s.view ∧ SettingsRun platform desired s₀ s.view.log)
      fun s => CacheSound s.view := by
    refine triple_bind (applyKernel_sound sound harmless) ?_
    rintro ⟨ops, mac⟩ s ⟨hkernel, stage⟩
    have hconfigure : Triple (fun s' => KernelStage s₀.view desired.dhcpSvi ops (Traced.view s') ∧
          (s'.view.mstpd.pid ≠ none ↔ desired.stp.isSome = true))
        (configureStp platform.traced desired.stp mac ops)
        (fun _ s' => CacheSound s'.view ∧ SettingsRun platform desired s₀ s'.view.log)
        fun s' => CacheSound s'.view := by
      intro s' hs'
      obtain ⟨hok, hfailed⟩ := configureStp_sound sound s' hs'
      exact ⟨fun _ s'' h => ⟨(hok _ s'' h).1, ops, mac, s, hkernel, (hok _ s'' h).2⟩, hfailed⟩
    exact triple_bind hconfigure (fun _ => triple_pure fun _ => id) s stage
  exact apply_triple platform (fun v => SettingsRun platform desired s₀ v.log) hstp fun ops =>
    (syncDhcp_sound _ _ fun _ _ => SettingsRun.append).imp_failed fun _ => And.left

end Stages

theorem bootPlugin_sound {ω : Type} (w : ω) : CacheSound (bootPlugin w).view where
  owned h := absurd rfl h
  cache _ h := nomatch h

/-- In every run in which no failed commit makes mstpd forget what stays cached, a
successful commit leaves every command of its configuration in effect. -/
theorem apply_ok_settings_run {ω : Type} (platform : Platform ω) (w : ω)
    (earlier : List DesiredState) (desired : DesiredState)
    (harmless : EveryApply platform (KernelFailureHarmless platform) (earlier ++ [desired])
      (bootPlugin w))
    (success : (apply platform.traced desired
      (runApplies platform earlier (bootPlugin w))).1 = .ok ()) :
    SettingsRun platform desired (runApplies platform earlier (bootPlugin w))
      (runApplies platform (earlier ++ [desired]) (bootPlugin w)).view.log := by
  exact (runApplies_last platform (fun d s v => SettingsRun platform d s v.log)
    (fun _ _ => apply_sound) (bootPlugin_sound w) harmless success).2

/-- The access port with RSTP. -/
def rstpAccessConfig : Config := { accessConfig with stp := some (rstpConfig 15) }

def rstpAccess : DesiredState :=
  { accessPort20 with
    stp := some { rstpWith 15 with
      cist := ⟨32768, BTreeMap.collect [("lan1", {})]⟩
      ports := BTreeMap.collect [("lan1", {})] } }

/-- The first commit fails at its fourth operation, with nothing cached yet. -/
theorem apply_ok_settings_run_retry :
    SettingsRun rig rstpAccess
      (runApplies rig [rstpAccess] (bootPlugin { kernel := onePortBoot, refused := [4] }))
      (runApplies rig ([rstpAccess] ++ [rstpAccess])
        (bootPlugin { kernel := onePortBoot, refused := [4] })).view.log := by
  refine apply_ok_settings_run rig { kernel := onePortBoot, refused := [4] } [rstpAccess]
    rstpAccess ⟨?_, ?_, trivial⟩ (by decide +kernel)
  · intro e s' hs' acts _ a ha
    have hnone : (Traced.view (applyKernel rig.traced rstpAccess
        (bootPlugin { kernel := onePortBoot, refused := [4] })).2).mstpd.applied.isNone := by
      decide +kernel
    rw [hs', ha] at hnone
    cases hnone
  · intro e s' hs'
    have hok : (applyKernel rig.traced rstpAccess (apply rig.traced rstpAccess
        (bootPlugin { kernel := onePortBoot, refused := [4] })).2).1.isOk := by decide +kernel
    rw [hs'] at hok
    cases hok

/-- The bridge of a configured switch is deleted by someone else. The next commit
creates it anew and fails at the port's VLAN entry; the one after it succeeds. -/
def lostBridge : Traced Rig :=
  bootPlugin { kernel := onePortBoot, refused := [15], changed := [(2, onePortBoot)] }

theorem settings_lost_after_failure :
    desiredState rstpAccessConfig onePortBoot.switchPorts = .ok rstpAccess ∧
      (apply rig.traced rstpAccess lostBridge).1 = .ok () ∧
      (apply rig.traced rstpAccess (runApplies rig [rstpAccess] lostBridge)).1 =
        .error (opError (.addBridgeVlan "lan1" 20 access) ⟨"Device or resource busy"⟩) ∧
      (apply rig.traced rstpAccess (runApplies rig [rstpAccess, rstpAccess] lostBridge)).1 =
        .ok () ∧
      ¬ SettingsRun rig rstpAccess (runApplies rig [rstpAccess, rstpAccess] lostBridge)
        (runApplies rig [rstpAccess, rstpAccess, rstpAccess] lostBridge).view.log := by
  refine ⟨by decide +kernel, by decide +kernel, by decide +kernel, by decide +kernel, ?_⟩
  rintro ⟨ops, mac, s₁, -, hrun⟩
  have member : .set (.bridge .forceVers) ["rstp"] ∈
      commands (rstpAccess.stp.getD (rstpWith 0)) mac := List.mem_of_mem_head? rfl
  obtain ⟨before, after, hlog, hafter⟩ := hrun _ rfl _ member
  -- Every run of the command is followed by the creation of the bridge.
  have hlost : ∀ t ∈ (runApplies rig [rstpAccess, rstpAccess, rstpAccess]
      lostBridge).view.log.tails,
      t.head? = some (.mstpctl (.set (.bridge .forceVers) ["rstp"])) →
        Act.kernel (.createBridge "br-lan") ∈ t := by decide +kernel
  have hcreate := hlost (.mstpctl (.set (.bridge .forceVers) ["rstp"]) :: after)
    (List.mem_tails _ _ |>.mpr ⟨before, hlog.symm⟩) rfl
  exact hafter (.createBridge "br-lan") (by simpa using hcreate) trivial

end ClixonSwitch.Guarantees
