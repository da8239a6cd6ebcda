import ClixonSwitch.Source.SwitchModel.Stp
import ClixonSwitch.Source.SwitchNet.Changed

/-!
# Incremental configuration of mstpd

Two configurations after one another, the second with only the changed commands,
compared with running all commands of the second. They agree unless the second asks
for the longest forward delay and changes nothing else about the timers: the command
for it is also the first timer command of every configuration, so it counts as run
while the first configuration's own delay is in effect. And a tree that neither of the
two has stays, since only the trees of the first are deleted.
-/
namespace ClixonSwitch.Guarantees
open Lib Lib.Collect Source.SwitchModel
  ClixonSwitch.Source.SwitchNet

/-- The ranges that YANG gives the timers. -/
structure YangTimers (config : TimerConfig) : Prop where
  maxAge : ∀ age, config.maxAge = some age → 6 ≤ age ∧ age ≤ 40
  forwardingDelay : ∀ delay, config.forwardingDelay = some delay → 4 ≤ delay ∧ delay ≤ 30

/-- The ranges that YANG gives the timers and the MSTIs of `/stp`. -/
structure YangStp (config : StpConfig) : Prop where
  rstp : ∀ rstp, config.rstp = some rstp → YangTimers rstp.config
  mstp : ∀ mstp, config.mstp = some mstp → YangTimers mstp.config
  mstId : ∀ inst ∈ instancesOf config, ∀ id, inst.mstId = some id ∨ inst.config.mstId = some id →
    1 ≤ id ∧ id ≤ 4094

/-- What `desired_stp` can produce from YANG-valid input. -/
def Produced (stp : Stp) : Prop :=
  ∃ config ports, YangStp config ∧ desiredStp (some config) ports = ⟨some stp, []⟩

theorem mstInstance_cistOnly {ports : BTreeSet String} {table : MstiTable} {inst : MstInstance}
    (ids : ∀ id, inst.mstId = some id ∨ inst.config.mstId = some id → id ≠ 0)
    (before : 0 ∉ table.mstis) : 0 ∉ (mstInstance ports table inst).value.mstis := by
  unfold mstInstance
  split
  · exact before
  · next id hid =>
    have hne : id ≠ 0 := by
      rw [Option.or_eq_some_iff] at hid
      exact ids id (hid.elim .inr fun h => .inl h.2)
    simpa [Std.ExtTreeMap.mem_insert, hne] using before

theorem mstis_cistOnly {config : StpConfig} (yang : YangStp config) (ports : BTreeSet String) :
    0 ∉ (mstis (config.mstp.bind Mstp.mstInstances) ports).value := by
  refine foldlM_invariant (fun table : MstiTable => 0 ∉ table.mstis) ?_ (by simp)
  intro inst member table before
  refine mstInstance_cistOnly (fun id hid hzero => ?_) before
  have hrange := (yang.mstId inst member id hid).1
  subst hzero
  exact absurd hrange (by decide)

theorem Produced.cistOnly {stp : Stp} (produced : Produced stp) : 0 ∉ stp.mstis := by
  obtain ⟨config, ports, yang, hstp⟩ := produced
  have hvalue : (stpMessages config ports).value = some stp := congrArg Collect.value hstp
  simp only [stpMessages, value_bind, value_pure, Option.map_eq_some_iff] at hvalue
  obtain ⟨protocol, -, rfl⟩ := hvalue
  split
  · exact mstis_cistOnly yang ports
  · exact Std.ExtTreeMap.not_mem_empty

/-- A deletetree for each MSTI that `stp` does not have. -/
def deleteOthers (stp : Stp) (b : BridgeData) : BridgeData := fun cell =>
  match cell.treeOf with
  | some id => if id ≠ 0 ∧ id ∉ stp.mstis then none else b cell
  | none => b cell

/-- The settings of the bridge, of the trees of `stp` and of its ports. -/
def Concerns (stp : Stp) : Setting → Prop
  | .bridge _ => True
  | .treePrio id => treeAt stp id ≠ none
  | .port _ p => p ∈ stp.ports
  | .treePort _ _ id => treeAt stp id ≠ none

/-- The bridge is configured in the same way, as far as `stp` is concerned. -/
structure AgreeOn (stp : Stp) (b b' : BridgeData) : Prop where
  settings : ∀ s, Concerns stp s → b (.setting s) = b' (.setting s)
  mstis : ∀ id, id ≠ 0 → (b.HasTree id ↔ b'.HasTree id)

theorem Concerns.tree {stp : Stp} {s : Setting} (concerns : Concerns stp s) {id : UInt16}
    (hid : s.treeOf = some id) : id = 0 ∨ id ∈ stp.mstis := by
  have hat : treeAt stp id ≠ none → id = 0 ∨ id ∈ stp.mstis := by
    intro h
    by_cases hzero : id = 0
    · exact .inl hzero
    · simp only [treeAt, hzero, if_false, ne_eq, Option.map_eq_none_iff] at h
      exact .inr (by simpa using h)
  cases s with
  | bridge w => cases hid
  | port w p => cases hid
  | treePrio id' =>
    cases hid
    exact hat concerns
  | treePort w p id' =>
    cases hid
    exact hat concerns

theorem deleteOthers_setting {stp : Stp} {s : Setting} (concerns : Concerns stp s)
    (b : BridgeData) : deleteOthers stp b (.setting s) = b (.setting s) := by
  simp only [deleteOthers, Cell.treeOf]
  split
  · next id hid =>
    rw [if_neg]
    rintro ⟨hzero, hother⟩
    exact (concerns.tree hid).elim hzero hother
  · rfl

theorem deleteOthers_hasTree {stp : Stp} {id : UInt16} (hid : id ≠ 0) (b : BridgeData) :
    (deleteOthers stp b).HasTree id ↔ id ∈ stp.mstis ∧ b.HasTree id := by
  by_cases hmem : id ∈ stp.mstis <;>
    simp [BridgeData.HasTree, deleteOthers, Cell.treeOf, hid, hmem]

section Incremental
variable {s₁ s₂ : Stp} {mac₁ mac₂ : String}

theorem toString_uInt8_inj {a b : UInt8} (h : toString a = toString b) : a = b :=
  UInt8.toNat_inj.mp (Nat.repr_inj.mp h)

theorem timer_ran (c : Command) (timer : c.isTimer = true) :
    c ∈ ranCommands (some (.of s₁ mac₁)) ↔ c = .set (.bridge .fdelay) [maxForwardDelay] ∨
      c = .set (.bridge .maxAge) [toString s₁.maxAge] ∨
      c = .set (.bridge .fdelay) [toString s₁.forwardDelay] :=
  (and_iff_left timer).symm.trans timer_mem_commands

/-- The timers of the second configuration were not all set for the first. -/
theorem timersChanged_iff : timersChanged (some (.of s₁ mac₁)) (commands s₂ mac₂) ↔
    s₁.maxAge ≠ s₂.maxAge ∨ s₂.forwardDelay ≠ 30 ∧ s₁.forwardDelay ≠ s₂.forwardDelay := by
  have hage : toString s₂.maxAge = toString s₁.maxAge ↔ s₁.maxAge = s₂.maxAge :=
    ⟨fun h => (toString_uInt8_inj h).symm, fun h => by rw [h]⟩
  have hdelay : toString s₂.forwardDelay = toString s₁.forwardDelay ↔
      s₁.forwardDelay = s₂.forwardDelay :=
    ⟨fun h => (toString_uInt8_inj h).symm, fun h => by rw [h]⟩
  have hlongest : toString s₂.forwardDelay = maxForwardDelay ↔ s₂.forwardDelay = 30 :=
    ⟨fun h => toString_uInt8_inj h, fun h => by rw [h]; rfl⟩
  constructor
  · rintro ⟨c, member, timer, new⟩
    rw [timer_ran c timer] at new
    rcases timer_mem_commands.mp ⟨member, timer⟩ with rfl | rfl | rfl
    · exact absurd (.inl rfl) new
    · left
      simpa [bridgeValue, hage] using new
    · right
      simpa [bridgeValue, hdelay, hlongest] using new
  · rintro (h | h)
    · obtain ⟨member, timer⟩ := timer_mem_commands.mpr (.inr (.inl (rfl :
        _ = Command.set (.bridge .maxAge) (bridgeValue s₂ mac₂ .maxAge))))
      refine ⟨_, member, timer, ?_⟩
      rw [timer_ran _ timer]
      simpa [bridgeValue, hage] using h
    · obtain ⟨member, timer⟩ := timer_mem_commands.mpr (.inr (.inr (rfl :
        _ = Command.set (.bridge .fdelay) (bridgeValue s₂ mac₂ .fdelay))))
      refine ⟨_, member, timer, ?_⟩
      rw [timer_ran _ timer]
      simpa [bridgeValue, hdelay, hlongest] using h

/-- The commands that touch a setting other than the forward delay. -/
theorem changedCommands_setting (cistOnly₁ : 0 ∉ s₁.mstis) (cistOnly₂ : 0 ∉ s₂.mstis)
    {s : Setting} (hs : s ≠ .bridge .fdelay) (concerns : Concerns s₂ s) (b : BridgeData) :
    execAll (configureCommands (some (.of s₁ mac₁)) s₂ mac₂) (execAll (commands s₁ mac₁) b)
      (.setting s) = execAll (commands s₂ mac₂) (execAll (commands s₁ mac₁) b) (.setting s) := by
  have hwriter : ∀ c ∈ configureCommands (some (.of s₁ mac₁)) s₂ mac₂,
      c.touches (.setting s) = true →
        ∃ value, settingValue s₂ mac₂ s = some value ∧ c = .set s value := by
    intro c member touched
    rcases (mem_configureCommands _ c).mp member with rfl | ⟨member, -⟩ | ⟨id, hgone, rfl⟩
    · simp [Command.touches] at touched
    · obtain ⟨value, rfl⟩ := set_of_touches member touched
      exact ⟨value, (set_mem_commands cistOnly₂ hs value).mp member, rfl⟩
    · obtain ⟨⟨a, ha, hid⟩, hother⟩ := (mem_goneTrees id).mp hgone
      cases ha
      have htree : s.treeOf = some id := of_decide_eq_true touched
      rcases concerns.tree htree with rfl | hmem
      · exact absurd hid cistOnly₁
      · exact absurd hmem hother
  rw [execAll_cell (configureCommands _ _ _), execAll_commands_setting cistOnly₂]
  cases hlast : lastWriter (configureCommands (some (.of s₁ mac₁)) s₂ mac₂) (.setting s) with
  | some c =>
    obtain ⟨member, touched⟩ := lastTouch_mem hlast
    obtain ⟨value, hvalue, rfl⟩ := hwriter c member touched
    simp [hvalue, Command.leaves]
  | none =>
    cases hvalue : settingValue s₂ mac₂ s with
    | none => rfl
    | some value =>
      -- The command is not run again, so it was run for the first configuration.
      have hran : .set s value ∈ commands s₁ mac₁ := by
        by_contra hnew
        have member := (mem_configureCommands (some (.of s₁ mac₁)) _).mpr
          (.inr (.inl ⟨(set_mem_commands cistOnly₂ hs value).mpr hvalue, .inl hnew⟩))
        simpa [Command.touches] using lastTouch_eq_none.mp hlast _ member
      rw [set_mem_commands cistOnly₁ hs] at hran
      simp [execAll_commands_setting cistOnly₁, hran]

/-- The forward delay that is left after the changed commands. -/
theorem configureCommands_fdelay (s₂ : Stp) (mac₁ mac₂ : String) (cistOnly₁ : 0 ∉ s₁.mstis)
    (b : BridgeData) :
    execAll (configureCommands (some (.of s₁ mac₁)) s₂ mac₂) (execAll (commands s₁ mac₁) b)
      (.setting (.bridge .fdelay)) =
      if s₁.maxAge ≠ s₂.maxAge ∨ s₂.forwardDelay ≠ 30 ∧ s₁.forwardDelay ≠ s₂.forwardDelay then
        some [toString s₂.forwardDelay]
      else some [toString s₁.forwardDelay] := by
  rw [execAll_cell]
  split
  · next h =>
    rw [changedCommands_fdelay (timersChanged_iff.mpr h)]
    rfl
  · next h =>
    have hlast : lastWriter (configureCommands (some (.of s₁ mac₁)) s₂ mac₂)
        (.setting (.bridge .fdelay)) = none := by
      refine lastTouch_eq_none.mpr fun c member => ?_
      by_contra htouch
      rw [Bool.not_eq_false] at htouch
      rcases (mem_configureCommands _ c).mp member with rfl | ⟨member, hrun⟩ | ⟨id, -, rfl⟩
      · cases htouch
      · obtain ⟨value, rfl⟩ := set_of_touches member htouch
        exact h (timersChanged_iff.mp (hrun.elim (fun new => ⟨_, member, rfl, new⟩) And.left))
      · cases htouch
    rw [hlast, execAll_commands_setting cistOnly₁]
    rfl

/-- The MSTIs after the changed commands: those of the second configuration, and those that
were there before and are in neither. -/
theorem configureCommands_mstis {b : BridgeData} {id : UInt16} (hid : id ≠ 0) :
    (execAll (configureCommands (some (.of s₁ mac₁)) s₂ mac₂)
      (execAll (commands s₁ mac₁) b)).HasTree id ↔
        id ∈ s₂.mstis ∨ id ∉ s₁.mstis ∧ b.HasTree id := by
  have hcached : cachedTree (some (.of s₁ mac₁)) id ↔ id ∈ s₁.mstis := by
    simp [cachedTree, StpApplied.of]
  rw [configureCommands_hasTree, execAll_commands_hasTree, hcached]
  constructor
  · rintro ⟨hbefore, hkept⟩
    by_cases hsecond : id ∈ s₂.mstis
    · exact .inl hsecond
    · have hfirst : id ∉ s₁.mstis := fun h => hkept ⟨h, hsecond⟩
      rcases hbefore with hzero | (hin | hhas) | hnew
      exacts [absurd hzero hid, absurd hin hfirst, .inr ⟨hfirst, hhas⟩, absurd hnew.1 hsecond]
  · rintro (hsecond | ⟨hfirst, hhas⟩)
    · refine ⟨.inr ?_, fun h => h.2 hsecond⟩
      by_cases hfirst : id ∈ s₁.mstis
      · exact .inl (.inl hfirst)
      · exact .inr ⟨hsecond, hfirst⟩
    · exact ⟨.inr (.inl (.inr hhas)), fun h => hfirst h.1⟩

/-- On a tree the two ways agree, unless it was there before and is in neither
configuration. -/
theorem hasTree_agree_iff {b : BridgeData} {id : UInt16} (hid : id ≠ 0) :
    ((execAll (configureCommands (some (.of s₁ mac₁)) s₂ mac₂)
        (execAll (commands s₁ mac₁) b)).HasTree id ↔
      (deleteOthers s₂ (execAll (commands s₂ mac₂) (execAll (commands s₁ mac₁) b))).HasTree id) ↔
      ((execAll (commands s₁ mac₁) b).HasTree id → id ∈ s₁.mstis ∨ id ∈ s₂.mstis) := by
  rw [configureCommands_mstis hid, deleteOthers_hasTree hid, execAll_commands_hasTree,
    execAll_commands_hasTree]
  tauto

end Incremental

/-- After the first configuration has run, the changed commands of the second leave mstpd as
all of its commands do, with the MSTIs it does not have deleted, except for one change of the
timers and for trees that are in neither configuration. -/
theorem configure_incremental_iff (s₁ s₂ : Stp) (mac₁ mac₂ : String) (produced₁ : Produced s₁)
    (produced₂ : Produced s₂) (b : BridgeData) (m m' : Mstpd) (d d' : Daemon)
    (cached : m.applied = some (.of s₁ mac₁)) (ran : d.bridge = execAll (commands s₁ mac₁) b)
    (success : m.configure daemon (some s₂) mac₂ false d = (.ok (), m', d')) :
    AgreeOn s₂ d'.bridge (deleteOthers s₂ (execAll (commands s₂ mac₂) d.bridge)) ↔
      ¬ (s₂.forwardDelay = 30 ∧ s₁.forwardDelay ≠ 30 ∧ s₁.maxAge = s₂.maxAge) ∧
        ∀ id, d.bridge.HasTree id → id = 0 ∨ id ∈ s₁.mstis ∨ id ∈ s₂.mstis := by
  have hbridge := (Mstpd.configure_ok success).1
  rw [Mstpd.previous, if_neg Bool.false_ne_true, cached, ran] at hbridge
  rw [hbridge, ran]
  have hdelay := configureCommands_fdelay s₂ mac₁ mac₂ produced₁.cistOnly b
  have hfull : execAll (commands s₂ mac₂) (execAll (commands s₁ mac₁) b)
      (.setting (.bridge .fdelay)) = some [toString s₂.forwardDelay] := by
    rw [execAll_commands_setting produced₂.cistOnly]
    rfl
  constructor
  · intro agree
    refine ⟨?_, fun id hhas => ?_⟩
    · rintro ⟨hlong, hshort, hage⟩
      have concerns : Concerns s₂ (.bridge .fdelay) := trivial
      have h := agree.settings _ concerns
      rw [deleteOthers_setting concerns, hdelay, hfull, if_neg (by simp [hage, hlong])] at h
      simp only [Option.some.injEq, List.cons.injEq, and_true] at h
      exact hshort ((toString_uInt8_inj h).trans hlong)
    · by_cases hid : id = 0
      · exact .inl hid
      · exact .inr ((hasTree_agree_iff hid).mp (agree.mstis id hid) hhas)
  · rintro ⟨holds, trees⟩
    constructor
    · intro s concerns
      rw [deleteOthers_setting concerns]
      by_cases hs : s = .bridge .fdelay
      · subst hs
        rw [hdelay, hfull]
        split
        · rfl
        · next h => rw [show s₁.forwardDelay = s₂.forwardDelay by grind]
      · exact changedCommands_setting produced₁.cistOnly produced₂.cistOnly hs concerns b
    · intro id hid
      exact (hasTree_agree_iff hid).mpr fun hhas => (trees id hhas).resolve_left hid

/-- RSTP with the given forward delay and the default max age. -/
def rstpConfig (delay : UInt8) : StpConfig where
  global := some { config := { enabledProtocol := ["openconfig-spanning-tree-types:RSTP"] } }
  rstp := some { config := { forwardingDelay := some delay } }

def rstpWith (delay : UInt8) : Stp where
  protocol := .rstp
  helloTime := 2
  maxAge := 20
  forwardDelay := delay
  holdCount := 6
  maxHops := 20
  regionName := none
  regionRevision := 0
  cist := ⟨32768, ∅⟩
  mstis := ∅
  ports := ∅

theorem rstpWith_produced {delay : UInt8} (low : 4 ≤ delay) (high : delay ≤ 30)
    (h : desiredStp (some (rstpConfig delay)) ∅ = ⟨some (rstpWith delay), []⟩) :
    Produced (rstpWith delay) := by
  refine ⟨rstpConfig delay, ∅, ⟨?_, ?_, ?_⟩, h⟩
  · rintro rstp ⟨⟩
    constructor
    · rintro age ⟨⟩
    · rintro delay ⟨⟩
      exact ⟨low, high⟩
  · rintro mstp ⟨⟩
  · rintro inst ⟨⟩

/-- mstpd configured with the default forward delay of 15 seconds. -/
def configuredDefault : Mstpd := { pid := some 7, applied := some (.of (rstpWith 15) "") }

def runningDefault : Daemon where
  process := some 7
  bridge := execAll (commands (rstpWith 15) "") .empty

theorem configure_incremental_iff_twenty :
    AgreeOn (rstpWith 20)
      (configuredDefault.configure daemon (some (rstpWith 20)) "" false runningDefault).2.2.bridge
      (deleteOthers (rstpWith 20)
        (execAll (commands (rstpWith 20) "") runningDefault.bridge)) := by
  have success : (configuredDefault.configure daemon (some (rstpWith 20)) "" false
      runningDefault).1 = .ok () := by decide +kernel
  refine (configure_incremental_iff (rstpWith 15) (rstpWith 20) "" ""
    (rstpWith_produced (by decide) (by decide) (by decide +kernel))
    (rstpWith_produced (by decide) (by decide) (by decide +kernel)) .empty
    configuredDefault _ runningDefault _ rfl rfl (Prod.ext success rfl)).mpr ⟨by decide, ?_⟩
  intro id hhas
  rcases (execAll_commands_hasTree _ id).mp hhas with hin | hin
  · exact .inr (.inl hin)
  · exact absurd rfl hin

/-- From the default of 15 seconds to 30 seconds: the command for 30 seconds counts as
run, and the delay stays at 15. -/
theorem longest_delay_skipped :
    Produced (rstpWith 15) ∧ Produced (rstpWith 30) ∧
      (configuredDefault.configure daemon (some (rstpWith 30)) "" false runningDefault).1 =
        .ok () ∧
      (configuredDefault.configure daemon (some (rstpWith 30)) "" false
        runningDefault).2.2.bridge (.setting (.bridge .fdelay)) = some ["15"] ∧
      ¬ AgreeOn (rstpWith 30)
        (configuredDefault.configure daemon (some (rstpWith 30)) "" false
          runningDefault).2.2.bridge
        (deleteOthers (rstpWith 30)
          (execAll (commands (rstpWith 30) "") runningDefault.bridge)) := by
  refine ⟨rstpWith_produced (by decide) (by decide) (by decide +kernel),
    rstpWith_produced (by decide) (by decide) (by decide +kernel), by decide +kernel,
    by decide +kernel, fun agree => ?_⟩
  exact absurd (agree.settings (.bridge .fdelay) trivial) (by decide +kernel)

end ClixonSwitch.Guarantees
