import ClixonSwitch.Guarantees.KernelMatches
import ClixonSwitch.Guarantees.WellFormed

/-!
# The first half of a round

The operations up to the ports: platform links up, the bridge kept, reconfigured,
replaced or created, its settings, and stale VLAN links deleted. On a well-formed
kernel model all of them succeed, and `bridgeView` says what they leave of every
device.
-/
namespace ClixonSwitch.Guarantees
open Std Lib Source.SwitchModel Source.SwitchNet

def raised (d : Device) : Device := { d with link := d.link.map fun l => { l with up := true } }

def stpWanted (desired : DesiredState) : BridgeStp := if desired.stp.isSome then .user else .off

/-- The default PVID whose entries ConfigureBridge drops in this round; 0, which drops
nothing, if the round has no ConfigureBridge. -/
def droppedPvid (s : ActualState) : UInt16 :=
  match s.links[bridgeName]?.map Link.kind with
  | some (.bridge b) =>
    if b.configured then 0
    else if b.mstEnabled || !portVlansRemain s b.defaultPvid then b.defaultPvid
    else 0
  | _ => 0

/-- The four ways to get the bridge right. -/
inductive BridgePlan (s : ActualState) : Prop where
  | kept (b : BridgeSettings) (up : Bool) (master : Option String)
    (link : s.links[bridgeName]? = some ⟨.bridge b, up, master⟩) (ok : b.configured = true)
    (ops : planBridge s = ([], false)) (pvid : droppedPvid s = 0)
  | reconfigured (b : BridgeSettings) (up : Bool) (master : Option String)
    (link : s.links[bridgeName]? = some ⟨.bridge b, up, master⟩) (unconfigured : b.configured = false)
    (allowed : b.mstEnabled = true ∨ portVlansRemain s b.defaultPvid = false)
    (ops : planBridge s = ([.configureBridge bridgeName], false))
    (pvid : droppedPvid s = b.defaultPvid)
  | replaced (l : Link) (link : s.links[bridgeName]? = some l)
    (ops : planBridge s = ([.deleteLink bridgeName, .createBridge bridgeName], true))
    (pvid : droppedPvid s = 0)
  | created (link : s.links[bridgeName]? = none)
    (ops : planBridge s = ([.createBridge bridgeName], true)) (pvid : droppedPvid s = 0)

theorem bridgePlan (s : ActualState) : BridgePlan s := by
  cases hl : s.links[bridgeName]? with
  | none => exact .created hl (by simp [planBridge, hl]) (by simp [droppedPvid, hl])
  | some l =>
    obtain ⟨kind, up, master⟩ := l
    cases kind with
    | bridge b =>
      by_cases hc : b.configured = true
      · exact .kept b up master hl hc (by simp [planBridge, hl, hc]) (by simp [droppedPvid, hl, hc])
      · by_cases hr : (b.mstEnabled || !portVlansRemain s b.defaultPvid) = true
        · exact .reconfigured b up master hl (by simpa using hc) (by simpa using hr)
            (by simp only [planBridge, hl, Option.map_some, hc, hr, if_true, Bool.false_eq_true,
              if_false])
            (by simp only [droppedPvid, hl, Option.map_some, hc, hr, if_true, Bool.false_eq_true,
              if_false])
        · exact .replaced _ hl (by simp only [planBridge, hl, Option.map_some, hc, hr,
            Bool.false_eq_true, if_false])
            (by simp only [droppedPvid, hl, Option.map_some, hc, hr, Bool.false_eq_true, if_false])
    | _ => exact .replaced _ hl (by simp [planBridge, hl]) (by simp [droppedPvid, hl])

/-- Only a bridge that is reconfigured loses its default entries. -/
theorem reconfigured_of_dropped {s : ActualState} (h : droppedPvid s ≠ 0) :
    planBridge s = ([.configureBridge bridgeName], false) ∧ ∃ b up master,
      s.links[bridgeName]? = some ⟨.bridge b, up, master⟩ ∧ b.configured = false := by
  cases bridgePlan s with
  | reconfigured b up master link unconfigured allowed ops pvid =>
    exact ⟨ops, b, up, master, link, unconfigured⟩
  | kept b up master link ok ops pvid => exact absurd pvid h
  | replaced l link ops pvid => exact absurd pvid h
  | created link ops pvid => exact absurd pvid h

section Platform

theorem raised_of_not_down {s : ActualState} {dev : String} (h : s.isDown dev = false) :
    raised (device s dev) = device s dev := by
  unfold ActualState.isDown at h
  unfold raised
  cases hl : (device s dev).link with
  | none => rw [Option.map_none, ← hl]
  | some l =>
    rw [device_link] at hl
    have hup : l.up = true := by simpa [hl] using h
    obtain ⟨kind, up, master⟩ := l
    simp only at hup
    subst hup
    simp only [Option.map_some]
    rw [← hl, ← device_link]

/-- Platform links that exist and are down come up, nothing else changes. -/
theorem platformOps_run (s : ActualState) :
    ∃ s₀, runAll fakeApply s.platformOps s = (.ok (), s₀) ∧ ∀ dev,
      device s₀ dev = if dev ∈ s.platformNames then raised (device s dev) else device s dev := by
  have htarget : ∀ dev, targeting Op.target dev s.platformOps =
      if dev ∈ s.platformNames.toList.filter s.isDown then [.setUp dev true] else [] := fun dev =>
    targeting_map _ (fun name => Op.setUp name true) (fun _ => rfl)
      ((BTreeSet.nodup_toList _).filter _) dev
  have hlocal : ∀ dev, runLocal act (targeting Op.target dev s.platformOps) (device s dev) =
      some (if dev ∈ s.platformNames then raised (device s dev) else device s dev) := by
    intro dev
    rw [htarget]
    simp only [List.mem_filter, ExtTreeSet.mem_toList]
    by_cases hin : dev ∈ s.platformNames
    · by_cases hdown : s.isDown dev = true
      · have hlink : ∃ l, (device s dev).link = some l := by
          unfold ActualState.isDown at hdown
          rw [device_link]
          cases hl : s.links[dev]? with
          | none => simp [hl] at hdown
          | some l => exact ⟨l, rfl⟩
        obtain ⟨l, hl⟩ := hlink
        simp [hin, hdown, act, hl, raised]
      · rw [raised_of_not_down (by simpa using hdown)]
        simp [hdown]
    · simp [hin]
  have hplain : ∀ op ∈ s.platformOps, op.isPlain = true := by
    intro op hop
    obtain ⟨name, -, rfl⟩ := List.mem_map.mp hop
    rfl
  rcases fakeApply_plain.runAll s.platformOps s hplain trivial with
    ⟨s₀, hrun, -, hview⟩ | ⟨e, s₀, hrun, dev, hnone⟩
  · refine ⟨s₀, hrun, fun dev => ?_⟩
    have hd := hview dev
    rw [hlocal dev] at hd
    exact (Option.some.inj hd).symm
  · rw [hlocal dev] at hnone
    cases hnone

end Platform

section Settings

/-- The bridge is up and has the wanted STP state, whatever it had. -/
theorem runLocal_bridgeSettings (desired : DesiredState) (s : ActualState) (fresh : Bool)
    (d : Device) (b : BridgeSettings) (up : Bool) (master : Option String)
    (hl : d.link = some ⟨.bridge b, up, master⟩)
    (hup : fresh = false → s.isDown bridgeName = false → up = true)
    (hstp : b.stp = bridgeStp s fresh) :
    runLocal act (planBridgeUp s fresh ++ planStp desired s fresh) d =
      some { d with link := some ⟨.bridge { b with stp := stpWanted desired }, true, master⟩ } := by
  have hfirst : runLocal act (planBridgeUp s fresh) d =
      some { d with link := some ⟨.bridge b, true, master⟩ } := by
    unfold planBridgeUp
    split
    · simp [act, hl]
    · next hno =>
      rw [Bool.or_eq_true, not_or, Bool.not_eq_true, Bool.not_eq_true] at hno
      obtain rfl : up = true := hup hno.1 hno.2
      simp [← hl]
  rw [runLocal_append, hfirst, Option.bind_some]
  obtain ⟨vlanFiltering, defaultPvid, mstEnabled, stp⟩ := b
  simp only at hstp
  subst hstp
  unfold planStp stpWanted
  cases bridgeStp s fresh <;> cases desired.stp.isSome <;> simp [act, setStp]

end Settings

/-- VLAN links on the bridge that the desired state does not have like that. -/
def staleNames (desired : DesiredState) (s : ActualState) : List String :=
  ((bridgeVlanLinks s false).filter fun e => !sviMatches desired e).map Prod.fst

/-- The links that the round deletes by name. -/
def bridgeRoots (desired : DesiredState) (s : ActualState) : List String :=
  if (planBridge s).2 then (if s.links.contains bridgeName then [bridgeName] else [])
  else staleNames desired s

/-- A device after the platform operations. -/
def platformView (s : ActualState) (dev : String) : Device :=
  if dev ∈ s.platformNames then raised (device s dev) else device s dev

/-- What a bridge that stays keeps, and a fresh one starts with. -/
def bridgeBase (s : ActualState) : Device :=
  if (planBridge s).2 then {} else (device s bridgeName).dropDefault bridgeName (droppedPvid s)

def bridgeMaster (s : ActualState) : Option String :=
  if (planBridge s).2 then none else (device s bridgeName).master

/-- The bridge after the first half of the round. -/
def bridgeDevice (desired : DesiredState) (s : ActualState) : Device :=
  { bridgeBase s with
    link := some ⟨.bridge ⟨true, 0, true, stpWanted desired⟩, true, bridgeMaster s⟩ }

/-- A device after the first half of the round, in which `removed` went. -/
def bridgeView (desired : DesiredState) (s : ActualState) (removed : List String) (dev : String) :
    Device :=
  if dev = bridgeName then bridgeDevice desired s
  else ((platformView s dev).dropDefault bridgeName (droppedPvid s)).without removed dev

section Views

theorem dropDefault_zero (vlans : VlanMap) : dropDefault 0 vlans = vlans := by
  simp [dropDefault]

theorem device_dropDefault_zero (d : Device) (bridge : String) : d.dropDefault bridge 0 = d := by
  unfold Device.dropDefault
  split
  · rw [dropDefault_zero]
  · rfl

theorem dropDefault_parent (d : Device) (bridge : String) (old : UInt16) :
    (d.dropDefault bridge old).parent = d.parent := by
  unfold Device.dropDefault
  split <;> rfl

theorem dropDefault_link (d : Device) (bridge : String) (old : UInt16) :
    (d.dropDefault bridge old).link = d.link := by
  unfold Device.dropDefault
  split <;> rfl

theorem raised_parent (d : Device) : (raised d).parent = d.parent := by
  unfold raised Device.parent
  rcases d.link with - | ⟨kind, up, master⟩
  · rfl
  · cases kind <;> rfl

theorem raised_enslavedTo (d : Device) (name : String) :
    (raised d).enslavedTo name = d.enslavedTo name := by
  unfold raised Device.enslavedTo Link.enslavedTo
  cases d.link <;> simp

theorem platformView_parent (s : ActualState) (dev : String) :
    (platformView s dev).parent = (device s dev).parent := by
  unfold platformView
  split
  · exact raised_parent _
  · rfl

theorem platformView_isSome (s : ActualState) (dev : String) :
    (platformView s dev).link.isSome = (device s dev).link.isSome := by
  unfold platformView raised
  split <;> simp

theorem platformView_vlans (s : ActualState) (dev : String) :
    (platformView s dev).vlans = (device s dev).vlans := by
  unfold platformView raised
  split <;> rfl

theorem platformView_enslavedTo (s : ActualState) (dev name : String) :
    (platformView s dev).enslavedTo name = (device s dev).enslavedTo name := by
  unfold platformView
  split
  · exact raised_enslavedTo _ _
  · rfl

/-- Of the bridge's link, the platform operations can only change that it is up. -/
theorem platformView_bridge {s : ActualState} {kind : LinkKind} {up : Bool}
    {master : Option String} {dev : String} (hl : s.links[dev]? = some ⟨kind, up, master⟩) :
    ∃ up', platformView s dev = { device s dev with link := some ⟨kind, up', master⟩ } ∧
      (up = true → up' = true) := by
  have hd : (device s dev).link = some ⟨kind, up, master⟩ := hl
  unfold platformView
  split
  · exact ⟨true, by simp [raised, hd], fun _ => rfl⟩
  · exact ⟨up, by rw [← hd], id⟩

theorem parent_of_isBridge {d : Device} (h : d.isBridge = true) : d.parent = none := by
  unfold Device.isBridge at h
  unfold Device.parent
  rcases hl : d.link with - | ⟨kind, up, master⟩
  · rfl
  · cases kind <;> simp_all [LinkKind.isBridge]

/-- What is not a VLAN link goes only if it is deleted by name. -/
theorem cascade_not_mem {s : ActualState} {names removed : List String} {dev : String}
    (h : Cascade s names removed) (hroot : (device s dev).parent = none) (hno : dev ∉ names) :
    dev ∉ removed := by
  intro hin
  rcases h.reason dev hin with hn | ⟨p, -, hp⟩
  · exact hno hn
  · rw [hroot] at hp
    cases hp

end Views

section Stages
variable {desired : DesiredState} {s : ActualState}

/-- What holds once the bridge exists and is configured, before its settings. -/
structure BridgePrepared (s s₁ : ActualState) (removed : List String) : Prop where
  cascade : Cascade s
    (if (planBridge s).2 then (if s.links.contains bridgeName then [bridgeName] else []) else [])
    removed
  nothing : (planBridge s).2 = false → removed = []
  others : ∀ dev, dev ≠ bridgeName → device s₁ dev =
    ((platformView s dev).dropDefault bridgeName (droppedPvid s)).without removed dev
  bridge : ∃ up, device s₁ bridgeName =
      { bridgeBase s with link := some ⟨.bridge ⟨true, 0, true, bridgeStp s (planBridge s).2⟩, up,
        bridgeMaster s⟩ } ∧
    ((planBridge s).2 = false → s.isDown bridgeName = false → up = true)

/-- VLAN id 0 is on no device while the bridge is still to be configured. -/
def MstSafe (s : ActualState) : Prop :=
  ∀ b up master, s.links[bridgeName]? = some ⟨.bridge b, up, master⟩ → b.configured = false →
    ∀ dev vid, vid ∈ (device s dev).vlans → vid ≠ 0

theorem dropDefault_getElem? (old : UInt16) (vlans : VlanMap) (vid : UInt16) :
    (dropDefault old vlans)[vid]? =
      if old ≠ 0 ∧ vlans[old]? = some access ∧ vid = old then none else vlans[vid]? := by
  have hguard : (old != 0 && vlans[old]?.any (fun f => f.pvid && f.untagged)) = true ↔
      old ≠ 0 ∧ vlans[old]? = some access := by
    cases vlans[old]? with
    | none => simp
    | some f =>
      obtain ⟨pvid, untagged⟩ := f
      simp [access]
  unfold dropDefault
  by_cases h : old ≠ 0 ∧ vlans[old]? = some access
  · rw [if_pos (hguard.mpr h), ExtTreeMap.getElem?_erase]
    by_cases hv : old = vid
    · subst hv
      simp [h.1, h.2]
    · simp [hv, Ne.symm hv]
  · rw [if_neg (mt hguard.mp h), if_neg fun h' => h ⟨h'.1, h'.2.1⟩]

/-- The planner's prediction, device by device. -/
theorem portVlansRemain_iff {old : UInt16} : portVlansRemain s old = true ↔
    ∃ dev, (device s dev).enslavedTo bridgeName = true ∧
      ∃ vid flags, (device s dev).vlans[vid]? = some flags ∧ (vid ≠ old ∨ flags ≠ access) := by
  have hentry : ∀ (dev : String) (vid : UInt16) (flags : VlanFlags),
      (device s dev).vlans[vid]? = some flags ↔
        ∃ vlans, s.bridgeVlans[dev]? = some vlans ∧ vlans[vid]? = some flags := by
    intro dev vid flags
    cases hv : s.bridgeVlans[dev]? <;> simp [device, BTreeMap.getD_eq, hv]
  have hmaster : ∀ dev, (device s dev).enslavedTo bridgeName = true ↔
      ∃ l, s.links[dev]? = some l ∧ l.master = some bridgeName := by
    intro dev
    simp [Device.enslavedTo, device_link, Option.any_eq_true, Link.enslavedTo]
  simp only [portVlansRemain, List.any_eq_true, List.mem_filterMap, List.mem_filter, Prod.exists,
    ExtTreeMap.mem_toList_iff_getElem?_eq_some, Bool.or_eq_true, bne_iff_ne, beq_iff_eq,
    hentry, hmaster]
  constructor
  · rintro ⟨vlans, ⟨dev, l, ⟨hl, hm⟩, hv⟩, vid, flags, hf, hne⟩
    exact ⟨dev, ⟨l, hl, hm⟩, vid, flags, ⟨vlans, hv, hf⟩, hne⟩
  · rintro ⟨dev, ⟨l, hl, hm⟩, vid, flags, ⟨vlans, hv, hf⟩, hne⟩
    exact ⟨vlans, ⟨dev, l, ⟨hl, hm⟩, hv⟩, vid, flags, hf, hne⟩

/-- What dropping the default leaves is every entry but an unchanged default entry. -/
theorem dropDefault_isEmpty_eq_false {old : UInt16} {vlans : VlanMap}
    (ids : ∀ vid, vid ∈ vlans → vid ≠ 0) : (dropDefault old vlans).isEmpty = false ↔
      ∃ vid flags, vlans[vid]? = some flags ∧ (vid ≠ old ∨ flags ≠ access) := by
  have hkept : ∀ (vid : UInt16) (flags : VlanFlags),
      (dropDefault old vlans)[vid]? = some flags ↔
        vlans[vid]? = some flags ∧ (vid ≠ old ∨ flags ≠ access) := by
    intro vid flags
    rw [dropDefault_getElem?]
    by_cases hvid : vid = old
    · subst hvid
      by_cases hdefault : vlans[vid]? = some access
      · have hnz : vid ≠ 0 := ids vid ((BTreeMap.mem_iff _ _).mpr ⟨_, hdefault⟩)
        simp [hdefault, hnz, eq_comm]
      · rw [if_neg fun h => hdefault h.2.1]
        refine ⟨fun h => ⟨h, Or.inr ?_⟩, And.left⟩
        rintro rfl
        exact hdefault h
    · simp [hvid]
  rw [← Bool.not_eq_true, ExtTreeMap.isEmpty_iff, ExtTreeMap.eq_empty_iff_forall_not_mem]
  simp only [BTreeMap.mem_iff, hkept, not_forall, not_not]

/-- The prediction is right: VLAN ids start at 1, so the default entry of a default PVID
of 0, which the kernel would keep, does not exist. -/
theorem entriesRemain_iff {old : UInt16} (ids : ∀ dev vid, vid ∈ (device s dev).vlans → vid ≠ 0) :
    entriesRemain s bridgeName old ↔ portVlansRemain s old = true := by
  rw [portVlansRemain_iff]
  refine exists_congr fun dev => and_congr_right fun _ => ?_
  exact dropDefault_isEmpty_eq_false (ids dev)

/-- MST can be turned on if all that the ports have is the default entry. -/
theorem not_entriesRemain {s₀ : ActualState} {old : UInt16}
    (ids : ∀ dev vid, vid ∈ (device s dev).vlans → vid ≠ 0)
    (hview : ∀ dev, device s₀ dev = platformView s dev)
    (h : portVlansRemain s old = false) : ¬ entriesRemain s₀ bridgeName old := by
  rintro ⟨dev, henslaved, hne⟩
  rw [hview, platformView_enslavedTo] at henslaved
  rw [hview, platformView_vlans] at hne
  have hremain := (entriesRemain_iff ids).mp ⟨dev, henslaved, hne⟩
  rw [h] at hremain
  cases hremain

/-- A device without a link has nothing. -/
theorem Fit.eq_empty {d : Device} (fit : Fit d) (h : d.link = none) : d = {} := by
  obtain ⟨link, vlans, addresses, leases⟩ := d
  simp only at h
  subst h
  have hv : vlans = ∅ := ExtTreeMap.eq_empty_iff_forall_not_mem.mpr fun vid hin => by
    simpa using fit.entries vid hin
  have ha : addresses = ∅ := ExtTreeSet.eq_empty_iff_forall_not_mem.mpr fun p hin => by
    simpa using fit.addressed p (Or.inl hin)
  have hl : leases = ∅ := ExtTreeMap.eq_empty_iff_forall_not_mem.mpr fun p hin => by
    simpa using fit.addressed p (Or.inr hin)
  rw [hv, ha, hl]

/-- Creating the bridge where there is none. -/
theorem createBridge_run {t : ActualState} (h : device t bridgeName = {}) :
    ∃ t', runAll fakeApply [.createBridge bridgeName] t = (.ok (), t') ∧ ∀ dev, device t' dev =
      if dev = bridgeName then { link := some (newLink freshBridgeKind) } else device t dev := by
  have effect := createBridge_local t bridgeName
  unfold LocalEffect at effect
  simp only [Op.target, h, act, Option.isSome_none, Bool.false_eq_true, if_false] at effect
  obtain ⟨t', happly, hview⟩ := effect
  exact ⟨t', by simp [runAll, happly], hview⟩

theorem planBridge_run {s₀ : ActualState} (coherent : Coherent s) (safe : MstSafe s)
    (hview : ∀ dev, device s₀ dev = platformView s dev) :
    ∃ removed s₁, runAll fakeApply (planBridge s).1 s₀ = (.ok (), s₁) ∧
      BridgePrepared s s₁ removed := by
  have hnil : Cascade s [] [] := ⟨by simp, by simp, by simp, by simp⟩
  cases bridgePlan s with
  | kept b up master link ok ops pvid =>
    obtain ⟨up', hplat, hup⟩ := platformView_bridge link
    refine ⟨[], s₀, by rw [ops]; rfl, by simpa [ops] using hnil, fun _ => rfl, fun dev hdev => ?_,
      up', ?_, ?_⟩
    · rw [pvid, device_dropDefault_zero, Device.without_nil, hview]
    · obtain ⟨vlanFiltering, defaultPvid, mstEnabled, stp⟩ := b
      simp only [BridgeSettings.configured, Bool.and_eq_true, beq_iff_eq] at ok
      obtain ⟨⟨rfl, rfl⟩, rfl⟩ := ok
      rw [hview, hplat]
      simp [bridgeBase, bridgeMaster, ops, pvid, device_dropDefault_zero, bridgeStp, link,
        Device.master, device_link]
    · intro _ hdown
      exact hup (by simpa [ActualState.isDown, link] using hdown)
  | reconfigured b up master link unconfigured allowed ops pvid =>
    obtain ⟨up', hplat, hup⟩ := platformView_bridge link
    have hlink₀ : s₀.links[bridgeName]? = some ⟨.bridge b, up', master⟩ := by
      rw [← device_link, hview, hplat]
    obtain ⟨heffect, hok⟩ := configureBridge_effect bridgeName s₀ b up' master hlink₀
    have hsuccess := hok.mpr (allowed.imp id fun h =>
      not_entriesRemain (safe b up master link unconfigured) hview h)
    refine ⟨[], (fakeApply (.configureBridge bridgeName) s₀).2, ?_, by simpa [ops] using hnil,
      fun _ => rfl, fun dev hdev => ?_, up', ?_, ?_⟩
    · rw [ops]
      simp only [runAll]
      split
      · next heq => rw [heq]
      · next heq => simp [heq] at hsuccess
    · rw [heffect dev, if_neg hdev, hview, Device.without_nil, pvid]
    · rw [heffect bridgeName, if_pos rfl, hview, hplat]
      have hd : (device s bridgeName).link = some ⟨.bridge b, up, master⟩ := link
      simp only [bridgeBase, ops, Bool.false_eq_true, if_false, bridgeMaster, pvid,
        Device.dropDefault, Device.enslavedTo, hd, Option.any_some, Device.master,
        Option.bind_some, bridgeStp, link, Option.map_some, Link.enslavedTo, BridgeSettings.configure]
      by_cases hself : (master == some bridgeName) = true
      · simp only [hself, if_true]
      · simp only [hself, if_false, Bool.false_eq_true]
    · intro _ hdown
      exact hup (by simpa [ActualState.isDown, link] using hdown)
  | replaced l link ops pvid =>
    have hexists : (device s₀ bridgeName).link.isSome = true := by
      rw [hview, platformView_isSome, device_link, link]
      rfl
    obtain ⟨removed, t, hdelete, hr, cascade⟩ := deleteLink_cascade bridgeName s₀ hexists
    have hin : bridgeName ∈ removed := cascade.self bridgeName (by simp)
    have hgone : device t bridgeName = {} := by
      rw [hr bridgeName, Device.without, if_pos hin]
    obtain ⟨s₁, hcreate, hview₁⟩ := createBridge_run hgone
    refine ⟨removed, s₁, ?_, ?_, by simp [ops], fun dev hdev => ?_, false, ?_, ?_⟩
    · rw [ops, runAll_cons_ok hdelete, hcreate]
    · have hc : s.links.contains bridgeName = true := by simp [BTreeMap.contains_eq, link]
      simp only [ops, if_true, hc]
      exact cascade.congr (fun name => by rw [hview, platformView_parent])
        (fun name => by rw [hview, platformView_isSome])
    · rw [hview₁ dev, if_neg hdev, hr dev, hview, pvid, device_dropDefault_zero]
    · rw [hview₁ bridgeName, if_pos rfl]
      simp [bridgeBase, bridgeMaster, ops, bridgeStp, newLink, freshBridgeKind]
    · simp [ops]
  | created link ops pvid =>
    have hgone : device s₀ bridgeName = {} := by
      have hempty := (coherent.fit bridgeName).eq_empty link
      rw [hview, platformView, hempty]
      split <;> rfl
    obtain ⟨s₁, hcreate, hview₁⟩ := createBridge_run hgone
    refine ⟨[], s₁, by rw [ops, hcreate], ?_, fun _ => rfl, fun dev hdev => ?_, false, ?_, ?_⟩
    · have hc : s.links.contains bridgeName = false := by simp [BTreeMap.contains_eq, link]
      simpa [ops, hc] using hnil
    · rw [hview₁ dev, if_neg hdev, hview, pvid, device_dropDefault_zero, Device.without_nil]
    · rw [hview₁ bridgeName, if_pos rfl]
      simp [bridgeBase, bridgeMaster, ops, bridgeStp, newLink, freshBridgeKind]
    · simp [ops]

/-- The operations of the first half of a plan. -/
inductive BridgeOp (desired : DesiredState) (s : ActualState) : Op → Prop where
  | replace (planned : .deleteLink bridgeName ∈ (planBridge s).1) :
      BridgeOp desired s (.deleteLink bridgeName)
  | create (planned : .createBridge bridgeName ∈ (planBridge s).1) :
      BridgeOp desired s (.createBridge bridgeName)
  | configure (planned : .configureBridge bridgeName ∈ (planBridge s).1) :
      BridgeOp desired s (.configureBridge bridgeName)
  | setUp : BridgeOp desired s (.setUp bridgeName true)
  | setStp (on : Bool) : BridgeOp desired s (.setBridgeStp bridgeName on)
  | stale (name : String) (id : UInt16) (up : Bool) (master : Option String)
      (stays : (planBridge s).2 = false)
      (link : s.links[name]? = some ⟨.vlan bridgeName id, up, master⟩)
      (unwanted : sviMatches desired (name, id) = false) : BridgeOp desired s (.deleteLink name)

theorem bridgeOp_of_mem {op : Op} (h : op ∈ planBridgeSection desired s) :
    BridgeOp desired s op := by
  simp only [planBridgeSection, planBridgeUp, planStp, planStaleSvis, List.mem_append] at h
  rcases h with ((h | h) | h | h) | h
  · cases bridgePlan s with
    | kept b up master link ok ops pvid => simp [ops] at h
    | reconfigured b up master link unconfigured allowed ops pvid =>
      have hop := h
      rw [ops] at hop
      obtain rfl := List.mem_singleton.mp hop
      exact .configure h
    | replaced l link ops pvid =>
      have hop := h
      rw [ops] at hop
      rcases List.mem_pair.mp hop with rfl | rfl
      · exact .replace h
      · exact .create h
    | created link ops pvid =>
      have hop := h
      rw [ops] at hop
      obtain rfl := List.mem_singleton.mp hop
      exact .create h
  · rw [List.mem_ite_nil_right] at h
    obtain rfl := List.mem_singleton.mp h.2
    exact .setUp
  · rw [List.mem_ite_nil_right] at h
    obtain rfl := List.mem_singleton.mp h.2
    exact .setStp false
  · rw [List.mem_ite_nil_right] at h
    obtain rfl := List.mem_singleton.mp h.2
    exact .setStp _
  · obtain ⟨⟨name, id⟩, he, rfl⟩ := List.mem_map.mp h
    obtain ⟨hlink, hunwanted⟩ := List.mem_filter.mp he
    have hstays : (planBridge s).2 = false := by
      by_contra hfresh
      simp [bridgeVlanLinks, Bool.not_eq_false _ ▸ hfresh] at hlink
    rw [hstays, mem_bridgeVlanLinks] at hlink
    obtain ⟨up, master, hl⟩ := hlink
    exact .stale name id up master hstays hl (by simpa using hunwanted)

theorem mem_staleNames (desired : DesiredState) (s : ActualState) (name : String) :
    name ∈ staleNames desired s ↔
      (∃ id up master, s.links[name]? = some ⟨.vlan bridgeName id, up, master⟩ ∧
        ¬ ∃ svi, desired.svis[name]? = some svi ∧ svi.vlan = id) := by
  simp only [staleNames, List.mem_map, List.mem_filter, Prod.exists, exists_and_right,
    exists_eq_right, mem_bridgeVlanLinks, Bool.not_eq_true', ← Bool.not_eq_true, sviMatches_iff]

theorem staleNames_parent {name : String} (h : name ∈ staleNames desired s) :
    (device s name).parent = some bridgeName := by
  obtain ⟨id, up, master, hl, -⟩ := (mem_staleNames desired s name).mp h
  simp [Device.parent, device_link, hl]

theorem staleNames_not_bridge {name : String} (h : name ∈ staleNames desired s) :
    (device s name).isBridge = false := by
  by_contra hbridge
  have hparent := staleNames_parent h
  rw [parent_of_isBridge (by simpa using hbridge)] at hparent
  cases hparent

theorem staleNames_nodup (desired : DesiredState) (s : ActualState) :
    (staleNames desired s).Nodup := by
  have hkeys := s.links.nodup_fst
  have hsub : ((bridgeVlanLinks s false).map Prod.fst).Sublist (s.links.toList.map Prod.fst) := by
    simp only [bridgeVlanLinks, Bool.false_eq_true, if_false]
    generalize s.links.toList = entries
    induction entries with
    | nil => exact List.Sublist.slnil
    | cons e rest ih =>
      obtain ⟨name, ⟨kind, up, master⟩⟩ := e
      cases kind with
      | vlan parent id =>
        by_cases hp : parent = bridgeName
        · simpa [List.filterMap_cons, hp] using ih
        · simpa [List.filterMap_cons, hp] using ih.cons name
      | _ => simpa [List.filterMap_cons] using ih.cons name
  exact hkeys.sublist ((List.filter_sublist.map _).trans hsub)

/-- The bridge that stays is no stale link, and no stale link is anyone's master. -/
theorem bridge_of_not_fresh (h : (planBridge s).2 = false) :
    (device s bridgeName).isBridge = true := by
  cases bridgePlan s with
  | kept b up master link ok ops pvid =>
    simp [Device.isBridge, device_link, link, LinkKind.isBridge]
  | reconfigured b up master link unconfigured allowed ops pvid =>
    simp [Device.isBridge, device_link, link, LinkKind.isBridge]
  | replaced l link ops pvid => simp [ops] at h
  | created link ops pvid => simp [ops] at h

theorem masterIn_false (coherent : Coherent s) {names removed : List String}
    (cascade : Cascade s names removed) (hvlan : ∀ name ∈ names, (device s name).isBridge = false)
    {d : Device} {dev : String} (hmaster : d.master = (device s dev).master) :
    d.masterIn removed = false := by
  by_contra hin
  obtain ⟨l, hl, m, hm, hmem⟩ : ∃ l, d.link = some l ∧ ∃ m, l.master = some m ∧ m ∈ removed := by
    simpa [Device.masterIn, Option.any_eq_true] using hin
  have hdm : (device s dev).master = some m := by
    rw [← hmaster, Device.master, hl]
    exact hm
  have hb := coherent.masters dev m hdm
  refine cascade_not_mem cascade (parent_of_isBridge hb) (fun hn => ?_) hmem
  rw [hvlan m hn] at hb
  cases hb

/-- The whole first half of a round succeeds, and leaves this of every device. -/
theorem bridgeSection_run (desired : DesiredState) (coherent : Coherent s) (safe : MstSafe s) :
    ∃ removed t, runAll fakeApply (s.platformOps ++ planBridgeSection desired s) s = (.ok (), t) ∧
      Cascade s (bridgeRoots desired s) removed ∧
      ∀ dev, device t dev = bridgeView desired s removed dev := by
  obtain ⟨s₀, hplatform, hview₀⟩ := platformOps_run s
  obtain ⟨removed₁, s₁, hbridge, prepared⟩ := planBridge_run coherent safe hview₀
  obtain ⟨up, hd, hup⟩ := prepared.bridge
  -- Settings: both operations act on the bridge alone.
  have htarget : ∀ op ∈ planBridgeUp s (planBridge s).2 ++ planStp desired s (planBridge s).2,
      op.target = bridgeName ∧ op.isPlain = true := by
    intro op hop
    simp only [planBridgeUp, planStp, List.mem_append] at hop
    rcases hop with hop | hop | hop <;> split at hop <;>
      first
        | (rw [List.mem_singleton.mp hop]; exact ⟨rfl, rfl⟩)
        | simp at hop
  have hlocal := runLocal_bridgeSettings desired s (planBridge s).2 (device s₁ bridgeName)
    ⟨true, 0, true, bridgeStp s (planBridge s).2⟩ up (bridgeMaster s) (by rw [hd]) hup rfl
  obtain ⟨s₂, hsettings, hview₂⟩ : ∃ s₂, runAll fakeApply
      (planBridgeUp s (planBridge s).2 ++ planStp desired s (planBridge s).2) s₁ = (.ok (), s₂) ∧
      ∀ dev, device s₂ dev =
        if dev = bridgeName then bridgeDevice desired s else device s₁ dev := by
    have hothers : ∀ dev, dev ≠ bridgeName → targeting Op.target dev
        (planBridgeUp s (planBridge s).2 ++ planStp desired s (planBridge s).2) = [] :=
      fun dev hdev => targeting_eq_nil fun op hop => by rw [(htarget op hop).1]; exact hdev.symm
    have hself : targeting Op.target bridgeName
        (planBridgeUp s (planBridge s).2 ++ planStp desired s (planBridge s).2) =
        planBridgeUp s (planBridge s).2 ++ planStp desired s (planBridge s).2 :=
      targeting_eq_self fun op hop => (htarget op hop).1
    rcases fakeApply_plain.runAll _ s₁ (fun op hop => (htarget op hop).2) trivial with
      ⟨s₂, hrun, -, hview⟩ | ⟨e, s₂, hrun, dev, hnone⟩
    · refine ⟨s₂, hrun, fun dev => ?_⟩
      have hdev := hview dev
      by_cases h : dev = bridgeName
      · subst h
        rw [hself, hlocal] at hdev
        rw [if_pos rfl, ← Option.some.inj hdev, hd]
        rfl
      · rw [hothers dev h] at hdev
        rw [if_neg h]
        exact (Option.some.inj hdev).symm
    · by_cases h : dev = bridgeName
      · subst h
        rw [hself, hlocal] at hnone
        cases hnone
      · rw [hothers dev h] at hnone
        cases hnone
  have hbefore : runAll fakeApply (s.platformOps ++ ((planBridge s).1 ++
      (planBridgeUp s (planBridge s).2 ++ planStp desired s (planBridge s).2))) s = (.ok (), s₂) := by
    rw [runAll_append_ok hplatform, runAll_append_ok hbridge, hsettings]
  have hops : s.platformOps ++ planBridgeSection desired s = (s.platformOps ++ ((planBridge s).1 ++
      (planBridgeUp s (planBridge s).2 ++ planStp desired s (planBridge s).2))) ++
      planStaleSvis desired s (planBridge s).2 := by
    simp [planBridgeSection]
  rw [hops, runAll_append_ok hbefore]
  cases hfresh : (planBridge s).2 with
  | true =>
    refine ⟨removed₁, s₂, ?_, ?_, fun dev => ?_⟩
    · simp [planStaleSvis, bridgeVlanLinks, runAll]
    · have hc := prepared.cascade
      simp only [hfresh, if_true] at hc
      simpa only [bridgeRoots, hfresh, if_true] using hc
    · rw [hview₂ dev, bridgeView]
      split
      · rfl
      · next hdev => exact prepared.others dev hdev
  | false =>
    have hbr := bridge_of_not_fresh hfresh
    have hview₂' : ∀ dev, dev ≠ bridgeName →
        device s₂ dev = (platformView s dev).dropDefault bridgeName (droppedPvid s) := by
      intro dev hdev
      rw [hview₂ dev, if_neg hdev, prepared.others dev hdev, prepared.nothing hfresh,
        Device.without_nil]
    have hparent : ∀ dev, (device s₂ dev).parent = (device s dev).parent := by
      intro dev
      by_cases hdev : dev = bridgeName
      · rw [hview₂ dev, if_pos hdev, hdev, parent_of_isBridge hbr]
        rfl
      · rw [hview₂' dev hdev, dropDefault_parent, platformView_parent]
    have hsome : ∀ dev, (device s₂ dev).link.isSome = (device s dev).link.isSome := by
      intro dev
      by_cases hdev : dev = bridgeName
      · obtain ⟨l, hl, -⟩ := (Option.any_eq_true _ _).mp hbr
        rw [hview₂ dev, if_pos hdev, hdev, hl]
        rfl
      · rw [hview₂' dev hdev, dropDefault_link, platformView_isSome]
    have hnotStale : bridgeName ∉ staleNames desired s := fun hin =>
      Bool.false_ne_true ((staleNames_not_bridge hin).symm.trans hbr)
    obtain ⟨removed, t, hrun, hr, cascade₂⟩ := deleteLinks_cascade (staleNames desired s) s₂
      (staleNames_nodup desired s) fun name hn => ⟨bridgeName, by rw [hparent, staleNames_parent hn],
        by rw [hparent, parent_of_isBridge hbr], hnotStale⟩
    have cascade : Cascade s (staleNames desired s) removed :=
      cascade₂.congr (fun dev => (hparent dev).symm) fun dev => (hsome dev).symm
    refine ⟨removed, t, ?_, ?_, fun dev => ?_⟩
    · have hstale : planStaleSvis desired s false = (staleNames desired s).map Op.deleteLink := by
        simp [planStaleSvis, staleNames, Function.comp_def]
      rw [hstale, hrun]
    · simpa only [bridgeRoots, hfresh, Bool.false_eq_true, if_false] using cascade
    · rw [hr dev, bridgeView]
      split
      · next hdev =>
        subst hdev
        have hno := cascade_not_mem cascade (parent_of_isBridge hbr) hnotStale
        have hmaster : (device s₂ bridgeName).master = (device s bridgeName).master := by
          rw [hview₂ bridgeName, if_pos rfl]
          simp [bridgeDevice, Device.master, bridgeMaster, hfresh]
        rw [Device.without, if_neg hno, masterIn_false coherent cascade
          (fun _ => staleNames_not_bridge) hmaster, if_neg (by simp), hview₂ bridgeName, if_pos rfl]
      · next hdev => rw [hview₂' dev hdev]

end Stages

end ClixonSwitch.Guarantees
