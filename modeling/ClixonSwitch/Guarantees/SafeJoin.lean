import ClixonSwitch.Guarantees.Rounds

/-!
# Ports join a safe bridge

What `br-lan` is like whenever a port joins it, from any state of the kernel model.
The first half of the plan leaves a bridge with VLAN filtering, without a default PVID,
with MST and the wanted STP state; nothing that comes after it changes these settings.
-/
namespace ClixonSwitch.Guarantees
open Lib Source.SwitchModel Source.SwitchNet

/-- What kind of link `br-lan` is. -/
def bridgeKind (s : ActualState) : Option LinkKind := s.links[bridgeName]?.map Link.kind

/-- `br-lan` filters VLANs, has no default PVID, has MST enabled, and runs a spanning tree
exactly if one is configured. -/
def SafeBridge (desired : DesiredState) (s : ActualState) : Prop :=
  ∃ b, bridgeKind s = some (.bridge b) ∧ b.vlanFiltering = true ∧ b.defaultPvid = 0 ∧
    b.mstEnabled = true ∧ b.stp = if desired.stp.isSome then .user else .off

theorem safeBridge_iff (desired : DesiredState) (s : ActualState) :
    SafeBridge desired s ↔ bridgeKind s = some (.bridge ⟨true, 0, true, stpWanted desired⟩) := by
  constructor
  · rintro ⟨⟨vlanFiltering, defaultPvid, mstEnabled, stp⟩, hk, rfl, rfl, rfl, rfl⟩
    exact hk
  · exact fun hk => ⟨_, hk, rfl, rfl, rfl, rfl⟩

section Steps
variable {desired : DesiredState} {s t t' : ActualState}

theorem bridgeKind_eq_some (b : BridgeSettings) :
    bridgeKind s = some (.bridge b) ↔
      ∃ up master, s.links[bridgeName]? = some ⟨.bridge b, up, master⟩ := by
  constructor
  · intro h
    obtain ⟨⟨kind, up, master⟩, hl, rfl⟩ := Option.map_eq_some_iff.mp h
    exact ⟨up, master, hl⟩
  · rintro ⟨up, master, hl⟩
    simp [bridgeKind, hl]

/-- Once the bridge is right, a link that exists keeps its kind. -/
theorem act_kind {op : Op} {d d' : Device} {l : Link} (hop : op.onDevice = true)
    (hact : act op d = some d') (hl : d.link = some l) :
    ∃ l', d'.link = some l' ∧ l'.kind = l.kind := by
  cases op <;> simp [Op.onDevice, Op.isLocal] at hop <;> simp [act, hl] at hact
  case setMaster name m =>
    subst hact
    exact ⟨_, rfl, rfl⟩
  case setUp name u =>
    subst hact
    exact ⟨_, rfl, rfl⟩
  all_goals
    obtain ⟨-, rfl⟩ := hact
    exact ⟨l, rfl, rfl⟩

theorem bridgeKind_local {op : Op} (hop : op.onDevice = true) (effect : LocalEffect op t)
    (h : fakeApply op t = (.ok (), t')) {k : LinkKind} (hk : bridgeKind t = some k) :
    bridgeKind t' = some k := by
  obtain ⟨l, hl, rfl⟩ := Option.map_eq_some_iff.mp hk
  obtain ⟨d, hact, hview⟩ := effect.of_ok h
  have hbr := hview bridgeName
  by_cases htarget : bridgeName = op.target
  · rw [← htarget] at hact
    obtain ⟨l', hl', hkind⟩ := act_kind hop hact hl
    rw [if_pos htarget] at hbr
    rw [bridgeKind, ← device_link, hbr, hl', Option.map_some, hkind]
  · rw [if_neg htarget] at hbr
    rw [bridgeKind, ← device_link, hbr, device_link, hl, Option.map_some]

/-- Deleting another link leaves the bridge a bridge: it goes with no other link. -/
theorem bridgeKind_deleteLink {name : String} (hname : name ≠ bridgeName)
    (h : fakeApply (.deleteLink name) t = (.ok (), t')) {b : BridgeSettings}
    (hk : bridgeKind t = some (.bridge b)) : bridgeKind t' = some (.bridge b) := by
  obtain ⟨up, master, hl⟩ := (bridgeKind_eq_some b).mp hk
  obtain ⟨removed, hr, cascade⟩ := deleteLink_ok h
  have hroot : (device t bridgeName).parent = none := by simp [Device.parent, device_link, hl]
  have hkept : bridgeName ∉ removed :=
    cascade_not_mem cascade hroot (by simpa using hname.symm)
  have hbr := hr bridgeName
  rw [Device.without, if_neg hkept] at hbr
  rw [bridgeKind, ← device_link, hbr]
  split <;> simp [Device.released, device_link, hl]

theorem planBridge_kind (run : runAll fakeApply (planBridge s).1 s = (.ok (), t)) :
    bridgeKind t = some (.bridge ⟨true, 0, true, bridgeStp s (planBridge s).2⟩) := by
  have hcreated : ∀ u, runAll fakeApply [.createBridge bridgeName] u = (.ok (), t) →
      bridgeKind t = some (.bridge ⟨true, 0, true, .off⟩) := by
    intro u hu
    simp only [runAll, fakeApply] at hu
    split at hu
    · next u' heq =>
      cases hu
      split at heq
      · simp [fail] at heq
      · cases heq
        simp [bridgeKind, applyCreateLink, newLink, freshBridgeKind]
    · simp at hu
  cases bridgePlan s with
  | kept b up master link ok ops pvid =>
    obtain ⟨vlanFiltering, defaultPvid, mstEnabled, stp⟩ := b
    simp only [BridgeSettings.configured, Bool.and_eq_true, beq_iff_eq] at ok
    obtain ⟨⟨rfl, rfl⟩, rfl⟩ := ok
    rw [ops] at run ⊢
    cases run
    simp [bridgeKind, bridgeStp, link]
  | reconfigured b up master link unconfigured allowed ops pvid =>
    obtain ⟨heffect, -⟩ := configureBridge_effect bridgeName s b up master link
    rw [ops] at run ⊢
    have ht : t = (fakeApply (.configureBridge bridgeName) s).2 := by
      simp only [runAll] at run
      split at run
      · next u heq =>
        cases run
        rw [heq]
      · simp at run
    rw [bridgeKind, ← device_link, ht, heffect bridgeName, if_pos rfl, dropDefault_link]
    simp [bridgeStp, link, BridgeSettings.configure]
  | replaced l link ops pvid =>
    rw [ops] at run ⊢
    obtain ⟨u, -, hu⟩ := runAll_append_inv [Op.deleteLink bridgeName] [Op.createBridge bridgeName] run
    simpa [bridgeStp] using hcreated u hu
  | created link ops pvid =>
    rw [ops] at run ⊢
    simpa [bridgeStp] using hcreated s run

theorem setBridgeStp_kind {on : Bool} {b : BridgeSettings}
    (hk : bridgeKind t = some (.bridge b))
    (h : fakeApply (.setBridgeStp bridgeName on) t = (.ok (), t')) :
    bridgeKind t' = some (.bridge { b with stp := if on then .user else .off }) := by
  obtain ⟨up, master, hl⟩ := (bridgeKind_eq_some b).mp hk
  simp only [fakeApply, applySetBridgeStp, hl] at h
  cases h
  simp [bridgeKind]

theorem planStp_kind {fresh : Bool}
    (hk : bridgeKind t = some (.bridge ⟨true, 0, true, bridgeStp s fresh⟩))
    (run : runAll fakeApply (planStp desired s fresh) t = (.ok (), t')) :
    bridgeKind t' = some (.bridge ⟨true, 0, true, stpWanted desired⟩) := by
  have hset : ∀ (on : Bool) (u u' : ActualState) (stp : BridgeStp),
      bridgeKind u = some (.bridge ⟨true, 0, true, stp⟩) →
      runAll fakeApply [.setBridgeStp bridgeName on] u = (.ok (), u') →
      bridgeKind u' = some (.bridge ⟨true, 0, true, if on then .user else .off⟩) := by
    intro on u u' stp hu hrun
    simp only [runAll] at hrun
    split at hrun
    · next v heq =>
      cases hrun
      exact setBridgeStp_kind hu heq
    · simp at hrun
  unfold planStp at run
  obtain ⟨u, hfirst, hsecond⟩ := runAll_append_inv _ _ run
  unfold stpWanted
  cases hstp : bridgeStp s fresh with
  | kernel =>
    simp only [hstp, if_true] at hfirst
    have hu := hset false t u _ hk hfirst
    cases hwant : desired.stp.isSome with
    | true =>
      rw [hstp, hwant] at hsecond
      exact hset true u t' _ hu hsecond
    | false =>
      rw [hstp, hwant] at hsecond
      cases hsecond
      exact hu
  | off =>
    simp only [hstp, reduceCtorEq, if_false] at hfirst
    cases hfirst
    cases hwant : desired.stp.isSome with
    | true =>
      rw [hstp, hwant] at hsecond
      exact hset true t t' _ hk hsecond
    | false =>
      rw [hstp, hwant] at hsecond
      cases hsecond
      rw [hk, hstp]
      rfl
  | user =>
    simp only [hstp, reduceCtorEq, if_false] at hfirst
    cases hfirst
    cases hwant : desired.stp.isSome with
    | true =>
      rw [hstp, hwant] at hsecond
      cases hsecond
      rw [hk, hstp]
      rfl
    | false =>
      rw [hstp, hwant] at hsecond
      exact hset false t t' _ hk hsecond

/-- Once its first half has run, the plan keeps the bridge as it is. -/
theorem planBridgeSection_safe
    (run : runAll fakeApply (planBridgeSection desired s) s = (.ok (), t)) :
    SafeBridge desired t := by
  rw [safeBridge_iff]
  unfold planBridgeSection at run
  obtain ⟨t₃, hrun₃, hstale⟩ := runAll_append_inv _ _ run
  obtain ⟨t₂, hrun₂, hstp⟩ := runAll_append_inv _ _ hrun₃
  obtain ⟨t₁, hbridge, hup⟩ := runAll_append_inv _ _ hrun₂
  have hk₂ : bridgeKind t₂ = some (.bridge ⟨true, 0, true, bridgeStp s (planBridge s).2⟩) := by
    refine runAll_ok_invariant (fun u => bridgeKind u = some (.bridge ⟨true, 0, true,
      bridgeStp s (planBridge s).2⟩)) (fun op hop u u' hu h => ?_) (planBridge_kind hbridge) hup
    obtain rfl : op = .setUp bridgeName true := by
      unfold planBridgeUp at hop
      split at hop
      · exact List.mem_singleton.mp hop
      · simp at hop
    exact bridgeKind_local rfl (setUp_local u _ _) h hu
  refine runAll_ok_invariant
    (fun u => bridgeKind u = some (.bridge ⟨true, 0, true, stpWanted desired⟩))
    (fun op hop u u' hu h => ?_) (planStp_kind hk₂ hstp) hstale
  -- A stale VLAN link is not the bridge: the bridge was a bridge at the start, or is new.
  obtain ⟨⟨name, id⟩, he, rfl⟩ := List.mem_map.mp hop
  have hlink := (List.mem_filter.mp he).1
  have hfresh : (planBridge s).2 = false := by
    by_contra hfresh
    simp [bridgeVlanLinks, Bool.not_eq_false _ ▸ hfresh] at hlink
  rw [hfresh, mem_bridgeVlanLinks] at hlink
  obtain ⟨up, master, hl⟩ := hlink
  refine bridgeKind_deleteLink (fun hbr => ?_) h hu
  have hb := bridge_of_not_fresh hfresh
  simp only at hbr hl
  rw [← hbr, Device.isBridge, device_link, hl] at hb
  cases hb

theorem SafeBridge.ready (safe : SafeBridge desired t) : BridgeReady t := by
  obtain ⟨b, hk, -, hpvid, -⟩ := safe
  obtain ⟨up, master, hl⟩ := (bridgeKind_eq_some b).mp hk
  exact ⟨b, up, master, hl, hpvid⟩

/-- The second half of the plan keeps the bridge safe. -/
theorem SafeBridge.step (safe : SafeBridge desired t) {op : Op} (hop : op.onDevice = true)
    (h : fakeApply op t = (.ok (), t')) : SafeBridge desired t' := by
  have effect := localEffect_of_isLocal (Op.isLocal_of_onDevice hop) safe.ready
  rw [safeBridge_iff] at safe ⊢
  exact bridgeKind_local hop effect h safe

theorem SafeBridge.run (safe : SafeBridge desired t) {ops : List Op}
    (hops : ∀ op ∈ ops, op.onDevice = true) (run : runAll fakeApply ops t = (.ok (), t')) :
    SafeBridge desired t' :=
  runAll_ok_invariant (SafeBridge desired) (fun op hop _ _ h hstep => h.step (hops op hop) hstep)
    safe run

/-- No port joins in the first half of the plan. -/
theorem setMaster_not_mem_bridgeSection (name master : String) :
    Op.setMaster name (some master) ∉ planBridgeSection desired s := by
  intro hop
  have hprep := bridgeSection_isPreparing _ (List.mem_append_right s.platformOps hop)
  cases hprep

end Steps

/-- From any state of the kernel model, a port that joins `br-lan` joins a bridge with
VLAN filtering, without a default PVID, with MST and the wanted STP state, and gets no
VLAN entry by joining. -/
theorem plan_ports_join_safe_bridge (desired : DesiredState) (s : ActualState) (ops : List Op)
    (planned : plan desired s = .ok ops) (before after : List Op) (name : String)
    (split : ops = before ++ .setMaster name (some bridgeName) :: after) (t t' : ActualState)
    (run : runAll fakeApply before s = (.ok (), t))
    (joins : fakeApply (.setMaster name (some bridgeName)) t = (.ok (), t')) :
    SafeBridge desired t ∧ SafeBridge desired t' ∧ ∀ vid, vid ∉ t'.bridgeVlans.getD name ∅ := by
  have hops : planBridgeSection desired s ++ planDeviceSection desired s =
      before ++ .setMaster name (some bridgeName) :: after := by
    rw [← split]
    exact ((plan_eq_ok desired s).mp planned).2
  -- The whole first half of the plan comes before the port joins.
  obtain ⟨during, rfl, hdevices⟩ : ∃ during, before = planBridgeSection desired s ++ during ∧
      planDeviceSection desired s = during ++ .setMaster name (some bridgeName) :: after := by
    rcases List.append_eq_append_iff.mp hops with h | ⟨rest, hbridge, hrest⟩
    · exact h
    · cases rest with
      | nil => exact ⟨[], by simpa using hbridge.symm, by simpa using hrest.symm⟩
      | cons op rest =>
        obtain ⟨rfl, -⟩ := List.cons.inj hrest
        have hin : Op.setMaster name (some bridgeName) ∈ planBridgeSection desired s := by
          rw [hbridge]
          simp
        exact absurd hin (setMaster_not_mem_bridgeSection name bridgeName)
  obtain ⟨u, hfirst, hduring⟩ := runAll_append_inv _ _ run
  have hall : ∀ op ∈ during ++ [.setMaster name (some bridgeName)], op.onDevice = true := by
    intro op hop
    refine planDeviceSection_onDevice desired s op ?_
    rw [hdevices, List.append_cons]
    exact List.mem_append_left _ hop
  have hsafe : SafeBridge desired t :=
    (planBridgeSection_safe hfirst).run (fun op hop => hall op (List.mem_append_left _ hop)) hduring
  have hjoin : Op.onDevice (.setMaster name (some bridgeName)) = true := hall _ (by simp)
  refine ⟨hsafe, hsafe.step hjoin joins, fun vid => ?_⟩
  obtain ⟨d, hact, hview⟩ :=
    (localEffect_of_isLocal (Op.isLocal_of_onDevice hjoin) hsafe.ready).of_ok joins
  have hport : device t' name = d := (hview name).trans (if_pos rfl)
  obtain ⟨l, -, rfl⟩ := Option.map_eq_some_iff.mp hact
  have hvlans : t'.bridgeVlans.getD name ∅ = ∅ := congrArg Device.vlans hport
  rw [hvlans]
  exact Std.ExtTreeMap.not_mem_empty

/-- What comes after the only port has joined after boot. -/
def afterJoin : List Op :=
  [.addBridgeVlan "lan1" 10 access, .setUp "lan1" true, .addBridgeVlan "br-lan" 10 tagged,
    .createVlan "vlan10" "br-lan" 10, .addAddress "vlan10" ⟨⟨0xC0A80101⟩, 24⟩, .setUp "vlan10" true]

/-- After boot `br-lan` is created and set up, then the port joins it. -/
theorem plan_ports_join_safe_bridge_boot :
    SafeBridge onePortDesired
        (runAll fakeApply [.createBridge "br-lan", .setUp "br-lan" true] onePortBoot).2 ∧
      SafeBridge onePortDesired (runAll fakeApply [.createBridge "br-lan", .setUp "br-lan" true,
        .setMaster "lan1" (some "br-lan")] onePortBoot).2 ∧
      ∀ vid, vid ∉ (runAll fakeApply [.createBridge "br-lan", .setUp "br-lan" true,
        .setMaster "lan1" (some "br-lan")] onePortBoot).2.bridgeVlans.getD "lan1" ∅ :=
  plan_ports_join_safe_bridge onePortDesired onePortBoot
    ([.createBridge "br-lan", .setUp "br-lan" true] ++
      .setMaster "lan1" (some "br-lan") :: afterJoin) (by decide +kernel)
    _ afterJoin "lan1" rfl _ _ (by decide +kernel) (by decide +kernel)

end ClixonSwitch.Guarantees
