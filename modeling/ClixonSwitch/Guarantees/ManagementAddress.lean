import ClixonSwitch.Guarantees.Convergence
import ClixonSwitch.Guarantees.SafeJoin
import ClixonSwitch.Lib.Throughout
import ClixonSwitch.Source.SwitchNet.Lowered

/-!
# The management address along a plan

Whether the devices that the planner owns have a permanent address after every
operation of a plan. The first half of a plan and its end only take addresses away, and
within an SVI the new ones come first; so what counts are the states after the first
half and between the SVIs, which are visited in the order of their names.
-/
namespace ClixonSwitch.Guarantees
open Std Lib Source.SwitchModel Source.SwitchNet

/-- The devices that the planner owns: the bridge, switch ports, VLAN links on the bridge. -/
def PlanOwns (s : ActualState) (dev : String) : Prop :=
  dev = bridgeName ∨
    ∃ l, s.links[dev]? = some l ∧ (l.kind.isDsa = true ∨ l.kind.isBridgeVlan = true)

/-- A device that the planner owns has the permanent address `p`. -/
def Holds (s : ActualState) (dev : String) (p : Ipv4Prefix) : Prop :=
  PlanOwns s dev ∧ p ∈ s.addresses.getD dev ∅

def Managed (s : ActualState) : Prop := ∃ dev p, Holds s dev p

/-- What keeps an address on the switch throughout a plan: one on a switch port; one on a
bridge that is not replaced; or one on a VLAN link that stays as it is and is not visited
before the first SVI with a static address, unless the plan is abandoned before the SVIs. -/
inductive AddressKept (desired : DesiredState) (s : ActualState) : Prop where
  | port (dev : String) (l : Link) (p : Ipv4Prefix) (link : s.links[dev]? = some l)
    (dsa : l.kind.isDsa = true) (address : p ∈ s.addresses.getD dev ∅)
  | bridge (p : Ipv4Prefix) (stays : (planBridge s).2 = false)
    (address : p ∈ s.addresses.getD bridgeName ∅)
  | svi (name : String) (svi : Svi) (up : Bool) (master : Option String) (p : Ipv4Prefix)
    (stays : (planBridge s).2 = false) (wanted : desired.svis[name]? = some svi)
    (link : s.links[name]? = some ⟨.vlan bridgeName svi.vlan, up, master⟩)
    (address : p ∈ s.addresses.getD name ∅)
    (order : StaleDefault desired s ∨ ∃ first svi', desired.svis[first]? = some svi' ∧
      (∃ q, q ∈ svi'.addresses) ∧ first ≤ name)

def HasStaticAddress (desired : DesiredState) : Prop :=
  ∃ (name : String) (svi : Svi) (p : Ipv4Prefix), desired.svis[name]? = some svi ∧ p ∈ svi.addresses

/-- Operations that create a device or change its addresses. -/
def Op.readdresses (op : Op) (dev : String) : Bool :=
  match op with
  | .createVlan name _ _ => name == dev
  | .addAddress name _ => name == dev
  | .delAddress name _ => name == dev
  | _ => false

/-- What an operation does to the permanent addresses of its device. -/
def Op.permanent (op : Op) (addresses : BTreeSet Ipv4Prefix) : BTreeSet Ipv4Prefix :=
  match op with
  | .addAddress _ p => addresses.insert p
  | .delAddress _ p => addresses.erase p
  | _ => addresses

section Steps
variable {op : Op} {t t' : ActualState} {dev : String} {p : Ipv4Prefix}

theorem act_permanent {d d' : Device} (hact : act op d = some d') :
    d'.addresses = Op.permanent op d.addresses := by
  cases op <;> simp only [act] at hact ⊢
  case setBridgeStp | setMaster | setUp =>
    obtain ⟨l, -, rfl⟩ := Option.map_eq_some_iff.mp hact
    rfl
  case configureBridge | deleteLink => cases hact
  all_goals
    split at hact
    all_goals first
      | cases hact
        rfl
      | cases hact

theorem act_permanent_back {d d' : Device} (hact : act op d = some d') (hp : p ∈ d'.addresses) :
    p ∈ d.addresses ∨ op = .addAddress op.target p := by
  have haddr := act_permanent hact
  cases op
  case addAddress dev q =>
    rw [haddr] at hp
    rcases (BTreeSet.mem_insert_iff _ _ _).mp hp with rfl | hp
    · exact Or.inr rfl
    · exact Or.inl hp
  case delAddress dev q =>
    rw [haddr] at hp
    exact Or.inl ((BTreeSet.mem_erase_iff _ _ _).mp hp).2
  all_goals
    rw [haddr] at hp
    exact Or.inl hp

theorem act_permanent_forward {d d' : Device} (hact : act op d = some d') (hp : p ∈ d.addresses) :
    p ∈ d'.addresses ∨ op = .delAddress op.target p := by
  have haddr := act_permanent hact
  cases op
  case addAddress dev q =>
    rw [haddr]
    exact Or.inl ((BTreeSet.mem_insert_iff _ _ _).mpr (Or.inr hp))
  case delAddress dev q =>
    by_cases hq : p = q
    · exact Or.inr (by rw [hq]; rfl)
    · rw [haddr]
      exact Or.inl ((BTreeSet.mem_erase_iff _ _ _).mpr ⟨hq, hp⟩)
  all_goals
    rw [haddr]
    exact Or.inl hp

/-- A device that an operation does not create was there, of the same kind. -/
theorem act_link_back {d d' : Device} {l' : Link} (hop : op.onDevice = true)
    (hact : act op d = some d') (hl' : d'.link = some l')
    (hcreate : ∀ name parent id, op ≠ .createVlan name parent id) :
    ∃ l, d.link = some l ∧ l'.kind = l.kind := by
  cases hl : d.link with
  | some l =>
    obtain ⟨l'', hl'', hkind⟩ := act_kind hop hact hl
    rw [hl'] at hl''
    cases hl''
    exact ⟨l, rfl, hkind⟩
  | none =>
    exfalso
    cases op <;> simp [Op.onDevice, Op.isLocal] at hop <;> simp [act, hl] at hact
    case createVlan name parent id => exact hcreate name parent id rfl
    case delBridgeVlan dev vid =>
      obtain ⟨-, rfl⟩ := hact
      cases hl'
    case delAddress dev q =>
      obtain ⟨-, rfl⟩ := hact
      cases hl'

theorem holds_iff_device : Holds t dev p ↔
    (dev = bridgeName ∨ ∃ l, (device t dev).link = some l ∧
      (l.kind.isDsa = true ∨ l.kind.isBridgeVlan = true)) ∧ p ∈ (device t dev).addresses :=
  Iff.rfl

theorem Holds.forward (h : Holds t dev p) (effect : LocalEffect op t) (hop : op.onDevice = true)
    (hstep : fakeApply op t = (.ok (), t')) (hne : op ≠ .delAddress dev p) : Holds t' dev p := by
  obtain ⟨d, hact, hview⟩ := effect.of_ok hstep
  rw [holds_iff_device, hview dev]
  by_cases htarget : dev = op.target
  · rw [if_pos htarget]
    rw [← htarget] at hact
    refine ⟨h.1.imp id ?_, (act_permanent_forward hact h.2).resolve_right (htarget ▸ hne)⟩
    rintro ⟨l, hl, hkind⟩
    obtain ⟨l', hl', heq⟩ := act_kind hop hact hl
    exact ⟨l', hl', by rwa [heq]⟩
  · rw [if_neg htarget]
    exact h

theorem Holds.backward (h : Holds t' dev p) (effect : LocalEffect op t) (hop : op.onDevice = true)
    (hstep : fakeApply op t = (.ok (), t')) (hadd : op ≠ .addAddress dev p)
    (hcreate : ∀ parent id, op ≠ .createVlan dev parent id) : Holds t dev p := by
  obtain ⟨d, hact, hview⟩ := effect.of_ok hstep
  rw [holds_iff_device, hview dev] at h
  by_cases htarget : dev = op.target
  · rw [if_pos htarget] at h
    rw [← htarget] at hact
    refine ⟨h.1.imp id ?_, (act_permanent_back hact h.2).resolve_right (htarget ▸ hadd)⟩
    rintro ⟨l', hl', hkind⟩
    obtain ⟨l, hl, heq⟩ := act_link_back hop hact hl' (by
      rintro name parent id rfl
      exact hcreate parent id (by rw [htarget]; rfl))
    exact ⟨l, hl, by rwa [← heq]⟩
  · rwa [if_neg htarget] at h

/-- Removing addresses and changing links gives no device an address. -/
theorem Holds.before_loss (h : Holds t' dev p) (hop : op.onDevice = true) (hplain : op.isPlain = true)
    (hstep : fakeApply op t = (.ok (), t')) (hadd : op ≠ .addAddress dev p) : Holds t dev p := by
  refine h.backward (localEffect_of_isPlain hplain t) hop hstep hadd ?_
  rintro parent id rfl
  cases hplain

theorem onDevice_effect (ready : BridgeReady t) (hop : op.onDevice = true) : LocalEffect op t :=
  localEffect_of_isLocal (Op.isLocal_of_onDevice hop) ready

/-- The bridge stays ready under the second half of a plan. -/
theorem ready_step (ready : BridgeReady t) (hop : op.onDevice = true)
    (hstep : fakeApply op t = (.ok (), t')) : BridgeReady t' := by
  have hlocal := Op.isLocal_of_onDevice hop
  obtain ⟨d, hact, -⟩ := (localEffect_of_isLocal hlocal ready).of_ok hstep
  obtain ⟨u, hu, hready, -⟩ := fakeApply_local.accepts op t d hlocal ready hact
  rw [hu] at hstep
  cases hstep
  exact hready

theorem ready_run {ops : List Op} (hops : ∀ op ∈ ops, op.onDevice = true) (ready : BridgeReady t)
    (run : runAll fakeApply ops t = (.ok (), t')) : BridgeReady t' :=
  runAll_ok_invariant BridgeReady (fun op hop _ _ h => ready_step h (hops op hop)) ready run

/-- Operations elsewhere neither give nor take addresses. -/
theorem holds_run_iff {ops : List Op} (hops : ∀ op ∈ ops, op.onDevice = true)
    (helse : ∀ op ∈ ops, Op.readdresses op dev = false) (ready : BridgeReady t)
    (run : runAll fakeApply ops t = (.ok (), t')) : Holds t dev p ↔ Holds t' dev p := by
  have hstep : ∀ op ∈ ops, ∀ u u', BridgeReady u → fakeApply op u = (.ok (), u') →
      (Holds u dev p ↔ Holds u' dev p) := by
    intro op hop u u' hu h
    have hno := helse op hop
    constructor
    · refine fun hold => hold.forward (onDevice_effect hu (hops op hop)) (hops op hop) h ?_
      rintro rfl
      simp [Op.readdresses] at hno
    · refine fun hold => hold.backward (onDevice_effect hu (hops op hop)) (hops op hop) h ?_ ?_
      · rintro rfl
        simp [Op.readdresses] at hno
      · rintro parent id rfl
        simp [Op.readdresses] at hno
  exact (runAll_ok_invariant (fun u => BridgeReady u ∧ (Holds t dev p ↔ Holds u dev p))
    (fun op hop u u' hu h => ⟨ready_step hu.1 (hops op hop) h,
      hu.2.trans (hstep op hop u u' hu.1 h)⟩) ⟨ready, Iff.rfl⟩ run).2

end Steps

/-- The first half of a plan, run after the platform's links are up. -/
structure FirstHalf (desired : DesiredState) (s s₀ t : ActualState) (removed : List String) : Prop
    where
  start : RoundStart desired s
  platform : runAll fakeApply s.platformOps s = (.ok (), s₀)
  run : runAll fakeApply (planBridgeSection desired s) s₀ = (.ok (), t)
  cascade : Cascade s (bridgeRoots desired s) removed
  view : ∀ dev, device t dev = bridgeView desired s removed dev
  ready : BridgeReady t

section FirstHalf
variable {desired : DesiredState} {s s₀ t t' : ActualState} {removed : List String}

/-- It gives no device an address. -/
theorem Holds.before {op : Op} (hop : op ∈ planBridgeSection desired s)
    (hstep : fakeApply op t = (.ok (), t')) {dev : String} {p : Ipv4Prefix}
    (h : Holds t' dev p) : Holds t dev p := by
  obtain ⟨howns, hp⟩ := h
  have hp' : p ∈ (device t' dev).addresses := hp
  -- What has the same kind, unless it is the bridge, and the same addresses as before.
  have htransfer : (dev ≠ bridgeName → ∀ l', (device t' dev).link = some l' →
      ∃ l, (device t dev).link = some l ∧ l'.kind = l.kind) →
      (p ∈ (device t' dev).addresses → p ∈ (device t dev).addresses) → Holds t dev p := by
    intro hlink haddr
    refine ⟨?_, haddr hp'⟩
    by_cases hdev : dev = bridgeName
    · exact Or.inl hdev
    · obtain ⟨l', hl', hkind⟩ := howns.resolve_left hdev
      obtain ⟨l, hl, heq⟩ := hlink hdev l' hl'
      exact Or.inr ⟨l, hl, by rwa [← heq]⟩
  -- An operation on the bridge alone.
  have hlocal : op.target = bridgeName → LocalEffect op t → op ≠ .addAddress bridgeName p →
      Holds t dev p := by
    intro htarget effect hno
    obtain ⟨d, hact, hview⟩ := effect.of_ok hstep
    have hd := hview dev
    rw [htarget] at hd hact
    refine htransfer (fun hdev l' hl' => ?_) fun hin => ?_
    · rw [if_neg hdev] at hd
      exact ⟨l', by rw [← hd, hl'], rfl⟩
    · by_cases hdev : dev = bridgeName
      · rw [if_pos hdev] at hd
        rw [hd] at hin
        rw [hdev]
        refine (act_permanent_back hact hin).resolve_right ?_
        rwa [htarget]
      · rw [if_neg hdev] at hd
        rwa [← hd]
  have hdelete : ∀ name, fakeApply (.deleteLink name) t = (.ok (), t') → Holds t dev p := by
    intro name hstep
    obtain ⟨removed, hr, -⟩ := deleteLink_ok hstep
    refine htransfer (fun _ l' hl' => Device.without_kind ((hr dev).symm ▸ hl')) fun hin => ?_
    rw [hr dev, Device.without] at hin
    split at hin
    · simp at hin
    · split at hin <;> exact hin
  cases bridgeOp_of_mem hop with
  | replace => exact hdelete _ hstep
  | stale name => exact hdelete name hstep
  | create => exact hlocal rfl (createBridge_local t bridgeName) (by simp)
  | setUp => exact hlocal rfl (setUp_local t bridgeName true) (by simp)
  | setStp on => exact hlocal rfl (setBridgeStp_local t bridgeName on) (by simp)
  | configure =>
    obtain ⟨b, up, master, -, heffect⟩ := configureBridge_ok hstep
    have hd := heffect dev
    have hlink := congrArg Device.link hd
    have haddr : (device t' dev).addresses = (device t dev).addresses := by
      rw [hd, Device.dropDefault]
      split <;> split <;> rfl
    rw [dropDefault_link] at hlink
    refine htransfer (fun hdev l' hl' => ?_) fun hin => by rwa [haddr] at hin
    rw [if_neg hdev] at hlink
    exact ⟨l', by rw [← hlink, hl'], rfl⟩

theorem firstHalf_run (start : RoundStart desired s) :
    ∃ s₀ t removed, FirstHalf desired s s₀ t removed := by
  obtain ⟨removed, t, hrun, cascade, hview⟩ := bridgeSection_run desired start.coherent start.safe
  obtain ⟨s₀, hplatform, hfirst⟩ := runAll_append_inv _ _ hrun
  have hbr : t.links[bridgeName]? = (bridgeDevice desired s).link := by
    rw [← device_link, hview bridgeName, bridgeView, if_pos rfl]
  exact ⟨s₀, t, removed, start, hplatform, hfirst, cascade, hview, _, _, _, hbr, rfl⟩

/-- Which devices still have an address after it. -/
theorem FirstHalf.holds_iff (half : FirstHalf desired s s₀ t removed) (dev : String)
    (p : Ipv4Prefix) : Holds t dev p ↔ p ∈ (device s dev).addresses ∧
      ((dev = bridgeName ∧ (planBridge s).2 = false) ∨
        (∃ l, s.links[dev]? = some l ∧ l.kind.isDsa = true) ∨
        ((planBridge s).2 = false ∧ dev ∈ existingSvis desired s false)) := by
  obtain ⟨start, -, -, cascade, hview, -⟩ := half
  rw [holds_iff_device]
  by_cases hdev : dev = bridgeName
  · subst hdev
    have haddr : (device t bridgeName).addresses =
        if (planBridge s).2 then ∅ else (device s bridgeName).addresses := by
      rw [hview, bridgeView, if_pos rfl]
      simp only [bridgeDevice, bridgeBase]
      split
      · rfl
      · unfold Device.dropDefault
        split <;> rfl
    have hports : ¬ ∃ l, s.links[bridgeName]? = some l ∧ l.kind.isDsa = true := by
      rintro ⟨l, hl, hdsa⟩
      exact ne_bridge_of_isDsa start.coherent hl hdsa rfl
    constructor
    · rintro ⟨-, hp⟩
      rw [haddr] at hp
      cases hfresh : (planBridge s).2 with
      | true => simp [hfresh] at hp
      | false => exact ⟨by simpa [hfresh] using hp, Or.inl ⟨rfl, rfl⟩⟩
    · rintro ⟨hp, hcase⟩
      have hfresh : (planBridge s).2 = false := by
        rcases hcase with ⟨-, h⟩ | h | ⟨h, -⟩
        · exact h
        · exact absurd h hports
        · exact h
      exact ⟨Or.inl rfl, by rw [haddr, hfresh]; exact hp⟩
  · -- A device other than the bridge that survives has its kind and its addresses.
    have hkeeps : ∀ l, s.links[dev]? = some l → dev ∉ removed →
        ∃ l', (device t dev).link = some l' ∧ l'.kind = l.kind ∧
          (device t dev).addresses = (device s dev).addresses := by
      intro l hl hkept
      obtain ⟨up, master, vlans, hd, -⟩ := bridgeView_kept start.coherent cascade hl hdev hkept
      rw [← hview] at hd
      exact ⟨_, congrArg Device.link hd, rfl, by rw [hd]⟩
    constructor
    · rintro ⟨howns, hp⟩
      obtain ⟨l', hl', hkind⟩ := howns.resolve_left hdev
      rw [hview] at hl'
      obtain ⟨hkept, l, hl, heq, -⟩ := bridgeView_survivor start.coherent cascade hdev hl'
      obtain ⟨-, -, -, haddr⟩ := hkeeps l hl hkept
      refine ⟨haddr ▸ hp, Or.inr ?_⟩
      rw [heq] at hkind
      rcases hkind with hdsa | hvlan
      · exact Or.inl ⟨l, hl, hdsa⟩
      · by_cases hsvi : dev ∈ desired.svis
        · by_cases hex : dev ∈ existingSvis desired s (planBridge s).2
          · refine Or.inr ?_
            cases hfresh : (planBridge s).2 with
            | true => simp [existingSvis, bridgeVlanLinks, hfresh] at hex
            | false => exact ⟨rfl, hfresh ▸ hex⟩
          · rw [svi_absent start.coherent start.foreign cascade hsvi hdev hex] at hl'
            cases hl'
        · exact absurd (bridgeVlan_removed start.coherent cascade hl hvlan
            fun _ => mt (svi_of_existing desired s) hsvi) hkept
    · rintro ⟨hp, ⟨heq, -⟩ | ⟨l, hl, hdsa⟩ | ⟨hfresh, hex⟩⟩
      · exact absurd heq hdev
      · obtain ⟨l', hl', hkind, haddr⟩ :=
          hkeeps l hl (kept_of_parent cascade hdev (parent_of_isDsa hl hdsa))
        exact ⟨Or.inr ⟨l', hl', Or.inl (by rw [hkind, hdsa])⟩, haddr ▸ hp⟩
      · obtain ⟨svi, up, master, -, hl⟩ := (mem_existingSvis desired s dev).mp hex
        obtain ⟨l', hl', hkind, haddr⟩ := hkeeps _ hl (svi_kept cascade hfresh hex)
        exact ⟨Or.inr ⟨l', hl', Or.inr (by rw [hkind]; simp [LinkKind.isBridgeVlan])⟩, haddr ▸ hp⟩

end FirstHalf

section Ports
variable {desired : DesiredState} {s s₀ t t' : ActualState} {removed : List String}

/-- What the plan does to the ports and to the bridge's own entries. -/
def planEntries (desired : DesiredState) (s : ActualState) : List Op :=
  planPorts desired s (planBridge s).2 ++ planSelfVlans desired s (planBridge s).2

theorem planEntries_quiet : ∀ op ∈ planEntries desired s, op.isQuiet = true := by
  intro op hop
  simp only [planEntries, planPorts, planSelfVlans, List.mem_append, List.mem_flatMap] at hop
  rcases hop with ⟨e, -, hop⟩ | hop
  · exact (planPort_target desired s op hop).2
  · exact (syncVlans_target op hop).2

theorem Op.readdresses_of_isQuiet {op : Op} (h : op.isQuiet = true) (dev : String) :
    Op.readdresses op dev = false := by
  cases op <;> simp_all [Op.isQuiet, Op.readdresses]

/-- A quiet operation that is refused changes nothing at all. -/
theorem quiet_refused {op : Op} (hop : op.isQuiet = true) {e : NetError}
    (h : fakeApply op t = (.error e, t')) : t' = t := by
  cases op <;> simp [Op.isQuiet] at hop
  case setMaster name master =>
    simp only [fakeApply, applySetMaster, fail] at h
    split at h
    · exact (Prod.mk.inj h).2.symm
    · split at h
      · exact (Prod.mk.inj h).2.symm
      · cases h
  case setUp name up =>
    simp only [fakeApply, applySetUp, fail] at h
    split at h
    · cases h
    · exact (Prod.mk.inj h).2.symm
  case addBridgeVlan dev vid flags =>
    simp only [fakeApply, applyAddBridgeVlan, fail] at h
    split at h
    · exact (Prod.mk.inj h).2.symm
    · split at h
      · exact (Prod.mk.inj h).2.symm
      · cases h
  case delBridgeVlan dev vid =>
    simp only [fakeApply, applyDelBridgeVlan, fail] at h
    split at h
    · split at h
      · cases h
      · exact (Prod.mk.inj h).2.symm
    · exact (Prod.mk.inj h).2.symm

theorem planEntries_throughout (ready : BridgeReady t) (managed : Managed t) :
    Throughout fakeApply Managed (planEntries desired s) t := by
  obtain ⟨dev, p, hold⟩ := managed
  have hkept : Throughout fakeApply (fun u => BridgeReady u ∧ Holds u dev p)
      (planEntries desired s) t := by
    refine throughout_of_kept (fun op hop u hu => ?_) ⟨ready, hold⟩
    have hquiet := planEntries_quiet op hop
    have hon := Op.onDevice_of_isQuiet hquiet
    cases hstep : fakeApply op u with
    | mk result u' =>
      cases result with
      | ok _ =>
        refine ⟨ready_step hu.1 hon hstep, hu.2.forward (onDevice_effect hu.1 hon) hon hstep ?_⟩
        rintro rfl
        cases hquiet
      | error e =>
        obtain rfl := quiet_refused hquiet hstep
        exact hu
  exact hkept.imp fun u hu => ⟨dev, p, hu.2⟩

theorem runLocal_quiet {ops : List Op} (hops : ∀ op ∈ ops, op.isQuiet = true) {d d' : Device}
    (h : runLocal act ops d = some d') : d'.addresses = d.addresses ∧ d'.leases = d.leases := by
  induction ops generalizing d with
  | nil =>
    cases h
    exact ⟨rfl, rfl⟩
  | cons op rest ih =>
    rw [runLocal_cons] at h
    obtain ⟨d₁, hact, hrest⟩ := Option.bind_eq_some_iff.mp h
    obtain ⟨haddr, hlease⟩ := ih (fun op hop => hops op (List.mem_cons_of_mem _ hop)) hrest
    have hquiet := hops op (by simp)
    have hfirst : d₁.addresses = d.addresses ∧ d₁.leases = d.leases := by
      cases op <;> simp [Op.isQuiet] at hquiet <;> simp only [act] at hact
      case setMaster | setUp =>
        obtain ⟨l, -, rfl⟩ := Option.map_eq_some_iff.mp hact
        exact ⟨rfl, rfl⟩
      all_goals
        split at hact
        · cases hact
          exact ⟨rfl, rfl⟩
        · cases hact
    exact ⟨haddr.trans hfirst.1, hlease.trans hfirst.2⟩

theorem planDeviceSection_eq (desired : DesiredState) (s : ActualState) :
    planDeviceSection desired s = planEntries desired s ++
      (planSvis desired s (planBridge s).2 ++ planLeftovers s (planBridge s).2) := by
  simp [planDeviceSection, planEntries]

/-- With a stale default entry the plan is abandoned before it comes to the SVIs. -/
theorem planEntries_refused (half : FirstHalf desired s s₀ t removed)
    (stale : StaleDefault desired s) :
    ∃ e u, runAll fakeApply (planEntries desired s) t = (.error e, u) := by
  obtain ⟨start, -, -, cascade, hview, ready⟩ := half
  have hon : ∀ op ∈ planEntries desired s, op.isLocal = true := fun op hop =>
    Op.isLocal_of_onDevice (Op.onDevice_of_isQuiet (planEntries_quiet op hop))
  rcases fakeApply_local.runAll _ t hon ready with ⟨u, hrun, -, hu⟩ | ⟨e, u, hrun, -⟩
  swap
  · exact ⟨e, u, hrun⟩
  exfalso
  obtain ⟨dev, hstale⟩ := stale
  have hnone := (device_run start cascade dev).1 hstale
  obtain ⟨hdrop, -, -, hwhere⟩ := hstale
  have hfresh : (planBridge s).2 = false := by rw [(reconfigured_of_dropped hdrop).1]
  -- The device has no other operations than removing its addresses, which are all there.
  have hsvi : sviOps desired s dev = [] := by
    unfold sviOps
    rcases hwhere with ⟨hport, -⟩ | ⟨rfl, -⟩
    · obtain ⟨l, hl, hdsa⟩ := (mem_switchPorts s dev).mp hport
      simp [not_svi_of_isDsa start.foreign hl hdsa]
    · simp [(BTreeMap.not_mem_iff desired.svis bridgeName).mp start.bridge]
  have hhave : (device t dev).addresses = (device s dev).addresses ∧
      (device t dev).leases = (device s dev).leases := by
    rw [hview]
    rcases hwhere with ⟨hport, -⟩ | ⟨rfl, -⟩
    · obtain ⟨l, hl, hdsa⟩ := (mem_switchPorts s dev).mp hport
      have hdev := ne_bridge_of_isDsa start.coherent hl hdsa
      obtain ⟨up, master, vlans, hd, -⟩ := bridgeView_kept start.coherent cascade hl hdev
        (kept_of_parent cascade hdev (parent_of_isDsa hl hdsa))
      rw [hd]
      exact ⟨rfl, rfl⟩
    · simp only [bridgeView, if_true, bridgeDevice, bridgeBase, hfresh, Bool.false_eq_true, if_false,
        Device.dropDefault]
      split <;> exact ⟨rfl, rfl⟩
  obtain ⟨haddr, hlease⟩ := runLocal_quiet (fun op hop => planEntries_quiet op
    (List.mem_of_mem_filter hop)) (hu dev)
  have hclear : ∃ d, runLocal act (leftoverOps s dev) (device u dev) = some d := by
    unfold leftoverOps
    split
    · obtain ⟨addresses, leases, hrun, -⟩ := runLocal_clear dev (device u dev) (by
        intro p hp hq
        rw [haddr, hhave.1] at hp
        rw [hlease, hhave.2] at hq
        exact (start.coherent.fit dev).disjoint p hp hq)
      rw [haddr, hlease, hhave.1, hhave.2] at hrun
      exact ⟨_, hrun⟩
    · exact ⟨_, rfl⟩
  obtain ⟨d, hd⟩ := hclear
  rw [planDeviceSection_eq, targeting_append, targeting_append, targeting_svis, hsvi,
    targeting_leftovers, List.nil_append, runLocal_append, ← hview, hu dev, Option.bind_some,
    hd] at hnone
  cases hnone

end Ports

section Svis
variable {desired : DesiredState} {s t t' : ActualState}

/-- The operations for one SVI. -/
def sviBlock (desired : DesiredState) (s : ActualState) (e : String × Svi) : List Op :=
  planSvi s ((existingSvis desired s (planBridge s).2).contains e.1) e.1 e.2

theorem sviBlock_target (e : String × Svi) :
    ∀ op ∈ sviBlock desired s e, op.target = e.1 ∧ op.onDevice = true :=
  planSvi_target s

theorem sviBlock_elsewhere {e : String × Svi} {dev : String} (hdev : dev ≠ e.1) :
    ∀ op ∈ sviBlock desired s e, Op.readdresses op dev = false := by
  intro op hop
  have htarget := (sviBlock_target e op hop).1
  cases op <;> simp_all [Op.readdresses, Op.target, Ne.symm]

/-- The addresses of an SVI that stays, as the plan sees them. -/
def presentAddresses (s : ActualState) (existing : Bool) (name : String) : BTreeSet Ipv4Prefix :=
  if existing then s.addresses.getD name ∅ else ∅

/-- An SVI first gains its new addresses. -/
def sviGain (s : ActualState) (existing : Bool) (name : String) (svi : Svi) : List Op :=
  (if existing then [] else [.createVlan name bridgeName svi.vlan]) ++
    (svi.addresses.toList.filter fun p => !(presentAddresses s existing name).contains p).flatMap fun p =>
      (if (if existing then s.dhcpAddresses.getD name ∅ else ∅).contains p
        then [.delAddress name p] else []) ++ [.addAddress name p]

/-- Then it loses the old ones. -/
def sviLoss (s : ActualState) (existing : Bool) (name : String) (svi : Svi) : List Op :=
  ((presentAddresses s existing name).toList.filter fun p => !svi.addresses.contains p).map
      (.delAddress name) ++
    (if svi.dhcpClient then []
      else ((if existing then s.dhcpAddresses.getD name ∅ else ∅).keys.filter
        fun p => !svi.addresses.contains p).map (.delAddress name)) ++
    (if (existing && (s.links[name]?.any Link.up)) != svi.enabled
      then [.setUp name svi.enabled] else [])

theorem planSvi_eq (existing : Bool) (name : String) (svi : Svi) :
    planSvi s existing name svi = sviGain s existing name svi ++ sviLoss s existing name svi := by
  simp only [planSvi, syncAddresses, sviGain, sviLoss, presentAddresses, List.append_assoc]

theorem sviGain_kept {existing : Bool} {name : String} {svi : Svi} {p : Ipv4Prefix}
    (h : .delAddress name p ∈ sviGain s existing name svi) : p ∉ presentAddresses s existing name := by
  rcases List.mem_append.mp h with h | h
  · split at h <;> simp at h
  · obtain ⟨q, hq, h⟩ := List.mem_flatMap.mp h
    rcases List.mem_append.mp h with h | h
    · rw [List.mem_ite_nil_right, List.mem_singleton, Op.delAddress.injEq] at h
      obtain ⟨-, -, rfl⟩ := h
      simpa [BTreeSet.contains_eq_false] using (List.mem_filter.mp hq).2
    · simp at h

theorem sviLoss_plain {existing : Bool} {name : String} {svi : Svi} {op : Op}
    (h : op ∈ sviLoss s existing name svi) :
    op.isPlain = true ∧ ∀ dev p, op ≠ .addAddress dev p := by
  simp only [sviLoss, List.mem_append, List.mem_map] at h
  rcases h with (⟨p, -, rfl⟩ | h) | h
  · exact ⟨rfl, nofun⟩
  · split at h
    · simp at h
    · obtain ⟨p, -, rfl⟩ := List.mem_map.mp h
      exact ⟨rfl, nofun⟩
  · split at h
    · rw [List.mem_singleton.mp h]
      exact ⟨rfl, nofun⟩
    · simp at h

/-- If there is an address before and after the operations for an SVI, there is one
all the time. -/
theorem planSvi_throughout {existing : Bool} {name : String} {svi : Svi} (ready : BridgeReady t)
    (hpresent : ∀ p, Holds t name p → p ∈ presentAddresses s existing name)
    (before : Managed t) (after : Managed t')
    (run : runAll fakeApply (planSvi s existing name svi) t = (.ok (), t')) :
    Throughout fakeApply Managed (planSvi s existing name svi) t := by
  have hon : ∀ op ∈ planSvi s existing name svi, op.target = name ∧ op.onDevice = true :=
    planSvi_target s
  rw [planSvi_eq] at run hon ⊢
  obtain ⟨mid, hgain, hloss⟩ := runAll_append_inv _ _ run
  rw [throughout_append_ok hgain]
  constructor
  · obtain ⟨dev, p, hold⟩ := before
    have hkept : Throughout fakeApply (fun u => BridgeReady u ∧ Holds u dev p)
        (sviGain s existing name svi) t := by
      refine throughout_of_forward (fun op hop u u' hu h => ?_) ⟨ready, hold⟩ hgain
      obtain ⟨htarget, hdevice⟩ := hon op (List.mem_append_left _ hop)
      refine ⟨ready_step hu.1 hdevice h, hu.2.forward (onDevice_effect hu.1 hdevice) hdevice h ?_⟩
      rintro rfl
      obtain rfl : dev = name := htarget
      exact sviGain_kept hop (hpresent p hold)
    exact hkept.imp fun u hu => ⟨dev, p, hu.2⟩
  · obtain ⟨dev, p, hold⟩ := after
    have hkept : Throughout fakeApply (fun u => Holds u dev p) (sviLoss s existing name svi) mid := by
      refine throughout_of_backward (fun op hop u u' hu h => ?_) hold hloss
      obtain ⟨hplain, hadd⟩ := sviLoss_plain hop
      exact hu.before_loss (hon op (List.mem_append_right _ hop)).2 hplain h (hadd dev p)
    exact hkept.imp fun u hu => ⟨dev, p, hu⟩

/-- The same for SVI after SVI, if there is an address between any two of them. -/
theorem sviBlocks_throughout (entries : List (String × Svi)) (nodup : (entries.map Prod.fst).Nodup)
    (ready : BridgeReady t)
    (hpresent : ∀ e ∈ entries, ∀ p, Holds t e.1 p →
      p ∈ presentAddresses s ((existingSvis desired s (planBridge s).2).contains e.1) e.1)
    (run : runAll fakeApply (entries.flatMap (sviBlock desired s)) t = (.ok (), t'))
    (between : ∀ before after u, entries = before ++ after →
      runAll fakeApply (before.flatMap (sviBlock desired s)) t = (.ok (), u) → Managed u) :
    Throughout fakeApply Managed (entries.flatMap (sviBlock desired s)) t := by
  induction entries generalizing t with
  | nil =>
    intro pre hpre
    rw [List.prefix_nil.mp hpre]
    exact between [] [] t rfl rfl
  | cons e rest ih =>
    rw [List.map_cons, List.nodup_cons] at nodup
    rw [List.flatMap_cons] at run ⊢
    obtain ⟨u, hfirst, hrest⟩ := runAll_append_inv _ _ run
    rw [throughout_append_ok hfirst]
    have hstart : Managed t := between [] (e :: rest) t rfl rfl
    have hu : Managed u := between [e] rest u rfl (by simpa using hfirst)
    have hon : ∀ op ∈ sviBlock desired s e, op.onDevice = true :=
      fun op hop => (sviBlock_target e op hop).2
    refine ⟨planSvi_throughout ready (hpresent e (by simp)) hstart hu hfirst,
      ih nodup.2 (ready_run hon ready hfirst) (fun x hx p hold => ?_) hrest fun before after v hsplit hv => ?_⟩
    · -- The operations for `e` leave the other SVIs alone.
      have hne : x.1 ≠ e.1 := fun h => nodup.1 (List.mem_map.mpr ⟨x, hx, h⟩)
      exact hpresent x (by simp [hx]) p
        ((holds_run_iff hon (sviBlock_elsewhere hne) ready hfirst).mpr hold)
    · refine between (e :: before) after v (by rw [hsplit, List.cons_append]) ?_
      rw [List.flatMap_cons, runAll_append_ok hfirst, hv]

end Svis

section Plan
variable {desired : DesiredState} {s s₀ t u w : ActualState} {removed : List String}

theorem mem_planLeftovers {fresh : Bool} {op : Op} (h : op ∈ planLeftovers s fresh) :
    ∃ dev p, op = .delAddress dev p ∧ ownsAddresses s fresh dev = true := by
  obtain ⟨e, he, rfl⟩ := List.mem_map.mp h
  exact ⟨e.1, e.2, rfl, (List.mem_filter.mp he).2⟩

theorem not_ownsAddresses_of_svi (foreign : NoForeign desired s) {name : String}
    (h : name ∈ desired.svis) (fresh : Bool) : ownsAddresses s fresh name = false := by
  unfold ownsAddresses
  cases hl : s.links[name]? with
  | none => rfl
  | some l =>
    have hvlan := foreign name l h hl
    cases hk : l.kind <;> simp_all [LinkKind.isBridgeVlan]

theorem leftovers_throughout {fresh : Bool} (managed : Managed w)
    (run : runAll fakeApply (planLeftovers s fresh) u = (.ok (), w)) :
    Throughout fakeApply Managed (planLeftovers s fresh) u := by
  obtain ⟨dev, p, hold⟩ := managed
  have hkept : Throughout fakeApply (fun v => Holds v dev p) (planLeftovers s fresh) u := by
    refine throughout_of_backward (fun op hop a b hb h => ?_) hold run
    obtain ⟨dev', q, rfl, -⟩ := mem_planLeftovers hop
    exact hb.before_loss rfl rfl h nofun
  exact hkept.imp fun v hv => ⟨dev, p, hv⟩

theorem RoundEnd.holds_svi (done : RoundEnd desired s w removed) {name : String} {svi : Svi}
    (hs : desired.svis[name]? = some svi) (p : Ipv4Prefix) : Holds w name p ↔ p ∈ svi.addresses := by
  obtain ⟨up, master, hl, -, haddr, -⟩ := done.svi_end hs
  constructor
  · exact fun hold => (haddr p).mp hold.2
  · exact fun hp => ⟨Or.inr ⟨_, hl, Or.inr (by simp [LinkKind.isBridgeVlan])⟩, (haddr p).mpr hp⟩

/-- Between two SVIs, those visited have their new addresses, and all other devices
what the first half of the plan left them. -/
theorem managed_between (done : RoundEnd desired s w removed) (ready : BridgeReady t)
    {before after : List (String × Svi)} (split : desired.svis.toList = before ++ after)
    (first : runAll fakeApply (planEntries desired s ++ before.flatMap (sviBlock desired s)) t =
      (.ok (), u))
    (second : runAll fakeApply (after.flatMap (sviBlock desired s) ++
      planLeftovers s (planBridge s).2) u = (.ok (), w)) :
    Managed u ↔ (∃ e ∈ before, ∃ p, p ∈ e.2.addresses) ∨
      ∃ dev p, dev ∉ before.map Prod.fst ∧ Holds t dev p := by
  have nodup := desired.svis.nodup_fst
  rw [split, List.map_append, List.nodup_append] at nodup
  have hfirst : ∀ op ∈ planEntries desired s ++ before.flatMap (sviBlock desired s),
      op.onDevice = true := by
    intro op hop
    rcases List.mem_append.mp hop with hop | hop
    · exact Op.onDevice_of_isQuiet (planEntries_quiet op hop)
    · obtain ⟨e, -, hop⟩ := List.mem_flatMap.mp hop
      exact (sviBlock_target e op hop).2
  have hsecond : ∀ op ∈ after.flatMap (sviBlock desired s) ++ planLeftovers s (planBridge s).2,
      op.onDevice = true := by
    intro op hop
    rcases List.mem_append.mp hop with hop | hop
    · obtain ⟨e, -, hop⟩ := List.mem_flatMap.mp hop
      exact (sviBlock_target e op hop).2
    · obtain ⟨dev, p, rfl, -⟩ := mem_planLeftovers hop
      rfl
  have hready : BridgeReady u := ready_run hfirst ready first
  have hvisited : ∀ e ∈ before, ∀ p, Holds u e.1 p ↔ p ∈ e.2.addresses := by
    intro e he p
    have hs : desired.svis[e.1]? = some e.2 := by
      rw [← ExtTreeMap.mem_toList_iff_getElem?_eq_some, split]
      exact List.mem_append_left _ he
    rw [holds_run_iff hsecond (fun op hop => ?_) hready second, done.holds_svi hs]
    rcases List.mem_append.mp hop with hop | hop
    · obtain ⟨x, hx, hop⟩ := List.mem_flatMap.mp hop
      exact sviBlock_elsewhere (nodup.2.2 _ (List.mem_map_of_mem he) _ (List.mem_map_of_mem hx)) op hop
    · obtain ⟨dev, q, rfl, howns⟩ := mem_planLeftovers hop
      have hno := not_ownsAddresses_of_svi done.start.foreign
        ((BTreeMap.mem_iff _ _).mpr ⟨e.2, hs⟩) (planBridge s).2
      simp only [Op.readdresses, beq_eq_false_iff_ne]
      rintro rfl
      rw [hno] at howns
      cases howns
  have hother : ∀ dev p, dev ∉ before.map Prod.fst → (Holds t dev p ↔ Holds u dev p) := by
    intro dev p hdev
    refine holds_run_iff hfirst (fun op hop => ?_) ready first
    rcases List.mem_append.mp hop with hop | hop
    · exact Op.readdresses_of_isQuiet (planEntries_quiet op hop) dev
    · obtain ⟨e, he, hop⟩ := List.mem_flatMap.mp hop
      have hne : dev ≠ e.1 := fun h => hdev (List.mem_map.mpr ⟨e, he, h.symm⟩)
      exact sviBlock_elsewhere hne op hop
  constructor
  · rintro ⟨dev, p, hold⟩
    by_cases hdev : dev ∈ before.map Prod.fst
    · obtain ⟨e, he, rfl⟩ := List.mem_map.mp hdev
      exact Or.inl ⟨e, he, p, (hvisited e he p).mp hold⟩
    · exact Or.inr ⟨dev, p, hdev, (hother dev p hdev).mpr hold⟩
  · rintro (⟨e, he, p, hp⟩ | ⟨dev, p, hdev, hold⟩)
    · exact ⟨e.1, p, (hvisited e he p).mpr hp⟩
    · exact ⟨dev, p, (hother dev p hdev).mp hold⟩

variable (half : FirstHalf desired s s₀ t removed)
include half

/-- The whole plan, if nothing is refused. -/
theorem FirstHalf.second_half (fresh : ¬ StaleDefault desired s) :
    ∃ w removed', runAll fakeApply (planDeviceSection desired s) t = (.ok (), w) ∧
      RoundEnd desired s w removed' := by
  obtain ⟨w, removed', hrun, done⟩ := (round_run half.start).2 fresh
  refine ⟨w, removed', ?_, done⟩
  rw [opsOfRound, runAll_append_ok half.platform, runAll_append_ok half.run] at hrun
  exact hrun

theorem FirstHalf.throughout (managed : Managed t) :
    Throughout fakeApply Managed (planBridgeSection desired s) s₀ := by
  obtain ⟨dev, p, hold⟩ := managed
  have hkept : Throughout fakeApply (fun v => Holds v dev p) (planBridgeSection desired s) s₀ :=
    throughout_of_backward (fun op hop a b hb h => hb.before hop h) hold half.run
  exact hkept.imp fun v hv => ⟨dev, p, hv⟩

omit half in
/-- An SVI that is not after a visited one has been visited. -/
theorem visited_of_le {before after : List (String × Svi)}
    (split : desired.svis.toList = before ++ after) {first name : String} {svi' : Svi}
    (hfirst : desired.svis[first]? = some svi') (hname : name ∈ before.map Prod.fst)
    (hle : first ≤ name) : (first, svi') ∈ before := by
  obtain ⟨e, he, rfl⟩ := List.mem_map.mp hname
  have hin : (first, svi') ∈ before ++ after := by
    rw [← split, ExtTreeMap.mem_toList_iff_getElem?_eq_some]
    exact hfirst
  have hsorted := desired.svis.ordered_keys_toList
  rw [split] at hsorted
  rcases List.mem_append.mp hin with h | h
  · exact h
  · have hlt := (List.pairwise_append.mp hsorted).2.2 e he (first, svi') h
    exact absurd (compare_lt_iff_lt.mp hlt) hle.not_gt

/-- The address that stays is on a device that is not visited before an SVI has its own. -/
theorem FirstHalf.kept_iff : AddressKept desired s ↔ ∃ dev p, Holds t dev p ∧
    ∀ svi, desired.svis[dev]? = some svi → StaleDefault desired s ∨
      ∃ first svi', desired.svis[first]? = some svi' ∧ (∃ q, q ∈ svi'.addresses) ∧ first ≤ dev := by
  constructor
  · intro kept
    cases kept with
    | port dev l p link dsa address =>
      refine ⟨dev, p, (half.holds_iff dev p).mpr ⟨address, Or.inr (Or.inl ⟨l, link, dsa⟩)⟩, ?_⟩
      intro svi hs
      rw [not_svi_of_isDsa half.start.foreign link dsa] at hs
      cases hs
    | bridge p stays address =>
      refine ⟨bridgeName, p, (half.holds_iff _ p).mpr ⟨address, Or.inl ⟨rfl, stays⟩⟩, ?_⟩
      exact fun svi hs => absurd ((BTreeMap.mem_iff _ _).mpr ⟨svi, hs⟩) half.start.bridge
    | svi name svi up master p stays wanted link address order =>
      have hex := (mem_existingSvis desired s name).mpr ⟨svi, up, master, wanted, link⟩
      exact ⟨name, p, (half.holds_iff name p).mpr ⟨address, Or.inr (Or.inr ⟨stays, hex⟩)⟩,
        fun _ _ => order⟩
  · rintro ⟨dev, p, hold, order⟩
    obtain ⟨hp, ⟨rfl, hfresh⟩ | ⟨l, hl, hdsa⟩ | ⟨hfresh, hex⟩⟩ := (half.holds_iff dev p).mp hold
    · exact .bridge p hfresh hp
    · exact .port dev l p hl hdsa hp
    · obtain ⟨svi, up, master, hs, hl⟩ := (mem_existingSvis desired s dev).mp hex
      exact .svi dev svi up master p hfresh hs hl hp (order svi hs)

theorem FirstHalf.kept_of_throughout (h : Throughout fakeApply Managed
      (planBridgeSection desired s ++ planDeviceSection desired s) s₀) : AddressKept desired s := by
  rw [half.kept_iff]
  by_cases stale : StaleDefault desired s
  · obtain ⟨dev, p, hold⟩ := h.after half.run
    exact ⟨dev, p, hold, fun _ _ => Or.inl stale⟩
  obtain ⟨w, removed', hrun, done⟩ := half.second_half stale
  -- The moment before the first SVI with a static address.
  let noStatic := fun e : String × Svi => e.2.addresses.isEmpty
  have split : desired.svis.toList = desired.svis.toList.takeWhile noStatic ++
      desired.svis.toList.dropWhile noStatic := List.takeWhile_append_dropWhile.symm
  have hops : planDeviceSection desired s =
      (planEntries desired s ++
        (desired.svis.toList.takeWhile noStatic).flatMap (sviBlock desired s)) ++
      ((desired.svis.toList.dropWhile noStatic).flatMap (sviBlock desired s) ++
        planLeftovers s (planBridge s).2) := by
    have hsvis : planSvis desired s (planBridge s).2 =
        desired.svis.toList.flatMap (sviBlock desired s) := rfl
    rw [planDeviceSection_eq, hsvis]
    nth_rewrite 1 [split]
    simp only [List.flatMap_append, List.append_assoc]
  rw [hops] at hrun
  obtain ⟨u, hfirst, hsecond⟩ := runAll_append_inv _ _ hrun
  have hmanaged : Managed u := by
    rw [hops, ← List.append_assoc] at h
    exact h.after (by rw [runAll_append_ok half.run, hfirst])
  rcases (managed_between done half.ready split hfirst hsecond).mp hmanaged with
    ⟨e, he, p, hp⟩ | ⟨dev, p, hdev, hold⟩
  · have hempty : noStatic e = true := List.mem_takeWhile_imp he
    have : e.2.addresses = ∅ := ExtTreeSet.isEmpty_iff.mp hempty
    rw [this] at hp
    simp at hp
  · refine ⟨dev, p, hold, fun svi hs => Or.inr ?_⟩
    have hin : (dev, svi) ∈ desired.svis.toList.dropWhile noStatic := by
      have hall := ExtTreeMap.mem_toList_iff_getElem?_eq_some.mpr hs
      rw [split] at hall
      exact (List.mem_append.mp hall).resolve_left fun h => hdev (List.mem_map_of_mem h)
    have hsorted := desired.svis.ordered_keys_toList
    rw [split] at hsorted
    have hhead := List.head?_dropWhile_not noStatic desired.svis.toList
    cases hafter : desired.svis.toList.dropWhile noStatic with
    | nil => simp [hafter] at hin
    | cons m rest =>
      rw [hafter] at hin hsorted hhead
      simp only [List.head?_cons] at hhead
      refine ⟨m.1, m.2, ?_, ?_, ?_⟩
      · rw [← ExtTreeMap.mem_toList_iff_getElem?_eq_some, split, hafter]
        simp
      · by_contra hno
        have hempty : m.2.addresses = ∅ := ExtTreeSet.eq_empty_iff_forall_not_mem.mpr fun q hq =>
          hno ⟨q, hq⟩
        simp [noStatic, hempty] at hhead
      · rcases List.mem_cons.mp hin with heq | hrest
        · rw [← heq]
        · have hlt := (List.pairwise_cons.mp (List.pairwise_append.mp hsorted).2.1).1 _ hrest
          exact (compare_lt_iff_lt.mp hlt).le

theorem FirstHalf.throughout_of_kept (kept : AddressKept desired s)
    (static : HasStaticAddress desired) : Throughout fakeApply Managed
      (planBridgeSection desired s ++ planDeviceSection desired s) s₀ := by
  obtain ⟨dev, p, hold, hwait⟩ := half.kept_iff.mp kept
  have managed : Managed t := ⟨dev, p, hold⟩
  rw [throughout_append_ok half.run]
  refine ⟨half.throughout managed, ?_⟩
  have hentries : Throughout fakeApply Managed (planEntries desired s) t :=
    planEntries_throughout half.ready managed
  rw [planDeviceSection_eq]
  by_cases stale : StaleDefault desired s
  · obtain ⟨e, u, hrefused⟩ := planEntries_refused half stale
    rw [throughout_append_error hrefused]
    exact hentries
  obtain ⟨w, removed', hrun, done⟩ := half.second_half stale
  rw [planDeviceSection_eq] at hrun
  obtain ⟨u, hfirst, hrest⟩ := runAll_append_inv _ _ hrun
  obtain ⟨v, hsvis, hleft⟩ := runAll_append_inv _ _ hrest
  rw [throughout_append_ok hfirst, throughout_append_ok hsvis]
  have hon : ∀ op ∈ planEntries desired s, op.onDevice = true :=
    fun op hop => Op.onDevice_of_isQuiet (planEntries_quiet op hop)
  have hlast : Managed w := by
    obtain ⟨name, svi, q, hs, hq⟩ := static
    exact ⟨name, q, (done.holds_svi hs q).mpr hq⟩
  refine ⟨hentries, ?_, leftovers_throughout hlast hleft⟩
  refine sviBlocks_throughout desired.svis.toList desired.svis.nodup_fst
    (ready_run hon half.ready hfirst) (fun e he q hq => ?_) hsvis fun before after x split hbefore => ?_
  · -- An SVI that has an address before its turn is one that stays.
    have hs : desired.svis[e.1]? = some e.2 := ExtTreeMap.mem_toList_iff_getElem?_eq_some.mp he
    have hqt : Holds t e.1 q := (holds_run_iff hon
      (fun op hop => Op.readdresses_of_isQuiet (planEntries_quiet op hop) e.1)
      half.ready hfirst).mpr hq
    obtain ⟨hp, ⟨hbr, -⟩ | ⟨l, hl, hdsa⟩ | ⟨hfresh, hex⟩⟩ := (half.holds_iff e.1 q).mp hqt
    · exact absurd ((BTreeMap.mem_iff _ _).mpr ⟨e.2, hbr ▸ hs⟩) half.start.bridge
    · rw [not_svi_of_isDsa half.start.foreign hl hdsa] at hs
      cases hs
    · have hc : (existingSvis desired s (planBridge s).2).contains e.1 = true := by
        simpa [hfresh] using hex
      rw [presentAddresses, hc, if_pos rfl]
      exact hp
  · have hsplit : runAll fakeApply (planEntries desired s ++ before.flatMap (sviBlock desired s)) t =
        (.ok (), x) := by rw [runAll_append_ok hfirst, hbefore]
    have hremain : runAll fakeApply (after.flatMap (sviBlock desired s) ++
        planLeftovers s (planBridge s).2) x = (.ok (), w) := by
      have hall : planSvis desired s (planBridge s).2 =
          before.flatMap (sviBlock desired s) ++ after.flatMap (sviBlock desired s) := by
        rw [← List.flatMap_append, ← split]
        rfl
      rw [hall, runAll_append_ok hbefore] at hsvis
      rw [runAll_append_ok hsvis, hleft]
    refine (managed_between done half.ready split hsplit hremain).mpr ?_
    by_cases hdev : dev ∈ before.map Prod.fst
    · obtain ⟨e, he, rfl⟩ := List.mem_map.mp hdev
      have hs : desired.svis[e.1]? = some e.2 := by
        rw [← ExtTreeMap.mem_toList_iff_getElem?_eq_some, split]
        exact List.mem_append_left _ he
      obtain ⟨first, svi', hs', hq, hle⟩ := (hwait e.2 hs).resolve_left stale
      exact Or.inl ⟨(first, svi'), visited_of_le split hs' hdev hle, hq⟩
    · exact Or.inr ⟨dev, p, hdev, hold⟩

omit half in
/-- Managing is a matter of kinds and addresses, whichever links are up. -/
theorem managed_of_lowered {u u' : ActualState} (h : lowered u = lowered u') (managed : Managed u) :
    Managed u' := by
  obtain ⟨dev, p, howns, hp⟩ := managed
  refine ⟨dev, p, howns.imp id ?_, ?_⟩
  · rintro ⟨l, hl, hkind⟩
    have heq : u'.links[dev]?.map Link.kind = some l.kind := by
      rw [← lowered_kind, ← h, lowered_kind, hl, Option.map_some]
    obtain ⟨l', hl', hk⟩ := Option.map_eq_some_iff.mp heq
    exact ⟨l', hl', by rwa [hk]⟩
  · have haddr : (lowered u).addresses = (lowered u').addresses := by rw [h]
    have hp' : p ∈ (lowered u).addresses.getD dev ∅ := hp
    rw [haddr] at hp'
    exact hp'

theorem FirstHalf.throughout_iff (ops : List Op) :
    Throughout fakeApply Managed ops s ↔ Throughout fakeApply Managed ops s₀ := by
  have hlow : lowered s₀ = lowered s := by
    have hsetUps : ∀ op ∈ s.platformOps, ∃ name up, op = .setUp name up := by
      intro op hop
      obtain ⟨name, -, rfl⟩ := List.mem_map.mp hop
      exact ⟨name, true, rfl⟩
    have hplatform := setUps_lowered hsetUps s
    rw [half.platform] at hplatform
    exact hplatform
  refine forall_congr' fun pre => imp_congr_right fun _ => ?_
  have hrun := (runAll_lowered pre hlow).2
  exact ⟨managed_of_lowered hrun.symm, managed_of_lowered hrun⟩

end Plan

/-- A plan for an accepted configuration with a static address keeps the switch
reachable throughout exactly under `AddressKept`. -/
theorem plan_keeps_address_iff (config : Config) (switchPorts : BTreeSet String)
    (desired : DesiredState) (s : ActualState) (ops : List Op)
    (accepted : desiredState config switchPorts = .ok desired) (wf : WellFormed s)
    (planned : plan desired s = .ok ops) (static : HasStaticAddress desired) :
    (∀ pre, pre <+: ops → Managed (runAll fakeApply pre s).2) ↔ AddressKept desired s := by
  obtain ⟨hnone, rfl⟩ := (plan_eq_ok desired s).mp planned
  have foreign : NoForeign desired s := (takenSviName_eq_none desired s).mp hnone
  obtain ⟨s₀, t, removed, half⟩ := firstHalf_run (roundStart_of_accepted accepted wf foreign)
  rw [← Throughout, half.throughout_iff]
  exact ⟨half.kept_of_throughout, fun kept => half.throughout_of_kept kept static⟩

/-- One SVI on VLAN 10 with a static address. -/
def staticConfig (name ip : String) : Config where
  interfaces := some { interface :=
    [{ name
       config := { ifType := some "iana-if-type:l3ipvlan" }
       routedVlan := some
         { config := { vlan := some (.number 10) }
           ipv4 := some { addresses := { address :=
             [{ ip, config := { prefixLength := some 24 } }] } } } }] }
  vlans := some { vlan := [{ vlanId := some 10 }] }

def staticState (name : String) (bits : UInt32) : DesiredState where
  vlans := BTreeMap.collect [(10, ⟨none, true⟩)]
  svis := BTreeMap.collect [(name, ⟨true, 10, ExtTreeSet.ofList [⟨⟨bits⟩, 24⟩] compare, false⟩)]

/-- The switch is managed at 192.168.1.1 on the VLAN link `vlan10`. -/
def managedSwitch : ActualState where
  links := BTreeMap.collect [("br-lan", ⟨.bridge ⟨true, 0, true, .off⟩, true, none⟩),
    ("vlan10", ⟨.vlan "br-lan" 10, true, none⟩)]
  bridgeVlans := BTreeMap.collect [("br-lan", BTreeMap.collect [(10, tagged)])]
  addresses := BTreeMap.collect
    [("vlan10", ExtTreeSet.ofList [⟨⟨0xC0A80101⟩, 24⟩] compare)]

/-- The address changes on the same SVI: the new one comes before the old one goes. -/
theorem plan_keeps_address_iff_changed :
    desiredState (staticConfig "vlan10" "192.168.1.2") ∅ = .ok (staticState "vlan10" 0xC0A80102) ∧
      plan (staticState "vlan10" 0xC0A80102) managedSwitch =
        .ok [.addAddress "vlan10" ⟨⟨0xC0A80102⟩, 24⟩, .delAddress "vlan10" ⟨⟨0xC0A80101⟩, 24⟩] ∧
      ∀ pre, pre <+: [.addAddress "vlan10" ⟨⟨0xC0A80102⟩, 24⟩,
        .delAddress "vlan10" ⟨⟨0xC0A80101⟩, 24⟩] →
        Managed (runAll fakeApply pre managedSwitch).2 := by
  have accepted : desiredState (staticConfig "vlan10" "192.168.1.2") ∅ =
      .ok (staticState "vlan10" 0xC0A80102) := by decide +kernel
  have planned : plan (staticState "vlan10" 0xC0A80102) managedSwitch =
      .ok [.addAddress "vlan10" ⟨⟨0xC0A80102⟩, 24⟩, .delAddress "vlan10" ⟨⟨0xC0A80101⟩, 24⟩] := by
    decide +kernel
  have wanted : (staticState "vlan10" 0xC0A80102).svis["vlan10"]? =
      some ⟨true, 10, ExtTreeSet.ofList [⟨⟨0xC0A80102⟩, 24⟩] compare, false⟩ := by decide +kernel
  refine ⟨accepted, planned, (plan_keeps_address_iff _ _ _ managedSwitch _ accepted
    (wellFormed_of_check (by decide +kernel)) planned
    ⟨"vlan10", _, ⟨⟨0xC0A80102⟩, 24⟩, wanted, by decide +kernel⟩).mpr ?_⟩
  exact .svi "vlan10" _ true none ⟨⟨0xC0A80101⟩, 24⟩ (by decide +kernel) wanted (by decide +kernel)
    (by decide +kernel) (Or.inr ⟨"vlan10", _, wanted, ⟨⟨⟨0xC0A80102⟩, 24⟩, by decide +kernel⟩, le_rfl⟩)

/-- The SVI gets another name: its link is deleted, with the only address, before the
new one is created. -/
theorem renamed_svi_unmanaged :
    desiredState (staticConfig "mgmt" "192.168.1.1") ∅ = .ok (staticState "mgmt" 0xC0A80101) ∧
      WellFormed managedSwitch ∧ Managed managedSwitch ∧
      HasStaticAddress (staticState "mgmt" 0xC0A80101) ∧
      plan (staticState "mgmt" 0xC0A80101) managedSwitch =
        .ok [.deleteLink "vlan10", .createVlan "mgmt" "br-lan" 10,
          .addAddress "mgmt" ⟨⟨0xC0A80101⟩, 24⟩, .setUp "mgmt" true] ∧
      (runAll fakeApply [.deleteLink "vlan10"] managedSwitch).1 = .ok () ∧
      ¬ Managed (runAll fakeApply [.deleteLink "vlan10"] managedSwitch).2 := by
  refine ⟨by decide +kernel, wellFormed_of_check (by decide +kernel), ?_, ?_, by decide +kernel,
    by decide +kernel, ?_⟩
  · exact ⟨"vlan10", ⟨⟨0xC0A80101⟩, 24⟩, Or.inr ⟨⟨.vlan "br-lan" 10, true, none⟩, by decide +kernel,
      Or.inr rfl⟩, by decide +kernel⟩
  · exact ⟨"mgmt", ⟨true, 10, ExtTreeSet.ofList [⟨⟨0xC0A80101⟩, 24⟩] compare, false⟩,
      ⟨⟨0xC0A80101⟩, 24⟩, by decide +kernel, by decide +kernel⟩
  · have hempty : (runAll fakeApply [.deleteLink "vlan10"] managedSwitch).2.addresses = ∅ := by
      decide +kernel
    rintro ⟨dev, p, -, hp⟩
    rw [hempty] at hp
    simp at hp

end ClixonSwitch.Guarantees
