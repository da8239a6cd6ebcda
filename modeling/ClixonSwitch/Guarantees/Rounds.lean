import ClixonSwitch.Guarantees.DeviceSection

/-!
# One round of `reconcile` on the kernel model

A round on a coherent state without foreign links fails exactly if it has a stale
default entry. Otherwise it leaves a coherent state with a configured bridge, and
the desired state itself unless ConfigureBridge dropped entries in the round.
-/
namespace ClixonSwitch.Guarantees
open Lib Source.SwitchModel Source.SwitchNet

/-- ConfigureBridge and a deletion of the same round meet on one entry. -/
def StaleDefault (desired : DesiredState) (s : ActualState) : Prop := ∃ dev, StaleAt desired s dev

/-- Links that the planner changes or may create. -/
def Owned (desired : DesiredState) (s : ActualState) (name : String) : Prop :=
  name = bridgeName ∨ name ∈ s.switchPorts ∨ name ∈ desired.svis ∨
    ∃ link, s.links[name]? = some link ∧ link.kind.isBridgeVlan = true

/-- `lo` and the conduits are none of them. -/
def PlatformFree (desired : DesiredState) (s : ActualState) : Prop :=
  ∀ name, isPlatform s name → ¬ Owned desired s name

/-- What a round starts from. -/
structure RoundStart (desired : DesiredState) (s : ActualState) : Prop where
  coherent : Coherent s
  safe : MstSafe s
  foreign : NoForeign desired s
  bridge : bridgeName ∉ desired.svis

theorem plan_of_noForeign {desired : DesiredState} {s : ActualState} (h : NoForeign desired s) :
    plan desired s = .ok (planBridgeSection desired s ++ planDeviceSection desired s) := by
  have hnone : takenSviName desired s = none := (takenSviName_eq_none desired s).mpr h
  simp [plan, hnone]

/-- The operations of the round that `plan` gives on `s`. -/
def opsOfRound (desired : DesiredState) (s : ActualState) : List Op :=
  s.platformOps ++ (planBridgeSection desired s ++ planDeviceSection desired s)

/-- What a round that succeeds leaves of one device. -/
inductive DeviceEnd (desired : DesiredState) (s : ActualState) (removed : List String)
    (dev : String) (d : Device) : Prop where
  | bridge (name : dev = bridgeName) (link : d.link = (bridgeDevice desired s).link)
    (entries : droppedPvid s = 0 → ∀ vid : UInt16, d.vlans[vid]? = (selfVlans desired)[vid]?)
    (unaddressed : ∀ p, p ∉ d.addresses) (unleased : ∀ p, p ∉ d.leases)
  | svi (svi : Svi) (up : Bool) (master : Option String) (name : dev ≠ bridgeName)
    (wanted : desired.svis[dev]? = some svi)
    (link : d.link = some ⟨.vlan bridgeName svi.vlan, up, master⟩)
    (state : dev ∉ s.platformNames → up = svi.enabled)
    (addresses : ∀ p, p ∈ d.addresses ↔ p ∈ svi.addresses)
    (leases : ∀ p, p ∈ d.leases → svi.dhcpClient = true ∧ p ∉ svi.addresses)
  | port (l : Link) (port : Port) (up : Bool) (old : s.links[dev]? = some l)
    (dsa : l.kind.isDsa = true) (wanted : desired.ports[dev]? = some port)
    (link : d.link = some ⟨l.kind, up, some bridgeName⟩)
    (state : dev ∉ s.platformNames → up = port.enabled)
    (entries : droppedPvid s = 0 → ∀ vid : UInt16, d.vlans[vid]? = portEntry port vid)
    (unaddressed : ∀ p, p ∉ d.addresses) (unleased : ∀ p, p ∉ d.leases)
  | otherPort (l : Link) (up : Bool) (old : s.links[dev]? = some l) (dsa : l.kind.isDsa = true)
    (unwanted : dev ∉ desired.ports) (link : d.link = some ⟨l.kind, up, none⟩)
    (state : dev ∉ s.platformNames → up = false)
    (unaddressed : ∀ p, p ∉ d.addresses) (unleased : ∀ p, p ∉ d.leases)
  | untouched (name : dev ≠ bridgeName) (noSvi : dev ∉ desired.svis) (noPort : dev ∉ s.switchPorts)
    (same : d = bridgeView desired s removed dev)

/-- All of it, with what the deletions took. -/
structure RoundEnd (desired : DesiredState) (s u : ActualState) (removed : List String) : Prop where
  start : RoundStart desired s
  cascade : Cascade s (bridgeRoots desired s) removed
  devices : ∀ dev, DeviceEnd desired s removed dev (device u dev)
  coherent : Coherent u

section Round
variable {desired : DesiredState} {s : ActualState}

theorem bridgeSection_isPreparing :
    ∀ op ∈ s.platformOps ++ planBridgeSection desired s, Op.isPreparing op = true := by
  intro op hop
  rcases List.mem_append.mp hop with hop | hop
  · obtain ⟨name, -, rfl⟩ := List.mem_map.mp hop
    rfl
  · cases bridgeOp_of_mem hop <;> rfl

/-- A device refuses its operations exactly if it has a stale default entry. -/
theorem device_run (start : RoundStart desired s) {removed : List String}
    (cascade : Cascade s (bridgeRoots desired s) removed) (dev : String) :
    (StaleAt desired s dev → runLocal act (targeting Op.target dev (planDeviceSection desired s))
      (bridgeView desired s removed dev) = none) ∧
    (¬ StaleAt desired s dev → ∃ d, runLocal act
        (targeting Op.target dev (planDeviceSection desired s)) (bridgeView desired s removed dev) =
        some d ∧ DeviceEnd desired s removed dev d) := by
  by_cases hbr : dev = bridgeName
  · subst hbr
    obtain ⟨hfail, hok⟩ := @bridge_run desired s removed start.coherent start.bridge
    refine ⟨hfail, fun hno => ?_⟩
    obtain ⟨d, hd, hlink, hentries, haddr, hlease⟩ := hok hno
    exact ⟨d, hd, .bridge rfl hlink hentries haddr hlease⟩
  by_cases hsvi : dev ∈ desired.svis
  · obtain ⟨svi, hs⟩ := (BTreeMap.mem_iff _ _).mp hsvi
    refine ⟨fun hstale => ?_, fun _ => ?_⟩
    · obtain ⟨-, -, -, ⟨hsp, -⟩ | ⟨heq, -⟩⟩ := hstale
      · obtain ⟨l, hl, hdsa⟩ := (mem_switchPorts s dev).mp hsp
        rw [not_svi_of_isDsa start.foreign hl hdsa] at hs
        cases hs
      · exact absurd heq hbr
    · obtain ⟨d, up, master, hd, hlink, hup, haddr, hlease⟩ :=
        svi_run start.coherent start.foreign cascade hs hbr
      exact ⟨d, hd, .svi svi up master hbr hs hlink hup haddr hlease⟩
  by_cases hsp : dev ∈ s.switchPorts
  · obtain ⟨l, hl, hdsa⟩ := (mem_switchPorts s dev).mp hsp
    cases hp : desired.ports[dev]? with
    | some port =>
      obtain ⟨hfail, hok⟩ := configuredPort_run start.coherent start.foreign cascade hl hdsa hp
      refine ⟨hfail, fun hno => ?_⟩
      obtain ⟨d, up, hd, hlink, hup, hentries, haddr, hlease⟩ := hok hno
      exact ⟨d, hd, .port l port up hl hdsa hp hlink hup hentries haddr hlease⟩
    | none =>
      have hno := (BTreeMap.not_mem_iff desired.ports dev).mpr hp
      refine ⟨fun hstale => ?_, fun _ => ?_⟩
      · obtain ⟨-, -, -, ⟨-, port, hport, -⟩ | ⟨heq, -⟩⟩ := hstale
        · rw [hp] at hport
          cases hport
        · exact absurd heq hbr
      · obtain ⟨d, up, hd, hlink, hup, haddr, hlease⟩ :=
          otherPort_run start.coherent start.foreign cascade hl hdsa hno
        exact ⟨d, hd, .otherPort l up hl hdsa hno hlink hup haddr hlease⟩
  · refine ⟨fun hstale => ?_, fun _ => ?_⟩
    · obtain ⟨-, -, -, ⟨hin, -⟩ | ⟨heq, -⟩⟩ := hstale
      · exact absurd hin hsp
      · exact absurd heq hbr
    · exact ⟨_, by rw [targeting_other hbr hsvi hsp]; rfl, .untouched hbr hsvi hsp rfl⟩

/-- A round fails exactly if it has a stale default entry. -/
theorem round_run (start : RoundStart desired s) :
    (StaleDefault desired s → ∃ e u, runAll fakeApply (opsOfRound desired s) s = (.error e, u)) ∧
    (¬ StaleDefault desired s → ∃ u removed, runAll fakeApply (opsOfRound desired s) s = (.ok (), u) ∧
      RoundEnd desired s u removed) := by
  obtain ⟨removed, t, hfirst, cascade, hview⟩ := bridgeSection_run desired start.coherent start.safe
  have hready : BridgeReady t := by
    have hbr : t.links[bridgeName]? = (bridgeDevice desired s).link := by
      rw [← device_link, hview bridgeName, bridgeView, if_pos rfl]
    exact ⟨_, _, _, hbr, rfl⟩
  have hcoherent : Coherent t := runAll_ok_invariant Coherent
    (fun op hop a b ha h => ha.preparing_step (bridgeSection_isPreparing op hop) h)
    start.coherent hfirst
  have hops : runAll fakeApply (opsOfRound desired s) s =
      runAll fakeApply (planDeviceSection desired s) t := by
    rw [opsOfRound, ← List.append_assoc, runAll_append_ok hfirst]
  rw [hops]
  rcases fakeApply_local.runAll _ t (planDeviceSection_isLocal desired s) hready with
    ⟨u, hrun, -, hdevices⟩ | ⟨e, u, hrun, dev, hnone⟩
  · refine ⟨?_, fun hno => ⟨u, removed, hrun, start, cascade, fun dev => ?_, ?_⟩⟩
    · rintro ⟨dev, hstale⟩
      have hd := (device_run start cascade dev).1 hstale
      rw [← hview, hdevices dev] at hd
      cases hd
    · obtain ⟨d, hd, hend⟩ := (device_run start cascade dev).2 fun h => hno ⟨dev, h⟩
      rw [← hview, hdevices dev] at hd
      exact Option.some.inj hd ▸ hend
    · exact (runAll_ok_invariant (fun a => Coherent a ∧ BridgeReady a)
        (fun op hop a b ha h => by
          have hlocal := planDeviceSection_isLocal desired s op hop
          refine ⟨ha.1.ready_step ha.2 hlocal h, ?_⟩
          cases hact : act op (device a op.target) with
          | none =>
            obtain ⟨e, c, hc⟩ := fakeApply_local.refuses op a hlocal ha.2 hact
            rw [hc] at h
            cases h
          | some d =>
            obtain ⟨c, hc, hr, -⟩ := fakeApply_local.accepts op a d hlocal ha.2 hact
            rw [hc] at h
            exact (Prod.mk.inj h).2 ▸ hr) ⟨hcoherent, hready⟩ hrun).1
  · have hstale : StaleAt desired s dev := by
      by_contra hno
      obtain ⟨d, hd, -⟩ := (device_run start cascade dev).2 hno
      rw [← hview, hnone] at hd
      cases hd
    exact ⟨fun _ => ⟨e, u, hrun⟩, fun hno => absurd ⟨dev, hstale⟩ hno⟩

end Round

section After
variable {desired : DesiredState} {s u : ActualState} {removed : List String}

variable (done : RoundEnd desired s u removed)
include done

/-- The bridge has its settings and its entries, and no addresses. -/
theorem RoundEnd.bridge_end :
    (device u bridgeName).link =
      some ⟨.bridge ⟨true, 0, true, stpWanted desired⟩, true, bridgeMaster s⟩ ∧
    (droppedPvid s = 0 → ∀ vid : UInt16,
      (device u bridgeName).vlans[vid]? = (selfVlans desired)[vid]?) ∧
    (∀ p, p ∉ (device u bridgeName).addresses) ∧ ∀ p, p ∉ (device u bridgeName).leases := by
  cases done.devices bridgeName with
  | bridge name link entries unaddressed unleased => exact ⟨link, entries, unaddressed, unleased⟩
  | svi svi up master name wanted link state addresses leases => exact absurd rfl name
  | port l port up old dsa wanted link state entries unaddressed unleased =>
    exact absurd rfl (ne_bridge_of_isDsa done.start.coherent old dsa)
  | otherPort l up old dsa unwanted link state unaddressed unleased =>
    exact absurd rfl (ne_bridge_of_isDsa done.start.coherent old dsa)
  | untouched name noSvi noPort same => exact absurd rfl name

theorem RoundEnd.bridgeLink : u.links[bridgeName]? =
      some ⟨.bridge ⟨true, 0, true, stpWanted desired⟩, true, bridgeMaster s⟩ := by
  rw [← device_link]
  exact done.bridge_end.1

omit done in
/-- A link that the round does not touch was there before. -/
theorem bridgeView_survivor (coherent : Coherent s)
    (cascade : Cascade s (bridgeRoots desired s) removed) {dev : String} {l' : Link}
    (hdev : dev ≠ bridgeName) (hl' : (bridgeView desired s removed dev).link = some l') :
    dev ∉ removed ∧ ∃ l, s.links[dev]? = some l ∧ l'.kind = l.kind ∧
      (dev ∈ s.platformNames → l'.up = true) := by
  have hkept : dev ∉ removed := by
    intro hin
    rw [bridgeView, if_neg hdev, Device.without, if_pos hin] at hl'
    cases hl'
  cases hl : s.links[dev]? with
  | none =>
    have hsome := congrArg Option.isSome hl'
    rw [bridgeView, if_neg hdev, Device.without_isSome, dropDefault_link, platformView_isSome,
      device_link, hl] at hsome
    simp at hsome
  | some l =>
    obtain ⟨up, master, vlans, hview, -, hup, -⟩ := bridgeView_kept coherent cascade hl hdev hkept
    rw [hview] at hl'
    cases hl'
    exact ⟨hkept, l, rfl, rfl, hup⟩

/-- The switch ports are the same, with the same conduits. -/
theorem RoundEnd.dsa_iff (dev : String) (kind : LinkKind) (hk : kind.isDsa = true) :
    (∃ l, u.links[dev]? = some l ∧ l.kind = kind) ↔ ∃ l, s.links[dev]? = some l ∧ l.kind = kind := by
  have hsame : ∀ (l l' : Link), s.links[dev]? = some l → u.links[dev]? = some l' →
      l'.kind = l.kind → ((∃ l, u.links[dev]? = some l ∧ l.kind = kind) ↔
        ∃ l, s.links[dev]? = some l ∧ l.kind = kind) := by
    intro l l' hl hl' heq
    simp [hl, hl', heq]
  have hneither : (∀ l, u.links[dev]? = some l → l.kind.isDsa = false) →
      (∀ l, s.links[dev]? = some l → l.kind.isDsa = false) →
      ((∃ l, u.links[dev]? = some l ∧ l.kind = kind) ↔
        ∃ l, s.links[dev]? = some l ∧ l.kind = kind) := by
    intro hu hs
    constructor
    · rintro ⟨l, hl, rfl⟩
      rw [hu l hl] at hk
      cases hk
    · rintro ⟨l, hl, rfl⟩
      rw [hs l hl] at hk
      cases hk
  cases done.devices dev with
  | bridge name link entries unaddressed unleased =>
    subst name
    refine hneither (fun l hl => ?_) fun l hl => ?_
    · rw [done.bridgeLink] at hl
      cases hl
      rfl
    · by_contra hdsa
      exact ne_bridge_of_isDsa done.start.coherent hl (by simpa using hdsa) rfl
  | svi svi up master name wanted link state addresses leases =>
    refine hneither (fun l hl => ?_) fun l hl => ?_
    · rw [← device_link, link] at hl
      cases hl
      rfl
    · by_contra hdsa
      rw [not_svi_of_isDsa done.start.foreign hl (by simpa using hdsa)] at wanted
      cases wanted
  | port l port up old dsa wanted link state entries unaddressed unleased =>
    exact hsame l _ old link rfl
  | otherPort l up old dsa unwanted link state unaddressed unleased =>
    exact hsame l _ old link rfl
  | untouched name noSvi noPort same =>
    have hs : ∀ l, s.links[dev]? = some l → l.kind.isDsa = false := by
      intro l hl
      by_contra hdsa
      exact noPort ((mem_switchPorts s dev).mpr ⟨l, hl, by simpa using hdsa⟩)
    refine hneither (fun l' hl' => ?_) hs
    rw [← device_link, same] at hl'
    obtain ⟨-, l, hl, heq, -⟩ := bridgeView_survivor done.start.coherent done.cascade name hl'
    rw [heq, hs l hl]

theorem RoundEnd.ports_iff (dev : String) : dev ∈ u.switchPorts ↔ dev ∈ s.switchPorts := by
  have hkind : ∀ a : ActualState, dev ∈ a.switchPorts ↔
      ∃ kind, LinkKind.isDsa kind = true ∧ ∃ l, a.links[dev]? = some l ∧ l.kind = kind := by
    intro a
    rw [mem_switchPorts]
    constructor
    · rintro ⟨l, hl, hdsa⟩
      exact ⟨l.kind, hdsa, l, hl, rfl⟩
    · rintro ⟨kind, hdsa, l, hl, rfl⟩
      exact ⟨l, hl, hdsa⟩
  rw [hkind, hkind]
  exact exists_congr fun kind => and_congr_right fun hk => done.dsa_iff dev kind hk

theorem RoundEnd.isPlatform_iff (name : String) : isPlatform u name ↔ isPlatform s name := by
  unfold isPlatform
  exact or_congr Iff.rfl (exists_congr fun port => done.dsa_iff port _ rfl)

/-- A VLAN link that is on the bridge after the round is wanted there. -/
theorem RoundEnd.bridgeVlan_wanted {dev : String} {l : Link}
    (hl : u.links[dev]? = some l) (hv : l.kind.isBridgeVlan = true) : dev ∈ desired.svis := by
  cases done.devices dev with
  | bridge name link entries unaddressed unleased =>
    subst name
    rw [done.bridgeLink] at hl
    cases hl
    cases hv
  | svi svi up master name wanted link state addresses leases =>
    exact (BTreeMap.mem_iff _ _).mpr ⟨svi, wanted⟩
  | port l₀ port up old dsa wanted link state entries unaddressed unleased =>
    rw [← device_link, link] at hl
    cases hl
    cases hk : l₀.kind <;> simp_all [LinkKind.isDsa, LinkKind.isBridgeVlan]
  | otherPort l₀ up old dsa unwanted link state unaddressed unleased =>
    rw [← device_link, link] at hl
    cases hl
    cases hk : l₀.kind <;> simp_all [LinkKind.isDsa, LinkKind.isBridgeVlan]
  | untouched name noSvi noPort same =>
    rw [← device_link, same] at hl
    obtain ⟨hkept, l₀, hl₀, heq, -⟩ :=
      bridgeView_survivor done.start.coherent done.cascade name hl
    rw [heq] at hv
    exact absurd (bridgeVlan_removed done.start.coherent done.cascade hl₀ hv
      fun _ => mt (svi_of_existing desired s) noSvi) hkept

/-- The SVIs are there, with their addresses. -/
theorem RoundEnd.svi_end {name : String} {svi : Svi} (hs : desired.svis[name]? = some svi) :
    ∃ up master, u.links[name]? = some ⟨.vlan bridgeName svi.vlan, up, master⟩ ∧
      (name ∉ s.platformNames → up = svi.enabled) ∧
      (∀ p, p ∈ (device u name).addresses ↔ p ∈ svi.addresses) ∧
      ∀ p, p ∈ (device u name).leases → svi.dhcpClient = true ∧ p ∉ svi.addresses := by
  have hin : name ∈ desired.svis := (BTreeMap.mem_iff _ _).mpr ⟨svi, hs⟩
  cases done.devices name with
  | bridge name link entries unaddressed unleased =>
    exact absurd (name ▸ hin) done.start.bridge
  | svi svi' up master name wanted link state addresses leases =>
    rw [hs] at wanted
    cases wanted
    exact ⟨up, master, link, state, addresses, leases⟩
  | port l port up old dsa wanted link state entries unaddressed unleased =>
    rw [not_svi_of_isDsa done.start.foreign old dsa] at hs
    cases hs
  | otherPort l up old dsa unwanted link state unaddressed unleased =>
    rw [not_svi_of_isDsa done.start.foreign old dsa] at hs
    cases hs
  | untouched name noSvi noPort same => exact absurd hin noSvi

/-- The switch ports are as configured, or released. -/
theorem RoundEnd.port_end {name : String} {link : Link}
    (hl : u.links[name]? = some link) (hdsa : link.kind.isDsa = true) :
    (∀ p, p ∉ (device u name).addresses) ∧ (∀ p, p ∉ (device u name).leases) ∧
    (∀ port, desired.ports[name]? = some port → link.master = some bridgeName ∧
      (name ∉ s.platformNames → link.up = port.enabled) ∧
      (droppedPvid s = 0 → ∀ vid : UInt16, (device u name).vlans[vid]? = portEntry port vid)) ∧
    (name ∉ desired.ports → link.master = none ∧ (name ∉ s.platformNames → link.up = false)) := by
  obtain ⟨l₀, hl₀, hkind⟩ := (done.dsa_iff name link.kind hdsa).mp ⟨link, hl, rfl⟩
  have hdsa₀ : l₀.kind.isDsa = true := hkind ▸ hdsa
  cases done.devices name with
  | bridge name link entries unaddressed unleased =>
    exact absurd name (ne_bridge_of_isDsa done.start.coherent hl₀ hdsa₀)
  | svi svi up master name wanted link state addresses leases =>
    rw [not_svi_of_isDsa done.start.foreign hl₀ hdsa₀] at wanted
    cases wanted
  | port l port up old dsa wanted hlink state entries unaddressed unleased =>
    rw [← device_link, hlink] at hl
    cases hl
    refine ⟨unaddressed, unleased, fun port' hp => ?_, fun hno => ?_⟩
    · rw [wanted] at hp
      cases hp
      exact ⟨rfl, state, entries⟩
    · exact absurd ((BTreeMap.mem_iff _ _).mpr ⟨port, wanted⟩) hno
  | otherPort l up old dsa unwanted hlink state unaddressed unleased =>
    rw [← device_link, hlink] at hl
    cases hl
    refine ⟨unaddressed, unleased, fun port' hp => ?_, fun _ => ⟨rfl, state⟩⟩
    exact absurd ((BTreeMap.mem_iff _ _).mpr ⟨port', hp⟩) unwanted
  | untouched name noSvi noPort same =>
    exact absurd ((mem_switchPorts s _).mpr ⟨l₀, hl₀, hdsa₀⟩) noPort

/-- `lo` and the conduits are up, as far as the planner leaves them alone. -/
theorem RoundEnd.platform_end {name : String} {link : Link}
    (hp : name ∈ s.platformNames) (free : ¬ Owned desired s name)
    (hl : u.links[name]? = some link) : link.up = true := by
  cases done.devices name with
  | bridge name => exact absurd (Or.inl name) free
  | svi svi up master name wanted =>
    exact absurd (Or.inr (Or.inr (Or.inl ((BTreeMap.mem_iff _ _).mpr ⟨svi, wanted⟩)))) free
  | port l port up old dsa =>
    exact absurd (Or.inr (Or.inl ((mem_switchPorts s _).mpr ⟨l, old, dsa⟩))) free
  | otherPort l up old dsa =>
    exact absurd (Or.inr (Or.inl ((mem_switchPorts s _).mpr ⟨l, old, dsa⟩))) free
  | untouched name noSvi noPort same =>
    rw [← device_link, same] at hl
    obtain ⟨-, -, -, -, hup⟩ := bridgeView_survivor done.start.coherent done.cascade name hl
    exact hup hp

/-- The round leaves a state to start the next one from. -/
theorem RoundEnd.next : RoundStart desired u where
  coherent := done.coherent
  safe b up master hl hc := by
    rw [done.bridgeLink] at hl
    cases hl
    cases hc
  foreign name link hin hl := by
    obtain ⟨svi, hs⟩ := (BTreeMap.mem_iff _ _).mp hin
    obtain ⟨up, master, hlink, -⟩ := done.svi_end hs
    rw [hlink] at hl
    cases hl
    simp [LinkKind.isBridgeVlan]
  bridge := done.start.bridge

theorem RoundEnd.droppedPvid_eq : droppedPvid u = 0 := by
  simp [droppedPvid, done.bridgeLink, BridgeSettings.configured]

theorem RoundEnd.platformFree (free : PlatformFree desired s) : PlatformFree desired u := by
  intro name hp howned
  refine free name ((done.isPlatform_iff _).mp hp) ?_
  rcases howned with rfl | hport | hsvi | ⟨l, hl, hv⟩
  · exact Or.inl rfl
  · exact Or.inr (Or.inl ((done.ports_iff name).mp hport))
  · exact Or.inr (Or.inr (Or.inl hsvi))
  · exact Or.inr (Or.inr (Or.inl (done.bridgeVlan_wanted hl hv)))

/-- A round that drops no default entries ends in the desired state. -/
theorem RoundEnd.matching (free : PlatformFree desired s)
    (kept : droppedPvid s = 0) : Matches desired u := by
  have hfree : ∀ name, Owned desired s name → name ∉ s.platformNames := fun name howned hp =>
    free name ((mem_platformNames s name).mp hp) howned
  have hports : ∀ (name : String) (link : Link), u.links[name]? = some link →
      link.kind.isDsa = true → name ∉ s.platformNames := fun name link hl hdsa =>
    hfree name (Or.inr (Or.inl ((done.ports_iff name).mp
      ((mem_switchPorts u name).mpr ⟨link, hl, hdsa⟩))))
  refine ⟨⟨_, _, done.bridgeLink, rfl⟩, ?_, ?_, ?_, ?_, ?_, ?_, ?_, ?_, ?_⟩
  · intro name id up master hl
    exact done.bridgeVlan_wanted hl (by simp [LinkKind.isBridgeVlan])
  · intro name svi hs
    obtain ⟨up, master, hl, hup, -⟩ := done.svi_end hs
    rw [hup (hfree name (Or.inr (Or.inr (Or.inl ((BTreeMap.mem_iff _ _).mpr ⟨svi, hs⟩)))))] at hl
    exact ⟨master, hl⟩
  · intro name link port hl hdsa hp
    obtain ⟨-, -, hport, -⟩ := done.port_end hl hdsa
    obtain ⟨hmaster, hup, hentries⟩ := hport port hp
    exact ⟨hmaster, hup (hports name link hl hdsa), hentries kept⟩
  · intro name link hl hdsa hno
    obtain ⟨-, -, -, hother⟩ := done.port_end hl hdsa
    exact ⟨(hother hno).1, (hother hno).2 (hports name link hl hdsa)⟩
  · intro vid flags
    rw [← selfVlans_getElem?, ← done.bridge_end.2.1 kept vid]
    rfl
  · intro name svi hs
    obtain ⟨-, -, -, -, haddr, -⟩ := done.svi_end hs
    exact haddr
  · intro name svi hs hclient p hp
    obtain ⟨-, -, -, -, -, hlease⟩ := done.svi_end hs
    rw [(hlease p hp).1] at hclient
    cases hclient
  · rintro dev (rfl | hport) p
    · exact ⟨done.bridge_end.2.2.1 p, done.bridge_end.2.2.2 p⟩
    · obtain ⟨l, hl, hdsa⟩ := (mem_switchPorts u dev).mp hport
      obtain ⟨haddr, hlease, -⟩ := done.port_end hl hdsa
      exact ⟨haddr p, hlease p⟩
  · intro name link hp hl
    have hs := (done.isPlatform_iff name).mp hp
    exact done.platform_end ((mem_platformNames s name).mpr hs) (free name hs) hl

end After

end ClixonSwitch.Guarantees
