import ClixonSwitch.Guarantees.Convergence
import ClixonSwitch.Guarantees.ManagementAddress
import ClixonSwitch.Guarantees.Seen
import ClixonSwitch.Source.SwitchNet.Frames

/-!
# What commits leave behind, also those that fail

A commit may stop after any operation of any round. `Tended boot` describes the kernel
states that commits can leave behind on a switch that booted as `boot`: the bridge is
missing or configured, the links of `boot` are still there, and all others are VLAN links
on the bridge. From each of them the next round can start, with no entry left over that
would make the kernel refuse an operation.
-/
namespace ClixonSwitch.Guarantees
open Std Lib Source.SwitchModel Source.SwitchNet

/-- A switch before the first commit: no bridge, and `lo` and the conduits are links that
are no switch ports. -/
structure Booted (s : ActualState) : Prop where
  coherent : Coherent s
  noBridge : s.links[bridgeName]? = none
  platform : ∀ name, isPlatform s name → name ∈ s.links ∧ name ∉ s.switchPorts

structure Tended (boot s : ActualState) : Prop where
  coherent : Coherent s
  bridge : ∀ l : Link, s.links[bridgeName]? = some l →
    ∃ b, l.kind = .bridge b ∧ b.configured = true
  kept : ∀ (name : String) (l₀ : Link), boot.links[name]? = some l₀ →
    ∃ l : Link, s.links[name]? = some l ∧ l.kind = l₀.kind
  made : ∀ (name : String) (l : Link), s.links[name]? = some l →
    name ∈ boot.links ∨ name = bridgeName ∨ l.kind.isBridgeVlan = true

/-- What the planner does to a tended state: it neither reconfigures the bridge nor deletes
it or a link of `boot`. -/
def Tends (boot : ActualState) (op : Op) : Prop :=
  match op with
  | .configureBridge _ => False
  | .deleteLink name => name ∉ boot.links ∧ name ≠ bridgeName
  | .createBridge name => name = bridgeName
  | .setBridgeStp name _ => name = bridgeName
  | op => op.onDevice = true

section Booted
variable {boot s : ActualState}

theorem Booted.not_bridgeVlan (h : Booted boot) {name : String} {l : Link}
    (hl : boot.links[name]? = some l) : l.kind.isBridgeVlan = false := by
  rw [Bool.eq_false_iff]
  intro hvlan
  obtain ⟨kind, up, master⟩ := l
  cases kind with
  | vlan parent id =>
    obtain rfl : parent = bridgeName := by simpa [LinkKind.isBridgeVlan] using hvlan
    have hparent := h.coherent.parents name bridgeName (by simp [Device.parent, device_link, hl])
    rw [device_link, h.noBridge] at hparent
    cases hparent
  | _ => cases hvlan

theorem Booted.tended (h : Booted boot) : Tended boot boot where
  coherent := h.coherent
  bridge l hl := by
    rw [h.noBridge] at hl
    cases hl
  kept _ l hl := ⟨l, hl, rfl⟩
  made name l hl := Or.inl ((BTreeMap.mem_iff _ _).mpr ⟨l, hl⟩)

theorem Booted.ne_bridge (h : Booted boot) {name : String} (hin : name ∈ boot.links) :
    name ≠ bridgeName := by
  rintro rfl
  exact (BTreeMap.not_mem_iff _ _).mpr h.noBridge hin

theorem Tended.new_of_bridgeVlan (h : Tended boot s) (booted : Booted boot) {name : String}
    {l : Link} (hl : s.links[name]? = some l) (hvlan : l.kind.isBridgeVlan = true) :
    name ∉ boot.links := by
  intro hin
  obtain ⟨l₀, hl₀⟩ := (BTreeMap.mem_iff _ _).mp hin
  obtain ⟨l', hl', hkind⟩ := h.kept name l₀ hl₀
  rw [hl] at hl'
  cases hl'
  rw [hkind, booted.not_bridgeVlan hl₀] at hvlan
  cases hvlan

/-- A switch port has been there from the start. -/
theorem Tended.dsa_of_boot (h : Tended boot s) {name : String} {l : Link}
    (hl : s.links[name]? = some l) (hdsa : l.kind.isDsa = true) :
    ∃ l₀, boot.links[name]? = some l₀ ∧ l.kind = l₀.kind := by
  rcases h.made name l hl with hin | rfl | hvlan
  · obtain ⟨l₀, hl₀⟩ := (BTreeMap.mem_iff _ _).mp hin
    obtain ⟨l', hl', hkind⟩ := h.kept name l₀ hl₀
    rw [hl] at hl'
    cases hl'
    exact ⟨l₀, hl₀, hkind⟩
  · have hno := h.coherent.bridgeNotPort
    simp [Device.isDsa, device_link, hl, hdsa] at hno
  · obtain ⟨kind, up, master⟩ := l
    cases kind <;> simp_all [LinkKind.isBridgeVlan, LinkKind.isDsa]

end Booted

section Steps
variable {boot s s' : ActualState} {op : Op}

theorem Tended.ready (h : Tended boot s) (hbr : bridgeName ∈ s.links) : BridgeReady s := by
  obtain ⟨⟨kind, up, master⟩, hl⟩ := (BTreeMap.mem_iff _ _).mp hbr
  obtain ⟨b, rfl, hconf⟩ := h.bridge _ hl
  simp only [BridgeSettings.configured, Bool.and_eq_true, beq_iff_eq] at hconf
  exact ⟨b, up, master, hl, hconf.1.2⟩

/-- Without a bridge, nothing joins it or is made on it. -/
theorem bridge_of_createVlan {name : String} {id : UInt16}
    (hok : fakeApply (.createVlan name bridgeName id) s = (.ok (), s')) : bridgeName ∈ s.links := by
  by_contra hno
  simp only [fakeApply, (BTreeMap.contains_eq_false _ _).mpr hno] at hok
  split at hok
  · cases hok
  · simp [fail] at hok

theorem bridge_of_join {name : String}
    (hok : fakeApply (.setMaster name (some bridgeName)) s = (.ok (), s')) :
    bridgeName ∈ s.links := by
  by_contra hno
  simp [fakeApply, applySetMaster, masterPvid, (BTreeMap.not_mem_iff _ _).mp hno, fail] at hok

theorem Tended.plain_or_ready (h : Tended boot s) (hlocal : op.isLocal = true)
    (hok : fakeApply op s = (.ok (), s')) : op.isPlain = true ∨ BridgeReady s := by
  cases op with
  | createVlan name parent id =>
    obtain rfl : parent = bridgeName := by simpa [Op.isLocal] using hlocal
    exact Or.inr (h.ready (bridge_of_createVlan hok))
  | setMaster name master =>
    cases master with
    | none => exact Or.inl rfl
    | some m =>
      obtain rfl : m = bridgeName := by simpa [Op.isLocal] using hlocal
      exact Or.inr (h.ready (bridge_of_join hok))
  | configureBridge name => cases hlocal
  | deleteLink name => cases hlocal
  | _ => exact Or.inl rfl

theorem Tended.localEffect (h : Tended boot s) (hlocal : op.isLocal = true)
    (hok : fakeApply op s = (.ok (), s')) : LocalEffect op s := by
  rcases h.plain_or_ready hlocal hok with hplain | ready
  · exact localEffect_of_isPlain hplain s
  · exact localEffect_of_isLocal hlocal ready

theorem Tended.coherent_step (h : Tended boot s) (hlocal : op.isLocal = true)
    (hok : fakeApply op s = (.ok (), s')) : Coherent s' := by
  rcases h.plain_or_ready hlocal hok with hplain | ready
  · exact h.coherent.preparing_step (by cases op <;> first | exact hplain | rfl) hok
  · exact h.coherent.ready_step ready hlocal hok

/-- An operation on one device keeps the kind of its link, or makes a VLAN link on the
bridge. -/
theorem act_link_origin {d d' : Device} {l' : Link} (hop : op.onDevice = true)
    (hact : act op d = some d') (hl' : d'.link = some l') :
    (∃ l, d.link = some l ∧ l'.kind = l.kind) ∨
      ∃ name id, op = .createVlan name bridgeName id ∧ l'.kind.isBridgeVlan = true := by
  cases op with
  | createVlan name parent id =>
    obtain rfl : parent = bridgeName := by simpa [Op.onDevice, Op.isLocal] using hop
    simp only [act, Option.ite_none_left_eq_some, Option.some.injEq] at hact
    obtain ⟨-, rfl⟩ := hact
    cases hl'
    exact Or.inr ⟨name, id, rfl, by simp [newLink, LinkKind.isBridgeVlan]⟩
  | _ => exact Or.inl (act_link_back hop hact hl' (by simp))

theorem Tended.onDevice_step (h : Tended boot s) (hop : op.onDevice = true)
    (hok : fakeApply op s = (.ok (), s')) : Tended boot s' := by
  have hlocal := Op.isLocal_of_onDevice hop
  obtain ⟨d, hact, view⟩ := (h.localEffect hlocal hok).of_ok hok
  have hkeep : ∀ (name : String) (l : Link), s.links[name]? = some l →
      ∃ l' : Link, s'.links[name]? = some l' ∧ l'.kind = l.kind := by
    intro name l hl
    by_cases heq : name = op.target
    · rw [← heq] at hact
      obtain ⟨l', hl', hkind⟩ := act_kind hop hact hl
      exact ⟨l', by rw [← device_link, view name, if_pos heq, hl'], hkind⟩
    · exact ⟨l, by rw [← device_link, view name, if_neg heq, device_link, hl], rfl⟩
  have horigin : ∀ (name : String) (l' : Link), s'.links[name]? = some l' →
      (∃ l : Link, s.links[name]? = some l ∧ l'.kind = l.kind) ∨
        bridgeName ∈ s.links ∧ l'.kind.isBridgeVlan = true := by
    intro name l' hl'
    rw [← device_link, view name] at hl'
    split at hl'
    · next heq =>
      rw [← heq] at hact
      rcases act_link_origin hop hact hl' with hold | ⟨made, id, rfl, hvlan⟩
      · exact Or.inl hold
      · exact Or.inr ⟨bridge_of_createVlan hok, hvlan⟩
    · exact Or.inl ⟨l', hl', rfl⟩
  refine ⟨h.coherent_step hlocal hok, fun l' hl' => ?_, fun name l₀ hl₀ => ?_, fun name l' hl' => ?_⟩
  · have hbefore : ∃ l : Link, s.links[bridgeName]? = some l := by
      rcases horigin bridgeName l' hl' with ⟨l, hl, -⟩ | ⟨hin, -⟩
      · exact ⟨l, hl⟩
      · exact (BTreeMap.mem_iff _ _).mp hin
    obtain ⟨l, hl⟩ := hbefore
    obtain ⟨l'', hl'', hkind⟩ := hkeep bridgeName l hl
    rw [hl'] at hl''
    cases hl''
    rw [hkind]
    exact h.bridge l hl
  · obtain ⟨l, hl, hkind⟩ := h.kept name l₀ hl₀
    obtain ⟨l', hl', hkind'⟩ := hkeep name l hl
    exact ⟨l', hl', hkind'.trans hkind⟩
  · rcases horigin name l' hl' with ⟨l, hl, hkind⟩ | ⟨-, hvlan⟩
    · rw [hkind]
      exact h.made name l hl
    · exact Or.inr (Or.inr hvlan)

/-- Operations on the bridge alone. -/
theorem Tended.bridge_step (h : Tended boot s) (booted : Booted boot) (htarget : op.target = bridgeName)
    (hlocal : op.isLocal = true) (hok : fakeApply op s = (.ok (), s'))
    (hbridge : ∃ b, bridgeKind s' = some (.bridge b) ∧ b.configured = true) : Tended boot s' := by
  obtain ⟨d, -, view⟩ := (h.localEffect hlocal hok).of_ok hok
  obtain ⟨b, hb, hconf⟩ := hbridge
  obtain ⟨up, master, hlink⟩ := (bridgeKind_eq_some b).mp hb
  have hother : ∀ name, name ≠ bridgeName → s'.links[name]? = s.links[name]? := by
    intro name hne
    rw [← device_link, view name, if_neg (by rwa [htarget]), device_link]
  refine ⟨h.coherent_step hlocal hok, fun l hl => ?_, fun name l₀ hl₀ => ?_, fun name l hl => ?_⟩
  · rw [hlink] at hl
    cases hl
    exact ⟨b, rfl, hconf⟩
  · rw [hother name (booted.ne_bridge ((BTreeMap.mem_iff _ _).mpr ⟨l₀, hl₀⟩))]
    exact h.kept name l₀ hl₀
  · by_cases hbr : name = bridgeName
    · exact Or.inr (Or.inl hbr)
    · rw [hother name hbr] at hl
      exact h.made name l hl

/-- The links of `boot` and the bridge are on no VLAN link that a commit made. -/
theorem Tended.rooted (h : Tended boot s) (booted : Booted boot) :
    Rooted (fun name => name ∈ boot.links ∨ name = bridgeName) s := by
  rintro name p (hin | rfl) hparent
  · obtain ⟨l₀, hl₀⟩ := (BTreeMap.mem_iff _ _).mp hin
    obtain ⟨l, hl, hkind⟩ := h.kept name l₀ hl₀
    have hp : (device boot name).parent = some p := by
      rw [← hparent, Device.parent_eq, Device.parent_eq, device_link, device_link, hl, hl₀,
        Option.map_some, Option.map_some, hkind]
    have hsome := booted.coherent.parents name p hp
    exact Or.inl ((BTreeMap.mem_iff _ _).mpr (Option.isSome_iff_exists.mp hsome))
  · obtain ⟨⟨kind, up, master⟩, hl⟩ := Option.isSome_iff_exists.mp (Device.isSome_of_parent hparent)
    obtain ⟨b, rfl, -⟩ := h.bridge _ hl
    rw [Device.parent, hl] at hparent
    cases hparent

theorem Tended.delete_step (h : Tended boot s) (booted : Booted boot) {name : String}
    (hnew : name ∉ boot.links) (hbr : name ≠ bridgeName)
    (hok : fakeApply (.deleteLink name) s = (.ok (), s')) : Tended boot s' := by
  have spared := deleteLink_spared (h.rooted booted) (not_or.mpr ⟨hnew, hbr⟩)
  rw [hok] at spared
  obtain ⟨removed, hr, -⟩ := deleteLink_ok hok
  have hback : ∀ (dev : String) (l' : Link), s'.links[dev]? = some l' →
      ∃ l : Link, s.links[dev]? = some l ∧ l'.kind = l.kind := by
    intro dev l' hl'
    rw [← device_link, hr dev, Device.without] at hl'
    split at hl'
    · cases hl'
    · split at hl'
      · obtain ⟨l, hl, rfl⟩ := Option.map_eq_some_iff.mp hl'
        exact ⟨l, hl, rfl⟩
      · exact ⟨l', hl', rfl⟩
  refine ⟨h.coherent.preparing_step rfl hok, fun l' hl' => ?_, fun dev l₀ hl₀ => ?_,
    fun dev l' hl' => ?_⟩
  · obtain ⟨l, hl, hkind⟩ := hback bridgeName l' hl'
    rw [hkind]
    exact h.bridge l hl
  · obtain ⟨l, hl, hkind⟩ := h.kept dev l₀ hl₀
    have hsame := spared.kind dev (Or.inl ((BTreeMap.mem_iff _ _).mpr ⟨l₀, hl₀⟩))
    rw [device_link, device_link, hl] at hsame
    obtain ⟨l', hl', hkind'⟩ := Option.map_eq_some_iff.mp hsame
    exact ⟨l', hl', hkind'.trans hkind⟩
  · obtain ⟨l, hl, hkind⟩ := hback dev l' hl'
    rw [hkind]
    exact h.made dev l hl

theorem Tended.step (h : Tended boot s) (booted : Booted boot) (tends : Tends boot op)
    (hok : fakeApply op s = (.ok (), s')) : Tended boot s' := by
  cases op with
  | configureBridge name => exact tends.elim
  | deleteLink name => exact h.delete_step booted tends.1 tends.2 hok
  | createBridge name =>
    obtain rfl : name = bridgeName := tends
    refine h.bridge_step booted rfl rfl hok ⟨⟨true, 0, true, .off⟩, ?_, rfl⟩
    simp only [fakeApply] at hok
    split at hok
    · cases hok
    · cases hok
      simp [bridgeKind, applyCreateLink, newLink, freshBridgeKind]
  | setBridgeStp name on =>
    obtain rfl : name = bridgeName := tends
    obtain ⟨b, hb, hconf⟩ : ∃ b, bridgeKind s = some (.bridge b) ∧ b.configured = true := by
      cases hl : s.links[bridgeName]? with
      | none => simp [fakeApply, applySetBridgeStp, hl, fail] at hok
      | some l =>
        obtain ⟨b, hkind, hconf⟩ := h.bridge l hl
        exact ⟨b, by simp [bridgeKind, hl, hkind], hconf⟩
    exact h.bridge_step booted rfl rfl hok ⟨_, setBridgeStp_kind hb hok, hconf⟩
  | _ => exact h.onDevice_step tends hok

/-- The state with another setting for the spanning tree of a bridge. -/
def withStp (name : String) (stp : BridgeStp) (s : ActualState) : ActualState :=
  match s.links[name]? with
  | some ⟨.bridge b, up, master⟩ =>
    { s with links := s.links.insert name ⟨.bridge { b with stp }, up, master⟩ }
  | _ => s

theorem Tended.withStp (h : Tended boot s) (booted : Booted boot) (stp : BridgeStp) :
    Tended boot (withStp bridgeName stp s) := by
  unfold Guarantees.withStp
  split
  · next b up master hl =>
    have hother : ∀ name, name ≠ bridgeName →
        (s.links.insert bridgeName ⟨.bridge { b with stp }, up, master⟩)[name]? = s.links[name]? :=
      fun name hne => by
        rw [ExtTreeMap.getElem?_insert, if_neg (mt Std.compare_eq_iff_eq.mp (Ne.symm hne))]
    obtain ⟨b', hkind, hconf⟩ := h.bridge _ hl
    obtain rfl : b = b' := by injection hkind
    let link : Link := ⟨.bridge { b with stp }, up, master⟩
    have view : ∀ dev, device { s with links := s.links.insert bridgeName link } dev =
        (if dev = bridgeName then { device s dev with link := some link }
          else device s dev).dropDefault bridgeName 0 := by
      intro dev
      rw [device_dropDefault_zero, device_insert_link]
      split
      · next heq => rw [heq]
      · rfl
    have hcoherent := h.coherent.configure ((device_link s bridgeName).trans hl) view
    refine ⟨hcoherent, fun l hl' => ?_, fun name l₀ hl₀ => ?_, fun name l hl' => ?_⟩
    · rw [ExtTreeMap.getElem?_insert_self] at hl'
      cases hl'
      exact ⟨_, rfl, hconf⟩
    · rw [hother name (booted.ne_bridge ((BTreeMap.mem_iff _ _).mpr ⟨l₀, hl₀⟩))]
      exact h.kept name l₀ hl₀
    · by_cases hbr : name = bridgeName
      · exact Or.inr (Or.inl hbr)
      · rw [hother name hbr] at hl'
        exact h.made name l hl'
  · exact h

end Steps

section Rounds
variable {boot s : ActualState} {d : DesiredState}

theorem Tended.not_staleDefault (h : Tended boot s) : ¬ StaleDefault d s := by
  rintro ⟨dev, hdropped, -⟩
  obtain ⟨-, b, up, master, link, unconfigured⟩ := reconfigured_of_dropped hdropped
  obtain ⟨b', hkind, hconf⟩ := h.bridge _ link
  cases hkind
  rw [unconfigured] at hconf
  cases hconf

theorem Tended.roundStart (h : Tended boot s) (foreign : NoForeign d s)
    (hbr : bridgeName ∉ d.svis) : RoundStart d s where
  coherent := h.coherent
  safe b up master hl hno := by
    obtain ⟨b', hkind, hconf⟩ := h.bridge _ hl
    cases hkind
    rw [hno] at hconf
    cases hconf
  foreign := foreign
  bridge := hbr

/-- `lo` and the conduits are as at boot, and no commit makes an SVI of their name. -/
theorem Tended.platformFree (h : Tended boot s) (booted : Booted boot) (foreign : NoForeign d s) :
    PlatformFree d s := by
  intro name hplatform howned
  have hboot : isPlatform boot name := by
    refine hplatform.imp id ?_
    rintro ⟨port, l, hl, hkind⟩
    obtain ⟨l₀, hl₀, hsame⟩ := h.dsa_of_boot hl (by rw [hkind]; rfl)
    exact ⟨port, l₀, hl₀, by rw [← hsame, hkind]⟩
  obtain ⟨hin, hnoPort⟩ := booted.platform name hboot
  obtain ⟨l₀, hl₀⟩ := (BTreeMap.mem_iff _ _).mp hin
  obtain ⟨l, hl, hkind⟩ := h.kept name l₀ hl₀
  have hnoVlan : l.kind.isBridgeVlan = false := by rw [hkind, booted.not_bridgeVlan hl₀]
  rcases howned with hbr | hport | hsvi | ⟨l', hl', hvlan⟩
  · exact booted.ne_bridge hin hbr
  · obtain ⟨l', hl', hdsa⟩ := (mem_switchPorts s name).mp hport
    rw [hl] at hl'
    cases hl'
    exact hnoPort ((mem_switchPorts boot name).mpr ⟨l₀, hl₀, by rw [← hkind, hdsa]⟩)
  · rw [foreign name l hsvi hl] at hnoVlan
    cases hnoVlan
  · rw [hl] at hl'
    cases hl'
    rw [hvlan] at hnoVlan
    cases hnoVlan

/-- Conduits are links of `boot`, and they stay. -/
theorem Tended.linked (h : Tended boot s) (booted : Booted boot) : Linked s := by
  refine h.coherent.linked fun port l c hl hkind => ?_
  obtain ⟨l₀, hl₀, hsame⟩ := h.dsa_of_boot hl (by rw [hkind]; rfl)
  have hplatform : isPlatform boot c := Or.inr ⟨port, l₀, hl₀, by rw [← hsame, hkind]⟩
  obtain ⟨lc, hlc⟩ := (BTreeMap.mem_iff _ _).mp (booted.platform c hplatform).1
  obtain ⟨l', hl', -⟩ := h.kept c lc hlc
  exact (BTreeMap.mem_iff _ _).mpr ⟨l', hl'⟩

/-- Every operation of a round on a tended state keeps it tended. -/
theorem Tended.tends (h : Tended boot s) (booted : Booted boot) :
    ∀ op ∈ opsOfRound d s, Tends boot op := by
  intro op hop
  have hbridge : (planBridge s).1 = [] ∨ planBridge s = ([.createBridge bridgeName], true) := by
    cases bridgePlan s with
    | kept b up master link ok ops pvid => exact Or.inl (by rw [ops])
    | created link ops pvid => exact Or.inr ops
    | reconfigured b up master link unconfigured allowed ops pvid =>
      obtain ⟨b', hkind, hconf⟩ := h.bridge _ link
      cases hkind
      rw [unconfigured] at hconf
      cases hconf
    | replaced l link ops pvid =>
      obtain ⟨b, hkind, hconf⟩ := h.bridge _ link
      left
      simp [planBridge, link, hkind, hconf]
  simp only [opsOfRound, List.mem_append] at hop
  rcases hop with hop | hop | hop
  · obtain ⟨name, -, rfl⟩ := List.mem_map.mp hop
    exact rfl
  · cases bridgeOp_of_mem hop with
    | replace planned => rcases hbridge with hnil | hone <;> simp_all
    | create planned => exact rfl
    | configure planned => rcases hbridge with hnil | hone <;> simp_all
    | setUp => exact rfl
    | setStp on => exact rfl
    | stale name id up master stays link unwanted =>
      refine ⟨h.new_of_bridgeVlan booted link (by simp [LinkKind.isBridgeVlan]), ?_⟩
      rintro rfl
      obtain ⟨b, hkind, -⟩ := h.bridge _ link
      cases hkind
  · have hon := planDeviceSection_onDevice d s op hop
    cases op with
    | configureBridge name => cases hon
    | deleteLink name => cases hon
    | createBridge name => cases hon
    | setBridgeStp name on => cases hon
    | _ => exact hon

end Rounds

section Outer
variable {ω : Type} (net : NetBackend ω) (d : DesiredState)

/-- The ways one round of `reconcile` can go, with the result of the call. -/
inductive RoundStep (rounds : Nat) (applied : List Op) (w : ω) :
    Except NetError (List Op) × ω → Prop where
  | unobserved {e w₁} (observe : net.observe w = (.error e, w₁)) :
      RoundStep rounds applied w (.error e, w₁)
  | unplanned {actual w₁ e} (observe : net.observe w = (.ok actual, w₁))
      (planned : plan d actual = .error e) : RoundStep rounds applied w (.error e, w₁)
  | done {actual w₁} (observe : net.observe w = (.ok actual, w₁)) (planned : plan d actual = .ok [])
      (platform : actual.platformOps = []) : RoundStep rounds applied w (.ok applied, w₁)
  | refused {actual w₁ ops e w₂} (observe : net.observe w = (.ok actual, w₁))
      (planned : plan d actual = .ok ops)
      (run : runAll net.apply (roundOps actual ops) w₁ = (.error e, w₂)) :
      RoundStep rounds applied w (.error (opError e.1 e.2), w₂)
  | next {actual w₁ ops w₂} (observe : net.observe w = (.ok actual, w₁))
      (planned : plan d actual = .ok ops) (todo : roundOps actual ops ≠ [])
      (run : runAll net.apply (roundOps actual ops) w₁ = (.ok (), w₂)) :
      RoundStep rounds applied w
        (reconcileRounds net d rounds (applied ++ roundOps actual ops) w₂)

theorem roundStep (rounds : Nat) (applied : List Op) (w : ω) :
    RoundStep net d rounds applied w (reconcileRounds net d (rounds + 1) applied w) := by
  simp only [reconcileRounds]
  cases hobserve : net.observe w with
  | mk result w₁ =>
    cases result with
    | error e => exact .unobserved hobserve
    | ok actual =>
      cases hplan : plan d actual with
      | error e => simpa only [hplan] using RoundStep.unplanned hobserve hplan
      | ok ops =>
        simp only [hplan, applyOps_eq_runAll]
        split
        · next hempty =>
          obtain ⟨hplatform, rfl⟩ : actual.platformOps = [] ∧ ops = [] := by simpa using hempty
          exact .done hobserve hplan hplatform
        · next htodo =>
          cases hrun : runAll net.apply (actual.platformOps ++ ops) w₁ with
          | mk result w₂ =>
            cases result with
            | error e => exact .refused hobserve hplan hrun
            | ok => exact .next hobserve hplan (mt List.isEmpty_iff.mpr htodo) hrun

end Outer

section Nets
variable {ω : Type} {net : NetBackend ω} {inv : ω → Prop}

/-- What every call on the kernel keeps. -/
structure NetKeeps (net : NetBackend ω) (inv : ω → Prop) : Prop where
  observe : ∀ w, inv w → inv (net.observe w).2
  apply : ∀ op w, inv w → inv (net.apply op w).2

theorem reconcileRounds_keeps (keeps : NetKeeps net inv) (d : DesiredState) (rounds : Nat)
    (applied : List Op) {w : ω} (h : inv w) : inv (reconcileRounds net d rounds applied w).2 := by
  have hops : ∀ (ops : List Op) (w : ω), inv w → inv (runAll net.apply ops w).2 :=
    fun ops w => runAll_invariant inv fun op _ => keeps.apply op
  induction rounds generalizing applied w with
  | zero => exact h
  | succ rounds ih =>
    have hobserved := keeps.observe w h
    have hstep := roundStep net d rounds applied w
    generalize reconcileRounds net d (rounds + 1) applied w = result at hstep
    cases hstep with
    | unobserved observe => exact (by rwa [observe] at hobserved)
    | unplanned observe planned => exact (by rwa [observe] at hobserved)
    | done observe planned platform => exact (by rwa [observe] at hobserved)
    | @refused actual w₁ ops e w₂ observe planned run =>
      rw [observe] at hobserved
      have hrun := hops (roundOps actual ops) w₁ hobserved
      rwa [run] at hrun
    | @next actual w₁ ops w₂ observe planned todo run =>
      rw [observe] at hobserved
      have hrun := hops (roundOps actual ops) w₁ hobserved
      rw [run] at hrun
      exact ih _ hrun

/-- A backend that `f` maps to another is reconciled alike. -/
theorem reconcileRounds_map {ω' : Type} {net' : NetBackend ω'} (f : ω → ω')
    (observe : ∀ w, net'.observe (f w) = ((net.observe w).1, f (net.observe w).2))
    (apply : ∀ op w, net'.apply op (f w) = ((net.apply op w).1, f (net.apply op w).2))
    (d : DesiredState) (rounds : Nat) (applied : List Op) (w : ω) :
    reconcileRounds net' d rounds applied (f w) =
      ((reconcileRounds net d rounds applied w).1, f (reconcileRounds net d rounds applied w).2) := by
  have hops : ∀ (applied ops : List Op) (w : ω), applyOps net' applied ops (f w) =
      ((applyOps net applied ops w).1, f (applyOps net applied ops w).2) := by
    intro applied ops w
    induction ops generalizing applied w with
    | nil => rfl
    | cons op ops ih =>
      simp only [applyOps, apply]
      cases happly : net.apply op w with
      | mk result w' =>
        cases result with
        | ok u => exact ih _ w'
        | error e => rfl
  induction rounds generalizing applied w with
  | zero => rfl
  | succ rounds ih =>
    simp only [reconcileRounds, observe]
    cases hobserve : net.observe w with
    | mk result w₁ =>
      cases result with
      | error e => rfl
      | ok actual =>
        simp only
        cases plan d actual with
        | error e => rfl
        | ok planned =>
          simp only [hops]
          split
          · rfl
          · cases applyOps net applied (actual.platformOps ++ planned) w₁ with
            | mk result w₂ =>
              cases result with
              | error e => rfl
              | ok applied' => exact ih applied' w₂

end Nets

section Backends
variable {ω : Type} {net : NetBackend ω} {kernel : ω → ActualState} {boot : ActualState}
  {d : DesiredState} {w : ω}

/-- What refusing an operation leaves of a state: no change, or for an attempt to change the
spanning tree of a bridge any of its settings. -/
def Refused (op : Op) (s s' : ActualState) : Prop :=
  s' = s ∨ ∃ name on stp, op = .setBridgeStp name on ∧ s' = withStp name stp s

/-- A backend on the kernel model that may fail to observe it and may refuse operations. -/
structure ModelNet (net : NetBackend ω) (kernel : ω → ActualState) : Prop where
  observe : ∀ w, kernel (net.observe w).2 = kernel w
  observed : ∀ w a, (net.observe w).1 = .ok a → Shows (kernel w) a
  apply : ∀ op w,
    ((net.apply op w).1.isOk = (fakeApply op (kernel w)).1.isOk ∧
      kernel (net.apply op w).2 = (fakeApply op (kernel w)).2) ∨
    ((net.apply op w).1.isOk = false ∧ Refused op (kernel w) (kernel (net.apply op w).2))

/-- One that observes it, and refuses no operation that the model accepts. -/
structure WillingNet (net : NetBackend ω) (kernel : ω → ActualState) : Prop where
  observe : ∀ w, ∃ a w', net.observe w = (.ok a, w') ∧ Shows (kernel w) a ∧ kernel w' = kernel w
  apply : ∀ op w s, Linked (kernel w) → fakeApply op (kernel w) = (.ok (), s) →
    ∃ w', net.apply op w = (.ok (), w') ∧ kernel w' = s

theorem ModelNet.seen (h : ModelNet net kernel) {actual : ActualState} {w₁ : ω}
    (observe : net.observe w = (.ok actual, w₁)) :
    kernel w₁ = kernel w ∧ Shows (kernel w) actual := by
  have hsame := h.observe w
  have hseen := h.observed w actual
  rw [observe] at hsame hseen
  exact ⟨hsame, hseen rfl⟩

/-- The first operation of an accepted sequence is accepted. -/
theorem accepted_cons {op : Op} {ops : List Op} {s u : ActualState}
    (h : runAll fakeApply (op :: ops) s = (.ok (), u)) :
    ∃ t, fakeApply op s = (.ok (), t) ∧ runAll fakeApply ops t = (.ok (), u) := by
  simp only [runAll] at h
  split at h
  · next t heq => exact ⟨t, heq, h⟩
  · cases h

theorem Tended.refused {s s' : ActualState} {op : Op} (h : Tended boot s) (booted : Booted boot)
    (tends : Tends boot op) (refused : Refused op s s') : Tended boot s' := by
  rcases refused with rfl | ⟨name, on, stp, rfl, rfl⟩
  · exact h
  · obtain rfl : name = bridgeName := tends
    exact h.withStp booted stp

/-- A sequence that the model accepts leaves a tended state wherever the backend stops it. -/
theorem ModelNet.runAll_tended (h : ModelNet net kernel) (booted : Booted boot) {ops : List Op}
    {u : ActualState} (tended : Tended boot (kernel w)) (tends : ∀ op ∈ ops, Tends boot op)
    (accepted : runAll fakeApply ops (kernel w) = (.ok (), u)) :
    Tended boot (kernel (runAll net.apply ops w).2) := by
  induction ops generalizing w with
  | nil => exact tended
  | cons op ops ih =>
    obtain ⟨t, hop, hrest⟩ := accepted_cons accepted
    have hcall := h.apply op w
    simp only [runAll]
    cases happly : net.apply op w with
    | mk result w' =>
      rw [happly, hop] at hcall
      cases result with
      | error e =>
        rcases hcall with ⟨hok, -⟩ | ⟨-, hrefused⟩
        · cases hok
        · exact tended.refused booted (tends op List.mem_cons_self) hrefused
      | ok =>
        rcases hcall with ⟨-, ht⟩ | ⟨herr, -⟩
        · refine ih ?_ (fun o ho => tends o (List.mem_cons_of_mem op ho)) (by rw [ht]; exact hrest)
          rw [ht]
          exact tended.step booted (tends op List.mem_cons_self) hop
        · cases herr

/-- What a tended state shows is planned like the state itself. -/
theorem Tended.round_eq (tended : Tended boot (kernel w)) (booted : Booted boot)
    {actual : ActualState} (shows : Shows (kernel w) actual) {ops : List Op}
    (planned : plan d actual = .ok ops) :
    plan d (kernel w) = .ok ops ∧ roundOps actual ops = roundOps (kernel w) ops := by
  have linked := tended.linked booted
  refine ⟨(shows.plan_eq linked d).symm.trans planned, ?_⟩
  rw [roundOps, roundOps, shows.platformOps_eq linked]

/-- A round that the planner can plan stays within the tended states. -/
theorem ModelNet.round_tended (h : ModelNet net kernel) (booted : Booted boot)
    (hbr : bridgeName ∉ d.svis) {ops : List Op} (tended : Tended boot (kernel w))
    (planned : plan d (kernel w) = .ok ops) :
    Tended boot (kernel (runAll net.apply (roundOps (kernel w) ops) w).2) := by
  obtain ⟨hnone, rfl⟩ := (plan_eq_ok d (kernel w)).mp planned
  have foreign : NoForeign d (kernel w) := (takenSviName_eq_none d _).mp hnone
  obtain ⟨u, removed, hrun, -⟩ :=
    (round_run (tended.roundStart foreign hbr)).2 tended.not_staleDefault
  exact h.runAll_tended booted tended (tended.tends booted) hrun

theorem ModelNet.reconcileRounds_tended (h : ModelNet net kernel) (booted : Booted boot)
    (hbr : bridgeName ∉ d.svis) (rounds : Nat) (applied : List Op)
    (tended : Tended boot (kernel w)) :
    Tended boot (kernel (reconcileRounds net d rounds applied w).2) := by
  induction rounds generalizing applied w with
  | zero => exact tended
  | succ rounds ih =>
    -- Whatever was observed, the round runs from a tended state.
    have hround : ∀ {actual w₁ ops}, net.observe w = (.ok actual, w₁) → plan d actual = .ok ops →
        Tended boot (kernel (runAll net.apply (roundOps actual ops) w₁).2) := by
      intro actual w₁ ops observe planned
      obtain ⟨hsame, shows⟩ := h.seen observe
      rw [← hsame] at shows tended
      obtain ⟨hplan, hops⟩ := tended.round_eq booted shows planned
      rw [hops]
      exact h.round_tended booted hbr tended hplan
    have hstep := roundStep net d rounds applied w
    generalize reconcileRounds net d (rounds + 1) applied w = result at hstep
    cases hstep with
    | unobserved observe =>
      have hsame := h.observe w
      rw [observe] at hsame
      exact hsame ▸ tended
    | unplanned observe planned => exact (h.seen observe).1 ▸ tended
    | done observe planned platform => exact (h.seen observe).1 ▸ tended
    | refused observe planned run =>
      have hafter := hround observe planned
      rw [run] at hafter
      exact hafter
    | next observe planned todo run =>
      have hafter := hround observe planned
      rw [run] at hafter
      exact ih _ hafter

theorem fakeNet_modelNet : ModelNet fakeNet id where
  observe _ := rfl
  observed _ _ h := Or.inl (Except.ok.inj h).symm
  apply _ _ := Or.inl ⟨rfl, rfl⟩

theorem WillingNet.runAll_ok (h : WillingNet net kernel) (booted : Booted boot) {ops : List Op}
    {u : ActualState} (tended : Tended boot (kernel w)) (tends : ∀ op ∈ ops, Tends boot op)
    (accepted : runAll fakeApply ops (kernel w) = (.ok (), u)) :
    ∃ w', runAll net.apply ops w = (.ok (), w') ∧ kernel w' = u := by
  induction ops generalizing w with
  | nil =>
    cases accepted
    exact ⟨w, rfl, rfl⟩
  | cons op ops ih =>
    obtain ⟨t, hop, hrest⟩ := accepted_cons accepted
    obtain ⟨w₁, happly, rfl⟩ := h.apply op w t (tended.linked booted) hop
    obtain ⟨w', hrun, hkernel⟩ := ih (tended.step booted (tends op List.mem_cons_self) hop)
      (fun o ho => tends o (List.mem_cons_of_mem op ho)) hrest
    exact ⟨w', by rw [runAll_cons_ok happly, hrun], hkernel⟩

/-- Where `reconcile` succeeds on the model, it succeeds on a backend that refuses nothing,
with the same operations and the same state. -/
theorem WillingNet.reconcileRounds_ok (h : WillingNet net kernel) (booted : Booted boot)
    (hbr : bridgeName ∉ d.svis) {rounds : Nat} {applied ops : List Op} {u : ActualState}
    (tended : Tended boot (kernel w))
    (model : reconcileRounds fakeNet d rounds applied (kernel w) = (.ok ops, u)) :
    ∃ w', reconcileRounds net d rounds applied w = (.ok ops, w') ∧ kernel w' = u := by
  induction rounds generalizing applied w with
  | zero => cases model
  | succ rounds ih =>
    obtain ⟨a, w₁, hobserve, shows, hsame⟩ := h.observe w
    have linked := tended.linked booted
    have hplan := shows.plan_eq linked d
    have hplatform := shows.platformOps_eq linked
    have hstep := roundStep fakeNet d rounds applied (kernel w)
    rw [model] at hstep
    generalize hresult : (Except.ok ops, u) = result at hstep
    cases hstep with
    | done observe planned platform =>
      cases observe
      cases hresult
      refine ⟨w₁, ?_, hsame⟩
      simp only [reconcileRounds, hobserve, hplan, planned, hplatform, platform]
      rfl
    | @next actual s₁ planned s₂ observe hplanned todo run =>
      cases observe
      have hafter := fakeNet_modelNet.round_tended (w := kernel w) booted hbr tended hplanned
      simp only [id_eq] at hafter
      rw [run] at hafter
      obtain ⟨-, rfl⟩ := (plan_eq_ok d (kernel w)).mp hplanned
      have htends := tended.tends (d := d) booted
      have tended₁ : Tended boot (kernel w₁) := hsame.symm ▸ tended
      rw [← hsame] at run htends
      obtain ⟨w₂, hrun, rfl⟩ := h.runAll_ok booted tended₁ htends run
      rw [hsame] at hrun
      obtain ⟨w', hrest, hkernel⟩ := ih hafter hresult.symm
      refine ⟨w', ?_, hkernel⟩
      simp only [reconcileRounds, hobserve, hplan, hplanned, hplatform, applyOps_eq_runAll]
      have hops : opsOfRound d (kernel w) ≠ [] := todo
      rw [show (kernel w).platformOps ++ _ = opsOfRound d (kernel w) from rfl,
        if_neg (mt List.isEmpty_iff.mp hops), hrun]
      exact hrest
    | _ => cases hresult

theorem reconcileRounds_ok_matches {s u : ActualState} {rounds : Nat} {applied ops : List Op}
    (h : reconcileRounds fakeNet d rounds applied s = (.ok ops, u)) : Matches d u := by
  obtain ⟨actual, -, hdone, s₀, hobserve⟩ := reconcileRounds_ok fakeNet d rounds applied s u ops h
  cases hobserve
  exact (plan_nil_iff_matches d _).mp hdone

/-- From every tended state `reconcile` reaches the desired state, unless the name of an SVI is
taken. -/
theorem WillingNet.reconcile_ok (h : WillingNet net kernel) (booted : Booted boot)
    (hbr : bridgeName ∉ d.svis) (tended : Tended boot (kernel w)) (foreign : NoForeign d (kernel w)) :
    ∃ ops w', reconcile net d w = (.ok ops, w') ∧ Matches d (kernel w') := by
  obtain ⟨ops, hok⟩ := reconcile_ok_of_fresh (tended.roundStart foreign hbr)
    (tended.platformFree booted foreign) tended.not_staleDefault
  cases hmodel : reconcile fakeNet d (kernel w) with
  | mk result u =>
    rw [hmodel] at hok
    obtain rfl : result = .ok ops := hok
    obtain ⟨w', hrun, rfl⟩ := h.reconcileRounds_ok booted hbr tended hmodel
    exact ⟨ops, w', hrun, reconcileRounds_ok_matches hmodel⟩

end Backends

end ClixonSwitch.Guarantees
