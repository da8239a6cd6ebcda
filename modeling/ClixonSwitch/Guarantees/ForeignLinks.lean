import ClixonSwitch.Guarantees.ManagementAddress
import ClixonSwitch.Source.SwitchNet.Frames

/-!
# Foreign links are left alone

Links that are neither `br-lan`, a switch port nor a VLAN link of the bridge, nor ports of
these or stacked on them, come out of a call of `reconcile` as they went in, whether it
succeeds or is abandoned; only `lo` and the conduits may have been set up.
-/
namespace ClixonSwitch.Guarantees
open Std Lib Source.SwitchModel Source.SwitchNet

section Foreign

/-- A VLAN link on a link that the planner owns, directly or through others. -/
inductive Stacked (s : ActualState) : String → Prop where
  | direct {dev p : String} (parent : (device s dev).parent = some p) (owned : PlanOwns s p) :
      Stacked s dev
  | indirect {dev p : String} (parent : (device s dev).parent = some p) (stacked : Stacked s p) :
      Stacked s dev

/-- A link that is none of the planner's, and neither a port of one of these nor on one. -/
structure Foreign (s : ActualState) (dev : String) : Prop where
  link : s.links[dev]?.isSome = true
  notOwned : ¬ PlanOwns s dev
  notEnslaved : ∀ m, (device s dev).master = some m → ¬ PlanOwns s m
  notStacked : ¬ Stacked s dev

/-- Links that no deletion reaches. -/
structure OutOfReach (s : ActualState) (dev : String) : Prop where
  link : s.links[dev]?.isSome = true
  notOwned : ¬ PlanOwns s dev
  notStacked : ¬ Stacked s dev

variable {s t u : ActualState}

theorem outOfReach_rooted (coherent : Coherent s) : Rooted (OutOfReach s) s := by
  intro g p hg hp
  refine ⟨coherent.parents g p hp, fun howned => hg.notStacked (.direct hp howned),
    fun hstacked => hg.notStacked (.indirect hp hstacked)⟩

theorem Foreign.outOfReach {dev : String} (h : Foreign s dev) : OutOfReach s dev :=
  ⟨h.link, h.notOwned, h.notStacked⟩

theorem Foreign.master {dev : String} (h : Foreign s dev) (coherent : Coherent s) (m : String)
    (hm : (device s dev).master = some m) : OutOfReach s m := by
  have hbridge := coherent.masters dev m hm
  obtain ⟨l, hl, hkind⟩ : ∃ l, (device s m).link = some l ∧ l.kind.isBridge = true := by
    simpa [Device.isBridge, Option.any_eq_true] using hbridge
  have hparent : (device s m).parent = none := by
    obtain ⟨kind, up, master⟩ := l
    unfold Device.parent
    rw [hl]
    cases kind <;> simp_all [LinkKind.isBridge]
  refine ⟨by rw [← device_link, hl]; rfl, h.notEnslaved m hm, fun hstacked => ?_⟩
  cases hstacked with
  | direct parent _ => rw [hparent] at parent; cases parent
  | indirect parent _ => rw [hparent] at parent; cases parent

end Foreign

section Raising

theorem raised_raised (d : Device) : raised (raised d) = raised d := by
  simp only [raised, Option.map_map]
  rfl

theorem raised_kind (d : Device) :
    (raised d).link.map Link.kind = d.link.map Link.kind := by
  simp only [raised, Option.map_map]
  rfl

theorem raised_master (d : Device) : (raised d).master = d.master := by
  unfold Device.master raised
  cases d.link <;> rfl

/-- `G` is spared, except that devices in `P` may have been set up. -/
structure SparedBut (G P : String → Prop) (s t : ActualState) : Prop where
  kind : ∀ g, G g → (device t g).link.map Link.kind = (device s g).link.map Link.kind
  device : ∀ g, G g → (∀ m, (device s g).master = some m → G m) →
    device t g = device s g ∨ P g ∧ device t g = raised (device s g)

variable {G P : String → Prop} {s t u : ActualState}

theorem SparedBut.trans (h : SparedBut G P s t) (h' : SparedBut G P t u) : SparedBut G P s u where
  kind g hg := (h'.kind g hg).trans (h.kind g hg)
  device g hg hm := by
    rcases h.device g hg hm with hsame | ⟨hp, hraised⟩
    · rw [← hsame] at hm ⊢
      exact h'.device g hg hm
    · rw [← raised_master, ← hraised] at hm
      rcases h'.device g hg hm with hsame' | ⟨-, hraised'⟩
      · exact Or.inr ⟨hp, hsame'.trans hraised⟩
      · rw [hraised, raised_raised] at hraised'
        exact Or.inr ⟨hp, hraised'⟩

theorem sparedBut_of_spared (h : Spared G s t) (P : String → Prop) : SparedBut G P s t :=
  ⟨h.kind, fun g hg hm => Or.inl (h.device g hg hm)⟩

theorem SparedBut.rooted (h : SparedBut G P s t) (rooted : Rooted G s) : Rooted G t := by
  intro g p hg hp
  rw [Device.parent_eq, h.kind g hg, ← Device.parent_eq] at hp
  exact rooted g p hg hp

theorem setUp_sparedBut {name : String} (hp : P name) :
    SparedBut G P s (fakeApply (.setUp name true) s).2 := by
  have hdevice : ∀ g, device (fakeApply (.setUp name true) s).2 g =
      device s g ∨
        P g ∧ device (fakeApply (.setUp name true) s).2 g =
          raised (device s g) := by
    intro g
    by_cases hg : g = name
    · subst hg
      simp only [fakeApply, applySetUp]
      cases hl : s.links[g]? with
      | none => exact Or.inl rfl
      | some l =>
        refine Or.inr ⟨hp, ?_⟩
        dsimp only
        rw [device_insert_link, if_pos rfl, raised, device_link, hl]
        rfl
    · exact Or.inl (fakeApply_elsewhere rfl hg)
  refine ⟨fun g _ => ?_, fun g _ _ => hdevice g⟩
  rcases hdevice g with hsame | ⟨-, hraised⟩
  · rw [hsame]
  · rw [hraised, raised_kind]

end Raising

section Kinds
variable {s t u : ActualState}

/-- Every switch port was one before. -/
def NoNewPort (s t : ActualState) : Prop :=
  ∀ dev c, (device t dev).link.map Link.kind = some (.dsa c) →
    (device s dev).link.map Link.kind = some (.dsa c)

theorem NoNewPort.trans (h : NoNewPort s t) (h' : NoNewPort t u) : NoNewPort s u :=
  fun dev c hc => h dev c (h' dev c hc)

theorem noNewPort_releasePorts (name : String) (s : ActualState) :
    NoNewPort s (releasePorts name s) := by
  intro dev c hc
  rw [device_releasePorts] at hc
  split at hc
  · rw [Device.released, Option.map_map] at hc
    exact hc
  · exact hc

theorem noNewPort_removeLink (name : String) (s : ActualState) :
    NoNewPort s (removeLink name s) := by
  intro dev c hc
  rw [device_removeLink] at hc
  split at hc
  · cases hc
  · exact hc

theorem noNewPort_deletion : DeletionRule NoNewPort fun _ _ => True where
  refl _ := fun _ _ hc => hc
  trans := NoNewPort.trans
  stable _ h := h
  remove _ := noNewPort_removeLink _ _
  child _ _ := trivial
  release _ := noNewPort_releasePorts _ _

/-- No operation makes a switch port. -/
theorem fakeApply_noNewPort (op : Op) (s : ActualState) : NoNewPort s (fakeApply op s).2 := by
  intro dev c hc
  by_cases hdelete : ∃ name, op = .deleteLink name
  · obtain ⟨name, rfl⟩ := hdelete
    exact noNewPort_deletion.deleteLink trivial dev c hc
  · rw [device_link] at hc ⊢
    cases fakeApply_linkStep (fun name heq => hdelete ⟨name, heq⟩) s dev with
    | same link => rwa [link] at hc
    | changed l l' before after kind _ =>
      rw [after] at hc
      rw [before]
      rcases kind with hsame | ⟨b, b', -, hbridge, -⟩
      · rwa [Option.map_some, hsame] at hc
      · rw [Option.map_some, hbridge] at hc
        cases hc
    | created kind _ after plain =>
      rw [after] at hc
      obtain rfl : kind = .dsa c := Option.some.inj hc
      cases plain

end Kinds

section Rounds
variable {desired : DesiredState} {s t u : ActualState}

/-- A planned operation is on one of the planner's links, or on an SVI that is not there. -/
theorem plan_target {ops : List Op} (planned : plan desired s = .ok ops) {op : Op}
    (hop : op ∈ ops) : PlanOwns s op.target ∨ s.links[op.target]? = none := by
  obtain ⟨hnone, rfl⟩ := (plan_eq_ok desired s).mp planned
  have foreign : NoForeign desired s := (takenSviName_eq_none desired s).mp hnone
  rcases List.mem_append.mp hop with hop | hop
  · left
    cases bridgeOp_of_mem hop with
    | stale name id up master stays link _ =>
      exact Or.inr ⟨_, link, Or.inr (by simp [LinkKind.isBridgeVlan])⟩
    | _ => exact Or.inl rfl
  · by_contra hno
    rw [not_or] at hno
    obtain ⟨hown, hlink⟩ := hno
    have hbr : op.target ≠ bridgeName := fun heq => hown (Or.inl heq)
    have hsvi : op.target ∉ desired.svis := by
      intro hin
      obtain ⟨l, hl⟩ := Option.ne_none_iff_exists'.mp hlink
      exact hown (Or.inr ⟨l, hl, Or.inr (foreign _ l hin hl)⟩)
    have hport : op.target ∉ s.switchPorts := by
      intro hin
      obtain ⟨l, hl, hdsa⟩ := (mem_switchPorts s _).mp hin
      exact hown (Or.inr ⟨l, hl, Or.inl hdsa⟩)
    have hnil := targeting_other hbr hsvi hport
    have hmem : op ∈ targeting Op.target op.target (planDeviceSection desired s) := by
      simpa [targeting] using hop
    rw [hnil] at hmem
    cases hmem

/-- What no operation reaches is as it was at the start, but `lo` and the conduits may have
been set up. -/
structure Undisturbed (s u : ActualState) : Prop where
  spared : SparedBut (OutOfReach s) (· ∈ s.platformNames) s u
  ports : NoNewPort s u

theorem Undisturbed.refl (s : ActualState) : Undisturbed s s :=
  ⟨sparedBut_of_spared (Spared.refl _ s) _, fun _ _ hc => hc⟩

theorem NoNewPort.platformNames (h : NoNewPort s u) {name : String} (hn : name ∈ u.platformNames) :
    name ∈ s.platformNames := by
  rw [mem_platformNames] at hn ⊢
  refine hn.imp id ?_
  rintro ⟨port, link, hl, hkind⟩
  have hport : (device s port).link.map Link.kind = some (.dsa (some name)) := by
    refine h port (some name) ?_
    rw [device_link, hl, Option.map_some, hkind]
  obtain ⟨link', hl', hkind'⟩ := Option.map_eq_some_iff.mp hport
  exact ⟨port, link', hl', hkind'⟩

/-- What is out of reach is still none of the planner's links. -/
theorem Undisturbed.not_target (h : Undisturbed s u) {dev : String} (hdev : OutOfReach s dev) :
    ¬ (PlanOwns u dev ∨ u.links[dev]? = none) := by
  have hkind := h.spared.kind dev hdev
  obtain ⟨l, hl⟩ := Option.isSome_iff_exists.mp hdev.link
  rw [device_link, device_link, hl] at hkind
  obtain ⟨l', hl', hsame⟩ := Option.map_eq_some_iff.mp hkind
  rintro ((hbr | ⟨link, hlink, howned⟩) | hnone)
  · exact hdev.notOwned (Or.inl hbr)
  · rw [hl'] at hlink
    cases hlink
    rw [hsame] at howned
    exact hdev.notOwned (Or.inr ⟨l, hl, howned⟩)
  · rw [hnone] at hl'
    cases hl'

theorem Undisturbed.round (coherent : Coherent s) (h : Undisturbed s u) {planned : List Op}
    (hplan : plan desired u = .ok planned) :
    Undisturbed s (runAll fakeApply (roundOps u planned) u).2 := by
  refine runAll_invariant (Undisturbed s) (fun op hop v hv => ⟨?_, ?_⟩) h
  · rcases List.mem_append.mp hop with hop | hop
    · obtain ⟨name, hname, rfl⟩ := List.mem_map.mp hop
      have hplatform : name ∈ u.platformNames :=
        ExtTreeSet.mem_toList.mp (List.mem_filter.mp hname).1
      exact hv.spared.trans (setUp_sparedBut (h.ports.platformNames hplatform))
    · have hrooted := hv.spared.rooted (outOfReach_rooted coherent)
      have htarget : ¬ OutOfReach s op.target := fun hreach =>
        h.not_target hreach (plan_target hplan hop)
      exact hv.spared.trans (sparedBut_of_spared (fakeApply_spared hrooted htarget) _)
  · exact hv.ports.trans (fakeApply_noNewPort op v)

theorem reconcileRounds_undisturbed (desired : DesiredState) (coherent : Coherent s)
    (rounds : Nat) (applied : List Op) (h : Undisturbed s u) :
    Undisturbed s (reconcileRounds fakeNet desired rounds applied u).2 := by
  induction rounds generalizing applied u with
  | zero => exact h
  | succ rounds ih =>
    simp only [reconcileRounds, fakeNet]
    cases hplan : plan desired u with
    | error e => exact h
    | ok planned =>
      have hround := h.round coherent hplan
      simp only
      split
      · exact h
      · rw [applyOps_eq_runAll]
        cases hrun : runAll fakeApply (u.platformOps ++ planned) u with
        | mk result v =>
          rw [roundOps, hrun] at hround
          cases result with
          | error e => exact hround
          | ok => exact ih _ hround

end Rounds

/-- What a call of `reconcile` leaves of the links that are foreign to the switch. -/
theorem reconcile_foreign_links (desired : DesiredState) (s : ActualState) (wf : WellFormed s) :
    (∀ dev, Foreign s dev →
      device (reconcile fakeNet desired s).2 dev = device s dev ∨
        dev ∈ s.platformNames ∧
          device (reconcile fakeNet desired s).2 dev = raised (device s dev)) ∧
      ∀ name, name ∈ desired.svis → Foreign s name →
        ∃ e, reconcile fakeNet desired s = (.error e, s) := by
  have hrounds := reconcileRounds_undisturbed desired wf.toCoherent maxRounds []
    (Undisturbed.refl s)
  refine ⟨fun dev hdev => ?_, fun name hname hdev => ?_⟩
  · exact hrounds.spared.device dev hdev.outOfReach (hdev.master wf.toCoherent)
  · have htaken : takenSviName desired s ≠ none := by
      intro hnone
      obtain ⟨l, hl⟩ := Option.isSome_iff_exists.mp hdev.link
      have hvlan := (takenSviName_eq_none desired s).mp hnone name l hname hl
      exact hdev.notOwned (Or.inr ⟨l, hl, Or.inr hvlan⟩)
    obtain ⟨taken, htaken⟩ := Option.ne_none_iff_exists'.mp htaken
    refine ⟨⟨s!"interface {taken} already exists and is not a VLAN link of {bridgeName}"⟩, ?_⟩
    simp only [reconcile, reconcileRounds, maxRounds, fakeNet, plan, htaken]

/-- A switch with an uplink of its own: a VLAN link on the conduit. -/
def uplinkState : ActualState where
  links := ExtTreeMap.ofList
    [("lan1", ⟨.dsa (some "eth0"), false, none⟩), ("eth0", ⟨.other, false, none⟩),
      ("lo", ⟨.other, true, none⟩), ("wan", ⟨.vlan "eth0" 7, true, none⟩)] compare
  addresses := ExtTreeMap.ofList
    [("wan", ExtTreeSet.ofList [⟨⟨0xC0000201⟩, 24⟩] compare)] compare

theorem uplink_foreign : Foreign uplinkState "wan" := by
  have hwan : uplinkState.links["wan"]? = some ⟨.vlan "eth0" 7, true, none⟩ := by decide +kernel
  have heth : uplinkState.links["eth0"]? = some ⟨.other, false, none⟩ := by decide +kernel
  have hparent : (device uplinkState "wan").parent = some "eth0" := by decide +kernel
  have hroot : (device uplinkState "eth0").parent = none := by decide +kernel
  have hmaster : (device uplinkState "wan").master = none := by decide +kernel
  have hown : ¬ PlanOwns uplinkState "eth0" := by
    rintro (h | ⟨l, hl, hkind⟩)
    · exact absurd h (by decide)
    · rw [heth] at hl
      cases hl
      simp [LinkKind.isDsa, LinkKind.isBridgeVlan] at hkind
  refine ⟨by rw [hwan]; rfl, ?_, fun m hm => ?_, fun hstacked => ?_⟩
  · rintro (h | ⟨l, hl, hkind⟩)
    · exact absurd h (by decide)
    · rw [hwan] at hl
      cases hl
      revert hkind
      decide
  · rw [hmaster] at hm
    cases hm
  · cases hstacked with
    | direct parent owned =>
      rw [hparent] at parent
      cases parent
      exact hown owned
    | indirect parent stacked =>
      rw [hparent] at parent
      cases parent
      cases stacked with
      | direct parent _ => rw [hroot] at parent; cases parent
      | indirect parent _ => rw [hroot] at parent; cases parent

/-- An SVI under the name of the uplink. -/
def uplinkSvi : DesiredState where
  svis := ExtTreeMap.ofList [("wan", ⟨true, 7, ∅, false⟩)] compare

theorem reconcile_foreign_links_uplink :
    (device (reconcile fakeNet accessPort20 uplinkState).2 "wan" = device uplinkState "wan" ∨
        "wan" ∈ uplinkState.platformNames ∧
          device (reconcile fakeNet accessPort20 uplinkState).2 "wan" =
            raised (device uplinkState "wan")) ∧
      ∃ e, reconcile fakeNet uplinkSvi uplinkState = (.error e, uplinkState) := by
  have wf : WellFormed uplinkState := wellFormed_of_check (by decide +kernel)
  exact ⟨(reconcile_foreign_links accessPort20 uplinkState wf).1 "wan" uplink_foreign,
    (reconcile_foreign_links uplinkSvi uplinkState wf).2 "wan" (by decide +kernel) uplink_foreign⟩

end ClixonSwitch.Guarantees
