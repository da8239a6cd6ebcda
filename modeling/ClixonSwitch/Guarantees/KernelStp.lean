import ClixonSwitch.Guarantees.OverNetlink
import ClixonSwitch.Guarantees.StpSound

/-!
# The kernel's own spanning tree

A kernel that does not leave spanning tree to mstpd runs its own as soon as it is asked,
next to mstpd's. `enable_stp` finds out and switches it off again. So no reconciliation
leaves the kernel's spanning tree on, and on such a kernel none with spanning tree
succeeds.
-/
namespace ClixonSwitch.Guarantees
open Std Lib Source.SwitchModel Source.SwitchNet
open Source.SwitchNet.Netlink

/-- Every bridge has one of the `allowed` settings. -/
def StpIn (allowed : BridgeStp → Prop) (s : ActualState) : Prop :=
  ∀ (name : String) (l : Link) (b : BridgeSettings), s.links[name]? = some l → l.kind = .bridge b →
    allowed b.stp

section Model
variable {allowed : BridgeStp → Prop} {s : ActualState}

/-- No operation starts spanning tree but the one for it. -/
theorem fakeApply_stpIn (h : StpIn allowed s) (off : allowed .off) {op : Op}
    (single : isSingle op = true) : StpIn allowed (fakeApply op s).2 := by
  intro dev l b hl hkind
  by_cases hdelete : ∃ name, op = .deleteLink name
  · obtain ⟨name, rfl⟩ := hdelete
    obtain ⟨removed, hr⟩ := deleteLink_removes name s
    rw [← device_link, hr dev] at hl
    obtain ⟨l₀, hl₀, hsame⟩ := Device.without_kind hl
    exact h dev l₀ b hl₀ (hsame.symm.trans hkind)
  cases fakeApply_linkStep (fun name heq => hdelete ⟨name, heq⟩) s dev with
  | same link => exact h dev l b (link.symm.trans hl) hkind
  | changed l₀ l' before after kind master =>
    rw [after] at hl
    cases hl
    rcases kind with hsame | ⟨b₀, b', hb₀, hb', hstp⟩
    · exact h dev l₀ b before (hsame.symm.trans hkind)
    · rw [hb'] at hkind
      cases hkind
      rcases hstp with hstp | hstp | rfl
      · exact hstp ▸ h dev l₀ b₀ before hb₀
      · exact hstp ▸ off
      · cases single
  | created kind before after plain =>
    rw [after] at hl
    cases hl
    obtain rfl : kind = .bridge b := hkind
    exact eq_of_beq plain ▸ off

theorem StpIn.withStp (h : StpIn allowed s) {stp : BridgeStp} (hstp : allowed stp) (name : String) :
    StpIn allowed (withStp name stp s) := by
  unfold Guarantees.withStp
  split
  · intro dev l b hl hkind
    rw [ExtTreeMap.getElem?_insert] at hl
    split at hl
    · cases hl
      cases hkind
      exact hstp
    · exact h dev l b hl hkind
  · exact h

end Model

section Netlink
variable {allowed : BridgeStp → Prop} {κ : Type} {peer : Peer κ} {state : κ → ActualState}
  {ifindex : κ → String → Nat} {leavesStp : Bool} {b : Backend κ} {d : DesiredState}

/-- What a kernel that refuses nothing has for spanning tree after an operation. -/
theorem netlink_stpIn (kernel : KernelPeer peer state ifindex leavesStp True) (ready : Ready b)
    (off : allowed .off) (user : leavesStp = true → allowed .user)
    (h : StpIn allowed (state b.kernel)) (op : Op) :
    StpIn allowed (state (Netlink.apply peer op b).2.kernel) := by
  cases hsingle : isSingle op with
  | true =>
    rcases (apply_sent kernel ready hsingle).model hsingle with ⟨-, hstate⟩ | ⟨-, hstate⟩
    · rw [hstate]
      exact fakeApply_stpIn h off hsingle
    · rw [hstate]
      exact h
  | false =>
    obtain ⟨name, rfl⟩ := eq_setBridgeStp hsingle
    change StpIn allowed (state (enableStp peer name b).2.kernel)
    by_cases hbridge : IsBridge (state b.kernel) name
    · have henabled := (enableStp_enabled kernel ready hbridge).2
      generalize (enableStp peer name b).1 = result at henabled
      generalize state (enableStp peer name b).2.kernel = s at henabled ⊢
      cases henabled with
      | user leaves => exact h.withStp (user leaves) name
      | refused e unwilling => exact absurd trivial unwilling
      | partly e stp unwilling => exact absurd trivial unwilling
      | undone e keeps => exact h.withStp off name
    · rw [(enableStp_of_not_bridge kernel ready hbridge).2.2]
      exact h

theorem netlink_keeps_stpIn (kernel : KernelPeer peer state ifindex leavesStp True)
    (off : allowed .off) (user : leavesStp = true → allowed .user) :
    NetKeeps kernel.net fun b => StpIn allowed (socketState state b) where
  observe b h := by
    have hsame := kernel.modelNet.observe b
    exact hsame ▸ h
  apply op b h := netlink_stpIn kernel b.2 off user h op

theorem reconcile_stpIn (allowed : BridgeStp → Prop)
    (kernel : KernelPeer peer state ifindex leavesStp True) (ready : Ready b) (off : allowed .off)
    (user : leavesStp = true → allowed .user) (h : StpIn allowed (state b.kernel))
    (d : DesiredState) : StpIn allowed (state (reconcile (netBackend peer) d b).2.kernel) := by
  let w : Socket κ := ⟨b, ready⟩
  have hkeeps := reconcileRounds_keeps (netlink_keeps_stpIn kernel off user) d maxRounds []
    (w := w) h
  rw [reconcile_socket kernel d w]
  exact hkeeps

theorem StpIn.of_shows {s a : ActualState} (h : StpIn allowed s) (shows : Shows s a) :
    StpIn allowed a := by
  rcases shows with rfl | rfl
  · exact h
  · intro name l b hl hkind
    rw [seen, ExtTreeMap.getElem?_map] at hl
    obtain ⟨⟨kind, up, master⟩, hl₀, rfl⟩ := Option.map_eq_some_iff.mp hl
    refine h name _ b hl₀ ?_
    cases kind with
    | bridge b' => exact hkind
    | vlan parent id =>
      simp only [shownLink, shownKind] at hkind
      split at hkind <;> cases hkind
    | dsa conduit => cases hkind
    | other => cases hkind

theorem StpIn.bridgeStp {a : ActualState} (h : StpIn allowed a) (off : allowed .off)
    (fresh : Bool) : allowed (bridgeStp a fresh) := by
  unfold Source.SwitchNet.bridgeStp
  split
  · next b hb =>
    obtain ⟨l, hl, hkind⟩ := Option.map_eq_some_iff.mp hb
    exact h bridgeName l b hl hkind
  · exact off

theorem planStp_nil {a : ActualState} (planned : plan d a = .ok []) (hstp : d.stp.isSome = true) :
    bridgeStp a (planBridge a).2 = .user := by
  obtain ⟨-, hops⟩ := (plan_eq_ok d a).mp planned
  have hsection : planStp d a (planBridge a).2 = [] := by
    simp only [planBridgeSection, List.append_eq_nil_iff] at hops
    exact hops.1.1.2
  simp only [planStp, List.append_eq_nil_iff, hstp] at hsection
  simpa using hsection.2

end Netlink

/-- Whatever is configured and in whatever order, reconciliations on kernels that refuse
nothing leave no bridge with the kernel's own spanning tree, whether or not those kernels
leave it to mstpd; and on one that does not, a configuration with spanning tree is reported
as an error and its bridges are left without. -/
theorem kernel_stp_never_left_on {κ : Type} (state : κ → ActualState)
    (ifindex : κ → String → Nat) (history : List (Attempt κ))
    (kernels : ∀ a ∈ history, ∃ leavesStp, KernelPeer a.peer state ifindex leavesStp True)
    (start : Backend κ) (ready : Ready start) (quiet : StpIn (· ≠ .kernel) (state start.kernel))
    (b : Backend κ) (hb : b = history.foldl (fun b a => a.run b) start) :
    StpIn (· ≠ .kernel) (state b.kernel) ∧
      ∀ (peer : Peer κ) (d : DesiredState), KernelPeer peer state ifindex false True →
        d.stp.isSome = true → StpIn (· = .off) (state b.kernel) →
          (reconcile (netBackend peer) d b).1.isOk = false ∧
            StpIn (· = .off) (state (reconcile (netBackend peer) d b).2.kernel) := by
  have hhistory : Ready b ∧ StpIn (· ≠ .kernel) (state b.kernel) := by
    subst hb
    refine attempts_keep (fun b => StpIn (· ≠ .kernel) (state b.kernel)) kernels
      (fun a ha b ready h => ?_) ready quiet
    obtain ⟨leavesStp, kernel⟩ := kernels a ha
    exact reconcile_stpIn _ kernel ready (by simp) (by simp) h a.desired
  obtain ⟨ready', hquiet⟩ := hhistory
  refine ⟨hquiet, fun peer d kernel hstp hoff => ?_⟩
  have hleft := reconcile_stpIn (· = .off) kernel ready' rfl (fun h => nomatch h) hoff d
  refine ⟨?_, hleft⟩
  let w : Socket κ := ⟨b, ready'⟩
  rw [reconcile_socket kernel d w] at hleft ⊢
  cases hrun : reconcile kernel.net d w with
  | mk result w' =>
    cases result with
    | error e => rfl
    | ok ops =>
      obtain ⟨a, -, hdone, w₀, hobserve⟩ := reconcileRounds_ok _ d _ _ w w' ops hrun
      obtain ⟨hsame, shows⟩ := kernel.modelNet.seen hobserve
      rw [hrun, show state w'.1.kernel = socketState state w₀ from hsame] at hleft
      have huser := (StpIn.of_shows hleft shows).bridgeStp rfl (planBridge a).2
      rw [planStp_nil hdone.1 hstp] at huser
      cases huser

section Bench

/-- A kernel that keeps spanning tree to itself, and a configuration with it. -/
noncomputable def keptStp : Attempt ActualState :=
  ⟨benchPeer false false, { stp := some zeroTimersStp }⟩

theorem keptStp_kernel : KernelPeer keptStp.peer id (fun _ => benchIndex) false True := by
  have hkernel := benchPeer_kernel false false
  rwa [eq_true rfl] at hkernel

theorem onePortBoot_stpIn (allowed : BridgeStp → Prop) : StpIn allowed onePortBoot := by
  intro name l b hl hkind
  have hall : ∀ e ∈ onePortBoot.links.toList, e.2.kind.isBridge = false := by decide +kernel
  have hno := hall (name, l) (ExtTreeMap.mem_toList_iff_getElem?_eq_some.mpr hl)
  rw [hkind] at hno
  cases hno

theorem keptStp_off : StpIn (· = .off) (keptStp.run { kernel := onePortBoot }).kernel :=
  reconcile_stpIn (b := { kernel := onePortBoot }) (· = .off) keptStp_kernel ⟨rfl, rfl⟩ rfl
    (fun h => nomatch h) (onePortBoot_stpIn _) keptStp.desired

end Bench

theorem kernel_stp_never_left_on_twice :
    (reconcile (netBackend keptStp.peer) keptStp.desired
      (keptStp.run { kernel := onePortBoot })).1.isOk = false := by
  have kernels : ∀ a ∈ [keptStp], ∃ leavesStp,
      KernelPeer a.peer id (fun _ => benchIndex) leavesStp True := by
    intro a ha
    obtain rfl := List.mem_singleton.mp ha
    exact ⟨false, keptStp_kernel⟩
  have hboth := kernel_stp_never_left_on id (fun _ => benchIndex) [keptStp] kernels
    { kernel := onePortBoot } ⟨rfl, rfl⟩ (onePortBoot_stpIn _) _ rfl
  exact (hboth.2 keptStp.peer keptStp.desired keptStp_kernel rfl keptStp_off).1

end ClixonSwitch.Guarantees
