import ClixonSwitch.Guarantees.CommitHeals
import ClixonSwitch.Guarantees.Rtnetlink

/-!
# Reconciling over rtnetlink

Each operation of the planner, sent over the socket, is the operation that the kernel
carries out, so that the backend refines the kernel model: it plans the same from what it
observes and ends in the same state.
-/
namespace ClixonSwitch.Guarantees
open Std Lib Source.SwitchModel Source.SwitchNet
open Source.SwitchNet.Netlink

section Operations
variable {κ : Type} {state : κ → ActualState} {leavesStp : Bool} {willing : Prop} {s : ActualState}

/-- The operation has its effect, or fails without any, which on a willing kernel is for a name
that is no link. -/
def Sent (state : κ → ActualState) (leavesStp : Bool) (willing : Prop) (op : Op) (s : ActualState)
    (out : Except NetError Unit × Backend κ) : Prop :=
  Ready out.2 ∧
    ((out.1.isOk = (effect leavesStp op s).1.isOk ∧
        state out.2.kernel = (effect leavesStp op s).2) ∨
      (out.1.isOk = false ∧ state out.2.kernel = s ∧
        (willing → ∃ name ∈ lookups op, name ∉ s.links)))

/-- Whether the backend sends the operation as one message. -/
def isSingle : Op → Bool
  | .setBridgeStp _ true => false
  | _ => true

theorem eq_setBridgeStp {op : Op} (h : isSingle op = false) : ∃ name, op = .setBridgeStp name true := by
  unfold isSingle at h
  split at h
  · next name => exact ⟨name, rfl⟩
  · cases h

theorem effect_eq {op : Op} (h : isSingle op = true ∨ leavesStp = true) :
    effect leavesStp op = fakeApply op := by
  funext s
  unfold effect
  split
  · rcases h with hsingle | htrue
    · cases hsingle
    · cases htrue
  · rfl

/-- An operation that was sent has its effect, or fails with none. -/
theorem Sent.model {op : Op} {out : Except NetError Unit × Backend κ}
    (h : Sent state leavesStp willing op s out) (single : isSingle op = true) :
    (out.1.isOk = (fakeApply op s).1.isOk ∧ state out.2.kernel = (fakeApply op s).2) ∨
      (out.1.isOk = false ∧ state out.2.kernel = s) := by
  obtain ⟨-, heffect⟩ := h
  rw [effect_eq (Or.inl single)] at heffect
  exact heffect.imp_right fun hno => ⟨hno.1, hno.2.1⟩

theorem Sent.accepted {op : Op} {s' : ActualState} {out : Except NetError Unit × Backend κ}
    (h : Sent state leavesStp willing op s out) (hwilling : willing) (single : isSingle op = true)
    (there : ∀ name ∈ lookups op, name ∈ s.links) (model : fakeApply op s = (.ok (), s')) :
    out.1 = .ok () ∧ state out.2.kernel = s' := by
  obtain ⟨-, heffect⟩ := h
  rw [effect_eq (Or.inl single), model] at heffect
  rcases heffect with ⟨hok, hstate⟩ | ⟨-, -, hmissing⟩
  · cases hout : out.1 with
    | ok u => exact ⟨rfl, hstate⟩
    | error e =>
      rw [hout] at hok
      cases hok
  · obtain ⟨name, hname, hnot⟩ := hmissing hwilling
    exact absurd (there name hname) hnot

/-- Of the operations on one device, those that need no new one need a link. -/
theorem target_mem_of_act {op : Op} {d : Device} (linked : Linked s) (plain : op.isPlain = true)
    (old : ∀ name, op ≠ .createBridge name) (hact : act op (device s op.target) = some d) :
    op.target ∈ s.links := by
  by_contra hno
  have hlink : (device s op.target).link = none := by simpa [device] using hno
  have hvlans : ∀ vid, (device s op.target).vlans.contains vid = false := fun vid =>
    Bool.eq_false_iff.mpr fun hc =>
      hno (linked.vlans _ vid (ExtTreeMap.contains_iff_mem.mp hc))
  have haddresses : ∀ p, (device s op.target).addresses.contains p = false := fun p =>
    Bool.eq_false_iff.mpr fun hc =>
      hno (linked.addresses _ p (Or.inl (ExtTreeSet.contains_iff_mem.mp hc)))
  have hleases : ∀ p, (device s op.target).leases.contains p = false := fun p =>
    Bool.eq_false_iff.mpr fun hc =>
      hno (linked.addresses _ p (Or.inr (ExtTreeMap.contains_iff_mem.mp hc)))
  cases op <;> simp_all [act, Op.isPlain]

/-- What the model accepts in a linked state is about links. -/
theorem lookups_of_accepted {op : Op} {s' : ActualState} (linked : Linked s)
    (h : fakeApply op s = (.ok (), s')) : ∀ name ∈ lookups op, name ∈ s.links := by
  have hmem : ∀ {name : String} {l : Link}, s.links[name]? = some l → name ∈ s.links :=
    fun hl => (BTreeMap.mem_iff _ _).mpr ⟨_, hl⟩
  cases op with
  | createBridge name => simp [lookups]
  | configureBridge name =>
    simp only [fakeApply, applyConfigureBridge] at h
    split at h
    · next hl => simpa [lookups, Op.target] using hmem hl
    · cases h
  | deleteLink name =>
    simp only [fakeApply] at h
    cases hsize : s.links.size with
    | zero =>
      rw [hsize] at h
      cases h
    | succ fuel =>
      rw [hsize, applyDeleteLink] at h
      split at h
      · next hin => simpa [lookups, Op.target] using hin
      · cases h
  | createVlan name parent id =>
    simp only [fakeApply] at h
    split at h
    · cases h
    · split at h
      · cases h
      · next hparent => simpa [lookups] using hparent
  | setMaster name master =>
    simp only [fakeApply, applySetMaster] at h
    split at h
    · cases h
    · next pvid hpvid =>
      split at h
      · cases h
      · next l hl =>
        cases master with
        | none => simpa [lookups] using hmem hl
        | some m =>
          have hm : m ∈ s.links := by
            unfold masterPvid at hpvid
            cases hlm : s.links[m]? with
            | none => simp [hlm] at hpvid
            | some lm => exact hmem hlm
          simpa [lookups] using ⟨hm, hmem hl⟩
  | _ =>
    obtain ⟨d, hact, -⟩ := (localEffect_of_isPlain rfl s).of_ok h
    simpa [lookups] using target_mem_of_act linked rfl (by simp) hact

end Operations

section SpanningTree
variable {leavesStp : Bool} {s : ActualState} {name : String}

def IsBridge (s : ActualState) (name : String) : Prop :=
  ∃ settings up master, s.links[name]? = some ⟨.bridge settings, up, master⟩

theorem withStp_link {settings : BridgeSettings} {up : Bool} {master : Option String}
    (h : s.links[name]? = some ⟨.bridge settings, up, master⟩) (stp : BridgeStp) :
    (withStp name stp s).links[name]? = some ⟨.bridge { settings with stp }, up, master⟩ := by
  simp [withStp, h]

theorem IsBridge.withStp (h : IsBridge s name) (stp : BridgeStp) :
    IsBridge (withStp name stp s) name := by
  obtain ⟨settings, up, master, hl⟩ := h
  exact ⟨_, up, master, withStp_link hl stp⟩

theorem withStp_withStp (stp stp' : BridgeStp) :
    withStp name stp' (withStp name stp s) = withStp name stp' s := by
  by_cases h : IsBridge s name
  · obtain ⟨settings, up, master, hl⟩ := h
    have hlinks : ∀ l l' : Link, (s.links.insert name l).insert name l' = s.links.insert name l' := by
      intro l l'
      refine ExtTreeMap.ext_getElem? fun k => ?_
      simp only [ExtTreeMap.getElem?_insert]
      split <;> rfl
    simp [withStp, hl, hlinks]
  · have hsame : withStp name stp s = s := by
      unfold withStp
      split
      · next settings up master hl => exact absurd ⟨settings, up, master, hl⟩ h
      · rfl
    rw [hsame]

theorem setBridgeStp_of_bridge (h : IsBridge s name) (on : Bool) :
    fakeApply (.setBridgeStp name on) s =
      (.ok (), withStp name (if on then .user else .off) s) := by
  obtain ⟨settings, up, master, hl⟩ := h
  simp [fakeApply, applySetBridgeStp, withStp, hl]

theorem setBridgeStp_of_not_bridge (h : ¬ IsBridge s name) (on : Bool) :
    fakeApply (.setBridgeStp name on) s = (.error ⟨"not a bridge"⟩, s) := by
  simp only [fakeApply, applySetBridgeStp]
  split
  · next settings up master hl => exact absurd ⟨settings, up, master, hl⟩ h
  · rfl

/-- The setting that a message to switch spanning tree on or off leads to. -/
def stpFor (leavesStp on : Bool) : BridgeStp :=
  if on then (if leavesStp then .user else .kernel) else .off

theorem effect_setBridgeStp (h : IsBridge s name) (on : Bool) :
    effect leavesStp (.setBridgeStp name on) s = (.ok (), withStp name (stpFor leavesStp on) s) := by
  have haccept := setBridgeStp_of_bridge h on
  cases on with
  | false => simpa [effect, stpFor] using haccept
  | true => cases leavesStp <;> simp [effect, stpFor, haccept]

theorem AboutLink.showsKernelStp_eq {ix : String → Nat} {e : String × Link} {m : LinkMessage}
    (about : AboutLink ix e m) : showsKernelStp name m =
      (e.1 == name && match e.2.kind with
        | .bridge settings => settings.stp == .kernel
        | _ => false) := by
  have hnames : NamesOf ix {} ∅ := fun name => by simp [Option.filter_some]
  rw [showsKernelStp, about.linkName_eq, about.linkKind_eq hnames]
  cases e.2.kind <;> simp [shownKind]

theorem dump_showsKernelStp {settings : BridgeSettings} {up : Bool} {master : Option String}
    (hl : s.links[name]? = some ⟨.bridge settings, up, master⟩) {ix : String → Nat}
    {ms : List LinkMessage} (lists : ListsLinks ix s ms) :
    ms.any (showsKernelStp name) = (settings.stp == .kernel) := by
  obtain ⟨l, perm, about⟩ := lists
  have hany : ms.any (showsKernelStp name) = l.any fun e => e.1 == name && match e.2.kind with
      | .bridge settings => settings.stp == .kernel
      | _ => false := by
    clear perm
    induction about with
    | nil => rfl
    | cons first _ ih => rw [List.any_cons, List.any_cons, first.showsKernelStp_eq, ih]
  rw [hany, Bool.eq_iff_iff, List.any_eq_true]
  constructor
  · rintro ⟨⟨name', link⟩, hmem, hshows⟩
    rw [Bool.and_eq_true, beq_iff_eq] at hshows
    obtain ⟨rfl, hkernel⟩ := hshows
    have hlink := ExtTreeMap.mem_toList_iff_getElem?_eq_some.mp (perm.mem_iff.mp hmem)
    rw [hl] at hlink
    cases hlink
    exact hkernel
  · intro hkernel
    refine ⟨_, perm.mem_iff.mpr (ExtTreeMap.mem_toList_iff_getElem?_eq_some.mpr hl), ?_⟩
    simpa using hkernel

/-- What asking for spanning tree in userspace can come to. -/
inductive Enabled (leavesStp : Bool) (willing : Prop) (name : String) (s : ActualState) :
    Except NetError Unit → ActualState → Prop where
  | user (leaves : leavesStp = true) :
    Enabled leavesStp willing name s (.ok ()) (withStp name .user s)
  | refused (e : NetError) (unwilling : ¬ willing) : Enabled leavesStp willing name s (.error e) s
  | partly (e : NetError) (stp : BridgeStp) (unwilling : ¬ willing) :
    Enabled leavesStp willing name s (.error e) (withStp name stp s)
  | undone (e : NetError) (keeps : leavesStp = false) :
    Enabled leavesStp willing name s (.error e) (withStp name .off s)

end SpanningTree

section Requests
variable {κ : Type} {peer : Peer κ} {state : κ → ActualState} {ifindex : κ → String → Nat}
  {leavesStp : Bool} {willing : Prop} {b : Backend κ}
  (h : KernelPeer peer state ifindex leavesStp willing) (ready : Ready b)
include h ready

theorem index_peer (name : String) : ∃ b', Unmoved state ifindex b b' ∧
      ((∃ e, index peer name b = (.error e, b') ∧ ¬ (willing ∧ name ∈ (state b.kernel).links)) ∨
        (index peer name b = (.ok (ifindex b.kernel name), b') ∧
          name ∈ (state b.kernel).links)) := by
  obtain ⟨b', unmoved, hresult⟩ := (h.lookup (b.seq + 1) b.kernel name).request ready
  refine ⟨b', unmoved, ?_⟩
  rcases hresult with ⟨e, hrun, unwilling⟩ | ⟨replies, hrun, hin, m, hm, hindex⟩
  · have hfail : withError (request peer (.getLink { attributes := [.ifName name] }) { ack := true })
        (fun e => ⟨s!"{name}: {e.message}"⟩) b = (.error ⟨s!"{name}: {e.message}"⟩, b') := by
      simp only [withError, hrun]
    exact Or.inl ⟨_, Failing.bind_of_error hfail, unwilling⟩
  · have hfound : withError (request peer (.getLink { attributes := [.ifName name] }) { ack := true })
        (fun e => ⟨s!"{name}: {e.message}"⟩) b = (.ok replies, b') := by
      simp only [withError, hrun]
    refine Or.inr ⟨(Failing.bind_of_ok hfound).trans ?_, hin⟩
    simp only [hm, List.head?_cons, hindex]
    rfl

theorem modify_peer {message : RouteMessage} {flags : Flags} {op : Op}
    (asks : Asks (ifindex b.kernel) message { flags with ack := true } op)
    (there : ∀ name ∈ lookups op, name ∈ (state b.kernel).links) :
    Sent state leavesStp willing op (state b.kernel) (modify peer message flags b) := by
  obtain ⟨result, k', deals, hresult⟩ := h.carriesOut (b.seq + 1) b.kernel _ _ op asks there
  have hrequest := request_deals ready deals
  have hmodify : modify peer message flags b = (result.map fun _ => (), after b k') := by
    cases result with
    | ok replies => exact Failing.bind_of_ok hrequest
    | error e => exact Failing.bind_of_error hrequest
  have hok : (result.map fun _ => ()).isOk = result.isOk := by cases result <;> rfl
  rw [hmodify]
  refine ⟨ready, ?_⟩
  rcases hresult with ⟨hno, hstate, unwilling⟩ | ⟨hmodel, hstate⟩
  · exact Or.inr ⟨hok.trans hno, hstate, fun hwilling => absurd hwilling unwilling⟩
  · exact Or.inl ⟨hok.trans hmodel, hstate⟩

theorem lookup_then {op : Op} {name : String} (hname : name ∈ lookups op)
    {rest : Nat → BackendM κ Unit}
    (hrest : ∀ b', Unmoved state ifindex b b' → name ∈ (state b.kernel).links →
      Sent state leavesStp willing op (state b.kernel) (rest (ifindex b.kernel name) b')) :
    Sent state leavesStp willing op (state b.kernel) ((index peer name >>= rest) b) := by
  obtain ⟨b', unmoved, hindex⟩ := index_peer h ready name
  rcases hindex with ⟨e, hrun, hno⟩ | ⟨hrun, hin⟩
  · rw [Failing.bind_of_error hrun]
    exact ⟨unmoved.ready, Or.inr ⟨rfl, unmoved.state,
      fun hwilling => ⟨name, hname, fun hin => hno ⟨hwilling, hin⟩⟩⟩⟩
  · rw [Failing.bind_of_ok hrun]
    exact hrest b' unmoved hin

/-- One lookup and one message. -/
theorem lookup_then_modify {op : Op} {name : String} (hlookups : lookups op = [name])
    {message : Nat → RouteMessage} {flags : Flags}
    (asks : ∀ ix : String → Nat, Asks ix (message (ix name)) { flags with ack := true } op) :
    Sent state leavesStp willing op (state b.kernel)
      ((index peer name >>= fun i => modify peer (message i) flags) b) := by
  refine lookup_then h ready (by simp [hlookups]) fun b' unmoved hin => ?_
  rw [← unmoved.state, ← unmoved.ifindex]
  exact modify_peer h unmoved.ready (asks _) (by simpa [hlookups, unmoved.state] using hin)

theorem setBridgeInfo_sent {name : String} {on : Bool} {data : List InfoBridge}
    (asks : ∀ ix, Asks ix (.newLink { index := ix name, attributes :=
      [.linkInfo [.kind .bridge, .data (.bridge data)]] }) { ack := true } (.setBridgeStp name on)) :
    Sent state leavesStp willing (.setBridgeStp name on) (state b.kernel)
      (setBridgeInfo peer name data b) :=
  lookup_then_modify h ready rfl asks

theorem setMaster_sent (name : String) (master : Option String) :
    Sent state leavesStp willing (.setMaster name master) (state b.kernel)
      (Netlink.apply peer (.setMaster name master) b) := by
  cases master with
  | none => exact lookup_then_modify h ready rfl fun ix => .setMaster name none
  | some m =>
    refine lookup_then h ready (by simp [lookups]) fun b₁ unmoved₁ hm => ?_
    rw [← unmoved₁.state, ← unmoved₁.ifindex]
    refine lookup_then h unmoved₁.ready (by simp [lookups]) fun b₂ unmoved₂ hname => ?_
    rw [← unmoved₂.state, ← unmoved₂.ifindex]
    refine modify_peer h unmoved₂.ready (.setMaster name (some m)) ?_
    rw [unmoved₂.state]
    rw [← unmoved₁.state] at hm
    simpa [lookups] using ⟨hm, hname⟩

theorem apply_sent {op : Op} (single : isSingle op = true) :
    Sent state leavesStp willing op (state b.kernel) (Netlink.apply peer op b) := by
  cases op with
  | createBridge name => exact modify_peer h ready (.createBridge name) (by simp [lookups])
  | configureBridge name => exact lookup_then_modify h ready rfl fun ix => .configureBridge name
  | setBridgeStp name on =>
    cases on with
    | true => cases single
    | false => exact setBridgeInfo_sent h ready fun ix => .stpOff name
  | deleteLink name => exact lookup_then_modify h ready rfl fun ix => .deleteLink name
  | createVlan name parent id =>
    exact lookup_then_modify h ready rfl fun ix => .createVlan name parent id
  | setMaster name master => exact setMaster_sent h ready name master
  | setUp name up => exact lookup_then_modify h ready rfl fun ix => .setUp name up
  | addBridgeVlan dev vid flags =>
    exact lookup_then_modify h ready rfl fun ix => .addBridgeVlan dev vid flags
  | delBridgeVlan dev vid => exact lookup_then_modify h ready rfl fun ix => .delBridgeVlan dev vid
  | addAddress dev p => exact lookup_then_modify h ready rfl fun ix => .addAddress dev p
  | delAddress dev p => exact lookup_then_modify h ready rfl fun ix => .delAddress dev p

/-- One message about spanning tree is refused without a change, or has its effect. -/
theorem setBridgeInfo_step {name : String} (bridge : IsBridge (state b.kernel) name) {on : Bool}
    {data : List InfoBridge}
    (asks : ∀ ix, Asks ix (.newLink { index := ix name, attributes :=
      [.linkInfo [.kind .bridge, .data (.bridge data)]] }) { ack := true } (.setBridgeStp name on)) :
    ∃ b', Ready b' ∧
      ((∃ e, setBridgeInfo peer name data b = (.error e, b') ∧ ¬ willing ∧
          state b'.kernel = state b.kernel) ∨
        (setBridgeInfo peer name data b = (.ok (), b') ∧
          state b'.kernel = withStp name (stpFor leavesStp on) (state b.kernel))) := by
  obtain ⟨hready, hsent⟩ := setBridgeInfo_sent h ready asks
  rw [effect_setBridgeStp bridge] at hsent
  obtain ⟨settings, up, master, hl⟩ := bridge
  have hin : name ∈ (state b.kernel).links := (BTreeMap.mem_iff _ _).mpr ⟨_, hl⟩
  cases hrun : setBridgeInfo peer name data b with
  | mk result b' =>
    rw [hrun] at hready hsent
    refine ⟨b', hready, ?_⟩
    rcases hsent with ⟨hok, hstate⟩ | ⟨hno, hstate, hmissing⟩
    · cases result with
      | error e => cases hok
      | ok u => exact Or.inr ⟨rfl, hstate⟩
    · cases result with
      | ok u => cases hno
      | error e =>
        refine Or.inl ⟨e, rfl, fun hwilling => ?_, hstate⟩
        obtain ⟨missing, hmem, hnot⟩ := hmissing hwilling
        obtain rfl : missing = name := by simpa [lookups, Op.target] using hmem
        exact hnot hin

theorem enableStp_enabled {name : String} (bridge : IsBridge (state b.kernel) name) :
    Ready (enableStp peer name b).2 ∧ Enabled leavesStp willing name (state b.kernel)
      (enableStp peer name b).1 (state (enableStp peer name b).2.kernel) := by
  obtain ⟨b₁, ready₁, hfirst⟩ := setBridgeInfo_step h ready bridge fun ix => .stpUser name
  rcases hfirst with ⟨e, hrun₁, unwilling, hstate₁⟩ | ⟨hrun₁, hstate₁⟩
  · rw [enableStp, Failing.bind_of_error hrun₁]
    exact ⟨ready₁, hstate₁ ▸ .refused e unwilling⟩
  have bridge₁ : IsBridge (state b₁.kernel) name := hstate₁ ▸ bridge.withStp _
  obtain ⟨b₂, ready₂, hsecond⟩ := setBridgeInfo_step h ready₁ bridge₁ fun ix => .stpOn name
  rw [enableStp, Failing.bind_of_ok hrun₁]
  rcases hsecond with ⟨e, hrun₂, unwilling, hstate₂⟩ | ⟨hrun₂, hstate₂⟩
  · rw [setStpState, Failing.bind_of_error hrun₂]
    refine ⟨ready₂, ?_⟩
    rw [hstate₂, hstate₁]
    exact .partly e _ unwilling
  rw [hstate₁, withStp_withStp] at hstate₂
  obtain ⟨b₃, unmoved, hdump⟩ := (h.links (b₂.seq + 1) b₂.kernel).dumpLinks ready₂
  rw [setStpState, Failing.bind_of_ok hrun₂]
  rcases hdump with ⟨e, hrun₃, unwilling⟩ | ⟨ms, hrun₃, lists⟩
  · rw [Failing.bind_of_error hrun₃]
    refine ⟨unmoved.ready, ?_⟩
    rw [unmoved.state, hstate₂]
    exact .partly e _ unwilling
  have bridge₃ : IsBridge (state b₃.kernel) name := unmoved.state ▸ hstate₂ ▸ bridge.withStp _
  obtain ⟨settings, up, master, hl⟩ := bridge
  have hshows := dump_showsKernelStp (hstate₂ ▸ withStp_link hl (stpFor leavesStp true)) lists
  rw [Failing.bind_of_ok hrun₃, hshows]
  cases leavesStp with
  | true =>
    rw [← unmoved.state] at hstate₂
    exact ⟨unmoved.ready, hstate₂ ▸ .user rfl⟩
  | false =>
    obtain ⟨b₄, ready₄, hthird⟩ :=
      setBridgeInfo_step h unmoved.ready bridge₃ fun ix => .stpOff name
    rw [unmoved.state, hstate₂] at hthird
    have hkernel : (stpFor false true == .kernel) = true := rfl
    rw [if_pos hkernel, setStpState]
    rcases hthird with ⟨e, hrun₄, unwilling, hstate₄⟩ | ⟨hrun₄, hstate₄⟩
    · rw [Failing.bind_of_error hrun₄]
      refine ⟨ready₄, ?_⟩
      rw [hstate₄]
      exact .partly e _ unwilling
    · rw [Failing.bind_of_ok hrun₄]
      refine ⟨ready₄, ?_⟩
      change Enabled false willing name (state b.kernel) (.error kernelStpRefused) (state b₄.kernel)
      rw [hstate₄, withStp_withStp]
      exact .undone _ rfl

theorem enableStp_of_not_bridge {name : String} (hno : ¬ IsBridge (state b.kernel) name) :
    Ready (enableStp peer name b).2 ∧ (enableStp peer name b).1.isOk = false ∧
      state (enableStp peer name b).2.kernel = state b.kernel := by
  have hsent := setBridgeInfo_sent h ready fun ix => .stpUser name
  have heffect := hsent.model rfl
  rw [setBridgeStp_of_not_bridge hno] at heffect
  cases hrun : setBridgeInfo peer name [.stpModeUser, .stpState .disabled] b with
  | mk result b' =>
    rw [hrun] at heffect hsent
    cases result with
    | ok u => rcases heffect with ⟨hok, -⟩ | ⟨hok, -⟩ <;> cases hok
    | error e =>
      rw [enableStp, Failing.bind_of_error hrun]
      exact ⟨hsent.1, rfl, by rcases heffect with ⟨-, hstate⟩ | ⟨-, hstate⟩ <;> exact hstate⟩

/-- The backend is on the model: each operation has its effect there, or fails with no effect
besides a setting of spanning tree. -/
theorem apply_peer (op : Op) : Ready (Netlink.apply peer op b).2 ∧
      (((Netlink.apply peer op b).1.isOk = (fakeApply op (state b.kernel)).1.isOk ∧
          state (Netlink.apply peer op b).2.kernel = (fakeApply op (state b.kernel)).2) ∨
        ((Netlink.apply peer op b).1.isOk = false ∧
          Refused op (state b.kernel) (state (Netlink.apply peer op b).2.kernel))) := by
  cases hsingle : isSingle op with
  | true =>
    have hsent := apply_sent h ready hsingle
    exact ⟨hsent.1, (hsent.model hsingle).imp_right fun hno => ⟨hno.1, Or.inl hno.2⟩⟩
  | false =>
    obtain ⟨name, rfl⟩ := eq_setBridgeStp hsingle
    change Ready (enableStp peer name b).2 ∧ _
    by_cases hbridge : IsBridge (state b.kernel) name
    · obtain ⟨hready, henabled⟩ := enableStp_enabled h ready hbridge
      refine ⟨hready, ?_⟩
      change ((enableStp peer name b).1.isOk = _ ∧ state (enableStp peer name b).2.kernel = _) ∨
        ((enableStp peer name b).1.isOk = _ ∧ Refused _ _ (state (enableStp peer name b).2.kernel))
      rw [setBridgeStp_of_bridge hbridge]
      generalize (enableStp peer name b).1 = result at henabled ⊢
      generalize state (enableStp peer name b).2.kernel = s at henabled ⊢
      cases henabled with
      | user leaves => exact Or.inl ⟨rfl, rfl⟩
      | refused e unwilling => exact Or.inr ⟨rfl, Or.inl rfl⟩
      | partly e stp unwilling => exact Or.inr ⟨rfl, Or.inr ⟨name, true, stp, rfl, rfl⟩⟩
      | undone e keeps => exact Or.inr ⟨rfl, Or.inr ⟨name, true, .off, rfl, rfl⟩⟩
    · obtain ⟨hready, hno, hstate⟩ := enableStp_of_not_bridge h ready hbridge
      exact ⟨hready, Or.inr ⟨hno, Or.inl hstate⟩⟩

theorem observe_ready : Ready (observe peer b).2 := by
  obtain ⟨b', unmoved, ⟨e, hrun, -⟩ | hrun⟩ := observe_peer h ready <;> exact hrun ▸ unmoved.ready

end Requests

section Backend
variable {κ : Type} {peer : Peer κ} {state : κ → ActualState} {ifindex : κ → String → Nat}
  {leavesStp : Bool} {willing : Prop} {b : Backend κ}

theorem apply_willing (h : KernelPeer peer state ifindex true willing) (hwilling : willing)
    (ready : Ready b) {op : Op} {s : ActualState} (linked : Linked (state b.kernel))
    (model : fakeApply op (state b.kernel) = (.ok (), s)) :
    (Netlink.apply peer op b).1 = .ok () ∧ state (Netlink.apply peer op b).2.kernel = s := by
  cases hsingle : isSingle op with
  | true =>
    exact (apply_sent h ready hsingle).accepted hwilling hsingle (lookups_of_accepted linked model)
      model
  | false =>
    obtain ⟨name, rfl⟩ := eq_setBridgeStp hsingle
    have hbridge : IsBridge (state b.kernel) name := by
      by_contra hno
      rw [setBridgeStp_of_not_bridge hno] at model
      cases model
    rw [setBridgeStp_of_bridge hbridge] at model
    obtain rfl : withStp name .user (state b.kernel) = s := (Prod.mk.inj model).2
    have henabled := (enableStp_enabled h ready hbridge).2
    change (enableStp peer name b).1 = _ ∧ state (enableStp peer name b).2.kernel = _
    generalize (enableStp peer name b).1 = result at henabled ⊢
    generalize state (enableStp peer name b).2.kernel = s at henabled ⊢
    cases henabled with
    | user leaves => exact ⟨rfl, rfl⟩
    | refused e unwilling => exact absurd hwilling unwilling
    | partly e stp unwilling => exact absurd hwilling unwilling
    | undone e keeps => cases keeps

abbrev Socket (κ : Type) : Type := { b : Backend κ // Ready b }

/-- The backend on the sockets that it leaves between its requests. -/
def KernelPeer.net (h : KernelPeer peer state ifindex leavesStp willing) :
    NetBackend (Socket κ) where
  observe b := ((observe peer b.1).1, ⟨(observe peer b.1).2, observe_ready h b.2⟩)
  apply op b :=
    ((Netlink.apply peer op b.1).1, ⟨(Netlink.apply peer op b.1).2, (apply_peer h b.2 op).1⟩)

def socketState (state : κ → ActualState) (b : Socket κ) : ActualState := state b.1.kernel

theorem KernelPeer.modelNet (h : KernelPeer peer state ifindex leavesStp willing) :
    ModelNet h.net (socketState state) where
  observe b := by
    change state (observe peer b.1).2.kernel = state b.1.kernel
    obtain ⟨b', unmoved, ⟨e, hrun, -⟩ | hrun⟩ := observe_peer h b.2 <;> exact hrun ▸ unmoved.state
  observed b a hok := by
    change (observe peer b.1).1 = .ok a at hok
    obtain ⟨b', unmoved, ⟨e, hrun, -⟩ | hrun⟩ := observe_peer h b.2
    · rw [hrun] at hok
      cases hok
    · rw [hrun] at hok
      exact Or.inr (Except.ok.inj hok).symm
  apply op b := (apply_peer h b.2 op).2

theorem KernelPeer.willingNet (h : KernelPeer peer state ifindex true willing) (hwilling : willing) :
    WillingNet h.net (socketState state) where
  observe b := by
    obtain ⟨b', unmoved, ⟨e, -, unwilling⟩ | hrun⟩ := observe_peer h b.2
    · exact absurd hwilling unwilling
    · refine ⟨seen (state b.1.kernel), ⟨b', unmoved.ready⟩, ?_, Or.inr rfl, unmoved.state⟩
      refine Prod.ext ?_ (Subtype.ext ?_)
      · change (observe peer b.1).1 = _
        rw [hrun]
      · change (observe peer b.1).2 = _
        rw [hrun]
  apply op b s linked model := by
    obtain ⟨hok, hstate⟩ := apply_willing h hwilling b.2 linked model
    exact ⟨_, Prod.ext hok rfl, hstate⟩

theorem reconcile_socket (h : KernelPeer peer state ifindex leavesStp willing) (d : DesiredState)
    (b : Socket κ) :
    reconcile (netBackend peer) d b.1 = ((reconcile h.net d b).1, (reconcile h.net d b).2.1) :=
  reconcileRounds_map Subtype.val (fun _ => rfl) (fun _ _ => rfl) d maxRounds [] b

/-- A reconciliation over the socket, with some peer and some configuration. -/
structure Attempt (κ : Type) where
  peer : Peer κ
  desired : DesiredState

def Attempt.run (a : Attempt κ) (b : Backend κ) : Backend κ :=
  (reconcile (netBackend a.peer) a.desired b).2

theorem attempts_keep (inv : Backend κ → Prop) {history : List (Attempt κ)}
    (kernels : ∀ a ∈ history, ∃ leavesStp, KernelPeer a.peer state ifindex leavesStp willing)
    (step : ∀ a ∈ history, ∀ b, Ready b → inv b → inv (a.run b)) (ready : Ready b) (hb : inv b) :
    Ready (history.foldl (fun b a => a.run b) b) ∧ inv (history.foldl (fun b a => a.run b) b) := by
  induction history generalizing b with
  | nil => exact ⟨ready, hb⟩
  | cons a rest ih =>
    obtain ⟨leavesStp, h⟩ := kernels a List.mem_cons_self
    have hready : Ready (a.run b) := by
      rw [Attempt.run, reconcile_socket h a.desired ⟨b, ready⟩]
      exact (reconcile h.net a.desired ⟨b, ready⟩).2.2
    exact ih (fun a' ha' => kernels a' (List.mem_cons_of_mem a ha'))
      (fun a' ha' => step a' (List.mem_cons_of_mem a ha')) hready
      (step a List.mem_cons_self b ready hb)

end Backend

/-- Over rtnetlink, whatever links are numbered and dumps are cut into, and whatever earlier
reconciliations did on kernels that may refuse anything and may keep spanning tree to
themselves: on a kernel that accepts, `reconcile` applies the operations that it would apply
on the model, and ends in the state that it would reach there, which is the desired one. -/
theorem netlink_reconcile_as_model {κ : Type} (state : κ → ActualState)
    (ifindex : κ → String → Nat) (boot : ActualState) (booted : Booted boot)
    (history : List (Attempt κ))
    (kernels : ∀ a ∈ history, ∃ leavesStp, KernelPeer a.peer state ifindex leavesStp False)
    (legal : ∀ a ∈ history, bridgeName ∉ a.desired.svis)
    (start : Backend κ) (ready : Ready start) (atBoot : state start.kernel = boot)
    (peer : Peer κ) (kernel : KernelPeer peer state ifindex true True) (d : DesiredState)
    (hbr : bridgeName ∉ d.svis) (free : ∀ name ∈ d.svis, name ∉ boot.links)
    (b : Backend κ) (hb : b = history.foldl (fun b a => a.run b) start) :
    ∃ ops b', reconcile (netBackend peer) d b = (.ok ops, b') ∧
      reconcile fakeNet d (state b.kernel) = (.ok ops, state b'.kernel) ∧
      Matches d (state b'.kernel) := by
  have hhistory : Ready b ∧ Tended boot (state b.kernel) := by
    subst hb
    refine attempts_keep (fun b => Tended boot (state b.kernel)) kernels
      (fun a ha b ready tended => ?_) ready (atBoot ▸ booted.tended)
    obtain ⟨leavesStp, h⟩ := kernels a ha
    let w : Socket κ := ⟨b, ready⟩
    have htended := h.modelNet.reconcileRounds_tended (w := w) booted (legal a ha) maxRounds [] tended
    rw [Attempt.run, reconcile_socket h a.desired w]
    exact htended
  obtain ⟨ready', tended⟩ := hhistory
  have foreign := tended.noForeign hbr free
  obtain ⟨ops, hok⟩ := reconcile_ok_of_fresh (tended.roundStart foreign hbr)
    (tended.platformFree booted foreign) tended.not_staleDefault
  cases hmodel : reconcile fakeNet d (state b.kernel) with
  | mk result u =>
    rw [hmodel] at hok
    obtain rfl : result = .ok ops := hok
    let w : Socket κ := ⟨b, ready'⟩
    obtain ⟨w', hrun, hstate⟩ := (kernel.willingNet trivial).reconcileRounds_ok (w := w) booted
      hbr tended hmodel
    refine ⟨ops, w'.1, ?_, ?_, ?_⟩
    · rw [reconcile_socket kernel d w]
      exact congrArg (fun x => (x.1, x.2.1)) hrun
    · exact congrArg (Prod.mk _) hstate.symm
    · exact (show state w'.1.kernel = u from hstate) ▸ reconcileRounds_ok_matches hmodel

section Bench

def codeOf (name : String) : Nat := Encodable.encode (name.toList.map Char.toNat)

theorem codeOf_injective : Function.Injective codeOf := by
  intro name name' h
  have hnat : Function.Injective Char.toNat := fun _ _ => Char.toNat_inj.mp
  have hchars := List.map_injective_iff.mpr hnat (Encodable.encode_injective h)
  exact String.toList_injective hchars

def benchIndex (name : String) : Nat := codeOf name + 1

theorem benchIndex_injective : Function.Injective benchIndex :=
  fun _ _ h => codeOf_injective (Nat.succ.inj h)

noncomputable def benchName : Nat → String := Function.invFun benchIndex

theorem benchName_benchIndex (name : String) : benchName (benchIndex name) = name :=
  Function.leftInverse_invFun benchIndex_injective name

def benchKind : LinkKind → List LinkAttribute
  | .dsa conduit =>
    [.linkInfo (.kind .dsa ::
      (conduit.map fun c => LinkInfo.data (.dsa [.conduit (benchIndex c)])).toList)]
  | .bridge b =>
    [.linkInfo [.kind .bridge, .data (.bridge [.other, .stpState (stpStateOf b.stp),
      .vlanFiltering b.vlanFiltering, .multiBoolOpt b.mstEnabled true,
      .vlanDefaultPvid b.defaultPvid])]]
  | .vlan parent id => [.link (benchIndex parent), .linkInfo [.kind .vlan, .data (.vlan [.id id])]]
  | .other => []

def benchLink (e : String × Link) : LinkMessage where
  index := benchIndex e.1
  up := e.2.up
  attributes := .ifName e.1 :: .other ::
    ((e.2.master.map fun m => .controller (benchIndex m)).toList ++ benchKind e.2.kind)

def benchVlans (s : ActualState) (e : String × Link) : LinkMessage where
  family := .bridge
  index := benchIndex e.1
  attributes := [.ifName e.1, .afSpecBridge ((s.bridgeVlans.getD e.1 ∅).toList.map fun v =>
    .vlanInfo ⟨v.1, v.2.pvid, v.2.untagged⟩)]

def benchAddress (e : AddressEntry) : AddressMessage where
  family := .inet
  index := benchIndex e.dev
  prefixLen := e.address.prefixLen
  attributes := [.local (.v4 e.address.addr), .flags e.valid.isNone, .cacheInfo (e.valid.getD 0)]

theorem benchLink_about (e : String × Link) : AboutLink benchIndex e (benchLink e) := by
  obtain ⟨name, kind, up, master⟩ := e
  refine ⟨rfl, rfl, ?_, ?_, ?_⟩
  · cases master <;> cases kind <;> rfl
  · cases master <;> cases kind <;> rfl
  · have hlinks : (benchLink (name, ⟨kind, up, master⟩)).attributes.filterMap linkIndex? =
        (benchKind kind).filterMap linkIndex? := by
      cases master <;> rfl
    have hinfos : (benchLink (name, ⟨kind, up, master⟩)).attributes.flatMap linkInfos =
        (benchKind kind).flatMap linkInfos := by
      cases master <;> rfl
    rw [hlinks, hinfos]
    cases kind with
    | dsa conduit =>
      cases conduit with
      | none => exact .dsaAlone
      | some c => exact .dsa [] [.conduit (benchIndex c)] c rfl
    | bridge b => exact .bridge [] _ b true (List.Perm.refl _)
    | vlan parent id => exact .vlan [.id id] parent id rfl
    | other => exact .other [] [] [] (by simp)

theorem benchVlans_about (s : ActualState) (e : String × Link) :
    AboutVlans benchIndex s e (benchVlans s e) := by
  refine ⟨rfl, ?_⟩
  simp [benchVlans, vlanInfos, List.filterMap_map, Function.comp_def, vlanInfo?,
    List.filterMap_eq_map']

theorem benchAddress_about (e : AddressEntry) : AboutAddress benchIndex e (benchAddress e) := by
  obtain ⟨dev, address, valid⟩ := e
  refine ⟨rfl, rfl, rfl, rfl, ?_⟩
  rintro _ rfl
  rfl

/-- The operation that a message asks for. -/
noncomputable def benchAsked : RouteMessage → Option Op
  | .newLink m =>
    match m.attributes with
    | [.ifName name, .link parent, .linkInfo [_, .data (.vlan [.id id])]] =>
      some (.createVlan name (benchName parent) id)
    | [.ifName name, _] => some (.createBridge name)
    | [.linkInfo [_, .data (.bridge [.stpState .kernelStp])]] =>
      some (.setBridgeStp (benchName m.index) true)
    | [.linkInfo [_, .data (.bridge [_, _, _])]] => some (.configureBridge (benchName m.index))
    | _ => some (.setBridgeStp (benchName m.index) false)
  | .setLink m =>
    match m.attributes with
    | [.controller i] =>
      some (.setMaster (benchName m.index) (if i = 0 then none else some (benchName i)))
    | [.afSpecBridge spec] => (spec.findSome? vlanInfo?).map fun info =>
        .addBridgeVlan (benchName m.index) info.vid ⟨info.pvid, info.untagged⟩
    | _ => some (.setUp (benchName m.index) m.up)
  | .delLink m =>
    match m.attributes with
    | [.afSpecBridge spec] =>
      (spec.findSome? vlanInfo?).map fun info => .delBridgeVlan (benchName m.index) info.vid
    | _ => some (.deleteLink (benchName m.index))
  | .newAddress m => (m.attributes.findSome? AddressAttribute.local?).map fun addr =>
      .addAddress (benchName m.index) ⟨addr, m.prefixLen⟩
  | .delAddress m => (m.attributes.findSome? AddressAttribute.local?).map fun addr =>
      .delAddress (benchName m.index) ⟨addr, m.prefixLen⟩
  | _ => none

theorem benchAsked_of_asks {message : RouteMessage} {flags : Flags} {op : Op}
    (h : Asks benchIndex message flags op) : benchAsked message = some op := by
  cases h with
  | setMaster name master =>
    cases master with
    | none => simp [benchAsked, benchName_benchIndex]
    | some m =>
      have hpos : benchIndex m ≠ 0 := Nat.succ_ne_zero _
      simp [benchAsked, benchName_benchIndex, hpos]
  | addBridgeVlan dev vid flags =>
    by_cases hdev : dev = bridgeName <;>
      simp [benchAsked, benchName_benchIndex, hdev, vlanInfo?, List.findSome?_cons]
  | delBridgeVlan dev vid =>
    by_cases hdev : dev = bridgeName <;>
      simp [benchAsked, benchName_benchIndex, hdev, vlanInfo?, List.findSome?_cons]
  | addAddress dev p =>
    simp [benchAsked, benchName_benchIndex, AddressAttribute.local?, List.findSome?_cons]
  | delAddress dev p =>
    simp [benchAsked, benchName_benchIndex, AddressAttribute.local?, List.findSome?_cons]
  | _ => simp [benchAsked, benchName_benchIndex, bridgeInfo]

/-- The error numbers are ENODEV, EINVAL, EBUSY and EPERM. -/
noncomputable def benchCall (leavesStp busy : Bool) (req : Request) (s : ActualState) :
    Except Int (List RouteMessage) × ActualState :=
  match req.message with
  | .getLink m =>
    if req.flags.dump then
      (.ok (s.links.toList.map fun e =>
        .newLink (if m.family = .bridge then benchVlans s e else benchLink e)), s)
    else
      match linkName m with
      | some name => if name ∈ s.links then (.ok [.newLink { index := benchIndex name }], s)
        else (.error (-19), s)
      | none => (.error (-22), s)
  | .getAddress _ => (.ok ((addressEntries s).map fun e => .newAddress (benchAddress e)), s)
  | message =>
    match benchAsked message with
    | none => (.error (-22), s)
    | some op =>
      if busy then (.error (-16), s)
      else
        match effect leavesStp op s with
        | (.ok (), s) => (.ok [], s)
        | (.error _, s) => (.error (-1), s)

/-- A kernel that answers with one packet in a datagram, and refuses all changes if busy. -/
noncomputable def benchPeer (leavesStp busy : Bool) : Peer ActualState where
  send req s :=
    (.ok ((payloads req.flags.dump (benchCall leavesStp busy req s).1).map fun payload =>
      .ok [.ok ⟨req.seq, 16, payload⟩]), (benchCall leavesStp busy req s).2)
  osError _ := "Device or resource busy"

theorem benchPeer_deals (leavesStp busy : Bool) (req : Request) (s : ActualState) :
    Deals (benchPeer leavesStp busy) req s
      ((benchCall leavesStp busy req s).1.mapError fun _ => ⟨"Device or resource busy"⟩)
      (benchCall leavesStp busy req s).2 := by
  refine .answered _ _ ((payloads req.flags.dump (benchCall leavesStp busy req s).1).map fun payload =>
    [⟨req.seq, 16, payload⟩]) ?_ ?_ ?_ ?_
  · simp
  · intro packet hpacket
    obtain ⟨payload, -, rfl⟩ : ∃ payload ∈ _, packet = ⟨req.seq, 16, payload⟩ := by
      simpa using hpacket
    exact ⟨rfl, Nat.succ_ne_zero 15⟩
  · simp [← List.flatMap_def, List.map_flatMap]
  · simp [benchPeer]

theorem forall₂_replies {α β : Type} {about : α → β → Prop} {answer : α → RouteMessage}
    {read : RouteMessage → Option β} (h : ∀ a, ∃ b, read (answer a) = some b ∧ about a b)
    (l : List α) : List.Forall₂ about l ((l.map answer).filterMap read) := by
  induction l with
  | nil => exact .nil
  | cons a rest ih =>
    obtain ⟨b, hread, habout⟩ := h a
    rw [List.map_cons, List.filterMap_cons, hread]
    exact .cons habout ih

theorem benchPeer_kernel (leavesStp busy : Bool) :
    KernelPeer (benchPeer leavesStp busy) id (fun _ => benchIndex) leavesStp (busy = false) where
  ifindex_injective _ := benchIndex_injective
  links seq s := by
    refine ⟨_, _, benchPeer_deals leavesStp busy _ s, rfl,
      Or.inr ⟨_, rfl, s.links.toList, .refl _, ?_⟩⟩
    exact forall₂_replies (fun e => ⟨benchLink e, rfl, benchLink_about e⟩) _
  vlans seq s := by
    refine ⟨_, _, benchPeer_deals leavesStp busy _ s, rfl,
      Or.inr ⟨_, rfl, s.links.toList, fun _ he => he, fun _ he _ => he, ?_⟩⟩
    exact forall₂_replies (fun e => ⟨benchVlans s e, rfl, benchVlans_about s e⟩) _
  addresses seq s := by
    refine ⟨_, _, benchPeer_deals leavesStp busy _ s, rfl,
      Or.inr ⟨_, rfl, addressEntries s, .refl _, ?_⟩⟩
    exact forall₂_replies (fun e => ⟨benchAddress e, rfl, benchAddress_about e⟩) _
  lookup seq s name := by
    refine ⟨_, _, benchPeer_deals leavesStp busy _ s, ?_⟩
    have hcall : benchCall leavesStp busy
        ⟨seq, { ack := true }, .getLink { attributes := [.ifName name] }⟩ s =
        if name ∈ s.links then (.ok [.newLink { index := benchIndex name }], s)
        else (.error (-19), s) := rfl
    rw [hcall]
    split
    · next hin => exact ⟨rfl, Or.inr ⟨_, rfl, hin, _, rfl, rfl⟩⟩
    · next hin => exact ⟨rfl, Or.inl ⟨rfl, fun h => hin h.2⟩⟩
  carriesOut seq s message flags op asks there := by
    refine ⟨_, _, benchPeer_deals leavesStp busy _ s, ?_⟩
    have hcall : benchCall leavesStp busy ⟨seq, flags, message⟩ s =
        if busy then (.error (-16), s) else
          match effect leavesStp op s with
          | (.ok (), s) => (.ok [], s)
          | (.error _, s) => (.error (-1), s) := by
      have hasked := benchAsked_of_asks asks
      cases asks <;> simp only [benchCall, hasked]
    rw [hcall]
    cases busy with
    | true => exact Or.inl ⟨rfl, rfl, by simp⟩
    | false =>
      right
      cases heffect : effect leavesStp op s with
      | mk result s' => cases result <;> simp [heffect, Except.mapError, Except.isOk, Except.toBool]

end Bench

/-- After a kernel that refused all changes and would keep spanning tree to itself. -/
theorem netlink_reconcile_as_model_busy :
    ∃ ops b', reconcile (netBackend (benchPeer true false)) accessPort20
        (Attempt.run ⟨benchPeer false true, accessPort20⟩ { kernel := onePortBoot }) =
          (.ok ops, b') ∧
      reconcile fakeNet accessPort20
          (Attempt.run ⟨benchPeer false true, accessPort20⟩ { kernel := onePortBoot }).kernel =
        (.ok ops, b'.kernel) ∧
      Matches accessPort20 b'.kernel := by
  have kernels : ∀ a ∈ [(⟨benchPeer false true, accessPort20⟩ : Attempt ActualState)],
      ∃ leavesStp, KernelPeer a.peer id (fun _ => benchIndex) leavesStp False := by
    intro a ha
    obtain rfl := List.mem_singleton.mp ha
    exact ⟨false, by simpa using benchPeer_kernel false true⟩
  exact netlink_reconcile_as_model id (fun _ => benchIndex) onePortBoot onePortBoot_booted
    [⟨benchPeer false true, accessPort20⟩] kernels (by simp [accessPort20])
    { kernel := onePortBoot } ⟨rfl, rfl⟩ rfl (benchPeer true false)
    (by simpa using benchPeer_kernel true false) accessPort20 (by simp [accessPort20])
    (by simp [accessPort20]) _ rfl

end ClixonSwitch.Guarantees
