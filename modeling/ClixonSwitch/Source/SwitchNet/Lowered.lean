import ClixonSwitch.Source.SwitchNet.Runs

/-!
# Links up or down

In the kernel model it makes no difference to any operation whether a link is up:
`lowered` forgets it, and two states that agree on the rest give the same results and
agree on the rest afterwards.
-/
namespace ClixonSwitch.Source.SwitchNet
open Std Lib Source.SwitchModel

def Link.lowered (l : Link) : Link := { l with up := false }

/-- The state with every link down. -/
def lowered (s : ActualState) : ActualState :=
  { s with links := s.links.map fun _ l => l.lowered }

section Lookups
variable (s : ActualState) (name : String)

theorem lowered_link : (lowered s).links[name]? = s.links[name]?.map Link.lowered :=
  ExtTreeMap.getElem?_map

theorem lowered_contains : (lowered s).links.contains name = s.links.contains name :=
  ExtTreeMap.contains_map

theorem lowered_kind : (lowered s).links[name]?.map Link.kind = s.links[name]?.map Link.kind := by
  rw [lowered_link, Option.map_map]
  rfl

theorem lowered_toList :
    (lowered s).links.toList = s.links.toList.map fun e => (e.1, e.2.lowered) :=
  ExtTreeMap.toList_map

theorem lowered_lowered : lowered (lowered s) = lowered s := by
  simp only [lowered, ExtTreeMap.map_map]
  rfl

theorem lowered_insert (l : Link) :
    (s.links.insert name l).map (fun _ l => l.lowered) =
      (lowered s).links.insert name l.lowered := by
  refine ExtTreeMap.ext_getElem? fun k => ?_
  rw [ExtTreeMap.getElem?_map, ExtTreeMap.getElem?_insert, ExtTreeMap.getElem?_insert,
    lowered_link]
  split <;> rfl

theorem lowered_update (l : Link) :
    lowered { s with links := s.links.insert name l } =
      { lowered s with links := (lowered s).links.insert name l.lowered } := by
  rw [← lowered_insert]
  rfl

/-- Setting a link up or down changes nothing else. -/
theorem lowered_setUp {l : Link} (hl : s.links[name]? = some l) (up : Bool) :
    lowered { s with links := s.links.insert name { l with up } } = lowered s := by
  have hsame : (lowered s).links.insert name l.lowered = (lowered s).links := by
    refine ExtTreeMap.ext_getElem? fun k => ?_
    rw [ExtTreeMap.getElem?_insert]
    split
    · next hk =>
      rw [← Std.compare_eq_iff_eq.mp hk, lowered_link, hl]
      rfl
    · rfl
  have hl' : Link.lowered { l with up } = l.lowered := rfl
  rw [lowered_update, hl', hsame]

theorem lowered_erase :
    (s.links.erase name).map (fun _ l => l.lowered) = (lowered s).links.erase name := by
  refine ExtTreeMap.ext_getElem? fun k => ?_
  rw [ExtTreeMap.getElem?_map, ExtTreeMap.getElem?_erase, ExtTreeMap.getElem?_erase,
    lowered_link]
  split <;> rfl

end Lookups

/-- An operation that treats a state and the lowered state alike. -/
def Lowers (run : ActualState → Applied) : Prop :=
  ∀ s, run (lowered s) = ((run s).1, lowered (run s).2)

section Operations
variable (name : String)

theorem createLink_lowers (kind : LinkKind) (s : ActualState) :
    applyCreateLink name kind (lowered s) = lowered (applyCreateLink name kind s) := by
  simp only [applyCreateLink, lowered, lowered_insert]
  rfl

/-- ConfigureBridge's loop over the links reads their masters only. -/
theorem foldl_configurePort_lowered (old : UInt16) (links : BTreeMap String Link)
    (acc : BTreeMap String VlanMap × Bool) :
    (links.map fun _ l => l.lowered).toList.foldl (configurePort name old) acc =
      links.toList.foldl (configurePort name old) acc := by
  rw [ExtTreeMap.toList_map, List.foldl_map]
  rfl

theorem configureBridge_lowers : Lowers (applyConfigureBridge name) := by
  intro s
  unfold applyConfigureBridge
  rw [lowered_link]
  rcases s.links[name]? with - | ⟨kind, up, master⟩
  · rfl
  cases kind with
  | bridge b =>
    have hlinks : ∀ kind, (lowered s).links.insert name ⟨kind, false, master⟩ =
        (s.links.insert name ⟨kind, up, master⟩).map fun _ l => l.lowered :=
      fun kind => (lowered_insert s name ⟨kind, up, master⟩).symm
    have hvlans : (lowered s).bridgeVlans = s.bridgeVlans := rfl
    have hlowered : Link.lowered ⟨.bridge b, up, master⟩ = ⟨.bridge b, false, master⟩ := rfl
    simp only [Option.map_some, hlowered, hlinks, foldl_configurePort_lowered, hvlans]
    split <;> rfl
  | _ => rfl

theorem setBridgeStp_lowers (on : Bool) : Lowers (applySetBridgeStp name on) := by
  intro s
  unfold applySetBridgeStp
  rw [lowered_link]
  rcases s.links[name]? with - | ⟨kind, up, master⟩
  · rfl
  cases kind with
  | bridge b =>
    have hlowered : Link.lowered ⟨.bridge b, up, master⟩ = ⟨.bridge b, false, master⟩ := rfl
    simp only [Option.map_some, hlowered, lowered_update]
    rfl
  | _ => rfl

theorem vlanChildren_lowered (s : ActualState) : vlanChildren (lowered s) name = vlanChildren s name := by
  rw [vlanChildren, lowered_toList, List.filter_map, List.map_map]
  rfl

theorem removeLink_lowers (s : ActualState) :
    removeLink name (lowered s) = lowered (removeLink name s) := by
  simp only [removeLink, lowered, lowered_erase]

theorem releasePorts_lowers (s : ActualState) :
    releasePorts name (lowered s) = lowered (releasePorts name s) := by
  have hlinks : (lowered s).links.map
      (fun _ l => if l.enslavedTo name then { l with master := none } else l) =
      (s.links.map fun _ l => if l.enslavedTo name then { l with master := none } else l).map
        fun _ l => l.lowered := by
    simp only [lowered, ExtTreeMap.map_map]
    congr 1
    funext _ l
    by_cases h : l.enslavedTo name = true
    · have h' : l.lowered.enslavedTo name = true := h
      simp only [h, h', if_true]
      rfl
    · have h' : ¬ l.lowered.enslavedTo name = true := h
      simp only [h, h', if_false, Bool.false_eq_true]
  have hvlans : ((lowered s).links.toList.filter fun e => e.2.enslavedTo name).foldl
      (fun vlans e => vlans.erase e.1) s.bridgeVlans =
      (s.links.toList.filter fun e => e.2.enslavedTo name).foldl
        (fun vlans e => vlans.erase e.1) s.bridgeVlans := by
    rw [lowered_toList, List.filter_map, List.foldl_map]
    rfl
  unfold releasePorts
  rw [hlinks]
  simp only [lowered] at hvlans ⊢
  rw [hvlans]

theorem deleteEach_lowers {delete : String → ActualState → Applied}
    (h : ∀ name, Lowers (delete name)) (names : List String) : Lowers (deleteEach delete names) := by
  induction names with
  | nil => exact fun _ => rfl
  | cons name rest ih =>
    intro s
    simp only [deleteEach, h name s]
    cases delete name s with
    | mk result s' =>
      cases result with
      | ok _ => exact ih s'
      | error e => rfl

theorem applyDeleteLink_lowers (fuel : Nat) : Lowers (applyDeleteLink fuel name) := by
  induction fuel generalizing name with
  | zero => exact fun _ => rfl
  | succ fuel ih =>
    intro s
    simp only [applyDeleteLink, lowered_contains]
    split
    · rw [removeLink_lowers, vlanChildren_lowered, deleteEach_lowers (fun n => ih n)]
      cases deleteEach (applyDeleteLink fuel) (vlanChildren (removeLink name s) name)
          (removeLink name s) with
      | mk result s' =>
        cases result with
        | ok _ => simp only [releasePorts_lowers]
        | error e => rfl
    · rfl

theorem setMaster_lowers (master : Option String) : Lowers (applySetMaster name master) := by
  intro s
  have hpvid : masterPvid master (lowered s) = masterPvid master s := by
    unfold masterPvid
    cases master with
    | none => rfl
    | some m => simp only [lowered_kind]
  unfold applySetMaster
  rw [hpvid, lowered_link]
  cases masterPvid master s with
  | none => rfl
  | some pvid =>
    cases s.links[name]? with
    | none => rfl
    | some l =>
      simp only [Option.map_some, lowered, lowered_insert]
      rfl

theorem addBridgeVlan_lowers (vid : UInt16) (flags : VlanFlags) :
    Lowers (applyAddBridgeVlan name vid flags) := by
  intro s
  unfold applyAddBridgeVlan
  rw [lowered_link]
  cases s.links[name]? with
  | none => rfl
  | some l =>
    simp only [Option.map_some, Link.lowered]
    split <;> rfl

theorem delBridgeVlan_lowers (vid : UInt16) : Lowers (applyDelBridgeVlan name vid) := by
  intro s
  unfold applyDelBridgeVlan
  have hvlans : (lowered s).bridgeVlans = s.bridgeVlans := rfl
  rw [hvlans]
  cases s.bridgeVlans[name]? with
  | none => rfl
  | some vlans => simp only; split <;> rfl

theorem addAddress_lowers (addr : Ipv4Prefix) : Lowers (applyAddAddress name addr) := by
  intro s
  unfold applyAddAddress
  have hleases : (lowered s).dhcpAddresses = s.dhcpAddresses := rfl
  have haddresses : (lowered s).addresses = s.addresses := rfl
  simp only [lowered_contains, hleases, haddresses]
  split
  · rfl
  · split
    · rfl
    · split <;> rfl

theorem delAddress_lowers (addr : Ipv4Prefix) : Lowers (applyDelAddress name addr) := by
  intro s
  unfold applyDelAddress
  have hleases : (lowered s).dhcpAddresses = s.dhcpAddresses := rfl
  have haddresses : (lowered s).addresses = s.addresses := rfl
  simp only [hleases, haddresses]
  split <;> rfl

theorem setUp_lowered (up : Bool) (s : ActualState) :
    (applySetUp name up (lowered s)).1 = (applySetUp name up s).1 ∧
      lowered (applySetUp name up (lowered s)).2 = lowered (applySetUp name up s).2 := by
  cases hl : s.links[name]? with
  | none =>
    simp only [applySetUp, lowered_link, hl]
    exact ⟨rfl, lowered_lowered s⟩
  | some l =>
    have hl' : (lowered s).links[name]? = some l.lowered := by rw [lowered_link, hl, Option.map_some]
    simp only [applySetUp, hl, hl', true_and]
    rw [lowered_setUp _ _ hl', lowered_setUp _ _ hl, lowered_lowered]

end Operations

theorem Lowers.agree {run : ActualState → Applied} (h : Lowers run) (s : ActualState) :
    (run (lowered s)).1 = (run s).1 ∧ lowered (run (lowered s)).2 = lowered (run s).2 := by
  rw [h s]
  exact ⟨rfl, lowered_lowered _⟩

/-- No operation depends on which links are up. -/
theorem fakeApply_lowered (op : Op) (s : ActualState) :
    (fakeApply op (lowered s)).1 = (fakeApply op s).1 ∧
      lowered (fakeApply op (lowered s)).2 = lowered (fakeApply op s).2 := by
  cases op with
  | createBridge name =>
    simp only [fakeApply, lowered_contains]
    split
    · exact ⟨rfl, lowered_lowered s⟩
    · exact ⟨rfl, by rw [createLink_lowers, lowered_lowered]⟩
  | configureBridge name => exact (configureBridge_lowers name).agree s
  | setBridgeStp name on => exact (setBridgeStp_lowers name on).agree s
  | deleteLink name =>
    have hsize : (lowered s).links.size = s.links.size := ExtTreeMap.size_map
    simp only [fakeApply, hsize]
    exact (applyDeleteLink_lowers name s.links.size).agree s
  | createVlan name parent id =>
    simp only [fakeApply, lowered_contains]
    split
    · exact ⟨rfl, lowered_lowered s⟩
    · split
      · exact ⟨rfl, lowered_lowered s⟩
      · exact ⟨rfl, by rw [createLink_lowers, lowered_lowered]⟩
  | setMaster name master => exact (setMaster_lowers name master).agree s
  | setUp name up => exact setUp_lowered name up s
  | addBridgeVlan dev vid flags => exact (addBridgeVlan_lowers dev vid flags).agree s
  | delBridgeVlan dev vid => exact (delBridgeVlan_lowers dev vid).agree s
  | addAddress dev addr => exact (addAddress_lowers dev addr).agree s
  | delAddress dev addr => exact (delAddress_lowers dev addr).agree s

/-- Runs from two states that differ in which links are up only. -/
theorem runAll_lowered (ops : List Op) {s s' : ActualState} (h : lowered s = lowered s') :
    (runAll fakeApply ops s).1 = (runAll fakeApply ops s').1 ∧
      lowered (runAll fakeApply ops s).2 = lowered (runAll fakeApply ops s').2 := by
  refine runAll_erase (fun op a b hab => ?_) ops h
  obtain ⟨ha, ha'⟩ := fakeApply_lowered op a
  obtain ⟨hb, hb'⟩ := fakeApply_lowered op b
  rw [← ha, ← ha', ← hb, ← hb', hab]
  exact ⟨rfl, rfl⟩

/-- Setting links up or down changes nothing else. -/
theorem setUps_lowered {ops : List Op} (hops : ∀ op ∈ ops, ∃ name up, op = .setUp name up)
    (s : ActualState) : lowered (runAll fakeApply ops s).2 = lowered s := by
  refine runAll_invariant (fun t => lowered t = lowered s) (fun op hop t ht => ?_) rfl
  obtain ⟨name, up, rfl⟩ := hops op hop
  rw [← ht]
  cases hl : t.links[name]? with
  | none => simp only [fakeApply, applySetUp, hl, fail]
  | some l =>
    simp only [fakeApply, applySetUp, hl]
    exact lowered_setUp _ _ hl up

end ClixonSwitch.Source.SwitchNet
