import ClixonSwitch.Guarantees.Isolation
import ClixonSwitch.Lib.Throughout

/-!
# A port keeps a PVID while its native VLAN changes

The planner adds the new PVID entry before anything else happens to the entries of a
port; the kernel moves the flag with it. The operations on other interfaces do not reach
the port as long as it is in a bridge that stays.
-/
namespace ClixonSwitch.Guarantees
open Std Lib Source.SwitchModel Source.SwitchNet

/-- The entry of `vid` is the PVID, and no other is. -/
def OnlyPvid (vlans : VlanMap) (vid : UInt16) : Prop :=
  ∃ f, vlans[vid]? = some f ∧ f.pvid = true ∧
    ∀ (v : UInt16) (g : VlanFlags), vlans[v]? = some g → g.pvid = true → v = vid

section Entries
variable {vlans : VlanMap} {vid v : UInt16} {flags : VlanFlags}

theorem onlyPvid_addEntry (h : flags.pvid = true) : OnlyPvid (addEntry vlans vid flags) vid := by
  refine ⟨flags, ?_, h, fun w g hg hp => ?_⟩
  · rw [addEntry_getElem?, if_pos rfl]
  · rw [addEntry_getElem?, if_pos h] at hg
    split at hg
    · next heq => exact heq.symm
    · obtain ⟨f, -, rfl⟩ := Option.map_eq_some_iff.mp hg
      cases hp

theorem OnlyPvid.added (h : OnlyPvid vlans vid) (hflags : flags.pvid = false) (hne : v ≠ vid) :
    OnlyPvid (addEntry vlans v flags) vid := by
  obtain ⟨f, hf, hp, honly⟩ := h
  refine ⟨f, ?_, hp, fun w g hg hpg => ?_⟩
  · rw [addEntry_getElem?, if_neg hne, hflags]
    exact hf
  · rw [addEntry_getElem?, hflags] at hg
    split at hg
    · cases hg
      rw [hflags] at hpg
      cases hpg
    · exact honly w g hg hpg

theorem OnlyPvid.erase (h : OnlyPvid vlans vid) (hne : v ≠ vid) : OnlyPvid (vlans.erase v) vid := by
  obtain ⟨f, hf, hp, honly⟩ := h
  refine ⟨f, ?_, hp, fun w g hg hpg => ?_⟩
  · rw [ExtTreeMap.getElem?_erase, if_neg (by simpa using hne)]
    exact hf
  · rw [ExtTreeMap.getElem?_erase] at hg
    split at hg
    · cases hg
    · exact honly w g hg hpg

end Entries

section Steps
variable {u : ActualState} {name : String} {op : Op}

/-- A switch port in the bridge. -/
structure Joined (u : ActualState) (name : String) : Prop where
  port : ∃ l, u.links[name]? = some l ∧ l.kind.isDsa = true ∧ l.master = some bridgeName
  bridge : ∃ l, u.links[bridgeName]? = some l ∧ l.kind.isBridge = true

/-- Operations that take a port out of the bridge, or drop its default entry. -/
def Cuts (name : String) (op : Op) : Prop :=
  op = .deleteLink name ∨ op = .deleteLink bridgeName ∨ (∃ m, op = .setMaster name m) ∨
    ∃ bridge, op = .configureBridge bridge

theorem Joined.rooted (h : Joined u name) : Rooted (fun g => g = name ∨ g = bridgeName) u := by
  obtain ⟨l, hl, hdsa, -⟩ := h.port
  obtain ⟨b, hb, hbridge⟩ := h.bridge
  rintro g p (rfl | rfl) hparent
  · obtain ⟨kind, up, master⟩ := l
    cases kind <;> simp_all [Device.parent, device_link, LinkKind.isDsa]
  · obtain ⟨kind, up, master⟩ := b
    cases kind <;> simp_all [Device.parent, device_link, LinkKind.isBridge]

theorem Joined.spared {t : ActualState} (h : Joined u name)
    (spared : Spared (fun g => g = name ∨ g = bridgeName) u t) :
    Joined t name ∧ t.bridgeVlans.getD name ∅ = u.bridgeVlans.getD name ∅ := by
  obtain ⟨l, hl, hdsa, hmaster⟩ := h.port
  obtain ⟨b, hb, hbridge⟩ := h.bridge
  have hport : device t name = device u name := by
    refine spared.device name (Or.inl rfl) fun m hm => Or.inr ?_
    rw [Device.master, device_link, hl] at hm
    exact Option.some.inj (hm.symm.trans hmaster)
  have hkind := spared.kind bridgeName (Or.inr rfl)
  rw [device_link, device_link, hb, Option.map_some, Option.map_eq_some_iff] at hkind
  obtain ⟨b', hb', hsame⟩ := hkind
  refine ⟨⟨⟨l, ?_, hdsa, hmaster⟩, b', hb', by rwa [hsame]⟩, congrArg Device.vlans hport⟩
  rw [← device_link, hport, device_link, hl]

theorem Joined.step (h : Joined u name) (hop : ¬ Cuts name op) : Joined (fakeApply op u).2 name := by
  by_cases hdelete : ∃ x, op = .deleteLink x
  · obtain ⟨x, rfl⟩ := hdelete
    refine (h.spared (deleteLink_spared h.rooted ?_)).1
    rintro (rfl | rfl)
    · exact hop (Or.inl rfl)
    · exact hop (Or.inr (Or.inl rfl))
  · obtain ⟨l, hl, hdsa, hmaster⟩ := h.port
    obtain ⟨b, hb, hbridge⟩ := h.bridge
    constructor
    · cases fakeApply_linkStep (fun x heq => hdelete ⟨x, heq⟩) u name with
      | same link => exact ⟨l, link.trans hl, hdsa, hmaster⟩
      | changed k k' before after kind master =>
        rw [hl] at before
        cases before
        refine ⟨k', after, ?_, ?_⟩
        · rcases kind with hsame | ⟨c, c', hc, -⟩
          · rwa [hsame]
          · rw [hc] at hdsa
            cases hdsa
        · rcases master with hsame | ⟨m, rfl⟩
          · rwa [hsame]
          · exact absurd (Or.inr (Or.inr (Or.inl ⟨m, rfl⟩))) hop
      | created kind before _ _ =>
        rw [hl] at before
        cases before
    · exact bridge_stays (fun x heq => hdelete ⟨x, heq⟩) hb hbridge

/-- What is done to other interfaces leaves the entries of the port alone. -/
theorem Joined.elsewhere (h : Joined u name) (hop : ¬ Cuts name op) (hne : op.target ≠ name) :
    (fakeApply op u).2.bridgeVlans.getD name ∅ = u.bridgeVlans.getD name ∅ := by
  cases op with
  | deleteLink x =>
    refine (h.spared (deleteLink_spared h.rooted ?_)).2
    rintro (rfl | rfl)
    · exact hop (Or.inl rfl)
    · exact hop (Or.inr (Or.inl rfl))
  | configureBridge x => exact absurd (Or.inr (Or.inr (Or.inr ⟨x, rfl⟩))) hop
  | _ => exact congrArg Device.vlans (fakeApply_elsewhere rfl (Ne.symm hne))

theorem Joined.addBridgeVlan (h : Joined u name) (vid : UInt16) (flags : VlanFlags) :
    (fakeApply (.addBridgeVlan name vid flags) u).2.bridgeVlans.getD name ∅ =
      addEntry (u.bridgeVlans.getD name ∅) vid flags := by
  obtain ⟨l, hl, -, hmaster⟩ := h.port
  have hguard : (!l.kind.isBridge && l.master.isNone) = false := by simp [hmaster]
  simp only [fakeApply, applyAddBridgeVlan, hl, hguard, Bool.false_eq_true, if_false,
    BTreeMap.getD_eq, ExtTreeMap.getElem?_insert_self, Option.getD_some]
  rfl

theorem OnlyPvid.delBridgeVlan {vid v : UInt16} (h : OnlyPvid (u.bridgeVlans.getD name ∅) vid)
    (hne : v ≠ vid) :
    OnlyPvid ((fakeApply (.delBridgeVlan name v) u).2.bridgeVlans.getD name ∅) vid := by
  simp only [fakeApply, applyDelBridgeVlan]
  split
  · next vlans hvlans =>
    split
    · have hsame : u.bridgeVlans.getD name ∅ = vlans := by rw [BTreeMap.getD_eq, hvlans, Option.getD_some]
      rw [hsame] at h
      simp only [BTreeMap.getD_eq, ExtTreeMap.getElem?_insert_self, Option.getD_some]
      exact h.erase hne
    · exact h
  · exact h

theorem setUp_bridgeVlans (up : Bool) :
    (fakeApply (.setUp name up) u).2.bridgeVlans = u.bridgeVlans := by
  simp only [fakeApply, applySetUp]
  split <;> rfl

theorem delAddress_bridgeVlans (p : Ipv4Prefix) :
    (fakeApply (.delAddress name p) u).2.bridgeVlans = u.bridgeVlans := by
  simp only [fakeApply, applyDelAddress]
  split <;> rfl

end Steps

section Plan
variable {desired : DesiredState} {s : ActualState} {ops : List Op} {name : String} {l : Link}
  {port : Port} {new : UInt16}

/-- What happens to the entries of a port once its PVID is right: no other PVID is added,
and the entry of the native VLAN stays. -/
inductive Follows (name : String) (new : UInt16) : Op → Prop where
  | add (vid : UInt16) (flags : VlanFlags) (noPvid : flags.pvid = false) (other : vid ≠ new) :
      Follows name new (.addBridgeVlan name vid flags)
  | del (vid : UInt16) (other : vid ≠ new) : Follows name new (.delBridgeVlan name vid)
  | setUp (up : Bool) : Follows name new (.setUp name up)
  | delAddress (p : Ipv4Prefix) : Follows name new (.delAddress name p)

theorem Follows.keeps {u : ActualState} {op : Op} (h : Follows name new op) (joined : Joined u name)
    (pvid : OnlyPvid (u.bridgeVlans.getD name ∅) new) :
    OnlyPvid ((fakeApply op u).2.bridgeVlans.getD name ∅) new := by
  cases h with
  | add vid flags noPvid other =>
    rw [joined.addBridgeVlan]
    exact pvid.added noPvid other
  | del vid other => exact pvid.delBridgeVlan other
  | setUp up => rwa [setUp_bridgeVlans]
  | delAddress p => rwa [delAddress_bridgeVlans]

/-- The diff of the entries of a port: the PVID entry, unless it is there, and then only
what follows. -/
theorem syncVlans_pvid_first (present : VlanMap) (native : port.nativeVlan = some new) :
    ∃ rest, (∀ op ∈ rest, Follows name new op) ∧
      syncVlans name present (portVlans port) =
        (if present[new]? = some access then [] else [.addBridgeVlan name new access]) ++ rest := by
  have hnew : (portVlans port)[new]? = some access := by
    rw [portVlans_getElem?, portEntry, if_pos native]
  let others := ((portVlans port).toList.filter fun e => !e.2.pvid).filter
    fun e => present[e.1]? != some e.2
  refine ⟨others.map (fun e => Op.addBridgeVlan name e.1 e.2) ++
    (unwantedVids present (portVlans port)).map (Op.delBridgeVlan name), fun op hop => ?_, ?_⟩
  · rcases List.mem_append.mp hop with hop | hop
    · obtain ⟨⟨vid, flags⟩, he, rfl⟩ := List.mem_map.mp hop
      obtain ⟨he, -⟩ := List.mem_filter.mp he
      obtain ⟨he, hp⟩ := List.mem_filter.mp he
      have hp : flags.pvid = false := by simpa using hp
      refine .add vid flags hp ?_
      rintro rfl
      rw [ExtTreeMap.mem_toList_iff_getElem?_eq_some, hnew] at he
      rw [← Option.some.inj he] at hp
      cases hp
    · obtain ⟨vid, hvid, rfl⟩ := List.mem_map.mp hop
      refine .del vid ?_
      rintro rfl
      exact ((mem_unwantedVids present (portVlans port) vid).mp hvid).2
        ((BTreeMap.mem_iff _ _).mpr ⟨access, hnew⟩)
  · rw [syncVlans_eq, missingEntries, List.partition_eq_filter_filter,
      pvidEntries_portVlans, native, Option.toList_some, List.map_singleton, List.filter_append,
      List.map_append, List.append_assoc]
    congr 1
    by_cases h : present[new]? = some access
    · simp [h]
    · simp [h]

/-- The operations on a port that is in a bridge that is right. -/
theorem targeting_joined_port (ready : BridgeConfigured s) (planned : plan desired s = .ok ops)
    (link : s.links[name]? = some l) (dsa : l.kind.isDsa = true)
    (enslaved : l.master = some bridgeName) (wanted : desired.ports[name]? = some port)
    (native : port.nativeVlan = some new) :
    ∃ rest, (∀ op ∈ rest, Follows name new op) ∧ targeting Op.target name ops =
      (if (s.bridgeVlans.getD name ∅)[new]? = some access then []
        else [.addBridgeVlan name new access]) ++ rest := by
  obtain ⟨rest, hrest, hsync⟩ := syncVlans_pvid_first (s.bridgeVlans.getD name ∅) native
  refine ⟨rest ++ (if l.up != port.enabled then [.setUp name port.enabled] else []) ++
    leftoverOps s name, fun op hop => ?_, ?_⟩
  · rcases List.mem_append.mp hop with hop | hop
    · rcases List.mem_append.mp hop with hop | hop
      · exact hrest op hop
      · obtain ⟨-, hop⟩ := List.mem_ite_nil_right.mp hop
        rw [List.mem_singleton.mp hop]
        exact .setUp _
    · unfold leftoverOps at hop
      obtain ⟨-, hop⟩ := List.mem_ite_nil_right.mp hop
      obtain ⟨p, -, rfl⟩ := List.mem_map.mp hop
      exact .delAddress p
  · rw [targeting_plan_port ready planned link dsa]
    simp [portOps, link, ready.planBridge, planPort, dsa, wanted, enslaved, hsync,
      List.append_assoc]

/-- The first operation on the port makes its PVID right, and the others keep it so. -/
theorem pvid_after_own {u : ActualState} {present : VlanMap} {own rest : List Op} {op : Op}
    (hrest : ∀ op ∈ rest, Follows name new op) (joined : Joined u name)
    (right : present[new]? = some access → OnlyPvid present new)
    (hown : own ++ [op] <+:
      (if present[new]? = some access then [] else [.addBridgeVlan name new access]) ++ rest)
    (hu : own = [] ∧ u.bridgeVlans.getD name ∅ = present ∨ OnlyPvid (u.bridgeVlans.getD name ∅) new) :
    OnlyPvid ((fakeApply op u).2.bridgeVlans.getD name ∅) new := by
  by_cases hnew : present[new]? = some access
  · rw [if_pos hnew, List.nil_append] at hown
    have hpvid : OnlyPvid (u.bridgeVlans.getD name ∅) new := by
      rcases hu with ⟨-, hsame⟩ | hpvid
      · rw [hsame]
        exact right hnew
      · exact hpvid
    exact (hrest op (hown.subset (by simp))).keeps joined hpvid
  · rw [if_neg hnew, List.singleton_append] at hown
    have hadd : OnlyPvid
        ((fakeApply (.addBridgeVlan name new access) u).2.bridgeVlans.getD name ∅) new := by
      rw [joined.addBridgeVlan]
      exact onlyPvid_addEntry rfl
    rcases hu with ⟨rfl, -⟩ | hpvid
    · obtain ⟨rfl, -⟩ := List.cons_prefix_cons.mp hown
      exact hadd
    · rcases List.mem_cons.mp (hown.subset (show op ∈ own ++ [op] by simp)) with rfl | hop
      · exact hadd
      · exact (hrest op hop).keeps joined hpvid

/-- A plan on a bridge that is right leaves the port in it. -/
theorem plan_not_cuts (ready : BridgeConfigured s) (planned : plan desired s = .ok ops)
    (link : s.links[name]? = some l) (dsa : l.kind.isDsa = true)
    (enslaved : l.master = some bridgeName) (wanted : desired.ports[name]? = some port)
    (native : port.nativeVlan = some new) {op : Op} (hop : op ∈ ops) : ¬ Cuts name op := by
  obtain ⟨rest, hrest, htargeting⟩ :=
    targeting_joined_port ready planned link dsa enslaved wanted native
  have hown : ∀ m, Op.setMaster name m ∉ ops := by
    intro m hmem
    have hmem : Op.setMaster name m ∈ targeting Op.target name ops := by
      simpa [targeting, Op.target] using hmem
    rw [htargeting] at hmem
    rcases List.mem_append.mp hmem with hmem | hmem
    · split at hmem
      · cases hmem
      · cases List.mem_singleton.mp hmem
    · cases hrest _ hmem
  rcases plan_spreads ready planned hop with hquiet | ⟨x, rfl, hx⟩
  · rintro (rfl | rfl | ⟨m, rfl⟩ | ⟨b, rfl⟩)
    · cases hquiet
    · cases hquiet
    · exact hown m hop
    · cases hquiet
  · obtain ⟨id, up, master, hl, -⟩ := (mem_staleNames desired s x).mp hx
    obtain ⟨b, bup, bmaster, hbridge, -⟩ := ready
    rintro (h | h | ⟨m, h⟩ | ⟨b, h⟩)
    · cases h
      rw [link] at hl
      cases hl
      cases dsa
    · cases h
      rw [hbridge] at hl
      cases hl
    · cases h
    · cases h

end Plan

/-- Operation by operation the port has one PVID entry, for the old native VLAN or for the
new one, also if an operation is refused and the others go on. -/
theorem plan_keeps_pvid (desired : DesiredState) (s : ActualState) (ops : List Op)
    (ready : BridgeConfigured s) (planned : plan desired s = .ok ops) (name : String) (l : Link)
    (link : s.links[name]? = some l) (dsa : l.kind.isDsa = true)
    (enslaved : l.master = some bridgeName) (old : UInt16)
    (pvid : OnlyPvid (s.bridgeVlans.getD name ∅) old) (port : Port)
    (wanted : desired.ports[name]? = some port) (new : UInt16)
    (native : port.nativeVlan = some new) :
    ∀ pre, pre <+: ops → ∃ vid, (vid = old ∨ vid = new) ∧
      OnlyPvid ((applyEach fakeApply pre s).bridgeVlans.getD name ∅) vid := by
  obtain ⟨rest, hrest, htargeting⟩ :=
    targeting_joined_port ready planned link dsa enslaved wanted native
  have hjoined : Joined s name := by
    obtain ⟨b, up, master, hbridge, -⟩ := ready
    exact ⟨⟨l, link, dsa, enslaved⟩, ⟨_, hbridge, rfl⟩⟩
  -- Until the first operation on the port its entries are the old ones.
  let inv (pre : List Op) (u : ActualState) : Prop := Joined u name ∧
    (targeting Op.target name pre = [] ∧
        u.bridgeVlans.getD name ∅ = s.bridgeVlans.getD name ∅ ∨
      OnlyPvid (u.bridgeVlans.getD name ∅) new)
  have hright : (s.bridgeVlans.getD name ∅)[new]? = some access →
      OnlyPvid (s.bridgeVlans.getD name ∅) new := by
    intro hnew
    obtain ⟨f, -, -, honly⟩ := id pvid
    rwa [honly new access hnew rfl]
  have hinv : ∀ pre, pre <+: ops → inv pre (applyEach fakeApply pre s) := by
    refine applyEach_invariant inv ⟨hjoined, Or.inl ⟨rfl, rfl⟩⟩ ?_
    rintro pre op hpre u ⟨joined, hu⟩
    have hcuts : ¬ Cuts name op :=
      plan_not_cuts ready planned link dsa enslaved wanted native (hpre.subset (by simp))
    refine ⟨joined.step hcuts, ?_⟩
    by_cases htarget : op.target = name
    · have hself : targeting Op.target name [op] = [op] := targeting_eq_self (by simpa using htarget)
      have hown : targeting Op.target name (pre ++ [op]) <+: targeting Op.target name ops :=
        hpre.filter _
      rw [targeting_append, hself, htargeting] at hown
      exact Or.inr (pvid_after_own hrest joined hright hown hu)
    · rw [joined.elsewhere hcuts htarget]
      refine hu.imp_left fun h => ⟨?_, h.2⟩
      rw [targeting_append, h.1, targeting_cons, if_neg htarget]
      rfl
  intro pre hpre
  obtain ⟨-, ⟨-, hsame⟩ | honly⟩ := hinv pre hpre
  · rw [hsame]
    exact ⟨old, Or.inl rfl, pvid⟩
  · exact ⟨new, Or.inr rfl, honly⟩

/-- An access port of VLAN 10 that was a trunk for VLAN 20 too. -/
def movingPort : ActualState where
  links := ExtTreeMap.ofList
    [("br-lan", ⟨.bridge ⟨true, 0, true, .off⟩, true, none⟩),
      ("lan1", ⟨.dsa none, true, some "br-lan"⟩)] compare
  bridgeVlans := ExtTreeMap.ofList [("lan1", portVlans ⟨true, some 10, .ofList [20] compare⟩)] compare

/-- VLAN 20 becomes its native VLAN, and VLAN 10 goes. -/
def movedPort : DesiredState where
  ports := ExtTreeMap.ofList [("lan1", ⟨true, some 20, ∅⟩)] compare

theorem plan_keeps_pvid_moving_port :
    plan movedPort movingPort =
        .ok [.addBridgeVlan "lan1" 20 access, .delBridgeVlan "lan1" 10] ∧
      ∀ pre, pre <+: [.addBridgeVlan "lan1" 20 access, .delBridgeVlan "lan1" 10] →
        ∃ vid, (vid = 10 ∨ vid = 20) ∧
          OnlyPvid ((applyEach fakeApply pre movingPort).bridgeVlans.getD "lan1" ∅) vid := by
  have hplan : plan movedPort movingPort =
      .ok [.addBridgeVlan "lan1" 20 access, .delBridgeVlan "lan1" 10] := by decide +kernel
  have hready : BridgeConfigured movingPort :=
    ⟨⟨true, 0, true, .off⟩, true, none, by decide +kernel, rfl, rfl, rfl⟩
  have hentries : movingPort.bridgeVlans.getD "lan1" ∅ =
      portVlans ⟨true, some 10, .ofList [20] compare⟩ := by decide +kernel
  have hpvid : OnlyPvid (movingPort.bridgeVlans.getD "lan1" ∅) 10 := by
    rw [hentries]
    refine ⟨access, by decide +kernel, rfl, fun v g hg hp => ?_⟩
    have hmem : (v, g) ∈ (portVlans ⟨true, some 10, .ofList [20] compare⟩).toList.filter
        fun e => e.2.pvid :=
      List.mem_filter.mpr ⟨ExtTreeMap.mem_toList_iff_getElem?_eq_some.mpr hg, hp⟩
    rw [pvidEntries_portVlans] at hmem
    replace hmem := List.mem_singleton.mp hmem
    exact congrArg Prod.fst hmem
  exact ⟨hplan, plan_keeps_pvid movedPort movingPort _ hready hplan "lan1"
    ⟨.dsa none, true, some "br-lan"⟩ (by decide +kernel) rfl rfl 10 hpvid ⟨true, some 20, ∅⟩
    (by decide +kernel) 20 rfl⟩

end ClixonSwitch.Guarantees
