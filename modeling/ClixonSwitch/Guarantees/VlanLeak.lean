import ClixonSwitch.Guarantees.KernelMatches
import ClixonSwitch.Source.SwitchNet.Removal

/-!
# No transient VLAN leak

While `reconcile` changes the kernel model operation by operation, no device
ever has a bridge VLAN entry, an untagged flag or a PVID flag that it neither had
at the start nor should have in the end. The dangerous operation is a port that
joins a bridge, which gets the bridge's default PVID; the planner lets ports join
only after the bridge's default PVID is 0.
-/
namespace ClixonSwitch.Guarantees
open Std Lib Source.SwitchModel Source.SwitchNet

/-- The desired state gives `dev` this entry, as a port or as the bridge itself. -/
def DesiredEntry (desired : DesiredState) (dev : String) (vid : UInt16) (flags : VlanFlags) : Prop :=
  (∃ port, desired.ports[dev]? = some port ∧ portEntry port vid = some flags) ∨
    (dev = bridgeName ∧ flags = tagged ∧ desired.vlanActive vid = true ∧
      ∃ (name : String) (svi : Svi), desired.svis[name]? = some svi ∧ svi.vlan = vid)

/-- An old or desired entry. -/
def OldOrDesired (desired : DesiredState) (old : ActualState) (dev : String) (vid : UInt16)
    (flags : VlanFlags) : Prop :=
  vlanEntry old dev vid = some flags ∨ DesiredEntry desired dev vid flags

/-- No entry of `s`, and no flag of an entry, is new against the old and the
desired entries. -/
def NoLeak (desired : DesiredState) (old s : ActualState) : Prop :=
  ∀ dev vid flags, vlanEntry s dev vid = some flags →
    (∃ f, OldOrDesired desired old dev vid f) ∧
    (flags.untagged = true → ∃ f, OldOrDesired desired old dev vid f ∧ f.untagged = true) ∧
    (flags.pvid = true → ∃ f, OldOrDesired desired old dev vid f ∧ f.pvid = true)

section Steps

theorem vlanEntry_eq_device (s : ActualState) (dev : String) (vid : UInt16) :
    vlanEntry s dev vid = (device s dev).vlans[vid]? := rfl

/-- Where the entries of a state after one operation come from: they were there,
perhaps with the PVID flag that is gone now, or the operation adds the entry, or
the device joins a bridge with a default PVID. -/
inductive EntryOrigin (op : Op) (s : ActualState) (dev : String) (vid : UInt16) (flags : VlanFlags) :
    Prop where
  | kept (f : VlanFlags) (before : vlanEntry s dev vid = some f)
    (untagged : flags.untagged = f.untagged) (pvid : flags.pvid = true → f.pvid = true)
  | added (h : op = .addBridgeVlan dev vid flags)
  | joined (m : String) (h : op = .setMaster dev (some m))
    (default : masterPvid (some m) s = some vid) (nonzero : vid ≠ 0)

variable {op : Op} {s : ActualState} {dev : String} {vid : UInt16} {flags : VlanFlags}

theorem EntryOrigin.same (h : vlanEntry s dev vid = some flags) : EntryOrigin op s dev vid flags :=
  .kept flags h rfl id

theorem entryOrigin_of_same_entries {s' : ActualState} (hs : s'.bridgeVlans = s.bridgeVlans)
    (h : vlanEntry s' dev vid = some flags) : EntryOrigin op s dev vid flags :=
  .same (by rw [← h, vlanEntry, vlanEntry, hs])

theorem without_entry {removed : List String} {d : Device}
    (h : (d.without removed dev).vlans[vid]? = some flags) : d.vlans[vid]? = some flags := by
  unfold Device.without at h
  split at h
  · simp at h
  · split at h
    · simp [Device.released] at h
    · exact h

theorem dropDefault_entry {old : UInt16} {vlans : VlanMap}
    (h : (dropDefault old vlans)[vid]? = some flags) : vlans[vid]? = some flags := by
  unfold dropDefault at h
  split at h
  · rw [ExtTreeMap.getElem?_erase] at h
    split at h
    · cases h
    · exact h
  · exact h

theorem dropDefault_device_entry {bridge : String} {old : UInt16} {d : Device}
    (h : (d.dropDefault bridge old).vlans[vid]? = some flags) : d.vlans[vid]? = some flags := by
  unfold Device.dropDefault at h
  split at h
  · exact dropDefault_entry h
  · exact h

theorem deleteLink_entryOrigin (name : String)
    (h : vlanEntry (fakeApply (.deleteLink name) s).2 dev vid = some flags) :
    EntryOrigin op s dev vid flags := by
  obtain ⟨removed, hr⟩ := deleteLink_removes name s
  rw [vlanEntry_eq_device, hr dev] at h
  exact .same (without_entry h)

theorem configureBridge_entryOrigin (name : String)
    (h : vlanEntry (fakeApply (.configureBridge name) s).2 dev vid = some flags) :
    EntryOrigin op s dev vid flags := by
  rcases configureBridge_cases name s with ⟨b, up, master, hb⟩ | ⟨e, he⟩
  · rw [vlanEntry_eq_device, (configureBridge_effect name s b up master hb).1 dev] at h
    have hbefore := dropDefault_device_entry h
    split at hbefore <;> exact .same hbefore
  · rw [he] at h
    exact .same h

theorem setMaster_entryOrigin (name : String) (master : Option String)
    (h : vlanEntry (fakeApply (.setMaster name master) s).2 dev vid = some flags) :
    EntryOrigin (.setMaster name master) s dev vid flags := by
  simp only [fakeApply, applySetMaster] at h
  cases hp : masterPvid master s with
  | none => exact .same (by simpa [hp, fail] using h)
  | some pvid =>
    cases hl : s.links[name]? with
    | none => exact .same (by simpa [hp, hl, fail] using h)
    | some l =>
      simp only [hp, hl, vlanEntry] at h
      by_cases hdev : name = dev
      · subst hdev
        by_cases hz : pvid = 0
        · simp [hz] at h
        · simp only [bne_iff_ne, ne_eq, hz, not_false_eq_true, if_true,
            ExtTreeMap.getD_insert_self, ExtTreeMap.getElem?_insert,
            Std.compare_eq_iff_eq] at h
          split at h
          · next heq =>
            subst heq
            cases master with
            | none => simp [masterPvid] at hp; exact absurd hp.symm hz
            | some m => exact .joined m rfl hp hz
          · simp at h
      · refine .same ?_
        rw [← h, vlanEntry]
        split <;> simp [ExtTreeMap.getD_insert, ExtTreeMap.getD_erase, hdev]

theorem addBridgeVlan_entryOrigin (d : String) (v : UInt16) (f : VlanFlags)
    (h : vlanEntry (fakeApply (.addBridgeVlan d v f) s).2 dev vid = some flags) :
    EntryOrigin (.addBridgeVlan d v f) s dev vid flags := by
  simp only [fakeApply, applyAddBridgeVlan] at h
  split at h
  · exact .same h
  · split at h
    · exact .same h
    · simp only [vlanEntry, ExtTreeMap.getD_insert, Std.compare_eq_iff_eq] at h
      split at h
      · next heq =>
        subst heq
        rw [ExtTreeMap.getElem?_insert] at h
        simp only [Std.compare_eq_iff_eq] at h
        split at h
        · next heq =>
          subst heq
          exact .added (by rw [Option.some.inj h])
        · split at h
          · rw [ExtTreeMap.getElem?_map] at h
            obtain ⟨g, hg, rfl⟩ := Option.map_eq_some_iff.mp h
            exact .kept g hg rfl (by simp)
          · exact .same h
      · exact .same h

theorem delBridgeVlan_entryOrigin (d : String) (v : UInt16)
    (h : vlanEntry (fakeApply (.delBridgeVlan d v) s).2 dev vid = some flags) :
    EntryOrigin op s dev vid flags := by
  simp only [fakeApply, applyDelBridgeVlan] at h
  split at h
  · next vlans hv =>
    split at h
    · simp only [vlanEntry, ExtTreeMap.getD_insert, Std.compare_eq_iff_eq] at h
      split at h
      · next heq =>
        subst heq
        rw [ExtTreeMap.getElem?_erase] at h
        split at h
        · cases h
        · exact .same (by simpa [vlanEntry, BTreeMap.getD_eq, hv] using h)
      · exact .same h
    · exact .same h
  · exact .same h

theorem fakeApply_entryOrigin (op : Op) (s : ActualState)
    (h : vlanEntry (fakeApply op s).2 dev vid = some flags) : EntryOrigin op s dev vid flags := by
  cases op with
  | deleteLink name => exact deleteLink_entryOrigin name h
  | configureBridge name => exact configureBridge_entryOrigin name h
  | setMaster name master => exact setMaster_entryOrigin name master h
  | addBridgeVlan d v f => exact addBridgeVlan_entryOrigin d v f h
  | delBridgeVlan d v => exact delBridgeVlan_entryOrigin d v h
  | createBridge name =>
    refine entryOrigin_of_same_entries ?_ h
    simp only [fakeApply]
    split <;> rfl
  | createVlan name parent id =>
    refine entryOrigin_of_same_entries ?_ h
    simp only [fakeApply]
    split
    · rfl
    · split <;> rfl
  | setBridgeStp name on =>
    refine entryOrigin_of_same_entries ?_ h
    simp only [fakeApply, applySetBridgeStp]
    split <;> rfl
  | setUp name up =>
    refine entryOrigin_of_same_entries ?_ h
    simp only [fakeApply, applySetUp]
    split <;> rfl
  | addAddress d p =>
    refine entryOrigin_of_same_entries ?_ h
    simp only [fakeApply, applyAddAddress]
    split
    · rfl
    · split
      · rfl
      · split <;> rfl
  | delAddress d p =>
    refine entryOrigin_of_same_entries ?_ h
    simp only [fakeApply, applyDelAddress]
    split <;> rfl

end Steps

section DefaultPvid

/-- `br-lan`, if it is a bridge, gives joining ports no entry. -/
def PvidZero (s : ActualState) : Prop :=
  ∀ b up master, s.links[bridgeName]? = some ⟨.bridge b, up, master⟩ → b.defaultPvid = 0

/-- The default PVID that joining `l` as a master gives, `none` if it is no bridge. -/
def linkPvid (l : Option Link) : Option UInt16 :=
  match l with
  | some ⟨.bridge b, _, _⟩ => some b.defaultPvid
  | _ => none

theorem pvidZero_iff (s : ActualState) :
    PvidZero s ↔ ∀ pvid, linkPvid s.links[bridgeName]? = some pvid → pvid = 0 := by
  unfold PvidZero linkPvid
  rcases s.links[bridgeName]? with - | ⟨kind, up, master⟩
  · simp
  · cases kind <;> simp

/-- An operation keeps a bridge's default PVID or sets it to 0. -/
def KeepsPvid (before after : Option Link) : Prop :=
  linkPvid after = none ∨ linkPvid after = some 0 ∨ linkPvid after = linkPvid before

theorem keepsPvid_insert {s : ActualState} {name x : String} {l : Link}
    (h : KeepsPvid s.links[name]? (some l)) :
    KeepsPvid s.links[x]? (s.links.insert name l)[x]? := by
  rw [ExtTreeMap.getElem?_insert]
  split
  · next heq => rwa [← Std.LawfulEqOrd.eq_of_compare heq]
  · exact Or.inr (Or.inr rfl)

theorem keepsPvid_of_kind {l l' : Link} (h : l'.kind = l.kind) : KeepsPvid (some l) (some l') := by
  obtain ⟨kind, up, master⟩ := l
  obtain ⟨kind', up', master'⟩ := l'
  subst h
  refine Or.inr (Or.inr ?_)
  cases kind' <;> rfl

theorem keepsPvid_refl (l : Option Link) : KeepsPvid l l := Or.inr (Or.inr rfl)

theorem deleteLink_keepsPvid (name x : String) (s : ActualState) :
    KeepsPvid s.links[x]? (fakeApply (.deleteLink name) s).2.links[x]? := by
  obtain ⟨removed, hr⟩ := deleteLink_removes name s
  rw [← device_link, ← device_link, hr x]
  cases hlink : ((device s x).without removed x).link with
  | none => exact Or.inl rfl
  | some l' =>
    obtain ⟨l, hl, hkind⟩ := Device.without_kind hlink
    rw [hl]
    exact keepsPvid_of_kind hkind

theorem configureBridge_keepsPvid (name x : String) (s : ActualState) :
    KeepsPvid s.links[x]? (fakeApply (.configureBridge name) s).2.links[x]? := by
  simp only [fakeApply, applyConfigureBridge]
  split
  · split <;> exact keepsPvid_insert (Or.inr (Or.inl rfl))
  · exact keepsPvid_refl _

theorem fakeApply_keepsPvid (op : Op) (s : ActualState) (x : String) :
    KeepsPvid s.links[x]? (fakeApply op s).2.links[x]? := by
  cases op with
  | deleteLink name => exact deleteLink_keepsPvid name x s
  | configureBridge name => exact configureBridge_keepsPvid name x s
  | createBridge name =>
    simp only [fakeApply]
    split
    · exact keepsPvid_refl _
    · exact keepsPvid_insert (Or.inr (Or.inl rfl))
  | createVlan name parent id =>
    simp only [fakeApply]
    split
    · exact keepsPvid_refl _
    · split
      · exact keepsPvid_refl _
      · exact keepsPvid_insert (Or.inl rfl)
  | setBridgeStp name on =>
    simp only [fakeApply, applySetBridgeStp]
    split
    · next hl => exact keepsPvid_insert (by rw [hl]; exact Or.inr (Or.inr rfl))
    · exact keepsPvid_refl _
  | setUp name up =>
    simp only [fakeApply, applySetUp]
    split
    · next l hl => exact keepsPvid_insert (by rw [hl]; exact keepsPvid_of_kind rfl)
    · exact keepsPvid_refl _
  | setMaster name master =>
    simp only [fakeApply, applySetMaster]
    split
    · exact keepsPvid_refl _
    · split
      · exact keepsPvid_refl _
      · next l hl => exact keepsPvid_insert (by rw [hl]; exact keepsPvid_of_kind rfl)
  | addBridgeVlan d v f =>
    simp only [fakeApply, applyAddBridgeVlan]
    split
    · exact keepsPvid_refl _
    · split <;> exact keepsPvid_refl _
  | delBridgeVlan d v =>
    simp only [fakeApply, applyDelBridgeVlan]
    split
    · split <;> exact keepsPvid_refl _
    · exact keepsPvid_refl _
  | addAddress d p =>
    simp only [fakeApply, applyAddAddress]
    split
    · exact keepsPvid_refl _
    · split
      · exact keepsPvid_refl _
      · split <;> exact keepsPvid_refl _
  | delAddress d p =>
    simp only [fakeApply, applyDelAddress]
    split <;> exact keepsPvid_refl _

theorem PvidZero.step {s : ActualState} (h : PvidZero s) (op : Op) :
    PvidZero (fakeApply op s).2 := by
  rw [pvidZero_iff] at h ⊢
  intro pvid hp
  rcases fakeApply_keepsPvid op s bridgeName with hk | hk | hk
  · rw [hk] at hp
    cases hp
  · rw [hk] at hp
    exact (Option.some.inj hp).symm
  · rw [hk] at hp
    exact h pvid hp

/-- However the planner gets the bridge right, its default PVID is 0 afterwards.
The operations may run on a state that differs from the observed one, as long as
`br-lan` is of the same kind. -/
theorem planBridge_pvidZero {actual s s' : ActualState}
    (hkind : linkPvid s.links[bridgeName]? = linkPvid actual.links[bridgeName]?)
    (run : runAll fakeApply (planBridge actual).1 s = (.ok (), s')) : PvidZero s' := by
  have hcreate : ∀ t t', runAll fakeApply [.createBridge bridgeName] t = (.ok (), t') →
      PvidZero t' := by
    intro t t' h
    simp only [runAll, fakeApply] at h
    split at h
    · next heq =>
      split at heq
      · simp [fail] at heq
      · simp only [Prod.mk.injEq, true_and] at heq h
        rw [← h, ← heq]
        intro b up master hl
        simp only [applyCreateLink, ExtTreeMap.getElem?_insert_self, newLink, freshBridgeKind,
          Option.some.injEq, Link.mk.injEq, LinkKind.bridge.injEq] at hl
        rw [← hl.1]
    · simp at h
  unfold planBridge at run
  split at run
  · next b hb =>
    split at run
    · next hconf =>
      simp only [runAll, Prod.mk.injEq, true_and] at run
      subst run
      rw [pvidZero_iff, hkind]
      obtain ⟨⟨kind, up, master⟩, hl, hk⟩ := Option.map_eq_some_iff.mp hb
      simp only at hk
      subst hk
      simp only [BridgeSettings.configured, Bool.and_eq_true, beq_iff_eq] at hconf
      simp [linkPvid, hl, hconf.1.2]
    · split at run
      · simp only [runAll] at run
        split at run
        · next s₁ heq =>
          simp only [Prod.mk.injEq, true_and] at run
          subst run
          simp only [fakeApply, applyConfigureBridge] at heq
          split at heq
          · split at heq
            · simp [fail] at heq
            · simp only [Prod.mk.injEq, true_and] at heq
              rw [← heq]
              intro b' up' master' hl
              simp only [ExtTreeMap.getElem?_insert_self, Option.some.injEq, Link.mk.injEq,
                LinkKind.bridge.injEq] at hl
              rw [← hl.1]
          · simp [fail] at heq
        · simp at run
      · obtain ⟨mid, -, hrun⟩ := runAll_append_inv [Op.deleteLink bridgeName] [Op.createBridge bridgeName] run
        exact hcreate mid s' hrun
  · obtain ⟨mid, -, hrun⟩ := runAll_append_inv [Op.deleteLink bridgeName] [Op.createBridge bridgeName] run
    exact hcreate mid s' hrun
  · exact hcreate s s' run

end DefaultPvid

section Rounds
variable {desired : DesiredState} {old : ActualState}

/-- What the planner may ask for: entries that the desired state has, and `br-lan`
as the only master. -/
def Intended (desired : DesiredState) : Op → Prop
  | .addBridgeVlan dev vid flags => DesiredEntry desired dev vid flags
  | .setMaster _ (some m) => m = bridgeName
  | _ => True

/-- Whether the operation makes a port join a bridge. -/
def joins : Op → Bool
  | .setMaster _ (some _) => true
  | _ => false

theorem NoLeak.step {s : ActualState} {op : Op} (h : NoLeak desired old s)
    (hop : Intended desired op) (hjoin : joins op = true → PvidZero s) :
    NoLeak desired old (fakeApply op s).2 := by
  intro dev vid flags hentry
  cases fakeApply_entryOrigin op s hentry with
  | kept f before untagged pvid =>
    obtain ⟨hsome, huntagged, hpvid⟩ := h dev vid f before
    exact ⟨hsome, fun hu => huntagged (untagged ▸ hu), fun hp => hpvid (pvid hp)⟩
  | added heq =>
    subst heq
    have hd : OldOrDesired desired old dev vid flags := Or.inr hop
    exact ⟨⟨flags, hd⟩, fun hu => ⟨flags, hd, hu⟩, fun hp => ⟨flags, hd, hp⟩⟩
  | joined m heq default nonzero =>
    subst heq
    obtain rfl : m = bridgeName := hop
    have hzero := (pvidZero_iff s).mp (hjoin rfl) vid
    refine absurd (hzero ?_) nonzero
    unfold masterPvid at default
    rcases hl : s.links[bridgeName]? with - | ⟨kind, up, master⟩
    · simp [hl] at default
    · cases kind <;> simp_all [linkPvid]

theorem mem_syncVlans {dev : String} {present want : VlanMap} {op : Op}
    (h : op ∈ syncVlans dev present want) :
    (∃ (vid : UInt16) (flags : VlanFlags), want[vid]? = some flags ∧
      op = .addBridgeVlan dev vid flags) ∨ ∃ vid, op = .delBridgeVlan dev vid := by
  simp only [syncVlans, List.partition_eq_filter_filter, List.mem_append, List.mem_map,
    List.mem_filter, Prod.exists, ExtTreeMap.mem_toList_iff_getElem?_eq_some] at h
  rcases h with ⟨vid, flags, ⟨h | h, -⟩, rfl⟩ | ⟨vid, -, rfl⟩
  · exact Or.inl ⟨vid, flags, h.1, rfl⟩
  · exact Or.inl ⟨vid, flags, h.1, rfl⟩
  · exact Or.inr ⟨vid, rfl⟩

theorem syncVlans_intended {dev : String} {present want : VlanMap}
    (hwant : ∀ (vid : UInt16) (flags : VlanFlags), want[vid]? = some flags →
      DesiredEntry desired dev vid flags) :
    ∀ op ∈ syncVlans dev present want, Intended desired op := by
  intro op hop
  rcases mem_syncVlans hop with ⟨vid, flags, hw, rfl⟩ | ⟨vid, rfl⟩
  · exact hwant vid flags hw
  · trivial

theorem planPort_intended {actual : ActualState} {fresh : Bool} {name : String} {link : Link} :
    ∀ op ∈ planPort desired actual fresh name link, Intended desired op := by
  intro op hop
  unfold planPort at hop
  split at hop
  · split at hop
    · next port hport =>
      rcases List.mem_append.mp hop with hop | hop
      · rcases List.mem_append.mp hop with hop | hop
        · split at hop
          · simp at hop
          · rw [List.mem_singleton.mp hop]
            rfl
        · refine syncVlans_intended (fun vid flags hw => ?_) op hop
          exact Or.inl ⟨port, hport, by rw [← portVlans_getElem?, hw]⟩
      · split at hop
        · rw [List.mem_singleton.mp hop]
          trivial
        · simp at hop
    · rcases List.mem_append.mp hop with hop | hop <;> split at hop
      · rw [List.mem_singleton.mp hop]
        trivial
      · simp at hop
      · rw [List.mem_singleton.mp hop]
        trivial
      · simp at hop
  · simp at hop

theorem mem_syncAddresses {name : String} {svi : Svi} {present : BTreeSet Ipv4Prefix}
    {dhcp : BTreeMap Ipv4Prefix UInt32} {op : Op} (h : op ∈ syncAddresses name svi present dhcp) :
    ∃ p, op = .addAddress name p ∨ op = .delAddress name p := by
  simp only [syncAddresses, List.mem_append, List.mem_flatMap, List.mem_map] at h
  rcases h with (⟨p, -, h | h⟩ | ⟨p, -, rfl⟩) | h
  · split at h
    · exact ⟨p, Or.inr (List.mem_singleton.mp h)⟩
    · simp at h
  · exact ⟨p, Or.inl (List.mem_singleton.mp h)⟩
  · exact ⟨p, Or.inr rfl⟩
  · split at h
    · simp at h
    · obtain ⟨p, -, rfl⟩ := List.mem_map.mp h
      exact ⟨p, Or.inr rfl⟩

theorem planSvi_intended {actual : ActualState} {existing : Bool} {name : String} {svi : Svi} :
    ∀ op ∈ planSvi actual existing name svi, Intended desired op := by
  intro op hop
  simp only [planSvi, List.mem_append] at hop
  rcases hop with (hop | hop) | hop
  · split at hop
    · simp at hop
    · rw [List.mem_singleton.mp hop]
      trivial
  · obtain ⟨p, rfl | rfl⟩ := mem_syncAddresses hop <;> trivial
  · split at hop
    · rw [List.mem_singleton.mp hop]
      trivial
    · simp at hop

theorem planDeviceSection_intended {actual : ActualState} :
    ∀ op ∈ planDeviceSection desired actual, Intended desired op := by
  intro op hop
  simp only [planDeviceSection, planPorts, planSelfVlans, planSvis, planLeftovers,
    List.mem_append, List.mem_flatMap] at hop
  rcases hop with ((⟨e, -, hop⟩ | hop) | ⟨e, -, hop⟩) | hop
  · exact planPort_intended op hop
  · refine syncVlans_intended (fun vid flags hw => ?_) op hop
    exact Or.inr ⟨rfl, (selfVlans_getElem? desired vid flags).mp hw⟩
  · exact planSvi_intended op hop
  · obtain ⟨e, -, rfl⟩ := List.mem_map.mp hop
    trivial

/-- Operations on links only, which add no entry and let no port join. -/
def linkOnly : Op → Bool
  | .addBridgeVlan _ _ _ => false
  | .setMaster _ (some _) => false
  | _ => true

theorem linkOnly_intended (desired : DesiredState) {op : Op} (h : linkOnly op = true) :
    Intended desired op ∧ joins op = false := by
  cases op with
  | addBridgeVlan dev vid flags => cases h
  | setMaster name master =>
    cases master with
    | none => exact ⟨trivial, rfl⟩
    | some m => cases h
  | _ => exact ⟨trivial, rfl⟩

theorem platformOps_setUp {actual : ActualState} {op : Op} (h : op ∈ actual.platformOps) :
    ∃ name, op = .setUp name true := by
  obtain ⟨name, -, rfl⟩ := List.mem_map.mp h
  exact ⟨name, rfl⟩

theorem planBridge_linkOnly {actual : ActualState} :
    ∀ op ∈ (planBridge actual).1, linkOnly op = true := by
  intro op hop
  unfold planBridge at hop
  split at hop
  · split at hop
    · simp at hop
    · split at hop
      · rw [List.mem_singleton.mp hop]
        rfl
      · rcases List.mem_pair.mp hop with rfl | rfl <;> rfl
  · rcases List.mem_pair.mp hop with rfl | rfl <;> rfl
  · rw [List.mem_singleton.mp hop]
    rfl

theorem bridgeRest_linkOnly {actual : ActualState} {fresh : Bool} :
    ∀ op ∈ planBridgeUp actual fresh ++ planStp desired actual fresh ++
      planStaleSvis desired actual fresh, linkOnly op = true := by
  intro op hop
  simp only [planBridgeUp, planStp, planStaleSvis, List.mem_append] at hop
  rcases hop with (hop | hop | hop) | hop
  · split at hop
    · rw [List.mem_singleton.mp hop]
      rfl
    · simp at hop
  · split at hop
    · rw [List.mem_singleton.mp hop]
      rfl
    · simp at hop
  · split at hop
    · rw [List.mem_singleton.mp hop]
      rfl
    · simp at hop
  · obtain ⟨e, -, rfl⟩ := List.mem_map.mp hop
    rfl

theorem setUp_linkPvid (name : String) (up : Bool) (s : ActualState) (x : String) :
    linkPvid (fakeApply (.setUp name up) s).2.links[x]? = linkPvid s.links[x]? := by
  simp only [fakeApply, applySetUp]
  split
  · next l hl =>
    simp only [ExtTreeMap.getElem?_insert, Std.compare_eq_iff_eq]
    split
    · next heq =>
      subst heq
      rw [hl]
      obtain ⟨kind, up', master⟩ := l
      cases kind <;> rfl
    · rfl
  · rfl

/-- One round keeps the invariant in each of its states: link operations first,
then, with the default PVID at 0, entries and ports that join. -/
theorem round_noLeak {s : ActualState} {planned : List Op} (h : NoLeak desired old s)
    (hplan : plan desired s = .ok planned) :
    ∀ t ∈ trail fakeApply (roundOps s planned) s, NoLeak desired old t.2.2 := by
  have hplanned : planned = planBridgeSection desired s ++ planDeviceSection desired s :=
    ((plan_eq_ok desired s).mp hplan).2.symm
  have hsplit : roundOps s planned = (s.platformOps ++ (planBridge s).1) ++
      ((planBridgeUp s (planBridge s).2 ++ planStp desired s (planBridge s).2 ++
        planStaleSvis desired s (planBridge s).2) ++ planDeviceSection desired s) := by
    simp [roundOps, hplanned, planBridgeSection]
  have hlinks : ∀ op ∈ s.platformOps ++ (planBridge s).1, linkOnly op = true := by
    intro op hop
    rcases List.mem_append.mp hop with hop | hop
    · obtain ⟨name, rfl⟩ := platformOps_setUp hop
      rfl
    · exact planBridge_linkOnly op hop
  have hstep : ∀ op ∈ s.platformOps ++ (planBridge s).1, ∀ t, NoLeak desired old t →
      NoLeak desired old (fakeApply op t).2 := by
    intro op hop t ht
    have hl := linkOnly_intended desired (hlinks op hop)
    exact ht.step hl.1 (by simp [hl.2])
  rw [hsplit]
  refine trail_append_forall (trail_invariant (NoLeak desired old) hstep h) fun s₁ hrun => ?_
  have hinv₁ : NoLeak desired old s₁ ∧ PvidZero s₁ := by
    refine ⟨by simpa [hrun] using runAll_invariant (NoLeak desired old) hstep h, ?_⟩
    obtain ⟨mid, hmid, hbridge⟩ := runAll_append_inv s.platformOps (planBridge s).1 hrun
    refine planBridge_pvidZero ?_ hbridge
    have hkeep : ∀ op ∈ s.platformOps, ∀ t : ActualState,
        linkPvid t.links[bridgeName]? = linkPvid s.links[bridgeName]? →
        linkPvid (fakeApply op t).2.links[bridgeName]? = linkPvid s.links[bridgeName]? := by
      intro op hop t ht
      obtain ⟨name, rfl⟩ := platformOps_setUp hop
      rw [setUp_linkPvid, ht]
    simpa [hmid] using runAll_invariant _ hkeep rfl
  have hrest : ∀ t ∈ trail fakeApply ((planBridgeUp s (planBridge s).2 ++
      planStp desired s (planBridge s).2 ++ planStaleSvis desired s (planBridge s).2) ++
      planDeviceSection desired s) s₁, NoLeak desired old t.2.2 ∧ PvidZero t.2.2 := by
    refine trail_invariant (fun t => NoLeak desired old t ∧ PvidZero t) (fun op hop t ht => ?_) hinv₁
    refine ⟨ht.1.step ?_ fun _ => ht.2, ht.2.step op⟩
    rcases List.mem_append.mp hop with hop | hop
    · exact (linkOnly_intended desired (bridgeRest_linkOnly op hop)).1
    · exact planDeviceSection_intended op hop
  exact fun t ht => (hrest t ht).1

end Rounds

/-- In every state that `reconcile` goes through, also the one it stops in when an
operation fails, every bridge VLAN entry and every flag of it is old or desired. -/
theorem reconcile_no_vlan_leak (desired : DesiredState) (s : ActualState) :
    ∀ op result after, Event.applied op result after ∈ reconcileTrace fakeNet desired s →
      NoLeak desired s after := by
  rw [reconcileTrace_eq]
  refine roundEvents_fakeNet_invariant (fun t planned ht hplan => round_noLeak ht hplan) _ s ?_
  intro dev vid flags hentry
  have hold : OldOrDesired desired s dev vid flags := Or.inl hentry
  exact ⟨⟨flags, hold⟩, fun hu => ⟨flags, hold, hu⟩, fun hp => ⟨flags, hold, hp⟩⟩

/-- A port on a bridge with the kernel's own defaults: no VLAN filtering, and VLAN 1
as the default PVID. -/
def plainBridge : ActualState where
  links := ExtTreeMap.ofList
    [("br-lan", ⟨.bridge ⟨false, 1, false, .off⟩, true, none⟩),
      ("lan1", ⟨.dsa none, true, some "br-lan"⟩)] compare
  bridgeVlans := ExtTreeMap.ofList
    [("lan1", ExtTreeMap.ofList [(1, access)] compare)] compare

/-- One access port on VLAN 20. -/
def accessPort20 : DesiredState where
  vlans := ExtTreeMap.ofList [(20, ⟨none, true⟩)] compare
  ports := ExtTreeMap.ofList [("lan1", ⟨true, some 20, ∅⟩)] compare

theorem reconcile_no_vlan_leak_aborted :
    Event.applied (.delBridgeVlan "lan1" 1) (.error ⟨"No such VLAN entry"⟩)
        (reconcile fakeNet accessPort20 plainBridge).2 ∈
        reconcileTrace fakeNet accessPort20 plainBridge ∧
      NoLeak accessPort20 plainBridge (reconcile fakeNet accessPort20 plainBridge).2 := by
  have member : Event.applied (.delBridgeVlan "lan1" 1) (.error ⟨"No such VLAN entry"⟩)
      (reconcile fakeNet accessPort20 plainBridge).2 ∈
      reconcileTrace fakeNet accessPort20 plainBridge := by decide
  exact ⟨member, reconcile_no_vlan_leak accessPort20 plainBridge _ _ _ member⟩

end ClixonSwitch.Guarantees
