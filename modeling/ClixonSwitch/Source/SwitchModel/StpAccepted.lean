import ClixonSwitch.Source.SwitchModel.Accepted

/-!
# What `/stp` means once it is accepted

For each validator of `/stp`, what its result is when it reports nothing: the values
configured or their defaults, every switch port in every tree, and the VLANs of every
MSTI without overlap.
-/
namespace ClixonSwitch.Source.SwitchModel
open Std Lib Lib.Collect

section Entries

theorem mem_vlanRange (low high v : UInt16) : v ∈ vlanRange low high ↔ low ≤ v ∧ v ≤ high := by
  have hsize : UInt16.size = 65536 := rfl
  have hbound := high.toNat_lt
  simp only [vlanRange, List.mem_map, List.mem_range'_1, UInt16.le_iff_toNat_le]
  constructor
  · rintro ⟨n, ⟨hlow, hhigh⟩, rfl⟩
    rw [UInt16.toNat_ofNat_of_lt' (by omega)]
    omega
  · rintro ⟨hlow, hhigh⟩
    exact ⟨v.toNat, by omega, UInt16.ofNat_toNat⟩

/-- An entry that is accepted stands for the VLANs it covers, which exist. -/
theorem vlanEntry_ok {entry : Scalar} {ids : List UInt16} (h : vlanEntry entry = .ok ids)
    (v : UInt16) : (v ∈ ids ↔ entry.covers v) ∧ (v ∈ ids → 1 ≤ v ∧ v ≤ 4094) := by
  unfold vlanEntry at h
  cases hid : entry.asU64 with
  | some id =>
    simp only [hid] at h
    cases hc : checkVlanId id with
    | error e =>
      rw [hc] at h
      cases h
    | ok w =>
      rw [hc] at h
      cases h
      obtain ⟨rfl, hrange⟩ := checkVlanId_ok hc
      simp only [List.mem_singleton, Scalar.covers, hid, Option.some.injEq, toUInt64_inj,
        reduceCtorEq, false_and, or_false]
      exact ⟨eq_comm, fun heq => heq ▸ hrange⟩
  | none =>
    simp only [hid] at h
    cases hb : rangeBounds entry.display with
    | none =>
      rw [hb] at h
      cases h
    | some bounds =>
      simp only [hb] at h
      obtain ⟨low, high, rfl, hlow, hhigh, rfl⟩ := checkRange_ok h
      rw [mem_vlanRange]
      refine ⟨?_, fun hv => ⟨UInt16.le_trans hlow hv.1, UInt16.le_trans hv.2 hhigh⟩⟩
      simp [Scalar.covers, hid, hb]

/-- The VLANs of an MSTI are those its entries cover. -/
theorem mstiVlans_clean {what : String} {entries : List Scalar}
    (clean : (mstiVlans what entries).errors = []) (v : UInt16) :
    (v ∈ (mstiVlans what entries).value ↔ ∃ entry ∈ entries, entry.covers v) ∧
      (v ∈ (mstiVlans what entries).value → 1 ≤ v ∧ v ≤ 4094) := by
  refine foldlM_rule (fun done (vlans : BTreeSet UInt16) =>
    (v ∈ vlans ↔ ∃ entry ∈ done, entry.covers v) ∧ (v ∈ vlans → 1 ≤ v ∧ v ≤ 4094)) ?_ (by simp) clean
  intro done entry rest vlans _ ih hclean
  cases he : vlanEntry entry with
  | error e => simp [he] at hclean
  | ok ids =>
    obtain ⟨hcovers, hrange⟩ := vlanEntry_ok he v
    simp only [value_pure, ExtTreeSet.mem_insertMany_list, List.contains_iff_mem,
      List.mem_append, List.mem_singleton]
    refine ⟨?_, fun h => h.elim ih.2 hrange⟩
    rw [ih.1, hcovers]
    constructor
    · rintro (⟨e, hmem, hc⟩ | hc)
      · exact ⟨e, Or.inl hmem, hc⟩
      · exact ⟨entry, Or.inr rfl, hc⟩
    · rintro ⟨e, hmem | rfl, hc⟩
      · exact Or.inl ⟨e, hmem, hc⟩
      · exact Or.inr hc

end Entries

section Timers

/-- IEEE 802.1D 17.14, with the source's saturating subtraction. -/
structure TimersAccepted (config : Option TimerConfig) (t : Timers) : Prop where
  helloTime : ∀ c h, config = some c → c.helloTime = some h → h = defaultHelloTime
  maxAge : t.maxAge = (config.bind TimerConfig.maxAge).getD defaultMaxAge
  forwardDelay : t.forwardDelay = (config.bind TimerConfig.forwardingDelay).getD defaultForwardDelay
  holdCount : t.holdCount = (config.bind TimerConfig.holdCount).getD defaultHoldCount
  relation : t.maxAge.toNat ≤ 2 * (t.forwardDelay.toNat - 1)

theorem timers_clean {config : Option TimerConfig} {what : String}
    (clean : (timers config what).errors = []) :
    TimersAccepted config (timers config what).value := by
  simp only [timers, errors_bind, List.append_eq_nil_iff, errors_rejectIf, errors_pure,
    and_true] at clean
  obtain ⟨hhello, hrelation⟩ := clean
  refine ⟨?_, ?_, ?_, ?_, ?_⟩
  · rintro c h rfl hh
    simpa [hh] using hhello
  · cases config <;> rfl
  · cases config <;> rfl
  · cases config <;> rfl
  · simpa [timers] using hrelation

theorem regionRevision_clean {revision : Option UInt32}
    (clean : (regionRevision revision).errors = []) :
    ∀ r, revision = some r → (regionRevision revision).value.toUInt32 = r := by
  rintro r rfl
  by_cases h : r.toNat < 2 ^ 16
  · rw [regionRevision, if_pos h, value_pure, ← UInt32.toNat_inj, UInt16.toNat_toUInt32,
      UInt32.toNat_toUInt16]
    exact Nat.mod_eq_of_lt h
  · rw [regionRevision, if_neg h] at clean
    cases clean

theorem maxHops_clean {hops : Option UInt8} (clean : (maxHops hops).errors = []) :
    (maxHops hops).value = hops.getD defaultMaxHops ∧
      6 ≤ (maxHops hops).value ∧ (maxHops hops).value ≤ 40 := by
  cases hops with
  | none => exact ⟨rfl, by decide, by decide⟩
  | some h =>
    simp only [maxHops] at clean ⊢
    split
    · next hrange => exact ⟨rfl, hrange⟩
    · next hrange => simp [hrange] at clean

end Timers

section Trees

theorem bridgePriority_clean {priority : Option UInt16} {what : String}
    (clean : (bridgePriority priority what).errors = []) :
    (bridgePriority priority what).value = priority.getD defaultBridgePriority ∧
      (bridgePriority priority what).value % 4096 = 0 := by
  cases priority with
  | none => exact ⟨rfl, (by decide : defaultBridgePriority % 4096 = 0)⟩
  | some p =>
    simp only [bridgePriority] at clean ⊢
    split
    · next h => exact ⟨rfl, h.1⟩
    · next h => simp [h] at clean

/-- The settings of a port in a tree: what its entries say one after the other, over
the defaults. -/
def configuredPort (entries : List TreeInterface) (name : String) : TreePort :=
  (entries.filter fun i => i.name = name).foldl
    (fun port i => ⟨i.config.cost, i.config.portPriority.getD port.priority⟩) {}

theorem configuredPort_append (entries : List TreeInterface) (i : TreeInterface) (name : String) :
    configuredPort (entries ++ [i]) name =
      if i.name = name then
        ⟨i.config.cost, i.config.portPriority.getD (configuredPort entries name).priority⟩
      else configuredPort entries name := by
  unfold configuredPort
  by_cases h : i.name = name <;> simp [List.filter_append, h]

/-- A tree as configured: every switch port is in it. -/
structure TreeAccepted (priority : Option UInt16) (entries : List TreeInterface)
    (ports : BTreeSet String) (tree : Tree) : Prop where
  bridgePriority : tree.bridgePriority = priority.getD defaultBridgePriority
  bridgeMultiple : tree.bridgePriority % 4096 = 0
  lookup : ∀ name : String, tree.ports[name]? =
    if name ∈ ports then some (configuredPort entries name) else none
  known : ∀ i ∈ entries, i.name ∈ ports
  portMultiple : ∀ name, (configuredPort entries name).priority % 16 = 0

theorem TreeAccepted.mem_ports {priority : Option UInt16} {entries : List TreeInterface}
    {ports : BTreeSet String} {tree : Tree} (h : TreeAccepted priority entries ports tree)
    (name : String) : name ∈ tree.ports ↔ name ∈ ports := by
  rw [← ExtTreeMap.isSome_getElem?_iff_mem, h.lookup]
  split <;> simp_all

theorem getElem?_collect_const {V : Type} (names : BTreeSet String) (v : V) (name : String) :
    (BTreeMap.collect (names.toList.map fun n => (n, v)))[name]? =
      if name ∈ names then some v else none := by
  rw [BTreeMap.collect, BTreeMap.getElem?_foldl_insert_const]
  simp

theorem tree_clean {priority : Option UInt16} {interfaces : Option TreeInterfaces}
    {ports : BTreeSet String} {what : String}
    (clean : (tree priority interfaces ports what).errors = []) :
    TreeAccepted priority (treeInterfaces interfaces) ports
      (tree priority interfaces ports what).value := by
  simp only [tree, errors_bind, List.append_eq_nil_iff, errors_pure, and_true] at clean
  obtain ⟨hbridge, hloop⟩ := clean
  obtain ⟨hpriority, hmultiple⟩ := bridgePriority_clean hbridge
  have hports := foldlM_rule (fun done (m : BTreeMap String TreePort) =>
    (∀ name : String, m[name]? = if name ∈ ports then some (configuredPort done name) else none) ∧
    (∀ i ∈ done, i.name ∈ ports) ∧ ∀ name, (configuredPort done name).priority % 16 = 0) ?_
    ⟨fun name => getElem?_collect_const ports ({} : TreePort) name, by simp,
      fun _ => (by decide : ({} : TreePort).priority % 16 = 0)⟩ hloop
  · exact ⟨hpriority, hmultiple, hports.1, hports.2.1, hports.2.2⟩
  intro done i rest m _ ⟨hlookup, hknown, hsixteen⟩ hclean
  unfold treePort at hclean ⊢
  cases hport : m[i.name]? with
  | none => simp [hport] at hclean
  | some port =>
    have hlook := hlookup i.name
    have hin : i.name ∈ ports := by
      by_contra hno
      rw [if_neg hno, hport] at hlook
      cases hlook
    rw [if_pos hin, hport] at hlook
    cases hlook
    have hsettings : ∀ (p : UInt8) (name : String), p % 16 = 0 →
        p = i.config.portPriority.getD (configuredPort done i.name).priority →
        ((m.insert i.name ⟨i.config.cost, p⟩)[name]? =
          if name ∈ ports then some (configuredPort (done ++ [i]) name) else none) ∧
        (configuredPort (done ++ [i]) name).priority % 16 = 0 := by
      intro p name hp heq
      rw [ExtTreeMap.getElem?_insert, configuredPort_append]
      by_cases hname : i.name = name
      · subst hname
        simp only [Std.compare_self, if_true, hin, ← heq]
        exact ⟨trivial, hp⟩
      · rw [if_neg fun h => hname (Std.compare_eq_iff_eq.mp h), if_neg hname]
        exact ⟨hlookup name, hsixteen name⟩
    have hknown' : ∀ j ∈ done ++ [i], j.name ∈ ports := by
      intro j hj
      rcases List.mem_append.mp hj with hj | hj
      · exact hknown j hj
      · rw [List.mem_singleton.mp hj]
        exact hin
    simp only [hport] at hclean ⊢
    cases hp : i.config.portPriority with
    | none =>
      have hset := fun name => hsettings _ name (hsixteen i.name) (by rw [hp]; rfl)
      exact ⟨fun name => (hset name).1, hknown', fun name => (hset name).2⟩
    | some p =>
      simp only [hp] at hclean ⊢
      split
      · next hmul =>
        have hset := fun name => hsettings p name hmul (by rw [hp]; rfl)
        exact ⟨fun name => (hset name).1, hknown', fun name => (hset name).2⟩
      · next hmul => simp [hmul] at hclean

end Trees

section Instances

/-- An MSTI is what its `mst-instance` says. -/
structure MstiAccepted (inst : MstInstance) (ports : BTreeSet String) (msti : Msti) : Prop where
  vlans : ∀ v, v ∈ msti.vlans ↔ ∃ entry ∈ inst.config.vlan, entry.covers v
  range : ∀ v ∈ msti.vlans, 1 ≤ v ∧ v ≤ 4094
  tree : TreeAccepted inst.config.bridgePriority (treeInterfaces inst.interfaces) ports msti.tree

/-- The MSTIs are those of the `mst-instance` entries, and no VLAN is in two of them. -/
structure MstisAccepted (instances : List MstInstance) (ports : BTreeSet String)
    (mstis : BTreeMap UInt16 Msti) : Prop where
  configured : ∀ (id : UInt16) msti, mstis[id]? = some msti →
    ∃ inst ∈ instances, inst.id = some id ∧ MstiAccepted inst ports msti
  present : ∀ inst ∈ instances, ∃ id, inst.id = some id ∧ id ∈ mstis
  disjoint : ∀ (a b : UInt16) m n v, mstis[a]? = some m → mstis[b]? = some n →
    v ∈ m.vlans → v ∈ n.vlans → a = b

theorem MstisAccepted.of_nodup {instances : List MstInstance} {ports : BTreeSet String}
    {mstis : BTreeMap UInt16 Msti} (h : MstisAccepted instances ports mstis)
    (distinct : (instances.map MstInstance.id).Nodup) {inst : MstInstance} (hin : inst ∈ instances)
    {id : UInt16} (hid : inst.id = some id) :
    ∃ msti, mstis[id]? = some msti ∧ MstiAccepted inst ports msti := by
  obtain ⟨id', hid', hmem⟩ := h.present inst hin
  obtain rfl : id' = id := Option.some.inj (hid'.symm.trans hid)
  obtain ⟨msti, hm⟩ := (BTreeMap.mem_iff _ _).mp hmem
  obtain ⟨other, hother, hidother, accepted⟩ := h.configured id' msti hm
  obtain rfl : other = inst :=
    List.inj_on_of_nodup_map distinct hother hin (hidother.trans hid.symm)
  exact ⟨msti, hm, accepted⟩

/-- The loop invariant behind `disjoint`: each VLAN is noted with its MSTI. -/
structure MstiTable.Noted (done : List MstInstance) (ports : BTreeSet String)
    (table : MstiTable) : Prop where
  configured : ∀ (id : UInt16) msti, table.mstis[id]? = some msti →
    ∃ inst ∈ done, inst.id = some id ∧ MstiAccepted inst ports msti
  present : ∀ inst ∈ done, ∃ id, inst.id = some id ∧ id ∈ table.mstis
  noted : ∀ (id : UInt16) msti v, table.mstis[id]? = some msti → v ∈ msti.vlans →
    table.mstiOfVlan[v]? = some id

theorem MstiTable.Noted.accepted {instances : List MstInstance} {ports : BTreeSet String}
    {table : MstiTable} (h : table.Noted instances ports) :
    MstisAccepted instances ports table.mstis := by
  refine ⟨h.configured, h.present, fun a b m n v ha hb hm hn => ?_⟩
  have hva := h.noted a m v ha hm
  rw [h.noted b n v hb hn] at hva
  exact (Option.some.inj hva).symm

theorem mstInstance_clean {ports : BTreeSet String} {table : MstiTable} {done : List MstInstance}
    {inst : MstInstance} (h : table.Noted done ports)
    (clean : (mstInstance ports table inst).errors = []) :
    (mstInstance ports table inst).value.Noted (done ++ [inst]) ports := by
  unfold mstInstance at clean ⊢
  have hid : inst.id = inst.config.mstId.or inst.mstId := rfl
  cases hi : inst.config.mstId.or inst.mstId with
  | none => simp [hi] at clean
  | some id =>
    simp only [hi, errors_bind, List.append_eq_nil_iff, errors_pure, and_true] at clean
    obtain ⟨hvlans, hnoted, htree⟩ := clean
    obtain ⟨hfresh, hlookup⟩ := insertUnique_fresh hnoted
    have hmsti : MstiAccepted inst ports ⟨_, _⟩ :=
      ⟨fun v => (mstiVlans_clean hvlans v).1, fun v => (mstiVlans_clean hvlans v).2,
        tree_clean htree⟩
    simp only [value_bind, value_pure]
    refine ⟨fun id' msti hm => ?_, fun inst' hinst => ?_, fun id' msti v hm hv => ?_⟩
    · rw [ExtTreeMap.getElem?_insert] at hm
      split at hm
      · next heq =>
        cases hm
        rw [← Std.compare_eq_iff_eq.mp heq]
        exact ⟨inst, by simp, hid.trans hi, hmsti⟩
      · obtain ⟨inst', hin, hrest⟩ := h.configured id' msti hm
        exact ⟨inst', by simp [hin], hrest⟩
    · rcases List.mem_append.mp hinst with hinst | hinst
      · obtain ⟨id', hid', hin⟩ := h.present inst' hinst
        exact ⟨id', hid', by simp [hin]⟩
      · rw [List.mem_singleton.mp hinst]
        exact ⟨id, hid.trans hi, by simp⟩
    · rw [hlookup v]
      rw [ExtTreeMap.getElem?_insert] at hm
      split at hm
      · next heq =>
        cases hm
        rw [if_pos (by simpa using hv), Std.compare_eq_iff_eq.mp heq]
      · have hold := h.noted id' msti v hm hv
        rw [if_neg, hold]
        -- a VLAN noted before is not one of this instance, or the loop had reported it
        intro hin
        rw [hfresh v hin] at hold
        cases hold

theorem mstis_clean {instances : Option MstInstances} {ports : BTreeSet String}
    (clean : (mstis instances ports).errors = []) :
    MstisAccepted (MstInstances.listed instances) ports (mstis instances ports).value := by
  simp only [mstis, errors_bind, List.append_eq_nil_iff, errors_pure, and_true] at clean
  refine MstiTable.Noted.accepted (foldlM_rule (fun done table => table.Noted done ports)
    (fun done inst rest table _ h hclean => mstInstance_clean h hclean) ?_ clean)
  exact ⟨by simp, by simp, by simp⟩

end Instances

section Features

theorem portFeature_clean {features : BTreeMap String PortFeatures} {i : FeatureInterface}
    (clean : (portFeature features i).errors = []) (name : String) :
    name ∈ (portFeature features i).value ↔ name ∈ features := by
  unfold portFeature at clean ⊢
  cases hf : features[i.name]? with
  | none => simp [hf] at clean
  | some f =>
    have hin : i.name ∈ features := (BTreeMap.mem_iff _ _).mpr ⟨f, hf⟩
    simp only [value_bind, value_pure, ExtTreeMap.mem_insert, Std.compare_eq_iff_eq]
    constructor
    · rintro (rfl | h)
      · exact hin
      · exact h
    · exact Or.inr

theorem portFeatures_clean {config : StpConfig} {ports : BTreeSet String}
    (clean : (portFeatures config ports).errors = []) (name : String) :
    name ∈ (portFeatures config ports).value ↔ name ∈ ports := by
  refine foldlM_rule (fun _ (features : BTreeMap String PortFeatures) =>
    (name ∈ features ↔ name ∈ ports)) ?_ ?_ clean
  · intro done i rest features _ ih hclean
    rw [portFeature_clean hclean, ih]
  · rw [← ExtTreeMap.isSome_getElem?_iff_mem, getElem?_collect_const]
    split <;> simp_all

end Features

section Protocols

/-- The protocol an `enabled-protocol` identity names. -/
def protocolOf (identity : String) : Option StpProtocol :=
  match unprefixed identity with
  | "STP" => some .stp
  | "RSTP" => some .rstp
  | "MSTP" => some .mstp
  | _ => none

theorem enabledProtocol_step {protocols : BTreeSet StpProtocol} {identity : String}
    (clean : (enabledProtocol protocols identity).errors = []) :
    ∃ p, protocolOf identity = some p ∧
      (enabledProtocol protocols identity).value = protocols.insert p := by
  unfold enabledProtocol at clean
  split at clean
  · next h => exact ⟨.stp, by simp [protocolOf, h], by simp [enabledProtocol, h]⟩
  · next h => exact ⟨.rstp, by simp [protocolOf, h], by simp [enabledProtocol, h]⟩
  · next h => exact ⟨.mstp, by simp [protocolOf, h], by simp [enabledProtocol, h]⟩
  · cases clean

theorem enabledProtocol_clean {identities : List String}
    (clean : (identities.foldlM enabledProtocol ∅).errors = []) :
    (∀ identity ∈ identities, (protocolOf identity).isSome) ∧
    ∀ p, p ∈ (identities.foldlM enabledProtocol ∅).value ↔
      ∃ identity ∈ identities, protocolOf identity = some p := by
  refine foldlM_rule (fun done (protocols : BTreeSet StpProtocol) =>
    (∀ identity ∈ done, (protocolOf identity).isSome) ∧
    ∀ p, p ∈ protocols ↔ ∃ identity ∈ done, protocolOf identity = some p) ?_ (by simp) clean
  intro done identity rest protocols _ ⟨hknown, hmem⟩ hclean
  obtain ⟨p, hp, hvalue⟩ := enabledProtocol_step hclean
  rw [hvalue]
  refine ⟨fun other hother => ?_, fun q => ?_⟩
  · rcases List.mem_append.mp hother with hother | hother
    · exact hknown other hother
    · rw [List.mem_singleton.mp hother, hp]
      rfl
  · simp only [BTreeSet.mem_insert_iff, hmem q, List.mem_append, List.mem_singleton]
    constructor
    · rintro (rfl | ⟨other, hin, hq⟩)
      · exact ⟨identity, Or.inr rfl, hp⟩
      · exact ⟨other, Or.inl hin, hq⟩
    · rintro ⟨other, hin | rfl, hq⟩
      · exact Or.inr ⟨other, hin, hq⟩
      · rw [hp] at hq
        exact Or.inl (Option.some.inj hq).symm

/-- With at most one element, a set is its first one. -/
theorem head?_eq_some_of_size_le {α : Type} [Ord α] [Std.TransOrd α] [Std.LawfulEqOrd α]
    {s : BTreeSet α} (small : s.size ≤ 1) {a : α} (h : s.toList.head? = some a) (b : α) :
    b ∈ s ↔ b = a := by
  rw [← ExtTreeSet.mem_toList]
  rw [← ExtTreeSet.length_toList] at small
  obtain ⟨rest, hlist⟩ := List.head?_eq_some_iff.mp h
  rw [hlist, List.length_cons] at small
  have hrest : rest = [] := List.length_eq_zero_iff.mp (by omega)
  rw [hlist, hrest, List.mem_singleton]

end Protocols

section Section

def StpConfig.identities (config : StpConfig) : List String :=
  (config.global.map fun g => g.config.enabledProtocol).getD []

/-- What runs under STP and RSTP is `/stp/rstp`. -/
structure RstpSettings (config : StpConfig) (ports : BTreeSet String) (s : Stp) : Prop where
  timers : TimersAccepted (config.rstp.map Rstp.config) ⟨s.maxAge, s.forwardDelay, s.holdCount⟩
  cist : TreeAccepted ((config.rstp.map Rstp.config).bind TimerConfig.bridgePriority)
    (treeInterfaces (config.rstp.bind Rstp.interfaces)) ports s.cist
  mstis : s.mstis = ∅
  maxHops : s.maxHops = defaultMaxHops
  regionName : s.regionName = none
  regionRevision : s.regionRevision = 0

/-- What runs under MSTP is `/stp/mstp`. -/
structure MstpSettings (config : StpConfig) (ports : BTreeSet String) (s : Stp) : Prop where
  timers : TimersAccepted (config.mstp.map Mstp.config) ⟨s.maxAge, s.forwardDelay, s.holdCount⟩
  cist : TreeAccepted ((config.mstp.map Mstp.config).bind TimerConfig.bridgePriority)
    (treeInterfaces (config.mstp.bind Mstp.interfaces)) ports s.cist
  mstis : MstisAccepted (MstInstances.listed (config.mstp.bind Mstp.mstInstances)) ports s.mstis
  maxHops : s.maxHops = ((config.mstp.map Mstp.config).bind TimerConfig.maxHop).getD defaultMaxHops
  hopRange : 6 ≤ s.maxHops ∧ s.maxHops ≤ 40
  regionName : s.regionName = (config.mstp.map Mstp.config).bind TimerConfig.name
  regionRevision : ∀ r, (config.mstp.map Mstp.config).bind TimerConfig.revision = some r →
    s.regionRevision.toUInt32 = r

/-- `/stp` as accepted, with a protocol enabled. -/
structure StpAccepted (config : StpConfig) (ports : BTreeSet String) (s : Stp) : Prop where
  enabled : config.identities ≠ []
  protocol : ∀ identity ∈ config.identities, protocolOf identity = some s.protocol
  helloTime : s.helloTime = defaultHelloTime
  features : ∀ name, name ∈ s.ports ↔ name ∈ ports
  rstp : s.protocol ≠ .mstp → RstpSettings config ports s
  mstp : s.protocol = .mstp → MstpSettings config ports s

theorem stpMessages_clean {config : StpConfig} {ports : BTreeSet String}
    (clean : (stpMessages config ports).errors = []) {s : Stp}
    (h : (stpMessages config ports).value = some s) : StpAccepted config ports s := by
  simp only [stpMessages, errors_bind, List.append_eq_nil_iff, errors_pure, and_true,
    errors_rejectIf] at clean
  obtain ⟨hprotocols, hsingle, hfeatures, hrstp, -, hrstpTree, hmstp, hrevision, hhops, hcist,
    hmstis⟩ := clean
  simp only [stpMessages, value_bind, value_pure, Option.map_eq_some_iff] at h
  obtain ⟨protocol, hhead, rfl⟩ := h
  obtain ⟨hknown, hmem⟩ := enabledProtocol_clean hprotocols
  have hone := head?_eq_some_of_size_le (by simpa using hsingle) hhead
  have henabled : config.identities ≠ [] := by
    intro hnil
    obtain ⟨identity, hin, -⟩ := (hmem protocol).mp ((hone protocol).mpr rfl)
    rw [StpConfig.identities] at hnil
    rw [hnil] at hin
    cases hin
  have hprotocol : ∀ identity ∈ config.identities, protocolOf identity = some protocol := by
    intro identity hin
    obtain ⟨p, hp⟩ := Option.isSome_iff_exists.mp (hknown identity hin)
    rw [hp, (hone p).mp ((hmem p).mpr ⟨identity, hin, hp⟩)]
  by_cases hp : protocol = .mstp
  · rw [if_pos hp]
    refine ⟨henabled, hprotocol, rfl, portFeatures_clean hfeatures, fun hne => absurd hp hne,
      fun _ => ⟨timers_clean hmstp, tree_clean hcist, mstis_clean hmstis, (maxHops_clean hhops).1,
        (maxHops_clean hhops).2, rfl, regionRevision_clean hrevision⟩⟩
  · rw [if_neg hp]
    exact ⟨henabled, hprotocol, rfl, portFeatures_clean hfeatures,
      fun _ => ⟨timers_clean hrstp, tree_clean hrstpTree, rfl, rfl, rfl, rfl⟩,
      fun heq => absurd heq hp⟩

/-- With a protocol enabled, something runs. -/
theorem stpMessages_enabled {config : StpConfig} {ports : BTreeSet String}
    (clean : (stpMessages config ports).errors = []) (enabled : config.identities ≠ []) :
    ∃ s, (stpMessages config ports).value = some s := by
  simp only [stpMessages, errors_bind, List.append_eq_nil_iff] at clean
  obtain ⟨identity, hin⟩ := List.exists_mem_of_ne_nil _ enabled
  obtain ⟨hknown, hmem⟩ := enabledProtocol_clean clean.1
  obtain ⟨p, hp⟩ := Option.isSome_iff_exists.mp (hknown identity hin)
  have hmember : p ∈ ExtTreeSet.toList (config.identities.foldlM enabledProtocol ∅).value :=
    ExtTreeSet.mem_toList.mpr ((hmem p).mpr ⟨identity, hin, hp⟩)
  obtain ⟨protocol, hhead⟩ : ∃ q, (ExtTreeSet.toList
      (config.identities.foldlM enabledProtocol ∅).value).head? = some q :=
    ⟨_, List.head?_eq_some_head (List.ne_nil_of_mem hmember)⟩
  rw [StpConfig.identities] at hhead
  simp only [stpMessages, value_bind, value_pure, hhead]
  exact ⟨_, rfl⟩

end Section

section State
variable {config : Config} {switchPorts : BTreeSet String} {state : DesiredState}

/-- `/stp`, an absent container as an empty one. -/
def Config.stpConfig (config : Config) : StpConfig := config.stp.getD {}

theorem desiredState_stp (h : desiredState config switchPorts = .ok state) {s : Stp}
    (hs : state.stp = some s) : StpAccepted config.stpConfig state.portNames s := by
  obtain ⟨⟨hclean, hvalue⟩, -⟩ := desiredState_sections h
  rw [desiredStp, errors_mapErrors, List.map_eq_nil_iff] at hclean
  rw [hs, desiredStp, value_mapErrors] at hvalue
  exact stpMessages_clean hclean hvalue.symm

theorem desiredState_stp_enabled (h : desiredState config switchPorts = .ok state)
    (enabled : config.stpConfig.identities ≠ []) : ∃ s, state.stp = some s := by
  obtain ⟨⟨hclean, hvalue⟩, -⟩ := desiredState_sections h
  rw [desiredStp, errors_mapErrors, List.map_eq_nil_iff] at hclean
  obtain ⟨s, hs⟩ := stpMessages_enabled hclean enabled
  exact ⟨s, by rw [hvalue, desiredStp, value_mapErrors]; exact hs⟩

theorem desiredState_mstp (h : desiredState config switchPorts = .ok state)
    (enabled : ∃ identity ∈ config.stpConfig.identities, protocolOf identity = some .mstp) :
    ∃ s, state.stp = some s ∧
      MstisAccepted (instancesOf config.stpConfig) state.portNames s.mstis := by
  obtain ⟨identity, hin, hidentity⟩ := enabled
  obtain ⟨s, hs⟩ := desiredState_stp_enabled h (List.ne_nil_of_mem hin)
  have hstp := desiredState_stp h hs
  have hmstp : s.protocol = .mstp :=
    Option.some.inj ((hstp.protocol identity hin).symm.trans hidentity)
  exact ⟨s, hs, (hstp.mstp hmstp).mstis⟩

end State

end ClixonSwitch.Source.SwitchModel
