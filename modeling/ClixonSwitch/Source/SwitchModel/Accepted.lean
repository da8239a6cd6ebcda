import ClixonSwitch.Source.SwitchModel.Validation

/-!
# What the validation functions accept

One lemma for each function of `SwitchModel.Validation`: what follows from its
having reported nothing. Later proofs use these and do not unfold the functions.
-/
namespace ClixonSwitch.Source.SwitchModel
open Std Lib Lib.Collect

section Keys

/-- Two entries do not have the same key. -/
def Apart {α K : Type} (key : α → Option K) (a b : α) : Prop :=
  ∀ k, key a = some k → key b ≠ some k

theorem Apart.symm {α K : Type} {key : α → Option K} (a b : α) (h : Apart key a b) :
    Apart key b a := fun k hb ha => h k ha hb

theorem pairwise_apart {α K : Type} {key : α → Option K} {l : List α} (h : (l.filterMap key).Nodup) :
    l.Pairwise (Apart key) := by
  refine (List.pairwise_filterMap.mp h).imp fun {a b} hab k ha hb => ?_
  exact hab k ha k hb rfl

/-- No two interfaces have one name. -/
structure DistinctNames (config : Config) : Prop where
  interfaces : (config.interfaceList.map Interface.name).Nodup

/-- Nor have two VLANs one id. -/
structure DistinctKeys (config : Config) : Prop extends DistinctNames config where
  vlans : (config.vlanEntries.filterMap VlanEntry.key).Nodup

theorem DistinctKeys.vlan_inj {config : Config} (h : DistinctKeys config) {a b : VlanEntry}
    {id : UInt16} (ha : a ∈ config.vlanEntries) (hb : b ∈ config.vlanEntries)
    (hka : a.key = some id) (hkb : b.key = some id) : a = b := by
  by_contra hne
  have : Std.Symm (Apart VlanEntry.key) := ⟨Apart.symm⟩
  exact (pairwise_apart h.vlans).forall ha hb hne id hka hkb

end Keys

section Ids

theorem toUInt64_le_toUInt64 (a b : UInt16) : a.toUInt64 ≤ b.toUInt64 ↔ a ≤ b := by
  rw [UInt64.le_iff_toNat_le, UInt16.le_iff_toNat_le, UInt16.toNat_toUInt64, UInt16.toNat_toUInt64]

theorem toUInt64_inj (a b : UInt16) : a.toUInt64 = b.toUInt64 ↔ a = b := by
  rw [← UInt64.toNat_inj, ← UInt16.toNat_inj, UInt16.toNat_toUInt64, UInt16.toNat_toUInt64]

theorem checkVlanId_ok {id : UInt64} {v : UInt16} (h : checkVlanId id = .ok v) :
    v.toUInt64 = id ∧ 1 ≤ v ∧ v ≤ 4094 := by
  unfold checkVlanId at h
  split at h
  · next hrange =>
    cases h
    obtain ⟨hlow, hhigh⟩ := hrange
    rw [UInt64.le_iff_toNat_le] at hlow hhigh
    have h1 : (1 : UInt64).toNat = 1 := rfl
    have h2 : (4094 : UInt64).toNat = 4094 := rfl
    have hsmall : id.toUInt16.toNat = id.toNat := by
      rw [UInt64.toNat_toUInt16]
      omega
    refine ⟨?_, ?_, ?_⟩
    · rw [← UInt64.toNat_inj, UInt16.toNat_toUInt64, hsmall]
    · rw [UInt16.le_iff_toNat_le, hsmall]
      exact hlow
    · rw [UInt16.le_iff_toNat_le, hsmall]
      exact hhigh
  · cases h

theorem declared_ok {domain : Domain} {id : UInt64} {v : UInt16}
    (h : domain.declared id = .ok v) : v.toUInt64 = id ∧ v ∈ domain.vlans := by
  unfold Domain.declared at h
  cases hid : checkVlanId id with
  | error e =>
    rw [hid] at h
    cases h
  | ok w =>
    simp only [hid, bind, Except.bind] at h
    split at h
    · next hin =>
      cases h
      exact ⟨(checkVlanId_ok hid).1, by simpa using hin⟩
    · cases hm : domain.mode <;> simp [hm] at h

end Ids

section Trunks

/-- A trunk-vlans entry names `v`, as an id or in a range. -/
def Scalar.covers (entry : Scalar) (v : UInt16) : Prop :=
  entry.asU64 = some v.toUInt64 ∨
    entry.asU64 = none ∧ ∃ low high, rangeBounds entry.display = some (low, high) ∧
      low ≤ v.toUInt64 ∧ v.toUInt64 ≤ high

/-- The bounds of a range that is accepted are VLAN ids. -/
theorem checkRange_ok {bounds : UInt64 × UInt64} {message : UInt16 → UInt16 → String}
    {listed : UInt16 → UInt16 → List UInt16} {ids : List UInt16}
    (h : (do
      let low ← checkVlanId bounds.1
      let high ← checkVlanId bounds.2
      if low ≥ high then Except.error (message low high) else .ok (listed low high)) = .ok ids) :
    ∃ low high : UInt16, bounds = (low.toUInt64, high.toUInt64) ∧ 1 ≤ low ∧ high ≤ 4094 ∧
      ids = listed low high := by
  obtain ⟨low, high⟩ := bounds
  cases hl : checkVlanId low with
  | error e =>
    rw [hl] at h
    cases h
  | ok l =>
    cases hh : checkVlanId high with
    | error e =>
      rw [hl, hh] at h
      cases h
    | ok u =>
      simp only [hl, hh, bind, Except.bind] at h
      split at h
      · cases h
      · cases h
        obtain ⟨rfl, hlow⟩ := checkVlanId_ok hl
        obtain ⟨rfl, hhigh⟩ := checkVlanId_ok hh
        exact ⟨l, u, rfl, hlow.1, hhigh.2, rfl⟩

theorem trunkEntry_ok {entry : Scalar} {domain : Domain} {ids : List UInt16}
    (h : trunkEntry entry domain = .ok ids) (v : UInt16) :
    v ∈ ids ↔ v ∈ domain.vlans ∧ entry.covers v := by
  unfold trunkEntry at h
  cases hid : entry.asU64 with
  | some id =>
    simp only [hid] at h
    cases hd : domain.declared id with
    | error e =>
      rw [hd] at h
      cases h
    | ok w =>
      rw [hd] at h
      cases h
      obtain ⟨rfl, hin⟩ := declared_ok hd
      simp only [List.mem_singleton, Scalar.covers, hid, Option.some.injEq, toUInt64_inj,
        reduceCtorEq, false_and, or_false]
      constructor
      · rintro rfl
        exact ⟨hin, rfl⟩
      · rintro ⟨-, rfl⟩
        rfl
  | none =>
    simp only [hid] at h
    cases hb : rangeBounds entry.display with
    | none =>
      rw [hb] at h
      cases h
    | some bounds =>
      simp only [hb] at h
      obtain ⟨low, high, rfl, -, -, rfl⟩ := checkRange_ok h
      simp [Scalar.covers, hid, hb]

theorem addTrunkEntry_loop {domain : Domain} {entries : List Scalar} {ok : Bool}
    {all : BTreeSet UInt16}
    (clean : (entries.foldlM (addTrunkEntry domain) (ok, all)).errors = []) :
    (entries.foldlM (addTrunkEntry domain) (ok, all)).value.1 = ok ∧
    ∀ v, v ∈ (entries.foldlM (addTrunkEntry domain) (ok, all)).value.2 ↔
      v ∈ all ∨ v ∈ domain.vlans ∧ ∃ entry ∈ entries, entry.covers v := by
  refine foldlM_rule (fun done (acc : Bool × BTreeSet UInt16) => acc.1 = ok ∧ ∀ v, v ∈ acc.2 ↔
    v ∈ all ∨ v ∈ domain.vlans ∧ ∃ entry ∈ done, entry.covers v) ?_ (by simp) clean
  intro done entry rest acc _ ih hclean
  unfold addTrunkEntry at hclean ⊢
  cases he : trunkEntry entry domain with
  | error e => simp [he] at hclean
  | ok ids =>
    refine ⟨ih.1, fun v => ?_⟩
    simp only [value_pure, ExtTreeSet.mem_insertMany_list, List.contains_iff_mem,
      trunkEntry_ok he v, ih.2 v, List.mem_append, List.mem_singleton]
    constructor
    · rintro ((h | ⟨hin, e, hmem, hc⟩) | ⟨hin, hc⟩)
      · exact Or.inl h
      · exact Or.inr ⟨hin, e, Or.inl hmem, hc⟩
      · exact Or.inr ⟨hin, entry, Or.inr rfl, hc⟩
    · rintro (h | ⟨hin, e, hmem | rfl, hc⟩)
      · exact Or.inl (Or.inl h)
      · exact Or.inl (Or.inr ⟨hin, e, hmem, hc⟩)
      · exact Or.inr ⟨hin, hc⟩

end Trunks

section Ports

/-- An access port: its VLAN is declared, and carried untagged if it is active. -/
structure IsAccess (c : SwitchedVlanConfig) (domain : Domain) (v : PortVlans) : Prop where
  mode : c.interfaceMode = none ∨ c.interfaceMode = some "ACCESS"
  vlan : ∃ a, c.accessVlan = some a ∧ a ∈ domain.vlans ∧
    v.1 = if domain.active a then some a else none
  tagged : v.2 = ∅

/-- A trunk port: the native VLAN is declared, and carried untagged if it is active;
the tagged VLANs are the other active ones of its entries. -/
structure IsTrunk (c : SwitchedVlanConfig) (domain : Domain) (v : PortVlans) : Prop where
  mode : c.interfaceMode = some "TRUNK"
  declared : ∀ n, c.nativeVlan = some n → n ∈ domain.vlans
  native : v.1 = c.nativeVlan.filter domain.active
  tagged : ∀ vid, vid ∈ v.2 ↔ (vid ∈ domain.vlans ∧
      (c.trunkVlans = [] ∨ ∃ entry ∈ c.trunkVlans, entry.covers vid)) ∧
    c.nativeVlan ≠ some vid ∧ domain.active vid = true

theorem mapM_declared_clean {domain : Domain} {vlan : Option UInt16}
    (h : (vlan.mapM (declared domain)).errors = []) :
    (vlan.mapM (declared domain)).value = vlan.map some ∧
      ∀ v, vlan = some v → v ∈ domain.vlans := by
  cases vlan with
  | none => exact ⟨rfl, by simp⟩
  | some v =>
    rw [Option.mapM_some, errors_map] at h
    obtain ⟨w, hw, hval⟩ := attempt_clean h
    obtain ⟨heq, hin⟩ := declared_ok hw
    obtain rfl := (toUInt64_inj w v).mp heq
    rw [Option.mapM_some, value_map]
    refine ⟨by rw [declared, hval]; rfl, fun u hu => ?_⟩
    cases hu
    exact hin

theorem accessVlans_clean {c : SwitchedVlanConfig} {domain : Domain}
    (hmode : c.interfaceMode = none ∨ c.interfaceMode = some "ACCESS")
    (clean : (accessVlans c domain).errors = []) :
    ∃ v, (accessVlans c domain).value = some v ∧ IsAccess c domain v := by
  unfold accessVlans at clean ⊢
  rw [errors_bind, List.append_eq_nil_iff] at clean
  obtain ⟨hval, hdecl⟩ := mapM_declared_clean clean.1
  rw [hval] at clean
  rw [value_bind, value_bind, hval]
  cases ha : c.accessVlan with
  | none => simp [ha] at clean
  | some a =>
    refine ⟨_, rfl, hmode, ⟨a, ha, hdecl a ha, ?_⟩, rfl⟩
    cases hact : domain.active a <;> simp [hact, Option.filter]

theorem trunkVlans_clean {c : SwitchedVlanConfig} {domain : Domain}
    (hmode : c.interfaceMode = some "TRUNK") (clean : (trunkVlans c domain).errors = []) :
    ∃ v, (trunkVlans c domain).value = some v ∧ IsTrunk c domain v := by
  unfold trunkVlans at clean ⊢
  rw [errors_bind, List.append_eq_nil_iff] at clean
  obtain ⟨hnative, hrest⟩ := clean
  obtain ⟨hval, hdecl⟩ := mapM_declared_clean hnative
  have hjoin : (c.nativeVlan.map some).join = c.nativeVlan := by
    cases c.nativeVlan <;> rfl
  have hplain : (c.nativeVlan.map some != some none) = true := by
    cases c.nativeVlan <;> rfl
  rw [hval] at hrest
  rw [value_bind, hval]
  simp only [errors_bind, List.append_eq_nil_iff, errors_rejectIf] at hrest
  obtain ⟨haccess, hloop, -⟩ := hrest
  have hflag : (c.nativeVlan.map some != some none && c.accessVlan.isNone) = true := by
    simpa [hplain] using haccess
  rw [hflag] at hloop
  obtain ⟨hok, htagged⟩ := addTrunkEntry_loop hloop
  simp only [value_bind, value_pure, hflag, hok, if_true]
  refine ⟨_, rfl, hmode, hdecl, congrArg (Option.filter domain.active) hjoin, fun vid => ?_⟩
  have hall : vid ∈ (if c.trunkVlans.isEmpty then ExtTreeSet.ofList domain.vlans.keys compare
      else ∅ : BTreeSet UInt16) ↔ vid ∈ domain.vlans ∧ c.trunkVlans = [] := by
    cases c.trunkVlans <;> simp
  rw [BTreeSet.mem_filter_iff, htagged vid, hall, hjoin, ← and_or_left]
  simp [ne_comm]

theorem switchedVlans_clean {c : SwitchedVlanConfig} {domain : Domain}
    (clean : (switchedVlans c domain).errors = []) :
    ∃ v, (switchedVlans c domain).value = some v ∧ (IsAccess c domain v ∨ IsTrunk c domain v) := by
  unfold switchedVlans at clean ⊢
  split
  · next hm =>
    obtain ⟨v, hv, h⟩ := accessVlans_clean (Or.inl hm) (by simpa [hm] using clean)
    exact ⟨v, hv, Or.inl h⟩
  · next hm =>
    obtain ⟨v, hv, h⟩ := accessVlans_clean (Or.inr hm) (by simpa [hm] using clean)
    exact ⟨v, hv, Or.inl h⟩
  · next hm =>
    obtain ⟨v, hv, h⟩ := trunkVlans_clean hm (by simpa [hm] using clean)
    exact ⟨v, hv, Or.inr h⟩
  · next hm => simp [hm] at clean

/-- The VLANs of an accepted port in the mode of the switch. -/
structure CarriesAsConfigured (i : Interface) (domain : Domain) (v : PortVlans) : Prop where
  dot1q : domain.mode = .dot1q → ∃ c, i.vlanConfig = some c ∧
    (IsAccess c domain v ∨ IsTrunk c domain v)
  portBased : domain.mode = .portBased → v.2 = ∅ ∧
    ∃ g, domain.groupOfPort[i.name]? = some g ∧ v.1 = some g

theorem portVlansOf_clean {i : Interface} {domain : Domain}
    (clean : (portVlansOf i domain).errors = []) :
    ∃ v, (portVlansOf i domain).value = some v ∧ CarriesAsConfigured i domain v := by
  unfold portVlansOf at clean ⊢
  cases hmode : domain.mode with
  | dot1q =>
    simp only [hmode] at clean ⊢
    cases hc : i.vlanConfig with
    | none => simp [hc] at clean
    | some c =>
      simp only [hc] at clean ⊢
      obtain ⟨v, hv, h⟩ := switchedVlans_clean clean
      refine ⟨v, hv, ⟨fun _ => ⟨c, hc, h⟩, fun hp => ?_⟩⟩
      rw [hmode] at hp
      cases hp
  | portBased =>
    simp only [hmode] at clean ⊢
    cases hg : domain.groupOfPort[i.name]? with
    | none => simp [hg] at clean
    | some g =>
      refine ⟨_, rfl, ⟨fun hd => ?_, fun _ => ⟨rfl, g, hg, rfl⟩⟩⟩
      rw [hmode] at hd
      cases hd

/-- An accepted switch port. -/
structure PortAccepted (i : Interface) (switchPorts : BTreeSet String) (domain : Domain)
    (p : Port) : Prop where
  name : i.name ∈ switchPorts
  enabled : p.enabled = i.config.enabled.getD true
  carries : CarriesAsConfigured i domain (p.nativeVlan, p.taggedVlans)

theorem port_ok {i : Interface} {switchPorts : BTreeSet String} {domain : Domain} {p : Port}
    (h : port i switchPorts domain = .ok p) : PortAccepted i switchPorts domain p := by
  unfold port at h
  obtain ⟨clean, hval⟩ := require_eq_ok.mp h
  simp only [errors_bind, List.append_eq_nil_iff, errors_rejectIf] at clean
  obtain ⟨hname, -, hvlans, -⟩ := clean
  obtain ⟨v, hv, hcarries⟩ := portVlansOf_clean hvlans
  simp only [value_bind, value_pure, hv, Option.map_some, Option.some.injEq] at hval
  subst hval
  exact ⟨by simpa using hname, rfl, hcarries⟩

/-- A port is never dropped without a message. -/
theorem port_ne_error_nil (i : Interface) (switchPorts : BTreeSet String) (domain : Domain) :
    port i switchPorts domain ≠ .error [] := by
  refine require_ne_error_nil fun clean => ?_
  simp only [errors_bind, List.append_eq_nil_iff] at clean
  obtain ⟨v, hv, -⟩ := portVlansOf_clean clean.2.2.1
  simp [hv]

end Ports

section Svis

/-- The address that an entry stands for, if it is one. -/
def Address.parsed (address : Address) : Option Ipv4Prefix := do
  let addr ← parseIpv4Addr address.ip
  let len ← address.config.prefixLength
  if len ≤ 32 then some ⟨addr, len⟩ else none

def RoutedVlan.addressEntries (routed : RoutedVlan) : List Address :=
  (routed.ipv4.map fun ip => ip.addresses.address).getD []

def Interface.addressEntries (i : Interface) : List Address :=
  (i.routedVlan.map RoutedVlan.addressEntries).getD []

/-- The addresses are those of the entries, all of which are addresses. -/
structure AddressesAccepted (entries : List Address) (addresses : BTreeSet Ipv4Prefix) :
    Prop where
  mem_iff : ∀ p, p ∈ addresses ↔ ∃ address ∈ entries, address.parsed = some p
  parsed : ∀ address ∈ entries, address.parsed.isSome = true
  lengths : ∀ p ∈ addresses, p.prefixLen ≤ 32

/-- An accepted routed VLAN interface. -/
structure SviAccepted (i : Interface) (switchPorts : BTreeSet String) (domain : Domain)
    (s : Svi) : Prop where
  name : validIfname i.name = true
  notBridge : i.name ≠ bridgeName
  notPort : i.name ∉ switchPorts
  vlan : s.vlan ∈ domain.vlans
  lengths : ∀ p ∈ s.addresses, p.prefixLen ≤ 32
  addresses : AddressesAccepted i.addressEntries s.addresses

theorem vlanByName_ok {name : String} {domain : Domain} {id : UInt16}
    (h : vlanByName name domain = .ok id) : id ∈ domain.vlans := by
  have hids : domain.vlansNamed name = [id] := by
    unfold vlanByName at h
    rcases hids : domain.vlansNamed name with - | ⟨a, - | ⟨b, rest⟩⟩
    · rw [hids] at h
      exact nomatch h
    · rw [hids] at h
      rw [Except.ok.inj h]
    · rw [hids] at h
      exact nomatch h
  have hmem : id ∈ domain.vlansNamed name := hids ▸ List.mem_singleton_self id
  obtain ⟨e, he, rfl⟩ := List.mem_map.mp hmem
  rw [BTreeMap.mem_iff]
  exact ⟨e.2, ExtTreeMap.mem_toList_iff_getElem?_eq_some.mp (List.mem_filter.mp he).1⟩

theorem routedVlanId_ok {vlan : Option Scalar} {domain : Domain} {id : UInt16}
    (h : routedVlanId vlan domain = .ok id) : id ∈ domain.vlans := by
  unfold routedVlanId at h
  cases vlan with
  | none => exact nomatch h
  | some v =>
    simp only at h
    cases hv : v.asU64 with
    | some n =>
      rw [hv] at h
      exact (declared_ok h).2
    | none =>
      rw [hv] at h
      exact vlanByName_ok h

theorem addAddress_clean {addresses : BTreeSet Ipv4Prefix} {address : Address}
    (clean : (addAddress addresses address).errors = []) :
    ∃ p, address.parsed = some p ∧ p.prefixLen ≤ 32 ∧
      (addAddress addresses address).value = addresses.insert p := by
  unfold addAddress at clean ⊢
  cases hip : parseIpv4Addr address.ip with
  | none => simp [hip] at clean
  | some addr =>
    cases hlen : address.config.prefixLength with
    | none => simp [hip, hlen] at clean
    | some len =>
      by_cases hle : len ≤ 32
      · exact ⟨⟨addr, len⟩, by simp [Address.parsed, hip, hlen, hle], hle, by simp [hle]⟩
      · simp [hip, hlen, hle] at clean

theorem addAddress_loop {entries : List Address}
    (clean : (entries.foldlM addAddress ∅).errors = []) :
    AddressesAccepted entries (entries.foldlM addAddress ∅).value := by
  refine foldlM_rule AddressesAccepted ?_ ⟨by simp, by simp, by simp⟩ clean
  intro done address rest addresses _ ih hclean
  obtain ⟨p, hp, hle, hvalue⟩ := addAddress_clean hclean
  rw [hvalue]
  refine ⟨fun q => ?_, fun other hother => ?_, fun q hq => ?_⟩
  · rw [BTreeSet.mem_insert_iff, ih.mem_iff q]
    constructor
    · rintro (rfl | ⟨other, hother, hq⟩)
      · exact ⟨address, by simp, hp⟩
      · exact ⟨other, by simp [hother], hq⟩
    · rintro ⟨other, hother, hq⟩
      rcases List.mem_append.mp hother with hother | hother
      · exact Or.inr ⟨other, hother, hq⟩
      · rw [List.mem_singleton.mp hother, hp] at hq
        exact Or.inl (Option.some.inj hq).symm
  · rcases List.mem_append.mp hother with hother | hother
    · exact ih.parsed other hother
    · rw [List.mem_singleton.mp hother, hp]
      rfl
  · rcases (BTreeSet.mem_insert_iff _ _ _).mp hq with rfl | hq
    · exact hle
    · exact ih.lengths q hq

theorem sviOf_clean {i : Interface} {routed : RoutedVlan} {domain : Domain}
    (clean : (sviOf i routed domain).errors = []) :
    ∃ s, (sviOf i routed domain).value = some s ∧ s.vlan ∈ domain.vlans ∧
      AddressesAccepted routed.addressEntries s.addresses := by
  simp only [sviOf, errors_bind, List.append_eq_nil_iff] at clean
  obtain ⟨hvlan, haddr, -⟩ := clean
  obtain ⟨id, hok, hsome⟩ := attempt_clean hvlan
  simp only [sviOf, value_bind, value_pure, hsome, Option.map_some]
  exact ⟨_, rfl, routedVlanId_ok hok, addAddress_loop haddr⟩

theorem svi_ok {i : Interface} {switchPorts : BTreeSet String} {domain : Domain} {s : Svi}
    (h : svi i switchPorts domain = .ok s) : SviAccepted i switchPorts domain s := by
  unfold svi at h
  obtain ⟨clean, hval⟩ := require_eq_ok.mp h
  simp only [errors_bind, List.append_eq_nil_iff, errors_rejectIf] at clean
  obtain ⟨hname, hreserved, -, hrest⟩ := clean
  simp only [value_bind] at hval
  cases hr : i.routedVlan with
  | none => simp [hr] at hrest
  | some routed =>
    simp only [hr] at hrest hval
    obtain ⟨s', hs', hvlan, haddresses⟩ := sviOf_clean hrest
    rw [hs'] at hval
    cases hval
    rw [Bool.or_eq_false_iff, beq_eq_false_iff_ne, BTreeSet.contains_eq_false] at hreserved
    refine ⟨by simpa using hname, hreserved.1, hreserved.2, hvlan, haddresses.lengths, ?_⟩
    rw [Interface.addressEntries, hr]
    exact haddresses

/-- An SVI is never dropped without a message. -/
theorem svi_ne_error_nil (i : Interface) (switchPorts : BTreeSet String) (domain : Domain) :
    svi i switchPorts domain ≠ .error [] := by
  refine require_ne_error_nil fun clean => ?_
  simp only [errors_bind, List.append_eq_nil_iff] at clean
  obtain ⟨-, -, -, hrest⟩ := clean
  cases hr : i.routedVlan with
  | none => simp [hr] at hrest
  | some routed =>
    simp only [hr] at hrest
    obtain ⟨s, hs, -⟩ := sviOf_clean hrest
    simp [hs]

end Svis

section Domains

theorem vlanStatus_clean {id : UInt16} {status : Option String}
    (h : (vlanStatus id status).errors = []) :
    (vlanStatus id status).value = (status != some "SUSPENDED") := by
  unfold vlanStatus at h ⊢
  split
  · rfl
  · rfl
  · rfl
  · simp at h

theorem declareVlan_clean {vlans : BTreeMap UInt16 Vlan} {entry : VlanEntry}
    (h : (declareVlan vlans entry).errors = []) :
    ∃ id, entry.key = some id ∧ 1 ≤ id ∧ id ≤ 4094 ∧ (declareVlan vlans entry).value =
      vlans.insert id ⟨entry.config.name, entry.config.status != some "SUSPENDED"⟩ := by
  unfold declareVlan at h ⊢
  cases hk : entry.key with
  | none => simp [hk] at h
  | some id =>
    simp only [hk] at h ⊢
    cases hid : checkVlanId id.toUInt64 with
    | error e => simp [hid] at h
    | ok v =>
      obtain ⟨heq, hlow, hhigh⟩ := checkVlanId_ok hid
      obtain rfl := (toUInt64_inj v id).mp heq
      simp only [hid, errors_bind, List.append_eq_nil_iff] at h
      refine ⟨v, rfl, hlow, hhigh, ?_⟩
      simp only [value_bind, value_pure, vlanStatus_clean h.1]

/-- The VLANs are the entries of the database, the last of each id. -/
structure Declares (entries : List VlanEntry) (vlans : BTreeMap UInt16 Vlan) : Prop where
  lookup : ∀ (id : UInt16) (v : Vlan), vlans[id]? = some v → 1 ≤ id ∧ id ≤ 4094 ∧
    ∃ entry ∈ entries, entry.key = some id ∧
      v = ⟨entry.config.name, entry.config.status != some "SUSPENDED"⟩
  present : ∀ entry ∈ entries, ∃ id, entry.key = some id ∧ id ∈ vlans

theorem Declares.add {done : List VlanEntry} {entry : VlanEntry} {vlans : BTreeMap UInt16 Vlan}
    (h : Declares done vlans) (clean : (declareVlan vlans entry).errors = []) :
    Declares (done ++ [entry]) (declareVlan vlans entry).value := by
  obtain ⟨id, hkey, hlow, hhigh, hval⟩ := declareVlan_clean clean
  rw [hval]
  constructor
  · intro id' v hv
    rw [ExtTreeMap.getElem?_insert] at hv
    split at hv
    · next heq =>
      obtain rfl := Std.compare_eq_iff_eq.mp heq
      cases hv
      exact ⟨hlow, hhigh, entry, by simp, hkey, rfl⟩
    · obtain ⟨hl, hh, e, he, hk, rfl⟩ := h.lookup id' v hv
      exact ⟨hl, hh, e, List.mem_append_left _ he, hk, rfl⟩
  · intro e he
    rcases List.mem_append.mp he with he | he
    · obtain ⟨id', hk, hin⟩ := h.present e he
      exact ⟨id', hk, ExtTreeMap.mem_insert.mpr (Or.inr hin)⟩
    · rw [List.mem_singleton.mp he]
      exact ⟨id, hkey, ExtTreeMap.mem_insert_self⟩

structure Dot1qDomain (config : Config) (domain : Domain) : Prop where
  noGroups : config.groups = []
  mode : domain.mode = .dot1q
  declares : Declares config.vlanEntries domain.vlans

theorem dot1qVlans_clean {config : Config} (h : (dot1qVlans config).errors = []) :
    Dot1qDomain config (dot1qVlans config).value := by
  simp only [dot1qVlans, errors_bind, List.append_eq_nil_iff, errors_rejectIf] at h
  obtain ⟨hgroups, hloop, -⟩ := h
  refine ⟨by simpa using hgroups, rfl, ?_⟩
  exact foldlM_rule Declares (fun done entry rest vlans _ ih hclean => ih.add hclean)
    ⟨by simp, by simp⟩ hloop

/-- The ports listed in one group, on top of those of the groups before. -/
theorem groupPort_loop {interfaces : List Interface} {switchPorts : BTreeSet String} {id : UInt16}
    {before : BTreeMap String UInt16} {ports : List String}
    (clean : (ports.foldlM (groupPort interfaces switchPorts id) before).errors = []) :
    ∀ (port : String) (g : UInt16),
      (ports.foldlM (groupPort interfaces switchPorts id) before).value[port]? = some g ↔
        before[port]? = some g ∨ g = id ∧ port ∈ ports := by
  refine foldlM_rule (fun done (m : BTreeMap String UInt16) => ∀ (port : String) (g : UInt16),
    m[port]? = some g ↔ before[port]? = some g ∨ g = id ∧ port ∈ done) ?_ (by simp) clean
  intro done p rest m _ ih hclean port g
  unfold groupPort at hclean ⊢
  simp only at hclean ⊢
  split at hclean
  · simp at hclean
  · next hbad =>
    rw [if_neg hbad]
    have hnone : m[p]? = none := by
      cases hm : m[p]? with
      | none => rfl
      | some other => simp [insertUnique, hm] at hclean
    simp only [insertUnique, ExtTreeMap.getElem?_insert]
    split
    · next heq =>
      obtain rfl := Std.compare_eq_iff_eq.mp heq
      have hbefore : before[p]? ≠ some g := fun hb => by
        rw [(ih p g).mpr (Or.inl hb)] at hnone
        cases hnone
      simp [hbefore, eq_comm]
    · next hne =>
      have hpne : port ≠ p := fun heq => hne (by rw [heq, Std.compare_self])
      rw [ih port g]
      simp [hpne]

/-- Each port listed in a group is configured as a switch port. -/
theorem groupPort_known {interfaces : List Interface} {switchPorts : BTreeSet String} {id : UInt16}
    {before : BTreeMap String UInt16} {ports : List String}
    (clean : (ports.foldlM (groupPort interfaces switchPorts id) before).errors = []) :
    ∀ port ∈ ports, ∃ i ∈ interfaces, i.name = port ∧ i.isPort = true := by
  refine foldlM_rule (fun done (_ : BTreeMap String UInt16) => ∀ port ∈ done,
    ∃ i ∈ interfaces, i.name = port ∧ i.isPort = true) ?_ (by simp) clean
  intro done p rest m _ ih hclean port hport
  rcases List.mem_append.mp hport with hport | hport
  · exact ih port hport
  · rw [List.mem_singleton.mp hport]
    unfold groupPort at hclean
    simp only at hclean
    split at hclean
    · simp at hclean
    · next hgood =>
      rw [Bool.not_eq_true, Bool.or_eq_false_iff, Bool.not_eq_false', List.any_eq_true] at hgood
      obtain ⟨⟨i, hin, hi⟩, -⟩ := hgood
      rw [Bool.and_eq_true, beq_iff_eq] at hi
      exact ⟨i, hin, hi⟩

/-- The VLANs are the groups, and each port is in the one group that lists it. -/
structure Groups (groups : List Group) (domain : Domain) : Prop where
  mode : domain.mode = .portBased
  lookup : ∀ (id : UInt16) (v : Vlan), domain.vlans[id]? = some v → 1 ≤ id ∧ id ≤ 4094 ∧
    v.active = true ∧ ∃ group ∈ groups, group.key = some id
  present : ∀ group ∈ groups, ∃ id, group.key = some id ∧ id ∈ domain.vlans
  members : ∀ (port : String) (g : UInt16), domain.groupOfPort[port]? = some g ↔
    ∃ group ∈ groups, group.key = some g ∧ port ∈ group.config.port

theorem Groups.add {interfaces : List Interface} {switchPorts : BTreeSet String}
    {done : List Group} {domain : Domain} {group : Group} (h : Groups done domain)
    (clean : (declareGroup interfaces switchPorts domain group).errors = []) :
    Groups (done ++ [group]) (declareGroup interfaces switchPorts domain group).value := by
  unfold declareGroup at clean ⊢
  cases hkey : group.key with
  | none => simp [hkey] at clean
  | some id =>
    simp only [hkey] at clean ⊢
    cases hid : checkVlanId id.toUInt64 with
    | error e => simp [hid] at clean
    | ok v =>
      obtain ⟨heq, hlow, hhigh⟩ := checkVlanId_ok hid
      obtain rfl := (toUInt64_inj v id).mp heq
      simp only [hid, errors_bind, List.append_eq_nil_iff] at clean
      have hports := groupPort_loop clean.1
      simp only [value_bind, value_pure]
      refine ⟨h.mode, fun id' w hw => ?_, fun g hg => ?_, fun port g => ?_⟩
      · rw [ExtTreeMap.getElem?_insert] at hw
        split at hw
        · next heq =>
          obtain rfl := Std.compare_eq_iff_eq.mp heq
          cases hw
          exact ⟨hlow, hhigh, rfl, group, by simp, hkey⟩
        · obtain ⟨hl, hh, hact, g, hg, hk⟩ := h.lookup id' w hw
          exact ⟨hl, hh, hact, g, List.mem_append_left _ hg, hk⟩
      · rcases List.mem_append.mp hg with hg | hg
        · obtain ⟨id', hk, hin⟩ := h.present g hg
          exact ⟨id', hk, ExtTreeMap.mem_insert.mpr (Or.inr hin)⟩
        · rw [List.mem_singleton.mp hg]
          exact ⟨v, hkey, ExtTreeMap.mem_insert_self⟩
      · rw [hports port g, h.members port g]
        constructor
        · rintro (⟨g', hg', hk, hp⟩ | ⟨rfl, hp⟩)
          · exact ⟨g', List.mem_append_left _ hg', hk, hp⟩
          · exact ⟨group, by simp, hkey, hp⟩
        · rintro ⟨g', hg', hk, hp⟩
          rcases List.mem_append.mp hg' with hg' | hg'
          · exact Or.inl ⟨g', hg', hk, hp⟩
          · rw [List.mem_singleton.mp hg', hkey] at hk
            cases hk
            exact Or.inr ⟨rfl, List.mem_singleton.mp hg' ▸ hp⟩

theorem declareGroup_known {interfaces : List Interface} {switchPorts : BTreeSet String}
    {domain : Domain} {group : Group}
    (clean : (declareGroup interfaces switchPorts domain group).errors = []) :
    ∀ port ∈ group.config.port, ∃ i ∈ interfaces, i.name = port ∧ i.isPort = true := by
  unfold declareGroup at clean
  cases hkey : group.key with
  | none => simp [hkey] at clean
  | some id =>
    simp only [hkey] at clean
    cases hid : checkVlanId id.toUInt64 with
    | error e => simp [hid] at clean
    | ok v =>
      simp only [hid, errors_bind, List.append_eq_nil_iff] at clean
      exact groupPort_known clean.1

structure PortBasedDomain (config : Config) (domain : Domain) : Prop where
  noVlans : config.vlanEntries = []
  groups : Groups config.groups domain
  known : ∀ group ∈ config.groups, ∀ port ∈ group.config.port,
    ∃ i ∈ config.interfaceList, i.name = port ∧ i.isPort = true

theorem portGroups_clean {config : Config} {switchPorts : BTreeSet String}
    (h : (portGroups config config.interfaceList switchPorts).errors = []) :
    PortBasedDomain config (portGroups config config.interfaceList switchPorts).value := by
  simp only [portGroups, errors_bind, List.append_eq_nil_iff, errors_rejectIf] at h
  obtain ⟨hvlans, hloop⟩ := h
  refine ⟨by simpa using hvlans, ?_, ?_⟩
  · exact foldlM_rule Groups (fun done group rest domain _ ih hclean => ih.add hclean)
      ⟨rfl, by simp, by simp, by simp⟩ hloop
  · refine foldlM_rule (fun done (_ : Domain) => ∀ group ∈ done, ∀ port ∈ group.config.port,
      ∃ i ∈ config.interfaceList, i.name = port ∧ i.isPort = true) ?_ (by simp) hloop
    intro done group rest domain _ ih hclean other hother
    rcases List.mem_append.mp hother with hother | hother
    · exact ih other hother
    · rw [List.mem_singleton.mp hother]
      exact declareGroup_known hclean

end Domains

section State

/-- Whether the interface is configured as a routed VLAN interface. -/
def Interface.isSvi (i : Interface) : Bool := i.config.ifType.map unprefixed == some "l3ipvlan"

/-- The ports and SVIs are the interfaces, the last of each name and type. -/
structure Translates (switchPorts : BTreeSet String) (domain : Domain)
    (interfaces : List Interface) (state : DesiredState) : Prop where
  ports : ∀ (name : String) (p : Port), state.ports[name]? = some p →
    ∃ i ∈ interfaces, i.name = name ∧ i.isPort = true ∧ PortAccepted i switchPorts domain p
  svis : ∀ (name : String) (s : Svi), state.svis[name]? = some s →
    ∃ i ∈ interfaces, i.name = name ∧ i.isSvi = true ∧ SviAccepted i switchPorts domain s
  each : ∀ i ∈ interfaces, i.isPort = true ∧ i.name ∈ state.ports ∨
    i.isSvi = true ∧ i.name ∈ state.svis
  mode : state.mode = domain.mode

variable {switchPorts : BTreeSet String} {domain : Domain} {interfaces : List Interface}
  {state : DesiredState} {i : Interface}

variable (h : Translates switchPorts domain interfaces state)
include h

theorem Translates.addPort {p : Port}
    (hport : i.isPort = true) (hp : port i switchPorts domain = .ok p) :
    Translates switchPorts domain (interfaces ++ [i])
      { state with ports := state.ports.insert i.name p } := by
  refine ⟨fun name q hq => ?_, fun name s hs => ?_, fun j hj => ?_, h.mode⟩
  · rw [ExtTreeMap.getElem?_insert] at hq
    split at hq
    · next heq =>
      obtain rfl := Std.compare_eq_iff_eq.mp heq
      cases hq
      exact ⟨i, by simp, rfl, hport, port_ok hp⟩
    · obtain ⟨j, hj, hrest⟩ := h.ports name q hq
      exact ⟨j, List.mem_append_left _ hj, hrest⟩
  · obtain ⟨j, hj, hrest⟩ := h.svis name s hs
    exact ⟨j, List.mem_append_left _ hj, hrest⟩
  · rcases List.mem_append.mp hj with hj | hj
    · exact (h.each j hj).imp_left fun ⟨hk, hin⟩ => ⟨hk, ExtTreeMap.mem_insert.mpr (Or.inr hin)⟩
    · rw [List.mem_singleton.mp hj]
      exact Or.inl ⟨hport, ExtTreeMap.mem_insert_self⟩

theorem Translates.addSvi {s : Svi}
    (hsvi : i.isSvi = true) (hs : svi i switchPorts domain = .ok s) :
    Translates switchPorts domain (interfaces ++ [i])
      { state with svis := state.svis.insert i.name s } := by
  refine ⟨fun name q hq => ?_, fun name r hr => ?_, fun j hj => ?_, h.mode⟩
  · obtain ⟨j, hj, hrest⟩ := h.ports name q hq
    exact ⟨j, List.mem_append_left _ hj, hrest⟩
  · rw [ExtTreeMap.getElem?_insert] at hr
    split at hr
    · next heq =>
      obtain rfl := Std.compare_eq_iff_eq.mp heq
      cases hr
      exact ⟨i, by simp, rfl, hsvi, svi_ok hs⟩
    · obtain ⟨j, hj, hrest⟩ := h.svis name r hr
      exact ⟨j, List.mem_append_left _ hj, hrest⟩
  · rcases List.mem_append.mp hj with hj | hj
    · exact (h.each j hj).imp_right fun ⟨hk, hin⟩ => ⟨hk, ExtTreeMap.mem_insert.mpr (Or.inr hin)⟩
    · rw [List.mem_singleton.mp hj]
      exact Or.inr ⟨hsvi, ExtTreeMap.mem_insert_self⟩

theorem Translates.add (clean : (addInterface switchPorts domain state i).errors = []) :
    Translates switchPorts domain (interfaces ++ [i])
      (addInterface switchPorts domain state i).value := by
  unfold addInterface at clean ⊢
  split
  · next htype =>
    simp only [htype] at clean
    cases hp : port i switchPorts domain with
    | ok p => exact h.addPort (by simp [Interface.isPort, htype]) hp
    | error messages =>
      have hnil : messages = [] := by simpa [hp] using clean
      exact absurd (hnil ▸ hp) (port_ne_error_nil i switchPorts domain)
  · next htype =>
    simp only [htype] at clean
    cases hs : svi i switchPorts domain with
    | ok s => exact h.addSvi (by simp [Interface.isSvi, htype]) hs
    | error messages =>
      have hnil : messages = [] := by simpa [hs] using clean
      exact absurd (hnil ▸ hs) (svi_ne_error_nil i switchPorts domain)
  · next hport hsvi htype => simp [htype] at clean
  · next htype => simp [htype] at clean

omit h

theorem Translates.loop {mode : VlanMode} (hmode : mode = domain.mode)
    (clean : (interfaces.foldlM (addInterface switchPorts domain) { mode }).errors = []) :
    Translates switchPorts domain interfaces
      (interfaces.foldlM (addInterface switchPorts domain) { mode }).value :=
  foldlM_rule (Translates switchPorts domain) (fun _ _ _ _ _ ih hclean => ih.add hclean)
    ⟨by simp, by simp, by simp, hmode⟩ clean

theorem checkUniqueVlans_clean {svis : BTreeMap String Svi}
    (clean : (checkUniqueVlans svis).errors = []) (a b : String) (s r : Svi)
    (hs : svis[a]? = some s) (hr : svis[b]? = some r) (heq : s.vlan = r.vlan) : a = b := by
  refine insertUnique_loop (fun e : String × Svi => e.2.vlan) (fun e => e.1)
    (fun e v h => by cases h) clean (a, s) ?_ (b, r) ?_ heq
  · exact ExtTreeMap.mem_toList_iff_getElem?_eq_some.mpr hs
  · exact ExtTreeMap.mem_toList_iff_getElem?_eq_some.mpr hr

theorem checkUniqueAddresses_clean {svis : BTreeMap String Svi}
    (clean : (checkUniqueAddresses svis).errors = []) (a b : String) (s r : Svi)
    (hs : svis[a]? = some s) (hr : svis[b]? = some r) (p q : Ipv4Prefix) (hp : p ∈ s.addresses)
    (hq : q ∈ r.addresses) (heq : p.addr = q.addr) : a = b := by
  have hmem : ∀ (name : String) (s : Svi) (p : Ipv4Prefix), svis[name]? = some s →
      p ∈ s.addresses → (name, p.addr) ∈ sviAddresses svis := by
    intro name s p hs hp
    refine List.mem_flatMap.mpr ⟨(name, s), ExtTreeMap.mem_toList_iff_getElem?_eq_some.mpr hs, ?_⟩
    exact List.mem_map.mpr ⟨p, ExtTreeSet.mem_toList.mpr hp, rfl⟩
  refine insertUnique_loop (fun e : String × Ipv4Addr => e.2) (fun e => e.1)
    (fun e v h => ?_) clean (a, p.addr) (hmem a s p hs hp) (b, q.addr) (hmem b r q hr hq) heq
  by_contra hne
  simp [hne] at h

theorem checkSingleDhcpClient_clean {svis : BTreeMap String Svi}
    (clean : (checkSingleDhcpClient svis).errors = []) (a b : String) (s r : Svi)
    (hs : svis[a]? = some s) (hr : svis[b]? = some r) (hcs : s.dhcpClient = true)
    (hcr : r.dhcpClient = true) : a = b := by
  have hmem : ∀ (name : String) (s : Svi), svis[name]? = some s → s.dhcpClient = true →
      name ∈ dhcpNames svis := by
    intro name s hs hc
    exact List.mem_map.mpr ⟨(name, s), List.mem_filter.mpr
      ⟨ExtTreeMap.mem_toList_iff_getElem?_eq_some.mpr hs, hc⟩, rfl⟩
  have ha := hmem a s hs hcs
  have hb := hmem b r hr hcr
  unfold checkSingleDhcpClient at clean
  split at clean
  · next hnil =>
    rw [hnil] at ha
    cases ha
  · next first names hcons =>
    have hnone : names = [] := by simpa using clean
    rw [hcons, hnone, List.mem_singleton] at ha hb
    rw [ha, hb]

/-- The VLANs come from the part of the configuration that the mode selects. -/
def DomainAccepted (config : Config) (domain : Domain) : Prop :=
  Dot1qDomain config domain ∨ PortBasedDomain config domain

theorem vlanDomain_clean {config : Config} {mode : VlanMode}
    (clean : (vlanDomain config switchPorts mode).errors = []) :
    mode = (vlanDomain config switchPorts mode).value.mode ∧
      DomainAccepted config (vlanDomain config switchPorts mode).value := by
  cases mode with
  | dot1q =>
    have h := dot1qVlans_clean clean
    exact ⟨h.mode.symm, Or.inl h⟩
  | portBased =>
    have h := portGroups_clean clean
    exact ⟨h.groups.mode.symm, Or.inr h⟩

/-- What holds of an accepted configuration and its desired state, except for spanning
tree, SNMP and the system leaves. -/
structure StateAccepted (config : Config) (switchPorts : BTreeSet String)
    (state : DesiredState) (domain : Domain) : Prop where
  mode : (vlanMode config).errors = [] ∧ domain.mode = (vlanMode config).value
  source : DomainAccepted config domain
  vlans : state.vlans = domain.vlans
  translates : Translates switchPorts domain config.interfaceList state
  uniqueVlans : ∀ (a b : String) (s r : Svi), state.svis[a]? = some s → state.svis[b]? = some r →
    s.vlan = r.vlan → a = b
  uniqueAddresses : ∀ (a b : String) (s r : Svi), state.svis[a]? = some s →
    state.svis[b]? = some r → ∀ p q : Ipv4Prefix, p ∈ s.addresses → q ∈ r.addresses →
    p.addr = q.addr → a = b
  singleDhcp : ∀ (a b : String) (s r : Svi), state.svis[a]? = some s → state.svis[b]? = some r →
    s.dhcpClient = true → r.dhcpClient = true → a = b

theorem desiredState_ok {config : Config} (h : desiredState config switchPorts = .ok state) :
    ∃ domain, StateAccepted config switchPorts state domain := by
  unfold desiredState at h
  obtain ⟨clean, rfl⟩ := toExcept_eq_ok.mp h
  simp only [errors_bind, List.append_eq_nil_iff] at clean
  obtain ⟨hmode, hdomain, hinterfaces, -, -, -, hvlans, haddresses, hdhcp, -⟩ := clean
  obtain ⟨hsame, hdomain'⟩ := vlanDomain_clean hdomain
  have hloop := Translates.loop hsame hinterfaces
  exact ⟨_, ⟨hmode, hsame.symm⟩, hdomain', rfl, ⟨hloop.ports, hloop.svis, hloop.each, hloop.mode⟩,
    checkUniqueVlans_clean hvlans, checkUniqueAddresses_clean haddresses,
    checkSingleDhcpClient_clean hdhcp⟩

/-- The switch ports as `desired_stp` is given them. -/
def DesiredState.portNames (state : DesiredState) : BTreeSet String :=
  ExtTreeSet.ofList state.ports.keys compare

theorem DesiredState.mem_portNames (state : DesiredState) (name : String) :
    name ∈ state.portNames ↔ name ∈ state.ports := by
  simp [DesiredState.portNames]

/-- The sections beside the interfaces report nothing either, and are kept as they are. -/
theorem desiredState_sections {config : Config}
    (h : desiredState config switchPorts = .ok state) :
    ((desiredStp config.stp state.portNames).errors = [] ∧
      state.stp = (desiredStp config.stp state.portNames).value) ∧
    ((desiredSnmp config.snmp).errors = [] ∧ state.snmp = (desiredSnmp config.snmp).value) ∧
    (systemConfig config.system).errors = [] ∧
      state.system = (systemConfig config.system).value := by
  unfold desiredState at h
  obtain ⟨clean, rfl⟩ := toExcept_eq_ok.mp h
  simp only [errors_bind, List.append_eq_nil_iff] at clean
  obtain ⟨-, -, -, hstp, hsnmp, hsystem, -⟩ := clean
  exact ⟨⟨hstp, rfl⟩, ⟨hsnmp, rfl⟩, hsystem, rfl⟩

section Carried
variable {config : Config}

theorem IsAccess.active {c : SwitchedVlanConfig} {v : PortVlans} (h : IsAccess c domain v)
    {vid : UInt16} (hv : v.1 = some vid ∨ vid ∈ v.2) : domain.active vid = true := by
  obtain ⟨a, -, -, hnative⟩ := h.vlan
  rcases hv with hv | hv
  · rw [hnative] at hv
    split at hv
    · next hactive =>
      cases hv
      exact hactive
    · cases hv
  · simp [h.tagged] at hv

theorem IsTrunk.active {c : SwitchedVlanConfig} {v : PortVlans} (h : IsTrunk c domain v)
    {vid : UInt16} (hv : v.1 = some vid ∨ vid ∈ v.2) : domain.active vid = true := by
  rcases hv with hv | hv
  · rw [h.native, Option.filter_eq_some_iff] at hv
    exact hv.2
  · exact ((h.tagged vid).mp hv).2.2

theorem Groups.active {groups : List Group} (h : Groups groups domain) {name : String}
    {g : UInt16} (hg : domain.groupOfPort[name]? = some g) : domain.active g = true := by
  obtain ⟨group, hmem, hkey, -⟩ := (h.members name g).mp hg
  obtain ⟨id, hid, hin⟩ := h.present group hmem
  rw [hkey] at hid
  cases hid
  obtain ⟨v, hv⟩ := (BTreeMap.mem_iff _ _).mp hin
  obtain ⟨-, -, hactive, -⟩ := h.lookup g v hv
  simp [Domain.active, hv, hactive]

/-- What an accepted port carries is declared and active. -/
theorem CarriesAsConfigured.active {v : PortVlans} (h : CarriesAsConfigured i domain v)
    (source : DomainAccepted config domain) {vid : UInt16} (hv : v.1 = some vid ∨ vid ∈ v.2) :
    domain.active vid = true := by
  rcases source with source | source
  · obtain ⟨c, -, haccess | htrunk⟩ := h.dot1q source.mode
    · exact haccess.active hv
    · exact htrunk.active hv
  · obtain ⟨hempty, g, hg, hnative⟩ := h.portBased source.groups.mode
    rcases hv with hv | hv
    · rw [hnative] at hv
      cases hv
      exact source.groups.active hg
    · simp [hempty] at hv

/-- The native VLAN is not tagged too. -/
theorem CarriesAsConfigured.native_not_tagged {v : PortVlans} (h : CarriesAsConfigured i domain v)
    (source : DomainAccepted config domain) {vid : UInt16} (hv : v.1 = some vid) : vid ∉ v.2 := by
  intro hin
  rcases source with source | source
  · obtain ⟨c, -, haccess | htrunk⟩ := h.dot1q source.mode
    · simp [haccess.tagged] at hin
    · rw [htrunk.native, Option.filter_eq_some_iff] at hv
      exact ((htrunk.tagged vid).mp hin).2.1 hv.1
  · obtain ⟨hempty, -⟩ := h.portBased source.groups.mode
    simp [hempty] at hin

theorem DomainAccepted.ids (h : DomainAccepted config domain) {vid : UInt16}
    (hin : vid ∈ domain.vlans) : 1 ≤ vid ∧ vid ≤ 4094 := by
  obtain ⟨v, hv⟩ := (BTreeMap.mem_iff _ _).mp hin
  rcases h with h | h
  · obtain ⟨hlow, hhigh, -⟩ := h.declares.lookup vid v hv
    exact ⟨hlow, hhigh⟩
  · obtain ⟨hlow, hhigh, -⟩ := h.groups.lookup vid v hv
    exact ⟨hlow, hhigh⟩

theorem Domain.exists_of_active {vid : UInt16} (h : domain.active vid = true) :
    ∃ v, domain.vlans[vid]? = some v ∧ v.active = true := by
  simpa [Domain.active, Option.any_eq_true] using h

end Carried

end State

end ClixonSwitch.Source.SwitchModel
