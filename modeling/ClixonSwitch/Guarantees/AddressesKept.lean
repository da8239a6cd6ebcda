import ClixonSwitch.Guarantees.Isolation
import ClixonSwitch.Lib.Throughout

/-!
# The addresses of an SVI that stays do not flap

The planner adds what is missing before it deletes anything, except for a leased address
that becomes permanent. On a bridge that stays, the VLAN link of an SVI sees only its own
operations, so that it is enough to look at every initial part of these.
-/
namespace ClixonSwitch.Guarantees
open Std Lib Source.SwitchModel Source.SwitchNet

section Own
variable {name : String} {svi : Svi} {d d' : Device} {ops pre : List Op} {p : Ipv4Prefix}

/-- Only the deletion of an address takes it away. -/
theorem runLocal_keeps_address (hops : ∀ dev, .delAddress dev p ∉ ops) (hp : p ∈ d.addresses)
    (run : runLocal act ops d = some d') : p ∈ d'.addresses := by
  refine runLocal_invariant (fun e => p ∈ e.addresses) (fun op hop e e' he hact => ?_) hp run
  rcases act_addresses hact with ⟨ha, -⟩ | ⟨q, ha, -⟩ | ⟨dev, q, rfl, ha, -⟩
  · rwa [ha]
  · rw [ha]
    exact (BTreeSet.mem_insert_iff _ _ _).mpr (Or.inr he)
  · have hne : p ≠ q := by
      rintro rfl
      exact hops dev hop
    rw [ha]
    exact (BTreeSet.mem_erase_iff _ _ _).mpr ⟨hne, he⟩

theorem runLocal_keeps_lease (hops : ∀ dev, .delAddress dev p ∉ ops) {lifetime : UInt32}
    (hp : d.leases[p]? = some lifetime) (run : runLocal act ops d = some d') :
    d'.leases[p]? = some lifetime := by
  refine runLocal_invariant (fun e => e.leases[p]? = some lifetime) (fun op hop e e' he hact => ?_)
    hp run
  rcases act_addresses hact with ⟨-, hl⟩ | ⟨q, -, hl, -⟩ | ⟨dev, q, rfl, -, hl⟩
  · rwa [hl]
  · rwa [hl]
  · have hne : q ≠ p := by
      rintro rfl
      exact hops dev hop
    rwa [hl, ExtTreeMap.getElem?_erase, if_neg (by simpa using hne)]

theorem delAddress_mem_addMissing {dev : String}
    (h : .delAddress dev p ∈ addMissing name svi d.addresses d.leases) :
    p ∈ svi.addresses ∧ p ∉ d.addresses := by
  obtain ⟨q, hq, hop⟩ := List.mem_flatMap.mp h
  rcases List.mem_append.mp hop with hop | hop
  · cases List.mem_singleton.mp (List.mem_ite_nil_right.mp hop).2
    exact (mem_missingAddresses _ _ _).mp hq
  · cases List.mem_singleton.mp hop

/-- What follows the additions: deletions and the administrative state. -/
def afterAdding (name : String) (svi : Svi) (d : Device) : List Op :=
  (unwantedAddresses svi d.addresses d.leases).map (.delAddress name) ++
    if (d.link.any Link.up) != svi.enabled then [.setUp name svi.enabled] else []

/-- All operations on the VLAN link of an SVI that stays. -/
def keptOps (name : String) (svi : Svi) (d : Device) : List Op :=
  addMissing name svi d.addresses d.leases ++ afterAdding name svi d

theorem delAddress_mem_afterAdding {dev : String} (h : .delAddress dev p ∈ afterAdding name svi d) :
    p ∉ svi.addresses ∧ (p ∈ d.addresses ∨ svi.dhcpClient = false ∧ p ∈ d.leases) := by
  rcases List.mem_append.mp h with h | h
  · obtain ⟨q, hq, heq⟩ := List.mem_map.mp h
    cases heq
    exact (mem_unwantedAddresses _ _ _ _).mp hq
  · cases List.mem_singleton.mp (List.mem_ite_nil_right.mp h).2

/-- An address that is present and configured. -/
theorem keptOps_keep_address (hpre : pre <+: keptOps name svi d) (hp : p ∈ d.addresses)
    (configured : p ∈ svi.addresses) (run : runLocal act pre d = some d') : p ∈ d'.addresses := by
  refine runLocal_keeps_address (fun dev hdel => ?_) hp run
  rcases List.mem_append.mp (hpre.subset hdel) with h | h
  · exact (delAddress_mem_addMissing h).2 hp
  · exact (delAddress_mem_afterAdding h).1 configured

/-- A leased address that is not configured, while the client runs. -/
theorem keptOps_keep_lease (hpre : pre <+: keptOps name svi d) (disjoint : d.Disjoint)
    (client : svi.dhcpClient = true) {lifetime : UInt32} (hp : d.leases[p]? = some lifetime)
    (unconfigured : p ∉ svi.addresses) (run : runLocal act pre d = some d') :
    d'.leases[p]? = some lifetime := by
  refine runLocal_keeps_lease (fun dev hdel => ?_) hp run
  rcases List.mem_append.mp (hpre.subset hdel) with h | h
  · exact unconfigured (delAddress_mem_addMissing h).1
  · rcases (delAddress_mem_afterAdding h).2 with hin | ⟨hno, -⟩
    · exact disjoint p hin ((BTreeMap.mem_iff _ _).mpr ⟨lifetime, hp⟩)
    · rw [client] at hno
      cases hno

/-- While addresses are added all old ones are there, and then all configured ones. -/
theorem keptOps_keep_some (hpre : pre <+: keptOps name svi d) (exist : d.link.isSome = true)
    {old new : Ipv4Prefix} (hold : old ∈ d.addresses) (hnew : new ∈ svi.addresses)
    (run : runLocal act pre d = some d') : ∃ p, p ∈ d'.addresses := by
  rcases List.prefix_or_prefix_of_prefix hpre (List.prefix_append _ _) with hadd | ⟨rest, rfl⟩
  · refine ⟨old, runLocal_keeps_address (fun dev hdel => ?_) hold run⟩
    exact (delAddress_mem_addMissing (hadd.subset hdel)).2 hold
  · obtain ⟨addresses, leases, hadded, haddresses, -⟩ := runLocal_addMissing name svi d exist
    rw [runLocal_append, hadded, Option.bind_some] at run
    have hrest : rest <+: afterAdding name svi d := (List.prefix_append_right_inj _).mp hpre
    have hthere : new ∈ addresses := (haddresses new).mpr (Or.inr hnew)
    refine ⟨new, runLocal_keeps_address (fun dev hdel => ?_) hthere run⟩
    exact (delAddress_mem_afterAdding (hrest.subset hdel)).1 hnew

/-- None of these operations is refused. -/
theorem keptOps_run (exist : d.link.isSome = true) (disjoint : d.Disjoint) :
    ∃ d', runLocal act (keptOps name svi d) d = some d' := by
  obtain ⟨addresses, leases, hsync, -⟩ := runLocal_syncAddresses name svi d exist disjoint
  rw [keptOps, afterAdding, ← List.append_assoc, ← syncAddresses_eq, runLocal_append, hsync,
    Option.bind_some]
  obtain ⟨l, hl⟩ := Option.isSome_iff_exists.mp exist
  split
  · simp [act, hl]
  · exact ⟨_, rfl⟩

/-- They are operations on one device in every state, and none changes its master. -/
theorem keptOps_plain {op : Op} (h : op ∈ keptOps name svi d) :
    op.isPlain = true ∧ ∀ dev m, op ≠ .setMaster dev m := by
  rcases List.mem_append.mp h with h | h
  · obtain ⟨q, -, hop⟩ := List.mem_flatMap.mp h
    rcases List.mem_append.mp hop with hop | hop
    · rw [List.mem_singleton.mp (List.mem_ite_nil_right.mp hop).2]
      exact ⟨rfl, nofun⟩
    · rw [List.mem_singleton.mp hop]
      exact ⟨rfl, nofun⟩
  · rcases List.mem_append.mp h with h | h
    · obtain ⟨q, -, rfl⟩ := List.mem_map.mp h
      exact ⟨rfl, nofun⟩
    · rw [List.mem_singleton.mp (List.mem_ite_nil_right.mp h).2]
      exact ⟨rfl, nofun⟩

end Own

section Run
variable {desired : DesiredState} {s u : ActualState} {ops own : List Op} {op : Op}
  {name : String} {svi : Svi} {up : Bool} {master : Option String}

theorem targeting_plan_kept (ready : BridgeConfigured s) (planned : plan desired s = .ok ops)
    (wanted : desired.svis[name]? = some svi)
    (link : s.links[name]? = some ⟨.vlan bridgeName svi.vlan, up, master⟩) :
    targeting Op.target name ops = keptOps name svi (device s name) := by
  have hstale : staleOps desired s name = [] := by
    refine if_neg fun hmem => ?_
    obtain ⟨id, up', master', hl, hno⟩ := (mem_staleNames desired s name).mp hmem
    rw [link] at hl
    cases hl
    exact hno ⟨svi, wanted, rfl⟩
  have hexisting : (existingSvis desired s false).contains name = true :=
    ExtTreeSet.mem_iff_contains.mp
      ((mem_existingSvis _ _ name).mpr ⟨svi, up, master, wanted, link⟩)
  rw [targeting_plan ready planned (ready.ne_bridge link rfl), hstale]
  simp [portOps, link, planPort, LinkKind.isDsa, sviOps, wanted, ready.planBridge, hexisting,
    planSvi, leftoverOps, ownsAddresses, keptOps, afterAdding, ← List.append_assoc,
    ← syncAddresses_eq, device]

/-- What the VLAN link of an SVI has seen after its own operations `own`, while the
bridges of `s` are still there. -/
structure OwnRun (s u : ActualState) (name : String) (own : List Op) : Prop where
  bridges : ∀ g, (device s g).isBridge = true → (device u g).isBridge = true
  sort : (device u name).parent = some bridgeName
  master : (device u name).master = (device s name).master
  own : runLocal act own (device s name) = some (device u name)

theorem isBridge_step (hop : op.spreads = false) {g : String} (h : (device u g).isBridge = true) :
    (device (fakeApply op u).2 g).isBridge = true := by
  have hno : ∀ x, op ≠ .deleteLink x := by
    rintro x rfl
    cases hop
  simp only [Device.isBridge, device_link, Option.any_eq_true] at h ⊢
  obtain ⟨l, hl, hbridge⟩ := h
  exact bridge_stays hno hl hbridge

theorem not_parent_of_isBridge {d : Device} (h : d.isBridge = true) (p : String) :
    d.parent ≠ some p := by
  obtain ⟨link, vlans, addresses, leases⟩ := d
  rcases link with - | ⟨kind, up, master⟩
  · cases h
  · cases kind with
    | bridge b => nofun
    | _ => cases h

theorem OwnRun.elsewhere (wf : WellFormed s) (ready : BridgeConfigured s)
    (planned : plan desired s = .ok ops) (hop : op ∈ ops) (hne : op.target ≠ name)
    (run : OwnRun s u name own) : OwnRun s (fakeApply op u).2 name own := by
  rcases plan_spreads ready planned hop with hquiet | ⟨x, rfl, hx⟩
  · have hsame : device (fakeApply op u).2 name = device u name :=
      fakeApply_elsewhere hquiet (Ne.symm hne)
    refine ⟨fun g hg => isBridge_step hquiet (run.bridges g hg), ?_, ?_, ?_⟩
    · rw [hsame, run.sort]
    · rw [hsame, run.master]
    · rw [hsame, run.own]
  · -- The deletion of a stale VLAN link reaches neither a bridge nor what is on one.
    let G (g : String) : Prop := g = name ∨ (device s g).isBridge = true
    have hbridge : G bridgeName := by
      obtain ⟨b, bup, bmaster, hb, -⟩ := ready
      exact Or.inr (by simp [Device.isBridge, device_link, hb, LinkKind.isBridge])
    have hrooted : Rooted G u := by
      rintro g p (rfl | hg) hparent
      · rw [run.sort] at hparent
        exact Option.some.inj hparent ▸ hbridge
      · exact absurd hparent (not_parent_of_isBridge (run.bridges g hg) p)
    have hstale : ¬ G x := by
      obtain ⟨id, xup, xmaster, hl, -⟩ := (mem_staleNames desired s x).mp hx
      rintro (rfl | hg)
      · exact hne rfl
      · simp [Device.isBridge, device_link, hl, LinkKind.isBridge] at hg
    have hspared := deleteLink_spared hrooted hstale
    have hmaster : ∀ m, (device u name).master = some m → G m := by
      intro m hm
      rw [run.master] at hm
      exact Or.inr (wf.masters name m hm)
    have hsame := hspared.device name (Or.inl rfl) hmaster
    refine ⟨fun g hg => ?_, ?_, ?_, ?_⟩
    · have hkind := hspared.kind g (Or.inr hg)
      have hu := run.bridges g hg
      have hany : ∀ d : Device, d.isBridge = (d.link.map Link.kind).any LinkKind.isBridge := by
        intro d
        simp [Device.isBridge, Option.any_map]
      rwa [hany, hkind, ← hany]
    · rw [hsame, run.sort]
    · rw [hsame, run.master]
    · rw [hsame, run.own]

theorem OwnRun.step (run : OwnRun s u name own) (hop : op.target = name) (plain : op.isPlain = true)
    (free : ∀ dev m, op ≠ .setMaster dev m)
    (accepted : ∃ d, runLocal act (own ++ [op]) (device s name) = some d) :
    OwnRun s (fakeApply op u).2 name (own ++ [op]) := by
  obtain ⟨d, hd⟩ := accepted
  have hact : act op (device u op.target) = some d := by
    rw [runLocal_append, run.own, Option.bind_some, runLocal_cons] at hd
    rw [hop]
    cases hact : act op (device u name) with
    | none => simp [hact] at hd
    | some d₁ => simpa [hact] using hd
  have heffect := localEffect_of_isPlain plain u
  rw [LocalEffect, hact] at heffect
  obtain ⟨t, happly, hview⟩ := heffect
  have hsame : device (fakeApply op u).2 name = d := by
    rw [happly, hview, if_pos hop.symm]
  have hspreads : op.spreads = false := by
    cases op with
    | configureBridge x => cases plain
    | deleteLink x => cases plain
    | _ => rfl
  rw [hop] at hact
  have hlink : d.parent = (device u name).parent ∧ d.master = (device u name).master := by
    have hparent := run.sort
    cases act_linkEffect hact with
    | same link => simp only [Device.parent, Device.master, link, and_self]
    | changed l l' before after sort master =>
      obtain ⟨kind, lup, lmaster⟩ := l
      obtain ⟨kind', lup', lmaster'⟩ := l'
      rcases sort with hkind | ⟨b, b', hb, hb'⟩
      · simp only at hkind master
        subst hkind master
        simp only [Device.parent, Device.master, before, after, Option.bind_some, and_true]
        cases kind' <;> rfl
      · simp only at hb
        simp [Device.parent, before, hb] at hparent
    | enslaved l dev m h => exact absurd h (free dev m)
    | created kind before => simp [Device.parent, before] at hparent
  refine ⟨fun g hg => isBridge_step hspreads (run.bridges g hg), ?_, ?_, ?_⟩
  · rw [hsame, hlink.1, run.sort]
  · rw [hsame, hlink.2, run.master]
  · rw [hsame, hd]

/-- After every initial part of the plan the VLAN link of the SVI is as its own operations
of that part leave it. -/
theorem plan_ownRun (wf : WellFormed s) (ready : BridgeConfigured s)
    (planned : plan desired s = .ok ops) (wanted : desired.svis[name]? = some svi)
    (link : s.links[name]? = some ⟨.vlan bridgeName svi.vlan, up, master⟩) {pre : List Op}
    (hpre : pre <+: ops) :
    OwnRun s (applyEach fakeApply pre s) name (targeting Op.target name pre) := by
  have htargeting := targeting_plan_kept ready planned wanted link
  have hexist : (device s name).link.isSome = true := by
    rw [device_link, link]
    rfl
  obtain ⟨last, hlast⟩ : ∃ d, runLocal act (keptOps name svi (device s name)) (device s name) =
    some d := keptOps_run hexist (wf.fit name).disjoint
  refine applyEach_invariant (fun pre u => OwnRun s u name (targeting Op.target name pre))
    ⟨fun _ hg => hg, ?_, rfl, rfl⟩ (fun pre op hpre u run => ?_) pre hpre
  · simp [Device.parent, device_link, link]
  · have hown : targeting Op.target name (pre ++ [op]) <+: keptOps name svi (device s name) :=
      htargeting ▸ hpre.filter _
    by_cases htarget : op.target = name
    · have hself : targeting Op.target name [op] = [op] := targeting_eq_self (by simpa using htarget)
      rw [targeting_append, hself] at hown ⊢
      obtain ⟨hplain, hfree⟩ := keptOps_plain (hown.subset (List.mem_append_right _
        List.mem_cons_self))
      exact run.step htarget hplain hfree (runLocal_initial hown hlast)
    · have hother : targeting Op.target name [op] = [] := targeting_eq_nil (by simpa using htarget)
      rw [targeting_append, hother, List.append_nil]
      exact run.elsewhere wf ready planned (hpre.subset (by simp)) htarget

end Run

/-- Operation by operation, an SVI whose VLAN link stays keeps every address that stays
configured, has an address if it had one and one is configured, and keeps the leases of a
running client, also if an operation on another interface is refused. -/
theorem plan_keeps_addresses (desired : DesiredState) (s : ActualState) (ops : List Op)
    (wf : WellFormed s) (ready : BridgeConfigured s) (planned : plan desired s = .ok ops)
    (name : String) (svi : Svi) (wanted : desired.svis[name]? = some svi) (up : Bool)
    (master : Option String)
    (link : s.links[name]? = some ⟨.vlan bridgeName svi.vlan, up, master⟩) :
    ∀ pre, pre <+: ops →
      (∀ p, hasAddress s name p → p ∈ svi.addresses →
        hasAddress (applyEach fakeApply pre s) name p) ∧
      ((∃ p, hasAddress s name p) → (∃ p, p ∈ svi.addresses) →
        ∃ p, hasAddress (applyEach fakeApply pre s) name p) ∧
      (svi.dhcpClient = true → ∀ p lifetime,
        (s.dhcpAddresses.getD name ∅)[p]? = some lifetime → p ∉ svi.addresses →
        ((applyEach fakeApply pre s).dhcpAddresses.getD name ∅)[p]? = some lifetime) := by
  intro pre hpre
  have hrun := (plan_ownRun wf ready planned wanted link hpre).own
  have hown : targeting Op.target name pre <+: keptOps name svi (device s name) :=
    targeting_plan_kept ready planned wanted link ▸ hpre.filter _
  have hexist : (device s name).link.isSome = true := by
    rw [device_link, link]
    rfl
  refine ⟨fun p hp configured => keptOps_keep_address hown hp configured hrun, ?_, ?_⟩
  · rintro ⟨old, hold⟩ ⟨new, hnew⟩
    exact keptOps_keep_some hown hexist hold hnew hrun
  · intro client p lifetime hp unconfigured
    exact keptOps_keep_lease hown (wf.fit name).disjoint client hp unconfigured hrun

/-- An SVI at 192.168.1.1 with a lease for 10.99.0.100. -/
def leasedKernel : ActualState where
  links := ExtTreeMap.ofList
    [("br-lan", ⟨.bridge ⟨true, 0, true, .off⟩, true, none⟩),
      ("vlan1", ⟨.vlan "br-lan" 1, true, none⟩)] compare
  bridgeVlans := ExtTreeMap.ofList [("br-lan", .ofList [(1, tagged)] compare)] compare
  addresses := ExtTreeMap.ofList [("vlan1", .ofList [⟨⟨0xC0A80101⟩, 24⟩] compare)] compare
  dhcpAddresses := ExtTreeMap.ofList
    [("vlan1", .ofList [(⟨⟨0x0A630064⟩, 24⟩, 3600)] compare)] compare

/-- It moves to 192.168.1.2; the client goes on. -/
def movedSvi : Svi := ⟨true, 1, .ofList [⟨⟨0xC0A80102⟩, 24⟩] compare, true⟩

def movedState : DesiredState where
  svis := ExtTreeMap.ofList [("vlan1", movedSvi)] compare

theorem plan_keeps_addresses_moved :
    plan movedState leasedKernel = .ok [.addAddress "vlan1" ⟨⟨0xC0A80102⟩, 24⟩,
        .delAddress "vlan1" ⟨⟨0xC0A80101⟩, 24⟩] ∧
      ∀ pre, pre <+: [.addAddress "vlan1" ⟨⟨0xC0A80102⟩, 24⟩,
          .delAddress "vlan1" ⟨⟨0xC0A80101⟩, 24⟩] →
        (∃ p, hasAddress (applyEach fakeApply pre leasedKernel) "vlan1" p) ∧
        ((applyEach fakeApply pre leasedKernel).dhcpAddresses.getD "vlan1" ∅)[
          (⟨⟨0x0A630064⟩, 24⟩ : Ipv4Prefix)]? = some 3600 := by
  have hplan : plan movedState leasedKernel = .ok [.addAddress "vlan1" ⟨⟨0xC0A80102⟩, 24⟩,
      .delAddress "vlan1" ⟨⟨0xC0A80101⟩, 24⟩] := by decide +kernel
  have hready : BridgeConfigured leasedKernel :=
    ⟨⟨true, 0, true, .off⟩, true, none, by decide +kernel, rfl, rfl, rfl⟩
  refine ⟨hplan, fun pre hpre => ?_⟩
  obtain ⟨-, hsome, hleases⟩ := plan_keeps_addresses movedState leasedKernel _
    (wellFormed_of_check (by decide +kernel)) hready hplan "vlan1" movedSvi (by decide +kernel) true
    none (by decide +kernel) pre hpre
  refine ⟨hsome ⟨⟨⟨0xC0A80101⟩, 24⟩, ?_⟩ ⟨⟨⟨0xC0A80102⟩, 24⟩, by decide +kernel⟩,
    hleases rfl _ _ (by decide +kernel) (by decide +kernel)⟩
  unfold hasAddress
  decide +kernel

end ClixonSwitch.Guarantees
