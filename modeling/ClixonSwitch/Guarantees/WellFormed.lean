import ClixonSwitch.Source.SwitchNet.DeviceRuns
import ClixonSwitch.Source.SwitchNet.Removal

/-!
# Well-formed kernel states

What the kernel, and `FakeNet` as its model, keep true of the links, entries and
addresses. `Coherent` is the part that every successful operation preserves and
that later rounds of `reconcile` rely on; `WellFormed` adds what is only needed of
the state a commit starts from.
-/
namespace ClixonSwitch.Guarantees
open Std Lib Source.SwitchModel Source.SwitchNet

/-- Entries only on bridges and ports, addresses only on existing links, and no
prefix both permanent and leased. -/
structure Fit (d : Device) : Prop where
  entries : ∀ vid, vid ∈ d.vlans → d.link.any Link.takesVlans = true
  addressed : ∀ p, p ∈ d.addresses ∨ p ∈ d.leases → d.link.isSome = true
  disjoint : d.Disjoint

structure Coherent (s : ActualState) : Prop where
  fit : ∀ dev, Fit (device s dev)
  parents : ∀ dev p, (device s dev).parent = some p → (device s p).link.isSome = true
  masters : ∀ dev m, (device s dev).master = some m → (device s m).isBridge = true
  bridgeNotPort : (device s bridgeName).isDsa = false

structure WellFormed (s : ActualState) : Prop extends Coherent s where
  ids : ∀ dev vid, vid ∈ (device s dev).vlans → 1 ≤ vid ∧ vid ≤ 4094
  singlePvid : ∀ dev, SinglePvid (device s dev).vlans

section LocalSteps
variable {op : Op} {d d' : Device}

/-- What a link is, apart from a bridge's settings. -/
def SameSort (k k' : LinkKind) : Prop := k' = k ∨ ∃ b b', k = .bridge b ∧ k' = .bridge b'

/-- Everything that an operation with a local meaning can do to its link. -/
inductive LinkEffect (op : Op) (d d' : Device) : Prop where
  | same (link : d'.link = d.link)
  | changed (l l' : Link) (before : d.link = some l) (after : d'.link = some l')
    (sort : SameSort l.kind l'.kind) (master : l'.master = l.master)
  | enslaved (l : Link) (name : String) (m : Option String) (h : op = .setMaster name m)
    (before : d.link = some l) (after : d'.link = some { l with master := m })
  | created (kind : LinkKind) (before : d.link = none) (after : d'.link = some (newLink kind))
    (h : kind = freshBridgeKind ∨ ∃ name p id, op = .createVlan name p id ∧ kind = .vlan p id)

theorem act_linkEffect (h : act op d = some d') : LinkEffect op d d' := by
  cases op with
  | createBridge name =>
    simp only [act, Option.ite_none_left_eq_some, Option.some.injEq] at h
    obtain ⟨hno, rfl⟩ := h
    exact .created _ (by simpa using hno) rfl (Or.inl rfl)
  | createVlan name p id =>
    simp only [act, Option.ite_none_left_eq_some, Option.some.injEq] at h
    obtain ⟨hno, rfl⟩ := h
    exact .created _ (by simpa using hno) rfl (Or.inr ⟨name, p, id, rfl, rfl⟩)
  | setBridgeStp name on =>
    simp only [act, Option.map_eq_some_iff, Option.bind_eq_some_iff] at h
    obtain ⟨l', ⟨l, hl, hset⟩, rfl⟩ := h
    unfold setStp at hset
    split at hset
    · next b hk =>
      cases hset
      exact .changed l _ hl rfl (Or.inr ⟨b, _, hk, rfl⟩) rfl
    · cases hset
  | setMaster name m =>
    simp only [act, Option.map_eq_some_iff] at h
    obtain ⟨l, hl, rfl⟩ := h
    exact .enslaved l name m rfl hl rfl
  | setUp name up =>
    simp only [act, Option.map_eq_some_iff] at h
    obtain ⟨l, hl, rfl⟩ := h
    exact .changed l _ hl rfl (Or.inl rfl) rfl
  | addBridgeVlan dev vid flags =>
    simp only [act, Option.ite_none_right_eq_some, Option.some.injEq] at h
    obtain ⟨-, rfl⟩ := h
    exact .same rfl
  | delBridgeVlan dev vid =>
    simp only [act, Option.ite_none_right_eq_some, Option.some.injEq] at h
    obtain ⟨-, rfl⟩ := h
    exact .same rfl
  | addAddress dev p =>
    simp only [act, Option.ite_none_right_eq_some, Option.some.injEq] at h
    obtain ⟨-, rfl⟩ := h
    exact .same rfl
  | delAddress dev p =>
    simp only [act, Option.ite_none_right_eq_some, Option.some.injEq] at h
    obtain ⟨-, rfl⟩ := h
    exact .same rfl
  | configureBridge name => cases h
  | deleteLink name => cases h

theorem SameSort.isBridge {k k' : LinkKind} (h : SameSort k k') : k'.isBridge = k.isBridge := by
  rcases h with rfl | ⟨b, b', rfl, rfl⟩ <;> rfl

theorem SameSort.isDsa {k k' : LinkKind} (h : SameSort k k') : k'.isDsa = k.isDsa := by
  rcases h with rfl | ⟨b, b', rfl, rfl⟩ <;> rfl

variable (h : LinkEffect op d d')
include h

theorem LinkEffect.isSome (hs : d.link.isSome = true) : d'.link.isSome = true := by
  cases h with
  | same link => rw [link, hs]
  | changed l l' before after sort master => simp [after]
  | enslaved l name m heq before after => simp [after]
  | created kind before after heq => simp [after]

theorem LinkEffect.isBridge (hb : d.isBridge = true) : d'.isBridge = true := by
  unfold Device.isBridge at hb ⊢
  cases h with
  | same link => rw [link, hb]
  | changed l l' before after sort master =>
    rw [before, Option.any_some] at hb
    rw [after, Option.any_some, sort.isBridge, hb]
  | enslaved l name m heq before after => simpa [before, after] using hb
  | created kind before after heq => simp [before] at hb

theorem LinkEffect.isDsa : d'.isDsa = d.isDsa := by
  unfold Device.isDsa
  cases h with
  | same link => rw [link]
  | changed l l' before after sort master => simp [before, after, sort.isDsa]
  | enslaved l name m heq before after => simp [before, after]
  | created kind before after heq =>
    rcases heq with rfl | ⟨name, p, id, -, rfl⟩ <;> simp [before, after, newLink] <;> rfl

/-- Only creating a VLAN link gives a device a parent. -/
theorem LinkEffect.parent {p : String} (hp : d'.parent = some p) :
    d.parent = some p ∨ ∃ name id, op = .createVlan name p id := by
  unfold Device.parent at hp ⊢
  cases h with
  | same link => rw [link] at hp; exact Or.inl hp
  | changed l l' before after sort master =>
    obtain ⟨kind, up, m⟩ := l
    obtain ⟨kind', up', m'⟩ := l'
    rcases sort with hsame | ⟨b, b', hb, hb'⟩
    · simp only at hsame
      subst hsame
      left
      rw [after] at hp
      rw [before]
      cases kind' <;> exact hp
    · simp only at hb'
      rw [after, hb'] at hp
      cases hp
  | enslaved l name m heq before after =>
    obtain ⟨kind, up, m'⟩ := l
    left
    rw [after] at hp
    rw [before]
    cases kind <;> exact hp
  | created kind before after heq =>
    right
    rcases heq with rfl | ⟨name, q, id, rfl, rfl⟩
    · rw [after] at hp
      cases hp
    · rw [after] at hp
      cases hp
      exact ⟨name, id, rfl⟩

/-- Only joining a bridge gives a device a master. -/
theorem LinkEffect.master_of {m : String} (hm : d'.master = some m) :
    d.master = some m ∨ ∃ name, op = .setMaster name (some m) := by
  unfold Device.master at hm ⊢
  cases h with
  | same link => rw [link] at hm; exact Or.inl hm
  | changed l l' before after sort master =>
    rw [after, Option.bind_some, master] at hm
    exact Or.inl (by rw [before, Option.bind_some, hm])
  | enslaved l name m' heq before after =>
    rw [after, Option.bind_some] at hm
    exact Or.inr ⟨name, by rw [heq, show m' = some m from hm]⟩
  | created kind before after heq =>
    rw [after] at hm
    cases hm

theorem LinkEffect.takesVlans (hop : ∀ name m, op ≠ .setMaster name m)
    (ht : d.link.any Link.takesVlans = true) : d'.link.any Link.takesVlans = true := by
  cases h with
  | same link => rw [link, ht]
  | changed l l' before after sort master =>
    rw [before, Option.any_some] at ht
    rw [after, Option.any_some, Link.takesVlans, sort.isBridge, master]
    exact ht
  | enslaved l name m heq before after => exact absurd heq (hop name m)
  | created kind before after heq => simp [before] at ht

omit h

theorem act_vlans_of_takes (h : act op d = some d') {vid : UInt16} (hv : vid ∈ d'.vlans) :
    vid ∈ d.vlans ∨ d.link.any Link.takesVlans = true := by
  cases op with
  | addBridgeVlan dev v flags =>
    simp only [act, Option.ite_none_right_eq_some] at h
    exact Or.inr h.1
  | delBridgeVlan dev v =>
    simp only [act, Option.ite_none_right_eq_some, Option.some.injEq] at h
    obtain ⟨-, rfl⟩ := h
    exact Or.inl ((BTreeMap.mem_erase_iff _ _ _).mp hv).2
  | setMaster name m =>
    simp only [act, Option.map_eq_some_iff] at h
    obtain ⟨l, -, rfl⟩ := h
    simp at hv
  | setBridgeStp name on =>
    simp only [act, Option.map_eq_some_iff] at h
    obtain ⟨l, -, rfl⟩ := h
    exact Or.inl hv
  | setUp name up =>
    simp only [act, Option.map_eq_some_iff] at h
    obtain ⟨l, -, rfl⟩ := h
    exact Or.inl hv
  | createBridge name =>
    simp only [act, Option.ite_none_left_eq_some, Option.some.injEq] at h
    obtain ⟨-, rfl⟩ := h
    exact Or.inl hv
  | createVlan name p id =>
    simp only [act, Option.ite_none_left_eq_some, Option.some.injEq] at h
    obtain ⟨-, rfl⟩ := h
    exact Or.inl hv
  | addAddress dev p =>
    simp only [act, Option.ite_none_right_eq_some, Option.some.injEq] at h
    obtain ⟨-, rfl⟩ := h
    exact Or.inl hv
  | delAddress dev p =>
    simp only [act, Option.ite_none_right_eq_some, Option.some.injEq] at h
    obtain ⟨-, rfl⟩ := h
    exact Or.inl hv
  | configureBridge name => cases h
  | deleteLink name => cases h

theorem act_addresses (h : act op d = some d') :
    (d'.addresses = d.addresses ∧ d'.leases = d.leases) ∨
    (∃ p, d'.addresses = d.addresses.insert p ∧ d'.leases = d.leases ∧ p ∉ d.leases ∧
      d.link.isSome = true) ∨
    ∃ dev p, op = .delAddress dev p ∧ d'.addresses = d.addresses.erase p ∧
      d'.leases = d.leases.erase p := by
  cases op with
  | addAddress dev p =>
    simp only [act, Option.ite_none_right_eq_some, Option.some.injEq, Bool.and_eq_true,
      Bool.not_eq_true', BTreeMap.contains_eq_false] at h
    obtain ⟨⟨⟨hl, hno⟩, -⟩, rfl⟩ := h
    exact Or.inr (Or.inl ⟨p, rfl, rfl, hno, hl⟩)
  | delAddress dev p =>
    simp only [act, Option.ite_none_right_eq_some, Option.some.injEq] at h
    obtain ⟨-, rfl⟩ := h
    exact Or.inr (Or.inr ⟨dev, p, rfl, rfl, rfl⟩)
  | addBridgeVlan dev v flags =>
    simp only [act, Option.ite_none_right_eq_some, Option.some.injEq] at h
    obtain ⟨-, rfl⟩ := h
    exact Or.inl ⟨rfl, rfl⟩
  | delBridgeVlan dev v =>
    simp only [act, Option.ite_none_right_eq_some, Option.some.injEq] at h
    obtain ⟨-, rfl⟩ := h
    exact Or.inl ⟨rfl, rfl⟩
  | setMaster name m =>
    simp only [act, Option.map_eq_some_iff] at h
    obtain ⟨l, -, rfl⟩ := h
    exact Or.inl ⟨rfl, rfl⟩
  | setBridgeStp name on =>
    simp only [act, Option.map_eq_some_iff] at h
    obtain ⟨l, -, rfl⟩ := h
    exact Or.inl ⟨rfl, rfl⟩
  | setUp name up =>
    simp only [act, Option.map_eq_some_iff] at h
    obtain ⟨l, -, rfl⟩ := h
    exact Or.inl ⟨rfl, rfl⟩
  | createBridge name =>
    simp only [act, Option.ite_none_left_eq_some, Option.some.injEq] at h
    obtain ⟨-, rfl⟩ := h
    exact Or.inl ⟨rfl, rfl⟩
  | createVlan name p id =>
    simp only [act, Option.ite_none_left_eq_some, Option.some.injEq] at h
    obtain ⟨-, rfl⟩ := h
    exact Or.inl ⟨rfl, rfl⟩
  | configureBridge name => cases h
  | deleteLink name => cases h

theorem Fit.act (fit : Fit d) (h : act op d = some d') : Fit d' := by
  have effect := act_linkEffect h
  refine ⟨fun vid hv => ?_, fun p hp => ?_, fun p hp hl => ?_⟩
  · by_cases hop : ∃ name m, op = .setMaster name m
    · obtain ⟨name, m, rfl⟩ := hop
      simp only [Source.SwitchNet.act, Option.map_eq_some_iff] at h
      obtain ⟨l, -, rfl⟩ := h
      simp at hv
    · refine effect.takesVlans (fun name m heq => hop ⟨name, m, heq⟩) ?_
      rcases act_vlans_of_takes h hv with hin | ht
      · exact fit.entries vid hin
      · exact ht
  · refine effect.isSome ?_
    rcases act_addresses h with ⟨ha, hl⟩ | ⟨q, ha, hl, -, hsome⟩ | ⟨-, q, -, ha, hl⟩
    · rw [ha, hl] at hp
      exact fit.addressed p hp
    · exact hsome
    · rw [ha, hl, BTreeSet.mem_erase_iff, BTreeMap.mem_erase_iff] at hp
      exact fit.addressed p (hp.imp And.right And.right)
  · rcases act_addresses h with ⟨ha, hlease⟩ | ⟨q, ha, hlease, hno, -⟩ | ⟨-, q, -, ha, hlease⟩
    · rw [ha] at hp
      rw [hlease] at hl
      exact fit.disjoint p hp hl
    · rw [ha, BTreeSet.mem_insert_iff] at hp
      rw [hlease] at hl
      rcases hp with rfl | hp
      · exact hno hl
      · exact fit.disjoint p hp hl
    · rw [ha, BTreeSet.mem_erase_iff] at hp
      rw [hlease, BTreeMap.mem_erase_iff] at hl
      exact fit.disjoint p hp.2 hl.2

end LocalSteps

section States
variable {s s' : ActualState} {d : Device}

/-- A successful operation with a local meaning, on the devices. -/
theorem Coherent.local_step (coherent : Coherent s) {op : Op} {d' : Device}
    (h : act op (device s op.target) = some d')
    (view : ∀ name, device s' name = if name = op.target then d' else device s name)
    (hparent : ∀ name p id, op = .createVlan name p id → (device s p).link.isSome = true)
    (hmaster : ∀ name m, op = .setMaster name (some m) → (device s m).isBridge = true) :
    Coherent s' := by
  have effect := act_linkEffect h
  have hsome : ∀ name, (device s name).link.isSome = true → (device s' name).link.isSome = true := by
    intro name hn
    rw [view]
    split
    · next heq => exact effect.isSome (heq ▸ hn)
    · exact hn
  have hbridge : ∀ name, (device s name).isBridge = true →
      (device s' name).isBridge = true := by
    intro name hn
    rw [view]
    split
    · next heq => exact effect.isBridge (heq ▸ hn)
    · exact hn
  refine ⟨fun dev => ?_, fun dev p hp => ?_, fun dev m hm => ?_, ?_⟩
  · rw [view]
    split
    · exact (coherent.fit _).act h
    · exact coherent.fit dev
  · refine hsome p ?_
    rw [view] at hp
    split at hp
    · rcases effect.parent hp with hp | ⟨name, id, heq⟩
      · exact coherent.parents _ p hp
      · exact hparent name p id heq
    · exact coherent.parents dev p hp
  · refine hbridge m ?_
    rw [view] at hm
    split at hm
    · rcases effect.master_of hm with hm | ⟨name, heq⟩
      · exact coherent.masters _ m hm
      · exact hmaster name m heq
    · exact coherent.masters dev m hm
  · rw [view]
    split
    · next heq => rw [effect.isDsa, ← heq, coherent.bridgeNotPort]
    · exact coherent.bridgeNotPort

theorem Fit.without (fit : Fit d) (removed : List String) (name : String) :
    Fit (d.without removed name) := by
  unfold Device.without
  split
  · exact ⟨by simp, by simp, by simp [Device.Disjoint]⟩
  · split
    · refine ⟨by simp [Device.released], fun p hp => ?_, fit.disjoint⟩
      simpa [Device.released] using fit.addressed p hp
    · exact fit

theorem without_cases (removed : List String) (name : String) (d : Device) :
    (name ∈ removed ∧ d.without removed name = {}) ∨
    (name ∉ removed ∧ d.masterIn removed = true ∧ d.without removed name = d.released) ∨
    (name ∉ removed ∧ d.masterIn removed = false ∧ d.without removed name = d) := by
  unfold Device.without
  by_cases h : name ∈ removed
  · exact Or.inl ⟨h, if_pos h⟩
  · by_cases hm : d.masterIn removed = true
    · exact Or.inr (Or.inl ⟨h, hm, by rw [if_neg h, if_pos hm]⟩)
    · exact Or.inr (Or.inr ⟨h, by simpa using hm, by rw [if_neg h, if_neg hm]⟩)

theorem released_isBridge (d : Device) : d.released.isBridge = d.isBridge := by
  unfold Device.isBridge Device.released
  cases d.link <;> simp

theorem released_isDsa (d : Device) : d.released.isDsa = d.isDsa := by
  unfold Device.isDsa Device.released
  cases d.link <;> simp

/-- Removing a cascade leaves no link without its parent or its master. -/
theorem Coherent.removes (coherent : Coherent s) {names removed : List String}
    (hr : Removes removed s s') (cascade : Cascade s names removed) : Coherent s' := by
  refine ⟨fun dev => ?_, fun dev p hp => ?_, fun dev m hm => ?_, ?_⟩
  · rw [hr dev]
    exact (coherent.fit dev).without removed dev
  · have hbefore := hr.parent_some hp
    have hkept : p ∉ removed := fun hin => by
      have hdev := cascade.closed dev p hbefore hin
      rw [hr dev, Device.without_parent, if_pos hdev] at hp
      cases hp
    rw [hr p, Device.without_isSome]
    simp [hkept, coherent.parents dev p hbefore]
  · rw [hr dev] at hm
    rcases without_cases removed dev (device s dev) with ⟨-, h⟩ | ⟨-, -, h⟩ | ⟨-, hin, h⟩
    · rw [h] at hm
      cases hm
    · rw [h] at hm
      unfold Device.master Device.released at hm
      cases hl : (device s dev).link <;> simp [hl] at hm
    · rw [h] at hm
      have hkept : m ∉ removed := by
        intro hmem
        unfold Device.master at hm
        obtain ⟨l, hl, hlm⟩ := Option.bind_eq_some_iff.mp hm
        simp [Device.masterIn, hl, hlm, hmem] at hin
      have hb := coherent.masters dev m hm
      rw [hr m]
      rcases without_cases removed m (device s m) with ⟨hin', -⟩ | ⟨-, -, h'⟩ | ⟨-, -, h'⟩
      · exact absurd hin' hkept
      · rw [h', released_isBridge, hb]
      · rw [h', hb]
  · rw [hr bridgeName]
    rcases without_cases removed bridgeName (device s bridgeName) with ⟨-, h⟩ | ⟨-, -, h⟩ | ⟨-, -, h⟩
    · rw [h]
      rfl
    · rw [h, released_isDsa, coherent.bridgeNotPort]
    · rw [h, coherent.bridgeNotPort]

theorem mem_dropDefault {old vid : UInt16} {vlans : VlanMap} (h : vid ∈ dropDefault old vlans) :
    vid ∈ vlans := by
  unfold dropDefault at h
  split at h
  · exact ((BTreeMap.mem_erase_iff _ _ _).mp h).2
  · exact h

/-- A bridge device with other settings, and ports that may have lost an entry. -/
theorem Coherent.configure (coherent : Coherent s) {bridge : String} {b b' : BridgeSettings}
    {up : Bool} {master : Option String} {old : UInt16}
    (hb : (device s bridge).link = some ⟨.bridge b, up, master⟩)
    (view : ∀ dev, device s' dev =
      (if dev = bridge then { device s dev with link := some ⟨.bridge b', up, master⟩ }
        else device s dev).dropDefault bridge old) : Coherent s' := by
  -- The links of the new state are the old ones, up to the settings of the bridge.
  have hlink : ∀ dev, (device s' dev).link =
      if dev = bridge then some ⟨.bridge b', up, master⟩ else (device s dev).link := by
    intro dev
    rw [view dev, Device.dropDefault]
    by_cases hdev : dev = bridge
    · simp only [hdev, if_true]
      split <;> rfl
    · simp only [hdev, if_false]
      split <;> rfl
  have hvlans : ∀ dev vid, vid ∈ (device s' dev).vlans → vid ∈ (device s dev).vlans := by
    intro dev vid
    rw [view dev, Device.dropDefault]
    by_cases hdev : dev = bridge
    · simp only [hdev, if_true]
      split
      · exact mem_dropDefault
      · exact id
    · simp only [hdev, if_false]
      split
      · exact mem_dropDefault
      · exact id
  have haddr : ∀ dev, (device s' dev).addresses = (device s dev).addresses ∧
      (device s' dev).leases = (device s dev).leases := by
    intro dev
    rw [view dev, Device.dropDefault]
    by_cases hdev : dev = bridge
    · simp only [hdev, if_true]
      split <;> exact ⟨rfl, rfl⟩
    · simp only [hdev, if_false]
      split <;> exact ⟨rfl, rfl⟩
  refine ⟨fun dev => ⟨fun vid hv => ?_, fun p hp => ?_, fun p hp hl => ?_⟩, fun dev p hp => ?_,
    fun dev m hm => ?_, ?_⟩
  · have ht := (coherent.fit dev).entries vid (hvlans dev vid hv)
    rw [hlink]
    split
    · rfl
    · exact ht
  · rw [(haddr dev).1, (haddr dev).2] at hp
    have hs := (coherent.fit dev).addressed p hp
    rw [hlink]
    split
    · rfl
    · exact hs
  · rw [(haddr dev).1] at hp
    rw [(haddr dev).2] at hl
    exact (coherent.fit dev).disjoint p hp hl
  · unfold Device.parent at hp
    rw [hlink] at hp
    rw [hlink]
    split
    · rfl
    · refine coherent.parents dev p ?_
      unfold Device.parent
      split at hp
      · next heq =>
        split at heq
        · cases heq
        · next hl => rw [heq]; exact hp
      · cases hp
  · have hbefore : (device s dev).master = some m := by
      unfold Device.master at hm ⊢
      rw [hlink] at hm
      split at hm
      · next hdev => rw [hdev, hb]; exact hm
      · exact hm
    have hm' := coherent.masters dev m hbefore
    unfold Device.isBridge at hm' ⊢
    rw [hlink]
    split
    · rfl
    · exact hm'
  · have hno := coherent.bridgeNotPort
    unfold Device.isDsa at hno ⊢
    rw [hlink]
    split
    · rfl
    · exact hno

/-- Operations the planner uses before the bridge is ready. -/
def Op.isPreparing : Op → Bool
  | .configureBridge _ => true
  | .deleteLink _ => true
  | op => op.isPlain

theorem Coherent.preparing_step (coherent : Coherent s) {op : Op} (hop : Op.isPreparing op = true)
    (h : fakeApply op s = (.ok (), s')) : Coherent s' := by
  by_cases hplain : op.isPlain = true
  · obtain ⟨d', hact, view⟩ := (localEffect_of_isPlain hplain s).of_ok h
    refine coherent.local_step hact view ?_ ?_
    · rintro name p id rfl
      cases hplain
    · rintro name m rfl
      cases hplain
  · cases op with
    | configureBridge name =>
      obtain ⟨b, up, master, hb, view⟩ := configureBridge_ok h
      exact coherent.configure (hb : (device s name).link = _) view
    | deleteLink name =>
      obtain ⟨removed, hr, cascade⟩ := deleteLink_ok h
      exact coherent.removes hr cascade
    | _ => exact absurd hop hplain

theorem Coherent.ready_step (coherent : Coherent s) (ready : BridgeReady s) {op : Op}
    (hop : op.isLocal = true) (h : fakeApply op s = (.ok (), s')) : Coherent s' := by
  obtain ⟨d', hact, view⟩ := (localEffect_of_isLocal hop ready).of_ok h
  obtain ⟨b, up, master, hb, -⟩ := ready
  refine coherent.local_step hact view ?_ ?_
  · rintro name p id rfl
    obtain rfl : p = bridgeName := by simpa [Op.isLocal] using hop
    simp [device_link, hb]
  · rintro name m rfl
    obtain rfl : m = bridgeName := by simpa [Op.isLocal] using hop
    simp [Device.isBridge, device_link, hb, LinkKind.isBridge]

end States

section Check

/-- The names that any table of the state has. -/
def deviceNames (s : ActualState) : List String :=
  s.links.keys ++ s.bridgeVlans.keys ++ s.addresses.keys ++ s.dhcpAddresses.keys

theorem device_eq_empty {s : ActualState} {dev : String} (h : dev ∉ deviceNames s) :
    device s dev = {} := by
  simp only [deviceNames, List.mem_append, ExtTreeMap.mem_keys, not_or,
    BTreeMap.not_mem_iff] at h
  simp [device, BTreeMap.getD_eq, h]

def fitCheck (d : Device) : Bool :=
  (d.vlans.isEmpty || d.link.any Link.takesVlans) &&
    (d.addresses.isEmpty && d.leases.isEmpty || d.link.isSome) &&
    d.addresses.toList.all fun p => !d.leases.contains p

theorem fit_of_check {d : Device} (h : fitCheck d = true) : Fit d := by
  simp only [fitCheck, Bool.and_eq_true, Bool.or_eq_true, List.all_eq_true, Bool.not_eq_true',
    BTreeMap.contains_eq_false, ExtTreeSet.mem_toList] at h
  obtain ⟨⟨hentries, haddressed⟩, hdisjoint⟩ := h
  refine ⟨fun vid hin => hentries.resolve_left ?_, fun p hp => haddressed.resolve_left ?_, hdisjoint⟩
  · rw [ExtTreeMap.isEmpty_iff]
    rintro hempty
    simp [hempty] at hin
  · rw [ExtTreeSet.isEmpty_iff, ExtTreeMap.isEmpty_iff]
    rintro ⟨haddr, hlease⟩
    simp [haddr, hlease] at hp

def entriesCheck (vlans : VlanMap) : Bool :=
  (vlans.keys.all fun vid => 1 ≤ vid && vid ≤ 4094) &&
    vlans.toList.all fun e => vlans.toList.all fun e' => !e.2.pvid || !e'.2.pvid || e.1 == e'.1

/-- `WellFormed` as a computation over the names of the state. -/
def wellFormedCheck (s : ActualState) : Bool :=
  ((deviceNames s).all fun dev =>
    fitCheck (device s dev) && entriesCheck (device s dev).vlans &&
      ((device s dev).parent.all fun p => (device s p).link.isSome) &&
      (device s dev).master.all fun m => (device s m).isBridge) &&
    !(device s bridgeName).isDsa

theorem wellFormed_of_check {s : ActualState} (h : wellFormedCheck s = true) : WellFormed s := by
  simp only [wellFormedCheck, Bool.and_eq_true, List.all_eq_true, Bool.not_eq_true'] at h
  obtain ⟨hall, hbridge⟩ := h
  have hcase : ∀ dev, device s dev = {} ∨ dev ∈ deviceNames s := fun dev => by
    by_cases hin : dev ∈ deviceNames s
    · exact Or.inr hin
    · exact Or.inl (device_eq_empty hin)
  refine { fit := fun dev => ?_, parents := fun dev p hp => ?_, masters := fun dev m hm => ?_,
           bridgeNotPort := hbridge, ids := fun dev vid hin => ?_, singlePvid := fun dev => ?_ }
  · rcases hcase dev with hd | hd
    · rw [hd]
      exact ⟨by simp, by simp, fun p hp => by simp at hp⟩
    · exact fit_of_check (hall dev hd).1.1.1
  · rcases hcase dev with hd | hd
    · rw [hd] at hp
      cases hp
    · have hparent := (hall dev hd).1.2
      simpa [hp] using hparent
  · rcases hcase dev with hd | hd
    · rw [hd] at hm
      cases hm
    · have hmaster := (hall dev hd).2
      simpa [hm] using hmaster
  · rcases hcase dev with hd | hd
    · rw [hd] at hin
      simp at hin
    · have hids := (hall dev hd).1.1.2
      simp only [entriesCheck, Bool.and_eq_true, List.all_eq_true, ExtTreeMap.mem_keys,
        decide_eq_true_eq] at hids
      exact hids.1 vid hin
  · rcases hcase dev with hd | hd
    · rw [hd]
      intro v w f g hf
      simp at hf
    · have hsingle := (hall dev hd).1.1.2
      simp only [entriesCheck, Bool.and_eq_true, List.all_eq_true, Prod.forall,
        ExtTreeMap.mem_toList_iff_getElem?_eq_some] at hsingle
      intro v w f g hf hg hfp hgp
      simpa [hfp, hgp] using hsingle.2 v f hf w g hg

end Check

end ClixonSwitch.Guarantees
