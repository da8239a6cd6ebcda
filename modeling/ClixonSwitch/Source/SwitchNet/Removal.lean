import ClixonSwitch.Source.SwitchNet.Devices

/-!
# The operations that reach beyond one device

Deleting a link takes the VLAN links on it with it, and theirs, and releases its
ports; reconfiguring a bridge drops the default entry of its ports. Both are
described by what they leave of each device.
-/
namespace ClixonSwitch.Source.SwitchNet
open Std Lib Source.SwitchModel

/-- The device a VLAN link sits on. -/
def Device.parent (d : Device) : Option String :=
  match d.link with
  | some ⟨.vlan parent _, _, _⟩ => some parent
  | _ => none

def Device.isBridge (d : Device) : Bool := d.link.any fun l => l.kind.isBridge

def Device.isDsa (d : Device) : Bool := d.link.any fun l => l.kind.isDsa

def Device.master (d : Device) : Option String := d.link.bind Link.master

def Device.enslavedTo (d : Device) (name : String) : Bool := d.link.any (·.enslavedTo name)

/-- Whether the device's master is among `names`. -/
def Device.masterIn (d : Device) (names : List String) : Bool :=
  d.link.any fun l => l.master.any (names.contains ·)

/-- A port that lost its master. -/
def Device.released (d : Device) : Device :=
  { d with link := d.link.map fun l => { l with master := none }, vlans := ∅ }

/-- What is left of a device when the links `removed` are gone. -/
def Device.without (removed : List String) (name : String) (d : Device) : Device :=
  if name ∈ removed then {}
  else if d.masterIn removed then d.released
  else d

def Removes (removed : List String) (s s' : ActualState) : Prop :=
  ∀ name, device s' name = (device s name).without removed name

/-- `removed` is `names` with all VLAN links on them, transitively. -/
structure Cascade (s : ActualState) (names removed : List String) : Prop where
  self : ∀ name ∈ names, name ∈ removed
  exist : ∀ name ∈ removed, (device s name).link.isSome = true
  reason : ∀ name ∈ removed, name ∈ names ∨ ∃ p ∈ removed, (device s name).parent = some p
  closed : ∀ name p, (device s name).parent = some p → p ∈ removed → name ∈ removed

theorem Device.isSome_of_parent {d : Device} {p : String} (h : d.parent = some p) :
    d.link.isSome = true := by
  unfold Device.parent at h
  split at h
  · next heq => simp [heq]
  · cases h

section Without
variable (removed removed' : List String) (name : String) (d : Device)

theorem Device.without_append :
    (d.without removed name).without removed' name = d.without (removed ++ removed') name := by
  unfold Device.without
  by_cases h : name ∈ removed
  · simp [h, masterIn]
  · by_cases h' : name ∈ removed'
    · simp [h']
    · have hmaster : d.masterIn (removed ++ removed') =
          (d.masterIn removed || d.masterIn removed') := by
        unfold masterIn
        cases d.link with
        | none => rfl
        | some l => cases hm : l.master <;> simp [hm]
      have hreleased : d.released.masterIn removed' = false := by
        unfold masterIn released
        cases d.link <;> simp
      simp only [h, h', if_false, List.mem_append, or_self, hmaster]
      cases hm : d.masterIn removed
      · simp
      · simp [hreleased]

theorem Device.without_parent :
    (d.without removed name).parent = if name ∈ removed then none else d.parent := by
  unfold Device.without
  by_cases h : name ∈ removed
  · simp [h, parent]
  · by_cases hm : d.masterIn removed = true
    · simp only [h, hm, if_true, if_false, released, parent]
      rcases d.link with - | ⟨kind, up, master⟩
      · simp
      · cases kind <;> simp
    · simp [h, hm]

theorem Device.without_isSome :
    (d.without removed name).link.isSome = (!decide (name ∈ removed) && d.link.isSome) := by
  unfold Device.without
  by_cases h : name ∈ removed
  · simp [h]
  · by_cases hm : d.masterIn removed = true <;> simp [h, hm, released]

end Without

/-- A link that stays has its kind. -/
theorem Device.without_kind {d : Device} {removed : List String} {name : String}
    {l' : Link} (h : (d.without removed name).link = some l') :
    ∃ l, d.link = some l ∧ l'.kind = l.kind := by
  unfold Device.without at h
  split at h
  · cases h
  · split at h
    · obtain ⟨l, hl, rfl⟩ := Option.map_eq_some_iff.mp h
      exact ⟨l, hl, rfl⟩
    · exact ⟨l', h, rfl⟩

theorem Removes.trans {removed removed' : List String} {s s' s'' : ActualState}
    (h : Removes removed s s') (h' : Removes removed' s' s'') :
    Removes (removed ++ removed') s s'' := by
  intro name
  rw [h' name, h name, Device.without_append]

theorem Removes.size_le {removed : List String} {s s' : ActualState} (h : Removes removed s s') :
    s'.links.size ≤ s.links.size := by
  apply BTreeMap.size_le_of_subset
  intro name hin
  have hs : (device s' name).link.isSome = true := by
    simpa [device_link, ← BTreeMap.contains_eq] using hin
  rw [h name, Device.without_isSome, Bool.and_eq_true] at hs
  simpa [device_link, ← BTreeMap.contains_eq] using hs.2

theorem mem_vlanChildren (s : ActualState) (parent name : String) :
    name ∈ vlanChildren s parent ↔ (device s name).parent = some parent := by
  simp only [vlanChildren, List.mem_map, List.mem_filter, Prod.exists, exists_and_right,
    exists_eq_right, ExtTreeMap.mem_toList_iff_getElem?_eq_some, Device.parent, device_link]
  rcases s.links[name]? with - | ⟨kind, up, master⟩
  · simp
  · cases kind <;> simp

theorem vlanChildren_nodup (s : ActualState) (parent : String) : (vlanChildren s parent).Nodup :=
  s.links.nodup_fst.sublist (List.filter_sublist.map _)

theorem device_removeLink (s : ActualState) (name x : String) :
    device (removeLink name s) x = if x = name then {} else device s x := by
  by_cases h : x = name
  · simp [device, removeLink, h]
  · simp [device, removeLink, h, ExtTreeMap.getElem?_erase, ExtTreeMap.getD_erase, Ne.symm h]

theorem getD_foldl_erase (names : List (String × Link)) (vlans : BTreeMap String VlanMap)
    (x : String) : (names.foldl (fun vlans e => vlans.erase e.1) vlans).getD x ∅ =
      if x ∈ names.map Prod.fst then ∅ else vlans.getD x ∅ := by
  induction names generalizing vlans with
  | nil => simp
  | cons e rest ih =>
    simp only [List.foldl_cons, ih, List.map_cons, List.mem_cons, ExtTreeMap.getD_erase,
      Std.compare_eq_iff_eq]
    by_cases hx : x ∈ rest.map Prod.fst
    · simp [hx]
    · by_cases he : e.1 = x
      · simp [he]
      · simp [hx, he, Ne.symm he]

theorem device_releasePorts (s : ActualState) (name x : String) :
    device (releasePorts name s) x =
      if (device s x).enslavedTo name then (device s x).released else device s x := by
  have hmem : x ∈ (s.links.toList.filter fun e => e.2.enslavedTo name).map Prod.fst ↔
      (device s x).enslavedTo name = true := by
    simp [Device.enslavedTo, device_link, Option.any_eq_true]
  have hlink : (device (releasePorts name s) x).link =
      (device s x).link.map fun l => if l.enslavedTo name then { l with master := none } else l := by
    simp [device_link, releasePorts]
  have hvlans : (device (releasePorts name s) x).vlans =
      if (device s x).enslavedTo name then ∅ else (device s x).vlans := by
    simp only [← hmem]
    exact getD_foldl_erase _ s.bridgeVlans x
  have haddr : (device (releasePorts name s) x).addresses = (device s x).addresses := rfl
  have hlease : (device (releasePorts name s) x).leases = (device s x).leases := rfl
  generalize device (releasePorts name s) x = d' at *
  generalize device s x = d at *
  obtain ⟨link', vlans', addresses', leases'⟩ := d'
  obtain ⟨link, vlans, addresses, leases⟩ := d
  simp only at hlink hvlans haddr hlease
  subst hlink hvlans haddr hlease
  rcases link with - | l
  · simp [Device.enslavedTo]
  · by_cases he : l.enslavedTo name = true <;> simp [Device.enslavedTo, Device.released, he]

/-- Removing a link, then `removed`, then releasing the link's ports. -/
theorem removes_cons {removed : List String} {name : String} {s s' : ActualState}
    (h : Removes removed (removeLink name s) s') :
    Removes (name :: removed) s (releasePorts name s') := by
  intro x
  rw [device_releasePorts, h x, device_removeLink]
  by_cases hx : x = name
  · subst hx
    simp [Device.without, Device.masterIn, Device.enslavedTo]
  · by_cases hr : x ∈ removed
    · simp [Device.without, hr, Device.enslavedTo]
    · simp only [Device.without, List.mem_cons, hx, hr, or_self, if_false]
      generalize device s x = d
      rcases d with ⟨- | ⟨kind, up, master⟩, vlans, addresses, leases⟩
      · simp [Device.masterIn, Device.enslavedTo]
      · rcases master with - | m
        · simp [Device.masterIn, Device.enslavedTo, Link.enslavedTo]
        · by_cases hm : m ∈ removed
          · simp [Device.masterIn, Device.enslavedTo, Device.released, Link.enslavedTo, hm]
          · by_cases hn : name = m
            · subst hn
              simp [Device.masterIn, Device.enslavedTo, Device.released, Link.enslavedTo, hm]
            · simp [Device.masterIn, Device.enslavedTo, Link.enslavedTo, hm, Ne.symm hn]

section Cascades
variable {s s' : ActualState}

/-- A device that survives keeps its parent. -/
theorem Removes.parent_eq {removed : List String} (h : Removes removed s s') {name : String}
    (hn : name ∉ removed) : (device s' name).parent = (device s name).parent := by
  rw [h name, Device.without_parent, if_neg hn]

theorem Removes.parent_some {removed : List String} (h : Removes removed s s') {name p : String}
    (hp : (device s' name).parent = some p) : (device s name).parent = some p := by
  rw [h name, Device.without_parent] at hp
  split at hp
  · cases hp
  · exact hp

theorem Removes.exists_before {removed : List String} (h : Removes removed s s') {name : String}
    (hs : (device s' name).link.isSome = true) : (device s name).link.isSome = true := by
  rw [h name, Device.without_isSome, Bool.and_eq_true] at hs
  exact hs.2

/-- Deleting links one after the other. -/
theorem Cascade.append {names names' removed removed' : List String}
    (hr : Removes removed s s') (h : Cascade s names removed) (h' : Cascade s' names' removed') :
    Cascade s (names ++ names') (removed ++ removed') where
  self name hn := by
    rcases List.mem_append.mp hn with hn | hn
    · exact List.mem_append_left _ (h.self name hn)
    · exact List.mem_append_right _ (h'.self name hn)
  exist name hn := by
    rcases List.mem_append.mp hn with hn | hn
    · exact h.exist name hn
    · exact hr.exists_before (h'.exist name hn)
  reason name hn := by
    rcases List.mem_append.mp hn with hn | hn
    · rcases h.reason name hn with hn | ⟨p, hp, hparent⟩
      · exact Or.inl (List.mem_append_left _ hn)
      · exact Or.inr ⟨p, List.mem_append_left _ hp, hparent⟩
    · rcases h'.reason name hn with hn | ⟨p, hp, hparent⟩
      · exact Or.inl (List.mem_append_right _ hn)
      · exact Or.inr ⟨p, List.mem_append_right _ hp, hr.parent_some hparent⟩
  closed name p hparent hp := by
    rcases List.mem_append.mp hp with hp | hp
    · exact List.mem_append_left _ (h.closed name p hparent hp)
    · by_cases hn : name ∈ removed
      · exact List.mem_append_left _ hn
      · exact List.mem_append_right _ (h'.closed name p (by rw [hr.parent_eq hn, hparent]) hp)

/-- What the source promises of deleting one link, used as induction hypothesis. -/
def DeletesCascading (delete : String → ActualState → Applied) (bound : Nat) : Prop :=
  ∀ name s, s.links.size ≤ bound → (device s name).link.isSome = true →
    ∃ removed s', delete name s = (.ok (), s') ∧ Removes removed s s' ∧ Cascade s [name] removed

theorem Device.without_nil (name : String) (d : Device) : d.without [] name = d := by
  rcases h : d.link with - | l
  · simp [Device.without, Device.masterIn, h]
  · simp [Device.without, Device.masterIn, h]

/-- Deleting VLAN links whose parents are no VLAN links and stay: none of them goes
with another, so each is still there at its turn. -/
theorem deleteEach_cascade {delete : String → ActualState → Applied} {bound : Nat}
    (hdelete : DeletesCascading delete bound) (names : List String) (s : ActualState)
    (hsize : s.links.size ≤ bound) (nodup : names.Nodup)
    (anchored : ∀ name ∈ names, ∃ p, (device s name).parent = some p ∧
      (device s p).parent = none ∧ p ∉ names) :
    ∃ removed s', deleteEach delete names s = (.ok (), s') ∧ Removes removed s s' ∧
      Cascade s names removed := by
  induction names generalizing s with
  | nil =>
    exact ⟨[], s, rfl, fun name => (Device.without_nil name _).symm,
      ⟨by simp, by simp, by simp, by simp⟩⟩
  | cons c rest ih =>
    obtain ⟨hc, nodup⟩ := List.nodup_cons.mp nodup
    obtain ⟨pc, hpc, -⟩ := anchored c (by simp)
    obtain ⟨removed, s₁, hrun, hr, hcascade⟩ := hdelete c s hsize (Device.isSome_of_parent hpc)
    have hkept : ∀ name ∈ rest, name ∉ removed := by
      intro name hn hin
      rcases hcascade.reason name hin with hself | ⟨p, hp, hparent⟩
      · exact hc (by rwa [← List.mem_singleton.mp hself])
      · obtain ⟨q, hq, hroot, hno⟩ := anchored name (by simp [hn])
        obtain rfl : p = q := Option.some.inj (hparent.symm.trans hq)
        rcases hcascade.reason p hp with hself | ⟨r, -, hparent'⟩
        · exact hno (by simp [List.mem_singleton.mp hself])
        · rw [hroot] at hparent'
          cases hparent'
    obtain ⟨removed', s₂, hrun', hr', hcascade'⟩ := ih s₁ (hr.size_le.trans hsize) nodup
      (fun name hn => by
        obtain ⟨p, hp, hroot, hno⟩ := anchored name (by simp [hn])
        refine ⟨p, by rw [hr.parent_eq (hkept name hn), hp], ?_, fun h => hno (by simp [h])⟩
        rw [hr p, Device.without_parent, hroot]
        split <;> rfl)
    exact ⟨removed ++ removed', s₂, by simp [deleteEach, hrun, hrun'], hr.trans hr',
      Cascade.append hr hcascade hcascade'⟩

theorem applyDeleteLink_cascade (fuel : Nat) : DeletesCascading (applyDeleteLink fuel) fuel := by
  induction fuel with
  | zero =>
    intro name s hsize hname
    have hin : name ∈ s.links := by simpa [device_link, ← BTreeMap.contains_eq] using hname
    have hempty : s.links = ∅ := ExtTreeMap.eq_empty_iff_size_eq_zero.mpr (by omega)
    simp [hempty] at hin
  | succ fuel ih =>
    intro name s hsize hname
    have hcontains : s.links.contains name = true := by
      rw [BTreeMap.contains_eq]
      exact hname
    have hsize' : (removeLink name s).links.size ≤ fuel := by
      simp only [removeLink, ExtTreeMap.size_erase, hcontains, if_true]
      omega
    have hparent : ∀ x ∈ vlanChildren (removeLink name s) name,
        (device (removeLink name s) x).parent = some name :=
      fun x hx => (mem_vlanChildren _ _ _).mp hx
    obtain ⟨removed, s', hrun, hr, hcascade⟩ := deleteEach_cascade ih
      (vlanChildren (removeLink name s) name) (removeLink name s) hsize' (vlanChildren_nodup _ _)
      (fun x hx => ⟨name, hparent x hx, by simp [device_removeLink, Device.parent], fun h => by
        simpa [device_removeLink, Device.parent] using hparent name h⟩)
    refine ⟨name :: removed, releasePorts name s', by simp [applyDeleteLink, hcontains, hrun],
      removes_cons hr, ?_⟩
    have hother : ∀ x, x ≠ name → device (removeLink name s) x = device s x :=
      fun x hx => by rw [device_removeLink, if_neg hx]
    have hremoved : ∀ x ∈ removed, x ≠ name := by
      rintro x hx rfl
      simpa [device_removeLink] using hcascade.exist x hx
    exact {
      self := by simp
      exist := fun x hx => by
        rcases List.mem_cons.mp hx with rfl | hx
        · exact hname
        · rw [← hother x (hremoved x hx)]
          exact hcascade.exist x hx
      reason := fun x hx => by
        rcases List.mem_cons.mp hx with rfl | hx
        · exact Or.inl (by simp)
        · refine Or.inr ?_
          rcases hcascade.reason x hx with hchild | ⟨p, hp, hpar⟩
          · exact ⟨name, by simp, by rw [← hother x (hremoved x hx), hparent x hchild]⟩
          · exact ⟨p, by simp [hp], by rw [← hother x (hremoved x hx), hpar]⟩
      closed := fun x p hpar hp => by
        by_cases hx : x = name
        · simp [hx]
        · rw [← hother x hx] at hpar
          refine List.mem_cons_of_mem _ ?_
          rcases List.mem_cons.mp hp with rfl | hp
          · exact hcascade.self x ((mem_vlanChildren _ _ _).mpr hpar)
          · exact hcascade.closed x p hpar hp }

/-- Deleting an existing link succeeds and removes the link and the VLAN links on it. -/
theorem deleteLink_cascade (name : String) (s : ActualState)
    (hname : (device s name).link.isSome = true) :
    ∃ removed s', fakeApply (.deleteLink name) s = (.ok (), s') ∧ Removes removed s s' ∧
      Cascade s [name] removed :=
  applyDeleteLink_cascade s.links.size name s le_rfl hname

theorem deleteLink_missing {name : String} (h : (device s name).link = none) :
    ∃ e, fakeApply (.deleteLink name) s = (.error e, s) := by
  have hno : s.links.contains name = false := by
    rw [BTreeMap.contains_eq, ← device_link, h]
    rfl
  simp only [fakeApply]
  cases s.links.size <;> simp [applyDeleteLink, hno, fail]

/-- Whether or not it succeeds, a deletion only takes links away. -/
theorem deleteLink_removes (name : String) (s : ActualState) :
    ∃ removed, Removes removed s (fakeApply (.deleteLink name) s).2 := by
  cases hlink : (device s name).link with
  | none =>
    obtain ⟨e, he⟩ := deleteLink_missing hlink
    exact ⟨[], fun x => by rw [he, Device.without_nil]⟩
  | some l =>
    obtain ⟨removed, t, ht, hr, -⟩ := deleteLink_cascade name s (by simp [hlink])
    exact ⟨removed, by rw [ht]; exact hr⟩

/-- A deletion that succeeds found its link. -/
theorem deleteLink_ok {name : String} (h : fakeApply (.deleteLink name) s = (.ok (), s')) :
    ∃ removed, Removes removed s s' ∧ Cascade s [name] removed := by
  cases hlink : (device s name).link with
  | none =>
    obtain ⟨e, he⟩ := deleteLink_missing hlink
    rw [he] at h
    cases h
  | some l =>
    obtain ⟨removed, t, ht, hr, cascade⟩ := deleteLink_cascade name s (by simp [hlink])
    rw [ht] at h
    cases h
    exact ⟨removed, hr, cascade⟩

theorem runAll_deleteLinks {names : List String}
    (h : deleteEach (fun name => fakeApply (.deleteLink name)) names s = (.ok (), s')) :
    runAll fakeApply (names.map Op.deleteLink) s = (.ok (), s') := by
  induction names generalizing s with
  | nil =>
    simp only [deleteEach, Prod.mk.injEq, true_and] at h
    simp [runAll, h]
  | cons name rest ih =>
    simp only [deleteEach] at h
    split at h
    · next s₁ heq =>
      rw [List.map_cons, runAll_cons_ok heq]
      exact ih h
    · simp at h

/-- A list of deletions, as the planner issues it. -/
theorem deleteLinks_cascade (names : List String) (s : ActualState) (nodup : names.Nodup)
    (anchored : ∀ name ∈ names, ∃ p, (device s name).parent = some p ∧
      (device s p).parent = none ∧ p ∉ names) :
    ∃ removed s', runAll fakeApply (names.map Op.deleteLink) s = (.ok (), s') ∧
      Removes removed s s' ∧ Cascade s names removed := by
  have hdelete : DeletesCascading (fun name => fakeApply (.deleteLink name)) s.links.size :=
    fun name t _ hname => deleteLink_cascade name t hname
  obtain ⟨removed, s', hrun, hr, cascade⟩ := deleteEach_cascade hdelete names s le_rfl nodup anchored
  exact ⟨removed, s', runAll_deleteLinks hrun, hr, cascade⟩

/-- A cascade depends only on which links exist and on what they sit. -/
theorem Cascade.congr {names removed : List String} (h : Cascade s names removed)
    (hparent : ∀ name, (device s' name).parent = (device s name).parent)
    (hsome : ∀ name, (device s' name).link.isSome = (device s name).link.isSome) :
    Cascade s' names removed where
  self := h.self
  exist name hn := by rw [hsome, h.exist name hn]
  reason name hn := by
    rw [hparent]
    exact h.reason name hn
  closed name p hp hin := h.closed name p (by rw [← hparent, hp]) hin

end Cascades

section Configure

/-- A bridge as ConfigureBridge leaves it. -/
def BridgeSettings.configure (b : BridgeSettings) : BridgeSettings :=
  { b with vlanFiltering := true, defaultPvid := 0, mstEnabled := true }

/-- A port as ConfigureBridge leaves it. -/
def Device.dropDefault (d : Device) (bridge : String) (old : UInt16) : Device :=
  if d.enslavedTo bridge then { d with vlans := SwitchNet.dropDefault old d.vlans } else d

/-- Whether a port of the bridge still has entries once the default is dropped. -/
def entriesRemain (s : ActualState) (bridge : String) (old : UInt16) : Prop :=
  ∃ dev, (device s dev).enslavedTo bridge = true ∧
    (dropDefault old (device s dev).vlans).isEmpty = false

theorem dropDefault_empty (old : UInt16) : dropDefault old ∅ = ∅ := by
  simp [dropDefault]

variable (bridge : String) (old : UInt16)

/-- ConfigureBridge's loop, over links that are listed once each. -/
theorem foldl_configurePort (links : List (String × Link)) (vlans : BTreeMap String VlanMap)
    (found : Bool) (nodup : (links.map Prod.fst).Nodup) :
    (∀ dev : String, (links.foldl (configurePort bridge old) (vlans, found)).1.getD dev ∅ =
      if ∃ e ∈ links, e.1 = dev ∧ e.2.enslavedTo bridge = true
      then dropDefault old (vlans.getD dev ∅) else vlans.getD dev ∅) ∧
    ((links.foldl (configurePort bridge old) (vlans, found)).2 = true ↔ found = true ∨
      ∃ e ∈ links, e.2.enslavedTo bridge = true ∧
        (dropDefault old (vlans.getD e.1 ∅)).isEmpty = false) := by
  induction links generalizing vlans found with
  | nil => simp
  | cons e rest ih =>
    rw [List.map_cons, List.nodup_cons] at nodup
    obtain ⟨hnew, nodup⟩ := nodup
    have hfresh : ∀ x ∈ rest, x.1 ≠ e.1 := fun x hx heq =>
      hnew (by rw [← heq]; exact List.mem_map_of_mem hx)
    have hstep : (∀ dev : String, (configurePort bridge old (vlans, found) e).1.getD dev ∅ =
        if e.1 = dev ∧ e.2.enslavedTo bridge = true
        then dropDefault old (vlans.getD dev ∅) else vlans.getD dev ∅) ∧
        ((configurePort bridge old (vlans, found) e).2 = true ↔ found = true ∨
          e.2.enslavedTo bridge = true ∧ (dropDefault old (vlans.getD e.1 ∅)).isEmpty = false) := by
      unfold configurePort
      by_cases he : e.2.enslavedTo bridge = true
      · cases hv : vlans[e.1]? with
        | none =>
          have hempty : vlans.getD e.1 ∅ = ∅ := by simp [BTreeMap.getD_eq, hv]
          simp only [he, if_true, and_true, true_and, hempty, dropDefault_empty]
          refine ⟨fun dev => ?_, by simp⟩
          split
          · next heq => rw [← heq, hempty, dropDefault_empty]
          · rfl
        | some v =>
          have hsome : vlans.getD e.1 ∅ = v := by simp [BTreeMap.getD_eq, hv]
          simp only [he, if_true, and_true, true_and, hsome]
          refine ⟨fun dev => ?_, by simp⟩
          rw [ExtTreeMap.getD_insert]
          simp only [Std.compare_eq_iff_eq]
          split
          · next heq => rw [← heq, hsome]
          · rfl
      · simp [he]
    obtain ⟨hmap, hfound⟩ := ih (configurePort bridge old (vlans, found) e).1
      (configurePort bridge old (vlans, found) e).2 nodup
    simp only [List.foldl_cons]
    refine ⟨fun dev => ?_, ?_⟩
    · rw [hmap dev, hstep.1 dev]
      by_cases hdev : e.1 = dev
      · have hno : ¬ ∃ x ∈ rest, x.1 = dev ∧ x.2.enslavedTo bridge = true := by
          rintro ⟨x, hx, hxe, -⟩
          exact hfresh x hx (by rw [hxe, hdev])
        simp only [hno, if_false, hdev, true_and, List.mem_cons, exists_eq_or_imp, or_false]
      · simp only [hdev, false_and, if_false, List.mem_cons, exists_eq_or_imp, false_or]
    · rw [hfound, hstep.2]
      have hkeep : ∀ x ∈ rest, (configurePort bridge old (vlans, found) e).1.getD x.1 ∅ =
          vlans.getD x.1 ∅ := by
        intro x hx
        rw [hstep.1, if_neg]
        exact fun h => hfresh x hx h.1.symm
      simp only [List.mem_cons, exists_eq_or_imp, or_assoc]
      refine or_congr_right (or_congr_right (exists_congr fun x => ?_))
      refine and_congr_right fun hx => ?_
      rw [hkeep x hx]

theorem enslaved_iff (s : ActualState) (dev : String) :
    (∃ e ∈ s.links.toList, e.1 = dev ∧ e.2.enslavedTo bridge = true) ↔
      (device s dev).enslavedTo bridge = true := by
  simp only [Prod.exists, ExtTreeMap.mem_toList_iff_getElem?_eq_some, Device.enslavedTo,
    device_link, Option.any_eq_true]
  constructor
  · rintro ⟨_, l, hl, rfl, he⟩
    exact ⟨l, hl, he⟩
  · rintro ⟨l, hl, he⟩
    exact ⟨dev, l, hl, rfl, he⟩

/-- ConfigureBridge on a bridge: what it does to every device, also when it fails,
and when it fails. -/
theorem configureBridge_effect (s : ActualState) (b : BridgeSettings) (up : Bool)
    (master : Option String) (hb : s.links[bridge]? = some ⟨.bridge b, up, master⟩) :
    (∀ dev, device (fakeApply (.configureBridge bridge) s).2 dev =
      (if dev = bridge
        then { device s dev with link := some ⟨.bridge b.configure, up, master⟩ }
        else device s dev).dropDefault bridge b.defaultPvid) ∧
    ((fakeApply (.configureBridge bridge) s).1 = .ok () ↔
      b.mstEnabled = true ∨ ¬ entriesRemain s bridge b.defaultPvid) := by
  let s₁ : ActualState := { s with links := s.links.insert bridge ⟨.bridge b.configure, up, master⟩ }
  have hview : ∀ dev, device s₁ dev = if dev = bridge
      then { device s dev with link := some ⟨.bridge b.configure, up, master⟩ } else device s dev := by
    intro dev
    rw [device_insert_link]
    split
    · next h => rw [h]
    · rfl
  have henslaved : ∀ dev, (device s₁ dev).enslavedTo bridge = (device s dev).enslavedTo bridge := by
    intro dev
    rw [hview]
    split
    · next h => simp [Device.enslavedTo, h, device_link, hb, Link.enslavedTo]
    · rfl
  obtain ⟨hmap, hfound⟩ := foldl_configurePort bridge b.defaultPvid s₁.links.toList s.bridgeVlans
    false s₁.links.nodup_fst
  have hremain : (∃ e ∈ s₁.links.toList, e.2.enslavedTo bridge = true ∧
      (dropDefault b.defaultPvid (s.bridgeVlans.getD e.1 ∅)).isEmpty = false) ↔
      entriesRemain s bridge b.defaultPvid := by
    constructor
    · rintro ⟨e, he, hs, hne⟩
      refine ⟨e.1, ?_, hne⟩
      rw [← henslaved, ← enslaved_iff]
      exact ⟨e, he, rfl, hs⟩
    · rintro ⟨dev, hs, hne⟩
      rw [← henslaved, ← enslaved_iff] at hs
      obtain ⟨e, he, rfl, hs⟩ := hs
      exact ⟨e, he, hs, hne⟩
  simp only [Bool.false_eq_true, false_or, hremain] at hfound
  have hlast : ∀ dev, device { s₁ with bridgeVlans :=
      (s₁.links.toList.foldl (configurePort bridge b.defaultPvid) (s.bridgeVlans, false)).1 } dev =
      (device s₁ dev).dropDefault bridge b.defaultPvid := by
    intro dev
    have hvlans := hmap dev
    simp only [enslaved_iff] at hvlans
    unfold Device.dropDefault
    by_cases he : (device s₁ dev).enslavedTo bridge = true
    · rw [if_pos he] at hvlans ⊢
      simp only [device, hvlans]
      rfl
    · rw [if_neg he] at hvlans ⊢
      simp only [device, hvlans]
      rfl
  have happly : fakeApply (.configureBridge bridge) s =
      if !b.mstEnabled &&
        (s₁.links.toList.foldl (configurePort bridge b.defaultPvid) (s.bridgeVlans, false)).2
      then fail "Device or resource busy: MST mode can't be changed while VLANs exist"
        { s₁ with bridgeVlans :=
          (s₁.links.toList.foldl (configurePort bridge b.defaultPvid) (s.bridgeVlans, false)).1 }
      else (.ok (), { s₁ with bridgeVlans :=
        (s₁.links.toList.foldl (configurePort bridge b.defaultPvid) (s.bridgeVlans, false)).1 }) := by
    simp only [fakeApply, applyConfigureBridge, hb]
    rfl
  rw [happly]
  refine ⟨fun dev => ?_, ?_⟩
  · rw [← hview, ← hlast dev]
    split <;> rfl
  · rw [← hfound]
    cases b.mstEnabled <;> split <;> simp_all [fail]

theorem configureBridge_cases (s : ActualState) :
    (∃ b up master, s.links[bridge]? = some ⟨.bridge b, up, master⟩) ∨
      ∃ e, fakeApply (.configureBridge bridge) s = (.error e, s) := by
  simp only [fakeApply, applyConfigureBridge]
  split
  · next b up master hl => exact Or.inl ⟨b, up, master, hl⟩
  · exact Or.inr ⟨_, rfl⟩

end Configure

theorem configureBridge_ok {bridge : String}
    (h : fakeApply (.configureBridge bridge) s = (.ok (), s')) :
    ∃ b up master, s.links[bridge]? = some ⟨.bridge b, up, master⟩ ∧ ∀ dev, device s' dev =
      (if dev = bridge
        then { device s dev with link := some ⟨.bridge b.configure, up, master⟩ }
        else device s dev).dropDefault bridge b.defaultPvid := by
  rcases configureBridge_cases bridge s with ⟨b, up, master, hl⟩ | ⟨e, he⟩
  · have heffect := (configureBridge_effect bridge s b up master hl).1
    rw [h] at heffect
    exact ⟨b, up, master, hl, heffect⟩
  · rw [he] at h
    cases h

end ClixonSwitch.Source.SwitchNet
