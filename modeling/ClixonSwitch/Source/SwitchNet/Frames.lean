import ClixonSwitch.Source.SwitchNet.Removal

/-!
# What an operation leaves alone

Frames of the kernel model that hold whether an operation succeeds or is refused. Most
operations touch no device but their own. ConfigureBridge also reaches the ports of the
bridge, and DeleteLink the VLAN links on the link and the ports of what is deleted; they
spare any set of devices that is closed under parents and does not hold their own.
-/
namespace ClixonSwitch.Source.SwitchNet
open Std Lib Source.SwitchModel

/-- Operations that reach beyond their own device. -/
def Op.spreads : Op → Bool
  | .configureBridge _ => true
  | .deleteLink _ => true
  | _ => false

section Elsewhere
variable {s : ActualState} {dev name : String}

theorem applySetMaster_elsewhere (h : dev ≠ name) (master : Option String) :
    device (applySetMaster name master s).2 dev = device s dev := by
  unfold applySetMaster
  split
  · rfl
  · split
    · rfl
    · simp only [device, BTreeMap.getD_eq, ExtTreeMap.getElem?_insert, Std.compare_eq_iff_eq,
        Ne.symm h, if_false, Device.mk.injEq, true_and, and_true]
      split <;> simp [Ne.symm h, ExtTreeMap.getElem?_insert, ExtTreeMap.getElem?_erase]

theorem applyAddAddress_elsewhere (h : dev ≠ name) (p : Ipv4Prefix) :
    device (applyAddAddress name p s).2 dev = device s dev := by
  have hinsert := fun addresses => device_insert_addresses s name dev addresses
  simp only [if_neg h] at hinsert
  unfold applyAddAddress
  split
  · rfl
  · split
    · rfl
    · dsimp only
      split <;> exact hinsert _

theorem fakeApply_elsewhere {op : Op} (hop : op.spreads = false) (h : dev ≠ op.target) :
    device (fakeApply op s).2 dev = device s dev := by
  have hlink := fun name link (hne : dev ≠ name) => (device_insert_link s name dev link).trans (if_neg hne)
  have hvlans := fun name vlans (hne : dev ≠ name) =>
    (device_insert_vlans s name dev vlans).trans (if_neg hne)
  cases op with
  | configureBridge name => cases hop
  | deleteLink name => cases hop
  | createBridge name =>
    simp only [fakeApply]
    split
    · rfl
    · exact hlink name _ h
  | createVlan name parent id =>
    simp only [fakeApply]
    split
    · rfl
    · split
      · rfl
      · exact hlink name _ h
  | setBridgeStp name on =>
    simp only [fakeApply, applySetBridgeStp]
    split
    · exact hlink name _ h
    · rfl
  | setMaster name master => exact applySetMaster_elsewhere h master
  | setUp name up =>
    simp only [fakeApply, applySetUp]
    split
    · exact hlink name _ h
    · rfl
  | addBridgeVlan name vid flags =>
    simp only [fakeApply, applyAddBridgeVlan]
    split
    · rfl
    · split
      · rfl
      · exact hvlans name _ h
  | delBridgeVlan name vid =>
    simp only [fakeApply, applyDelBridgeVlan]
    split
    · split
      · exact hvlans name _ h
      · rfl
    · rfl
  | addAddress name p => exact applyAddAddress_elsewhere h p
  | delAddress name p =>
    simp only [fakeApply, applyDelAddress]
    split <;> exact (device_erase_address s name dev p).trans (if_neg h)

end Elsewhere

section Links
variable {s t : ActualState}

/-- A kind stays as it is, or a bridge stays a bridge, which gets spanning tree only if that is
asked for. -/
def KeepsSort (op : Op) (dev : String) (kind kind' : LinkKind) : Prop :=
  kind' = kind ∨ ∃ b b', kind = .bridge b ∧ kind' = .bridge b' ∧
    (b'.stp = b.stp ∨ b'.stp = .off ∨ op = .setBridgeStp dev true)

/-- A new link is no switch port, and a bridge without spanning tree. -/
def LinkKind.isPlain : LinkKind → Bool
  | .dsa _ => false
  | .bridge b => b.stp == .off
  | _ => true

/-- What has become of the link of a device, unless links were deleted. -/
inductive LinkStep (op : Op) (s t : ActualState) (dev : String) : Prop where
  | same (link : t.links[dev]? = s.links[dev]?)
  | changed (l l' : Link) (before : s.links[dev]? = some l) (after : t.links[dev]? = some l')
      (kind : KeepsSort op dev l.kind l'.kind)
      (master : l'.master = l.master ∨ ∃ m, op = .setMaster dev m)
  | created (kind : LinkKind) (before : s.links[dev]? = none)
      (after : t.links[dev]? = some (newLink kind)) (plain : kind.isPlain = true)

theorem linkStep_insert {op : Op} {name : String} {link : Link}
    (hlinks : t.links = s.links.insert name link)
    (hstep : ∀ l, s.links[name]? = some l →
      KeepsSort op name l.kind link.kind ∧
        (link.master = l.master ∨ ∃ m, op = .setMaster name m))
    (hnew : s.links[name]? = none → ∃ kind, link = newLink kind ∧ kind.isPlain = true)
    (dev : String) : LinkStep op s t dev := by
  by_cases hdev : dev = name
  · subst hdev
    have hafter : t.links[dev]? = some link := by
      rw [hlinks]
      simp
    cases hl : s.links[dev]? with
    | none =>
      obtain ⟨kind, rfl, hkind⟩ := hnew hl
      exact .created kind hl hafter hkind
    | some l =>
      obtain ⟨hkind, hmaster⟩ := hstep l hl
      exact .changed l link hl hafter hkind hmaster
  · refine .same ?_
    rw [hlinks]
    simp [ExtTreeMap.getElem?_insert, Ne.symm hdev]

theorem createLink_linkStep {op : Op} {name : String} {kind : LinkKind}
    (hnone : s.links.contains name = false) (hkind : kind.isPlain = true) (dev : String) :
    LinkStep op s (applyCreateLink name kind s) dev := by
  have hlink : s.links[name]? = none := by
    rw [BTreeMap.contains_eq] at hnone
    simpa only [Option.isSome_eq_false_iff, Option.isNone_iff_eq_none] using hnone
  refine linkStep_insert rfl (fun l hl => ?_) (fun _ => ⟨kind, rfl, hkind⟩) dev
  rw [hlink] at hl
  cases hl

/-- A change of one link that keeps its sort. -/
theorem updateLink_linkStep {op : Op} {name : String} {l link : Link}
    (hlinks : t.links = s.links.insert name link) (hl : s.links[name]? = some l)
    (hkind : KeepsSort op name l.kind link.kind)
    (hmaster : link.master = l.master ∨ ∃ m, op = .setMaster name m) (dev : String) :
    LinkStep op s t dev := by
  refine linkStep_insert hlinks (fun l' hl' => ?_) (fun hnone => ?_) dev
  · rw [hl] at hl'
    cases hl'
    exact ⟨hkind, hmaster⟩
  · rw [hl] at hnone
    cases hnone

/-- Whether it succeeds or not, an operation other than a deletion keeps the sort of every
link. -/
theorem fakeApply_linkStep {op : Op} (hop : ∀ name, op ≠ .deleteLink name) (s : ActualState)
    (dev : String) : LinkStep op s (fakeApply op s).2 dev := by
  cases op with
  | deleteLink name => exact absurd rfl (hop name)
  | createBridge name =>
    simp only [fakeApply]
    split
    · exact .same rfl
    · next h => exact createLink_linkStep (Bool.eq_false_iff.mpr h) rfl dev
  | createVlan name parent id =>
    simp only [fakeApply]
    split
    · exact .same rfl
    · next h =>
      split
      · exact .same rfl
      · exact createLink_linkStep (Bool.eq_false_iff.mpr h) rfl dev
  | configureBridge name =>
    simp only [fakeApply, applyConfigureBridge]
    split
    · next b up master hl =>
      split
      · refine updateLink_linkStep rfl hl ?_ ?_ dev
        · exact Or.inr ⟨_, _, rfl, rfl, Or.inl rfl⟩
        · exact Or.inl rfl
      · refine updateLink_linkStep rfl hl ?_ ?_ dev
        · exact Or.inr ⟨_, _, rfl, rfl, Or.inl rfl⟩
        · exact Or.inl rfl
    · exact .same rfl
  | setBridgeStp name on =>
    simp only [fakeApply, applySetBridgeStp]
    split
    · next b up master hl =>
      refine updateLink_linkStep rfl hl ?_ ?_ dev
      · cases on with
        | true => exact Or.inr ⟨_, _, rfl, rfl, Or.inr (Or.inr rfl)⟩
        | false => exact Or.inr ⟨_, _, rfl, rfl, Or.inr (Or.inl rfl)⟩
      · exact Or.inl rfl
    · exact .same rfl
  | setMaster name master =>
    simp only [fakeApply, applySetMaster]
    split
    · exact .same rfl
    · split
      · exact .same rfl
      · next l hl =>
        refine updateLink_linkStep rfl hl ?_ ?_ dev
        · exact Or.inl rfl
        · exact Or.inr ⟨master, rfl⟩
  | setUp name up =>
    simp only [fakeApply, applySetUp]
    split
    · next l hl =>
      refine updateLink_linkStep rfl hl ?_ ?_ dev
      · exact Or.inl rfl
      · exact Or.inl rfl
    · exact .same rfl
  | addBridgeVlan name vid flags =>
    simp only [fakeApply, applyAddBridgeVlan]
    split
    · exact .same rfl
    · split <;> exact .same rfl
  | delBridgeVlan name vid =>
    simp only [fakeApply, applyDelBridgeVlan]
    split
    · split <;> exact .same rfl
    · exact .same rfl
  | addAddress name p =>
    simp only [fakeApply, applyAddAddress]
    split
    · exact .same rfl
    · split
      · exact .same rfl
      · split <;> exact .same rfl
  | delAddress name p =>
    simp only [fakeApply, applyDelAddress]
    split <;> exact .same rfl

theorem bridge_stays {op : Op} (hop : ∀ name, op ≠ .deleteLink name) {dev : String} {l : Link}
    (hl : s.links[dev]? = some l) (hbridge : l.kind.isBridge = true) :
    ∃ l' : Link, (fakeApply op s).2.links[dev]? = some l' ∧ l'.kind.isBridge = true := by
  cases fakeApply_linkStep hop s dev with
  | same link => exact ⟨l, link.trans hl, hbridge⟩
  | changed k k' before after kind _ =>
    rw [hl] at before
    cases before
    refine ⟨k', after, ?_⟩
    rcases kind with hsame | ⟨c, c', -, hc, -⟩
    · rwa [hsame]
    · rw [hc]
      rfl
  | created kind before _ _ =>
    rw [hl] at before
    cases before

end Links

section Deletion

/-- What a deletion with all that goes with it keeps, if each removed link and each
release of its ports does. -/
structure DeletionRule (R : ActualState → ActualState → Prop)
    (allowed : String → ActualState → Prop) : Prop where
  refl : ∀ s, R s s
  trans : ∀ {s t u}, R s t → R t u → R s u
  stable : ∀ {name s t}, R s t → allowed name s → allowed name t
  remove : ∀ {name s}, allowed name s → R s (removeLink name s)
  child : ∀ {name s child}, allowed name s →
    (device (removeLink name s) child).parent = some name → allowed child (removeLink name s)
  release : ∀ {name s}, allowed name s → R s (releasePorts name s)

variable {R : ActualState → ActualState → Prop} {allowed : String → ActualState → Prop}

theorem DeletionRule.deleteEach (rule : DeletionRule R allowed)
    {delete : String → ActualState → Applied}
    (hdelete : ∀ name t, allowed name t → R t (delete name t).2) (names : List String)
    {s : ActualState} (hnames : ∀ name ∈ names, allowed name s) :
    R s (SwitchNet.deleteEach delete names s).2 := by
  induction names generalizing s with
  | nil => exact rule.refl s
  | cons name rest ih =>
    have hfirst := hdelete name s (hnames name List.mem_cons_self)
    simp only [SwitchNet.deleteEach]
    split
    · next t heq =>
      rw [heq] at hfirst
      refine rule.trans hfirst (ih fun n hn => rule.stable hfirst (hnames n ?_))
      exact List.mem_cons_of_mem name hn
    · next e t heq =>
      rw [heq] at hfirst
      exact hfirst

theorem DeletionRule.applyDeleteLink (rule : DeletionRule R allowed) (fuel : Nat) (name : String)
    (s : ActualState) (h : allowed name s) : R s (SwitchNet.applyDeleteLink fuel name s).2 := by
  induction fuel generalizing name s with
  | zero => exact rule.refl s
  | succ fuel ih =>
    simp only [SwitchNet.applyDeleteLink]
    split
    · have hremoved := rule.remove h
      have hchildren := rule.deleteEach (fun n t => ih n t)
        (vlanChildren (removeLink name s) name) fun child hchild =>
          rule.child h ((mem_vlanChildren _ _ _).mp hchild)
      split
      · next t heq =>
        rw [heq] at hchildren
        have hbefore := rule.trans hremoved hchildren
        exact rule.trans hbefore (rule.release (rule.stable hbefore h))
      · next e t heq =>
        rw [heq] at hchildren
        exact rule.trans hremoved hchildren
    · exact rule.refl s

theorem DeletionRule.deleteLink (rule : DeletionRule R allowed) {name : String} {s : ActualState}
    (h : allowed name s) : R s (fakeApply (.deleteLink name) s).2 :=
  rule.applyDeleteLink s.links.size name s h

end Deletion

section Spared
variable {G : String → Prop} {s t u : ActualState}

/-- Of the devices in `G`, all keep their link and its kind, and those whose master is
in `G` too stay as they are. -/
structure Spared (G : String → Prop) (s t : ActualState) : Prop where
  kind : ∀ g, G g → (device t g).link.map Link.kind = (device s g).link.map Link.kind
  device : ∀ g, G g → (∀ m, (device s g).master = some m → G m) → device t g = device s g

theorem Spared.refl (G : String → Prop) (s : ActualState) : Spared G s s :=
  ⟨fun _ _ => rfl, fun _ _ _ => rfl⟩

theorem Spared.trans (h : Spared G s t) (h' : Spared G t u) : Spared G s u where
  kind g hg := (h'.kind g hg).trans (h.kind g hg)
  device g hg hm := by
    have hsame := h.device g hg hm
    rw [h'.device g hg (by rwa [hsame]), hsame]

theorem Device.parent_eq (d : Device) :
    d.parent = (d.link.map Link.kind).bind fun k =>
      match k with
      | .vlan parent _ => some parent
      | _ => none := by
  unfold Device.parent
  rcases d.link with - | ⟨kind, up, master⟩
  · rfl
  · cases kind <;> rfl

theorem Spared.parent (h : Spared G s t) {g : String} (hg : G g) :
    (SwitchNet.device t g).parent = (SwitchNet.device s g).parent := by
  rw [Device.parent_eq, Device.parent_eq, h.kind g hg]

theorem Device.master_of_enslavedTo {d : Device} {name : String} (h : d.enslavedTo name = true) :
    d.master = some name := by
  unfold Device.enslavedTo at h
  unfold Device.master
  cases hl : d.link with
  | none => simp [hl] at h
  | some l => simpa [hl, Link.enslavedTo] using h

/-- `G` has with every VLAN link the link that it is on. -/
def Rooted (G : String → Prop) (s : ActualState) : Prop :=
  ∀ g p, G g → (device s g).parent = some p → G p

theorem Rooted.spared (h : Rooted G s) (spared : Spared G s t) : Rooted G t := by
  intro g p hg hp
  rw [spared.parent hg] at hp
  exact h g p hg hp

theorem spared_elsewhere {op : Op} (hop : op.spreads = false) (h : ¬ G op.target) :
    Spared G s (fakeApply op s).2 := by
  have hsame : ∀ g, G g → device (fakeApply op s).2 g = device s g := by
    intro g hg
    refine fakeApply_elsewhere hop fun heq => h ?_
    rwa [← heq]
  exact ⟨fun g hg => by rw [hsame g hg], fun g hg _ => hsame g hg⟩

theorem spared_removeLink {name : String} (h : ¬ G name) : Spared G s (removeLink name s) := by
  have hsame : ∀ g, G g → device (removeLink name s) g = device s g := by
    intro g hg
    rw [device_removeLink, if_neg]
    rintro rfl
    exact h hg
  exact ⟨fun g hg => by rw [hsame g hg], fun g hg _ => hsame g hg⟩

theorem spared_releasePorts {name : String} (h : ¬ G name) : Spared G s (releasePorts name s) where
  kind g _ := by
    rw [device_releasePorts]
    split
    · rw [Device.released, Option.map_map]
      rfl
    · rfl
  device g hg hm := by
    rw [device_releasePorts, if_neg]
    exact fun henslaved => h (hm name (Device.master_of_enslavedTo henslaved))

/-- Links outside of `G` may be deleted. -/
theorem spared_deletion (G : String → Prop) :
    DeletionRule (Spared G) fun name s => Rooted G s ∧ ¬ G name where
  refl := Spared.refl G
  trans := Spared.trans
  stable spared h := ⟨h.1.spared spared, h.2⟩
  remove h := spared_removeLink h.2
  child h hparent := by
    have hrooted := h.1.spared (spared_removeLink h.2)
    exact ⟨hrooted, fun hg => h.2 (hrooted _ _ hg hparent)⟩
  release h := spared_releasePorts h.2

theorem deleteLink_spared {name : String} (rooted : Rooted G s) (h : ¬ G name) :
    Spared G s (fakeApply (.deleteLink name) s).2 :=
  (spared_deletion G).deleteLink ⟨rooted, h⟩

theorem configureBridge_spared {name : String} (h : ¬ G name) :
    Spared G s (fakeApply (.configureBridge name) s).2 := by
  rcases configureBridge_cases name s with ⟨b, up, master, hl⟩ | ⟨e, he⟩
  · obtain ⟨heffect, -⟩ := configureBridge_effect name s b up master hl
    have hne : ∀ g, G g → g ≠ name := by
      rintro g hg rfl
      exact h hg
    refine ⟨fun g hg => ?_, fun g hg hm => ?_⟩
    · rw [heffect g, if_neg (hne g hg), Device.dropDefault]
      split <;> rfl
    · rw [heffect g, if_neg (hne g hg), Device.dropDefault, if_neg]
      exact fun henslaved => h (hm name (Device.master_of_enslavedTo henslaved))
  · rw [he]
    exact Spared.refl G s

/-- Every operation on a device outside of `G` spares it. -/
theorem fakeApply_spared {op : Op} (rooted : Rooted G s) (h : ¬ G op.target) :
    Spared G s (fakeApply op s).2 := by
  cases op with
  | configureBridge name => exact configureBridge_spared h
  | deleteLink name => exact deleteLink_spared rooted h
  | _ => exact spared_elsewhere rfl h

end Spared

end ClixonSwitch.Source.SwitchNet
