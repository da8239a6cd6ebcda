import ClixonSwitch.Lib.Reorder
import ClixonSwitch.Source.SwitchModel.Accepted

/-!
# The order of list entries does not matter

Two configurations with the same entries in another order, in every list and leaf-list
that has no order of its own, are both rejected or mean the same. Every loop of the
validation runs over entries with different keys, or reports a key that it meets twice.
-/
namespace ClixonSwitch.Guarantees
open Std Lib Lib.Collect Source.SwitchModel

section Relations

/-- `trunk-vlans` in another order. -/
def ReorderedVlans (c c' : SwitchedVlanConfig) : Prop :=
  ∃ trunk, c.trunkVlans.Perm trunk ∧ c' = { c with trunkVlans := trunk }

structure ReorderedInterface (i i' : Interface) : Prop where
  name : i'.name = i.name
  config : i'.config = i.config
  routedVlan : i'.routedVlan = i.routedVlan
  ethernet : Option.Rel (fun e e' => Option.Rel (fun v v' => ReorderedVlans v.config v'.config)
    e.switchedVlan e'.switchedVlan) i.ethernet i'.ethernet

/-- The ports of a group in another order. -/
def ReorderedGroup (g g' : Group) : Prop :=
  ∃ ports, g.config.port.Perm ports ∧ g' = { g with config := { g.config with port := ports } }

def ReorderedTree (t t' : Option TreeInterfaces) : Prop :=
  Option.Rel (fun x y => x.interface.Perm y.interface) t t'

structure ReorderedRstp (r r' : Rstp) : Prop where
  config : r'.config = r.config
  interfaces : ReorderedTree r.interfaces r'.interfaces

structure ReorderedMsti (m m' : MstInstance) : Prop where
  mstId : m'.mstId = m.mstId
  config : ∃ vlan, m.config.vlan.Perm vlan ∧ m'.config = { m.config with vlan }
  interfaces : ReorderedTree m.interfaces m'.interfaces

structure ReorderedMstp (m m' : Mstp) : Prop where
  config : m'.config = m.config
  mstInstances : Option.Rel (fun x y => Shuffled ReorderedMsti x.mstInstance y.mstInstance)
    m.mstInstances m'.mstInstances
  interfaces : ReorderedTree m.interfaces m'.interfaces

structure ReorderedStp (s s' : StpConfig) : Prop where
  global : s'.global = s.global
  rstp : Option.Rel ReorderedRstp s.rstp s'.rstp
  mstp : Option.Rel ReorderedMstp s.mstp s'.mstp
  interfaces : Option.Rel (fun x y => x.interface.Perm y.interface) s.interfaces s'.interfaces

/-- The members of a VACM group in another order. -/
def ReorderedVacmGroup (g g' : VacmGroup) : Prop :=
  ∃ members, g.member.Perm members ∧ g' = { g with member := members }

structure ReorderedSnmp (s s' : SnmpConfig) : Prop where
  engine : s'.engine = s.engine
  usm : Option.Rel (fun u u' => Option.Rel (fun l l' => l.user.Perm l'.user)
    u.localUsers u'.localUsers) s.usm s'.usm
  vacm : Option.Rel (fun v v' => v.view.Perm v'.view ∧
    Shuffled ReorderedVacmGroup v.group v'.group) s.vacm s'.vacm

/-- The same configuration with its lists in another order. -/
structure Reordered (c c' : Config) : Prop where
  interfaces : Option.Rel (fun x y => Shuffled ReorderedInterface x.interface y.interface)
    c.interfaces c'.interfaces
  vlans : Option.Rel (fun x y => x.vlan.Perm y.vlan) c.vlans c'.vlans
  switch : c'.switch = c.switch
  portBasedVlans : Option.Rel (fun x y => Shuffled ReorderedGroup x.group y.group)
    c.portBasedVlans c'.portBasedVlans
  stp : Option.Rel ReorderedStp c.stp c'.stp
  system : c'.system = c.system
  snmp : Option.Rel ReorderedSnmp c.snmp c'.snmp

/-- No list of `/stp` has a key twice. -/
structure StpDistinctKeys (s : StpConfig) : Prop where
  rstp : ((treeInterfaces (s.rstp.bind Rstp.interfaces)).map TreeInterface.name).Nodup
  cist : ((treeInterfaces (s.mstp.bind Mstp.interfaces)).map TreeInterface.name).Nodup
  mstis : ((instancesOf s).filterMap MstInstance.id).Nodup
  msti : ∀ m ∈ instancesOf s, ((treeInterfaces m.interfaces).map TreeInterface.name).Nodup
  features : (((s.interfaces.map FeatureInterfaces.interface).getD []).map
    FeatureInterface.name).Nodup

structure SnmpDistinctKeys (s : SnmpConfig) : Prop where
  users : ((usmUsers s).map User.name).Nodup
  views : (((s.vacm.map Vacm.view).getD []).map VacmView.name).Nodup
  groups : (((s.vacm.map Vacm.group).getD []).map VacmGroup.name).Nodup

/-- No list has a key twice. The key of a VLAN, a group or an MSTI is its leaf under
`config`, which the key leaf of the list refers to, and an entry with neither is rejected. -/
structure DistinctListKeys (c : Config) : Prop extends DistinctKeys c where
  groups : (c.groups.filterMap Group.key).Nodup
  stp : ∀ s, c.stp = some s → StpDistinctKeys s
  snmp : ∀ s, c.snmp = some s → SnmpDistinctKeys s

end Relations

section Vlans

theorem vlanStatus_steady (id : UInt16) (status : Option String) :
    (vlanStatus id status).errors ≠ [] ∨ ∃ active, vlanStatus id status = pure active := by
  unfold vlanStatus
  split
  · exact Or.inr ⟨_, rfl⟩
  · exact Or.inr ⟨_, rfl⟩
  · exact Or.inr ⟨_, rfl⟩
  · exact Or.inl (List.cons_ne_nil _ _)

theorem declareVlan_steady (entry : VlanEntry) :
    Steady (fun w => ∃ k v, entry.key = some k ∧
      w = fun vlans : BTreeMap UInt16 Vlan => vlans.insert k v) declareVlan entry := by
  cases hkey : entry.key with
  | none =>
    refine Or.inl fun vlans => ?_
    simp [declareVlan, hkey]
  | some k =>
    cases hid : checkVlanId k.toUInt64 with
    | error e =>
      refine Or.inl fun vlans => ?_
      simp [declareVlan, hkey, hid]
    | ok id =>
      obtain rfl : id = k := (toUInt64_inj id k).mp (checkVlanId_ok hid).1
      rcases vlanStatus_steady id entry.config.status with hbad | ⟨active, hactive⟩
      · refine Or.inl fun vlans => ?_
        simp [declareVlan, hkey, hid, hbad]
      · refine Or.inr ⟨_, ⟨id, { name := entry.config.name, active }, rfl, rfl⟩, fun vlans => ?_⟩
        simp only [declareVlan, hkey, hid, hactive]
        rfl

theorem declareVlan_commute {a b : VlanEntry} (h : Apart VlanEntry.key a b) :
    Commute declareVlan a b := by
  refine commute_of_steady (declareVlan_steady a) (declareVlan_steady b) ?_
  rintro _ _ ⟨k, v, ha, rfl⟩ ⟨k', v', hb, rfl⟩ vlans
  have hne : k ≠ k' := by
    rintro rfl
    exact h k ha hb
  exact insert_comm hne vlans v v'

end Vlans

section Groups
variable {interfaces interfaces' : List Interface} {switchPorts : BTreeSet String}

/-- A port with the group that it is listed in. -/
def memberStep (interfaces : List Interface) (switchPorts : BTreeSet String)
    (groupOfPort : BTreeMap String UInt16) (e : UInt16 × String) :
    Collect Error (BTreeMap String UInt16) :=
  groupPort interfaces switchPorts e.1 groupOfPort e.2

theorem memberStep_commute (interfaces : List Interface) (switchPorts : BTreeSet String)
    (a b : UInt16 × String) : Commute (memberStep interfaces switchPorts) a b := by
  have hbad : ∀ e : UInt16 × String,
      (!(interfaces.any fun i => i.name == e.2 && i.isPort) || !switchPorts.contains e.2) = true →
        ∀ m, (memberStep interfaces switchPorts m e).errors ≠ [] := by
    intro e he m
    simp only [memberStep, groupPort, he, if_true]
    exact List.cons_ne_nil _ _
  intro m
  by_cases ha : (!(interfaces.any fun i => i.name == a.2 && i.isPort) ||
      !switchPorts.contains a.2) = true
  · refine Agrees.of_errors ?_ ?_ <;> simp [hbad a ha]
  · by_cases hb : (!(interfaces.any fun i => i.name == b.2 && i.isPort) ||
        !switchPorts.contains b.2) = true
    · refine Agrees.of_errors ?_ ?_ <;> simp [hbad b hb]
    · have hinserts := insertUnique_commute (ε := Error) (fun e : UInt16 × String => e.2)
        (fun e => e.1) (fun e other => Error.global
          s!"port-based-vlans group {e.1}: {e.2} is already a member of group {other}")
        (a := a) (b := b) m
      simpa only [memberStep, groupPort, ha, hb, Bool.false_eq_true, if_false] using hinserts

def portsOfGroup (id : UInt16) (g : Group) : List (UInt16 × String) := g.config.port.map (id, ·)

/-- The effect of a group whose ports are those of `groupOfPort`. -/
def withGroup (domain : Domain) (id : UInt16) (g : Group) (groupOfPort : BTreeMap String UInt16) :
    Domain :=
  { domain with
    vlans := domain.vlans.insert id { name := g.config.name, active := true }, groupOfPort }

/-- A group is rejected as such, or its ports are added one by one. -/
theorem declareGroup_cases (interfaces : List Interface) (switchPorts : BTreeSet String) (g : Group) :
    (∀ domain, (declareGroup interfaces switchPorts domain g).errors ≠ []) ∨
      ∃ id, g.key = some id ∧ ∀ domain, declareGroup interfaces switchPorts domain g =
        (portsOfGroup id g).foldlM (memberStep interfaces switchPorts) domain.groupOfPort >>=
          fun m => pure (withGroup domain id g m) := by
  cases hkey : g.key with
  | none =>
    refine Or.inl fun domain => ?_
    simp [declareGroup, hkey]
  | some k =>
    cases hid : checkVlanId k.toUInt64 with
    | error e =>
      refine Or.inl fun domain => ?_
      simp [declareGroup, hkey, hid]
    | ok id =>
      obtain rfl : id = k := (toUInt64_inj id k).mp (checkVlanId_ok hid).1
      refine Or.inr ⟨id, rfl, fun domain => ?_⟩
      simp only [declareGroup, hkey, hid, portsOfGroup, List.foldlM_map]
      rfl

theorem declareGroup_commute {a b : Group} (h : Apart Group.key a b) :
    Commute (declareGroup interfaces switchPorts) a b := by
  intro domain
  rcases declareGroup_cases interfaces switchPorts a with ha | ⟨id, hid, ha⟩
  · refine Agrees.of_errors ?_ ?_ <;> simp [ha]
  · rcases declareGroup_cases interfaces switchPorts b with hb | ⟨id', hid', hb⟩
    · refine Agrees.of_errors ?_ ?_ <;> simp [hb]
    · have hne : id ≠ id' := by
        rintro rfl
        exact h id hid hid'
      have hsame : ∀ m m', withGroup (withGroup domain id a m) id' b m' =
          withGroup (withGroup domain id' b m) id a m' := by
        intro m m'
        simp only [withGroup, insert_comm hne]
      have hperm : (portsOfGroup id a ++ portsOfGroup id' b).Perm
          (portsOfGroup id' b ++ portsOfGroup id a) := List.perm_append_comm
      have hmembers := foldlM_agrees_of_commute hperm
        (memberStep_commute interfaces switchPorts) domain.groupOfPort
      rw [List.foldlM_append, List.foldlM_append] at hmembers
      have hfinish := hmembers.bind fun m => Agrees.of_eq (congrArg pure (hsame domain.groupOfPort m))
      simp only [ha, hb, bind_assoc, pure_bind] at hfinish ⊢
      exact hfinish

theorem declareGroup_agrees {g g' : Group} (h : ReorderedGroup g g')
    (same : ∀ port, (interfaces'.any fun i => i.name == port && i.isPort) =
      interfaces.any fun i => i.name == port && i.isPort) (domain : Domain) :
    Agrees (declareGroup interfaces switchPorts domain g)
      (declareGroup interfaces' switchPorts domain g') := by
  have hport : groupPort interfaces' switchPorts = groupPort interfaces switchPorts := by
    funext id m port
    simp only [groupPort, same]
  obtain ⟨ports, hperm, rfl⟩ := h
  have hmembers : ∀ id, Agrees (g.config.port.foldlM (groupPort interfaces switchPorts id)
      domain.groupOfPort) (ports.foldlM (groupPort interfaces switchPorts id) domain.groupOfPort) := by
    intro id
    have hpairs := foldlM_agrees_of_commute (hperm.map (id, ·))
      (memberStep_commute interfaces switchPorts) domain.groupOfPort
    rwa [List.foldlM_map, List.foldlM_map] at hpairs
  cases hkey : g.key with
  | none =>
    have hkey' : Group.key { g with config := { g.config with port := ports } } = none := hkey
    simp only [declareGroup, hkey, hkey']
    exact Agrees.refl _
  | some k =>
    have hkey' : Group.key { g with config := { g.config with port := ports } } = some k := hkey
    cases hid : checkVlanId k.toUInt64 with
    | error e =>
      simp only [declareGroup, hkey, hkey', hid]
      exact Agrees.refl _
    | ok id =>
      simp only [declareGroup, hkey, hkey', hid, hport]
      exact (hmembers id).bind fun m => Agrees.refl _

end Groups

section Interfaces
variable {switchPorts : BTreeSet String} {domain : Domain}

theorem insertMany_comm (s : BTreeSet UInt16) (l l' : List UInt16) :
    (s.insertMany l).insertMany l' = (s.insertMany l').insertMany l := by
  refine ExtTreeSet.ext_mem fun k => ?_
  simp only [ExtTreeSet.mem_insertMany_list]
  tauto

theorem addTrunkEntry_commute (domain : Domain) (a b : Scalar) :
    Commute (addTrunkEntry domain) a b := by
  have hsteady : ∀ entry, Steady (fun w => ∃ ids : List UInt16, w = fun acc : Bool × BTreeSet UInt16 =>
      (acc.1, acc.2.insertMany ids)) (addTrunkEntry domain) entry := by
    intro entry
    cases h : trunkEntry entry domain with
    | error e =>
      refine Or.inl fun acc => ?_
      simp [addTrunkEntry, h]
    | ok ids =>
      refine Or.inr ⟨_, ⟨ids, rfl⟩, fun acc => ?_⟩
      simp only [addTrunkEntry, h]
  refine commute_of_steady (hsteady a) (hsteady b) ?_
  rintro _ _ ⟨ids, rfl⟩ ⟨ids', rfl⟩ acc
  simp only [insertMany_comm]

theorem switchedVlans_agrees {c c' : SwitchedVlanConfig} (h : ReorderedVlans c c')
    (domain : Domain) : Agrees (switchedVlans c domain) (switchedVlans c' domain) := by
  obtain ⟨trunk, hperm, rfl⟩ := h
  have hempty : trunk.isEmpty = c.trunkVlans.isEmpty := hperm.symm.isEmpty_eq
  have haccess : accessVlans { c with trunkVlans := trunk } domain = accessVlans c domain := by
    simp only [accessVlans, hempty]
  have htrunk : Agrees (trunkVlans c domain) (trunkVlans { c with trunkVlans := trunk } domain) := by
    simp only [trunkVlans, hempty]
    refine (Agrees.refl _).bind fun native => (Agrees.refl _).bind fun _ => ?_
    exact (foldlM_agrees_of_commute hperm (addTrunkEntry_commute domain) _).bind fun acc =>
      Agrees.refl _
  simp only [switchedVlans]
  split
  · exact Agrees.of_eq haccess.symm
  · exact Agrees.of_eq haccess.symm
  · exact htrunk
  · exact Agrees.refl _

variable {i i' : Interface} (h : ReorderedInterface i i')
include h

theorem ReorderedInterface.vlanConfig :
    Option.Rel ReorderedVlans i.vlanConfig i'.vlanConfig :=
  rel_map (rel_bind h.ethernet fun _ _ hrel => hrel) fun _ _ hrel => hrel

theorem ReorderedInterface.isPort : i'.isPort = i.isPort := by
  rw [Interface.isPort, Interface.isPort, h.config]

theorem portVlansOf_agrees (domain : Domain) :
    Agrees (portVlansOf i domain) (portVlansOf i' domain) := by
  have hsome : i'.vlanConfig.isSome = i.vlanConfig.isSome := isSome_eq_of_rel h.vlanConfig
  have hrel := h.vlanConfig
  unfold portVlansOf
  split
  · generalize i.vlanConfig = c, i'.vlanConfig = c' at hrel ⊢
    cases hrel with
    | none => exact Agrees.refl _
    | some hvlans => exact switchedVlans_agrees hvlans domain
  · rw [h.name, hsome]
    exact Agrees.refl _

theorem port_agrees (switchPorts : BTreeSet String)
    (domain : Domain) (p : Port) :
    port i switchPorts domain = .ok p ↔ port i' switchPorts domain = .ok p := by
  refine Agrees.require ?_ p
  rw [h.name, h.config, h.routedVlan]
  refine (Agrees.refl _).bind fun _ => (Agrees.refl _).bind fun _ => ?_
  exact (portVlansOf_agrees h domain).bind fun _ => Agrees.refl _

theorem svi_eq (switchPorts : BTreeSet String)
    (domain : Domain) : svi i' switchPorts domain = svi i switchPorts domain := by
  have hsome : i'.vlanConfig.isSome = i.vlanConfig.isSome := isSome_eq_of_rel h.vlanConfig
  simp only [svi, sviOf, h.name, h.config, h.routedVlan, hsome]

theorem addInterface_agrees (state : DesiredState) :
    Agrees (addInterface switchPorts domain state i) (addInterface switchPorts domain state i') := by
  unfold addInterface
  rw [h.config, h.name, svi_eq h]
  split
  · cases hp : port i switchPorts domain with
    | ok p =>
      rw [(port_agrees h switchPorts domain p).mp hp]
      exact Agrees.refl _
    | error messages =>
      cases hp' : port i' switchPorts domain with
      | ok p =>
        rw [(port_agrees h switchPorts domain p).mpr hp'] at hp
        cases hp
      | error messages' =>
        have hne : messages ≠ [] := by
          rintro rfl
          exact port_ne_error_nil i switchPorts domain hp
        have hne' : messages' ≠ [] := by
          rintro rfl
          exact port_ne_error_nil i' switchPorts domain hp'
        refine Agrees.of_errors ?_ ?_ <;> simp [hne, hne']
  · exact Agrees.refl _
  · exact Agrees.refl _
  · exact Agrees.refl _

omit h

/-- What an interface can add to the state: its own port or its own SVI. -/
inductive InterfaceEffect (name : String) : (DesiredState → DesiredState) → Prop where
  | port (p : Port) :
      InterfaceEffect name fun state => { state with ports := state.ports.insert name p }
  | svi (v : Svi) : InterfaceEffect name fun state => { state with svis := state.svis.insert name v }

theorem InterfaceEffect.comm {a b : String} (h : a ≠ b) {w w' : DesiredState → DesiredState}
    (hw : InterfaceEffect a w) (hw' : InterfaceEffect b w') (state : DesiredState) :
    w' (w state) = w (w' state) := by
  cases hw <;> cases hw' <;> simp only [insert_comm h]

theorem addInterface_steady (i : Interface) :
    Steady (InterfaceEffect i.name) (addInterface switchPorts domain) i := by
  unfold Steady addInterface
  split
  · cases hp : port i switchPorts domain with
    | ok p => exact Or.inr ⟨_, .port p, fun _ => rfl⟩
    | error messages =>
      refine Or.inl fun state hclean => port_ne_error_nil i switchPorts domain ?_
      simp only [errors_bind, errors_reportAll, errors_pure, List.append_nil,
        List.map_eq_nil_iff] at hclean
      rw [hp, hclean]
  · cases hs : svi i switchPorts domain with
    | ok v => exact Or.inr ⟨_, .svi v, fun _ => rfl⟩
    | error messages =>
      refine Or.inl fun state hclean => svi_ne_error_nil i switchPorts domain ?_
      simp only [errors_bind, errors_reportAll, errors_pure, List.append_nil,
        List.map_eq_nil_iff] at hclean
      rw [hs, hclean]
  · exact Or.inl fun _ => List.cons_ne_nil _ _
  · exact Or.inl fun _ => List.cons_ne_nil _ _

theorem addInterface_commute {a b : Interface} (h : a.name ≠ b.name) :
    Commute (addInterface switchPorts domain) a b :=
  commute_of_steady (addInterface_steady a) (addInterface_steady b)
    fun _ _ hw hw' state => hw.comm h hw' state

end Interfaces

section Stp
variable {ports : BTreeSet String}

/-- What `treePort` makes of the settings of its port. -/
def treePortChange (what : String) (i : TreeInterface) :
    Option TreePort → Collect String (Option TreePort)
  | none => do
    report s!"{what}: interface {i.name} is not a configured switch port"
    pure none
  | some port =>
    let port := { port with cost := i.config.cost }
    match i.config.portPriority with
    | none => pure (some port)
    | some p =>
      if p % 16 = 0 then pure (some { port with priority := p })
      else do
        report s!"{what}: interface {i.name}: port-priority {p} is not a multiple of 16"
        pure (some port)

theorem treePort_onKey (what : String) :
    OnKey TreeInterface.name (treePortChange what) (treePort what) := by
  intro m i
  unfold treePort treePortChange
  cases m[i.name]? with
  | none => rfl
  | some port =>
    cases i.config.portPriority with
    | none => rfl
    | some p =>
      dsimp only
      split <;> rfl

theorem tree_agrees {t t' : Option TreeInterfaces} (h : ReorderedTree t t')
    (distinct : ((treeInterfaces t).map TreeInterface.name).Nodup) (priority : Option UInt16)
    (ports : BTreeSet String) (what : String) :
    Agrees (tree priority t ports what) (tree priority t' ports what) := by
  have hperm : (treeInterfaces t).Perm (treeInterfaces t') := rel_getD h (.refl _)
  refine (Agrees.refl _).bind fun bridgePriority => ?_
  refine (foldlM_agrees_of_nodup hperm distinct (fun a b hne => ?_) _).bind fun _ => Agrees.refl _
  exact commute_of_onKey (treePort_onKey what) hne

def portFeatureChange (i : FeatureInterface) :
    Option PortFeatures → Collect String (Option PortFeatures)
  | none => do
    report s!"interfaces: interface {i.name} is not a configured switch port"
    pure none
  | some f => do
    let c := i.config
    let edge ← edgePort f.edge c.edgePort i.name
    let pointToPoint ← linkType f.pointToPoint c.linkType i.name
    let rootGuard ← rootGuard f.rootGuard c.guard i.name
    pure (some
      { edge, pointToPoint, rootGuard
        bpduGuard := c.bpduGuard.getD f.bpduGuard
        bpduFilter := c.bpduFilter.getD f.bpduFilter })

theorem portFeature_onKey : OnKey FeatureInterface.name portFeatureChange portFeature := by
  intro m i
  unfold portFeature portFeatureChange
  cases m[i.name]? with
  | none => rfl
  | some f =>
    simp only [bind_assoc, pure_bind]
    rfl

theorem portFeatures_agrees {s s' : StpConfig} (h : ReorderedStp s s') (keys : StpDistinctKeys s)
    (ports : BTreeSet String) : Agrees (portFeatures s ports) (portFeatures s' ports) := by
  have hperm : ((s.interfaces.map FeatureInterfaces.interface).getD []).Perm
      ((s'.interfaces.map FeatureInterfaces.interface).getD []) := rel_getD h.interfaces (.refl _)
  unfold portFeatures
  rw [h.global]
  exact foldlM_agrees_of_nodup hperm keys.features
    (fun a b hne => commute_of_onKey portFeature_onKey hne) _

/-- Adds one VLAN, with the MSTI that it is listed in. -/
def mapVlan (m : BTreeMap UInt16 UInt16) (e : UInt16 × UInt16) :
    Collect String (BTreeMap UInt16 UInt16) :=
  insertUnique m e.2 e.1 fun other =>
    some s!"mstp mst-instance {e.1}: VLAN {e.2} is already mapped to mst-instance {other}"

theorem mapVlan_commute (a b : UInt16 × UInt16) : Commute mapVlan a b :=
  insertUnique_commute (fun e : UInt16 × UInt16 => e.2) (fun e => e.1) fun e other =>
    s!"mstp mst-instance {e.1}: VLAN {e.2} is already mapped to mst-instance {other}"

/-- One `vlan` entry of an MSTI. -/
def mstiEntry (what : String) (vlans : BTreeSet UInt16) (entry : Scalar) :
    Collect String (BTreeSet UInt16) :=
  match vlanEntry entry with
  | .ok ids => pure (vlans.insertMany ids)
  | .error e => do
    report s!"{what}: {e}"
    pure vlans

theorem mstiEntry_commute (what : String) (a b : Scalar) : Commute (mstiEntry what) a b := by
  have hsteady : ∀ entry, Steady (fun w => ∃ ids : List UInt16, w = fun vlans : BTreeSet UInt16 =>
      vlans.insertMany ids) (mstiEntry what) entry := by
    intro entry
    cases h : vlanEntry entry with
    | error e =>
      refine Or.inl fun vlans => ?_
      simp [mstiEntry, h]
    | ok ids =>
      refine Or.inr ⟨_, ⟨ids, rfl⟩, fun vlans => ?_⟩
      simp only [mstiEntry, h]
  refine commute_of_steady (hsteady a) (hsteady b) ?_
  rintro _ _ ⟨ids, rfl⟩ ⟨ids', rfl⟩ vlans
  exact insertMany_comm vlans ids ids'

theorem mstiVlans_agrees {l l' : List Scalar} (h : l.Perm l') (what : String) :
    Agrees (mstiVlans what l) (mstiVlans what l') :=
  foldlM_agrees_of_commute h (mstiEntry_commute what) ∅

def instanceName (id : UInt16) : String := s!"mstp mst-instance {id}"

def mappedVlans (id : UInt16) (vlans : BTreeSet UInt16) : List (UInt16 × UInt16) :=
  vlans.toList.map (id, ·)

/-- An instance with an id: its VLANs, their mapping, its tree. -/
theorem mstInstance_eq {inst : MstInstance} {id : UInt16} (h : MstInstance.id inst = some id)
    (ports : BTreeSet String) (table : MstiTable) :
    mstInstance ports table inst = (do
      let vlans ← mstiVlans (instanceName id) inst.config.vlan
      let mstiOfVlan ← (mappedVlans id vlans).foldlM mapVlan table.mstiOfVlan
      let tree ← tree inst.config.bridgePriority inst.interfaces ports (instanceName id)
      pure { mstis := table.mstis.insert id { vlans, tree }, mstiOfVlan }) := by
  have hid : inst.config.mstId.or inst.mstId = some id := h
  simp only [mstInstance, hid, mappedVlans, List.foldlM_map]
  rfl

theorem mstInstance_report {inst : MstInstance} (h : MstInstance.id inst = none)
    (ports : BTreeSet String) (table : MstiTable) : (mstInstance ports table inst).errors ≠ [] := by
  have hid : inst.config.mstId.or inst.mstId = none := h
  simp [mstInstance, hid]

theorem mstInstance_commute {a b : MstInstance} (h : Apart MstInstance.id a b) :
    Commute (mstInstance ports) a b := by
  intro table
  cases ha : MstInstance.id a with
  | none => refine Agrees.of_errors ?_ ?_ <;> simp [mstInstance_report ha]
  | some id =>
    cases hb : MstInstance.id b with
    | none => refine Agrees.of_errors ?_ ?_ <;> simp [mstInstance_report hb]
    | some id' =>
      have hne : id ≠ id' := by
        rintro rfl
        exact h id ha hb
      have hperm : ∀ l l' : List (UInt16 × UInt16), (l ++ l').Perm (l' ++ l) :=
        fun _ _ => List.perm_append_comm
      -- The mapping sees the VLANs of both instances, in one order or the other.
      have hmap := foldlM_agrees_of_commute (hperm
        (mappedVlans id (mstiVlans (instanceName id) a.config.vlan).value)
        (mappedVlans id' (mstiVlans (instanceName id') b.config.vlan).value))
        mapVlan_commute table.mstiOfVlan
      rw [List.foldlM_append, List.foldlM_append] at hmap
      have hclean := hmap.clean
      have hvalue := hmap.value
      simp only [errors_bind, value_bind, List.append_eq_nil_iff] at hclean hvalue
      constructor
      · simp only [mstInstance_eq ha, mstInstance_eq hb, errors_bind, value_bind, value_pure,
          errors_pure, List.append_nil, List.append_eq_nil_iff]
        tauto
      · intro hall
        simp only [mstInstance_eq ha, mstInstance_eq hb, errors_bind, value_bind, value_pure,
          errors_pure, List.append_nil, List.append_eq_nil_iff] at hall
        simp only [mstInstance_eq ha, mstInstance_eq hb, value_bind, value_pure]
        rw [hvalue ⟨hall.1.2.1, hall.2.2.1⟩, insert_comm hne]

theorem mstInstance_agrees {m m' : MstInstance} (h : ReorderedMsti m m')
    (distinct : ((treeInterfaces m.interfaces).map TreeInterface.name).Nodup)
    (table : MstiTable) : Agrees (mstInstance ports table m) (mstInstance ports table m') := by
  obtain ⟨vlan, hperm, hconfig⟩ := h.config
  have hkey : MstInstance.id m' = MstInstance.id m := by
    rw [MstInstance.id, MstInstance.id, hconfig, h.mstId]
  cases hid : MstInstance.id m with
  | none =>
    exact Agrees.of_errors (mstInstance_report hid ports table)
      (mstInstance_report (hkey.trans hid) ports table)
  | some id =>
    rw [mstInstance_eq hid, mstInstance_eq (hkey.trans hid), hconfig]
    refine (mstiVlans_agrees hperm _).bind fun vlans => (Agrees.refl _).bind fun m => ?_
    exact (tree_agrees h.interfaces distinct _ ports _).bind fun _ => Agrees.refl _

theorem mstis_agrees {m m' : Option MstInstances}
    (h : Option.Rel (fun x y => Shuffled ReorderedMsti x.mstInstance y.mstInstance) m m')
    (keys : ((MstInstances.listed m).filterMap MstInstance.id).Nodup)
    (trees : ∀ inst ∈ (m.map MstInstances.mstInstance).getD [],
      ((treeInterfaces inst.interfaces).map TreeInterface.name).Nodup) (ports : BTreeSet String) :
    Agrees (mstis m ports) (mstis m' ports) := by
  refine Agrees.bind ?_ fun _ => Agrees.refl _
  exact foldlM_agrees (rel_getD h Shuffled.nil) Apart.symm (pairwise_apart keys)
    (fun a b hab => mstInstance_commute hab)
    (fun inst hin inst' hrel table => mstInstance_agrees hrel (trees inst hin) table) _

theorem stpMessages_agrees {s s' : StpConfig} (h : ReorderedStp s s') (keys : StpDistinctKeys s)
    (ports : BTreeSet String) : Agrees (stpMessages s ports) (stpMessages s' ports) := by
  have hrstp : s'.rstp.map Rstp.config = s.rstp.map Rstp.config :=
    map_eq_of_rel h.rstp fun _ _ hrel => hrel.config
  have hmstp : s'.mstp.map Mstp.config = s.mstp.map Mstp.config :=
    map_eq_of_rel h.mstp fun _ _ hrel => hrel.config
  have hrstpTree : ReorderedTree (s.rstp.bind Rstp.interfaces) (s'.rstp.bind Rstp.interfaces) :=
    rel_bind h.rstp fun _ _ hrel => hrel.interfaces
  have hcist : ReorderedTree (s.mstp.bind Mstp.interfaces) (s'.mstp.bind Mstp.interfaces) :=
    rel_bind h.mstp fun _ _ hrel => hrel.interfaces
  have hmstis := mstis_agrees (rel_bind h.mstp fun _ _ hrel => hrel.mstInstances) keys.mstis
    keys.msti ports
  simp only [stpMessages]
  rw [h.global, hrstp, hmstp]
  refine (Agrees.refl _).bind fun protocols => (Agrees.refl _).bind fun _ => ?_
  refine (portFeatures_agrees h keys ports).bind fun features => ?_
  refine (Agrees.refl _).bind fun rstpTimers => (Agrees.refl _).bind fun _ => ?_
  refine (tree_agrees hrstpTree keys.rstp _ ports _).bind fun rstpTree => ?_
  refine (Agrees.refl _).bind fun mstpTimers => (Agrees.refl _).bind fun revision => ?_
  refine (Agrees.refl _).bind fun hops => ?_
  refine (tree_agrees hcist keys.cist _ ports _).bind fun cist => ?_
  exact hmstis.bind fun _ => Agrees.refl _

theorem desiredStp_agrees {s s' : Option StpConfig} (h : Option.Rel ReorderedStp s s')
    (keys : ∀ c, s = some c → StpDistinctKeys c) (ports : BTreeSet String) :
    Agrees (desiredStp s ports) (desiredStp s' ports) := by
  refine Agrees.mapErrors ?_ _
  cases h with
  | none => exact Agrees.refl _
  | some h => exact stpMessages_agrees h (keys _ rfl) ports

end Stp

section Snmp

def addUserEffect (user : User) (u : Option UsmUser) (snmp : Snmp) : Snmp :=
  match u with
  | some u => { snmp with users := snmp.users.insert user.name u }
  | none => snmp

theorem addUser_commute {a b : User} (h : a.name ≠ b.name) : Commute addUser a b := by
  have hstep : ∀ snmp user, addUser snmp user =
      usmUser user >>= fun u => pure (addUserEffect user u snmp) := by
    intro snmp user
    unfold addUser addUserEffect
    congr 1
    funext u
    cases u <;> rfl
  refine commute_of_check hstep (fun _ _ => rfl) (fun _ _ => rfl) fun snmp u u' => ?_
  cases u <;> cases u' <;> simp only [addUserEffect, insert_comm h]

def addViewEffect (view : VacmView) (v : Option SnmpView) (snmp : Snmp) : Snmp :=
  match v with
  | some v => { snmp with views := snmp.views.insert view.name v }
  | none => snmp

theorem addView_commute {a b : VacmView} (h : a.name ≠ b.name) : Commute addView a b := by
  have hstep : ∀ snmp view, addView snmp view =
      vacmView view >>= fun v => pure (addViewEffect view v snmp) := by
    intro snmp view
    unfold addView addViewEffect
    congr 1
    funext v
    cases v <;> rfl
  refine commute_of_check hstep (fun _ _ => rfl) (fun _ _ => rfl) fun snmp v v' => ?_
  cases v <;> cases v' <;> simp only [addViewEffect, insert_comm h]

def addGroupEffect (group : VacmGroup) (g : Option SnmpGroup) (snmp : Snmp) : Snmp :=
  match g with
  | some g => { snmp with groups := snmp.groups.insert group.name g }
  | none => snmp

theorem addGroup_eq (snmp : Snmp) (group : VacmGroup) : addGroup snmp group =
    vacmGroup group snmp >>= fun g => pure (addGroupEffect group g snmp) := by
  unfold addGroup addGroupEffect
  congr 1
  funext g
  cases g <;> rfl

theorem addGroup_commute {a b : VacmGroup} (h : a.name ≠ b.name) : Commute addGroup a b := by
  -- A group is checked against the users and the views, which no group changes.
  have hunseen : ∀ (group other : VacmGroup) snmp g,
      vacmGroup other (addGroupEffect group g snmp) = vacmGroup other snmp := by
    intro group other snmp g
    cases g <;> rfl
  refine commute_of_check addGroup_eq (fun snmp g => hunseen b a snmp g)
    (fun snmp g => hunseen a b snmp g) fun snmp g g' => ?_
  cases g <;> cases g' <;> simp only [addGroupEffect, insert_comm h]

/-- What is checked of a member; the group so far plays no role. -/
def memberCheck (name : String) (snmp : Snmp) (member : Member) : Collect String Bool := do
  let user := member.securityName
  let foreign := member.securityModel.any (· != "usm")
  let unknown := !snmp.users.contains user
  rejectIf foreign s!"vacm group {name} member {user}: only security-model usm is supported"
  rejectIf unknown s!"vacm group {name}: member {user} is not a usm local user"
  pure (!foreign && !unknown)

def memberEffect (member : Member) (ok : Bool) (group : Bool × SnmpGroup) : Bool × SnmpGroup :=
  (group.1 && ok, { group.2 with members := group.2.members.insert member.securityName })

theorem groupMember_commute (name : String) (snmp : Snmp) (a b : Member) :
    Commute (groupMember name snmp) a b := by
  have hstep : ∀ group member, groupMember name snmp group member =
      memberCheck name snmp member >>= fun ok => pure (memberEffect member ok group) := by
    intro group member
    simp only [groupMember, memberCheck, memberEffect, bind_assoc, pure_bind, Bool.and_assoc]
  refine commute_of_check hstep (fun _ _ => rfl) (fun _ _ => rfl) fun group ok ok' => ?_
  have hmembers : (group.2.members.insert a.securityName).insert b.securityName =
      (group.2.members.insert b.securityName).insert a.securityName := by
    refine ExtTreeSet.ext_mem fun user => ?_
    simp only [ExtTreeSet.mem_insert]
    tauto
  simp only [memberEffect, hmembers, Bool.and_right_comm]

theorem vacmGroup_agrees {g g' : VacmGroup} (h : ReorderedVacmGroup g g') (snmp : Snmp) :
    Agrees (vacmGroup g snmp) (vacmGroup g' snmp) := by
  obtain ⟨members, hperm, rfl⟩ := h
  refine (Agrees.refl _).bind fun named => ?_
  exact (foldlM_agrees_of_commute hperm (groupMember_commute g.name snmp) _).bind
    fun _ => Agrees.refl _

theorem addGroup_agrees {g g' : VacmGroup} (h : ReorderedVacmGroup g g') (snmp : Snmp) :
    Agrees (addGroup snmp g) (addGroup snmp g') := by
  have hname : g'.name = g.name := by
    obtain ⟨members, _, rfl⟩ := h
    rfl
  rw [addGroup_eq, addGroup_eq]
  refine (vacmGroup_agrees h snmp).bind fun r => Agrees.of_eq ?_
  simp only [addGroupEffect, hname]

theorem snmpMessages_agrees {s s' : SnmpConfig} (h : ReorderedSnmp s s')
    (keys : SnmpDistinctKeys s) : Agrees (snmpMessages s) (snmpMessages s') := by
  have husers : (usmUsers s).Perm (usmUsers s') :=
    rel_getD (rel_bind h.usm fun _ _ hrel => hrel) (.refl _)
  have hviews : ((s.vacm.map Vacm.view).getD []).Perm ((s'.vacm.map Vacm.view).getD []) :=
    rel_getD (rel_imp h.vacm fun _ _ hrel => hrel.1) (.refl _)
  have hgroups : Shuffled ReorderedVacmGroup ((s.vacm.map Vacm.group).getD [])
      ((s'.vacm.map Vacm.group).getD []) :=
    rel_getD (rel_imp h.vacm fun _ _ hrel => hrel.2) Shuffled.nil
  have hlists : ∀ (snmp : Snmp) (finish : Snmp → Collect String (Option Snmp)), Agrees
      ((usmUsers s).foldlM addUser snmp >>= fun snmp =>
        ((s.vacm.map Vacm.view).getD []).foldlM addView snmp >>= fun snmp =>
          ((s.vacm.map Vacm.group).getD []).foldlM addGroup snmp >>= finish)
      ((usmUsers s').foldlM addUser snmp >>= fun snmp =>
        ((s'.vacm.map Vacm.view).getD []).foldlM addView snmp >>= fun snmp =>
          ((s'.vacm.map Vacm.group).getD []).foldlM addGroup snmp >>= finish) := by
    intro snmp finish
    refine (foldlM_agrees_of_nodup husers keys.users (fun a b => addUser_commute) snmp).bind
      fun snmp => ?_
    refine (foldlM_agrees_of_nodup hviews keys.views (fun a b => addView_commute) snmp).bind
      fun snmp => ?_
    exact (foldlM_agrees hgroups (fun _ _ hne => Ne.symm hne) (List.pairwise_map.mp keys.groups)
      (fun a b => addGroup_commute) (fun g _ g' hrel snmp => addGroup_agrees hrel snmp) snmp).bind
      fun _ => Agrees.refl _
  simp only [snmpMessages]
  rw [h.engine]
  cases s.engine with
  | none => exact (Agrees.refl _).bind fun snmp => hlists snmp _
  | some engine => exact (Agrees.refl _).bind fun snmp => hlists snmp _

theorem desiredSnmp_agrees {s s' : Option SnmpConfig} (h : Option.Rel ReorderedSnmp s s')
    (keys : ∀ c, s = some c → SnmpDistinctKeys c) : Agrees (desiredSnmp s) (desiredSnmp s') := by
  cases h with
  | none => exact Agrees.refl _
  | some h => exact (snmpMessages_agrees h (keys _ rfl)).mapErrors _

end Snmp

section States
variable {config config' : Config} {switchPorts : BTreeSet String}

theorem dot1qVlans_agrees (reordered : Reordered config config')
    (distinct : DistinctListKeys config) : Agrees (dot1qVlans config) (dot1qVlans config') := by
  have hgroups : Shuffled ReorderedGroup config.groups config'.groups :=
    rel_getD reordered.portBasedVlans Shuffled.nil
  have hvlans : config.vlanEntries.Perm config'.vlanEntries := rel_getD reordered.vlans (.refl _)
  unfold dot1qVlans
  rw [hgroups.isEmpty_eq]
  refine (Agrees.refl _).bind fun _ => ?_
  exact (foldlM_agrees_of_perm hvlans Apart.symm (pairwise_apart distinct.vlans)
    (fun a b => declareVlan_commute) ∅).bind fun _ => Agrees.refl _

theorem portGroups_agrees (reordered : Reordered config config')
    (distinct : DistinctListKeys config) :
    Agrees (portGroups config config.interfaceList switchPorts)
      (portGroups config' config'.interfaceList switchPorts) := by
  have hinterfaces : Shuffled ReorderedInterface config.interfaceList config'.interfaceList :=
    rel_getD reordered.interfaces Shuffled.nil
  have hgroups : Shuffled ReorderedGroup config.groups config'.groups :=
    rel_getD reordered.portBasedVlans Shuffled.nil
  have hvlans : config.vlanEntries.Perm config'.vlanEntries := rel_getD reordered.vlans (.refl _)
  have hsame : ∀ port, (config'.interfaceList.any fun i => i.name == port && i.isPort) =
      config.interfaceList.any fun i => i.name == port && i.isPort := by
    intro port
    refine hinterfaces.any_eq fun i i' hrel => ?_
    rw [hrel.name, hrel.isPort]
  unfold portGroups
  rw [hvlans.isEmpty_eq]
  refine (Agrees.refl _).bind fun _ => ?_
  exact foldlM_agrees hgroups Apart.symm (pairwise_apart distinct.groups)
    (fun a b => declareGroup_commute)
    (fun g _ g' hrel domain => declareGroup_agrees hrel hsame domain) _

theorem vlanDomain_agrees (reordered : Reordered config config')
    (distinct : DistinctListKeys config) (mode : VlanMode) :
    Agrees (vlanDomain config switchPorts mode) (vlanDomain config' switchPorts mode) := by
  cases mode with
  | dot1q => exact dot1qVlans_agrees reordered distinct
  | portBased => exact portGroups_agrees reordered distinct

theorem interfaces_agrees (reordered : Reordered config config')
    (distinct : DistinctListKeys config) (domain : Domain) (state : DesiredState) :
    Agrees (config.interfaceList.foldlM (addInterface switchPorts domain) state)
      (config'.interfaceList.foldlM (addInterface switchPorts domain) state) := by
  have hinterfaces : Shuffled ReorderedInterface config.interfaceList config'.interfaceList :=
    rel_getD reordered.interfaces Shuffled.nil
  exact foldlM_agrees hinterfaces (fun _ _ hne => Ne.symm hne)
    (List.pairwise_map.mp distinct.interfaces) (fun a b => addInterface_commute)
    (fun i _ i' hrel state => addInterface_agrees hrel state) state

/-- Neither acceptance nor meaning depends on the order of list entries. -/
theorem desiredState_order_independent (config config' : Config) (switchPorts : BTreeSet String)
    (reordered : Reordered config config') (distinct : DistinctListKeys config) :
    (∃ errors errors', desiredState config switchPorts = .error errors ∧
      desiredState config' switchPorts = .error errors') ∨
    ∃ state, desiredState config switchPorts = .ok state ∧
      desiredState config' switchPorts = .ok state := by
  have hmode : vlanMode config' = vlanMode config := by
    unfold vlanMode
    rw [reordered.switch]
  refine Agrees.toExcept ?_
  rw [hmode, reordered.system]
  refine (Agrees.refl _).bind fun mode => ?_
  refine (vlanDomain_agrees reordered distinct mode).bind fun domain => ?_
  refine (interfaces_agrees reordered distinct domain _).bind fun state => ?_
  refine (desiredStp_agrees reordered.stp distinct.stp _).bind fun stp => ?_
  refine (desiredSnmp_agrees reordered.snmp distinct.snmp).bind fun snmp => ?_
  exact Agrees.refl _

/-- A trunk port over the VLANs 10 and 20, in the order of `ids`. -/
def trunkOver (ids : List UInt16) : Config :=
  { interfaces := some { interface :=
      [{ name := "lan1"
         config := { ifType := some "ethernetCsmacd" }
         ethernet := some { switchedVlan := some { config :=
           { interfaceMode := some "TRUNK"
             trunkVlans := ids.map fun id => .number id.toUInt64 } } } }] }
    vlans := some { vlan := ids.map fun id => { vlanId := some id } } }

theorem trunkOver_reordered {ids ids' : List UInt16} (h : ids.Perm ids') :
    Reordered (trunkOver ids) (trunkOver ids') where
  interfaces := .some ⟨_, .refl _, .cons
    ⟨rfl, rfl, rfl, .some (.some ⟨_, h.map _, rfl⟩)⟩ .nil⟩
  vlans := .some (h.map _)
  switch := rfl
  portBasedVlans := .none
  stp := .none
  system := rfl
  snmp := .none

theorem desiredState_order_independent_trunk :
    (∃ errors errors', desiredState (trunkOver [10, 20]) (.ofList ["lan1"]) = .error errors ∧
      desiredState (trunkOver [20, 10]) (.ofList ["lan1"]) = .error errors') ∨
    ∃ state, desiredState (trunkOver [10, 20]) (.ofList ["lan1"]) = .ok state ∧
      desiredState (trunkOver [20, 10]) (.ofList ["lan1"]) = .ok state := by
  refine desiredState_order_independent _ _ _ (trunkOver_reordered (List.Perm.swap 20 10 [])) ?_
  refine ⟨⟨⟨by decide⟩, by decide⟩, by decide, ?_, ?_⟩
  · rintro _ ⟨⟩
  · rintro _ ⟨⟩

end States
end ClixonSwitch.Guarantees
