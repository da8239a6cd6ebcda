import ClixonSwitch.Guarantees.StateTexts
import ClixonSwitch.Guarantees.StateXml
import ClixonSwitch.Lib.Reorder

/-!
# State data cannot be broken by text

Two states are alike if they differ in names only: interfaces may be called anything that
keeps their order, and VLANs, groups, the region, root ports and DHCP domains anything at
all. What is written for a state is read as its document, and the tags are the same for
alike states.
-/
namespace ClixonSwitch.Guarantees
open Std Lib Lib.Xml
open Source.SwitchModel Source.SwitchNet

section Alike

structure VlanAlike (v w : Vlan) : Prop where
  name : v.name.isSome = w.name.isSome
  rest : { v with name := w.name } = w

structure LeaseAlike (l m : DhcpLease) : Prop where
  domain : l.domain.isSome = m.domain.isSome
  rest : { l with domain := m.domain } = m

structure InterfaceAlike (s t : InterfaceState) : Prop where
  lease : Option.Rel LeaseAlike s.dhcpLease t.dhcpLease
  rest : { s with dhcpLease := t.dhcpLease } = t

structure BridgeAlike (b c : BridgeState) : Prop where
  rootPort : b.rootPort.isSome = c.rootPort.isSome
  rest : { b with rootPort := c.rootPort } = c

variable (N : String → String → Prop)

structure TreeStateAlike (s t : TreeState) : Prop where
  bridge : Option.Rel BridgeAlike s.bridge t.bridge
  ports : BTreeMap.Aligned N Eq s.ports t.ports

structure StpStateAlike (s t : StpState) : Prop where
  cist : TreeStateAlike N s.cist t.cist
  mstis : BTreeMap.Aligned Eq (TreeStateAlike N) s.mstis t.mstis

structure TreeAlike (s t : Tree) : Prop where
  ports : BTreeMap.Aligned N Eq s.ports t.ports
  rest : { s with ports := t.ports } = t

structure MstiAlike (s t : Msti) : Prop where
  tree : TreeAlike N s.tree t.tree
  rest : { s with tree := t.tree } = t

structure StpAlike (s t : Stp) : Prop where
  region : s.regionName.isSome = t.regionName.isSome
  cist : TreeAlike N s.cist t.cist
  mstis : BTreeMap.Aligned Eq (MstiAlike N) s.mstis t.mstis
  ports : BTreeMap.Aligned N Eq s.ports t.ports
  rest : { s with
    regionName := t.regionName, cist := t.cist, mstis := t.mstis, ports := t.ports } = t

/-- The same configuration but for its names, where interface names correspond by `N`. -/
structure DesiredAlike (a b : DesiredState) : Prop where
  mode : a.mode = b.mode
  vlans : BTreeMap.Aligned Eq VlanAlike a.vlans b.vlans
  ports : BTreeMap.Aligned N Eq a.ports b.ports
  svis : BTreeMap.Aligned N Eq a.svis b.svis
  stp : Option.Rel (StpAlike N) a.stp b.stp

end Alike

section Tags

theorem tags_node_of (name : String) {nodes more : List Element} (plain : PlainName name = true)
    (h : tagsAll nodes = tagsAll more) : (node name nodes plain).tags = (node name more plain).tags := by
  simp only [node, Element.tags, h]

/-- Elements with the same tags have them in the other namespace too. -/
theorem tags_inSwitchNs_of {n m : Element} (h : n.tags = m.tags) :
    (inSwitchNs n).tags = (inSwitchNs m).tags := by
  obtain ⟨tag, text, children⟩ := n
  obtain ⟨tag', text', children'⟩ := m
  simp only [Element.tags, List.cons.injEq, Token.start.injEq] at h
  obtain ⟨⟨hname, -⟩, hrest⟩ := h
  simp only [inSwitchNs, withAttrs, Element.tags, hname] at hrest ⊢
  rw [hrest]

theorem tags_leafNode (name text : String) (plain : PlainName name = true) :
    (leafNode name text plain).tags = [.start name.toList [], .stop name.toList] := rfl

theorem tags_inSwitchNs_leafNode (name text : String) (plain : PlainName name = true) :
    (inSwitchNs (leafNode name text plain)).tags =
      [.start name.toList (xmlns switchNs).toList, .stop name.toList] := rfl

variable {α β : Type}

theorem tagsAll_present_of {v : Option α} {w : Option β} {doc : α → List Element}
    {doc' : β → List Element}
    (h : Option.Rel (fun a b => tagsAll (doc a) = tagsAll (doc' b)) v w) :
    tagsAll (present v doc) = tagsAll (present w doc') := by
  cases h with
  | none => rfl
  | some h => exact h

/-- Whatever the text of an optional leaf, it has the same tags. -/
theorem tagsAll_present_leaf {v w : Option String} (name : String) (plain : PlainName name = true)
    (h : v.isSome = w.isSome) :
    tagsAll (present v fun text => [leafNode name text plain]) =
      tagsAll (present w fun text => [leafNode name text plain]) := by
  cases v <;> cases w <;> first | rfl | cases h

end Tags

section Interfaces
variable {N : String → String → Prop}

theorem tags_leaseDoc {l m : DhcpLease} (h : LeaseAlike l m) :
    (leaseDoc l).tags = (leaseDoc m).tags := by
  rw [← h.rest]
  refine tags_inSwitchNs_of (tags_node_of _ _ ?_)
  simp only [tagsAll_append, tagsAll_present_leaf "domain" (by decide) h.domain]

theorem tags_sviIpv4Doc (svi : Svi) {s t : InterfaceState} (h : InterfaceAlike s t) :
    (sviIpv4Doc svi s).tags = (sviIpv4Doc svi t).tags := by
  have hlease : tagsAll (present s.dhcpLease fun l => [leaseDoc l]) =
      tagsAll (present t.dhcpLease fun l => [leaseDoc l]) :=
    tagsAll_present_of (rel_imp h.lease fun l m hlm => by
      simp only [tagsAll, tags_leaseDoc hlm])
  rw [← h.rest]
  cases hclient : svi.dhcpClient <;>
    simp only [sviIpv4Doc, Element.tags, tagsAll, node, hclient, hlease, if_true,
      Bool.false_eq_true, if_false]

/-- The state of an interface is looked up by name. -/
theorem tagsAll_interfaceDoc {states states' : BTreeMap String InterfaceState}
    (order : SameOrder N) (h : BTreeMap.Aligned N InterfaceAlike states states')
    {name name' : String} (hname : N name name') (svi : Option Svi) :
    tagsAll (interfaceDoc states name svi) = tagsAll (interfaceDoc states' name' svi) := by
  refine tagsAll_present_of (rel_imp (h.getElem?_rel order hname) fun s t hst => ?_)
  have hsvi : tagsAll (present svi fun svi => [sviIpv4Doc svi s]) =
      tagsAll (present svi fun svi => [sviIpv4Doc svi t]) := by
    cases svi with
    | none => rfl
    | some svi =>
      simp only [present, Option.map_some, Option.getD_some, tagsAll, tags_sviIpv4Doc svi hst]
  have hmac : s.mac = t.mac := by rw [← hst.rest]
  simp only [tagsAll, node, Element.tags, tagsAll_append, hsvi, hmac, tags_leafNode, countersDoc]

end Interfaces

section Vlans
variable {N : String → String → Prop} {a b : DesiredState}

theorem memberNames_related (h : BTreeMap.Aligned N Eq a.ports b.ports) (vlan : UInt16) :
    List.Forall₂ N (memberNames a vlan) (memberNames b vlan) := by
  have hcarries : ∀ e e' : String × Port, N e.1 e'.1 ∧ e.2 = e'.2 →
      (e.2.carries vlan = true ↔ e'.2.carries vlan = true) := by
    rintro e e' ⟨-, heq⟩
    rw [heq]
  have hfilter := List.rel_filter (fun {e e'} he => hcarries e e' he) h
  rw [memberNames, memberNames, List.forall₂_map_left_iff, List.forall₂_map_right_iff]
  exact hfilter.imp fun e e' he => he.1

theorem tagsAll_members (ports : BTreeMap.Aligned N Eq a.ports b.ports) (vlan : UInt16)
    {doc : String → Element} (hdoc : ∀ port port', (doc port).tags = (doc port').tags) :
    tagsAll ((memberNames a vlan).map doc) = tagsAll ((memberNames b vlan).map doc) :=
  tagsAll_map_of ((memberNames_related ports vlan).imp fun _ _ _ => hdoc _ _)

theorem tags_vlanDoc (ports : BTreeMap.Aligned N Eq a.ports b.ports) {e e' : UInt16 × Vlan}
    (hid : e.1 = e'.1) (h : VlanAlike e.2 e'.2) :
    (vlanDoc a e).tags = (vlanDoc b e').tags := by
  have hname : tagsAll (nameDoc e.2.name) = tagsAll (nameDoc e'.2.name) :=
    tagsAll_present_leaf "name" (by decide) h.name
  simp only [vlanDoc, node, tags_leafNode, Element.tags, tagsAll, tagsAll_append, hid]
  rw [hname, tagsAll_members ports e'.1 fun _ _ => rfl]

theorem tags_groupDoc (ports : BTreeMap.Aligned N Eq a.ports b.ports) {e e' : UInt16 × Vlan}
    (hid : e.1 = e'.1) (h : VlanAlike e.2 e'.2) :
    (groupDoc a e).tags = (groupDoc b e').tags := by
  have hname : tagsAll (nameDoc e.2.name) = tagsAll (nameDoc e'.2.name) :=
    tagsAll_present_leaf "name" (by decide) h.name
  simp only [groupDoc, node, tags_leafNode, Element.tags, tagsAll, tagsAll_append, hid]
  rw [hname, tagsAll_members ports e'.1 fun _ _ => rfl]

theorem tagsAll_vlansDoc (h : DesiredAlike N a b) : tagsAll (vlansDoc a) = tagsAll (vlansDoc b) := by
  have hvlans : tagsAll (a.vlans.toList.map (vlanDoc a)) = tagsAll (b.vlans.toList.map (vlanDoc b)) :=
    tagsAll_map_of (h.vlans.imp fun _ _ he => tags_vlanDoc h.ports he.1 he.2)
  have hgroups : tagsAll (a.vlans.toList.map (groupDoc a)) =
      tagsAll (b.vlans.toList.map (groupDoc b)) :=
    tagsAll_map_of (h.vlans.imp fun _ _ he => tags_groupDoc h.ports he.1 he.2)
  unfold vlansDoc
  rw [h.vlans.isEmpty_eq, h.mode]
  split
  · rfl
  · cases b.mode with
    | dot1q => exact congrArg (· ++ []) (tags_inSwitchNs_of (tags_node_of _ _ hvlans))
    | portBased => exact congrArg (· ++ []) (tags_inSwitchNs_of (tags_node_of _ _ hgroups))

end Vlans

section SpanningTree
variable {N : String → String → Prop}

/-- The leaves are the same one by one, so that they stay so in another namespace. -/
theorem commonStateDoc_related {b c : Option BridgeState} (h : Option.Rel BridgeAlike b c) :
    List.Forall₂ (fun n m => n.tags = m.tags) (commonStateDoc b) (commonStateDoc c) := by
  cases h with
  | none => exact .nil
  | @some b c hbc =>
    have hport : List.Forall₂ (fun n m : Element => n.tags = m.tags)
        (present b.rootPort fun port => [leafNode "root-port" port])
        (present c.rootPort fun port => [leafNode "root-port" port]) := by
      have hsome := hbc.rootPort
      cases hb : b.rootPort <;> cases hc : c.rootPort <;> rw [hb, hc] at hsome
      · exact .nil
      · cases hsome
      · cases hsome
      · exact .cons rfl .nil
    have hrefl : ∀ nodes : List Element, List.Forall₂ (fun n m => n.tags = m.tags) nodes nodes :=
      fun _ => List.forall₂_same.mpr fun _ _ => rfl
    rw [← hbc.rest]
    exact List.rel_append (List.rel_append (List.rel_append (hrefl _) hport) (hrefl _)) (hrefl _)

theorem tags_treePortsDoc (order : SameOrder N) {tree tree' : Tree} {state state' : TreeState}
    (h : TreeAlike N tree tree') (hstate : TreeStateAlike N state state') :
    (treePortsDoc tree state).tags = (treePortsDoc tree' state').tags := by
  refine tags_node_of _ _ (tagsAll_map_of (h.ports.imp ?_))
  rintro ⟨name, port⟩ ⟨name', -⟩ ⟨hname, rfl⟩
  have hport : tagsAll (present state.ports[name]? portStateDoc) =
      tagsAll (present state'.ports[name']? portStateDoc) :=
    tagsAll_present_of (rel_imp (hstate.ports.getElem?_rel order hname) fun s t hst => by rw [hst])
  simp only [treePortDoc, node, tags_leafNode, Element.tags, tagsAll, tagsAll_append, hport]

theorem tags_mstInstanceDoc (order : SameOrder N) (id : UInt16) {msti msti' : Msti}
    {state state' : TreeState} (h : MstiAlike N msti msti')
    (hstate : TreeStateAlike N state state') :
    (mstInstanceDoc id msti state).tags = (mstInstanceDoc id msti' state').tags := by
  have hports := tags_treePortsDoc order h.tree hstate
  have hcommon := tagsAll_of_forall₂ (commonStateDoc_related hstate.bridge)
  have hvlans : msti.vlans = msti'.vlans := by rw [← h.rest]
  simp only [mstInstanceDoc, node, tags_leafNode, Element.tags, tagsAll, tagsAll_append, hports, hcommon,
    hvlans]

theorem treeStateAlike_default : TreeStateAlike N {} {} where
  bridge := .none
  ports := List.Forall₂.nil

theorem treeStateAlike_cist {state state' : Option StpState}
    (h : Option.Rel (StpStateAlike N) state state') :
    TreeStateAlike N (cistStateOf state) (cistStateOf state') := by
  cases h with
  | none => exact treeStateAlike_default
  | some h => exact h.cist

theorem treeStateAlike_msti {state state' : Option StpState}
    (h : Option.Rel (StpStateAlike N) state state') (id : UInt16) :
    TreeStateAlike N (mstiStateOf state id) (mstiStateOf state' id) := by
  have htree : Option.Rel (TreeStateAlike N) (state.bind fun s => s.mstis[id]?)
      (state'.bind fun s => s.mstis[id]?) :=
    rel_bind h fun s t hst => hst.mstis.getElem?_rel sameOrder_eq rfl
  exact getD_rel htree treeStateAlike_default

theorem tags_protocolDoc (order : SameOrder N) {stp stp' : Stp} {state state' : Option StpState}
    (h : StpAlike N stp stp') (hstate : Option.Rel (StpStateAlike N) state state') :
    (protocolDoc stp state).tags = (protocolDoc stp' state').tags := by
  have hcist := treeStateAlike_cist hstate
  have hports := tags_treePortsDoc order h.cist hcist
  have hcommon := tagsAll_of_forall₂ (commonStateDoc_related hcist.bridge)
  have hspaced : tagsAll ((commonStateDoc (cistStateOf state).bridge).map inSwitchNs) =
      tagsAll ((commonStateDoc (cistStateOf state').bridge).map inSwitchNs) :=
    tagsAll_map_of ((commonStateDoc_related hcist.bridge).imp fun _ _ => tags_inSwitchNs_of)
  have hname : tagsAll (nameDoc stp.regionName) = tagsAll (nameDoc stp'.regionName) :=
    tagsAll_present_leaf "name" (by decide) h.region
  have hmstis : tagsAll (stp.mstis.toList.map fun e =>
        mstInstanceDoc e.1 e.2 (mstiStateOf state e.1)) =
      tagsAll (stp'.mstis.toList.map fun e =>
        mstInstanceDoc e.1 e.2 (mstiStateOf state' e.1)) := by
    refine tagsAll_map_of (h.mstis.imp ?_)
    rintro ⟨id, msti⟩ ⟨-, msti'⟩ ⟨rfl, hmsti⟩
    exact tags_mstInstanceDoc order id hmsti (treeStateAlike_msti hstate id)
  have hprotocol : stp.protocol = stp'.protocol := by rw [← h.rest]
  unfold protocolDoc
  rw [hprotocol]
  cases stp'.protocol <;>
    simp only [timersDoc, node, tags_leafNode, Element.tags, tagsAll, tagsAll_append, hports, hcommon,
      hspaced, hname, hmstis, tags_inSwitchNs_of hports, tags_inSwitchNs_leafNode]

theorem tags_stpStateDoc (order : SameOrder N) {stp stp' : Stp} {state state' : Option StpState}
    (h : StpAlike N stp stp') (hstate : Option.Rel (StpStateAlike N) state state') :
    (stpStateDoc stp state).tags = (stpStateDoc stp' state').tags := by
  have hfeatures : tagsAll (stp.ports.toList.map featuresDoc) =
      tagsAll (stp'.ports.toList.map featuresDoc) := by
    refine tagsAll_map_of (h.ports.imp ?_)
    rintro ⟨name, features⟩ ⟨name', -⟩ ⟨-, rfl⟩
    rfl
  have hprotocol := tags_protocolDoc order h hstate
  simp only [stpStateDoc, node, Element.tags, tagsAll, hprotocol, hfeatures]

end SpanningTree

theorem tagsAll_stateDoc {N : String → String → Prop} (order : SameOrder N) {a b : DesiredState}
    {states states' : BTreeMap String InterfaceState} {stp stp' : Option StpState}
    (h : DesiredAlike N a b) (hstates : BTreeMap.Aligned N InterfaceAlike states states')
    (hstp : Option.Rel (StpStateAlike N) stp stp') :
    tagsAll (stateDoc a states stp) = tagsAll (stateDoc b states' stp') := by
  have hports : tagsAll (a.ports.toList.flatMap fun e => interfaceDoc states e.1 none) =
      tagsAll (b.ports.toList.flatMap fun e => interfaceDoc states' e.1 none) :=
    tagsAll_flatMap_of (h.ports.imp fun e e' he => tagsAll_interfaceDoc order hstates he.1 none)
  have hsvis : tagsAll (a.svis.toList.flatMap fun e => interfaceDoc states e.1 (some e.2)) =
      tagsAll (b.svis.toList.flatMap fun e => interfaceDoc states' e.1 (some e.2)) := by
    refine tagsAll_flatMap_of (h.svis.imp fun e e' he => ?_)
    rw [he.2]
    exact tagsAll_interfaceDoc order hstates he.1 (some e'.2)
  have htree : tagsAll (present a.stp fun s => [stpStateDoc s stp]) =
      tagsAll (present b.stp fun s => [stpStateDoc s stp']) :=
    tagsAll_present_of (rel_imp h.stp fun s t hst => by
      simp only [tagsAll, tags_stpStateDoc order hst hstp])
  simp only [stateDoc, Element.tags, tagsAll, tagsAll_append, hports, hsvis, tagsAll_vlansDoc h, htree,
    h.mode]

section Unbroken
variable (applied : DesiredState) (states : BTreeMap String InterfaceState)
  (stp : Option StpState)

/-- The state data is read as its document, in which every name is the text at its path. Its
tags are those of all alike states. In MSTP, the CIST's leaves and its interfaces are those
that were written first, in the switch's own namespace. -/
theorem stateXml_unbroken (macs : ∀ s, stp = some s → StpMacs s) :
    read (stateXml applied states stp).toList = some (stateDoc applied states stp) ∧
      NamesAt applied states stp (stateDoc applied states stp) ∧
      (∀ (N : String → String → Prop) (applied' : DesiredState)
        (states' : BTreeMap String InterfaceState) (stp' : Option StpState),
        SameOrder N → DesiredAlike N applied applied' →
        BTreeMap.Aligned N InterfaceAlike states states' →
        Option.Rel (StpStateAlike N) stp stp' → (∀ s, stp' = some s → StpMacs s) →
        tagsOf (stateXml applied' states' stp').toList =
          tagsOf (stateXml applied states stp).toList) ∧
      (∃ leaves, read (commonStateXml (cistStateOf stp).bridge).toList = some leaves ∧
        read (namespaced (commonStateXml (cistStateOf stp).bridge) switchNs).toList =
          some (leaves.map inSwitchNs)) ∧
      ∀ tree : Tree, ∃ ports,
        read (treePortsXml "interfaces" tree (cistStateOf stp)).toList = some [ports] ∧
        read (replaceFirst (treePortsXml "interfaces" tree (cistStateOf stp))
          (startTag "interfaces") (startTagWith "interfaces" (xmlns switchNs))).toList =
          some [inSwitchNs ports] := by
  have hcist := treeMacs_cistStateOf macs
  have hone (n : Element) : read n.render = some [n] := by
    have hread := read_renderAll [n]
    rwa [renderAll, renderAll, List.append_nil] at hread
  refine ⟨?_, namesAt_stateDoc applied states stp, ?_, ?_, ?_⟩
  · rw [← renderAll_stateDoc applied states stp macs, read_renderAll]
  · intro N applied' states' stp' order happlied hstates hstp macs'
    rw [← renderAll_stateDoc applied states stp macs,
      ← renderAll_stateDoc applied' states' stp' macs', tagsOf_renderAll, tagsOf_renderAll,
      tagsAll_stateDoc order happlied hstates hstp]
  · refine ⟨commonStateDoc (cistStateOf stp).bridge, ?_, ?_⟩
    · rw [← renderAll_commonStateDoc _ hcist.bridge, read_renderAll]
    · rw [toList_namespaced_commonState _ hcist.bridge, read_renderAll]
  · intro tree
    refine ⟨treePortsDoc tree (cistStateOf stp), ?_, ?_⟩
    · rw [← render_treePortsDoc tree _ hcist, hone]
    · rw [toList_replaceFirst_treePorts tree _ hcist, hone]

end Unbroken

section Markup

/-- A switch with one port in MSTP, and the names it has. -/
def mstpSwitch (port vlan region : String) : DesiredState where
  vlans := .ofList [(1, ⟨some vlan, true⟩)] compare
  ports := .ofList [(port, ⟨true, some 1, ∅⟩)] compare
  stp := some
    { protocol := .mstp, helloTime := 2, maxAge := 20, forwardDelay := 15, holdCount := 6,
      maxHops := 20, regionName := some region, regionRevision := 0,
      cist := ⟨32768, .ofList [(port, {})] compare⟩, mstis := ∅,
      ports := .ofList [(port, {})] compare }

def portStates (port : String) : BTreeMap String InterfaceState := .ofList [(port, {})] compare

def rootPortState (port : String) : StpState where
  cist :=
    { bridge := some
        { root := some ⟨4096, "02:00:00:00:00:01"⟩, rootPort := some port, rootCost := some 20000 } }
  mstis := ∅

theorem stpMacs_rootPortState (port : String) : StpMacs (rootPortState port) where
  cist :=
    { bridge := by
        rintro b ⟨rfl⟩
        refine ⟨nofun, ?_⟩
        rintro id ⟨rfl⟩
        decide
      ports := treeMacs_default.ports }
  mstis id tree h := by
    rw [rootPortState, ExtTreeMap.getElem?_empty] at h
    cases h

/-- Names full of markup give the same tags as plain ones, and are read back as they are. -/
theorem stateXml_unbroken_markup :
    tagsOf (stateXml (mstpSwitch "lan<1>" "&amp;" "</name>") (portStates "lan<1>")
        (some (rootPortState "<root-port>"))).toList =
      tagsOf (stateXml (mstpSwitch "lan1" "home" "region") (portStates "lan1")
        (some (rootPortState "lan1"))).toList ∧
    read (stateXml (mstpSwitch "lan<1>" "&amp;" "</name>") (portStates "lan<1>")
        (some (rootPortState "<root-port>"))).toList =
      some (stateDoc (mstpSwitch "lan<1>" "&amp;" "</name>") (portStates "lan<1>")
        (some (rootPortState "<root-port>"))) := by
  let N (a b : String) : Prop := a = "lan1" ∧ b = "lan<1>"
  have order : SameOrder N := by
    rintro a a' b b' ⟨rfl, rfl⟩ ⟨rfl, rfl⟩
    rw [Std.compare_self, Std.compare_self]
  have hports {V : Type} (v : V) : BTreeMap.Aligned N Eq
      (.ofList [("lan1", v)] compare) (.ofList [("lan<1>", v)] compare) :=
    .cons ⟨⟨rfl, rfl⟩, rfl⟩ .nil
  have hmacs (port : String) : ∀ s, some (rootPortState port) = some s → StpMacs s := by
    rintro s ⟨rfl⟩
    exact stpMacs_rootPortState port
  refine ⟨?_, (stateXml_unbroken _ _ _ (hmacs "<root-port>")).1⟩
  refine (stateXml_unbroken _ _ _ (hmacs "lan1")).2.2.1 N _ _ _ order ?_ ?_ ?_
    (hmacs "<root-port>")
  · exact
      { mode := rfl
        vlans := .cons ⟨rfl, rfl, rfl⟩ .nil
        ports := hports _
        svis := .nil
        stp := .some ⟨rfl, ⟨hports _, rfl⟩, .nil, hports _, rfl⟩ }
  · exact .cons ⟨⟨rfl, rfl⟩, .none, rfl⟩ .nil
  · exact .some ⟨⟨.some ⟨rfl, rfl⟩, .nil⟩, .nil⟩

end Markup
end ClixonSwitch.Guarantees
