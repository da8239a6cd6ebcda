import ClixonSwitch.Guarantees.StateDocument

/-!
# Where the names stand in the state document

The texts at the paths of the YANG models are the names of the state, in their order.
-/
namespace ClixonSwitch.Guarantees
open Std Lib Lib.Xml
open Source.SwitchModel Source.SwitchNet

section Elements
variable (name text : String) (plain : PlainName name = true) (children : List Element) (n : Element)

@[simp] theorem name_node : (node name children plain).name = name := rfl
@[simp] theorem children_node : (node name children plain).children = children := rfl
@[simp] theorem name_leafNode : (leafNode name text plain).name = name := rfl
@[simp] theorem text_leafNode : (leafNode name text plain).text = text := rfl

@[simp] theorem name_elem (tag : Tag) : (Element.elem tag text children).name = tag.name := rfl

@[simp] theorem children_elem (tag : Tag) : (Element.elem tag text children).children = children := rfl

@[simp] theorem name_tagWith (attrs : String) (h : PlainAttrs attrs = true) :
    (tagWith name attrs plain h).name = name := rfl

@[simp] theorem name_typesTag : (typesTag name plain).name = name := rfl

@[simp] theorem name_inSwitchNs : (inSwitchNs n).name = n.name := by
  cases n
  rfl

@[simp] theorem text_inSwitchNs : (inSwitchNs n).text = n.text := by
  cases n
  rfl

@[simp] theorem children_inSwitchNs : (inSwitchNs n).children = n.children := by
  cases n
  rfl

variable {α : Type} (step : String)

theorem within_present (value : Option α) (doc : α → List Element) :
    within step (present value doc) = (value.map fun a => within step (doc a)).getD [] := by
  cases value <;> rfl

theorem texts_present (value : Option α) (doc : α → List Element) :
    texts step (present value doc) = (value.map fun a => texts step (doc a)).getD [] := by
  cases value <;> rfl

@[simp] theorem flatMap_const_nil {β : Type} (xs : List α) :
    (xs.flatMap fun _ => ([] : List β)) = [] := by
  rw [List.flatMap_eq_nil_iff]
  exact fun _ _ => rfl

@[simp] theorem getD_map_nil {β : Type} (value : Option α) :
    (value.map fun _ => ([] : List β)).getD [] = [] := by
  cases value <;> rfl

@[simp] theorem getD_map_singleton {β : Type} (value : Option α) (f : α → β) :
    (value.map fun a => [f a]).getD [] = (value.map f).toList := by
  cases value <;> rfl

end Elements

section TopLevel
variable (applied : DesiredState) (states : BTreeMap String InterfaceState)
  (stp : Option StpState)

theorem within_vlansDoc_of_ne {step : String} (hvlans : "vlans" ≠ step)
    (hgroups : "port-based-vlans" ≠ step) : within step (vlansDoc applied) = [] := by
  unfold vlansDoc
  split
  · rfl
  · cases applied.mode <;> simp [within_cons, within_nil, hvlans, hgroups]

theorem within_interfaces :
    within "interfaces" (stateDoc applied states stp) =
      applied.ports.toList.flatMap (fun e => interfaceDoc states e.1 none) ++
        applied.svis.toList.flatMap fun e => interfaceDoc states e.1 (some e.2) := by
  have hvlans := within_vlansDoc_of_ne applied (by decide : "vlans" ≠ "interfaces") (by decide)
  simp only [stateDoc, within_cons, within_append, hvlans, within_present, stpStateDoc, within_nil]
  cases applied.stp <;> simp

theorem within_stp (s : Stp) (h : applied.stp = some s) :
    within "stp" (stateDoc applied states stp) = (stpStateDoc s stp).children := by
  have hvlans := within_vlansDoc_of_ne applied (by decide : "vlans" ≠ "stp") (by decide)
  simp [stateDoc, within_cons, within_append, hvlans, within_present, stpStateDoc, within_nil, h]

theorem within_vlans (h : applied.mode = .dot1q) :
    within "vlans" (stateDoc applied states stp) = applied.vlans.toList.map (vlanDoc applied) := by
  simp only [stateDoc, within_cons, within_append, within_present, stpStateDoc, within_nil, vlansDoc,
    h]
  cases hempty : applied.vlans.isEmpty with
  | true =>
    rw [← ExtTreeMap.isEmpty_toList, List.isEmpty_iff] at hempty
    cases applied.stp <;> simp [hempty, within_nil]
  | false => cases applied.stp <;> simp [within_cons, within_nil]

theorem within_groups (h : applied.mode = .portBased) :
    within "port-based-vlans" (stateDoc applied states stp) =
      applied.vlans.toList.map (groupDoc applied) := by
  simp only [stateDoc, within_cons, within_append, within_present, stpStateDoc, within_nil, vlansDoc,
    h]
  cases hempty : applied.vlans.isEmpty with
  | true =>
    rw [← ExtTreeMap.isEmpty_toList, List.isEmpty_iff] at hempty
    cases applied.stp <;> simp [hempty, within_nil]
  | false => cases applied.stp <;> simp [within_cons, within_nil]

end TopLevel

section Names
variable (applied : DesiredState) (states : BTreeMap String InterfaceState)
  (stp : Option StpState)

/-- The domain of the lease that an SVI shows. -/
def shownDomain (name : String) (svi : Svi) : Option String :=
  if svi.dhcpClient then (states[name]?.bind InterfaceState.dhcpLease).bind DhcpLease.domain
  else none

theorem texts_interfaceDoc (name : String) (svi : Option Svi) :
    texts "name" (within "interface" (interfaceDoc states name svi)) =
      if states[name]?.isSome then [name] else [] := by
  rw [interfaceDoc, within_present]
  cases states[name]? with
  | none => rfl
  | some s =>
    cases svi <;> cases hmac : s.mac <;>
      simp [within_cons, within_nil, texts_cons, texts_nil, texts_present, ethernetDoc, sviIpv4Doc,
        hmac]

theorem flatMap_shown {V : Type} (m : BTreeMap String V) :
    (m.toList.flatMap fun e => if states[e.1]?.isSome then [e.1] else []) =
      m.keys.filter fun name => states[name]?.isSome := by
  rw [← ExtTreeMap.map_fst_toList_eq_keys]
  induction m.toList with
  | nil => rfl
  | cons e rest ih =>
    rw [List.flatMap_cons, List.map_cons, List.filter_cons, ih]
    split <;> rfl

theorem texts_interfaces :
    textsAt ["interfaces", "interface"] "name" (stateDoc applied states stp) =
      (applied.ports.keys ++ applied.svis.keys).filter fun name => states[name]?.isSome := by
  simp only [textsAt, List.foldl_cons, List.foldl_nil, within_interfaces, within_append,
    within_flatMap, texts_append, texts_flatMap, texts_interfaceDoc, flatMap_shown,
    List.filter_append]

/-- The path of a lease inside an interface. -/
def leaseSteps : List String := ["interface", "routed-vlan", "ipv4", "state", "dhcp-lease"]

theorem texts_leaseDoc (lease : DhcpLease) :
    texts "domain" (leaseDoc lease).children = lease.domain.toList := by
  simp [leaseDoc, texts_append, texts_present, texts_cons, texts_nil, texts_map]

theorem name_leaseDoc (lease : DhcpLease) : (leaseDoc lease).name = "dhcp-lease" := rfl

theorem texts_domain (name : String) (svi : Option Svi) :
    textsAt leaseSteps "domain" (interfaceDoc states name svi) =
      (svi.bind (shownDomain states name)).toList := by
  simp only [textsAt, leaseSteps, List.foldl_cons, List.foldl_nil, interfaceDoc, within_present]
  cases hstate : states[name]? with
  | none => cases svi <;> simp [shownDomain, hstate, within_nil, texts_nil]
  | some s =>
    cases svi with
    | none =>
      cases hmac : s.mac <;>
        simp [hmac, within_cons, within_nil, within_present, texts_nil, ethernetDoc]
    | some svi =>
      cases hclient : svi.dhcpClient <;> cases hlease : s.dhcpLease <;>
        simp [shownDomain, hstate, hclient, hlease, within_cons, within_nil, texts_nil,
          within_present, sviIpv4Doc, name_leaseDoc, texts_leaseDoc]

theorem textsAt_append (path : List String) (last : String) (nodes more : List Element) :
    textsAt path last (nodes ++ more) = textsAt path last nodes ++ textsAt path last more := by
  induction path generalizing nodes more with
  | nil => exact texts_append last nodes more
  | cons step rest ih =>
    simp only [textsAt, List.foldl_cons, within_append] at ih ⊢
    exact ih _ _

theorem textsAt_flatMap {α : Type} (path : List String) (last : String) (xs : List α)
    (docs : α → List Element) :
    textsAt path last (xs.flatMap docs) = xs.flatMap fun x => textsAt path last (docs x) := by
  induction xs with
  | nil => induction path with
    | nil => rfl
    | cons step rest ih => exact ih
  | cons x rest ih => rw [List.flatMap_cons, textsAt_append, ih, List.flatMap_cons]

theorem textsAt_cons (step : String) (path : List String) (last : String) (nodes : List Element) :
    textsAt (step :: path) last nodes = textsAt path last (within step nodes) := rfl

theorem texts_domains :
    textsAt ("interfaces" :: leaseSteps) "domain" (stateDoc applied states stp) =
      applied.svis.toList.filterMap fun e => shownDomain states e.1 e.2 := by
  rw [textsAt_cons, within_interfaces, textsAt_append, textsAt_flatMap, textsAt_flatMap,
    List.filterMap_eq_flatMap_toList]
  simp only [texts_domain, Option.bind_none, Option.bind_some, Option.toList_none,
    flatMap_const_nil, List.nil_append]

theorem texts_nameDoc (name : Option String) : texts "name" (nameDoc name) = name.toList := by
  simp [nameDoc, texts_present, texts_cons, texts_nil]

theorem texts_vlanNames (h : applied.mode = .dot1q) :
    textsAt ["vlans", "vlan", "state"] "name" (stateDoc applied states stp) =
      applied.vlans.toList.filterMap fun e => e.2.name := by
  simp [textsAt, within_vlans applied states stp h, within_map, vlanDoc, within_flatMap, within_cons,
    within_nil, texts_flatMap, texts_cons, texts_append, texts_nameDoc, texts_nil,
    List.filterMap_eq_flatMap_toList]

theorem texts_vlanMembers (h : applied.mode = .dot1q) :
    textsAt ["vlans", "vlan", "members", "member", "state"] "interface"
        (stateDoc applied states stp) =
      applied.vlans.toList.flatMap fun e => memberNames applied e.1 := by
  simp [textsAt, within_vlans applied states stp h, within_map, vlanDoc, within_flatMap, within_cons,
    within_nil, texts_flatMap, texts_cons, texts_nil]

theorem texts_groupNames (h : applied.mode = .portBased) :
    textsAt ["port-based-vlans", "group", "state"] "name" (stateDoc applied states stp) =
      applied.vlans.toList.filterMap fun e => e.2.name := by
  simp [textsAt, within_groups applied states stp h, within_map, groupDoc, within_flatMap,
    within_cons, within_nil, texts_flatMap, texts_map, texts_cons, texts_append, texts_nameDoc,
    List.filterMap_eq_flatMap_toList]

theorem texts_groupMembers (h : applied.mode = .portBased) :
    textsAt ["port-based-vlans", "group", "state"] "port" (stateDoc applied states stp) =
      applied.vlans.toList.flatMap fun e => memberNames applied e.1 := by
  simp [textsAt, within_groups applied states stp h, within_map, groupDoc, within_flatMap,
    within_cons, within_nil, texts_flatMap, texts_map, texts_cons, texts_append, nameDoc,
    texts_present, texts_nil]

end Names

section SpanningTree

def rootPortOf (state : TreeState) : Option String := state.bridge.bind BridgeState.rootPort

theorem flatMap_keys {V : Type} (m : BTreeMap String V) :
    (m.toList.flatMap fun e => [e.1]) = m.keys := by
  rw [← ExtTreeMap.map_fst_toList_eq_keys, List.map_eq_flatMap]

theorem texts_map_inSwitchNs (last : String) (nodes : List Element) :
    texts last (nodes.map inSwitchNs) = texts last nodes := by
  rw [texts_map]
  simp only [name_inSwitchNs, text_inSwitchNs]
  rfl

theorem texts_rootPort (state : TreeState) :
    texts "root-port" (commonStateDoc state.bridge) = (rootPortOf state).toList := by
  rw [commonStateDoc, rootPortOf, texts_present]
  cases state.bridge with
  | none => rfl
  | some b => simp [texts_append, texts_present, texts_cons, texts_nil, bridgeIdDoc]

theorem texts_commonStateDoc (bridge : Option BridgeState) :
    texts "name" (commonStateDoc bridge) = [] := by
  simp [commonStateDoc, texts_present, texts_append, texts_cons, texts_nil, bridgeIdDoc]

theorem texts_portStateDoc (s : PortState) : texts "name" (portStateDoc s) = [] := by
  unfold portStateDoc
  split <;> simp [texts_present, texts_append, texts_cons, texts_nil, bridgeIdDoc]

@[simp] theorem name_treePortsDoc (tree : Tree) (state : TreeState) :
    (treePortsDoc tree state).name = "interfaces" := rfl

theorem texts_treePort (tree : Tree) (state : TreeState) :
    texts "name" (within "interface" (treePortsDoc tree state).children) = tree.ports.keys := by
  simp [treePortsDoc, treePortDoc, within_map, texts_flatMap, texts_cons, texts_nil,
    flatMap_keys]

theorem texts_treePort_state (tree : Tree) (state : TreeState) :
    texts "name" (within "state" (within "interface" (treePortsDoc tree state).children)) =
      tree.ports.keys := by
  simp [treePortsDoc, treePortDoc, within_map, within_flatMap, within_cons, within_nil,
    texts_flatMap, texts_cons, texts_append, texts_nil, texts_present, texts_portStateDoc,
    flatMap_keys]

variable (applied : DesiredState) (states : BTreeMap String InterfaceState)
  (state : Option StpState) (stp : Stp)

/-- The element of the protocol in use. -/
def protocolElement : String :=
  match stp.protocol with
  | .stp | .rstp => "rstp"
  | .mstp => "mstp"

variable (h : applied.stp = some stp)
include h

theorem within_protocol :
    within (protocolElement stp) (within "stp" (stateDoc applied states state)) =
      (protocolDoc stp state).children := by
  rw [within_stp applied states state stp h]
  unfold protocolElement protocolDoc
  cases hprotocol : stp.protocol <;>
    simp [stpStateDoc, within_cons, within_nil, protocolDoc, hprotocol]

theorem texts_region (mstp : stp.protocol = .mstp) :
    textsAt ["stp", "mstp", "state"] "name" (stateDoc applied states state) =
      stp.regionName.toList := by
  have hchildren := within_protocol applied states state stp h
  simp only [protocolElement, mstp] at hchildren
  simp [textsAt, hchildren, protocolDoc, mstp, within_cons, within_nil, texts_append, texts_cons,
    texts_nameDoc, timersDoc, texts_map_inSwitchNs, texts_commonStateDoc]

theorem texts_cistRootPort :
    textsAt ["stp", protocolElement stp, "state"] "root-port" (stateDoc applied states state) =
      (rootPortOf (cistStateOf state)).toList := by
  have hchildren := within_protocol applied states state stp h
  simp only [textsAt, List.foldl_cons, List.foldl_nil, hchildren, protocolDoc]
  cases stp.protocol <;>
    simp [within_cons, within_nil, texts_append, texts_cons, nameDoc, texts_present, timersDoc,
      texts_nil, texts_map_inSwitchNs, texts_rootPort]

theorem texts_cistPorts : textsAt ["stp", protocolElement stp, "interfaces", "interface"] "name"
        (stateDoc applied states state) = stp.cist.ports.keys := by
  have hchildren := within_protocol applied states state stp h
  simp only [textsAt, List.foldl_cons, List.foldl_nil, hchildren, protocolDoc]
  cases stp.protocol <;> simp [within_cons, within_nil, texts_treePort]

theorem texts_cistPorts_state :
    textsAt ["stp", protocolElement stp, "interfaces", "interface", "state"] "name"
        (stateDoc applied states state) = stp.cist.ports.keys := by
  have hchildren := within_protocol applied states state stp h
  simp only [textsAt, List.foldl_cons, List.foldl_nil, hchildren, protocolDoc]
  cases stp.protocol <;> simp [within_cons, within_nil, texts_treePort_state]

theorem within_mstInstances (mstp : stp.protocol = .mstp) :
    within "mst-instance" (within "mst-instances" (within "mstp"
        (within "stp" (stateDoc applied states state)))) =
      stp.mstis.toList.flatMap fun e =>
        (mstInstanceDoc e.1 e.2 (mstiStateOf state e.1)).children := by
  have hchildren := within_protocol applied states state stp h
  simp only [protocolElement, mstp] at hchildren
  simp [hchildren, protocolDoc, mstp, within_cons, within_nil, within_map, mstInstanceDoc]

theorem texts_mstiRootPorts (mstp : stp.protocol = .mstp) :
    textsAt ["stp", "mstp", "mst-instances", "mst-instance", "state"] "root-port"
        (stateDoc applied states state) =
      stp.mstis.toList.filterMap fun e => rootPortOf (mstiStateOf state e.1) := by
  simp [textsAt, within_mstInstances applied states state stp h mstp, within_flatMap, mstInstanceDoc,
    within_cons, within_nil, texts_flatMap, texts_cons, texts_append, texts_map, texts_rootPort,
    List.filterMap_eq_flatMap_toList]

theorem texts_mstiPorts (mstp : stp.protocol = .mstp) :
    textsAt ["stp", "mstp", "mst-instances", "mst-instance", "interfaces", "interface"] "name"
        (stateDoc applied states state) =
      stp.mstis.toList.flatMap fun e => e.2.tree.ports.keys := by
  simp [textsAt, within_mstInstances applied states state stp h mstp, within_flatMap, mstInstanceDoc,
    within_cons, within_nil, texts_flatMap, texts_treePort]

theorem texts_mstiPorts_state (mstp : stp.protocol = .mstp) :
    textsAt ["stp", "mstp", "mst-instances", "mst-instance", "interfaces", "interface", "state"]
        "name" (stateDoc applied states state) =
      stp.mstis.toList.flatMap fun e => e.2.tree.ports.keys := by
  simp [textsAt, within_mstInstances applied states state stp h mstp, within_flatMap, mstInstanceDoc,
    within_cons, within_nil, texts_flatMap, texts_treePort_state]

omit h in
theorem name_protocolDoc : (protocolDoc stp state).name = protocolElement stp := by
  unfold protocolDoc protocolElement
  cases stp.protocol <;> rfl

theorem within_features : within "interfaces" (within "stp" (stateDoc applied states state)) =
      stp.ports.toList.map featuresDoc := by
  have hname : protocolElement stp ≠ "interfaces" := by
    unfold protocolElement
    cases stp.protocol <;> decide
  rw [within_stp applied states state stp h]
  simp [stpStateDoc, within_cons, within_nil, name_protocolDoc, hname]

theorem texts_features :
    textsAt ["stp", "interfaces", "interface"] "name" (stateDoc applied states state) =
      stp.ports.keys := by
  simp [textsAt, within_features applied states state stp h, within_map, featuresDoc, texts_flatMap,
    texts_cons, texts_nil, flatMap_keys]

theorem texts_features_state :
    textsAt ["stp", "interfaces", "interface", "state"] "name" (stateDoc applied states state) =
      stp.ports.keys := by
  simp [textsAt, within_features applied states state stp h, within_map, featuresDoc, within_flatMap,
    within_cons, within_nil, texts_flatMap, texts_cons, texts_append, texts_present, texts_nil,
    flatMap_keys]

end SpanningTree

/-- Every name of the state is the text at its path, as it is and in the order of the maps. -/
structure NamesAt (applied : DesiredState) (states : BTreeMap String InterfaceState)
    (state : Option StpState) (doc : List Element) : Prop where
  interfaces : textsAt ["interfaces", "interface"] "name" doc =
    (applied.ports.keys ++ applied.svis.keys).filter fun name => states[name]?.isSome
  domains : textsAt ("interfaces" :: leaseSteps) "domain" doc =
    applied.svis.toList.filterMap fun e => shownDomain states e.1 e.2
  vlans : applied.mode = .dot1q →
    textsAt ["vlans", "vlan", "state"] "name" doc =
        applied.vlans.toList.filterMap (fun e => e.2.name) ∧
      textsAt ["vlans", "vlan", "members", "member", "state"] "interface" doc =
        applied.vlans.toList.flatMap fun e => memberNames applied e.1
  groups : applied.mode = .portBased →
    textsAt ["port-based-vlans", "group", "state"] "name" doc =
        applied.vlans.toList.filterMap (fun e => e.2.name) ∧
      textsAt ["port-based-vlans", "group", "state"] "port" doc =
        applied.vlans.toList.flatMap fun e => memberNames applied e.1
  region : ∀ stp, applied.stp = some stp → stp.protocol = .mstp →
    textsAt ["stp", "mstp", "state"] "name" doc = stp.regionName.toList
  rootPort : ∀ stp, applied.stp = some stp →
    textsAt ["stp", protocolElement stp, "state"] "root-port" doc =
      (rootPortOf (cistStateOf state)).toList
  rootPorts : ∀ stp, applied.stp = some stp → stp.protocol = .mstp →
    textsAt ["stp", "mstp", "mst-instances", "mst-instance", "state"] "root-port" doc =
      stp.mstis.toList.filterMap fun e => rootPortOf (mstiStateOf state e.1)
  cistPorts : ∀ stp, applied.stp = some stp →
    textsAt ["stp", protocolElement stp, "interfaces", "interface"] "name" doc =
        stp.cist.ports.keys ∧
      textsAt ["stp", protocolElement stp, "interfaces", "interface", "state"] "name" doc =
        stp.cist.ports.keys
  mstiPorts : ∀ stp, applied.stp = some stp → stp.protocol = .mstp →
    textsAt ["stp", "mstp", "mst-instances", "mst-instance", "interfaces", "interface"] "name" doc =
        stp.mstis.toList.flatMap (fun e => e.2.tree.ports.keys) ∧
      textsAt ["stp", "mstp", "mst-instances", "mst-instance", "interfaces", "interface", "state"]
          "name" doc =
        stp.mstis.toList.flatMap fun e => e.2.tree.ports.keys
  features : ∀ stp, applied.stp = some stp →
    textsAt ["stp", "interfaces", "interface"] "name" doc = stp.ports.keys ∧
      textsAt ["stp", "interfaces", "interface", "state"] "name" doc = stp.ports.keys

theorem namesAt_stateDoc (applied : DesiredState) (states : BTreeMap String InterfaceState)
    (state : Option StpState) : NamesAt applied states state (stateDoc applied states state) where
  interfaces := texts_interfaces applied states state
  domains := texts_domains applied states state
  vlans h := ⟨texts_vlanNames applied states state h, texts_vlanMembers applied states state h⟩
  groups h := ⟨texts_groupNames applied states state h, texts_groupMembers applied states state h⟩
  region stp h := texts_region applied states state stp h
  rootPort stp h := texts_cistRootPort applied states state stp h
  rootPorts stp h := texts_mstiRootPorts applied states state stp h
  cistPorts stp h :=
    ⟨texts_cistPorts applied states state stp h, texts_cistPorts_state applied states state stp h⟩
  mstiPorts stp h mstp :=
    ⟨texts_mstiPorts applied states state stp h mstp,
      texts_mstiPorts_state applied states state stp h mstp⟩
  features stp h :=
    ⟨texts_features applied states state stp h, texts_features_state applied states state stp h⟩

end ClixonSwitch.Guarantees
