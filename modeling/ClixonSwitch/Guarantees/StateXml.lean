import ClixonSwitch.Guarantees.StateDocument
import ClixonSwitch.Guarantees.VlanRanges

/-!
# State data is its document

The text that `state_xml` writes is that of the state document. A text that is written
without escaping has no characters of the markup.
-/
namespace ClixonSwitch.Guarantees
open Lib Lib.Xml
open Source.SwitchModel Source.SwitchNet
open Source.SwitchModel.Mib (escape leaf)

section Escaping

/-- The three replacements one after the other escape each character once. -/
theorem toList_escape (text : String) : (escape text).toList = escaped text.toList := by
  have hchar : ∀ c : Char,
      ((if c = '&' then "&amp;".toList else [c]).flatMap fun d =>
        (if d = '<' then "&lt;".toList else [d]).flatMap fun e =>
          if e = '>' then "&gt;".toList else [e]) = escapeChar c := by
    intro c
    by_cases hplain : IsPlain c
    · simp [escapeChar_of_plain hplain, hplain.1, hplain.2.1, hplain.2.2]
    · have hmarkup : c = '<' ∨ c = '>' ∨ c = '&' := by
        unfold IsPlain at hplain
        tauto
      rcases hmarkup with rfl | rfl | rfl <;> decide
  rw [escape, String.toList_ofList, Text.replaceAll_singleton, Text.replaceAll_singleton,
    Text.replaceAll_singleton, List.flatMap_assoc, List.flatMap_assoc, escaped]
  exact List.flatMap_congr fun c _ => hchar c

/-- A text that is the same escaped or not. -/
def PlainText (text : String) : Prop := ∀ c ∈ text.toList, IsPlain c

instance (text : String) : Decidable (PlainText text) :=
  List.decidableBAll IsPlain text.toList

theorem PlainText.append {a b : String} (ha : PlainText a) (hb : PlainText b) :
    PlainText (a ++ b) := by
  intro c hc
  rw [String.toList_append, List.mem_append] at hc
  exact hc.elim (ha c) (hb c)

theorem isPlain_of_isDigit {c : Char} (h : c.isDigit = true) : IsPlain c := by
  refine ⟨?_, ?_, ?_⟩ <;> rintro rfl <;> exact absurd h (by decide)

theorem plainText_nat (n : Nat) : PlainText (toString n) := by
  intro c hc
  rw [Nat.toString_eq_repr, Nat.toList_repr] at hc
  exact isPlain_of_isDigit (Nat.isDigit_of_mem_toDigits (by decide) (by decide) hc)

theorem escape_of_plain {text : String} (h : PlainText text) : escape text = text := by
  rw [← String.toList_inj, toList_escape, escaped_of_plain h]

theorem escape_u8 (n : UInt8) : escape (toString n) = toString n :=
  escape_of_plain (plainText_nat n.toNat)

theorem escape_u16 (n : UInt16) : escape (toString n) = toString n :=
  escape_of_plain (plainText_nat n.toNat)

theorem escape_u32 (n : UInt32) : escape (toString n) = toString n :=
  escape_of_plain (plainText_nat n.toNat)

theorem escape_u64 (n : UInt64) : escape (toString n) = toString n :=
  escape_of_plain (plainText_nat n.toNat)

theorem escape_bool (b : Bool) : escape (toString b) = toString b := by
  cases b <;> exact escape_of_plain (by decide)

theorem escape_displayAddr (a : Ipv4Addr) : escape (displayAddr a) = displayAddr a := by
  have hdot : PlainText "." := by decide
  have hnat := plainText_nat
  unfold displayAddr
  exact escape_of_plain (((((((hnat _).append hdot).append (hnat _)).append hdot).append
    (hnat _)).append hdot).append (hnat _))

end Escaping

section Writing
variable (name text : String) (plain : PlainName name = true) (children : List Element)

theorem render_node :
    (node name children plain).render =
      (startTag name).toList ++ renderAll children ++ (endTag name).toList := by
  simp [node, tagNamed, Element.render, Tag.start, Tag.stop, Tag.label, startTag, endTag, escaped]

theorem render_leafNode :
    (leafNode name text plain).render = (leaf name (escape text)).toList := by
  have hleaf : leaf name (escape text) = "<" ++ name ++ ">" ++ escape text ++ "</" ++ name ++ ">" :=
    rfl
  rw [hleaf]
  simp [leafNode, tagNamed, Element.render, Tag.start, Tag.stop, Tag.label, toList_escape,
    renderAll]

theorem render_elem (tag : Tag) (attrs : tag.attrs.isEmpty = false) :
    (Element.elem tag text children).render =
      (startTagWith tag.name tag.attrs).toList ++ (escape text).toList ++ renderAll children ++
        (endTag tag.name).toList := by
  simp [Element.render, Tag.start, Tag.stop, Tag.label, startTagWith, endTag, attrs, toList_escape]

theorem isEmpty_xmlns (ns : String) : (xmlns ns).isEmpty = false := by
  simp [xmlns, ← Bool.not_eq_true, String.isEmpty_iff]

theorem render_tagWith (ns : String) (attrs : PlainAttrs (xmlns ns) = true) :
    (Element.elem (tagWith name (xmlns ns) plain attrs) "" children).render =
      (startTagWith name (xmlns ns)).toList ++ renderAll children ++ (endTag name).toList := by
  rw [render_elem _ _ _ (isEmpty_xmlns ns), toList_escape]
  simp [tagWith, escaped]

theorem render_inSwitchNs_node :
    (inSwitchNs (node name children plain)).render =
      (startTagWith name (xmlns switchNs)).toList ++ renderAll children ++ (endTag name).toList :=
  render_tagWith name plain children switchNs plain_switchNs

theorem render_typesTag (value : PlainText text) :
    (Element.elem (typesTag name plain) text []).render =
      (startTagWith name typesXmlns).toList ++ text.toList ++ (endTag name).toList := by
  rw [render_elem _ _ _ (by decide : typesXmlns.isEmpty = false), escape_of_plain value]
  simp [typesTag, renderAll]

variable {α : Type}

theorem toList_optionally (value : Option α) (write : α → String) :
    (optionally value write).toList = (value.map fun a => (write a).toList).getD [] := by
  cases value <;> rfl

theorem renderAll_present (value : Option α) (doc : α → List Element) :
    renderAll (present value doc) = (value.map fun a => renderAll (doc a)).getD [] := by
  cases value <;> rfl

theorem renderAll_present_of {value : Option α} {doc : α → List Element} {write : α → String}
    (h : ∀ a, value = some a → renderAll (doc a) = (write a).toList) :
    renderAll (present value doc) = (optionally value write).toList := by
  cases value with
  | none => rfl
  | some a => exact h a rfl

theorem toList_join_map (xs : List α) (write : α → String) :
    (String.join (xs.map write)).toList = xs.flatMap fun x => (write x).toList := by
  simp [List.flatMap, Function.comp_def]

end Writing

section Interfaces

theorem render_leaseDoc (lease : DhcpLease) :
    (leaseDoc lease).render = (leaseXml lease).toList := by
  simp only [leaseDoc, leaseXml, render_inSwitchNs_node, renderAll_append, renderAll_present,
    renderAll_map, renderAll, render_leafNode, toList_optionally, toList_join_map,
    String.toList_append, escape_displayAddr, escape_u8, escape_u32, List.append_assoc,
    List.append_nil]

theorem escape_origin (origin : AddressOrigin) : escape origin.asStr = origin.asStr := by
  cases origin <;> exact escape_of_plain (by decide)

theorem escape_operStatus (status : OperStatus) : escape status.asStr = status.asStr := by
  cases status <;> exact escape_of_plain (by decide)

theorem escape_ite {p : Prop} [Decidable p] {a b : String} (ha : PlainText a)
    (hb : PlainText b) : escape (if p then a else b) = if p then a else b := by
  split
  · exact escape_of_plain ha
  · exact escape_of_plain hb

theorem render_addressDoc (e : Ipv4Prefix × AddressOrigin) :
    (addressDoc e).render =
      (startTag "address" ++ leaf "ip" (displayAddr e.1.addr) ++ startTag "state" ++
        leaf "ip" (displayAddr e.1.addr) ++ leaf "prefix-length" (toString e.1.prefixLen) ++
        leaf "origin" e.2.asStr ++ endTag "state" ++ endTag "address").toList := by
  simp only [addressDoc, render_node, renderAll, render_leafNode, String.toList_append,
    escape_displayAddr, escape_u8, escape_origin, List.append_assoc, List.append_nil]

theorem render_sviIpv4Doc (svi : Svi) (s : InterfaceState) :
    (sviIpv4Doc svi s).render = (sviIpv4StateXml svi s).toList := by
  have hlease : renderAll (if svi.dhcpClient then present s.dhcpLease fun l => [leaseDoc l] else []) =
      (if svi.dhcpClient then optionally s.dhcpLease leaseXml else "").toList := by
    split
    · simp only [renderAll_present, renderAll, render_leaseDoc, toList_optionally, List.append_nil]
    · rfl
  simp only [sviIpv4Doc, sviIpv4StateXml, render_tagWith, render_node, renderAll, renderAll_map,
    render_addressDoc, render_leafNode, hlease, toList_join_map, String.toList_append, escape_bool,
    List.append_assoc, List.append_nil]

theorem renderAll_interfaceDoc (states : BTreeMap String InterfaceState) (name : String)
    (svi : Option Svi) :
    renderAll (interfaceDoc states name svi) = (interfaceXml states name svi).toList := by
  have hadmin (s : InterfaceState) :
      escape (if s.adminUp then "UP" else "DOWN") = if s.adminUp then "UP" else "DOWN" :=
    escape_ite (by decide) (by decide)
  refine renderAll_present_of fun s _ => ?_
  cases svi <;> cases hmac : s.mac <;>
    simp only [render_node, renderAll, renderAll_append, renderAll_present, render_leafNode,
      countersDoc, ethernetDoc, render_tagWith, render_sviIpv4Doc, toList_optionally,
      String.toList_append, escape_u64, escape_operStatus, hadmin, List.append_assoc,
      List.append_nil, Option.map_none, Option.map_some, Option.getD_none, Option.getD_some,
      String.toList_empty]

end Interfaces

section Vlans
variable (applied : DesiredState)

theorem members_eq (vlan : UInt16) : members applied vlan = (memberNames applied vlan).map escape := by
  rw [members, memberNames, List.map_map]
  rfl

theorem renderAll_nameDoc (name : Option String) :
    renderAll (nameDoc name) = (optionally name fun n => leaf "name" (escape n)).toList :=
  renderAll_present_of fun n _ => by rw [renderAll, renderAll, render_leafNode, List.append_nil]

theorem render_vlanDoc (e : UInt16 × Vlan) :
    (vlanDoc applied e).render = (vlanXml applied e.1 e.2).toList := by
  have hstatus : escape (if e.2.active then "ACTIVE" else "SUSPENDED") =
      if e.2.active then "ACTIVE" else "SUSPENDED" := escape_ite (by decide) (by decide)
  simp only [vlanDoc, vlanXml, nameXml, members_eq, render_node, renderAll, renderAll_append,
    renderAll_map, renderAll_nameDoc, render_leafNode, toList_join_map, List.flatMap_map,
    String.toList_append, escape_u16, hstatus, List.append_assoc, List.append_nil]

theorem render_groupDoc (e : UInt16 × Vlan) :
    (groupDoc applied e).render = (groupXml applied e.1 e.2).toList := by
  simp only [groupDoc, groupXml, nameXml, members_eq, render_node, renderAll, renderAll_append,
    renderAll_map, renderAll_nameDoc, render_leafNode, toList_join_map, List.flatMap_map,
    String.toList_append, escape_u16, List.append_assoc, List.append_nil]

theorem renderAll_vlansDoc : renderAll (vlansDoc applied) = (vlansXml applied).toList := by
  unfold vlansDoc vlansXml
  split
  · rfl
  · cases applied.mode <;>
      simp only [renderAll, render_inSwitchNs_node, renderAll_map, render_vlanDoc, render_groupDoc,
        toList_join_map, String.toList_append, List.append_assoc, List.append_nil]

end Vlans

section MacTexts

/-- Hexadecimal digits and colons. -/
def MacText (text : String) : Prop := ∀ c ∈ text.toList, c ∈ "0123456789abcdefABCDEF:".toList

instance (text : String) : Decidable (MacText text) := List.decidableBAll _ text.toList

theorem MacText.plain {text : String} (h : MacText text) : PlainText text := by
  have hall : PlainText "0123456789abcdefABCDEF:" := by decide
  exact fun c hc => hall c (h c hc)

structure BridgeMacs (b : BridgeState) : Prop where
  bridge : ∀ id, b.bridge = some id → MacText id.address
  root : ∀ id, b.root = some id → MacText id.address

structure PortMacs (s : PortState) : Prop where
  root : ∀ id, s.designatedRoot = some id → MacText id.address
  bridge : ∀ id, s.designatedBridge = some id → MacText id.address

structure TreeMacs (state : TreeState) : Prop where
  bridge : ∀ b, state.bridge = some b → BridgeMacs b
  ports : ∀ (name : String) (s : PortState), state.ports[name]? = some s → PortMacs s

/-- The bridge addresses that mstpd reports are MAC addresses. -/
structure StpMacs (state : StpState) : Prop where
  cist : TreeMacs state.cist
  mstis : ∀ (id : UInt16) (tree : TreeState), state.mstis[id]? = some tree → TreeMacs tree

theorem treeMacs_default : TreeMacs {} :=
  ⟨nofun, fun name s h => by rw [Std.ExtTreeMap.getElem?_empty] at h; cases h⟩

end MacTexts

section SpanningTree

theorem renderAll_bridgeIdDoc (priority address : String) (id : BridgeId) (mac : MacText id.address)
    (plainPriority : PlainName priority = true) (plainAddress : PlainName address = true) :
    renderAll (bridgeIdDoc priority address id plainPriority plainAddress) =
      (leaf priority (toString id.priority) ++ leaf address id.address).toList := by
  simp only [bridgeIdDoc, renderAll, render_leafNode, escape_u16, escape_of_plain mac.plain,
    String.toList_append, List.append_nil]

theorem renderAll_commonStateDoc (bridge : Option BridgeState)
    (macs : ∀ b, bridge = some b → BridgeMacs b) :
    renderAll (commonStateDoc bridge) = (commonStateXml bridge).toList := by
  refine renderAll_present_of fun b hb => ?_
  have hbridge : renderAll (present b.bridge fun id => [leafNode "bridge-address" id.address]) =
      (optionally b.bridge fun id => leaf "bridge-address" id.address).toList :=
    renderAll_present_of fun id hid => by
      rw [renderAll, renderAll, render_leafNode, List.append_nil,
        escape_of_plain ((macs b hb).bridge id hid).plain]
  have hroot := renderAll_present_of fun id hid =>
    renderAll_bridgeIdDoc "designated-root-priority" "designated-root-address" id
      ((macs b hb).root id hid) (by decide) (by decide)
  simp only [renderAll_append, hbridge, hroot, renderAll_present, renderAll, render_leafNode,
    toList_optionally, String.toList_append, escape_u32, escape_u64, List.append_nil]

theorem plainText_role (role : PortRole) : PlainText ("oc-stp-types:" ++ role.asStr) := by
  cases role <;> decide

theorem plainText_portState (state : StpPortState) :
    PlainText ("oc-stp-types:" ++ state.asStr) := by
  cases state <;> decide

theorem renderAll_portStateDoc (s : PortState) (macs : PortMacs s) :
    renderAll (portStateDoc s) = (portStateXml s).toList := by
  have hroot := renderAll_present_of fun id hid =>
    renderAll_bridgeIdDoc "designated-root-priority" "designated-root-address" id
      (macs.root id hid) (by decide) (by decide)
  have hbridge := renderAll_present_of fun id hid =>
    renderAll_bridgeIdDoc "designated-bridge-priority" "designated-bridge-address" id
      (macs.bridge id hid) (by decide) (by decide)
  have hrole (role : PortRole) := render_typesTag "role" _ (by decide) (plainText_role role)
  have hstate (state : StpPortState) :=
    render_typesTag "port-state" _ (by decide) (plainText_portState state)
  have hcounters : renderAll (if s.bpduSent.isSome || s.bpduReceived.isSome then
        [node "counters"
          (present s.bpduSent (fun n => [leafNode "bpdu-sent" (toString n)]) ++
            present s.bpduReceived (fun n => [leafNode "bpdu-received" (toString n)]))]
      else []) =
      (if s.bpduSent.isSome || s.bpduReceived.isSome then
        startTag "counters" ++ optionally s.bpduSent (fun n => leaf "bpdu-sent" (toString n)) ++
          optionally s.bpduReceived (fun n => leaf "bpdu-received" (toString n)) ++
          endTag "counters"
      else "").toList := by
    split
    · simp only [renderAll, render_node, renderAll_append, renderAll_present, render_leafNode,
        toList_optionally, String.toList_append, escape_u64, List.append_assoc, List.append_nil]
    · rfl
  simp only [portStateDoc, portStateXml, renderAll_append, hroot, hbridge, hcounters,
    String.toList_append]
  simp only [renderAll_present, renderAll, render_leafNode, hrole, hstate, toList_optionally,
    String.toList_append, escape_u8, escape_u16, escape_u32, escape_u64, List.append_assoc,
    List.append_nil]

theorem render_treePortsDoc (tree : Tree) (state : TreeState) (macs : TreeMacs state) :
    (treePortsDoc tree state).render = (treePortsXml "interfaces" tree state).toList := by
  have hport (name : String) :
      renderAll (present state.ports[name]? portStateDoc) =
        (optionally state.ports[name]? portStateXml).toList :=
    renderAll_present_of fun s hs => renderAll_portStateDoc s (macs.ports name s hs)
  have hcost (cost : Option UInt32) :
      renderAll (present cost fun cost => [leafNode "cost" (toString cost)]) =
        (optionally cost fun cost => leaf "cost" (toString cost)).toList :=
    renderAll_present_of fun n _ => by
      rw [renderAll, renderAll, render_leafNode, escape_u32, List.append_nil]
  simp only [treePortsDoc, treePortDoc, treePortsXml, render_node, renderAll_map, renderAll,
    renderAll_append, render_leafNode, hport, hcost, toList_join_map, String.toList_append,
    escape_u8, List.append_assoc, List.append_nil]

theorem renderAll_timersDoc (stp : Stp) : renderAll (timersDoc stp) = (timersXml stp).toList := by
  simp only [timersDoc, timersXml, renderAll, render_leafNode, escape_u8, String.toList_append,
    List.append_assoc, List.append_nil]

theorem escape_vlanRanges {vlans : BTreeSet UInt16} {range : String}
    (h : range ∈ vlanRanges ".." vlans) : escape range = range := by
  obtain ⟨r, -, rfl⟩ := List.mem_map.mp h
  have hdots : PlainText ".." := by decide
  have hid (id : UInt16) : PlainText (toString id) := plainText_nat id.toNat
  split
  · exact escape_of_plain (hid r.1)
  · exact escape_of_plain (((hid r.1).append hdots).append (hid r.2))

theorem render_mstInstanceDoc (id : UInt16) (msti : Msti) (state : TreeState)
    (macs : TreeMacs state) :
    (mstInstanceDoc id msti state).render = (mstInstanceXml id msti state).toList := by
  have hvlans : renderAll ((vlanRanges ".." msti.vlans).map fun range => leafNode "vlan" range) =
      (String.join ((vlanRanges ".." msti.vlans).map fun range => leaf "vlan" range)).toList := by
    rw [renderAll_map, toList_join_map]
    refine List.flatMap_congr fun range hrange => ?_
    rw [render_leafNode, escape_vlanRanges hrange]
  simp only [mstInstanceDoc, mstInstanceXml, render_node, renderAll, renderAll_append,
    render_leafNode, hvlans, renderAll_commonStateDoc state.bridge macs.bridge,
    render_treePortsDoc _ _ macs, String.toList_append, escape_u16, List.append_assoc,
    List.append_nil]

end SpanningTree

section Namespaces

theorem namespacePart_stop (ns : String) (name : List Char) :
    namespacePart ns ('/' :: name) = '/' :: name := rfl

theorem namespacePart_start (ns : String) {name : List Char} (text : List Char) (h : '>' ∉ name)
    (hslash : '/' ∉ name) :
    namespacePart ns (name ++ '>' :: text) =
      name ++ ' ' :: (xmlns ns).toList ++ '>' :: text := by
  have hhead : (name ++ '>' :: text).head? ≠ some '/' := by
    cases name with
    | nil => simp
    | cons c rest =>
      rw [List.mem_cons, not_or] at hslash
      simpa using Ne.symm hslash.1
  rw [namespacePart, if_neg hhead, Text.splitOnce_append h]

/-- A leaf without attributes. -/
def IsLeaf (n : Element) : Prop := ∃ name text plain, n = leafNode name text plain

theorem pieces_withAttrs {n : Element} (leaf : IsLeaf n) (ns : String)
    (plain : PlainAttrs (xmlns ns) = true) :
    (withAttrs (xmlns ns) plain n).pieces = n.pieces.map (namespacePart ns) := by
  obtain ⟨name, text, hname, rfl⟩ := leaf
  have hgt : '>' ∉ name.toList := (tagNamed name hname).name_not_mem.2.1
  have hslash : '/' ∉ name.toList := (tagNamed name hname).name_not_mem.2.2.2
  have hold : (leafNode name text hname).pieces =
      [name.toList ++ '>' :: escaped text.toList, '/' :: (name.toList ++ ['>'])] := rfl
  have hlabel : (tagWith name (xmlns ns) hname plain).label =
      name.toList ++ ' ' :: (xmlns ns).toList := by
    simp [Tag.label, tagWith, isEmpty_xmlns]
  have hnew : (withAttrs (xmlns ns) plain (leafNode name text hname)).pieces =
      [(tagWith name (xmlns ns) hname plain).label ++ '>' :: escaped text.toList,
        '/' :: (name.toList ++ ['>'])] := rfl
  rw [hnew, hlabel, hold, List.map_cons, List.map_singleton,
    namespacePart_start ns _ hgt hslash, namespacePart_stop]

theorem piecesAll_withAttrs {nodes : List Element} (leaves : ∀ n ∈ nodes, IsLeaf n) (ns : String)
    (plain : PlainAttrs (xmlns ns) = true) :
    piecesAll (nodes.map (withAttrs (xmlns ns) plain)) =
      (piecesAll nodes).map (namespacePart ns) := by
  induction nodes with
  | nil => rfl
  | cons n rest ih =>
    rw [List.map_cons, piecesAll, piecesAll, List.map_append, pieces_withAttrs (leaves n (by simp)),
      ih fun m hm => leaves m (by simp [hm])]

/-- On a sequence of leaves, `namespaced` sets the namespace and nothing else. -/
theorem toList_namespaced {fragment : String} {nodes : List Element}
    (written : fragment.toList = renderAll nodes) (leaves : ∀ n ∈ nodes, IsLeaf n) (ns : String)
    (plain : PlainAttrs (xmlns ns) = true) :
    (namespaced fragment ns).toList = renderAll (nodes.map (withAttrs (xmlns ns) plain)) := by
  have hparts : (namespaced fragment ns).toList =
      ['<'].intercalate ((fragment.toList.splitOn '<').map (namespacePart ns)) :=
    String.toList_ofList
  have hfirst : namespacePart ns [] = [] := rfl
  rw [hparts, written, renderAll_eq_pieces, splitOn_pieces (piecesAll_not_mem nodes),
    List.map_cons, hfirst, intercalate_pieces, renderAll_eq_pieces,
    piecesAll_withAttrs leaves]

theorem isLeaf_present {α : Type} {value : Option α} {doc : α → List Element} {n : Element}
    (h : n ∈ present value doc) (leaves : ∀ a, ∀ n ∈ doc a, IsLeaf n) : IsLeaf n := by
  cases value with
  | none => exact absurd h List.not_mem_nil
  | some a => exact leaves a n h

theorem isLeaf_leafNode (name text : String) (plain : PlainName name = true) :
    ∀ n ∈ [leafNode name text plain], IsLeaf n := by
  intro n hn
  exact ⟨name, text, plain, List.mem_singleton.mp hn⟩

theorem isLeaf_commonStateDoc (bridge : Option BridgeState) :
    ∀ n ∈ commonStateDoc bridge, IsLeaf n := by
  intro n hn
  refine isLeaf_present hn fun b n hn => ?_
  simp only [List.mem_append] at hn
  rcases hn with (((hn | hn) | hn) | hn) | hn <;> refine isLeaf_present hn fun a => ?_
  · exact isLeaf_leafNode _ _ _
  · intro n hn
    rcases List.mem_cons.mp hn with rfl | hn
    · exact ⟨_, _, _, rfl⟩
    · exact isLeaf_leafNode _ _ _ n hn
  all_goals exact isLeaf_leafNode _ _ _

theorem toList_namespaced_commonState (bridge : Option BridgeState)
    (macs : ∀ b, bridge = some b → BridgeMacs b) :
    (namespaced (commonStateXml bridge) switchNs).toList =
      renderAll ((commonStateDoc bridge).map inSwitchNs) :=
  toList_namespaced (renderAll_commonStateDoc bridge macs).symm (isLeaf_commonStateDoc bridge)
    switchNs plain_switchNs

/-- The first "<interfaces>" of the text is the element's own start tag. -/
theorem toList_replaceFirst_treePorts (tree : Tree) (state : TreeState) (macs : TreeMacs state) :
    (replaceFirst (treePortsXml "interfaces" tree state) (startTag "interfaces")
        (startTagWith "interfaces" (xmlns switchNs))).toList =
      (inSwitchNs (treePortsDoc tree state)).render := by
  have htext := (render_treePortsDoc tree state macs).symm
  rw [treePortsDoc, render_node, List.append_assoc] at htext
  have hsplit : Text.splitOnce (startTag "interfaces").toList
      (treePortsXml "interfaces" tree state).toList =
      some ([], renderAll (tree.ports.toList.map (treePortDoc state)) ++
        (endTag "interfaces").toList) := by
    rw [htext]
    exact Text.splitOnce_append_of_not_mem "interfaces>".toList (List.not_mem_nil)
  rw [replaceFirst, hsplit, treePortsDoc, render_inSwitchNs_node]
  simp

end Namespaces

section State

theorem treeMacs_cistStateOf {state : Option StpState}
    (macs : ∀ s, state = some s → StpMacs s) : TreeMacs (cistStateOf state) := by
  cases state with
  | none => exact treeMacs_default
  | some s => exact (macs s rfl).cist

theorem treeMacs_mstiStateOf {state : Option StpState} (macs : ∀ s, state = some s → StpMacs s)
    (id : UInt16) : TreeMacs (mstiStateOf state id) := by
  cases state with
  | none => exact treeMacs_default
  | some s =>
    unfold mstiStateOf
    rw [Option.bind_some]
    cases htree : s.mstis[id]? with
    | none => exact treeMacs_default
    | some tree => exact (macs s rfl).mstis id tree htree

theorem render_inSwitchNs_leafNode (name text : String) (plain : PlainName name = true) :
    (inSwitchNs (leafNode name text plain)).render =
      (startTagWith name (xmlns switchNs)).toList ++ (escape text).toList ++
        (endTag name).toList := by
  have helem := render_elem text [] (tagWith name (xmlns switchNs) plain plain_switchNs)
    (isEmpty_xmlns switchNs)
  rw [renderAll, List.append_nil] at helem
  exact helem

theorem render_protocolDoc (stp : Stp) (state : Option StpState)
    (macs : ∀ s, state = some s → StpMacs s) :
    (protocolDoc stp state).render = (protocolXml stp state).toList := by
  have hcist := treeMacs_cistStateOf macs
  have hcommon := renderAll_commonStateDoc (cistStateOf state).bridge hcist.bridge
  have hports := render_treePortsDoc stp.cist (cistStateOf state) hcist
  have hmstis : renderAll (stp.mstis.toList.map fun e =>
        mstInstanceDoc e.1 e.2 (mstiStateOf state e.1)) =
      (String.join (stp.mstis.toList.map fun e =>
        mstInstanceXml e.1 e.2 ((state.bind fun s => s.mstis[e.1]?).getD {}))).toList := by
    rw [renderAll_map, toList_join_map]
    refine List.flatMap_congr fun e _ => ?_
    exact render_mstInstanceDoc e.1 e.2 _ (treeMacs_mstiStateOf macs e.1)
  have hspaced := (toList_namespaced_commonState _ hcist.bridge).symm
  have hreplaced := (toList_replaceFirst_treePorts stp.cist _ hcist).symm
  unfold protocolDoc protocolXml
  rw [← cistStateOf]
  cases stp.protocol <;>
    simp only [render_node, renderAll, renderAll_append, renderAll_nameDoc, renderAll_timersDoc,
      render_leafNode, render_inSwitchNs_leafNode, hcommon, hports, hmstis, hspaced, hreplaced,
      String.toList_append, escape_u8, escape_u16, List.append_assoc, List.append_nil]

theorem plainText_edge (edge : EdgePort) : PlainText edge.identity := by
  cases edge <;> decide

theorem render_featuresDoc (e : String × PortFeatures) :
    (featuresDoc e).render = (featuresXml e.1 e.2).toList := by
  have hlink (p2p : Bool) : escape (if p2p then "P2P" else "SHARED") =
      if p2p then "P2P" else "SHARED" := escape_ite (by decide) (by decide)
  have hguard : escape (if e.2.rootGuard then "ROOT" else "NONE") =
      if e.2.rootGuard then "ROOT" else "NONE" := escape_ite (by decide) (by decide)
  have hedge := render_typesTag "edge-port" _ (by decide) (plainText_edge e.2.edge)
  simp only [featuresDoc, featuresXml, render_node, renderAll, renderAll_append,
    renderAll_present, render_leafNode, hedge, hlink, hguard, toList_optionally,
    String.toList_append, escape_bool, List.append_assoc, List.append_nil]

theorem plainText_protocol (protocol : StpProtocol) : PlainText protocol.identity := by
  cases protocol <;> decide

theorem render_stpStateDoc (stp : Stp) (state : Option StpState)
    (macs : ∀ s, state = some s → StpMacs s) :
    (stpStateDoc stp state).render = (stpStateXml stp state).toList := by
  have hprotocol := render_elem stp.protocol.identity [] enabledProtocolTag (by decide)
  rw [escape_of_plain (plainText_protocol stp.protocol)] at hprotocol
  simp only [stpStateDoc, stpStateXml, render_tagWith, render_node, renderAll, renderAll_map,
    hprotocol, render_protocolDoc stp state macs, render_featuresDoc, toList_join_map,
    String.toList_append, List.append_assoc, List.append_nil]
  rfl

theorem escape_mode (mode : VlanMode) : escape mode.asStr = mode.asStr := by
  cases mode <;> exact escape_of_plain (by decide)

/-- `state_xml` writes the state document. -/
theorem renderAll_stateDoc (applied : DesiredState) (states : BTreeMap String InterfaceState)
    (stp : Option StpState) (macs : ∀ s, stp = some s → StpMacs s) :
    renderAll (stateDoc applied states stp) = (stateXml applied states stp).toList := by
  have hstp : renderAll (present applied.stp fun s => [stpStateDoc s stp]) =
      (optionally applied.stp fun s => stpStateXml s stp).toList :=
    renderAll_present_of fun s _ => by
      rw [renderAll, renderAll, render_stpStateDoc s stp macs, List.append_nil]
  simp only [stateDoc, stateXml, renderAll, renderAll_append, render_tagWith, renderAll_flatMap,
    renderAll_interfaceDoc, render_inSwitchNs_node, render_node, render_leafNode, escape_mode,
    renderAll_vlansDoc, hstp, toList_join_map, String.toList_append, List.append_assoc,
    List.append_nil]

end State
end ClixonSwitch.Guarantees
