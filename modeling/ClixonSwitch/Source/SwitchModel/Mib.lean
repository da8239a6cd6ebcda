import ClixonSwitch.Source.SwitchModel.Snmp

/-!
# The VLAN views of the bridge MIBs

`q_bridge_xml`, `port_vlan_xml` and what they use of `crates/switch-model/src/mib.rs`:
port numbers, port lists and base64. The tables are built as rows and then written as
XML. A port list that would index out of range makes the source panic; here it is `none`.
-/
namespace ClixonSwitch.Source.SwitchModel.Mib
open Lib

def qBridgeMibNs : String := "urn:ietf:params:xml:ns:yang:smiv2:Q-BRIDGE-MIB"

/-- A port's VLANs as the kernel bridge has them: VLAN id, and whether egress is untagged. -/
structure PortVlans where
  pvid : Option UInt16 := none
  vlans : BTreeMap UInt16 Bool := ∅
  deriving DecidableEq

inductive FdbStatus where
  | learned | own | mgmt
  deriving DecidableEq, Repr

def FdbStatus.asStr : FdbStatus → String
  | .learned => "learned"
  | .own => "self"
  | .mgmt => "mgmt"

/-- An entry of the bridge's forwarding database, on a port or on the bridge itself. -/
structure FdbEntry where
  mac : List UInt8
  vlan : Option UInt16
  port : String
  status : FdbStatus
  deriving DecidableEq, Repr

/-- What the VLAN views are built from. -/
structure BridgeInfo where
  applied : DesiredState
  portVlans : BTreeMap String PortVlans
  /-- Absent if not read for this request. -/
  fdb : Option (List FdbEntry)

section Numbers

/-- The number at the end of a name, if it fits 32 bits. -/
def trailing (name : String) : Option Nat :=
  Text.parseUnsigned 10 (2 ^ 32) (name.toList.reverse.takeWhile Text.isAsciiDigit).reverse

/-- By the number at the end, then by name; names without a number last. -/
def portOrder (a b : String) : Ordering :=
  (compare (trailing a).isNone (trailing b).isNone).then
    ((compare (trailing a) (trailing b)).then (compare a b))

def sortedPorts (ports : List String) : List String :=
  ports.insertionSort fun a b => (portOrder a b).isLE = true

/-- The number of the port at position `i`. -/
def portNumber (i : Nat) : UInt16 := if i + 1 < 2 ^ 16 then UInt16.ofNat (i + 1) else 65535

/-- Port numbers from 1 on. -/
def portNumbers (ports : List String) : BTreeMap String UInt16 :=
  BTreeMap.collect ((sortedPorts ports).zipIdx.map fun e => (e.1, portNumber e.2))

variable {ports : List String}

theorem sortedPorts_perm (ports : List String) : (sortedPorts ports).Perm ports :=
  List.perm_insertionSort _ ports

theorem portNumbers_names (ports : List String) :
    ((sortedPorts ports).zipIdx.map fun e => (e.1, portNumber e.2)).map Prod.fst =
      sortedPorts ports := by
  rw [List.map_map]
  exact List.zipIdx_map_fst 0 (sortedPorts ports)

theorem mem_portNumbers (ports : List String) (name : String) :
    name ∈ portNumbers ports ↔ name ∈ ports := by
  rw [portNumbers, BTreeMap.mem_collect, portNumbers_names, (sortedPorts_perm ports).mem_iff]

theorem portNumbers_size (nodup : ports.Nodup) : (portNumbers ports).size = ports.length := by
  have hnodup : (sortedPorts ports).Nodup := (sortedPorts_perm ports).nodup_iff.mpr nodup
  rw [portNumbers, BTreeMap.size_collect _ (by rwa [portNumbers_names]), List.length_map,
    List.length_zipIdx, (sortedPorts_perm ports).length_eq]

theorem portNumber_sub_one_le (i : Nat) : (portNumber i - 1).toNat ≤ i := by
  unfold portNumber
  split
  · next h =>
    have hone : (1 : UInt16) ≤ UInt16.ofNat (i + 1) := by
      rw [UInt16.le_iff_toNat_le, UInt16.toNat_ofNat_of_lt' h]
      simp
    rw [UInt16.toNat_sub_of_le _ _ hone, UInt16.toNat_ofNat_of_lt' h]
    simp
  · next h =>
    have hlast : ((65535 : UInt16) - 1).toNat = 65534 := rfl
    omega

/-- Every number has its bit in a port list. -/
def Numbered (numbers : BTreeMap String UInt16) : Prop :=
  ∀ (name : String) (n : UInt16), numbers[name]? = some n → (n - 1).toNat < numbers.size

theorem portNumbers_numbered (nodup : ports.Nodup) : Numbered (portNumbers ports) := by
  intro name n h
  obtain ⟨⟨name', i⟩, hmem, heq⟩ := List.mem_map.mp (BTreeMap.mem_of_getElem?_collect h)
  obtain ⟨-, rfl⟩ := Prod.mk.inj heq
  obtain ⟨hi, -⟩ := List.mem_zipIdx' hmem
  rw [(sortedPorts_perm ports).length_eq] at hi
  rw [portNumbers_size nodup]
  exact lt_of_le_of_lt (portNumber_sub_one_le i) hi

end Numbers

section PortLists

def base64Chars : List Char :=
  "ABCDEFGHIJKLMNOPQRSTUVWXYZabcdefghijklmnopqrstuvwxyz0123456789+/".toList

/-- The four characters of up to three octets. -/
def base64Group (chunk : List UInt8) : List Char :=
  let n : UInt32 := (chunk.getD 0 0).toUInt32 <<< 16 ||| (chunk.getD 1 0).toUInt32 <<< 8 |||
    (chunk.getD 2 0).toUInt32
  (List.range 4).map fun i =>
    if i ≤ chunk.length then
      base64Chars.getD (((n >>> UInt32.ofNat (18 - 6 * i)) &&& 0x3f).toNat) '='
    else '='

def base64Text : List UInt8 → List Char
  | [] => []
  | a :: b :: c :: rest => base64Group [a, b, c] ++ base64Text rest
  | chunk => base64Group chunk

def base64 (octets : List UInt8) : String := String.ofList (base64Text octets)

/-- Sets the bit of one port; a port without a number has none. -/
def setPort (numbers : BTreeMap String UInt16) (list : List UInt8) (port : String) :
    Option (List UInt8) :=
  match numbers[port]? with
  | none => some list
  | some n =>
    let bit := (n - 1).toNat
    if bit / 8 < list.length then
      some (list.modify (bit / 8) fun o => o ||| (0x80 >>> UInt8.ofNat (bit % 8)))
    else none

/-- One octet per 8 ports, port 1 in the most significant bit of the first octet. -/
def portOctets (ports : List String) (numbers : BTreeMap String UInt16) : Option (List UInt8) :=
  ports.foldlM (setPort numbers) (List.replicate (max ((numbers.size + 7) / 8) 1) 0)

def portList (ports : List String) (numbers : BTreeMap String UInt16) : Option String :=
  (portOctets ports numbers).map base64

variable {numbers : BTreeMap String UInt16}

theorem setPort_some (numbered : Numbered numbers) {list : List UInt8}
    (room : numbers.size ≤ 8 * list.length) (port : String) :
    ∃ list', setPort numbers list port = some list' ∧ list'.length = list.length := by
  unfold setPort
  cases hn : numbers[port]? with
  | none => exact ⟨list, rfl, rfl⟩
  | some n =>
    have hbit := numbered port n hn
    have hroom : (n - 1).toNat / 8 < list.length := by omega
    simp only [if_pos hroom]
    exact ⟨_, rfl, List.length_modify ..⟩

theorem foldlM_setPort_some (numbered : Numbered numbers) (ports : List String)
    {list : List UInt8} (room : numbers.size ≤ 8 * list.length) :
    ∃ list', ports.foldlM (setPort numbers) list = some list' ∧ list'.length = list.length := by
  induction ports generalizing list with
  | nil => exact ⟨list, rfl, rfl⟩
  | cons port rest ih =>
    obtain ⟨next, hnext, hlength⟩ := setPort_some numbered room port
    have hroom : numbers.size ≤ 8 * next.length := by rwa [hlength]
    obtain ⟨last, hlast, hsame⟩ := ih hroom
    refine ⟨last, ?_, hsame.trans hlength⟩
    rw [List.foldlM_cons, hnext]
    exact hlast

/-- A port list never indexes out of range. -/
theorem portList_some (numbered : Numbered numbers) (ports : List String) :
    ∃ text, portList ports numbers = some text := by
  have hroom : numbers.size ≤ 8 * (List.replicate (max ((numbers.size + 7) / 8) 1) (0 : UInt8)).length := by
    rw [List.length_replicate]
    omega
  obtain ⟨octets, hoctets, -⟩ := foldlM_setPort_some numbered ports hroom
  exact ⟨base64 octets, by rw [portList, portOctets, hoctets, Option.map_some]⟩

end PortLists

section Text

def escape (text : String) : String :=
  String.ofList (Text.replaceAll ['>'] "&gt;".toList
    (Text.replaceAll ['<'] "&lt;".toList (Text.replaceAll ['&'] "&amp;".toList text.toList)))

def leaf (name text : String) : String := s!"<{name}>{text}</{name}>"

/-- A leaf of Q-BRIDGE-MIB in a list of another module. -/
def qBridgeLeaf (name text : String) : String :=
  s!"<{name} xmlns=\"{qBridgeMibNs}\">{text}</{name}>"

end Text

section PortTable

inductive FrameTypes where
  | admitAll | admitOnlyVlanTagged
  deriving DecidableEq, Repr

def FrameTypes.asStr : FrameTypes → String
  | .admitAll => "admitAll"
  | .admitOnlyVlanTagged => "admitOnlyVlanTagged"

/-- The leaves of a row of dot1qPortVlanTable that differ between ports. -/
structure PortVlanEntry where
  pvid : Option UInt16
  acceptableFrameTypes : FrameTypes
  deriving DecidableEq, Repr

def portVlanEntry (info : BridgeInfo) (port : String) : PortVlanEntry :=
  let pvid := info.portVlans[port]?.bind PortVlans.pvid
  ⟨pvid, if pvid.isSome then .admitAll else .admitOnlyVlanTagged⟩

def portVlanXml (info : BridgeInfo) (port : String) : String :=
  let entry := portVlanEntry info port
  (match entry.pvid with
    | some pvid => qBridgeLeaf "dot1qPvid" (toString pvid)
    | none => "") ++
    qBridgeLeaf "dot1qPortAcceptableFrameTypes" entry.acceptableFrameTypes.asStr ++
    qBridgeLeaf "dot1qPortIngressFiltering" "true" ++ qBridgeLeaf "dot1qPortGvrpStatus" "disabled"

end PortTable

section VlanTables

/-- VLAN, port and whether egress is untagged, from the kernel. -/
def currentVlans (info : BridgeInfo) (numbers : BTreeMap String UInt16) :
    BTreeMap UInt16 (BTreeMap String Bool) :=
  info.portVlans.toList.foldl (fun current e =>
    if !numbers.contains e.1 then current
    else e.2.vlans.toList.foldl (fun current v => current.insertUnder v.1 e.1 v.2) current) ∅

/-- dot1qVlanCurrentEntry; its dot1qVlanFdbId is the index too. -/
structure VlanCurrentEntry where
  index : UInt16
  egressPorts : String
  untaggedPorts : String
  deriving DecidableEq, Repr

def vlanCurrentEntry (numbers : BTreeMap String UInt16) (vid : UInt16)
    (ports : BTreeMap String Bool) : Option VlanCurrentEntry := do
  let egress ← portList ports.keys numbers
  let untagged ← portList ((ports.toList.filter fun e => e.2).map Prod.fst) numbers
  return ⟨vid, egress, untagged⟩

def vlanCurrentTable (info : BridgeInfo) (numbers : BTreeMap String UInt16) :
    Option (List VlanCurrentEntry) :=
  (currentVlans info numbers).toList.mapM fun e => vlanCurrentEntry numbers e.1 e.2

/-- dot1qVlanStaticEntry. -/
structure VlanStaticEntry where
  index : UInt16
  name : String
  egressPorts : String
  forbiddenPorts : String
  untaggedPorts : String
  deriving DecidableEq, Repr

def vlanStaticEntry (applied : DesiredState) (numbers : BTreeMap String UInt16) (vid : UInt16)
    (vlan : Vlan) : Option VlanStaticEntry := do
  let members := applied.ports.toList.filter fun e => e.2.carries vid
  let egress ← portList (members.map Prod.fst) numbers
  let untagged ←
    portList ((members.filter fun e => e.2.nativeVlan == some vid).map Prod.fst) numbers
  let empty ← portList [] numbers
  return ⟨vid, vlan.name.getD "", egress, empty, untagged⟩

def vlanStaticTable (info : BridgeInfo) (numbers : BTreeMap String UInt16) :
    Option (List VlanStaticEntry) :=
  info.applied.vlans.toList.mapM fun e => vlanStaticEntry info.applied numbers e.1 e.2

variable {info : BridgeInfo} {numbers : BTreeMap String UInt16}

/-- The entries that the loop over the ports goes through. -/
def currentEntries (info : BridgeInfo) (numbers : BTreeMap String UInt16) :
    List (UInt16 × String × Bool) :=
  (info.portVlans.toList.filter fun e => numbers.contains e.1).flatMap fun e =>
    e.2.vlans.toList.map fun v => (v.1, e.1, v.2)

theorem currentVlans_eq (info : BridgeInfo) (numbers : BTreeMap String UInt16) :
    currentVlans info numbers =
      (currentEntries info numbers).foldl (fun m e => m.insertUnder e.1 e.2.1 e.2.2) ∅ := by
  rw [currentVlans, currentEntries, List.foldl_flatMap, List.foldl_filter]
  congr 1
  funext current e
  rw [List.foldl_map]
  cases numbers.contains e.1 <;> rfl

theorem mem_currentEntries (vid : UInt16) (name : String) (untagged : Bool) :
    (vid, name, untagged) ∈ currentEntries info numbers ↔ name ∈ numbers ∧
      info.portVlans[name]?.bind (fun v => v.vlans[vid]?) = some untagged := by
  simp only [currentEntries, List.mem_flatMap, List.mem_filter, List.mem_map, Prod.exists,
    Std.ExtTreeMap.mem_toList_iff_getElem?_eq_some, Prod.mk.injEq, Option.bind_eq_some_iff,
    Std.ExtTreeMap.contains_iff_mem]
  constructor
  · rintro ⟨name', vlans, ⟨hvlans, hin⟩, vid', untagged', hentry, rfl, rfl, rfl⟩
    exact ⟨hin, vlans, hvlans, hentry⟩
  · rintro ⟨hin, vlans, hvlans, hentry⟩
    exact ⟨name, vlans, ⟨hvlans, hin⟩, vid, untagged, hentry, rfl, rfl, rfl⟩

theorem currentVlans_getElem? (vid : UInt16) (name : String) (untagged : Bool) :
    ((currentVlans info numbers).getD vid ∅)[name]? = some untagged ↔ name ∈ numbers ∧
      info.portVlans[name]?.bind (fun v => v.vlans[vid]?) = some untagged := by
  rw [currentVlans_eq, BTreeMap.getElem?_foldl_insertUnder, mem_currentEntries]
  intro k l v v' h h'
  rw [mem_currentEntries] at h h'
  exact Option.some.inj (h.2.symm.trans h'.2)

theorem mem_currentVlans (vid : UInt16) :
    vid ∈ currentVlans info numbers ↔ ∃ name untagged, name ∈ numbers ∧
      info.portVlans[name]?.bind (fun v => v.vlans[vid]?) = some untagged := by
  rw [currentVlans_eq, BTreeMap.mem_foldl_insertUnder]
  simp only [Std.ExtTreeMap.not_mem_empty, false_or]
  constructor
  · rintro ⟨⟨vid', name, untagged⟩, hmem, rfl⟩
    exact ⟨name, untagged, (mem_currentEntries vid' name untagged).mp hmem⟩
  · rintro ⟨name, untagged, h⟩
    exact ⟨_, (mem_currentEntries vid name untagged).mpr h, rfl⟩

theorem vlanCurrentEntry_eq_some {vid : UInt16} {ports : BTreeMap String Bool}
    {row : VlanCurrentEntry} (h : vlanCurrentEntry numbers vid ports = some row) :
    row.index = vid ∧ portList ports.keys numbers = some row.egressPorts ∧
      portList ((ports.toList.filter fun e => e.2).map Prod.fst) numbers =
        some row.untaggedPorts := by
  simp only [vlanCurrentEntry, Option.bind_eq_bind, Option.bind_eq_some_iff] at h
  obtain ⟨egress, hegress, untagged, huntagged, hrow⟩ := h
  cases hrow
  exact ⟨rfl, hegress, huntagged⟩

theorem vlanStaticEntry_eq_some {applied : DesiredState} {vid : UInt16} {vlan : Vlan}
    {row : VlanStaticEntry} (h : vlanStaticEntry applied numbers vid vlan = some row) :
    row.index = vid ∧
      portList ((applied.ports.toList.filter fun e => e.2.carries vid).map Prod.fst) numbers =
        some row.egressPorts ∧
      portList (((applied.ports.toList.filter fun e => e.2.carries vid).filter
        fun e => e.2.nativeVlan == some vid).map Prod.fst) numbers = some row.untaggedPorts := by
  simp only [vlanStaticEntry, Option.bind_eq_bind, Option.bind_eq_some_iff] at h
  obtain ⟨egress, hegress, untagged, huntagged, empty, -, hrow⟩ := h
  cases hrow
  exact ⟨rfl, hegress, huntagged⟩

/-- A table whose rows can all be built. -/
theorem mapM_rows {α β : Type} (row : α → Option β) (items : List α)
    (h : ∀ a ∈ items, ∃ b, row a = some b) :
    ∃ rows, items.mapM row = some rows ∧ ∀ b, b ∈ rows ↔ ∃ a ∈ items, row a = some b := by
  induction items with
  | nil => exact ⟨[], rfl, by simp⟩
  | cons a rest ih =>
    obtain ⟨b, hb⟩ := h a List.mem_cons_self
    obtain ⟨rows, hrows, hmem⟩ := ih fun x hx => h x (List.mem_cons_of_mem a hx)
    refine ⟨b :: rows, ?_, fun x => ?_⟩
    · rw [List.mapM_cons, hb, hrows]
      rfl
    · rw [List.mem_cons, hmem, eq_comm]
      simp only [List.mem_cons, exists_eq_or_imp, hb, Option.some.injEq]

theorem vlanCurrentEntry_some (numbered : Numbered numbers) (vid : UInt16)
    (ports : BTreeMap String Bool) : ∃ row, vlanCurrentEntry numbers vid ports = some row := by
  obtain ⟨egress, hegress⟩ := portList_some numbered ports.keys
  obtain ⟨untagged, huntagged⟩ :=
    portList_some numbered ((ports.toList.filter fun e => e.2).map Prod.fst)
  exact ⟨⟨vid, egress, untagged⟩, by simp [vlanCurrentEntry, hegress, huntagged]⟩

theorem vlanStaticEntry_some (numbered : Numbered numbers) (applied : DesiredState) (vid : UInt16)
    (vlan : Vlan) : ∃ row, vlanStaticEntry applied numbers vid vlan = some row := by
  obtain ⟨empty, hempty⟩ := portList_some numbered []
  obtain ⟨egress, hegress⟩ := portList_some numbered
    ((applied.ports.toList.filter fun p => p.2.carries vid).map Prod.fst)
  obtain ⟨untagged, huntagged⟩ := portList_some numbered
    (((applied.ports.toList.filter fun p => p.2.carries vid).filter
      fun p => p.2.nativeVlan == some vid).map Prod.fst)
  refine ⟨⟨vid, vlan.name.getD "", egress, empty, untagged⟩, ?_⟩
  simp only [vlanStaticEntry, hegress, huntagged, hempty, Option.bind_eq_bind, Option.bind_some]
  rfl

end VlanTables

section FdbTables

/-- dot1qFdbEntry. -/
structure QFdbEntry where
  fdbId : UInt16
  dynamicCount : UInt32
  deriving DecidableEq, Repr

/-- dot1qTpFdbEntry. -/
structure QTpFdbEntry where
  fdbId : UInt16
  address : List UInt8
  port : UInt16
  status : FdbStatus
  deriving DecidableEq, Repr

def countLearned (dynamic : BTreeMap UInt16 UInt32) (entry : FdbEntry) : BTreeMap UInt16 UInt32 :=
  match entry.vlan, entry.status with
  | some vlan, .learned => dynamic.insert vlan (dynamic.getD vlan 0 + 1)
  | _, _ => dynamic

/-- Learned entries by VLAN. -/
def dynamicCounts (fdb : List FdbEntry) : BTreeMap UInt16 UInt32 := fdb.foldl countLearned ∅

def fdbTable (current : BTreeMap UInt16 (BTreeMap String Bool)) (fdb : List FdbEntry) :
    List QFdbEntry :=
  current.keys.map fun vid => ⟨vid, (dynamicCounts fdb).getD vid 0⟩

def tpFdbTable (numbers : BTreeMap String UInt16) (fdb : List FdbEntry) : List QTpFdbEntry :=
  fdb.filterMap fun entry => entry.vlan.map fun vlan =>
    ⟨vlan, entry.mac, numbers.getD entry.port 0, entry.status⟩

end FdbTables

/-- Q-BRIDGE-MIB, without the leaves that are always the same. -/
structure QBridgeMib where
  numVlans : Nat
  fdb : Option (List QFdbEntry × List QTpFdbEntry)
  vlanCurrent : List VlanCurrentEntry
  vlanStatic : List VlanStaticEntry

def qBridge (info : BridgeInfo) (numbers : BTreeMap String UInt16) : Option QBridgeMib := do
  let current := currentVlans info numbers
  let vlanCurrent ← vlanCurrentTable info numbers
  let vlanStatic ← vlanStaticTable info numbers
  return {
    numVlans := current.size
    fdb := info.fdb.map fun fdb => (fdbTable current fdb, tpFdbTable numbers fdb)
    vlanCurrent
    vlanStatic }

/-- The tables can be built, and have a row for each current and each declared VLAN. -/
theorem qBridge_some {numbers : BTreeMap String UInt16} (numbered : Numbered numbers)
    (info : BridgeInfo) :
    ∃ mib, qBridge info numbers = some mib ∧
      (∀ row, row ∈ mib.vlanCurrent ↔ ∃ vid ports,
        (currentVlans info numbers)[vid]? = some ports ∧
          vlanCurrentEntry numbers vid ports = some row) ∧
      ∀ row, row ∈ mib.vlanStatic ↔ ∃ vid vlan, info.applied.vlans[vid]? = some vlan ∧
        vlanStaticEntry info.applied numbers vid vlan = some row := by
  obtain ⟨current, hcurrent, hrows⟩ := mapM_rows (fun e => vlanCurrentEntry numbers e.1 e.2)
    (currentVlans info numbers).toList fun e _ => vlanCurrentEntry_some numbered e.1 e.2
  obtain ⟨table, htable, hstatics⟩ := mapM_rows
    (fun e => vlanStaticEntry info.applied numbers e.1 e.2) info.applied.vlans.toList
    fun e _ => vlanStaticEntry_some numbered info.applied e.1 e.2
  refine ⟨⟨(currentVlans info numbers).size, info.fdb.map fun fdb =>
    (fdbTable (currentVlans info numbers) fdb, tpFdbTable numbers fdb), current, table⟩, ?_, ?_, ?_⟩
  · simp only [qBridge, vlanCurrentTable, vlanStaticTable, hcurrent, htable, Option.bind_eq_bind,
      Option.bind_some]
    rfl
  · intro row
    simp only [hrows, Prod.exists, Std.ExtTreeMap.mem_toList_iff_getElem?_eq_some]
  · intro row
    simp only [hstatics, Prod.exists, Std.ExtTreeMap.mem_toList_iff_getElem?_eq_some]

section Xml

-- The tables as text. The results are about the tables, none is about their text.

def QFdbEntry.xml (e : QFdbEntry) : String :=
  leaf "dot1qFdbEntry" (leaf "dot1qFdbId" (toString e.fdbId) ++
    leaf "dot1qFdbDynamicCount" (toString e.dynamicCount))

def QTpFdbEntry.xml (e : QTpFdbEntry) : String :=
  leaf "dot1qTpFdbEntry" (leaf "dot1qFdbId" (toString e.fdbId) ++
    leaf "dot1qTpFdbAddress" (colonHex e.address) ++ leaf "dot1qTpFdbPort" (toString e.port) ++
    leaf "dot1qTpFdbStatus" e.status.asStr)

def VlanCurrentEntry.xml (e : VlanCurrentEntry) : String :=
  leaf "dot1qVlanCurrentEntry" (leaf "dot1qVlanTimeMark" "0" ++
    leaf "dot1qVlanIndex" (toString e.index) ++ leaf "dot1qVlanFdbId" (toString e.index) ++
    leaf "dot1qVlanCurrentEgressPorts" e.egressPorts ++
    leaf "dot1qVlanCurrentUntaggedPorts" e.untaggedPorts ++ leaf "dot1qVlanStatus" "permanent" ++
    leaf "dot1qVlanCreationTime" "0")

def VlanStaticEntry.xml (e : VlanStaticEntry) : String :=
  leaf "dot1qVlanStaticEntry" (leaf "dot1qVlanIndex" (toString e.index) ++
    leaf "dot1qVlanStaticName" (escape e.name) ++
    leaf "dot1qVlanStaticEgressPorts" e.egressPorts ++
    leaf "dot1qVlanForbiddenEgressPorts" e.forbiddenPorts ++
    leaf "dot1qVlanStaticUntaggedPorts" e.untaggedPorts ++
    leaf "dot1qVlanStaticRowStatus" "active")

def QBridgeMib.xml (mib : QBridgeMib) : String :=
  s!"<Q-BRIDGE-MIB xmlns=\"{qBridgeMibNs}\">" ++
    leaf "dot1qBase" (leaf "dot1qVlanVersionNumber" "version1" ++ leaf "dot1qMaxVlanId" "4094" ++
      leaf "dot1qMaxSupportedVlans" "4094" ++ leaf "dot1qNumVlans" (toString mib.numVlans) ++
      leaf "dot1qGvrpStatus" "disabled") ++
    (match mib.fdb with
      | some (fdb, tpFdb) =>
        leaf "dot1qFdbTable" (String.join (fdb.map QFdbEntry.xml)) ++
          leaf "dot1qTpFdbTable" (String.join (tpFdb.map QTpFdbEntry.xml))
      | none => "") ++
    leaf "dot1qVlanCurrentTable" (String.join (mib.vlanCurrent.map VlanCurrentEntry.xml)) ++
    leaf "dot1qVlanStaticTable" (String.join (mib.vlanStatic.map VlanStaticEntry.xml)) ++
    "</Q-BRIDGE-MIB>"

def qBridgeXml (info : BridgeInfo) (numbers : BTreeMap String UInt16) : Option String :=
  (qBridge info numbers).map QBridgeMib.xml

end Xml
end ClixonSwitch.Source.SwitchModel.Mib
