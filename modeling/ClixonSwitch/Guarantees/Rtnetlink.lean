import ClixonSwitch.Guarantees.Seen
import ClixonSwitch.Guarantees.Tended
import ClixonSwitch.Lib.Nested
import ClixonSwitch.Source.SwitchNet.Netlink

/-!
# A kernel behind the socket

What the backend relies on at the other end of rtnetlink: dumps show the links, entries and
addresses of a state, in any order and over any number of datagrams, and a message for an
operation has the effect that the operation has in `fake.rs`. A kernel may also fail or refuse
a request, and spanning tree it may keep to itself. Observing such a kernel through the
backend gives what its state has to show.
-/
namespace ClixonSwitch.Guarantees
open Std Lib Source.SwitchModel Source.SwitchNet
open Source.SwitchNet.Netlink

section Messages
variable (ix : String → Nat)

def stpStateOf : BridgeStp → Netlink.StpState
  | .off => .disabled
  | .kernel => .kernelStp
  | .user => .userStp

def linkIndex? : LinkAttribute → Option Nat
  | .link index => some index
  | _ => none

def controller? : LinkAttribute → Option Nat
  | .controller index => some index
  | _ => none

def linkInfos : LinkAttribute → List LinkInfo
  | .linkInfo infos => infos
  | _ => []

def infoKind? : LinkInfo → Option InfoKind
  | .kind kind => some kind
  | _ => none

def infoData? : LinkInfo → Option InfoData
  | .data data => some data
  | _ => none

def vlanInfo? : AfSpecBridge → Option BridgeVlanInfo
  | .vlanInfo info => some info
  | _ => none

def vlanInfos : LinkAttribute → List BridgeVlanInfo
  | .afSpecBridge spec => spec.filterMap vlanInfo?
  | _ => []

def isSetting : InfoBridge → Bool
  | .stpModeUser | .other => false
  | _ => true

/-- The kind of a link, in IFLA_LINK and IFLA_LINKINFO. -/
inductive AboutKind : List Nat → List InfoKind → List InfoData → LinkKind → Prop where
  | dsa (links : List Nat) (attributes : List InfoDsa) (conduit : String)
    (shown : attributes.filterMap InfoDsa.conduit? = [ix conduit]) :
    AboutKind links [.dsa] [.dsa attributes] (.dsa (some conduit))
  | dsaAlone : AboutKind [] [.dsa] [] (.dsa none)
  | bridge (links : List Nat) (attributes : List InfoBridge) (b : BridgeSettings) (mask : Bool)
    (shown : [.stpState (stpStateOf b.stp), .vlanFiltering b.vlanFiltering,
      .multiBoolOpt b.mstEnabled mask, .vlanDefaultPvid b.defaultPvid].Perm
        (attributes.filter isSetting)) :
    AboutKind links [.bridge] [.bridge attributes] (.bridge b)
  | vlan (attributes : List InfoVlan) (parent : String) (id : UInt16)
    (shown : attributes.filterMap InfoVlan.id? = [id]) :
    AboutKind [ix parent] [.vlan] [.vlan attributes] (.vlan parent id)
  | other (links : List Nat) (kinds : List InfoKind) (data : List InfoData)
    (unknown : ∀ kind ∈ kinds, kind = .other) : AboutKind links kinds data .other

/-- A message about a link, among attributes that the backend does not read. -/
structure AboutLink (e : String × Link) (m : LinkMessage) : Prop where
  index : m.index = ix e.1
  up : m.up = e.2.up
  name : m.attributes.filterMap LinkAttribute.ifName? = [e.1]
  master : m.attributes.filterMap controller? = (e.2.master.map ix).toList
  kind : AboutKind ix (m.attributes.filterMap linkIndex?)
    ((m.attributes.flatMap linkInfos).filterMap infoKind?)
    ((m.attributes.flatMap linkInfos).filterMap infoData?) e.2.kind

/-- The AF_BRIDGE message of a link, with the entries that it has. -/
structure AboutVlans (s : ActualState) (e : String × Link) (m : LinkMessage) : Prop where
  index : m.index = ix e.1
  entries : m.attributes.flatMap vlanInfos =
    (s.bridgeVlans.getD e.1 ∅).toList.map fun v => ⟨v.1, v.2.pvid, v.2.untagged⟩

/-- An address of a link, with its lifetime if it is leased. -/
structure AddressEntry where
  dev : String
  address : Ipv4Prefix
  valid : Option UInt32

def addressEntries (s : ActualState) : List AddressEntry :=
  s.links.toList.flatMap fun e =>
    (s.addresses.getD e.1 ∅).toList.map (⟨e.1, ·, none⟩) ++
      (s.dhcpAddresses.getD e.1 ∅).toList.map fun lease => ⟨e.1, lease.1, some lease.2⟩

structure AboutAddress (e : AddressEntry) (m : AddressMessage) : Prop where
  index : m.index = ix e.dev
  prefixLen : m.prefixLen = e.address.prefixLen
  address : m.attributes.filterMap AddressAttribute.local? = [e.address.addr]
  flags : m.attributes.filterMap AddressAttribute.flags? = [e.valid.isNone]
  valid : ∀ valid, e.valid = some valid →
    m.attributes.filterMap AddressAttribute.valid? = [valid]

/-- Messages about all links of a state. -/
def ListsLinks (s : ActualState) (ms : List LinkMessage) : Prop :=
  ∃ l, l.Perm s.links.toList ∧ List.Forall₂ (AboutLink ix) l ms

/-- AF_BRIDGE messages about links, with all that have entries. -/
def ListsVlans (s : ActualState) (ms : List LinkMessage) : Prop :=
  ∃ l, (∀ e ∈ l, e ∈ s.links.toList) ∧
    (∀ e ∈ s.links.toList, s.bridgeVlans.getD e.1 ∅ ≠ ∅ → e ∈ l) ∧
    List.Forall₂ (AboutVlans ix s) l ms

def ListsAddresses (s : ActualState) (ms : List AddressMessage) : Prop :=
  ∃ l, l.Perm (addressEntries s) ∧ List.Forall₂ (AboutAddress ix) l ms

/-- The messages that ask for an operation, by the indexes of the links. -/
inductive Asks : RouteMessage → Flags → Op → Prop where
  | createBridge (name : String) :
    Asks (.newLink { attributes := [.ifName name, bridgeInfo] })
      { ack := true, create := true, excl := true } (.createBridge name)
  | configureBridge (name : String) :
    Asks (.newLink { index := ix name, attributes := [bridgeInfo] }) { ack := true }
      (.configureBridge name)
  | stpOff (name : String) :
    Asks (.newLink { index := ix name, attributes :=
      [.linkInfo [.kind .bridge, .data (.bridge [.stpState .disabled])]] }) { ack := true }
      (.setBridgeStp name false)
  /-- Who is to run spanning tree can be set while it is off only. -/
  | stpUser (name : String) :
    Asks (.newLink { index := ix name, attributes :=
      [.linkInfo [.kind .bridge, .data (.bridge [.stpModeUser, .stpState .disabled])]] })
      { ack := true } (.setBridgeStp name false)
  | stpOn (name : String) :
    Asks (.newLink { index := ix name, attributes :=
      [.linkInfo [.kind .bridge, .data (.bridge [.stpState .kernelStp])]] }) { ack := true }
      (.setBridgeStp name true)
  | deleteLink (name : String) :
    Asks (.delLink { index := ix name }) { ack := true } (.deleteLink name)
  | createVlan (name parent : String) (id : UInt16) :
    Asks (.newLink { attributes := [.ifName name, .link (ix parent),
      .linkInfo [.kind .vlan, .data (.vlan [.id id])]] })
      { ack := true, create := true, excl := true } (.createVlan name parent id)
  | setMaster (name : String) (master : Option String) :
    Asks (.setLink { index := ix name, attributes := [.controller ((master.map ix).getD 0)] })
      { ack := true } (.setMaster name master)
  | setUp (name : String) (up : Bool) :
    Asks (.setLink { index := ix name, up, changeUp := true }) { ack := true } (.setUp name up)
  | addBridgeVlan (dev : String) (vid : UInt16) (flags : VlanFlags) :
    Asks (.setLink { family := .bridge, index := ix dev, attributes :=
      [.afSpecBridge ((if dev = bridgeName then [.lowerDev] else []) ++
        [.vlanInfo ⟨vid, flags.pvid, flags.untagged⟩])] }) { ack := true }
      (.addBridgeVlan dev vid flags)
  | delBridgeVlan (dev : String) (vid : UInt16) :
    Asks (.delLink { family := .bridge, index := ix dev, attributes :=
      [.afSpecBridge ((if dev = bridgeName then [.lowerDev] else []) ++
        [.vlanInfo ⟨vid, false, false⟩])] }) { ack := true } (.delBridgeVlan dev vid)
  | addAddress (dev : String) (p : Ipv4Prefix) :
    Asks (.newAddress { family := .inet, index := ix dev, prefixLen := p.prefixLen, attributes :=
      [.local (.v4 p.addr), .address (.v4 p.addr)] ++
        if p.prefixLen < 31 then [.broadcast (broadcastAddr p)] else [] })
      { ack := true, create := true, excl := true } (.addAddress dev p)
  | delAddress (dev : String) (p : Ipv4Prefix) :
    Asks (.delAddress { family := .inet, index := ix dev, prefixLen := p.prefixLen, attributes :=
      [.local (.v4 p.addr), .address (.v4 p.addr)] }) { ack := true } (.delAddress dev p)

end Messages

section Peers

/-- The end of an answer: of the dump or an acknowledgement, or the negative error number. -/
def payloads (dump : Bool) : Except Int (List RouteMessage) → List Payload
  | .ok replies => replies.map .inner ++ [if dump then .done else .error none]
  | .error code => [.error (some code)]

variable {κ : Type}

/-- What comes of a request: an answer, in any number of datagrams, or sending fails. -/
inductive Deals (peer : Peer κ) (req : Request) (k : κ) :
    Except NetError (List RouteMessage) → κ → Prop where
  | answered (answer : Except Int (List RouteMessage)) (k' : κ) (parts : List (List Packet))
    (full : ∀ part ∈ parts, part ≠ [])
    (own : ∀ packet ∈ parts.flatten, packet.seq = req.seq ∧ packet.length ≠ 0)
    (shape : parts.flatten.map Packet.payload = payloads req.flags.dump answer)
    (sent : peer.send req k = (.ok (parts.map fun part => .ok (part.map .ok)), k')) :
    Deals peer req k (answer.mapError fun code => ⟨peer.osError (-code)⟩) k'
  | unsent (e : String) (k' : κ) (sent : peer.send req k = (.error e, k')) :
    Deals peer req k (.error ⟨s!"netlink send: {e}"⟩) k'

/-- The names that the backend looks up for an operation. -/
def lookups : Op → List String
  | .createBridge _ => []
  | .createVlan _ parent _ => [parent]
  | .setMaster name master => master.toList ++ [name]
  | op => [op.target]

/-- The operation on the state of `fake.rs`, where spanning tree is left to a daemon, and on
one of a kernel that runs its own. -/
def effect (leavesStp : Bool) (op : Op) (s : ActualState) : Applied :=
  match op, leavesStp with
  | .setBridgeStp name true, false =>
    match fakeApply op s with
    | (.ok (), _) => (.ok (), withStp name .kernel s)
    | failed => failed
  | _, _ => fakeApply op s

/-- A request that reads is answered with such replies, or fails unless the peer is willing.
It changes nothing. -/
def Provides (state : κ → ActualState) (ifindex : κ → String → Nat) (willing : Prop) (peer : Peer κ)
    (req : Request) (k : κ) (good : List RouteMessage → Prop) : Prop :=
  ∃ result k', Deals peer req k result k' ∧ (state k', ifindex k') = (state k, ifindex k) ∧
    ((result.isOk = false ∧ ¬ willing) ∨ ∃ replies, result = .ok replies ∧ good replies)

/-- A kernel with `state` and the indexes `ifindex`, which it may change with the state. Only
one that is not `willing` may fail a request that it could serve. -/
structure KernelPeer (peer : Peer κ) (state : κ → ActualState) (ifindex : κ → String → Nat)
    (leavesStp : Bool) (willing : Prop) : Prop where
  ifindex_injective : ∀ k, Function.Injective (ifindex k)
  links : ∀ seq k, Provides state ifindex willing peer ⟨seq, { dump := true }, .getLink {}⟩ k
    fun replies => ListsLinks (ifindex k) (state k) (replies.filterMap newLink?)
  vlans : ∀ seq k, Provides state ifindex willing peer ⟨seq, { dump := true },
      .getLink { family := .bridge, attributes := [.extMaskBrvlan] }⟩ k
    fun replies => ListsVlans (ifindex k) (state k) (replies.filterMap newLink?)
  addresses : ∀ seq k, Provides state ifindex willing peer ⟨seq, { dump := true },
      .getAddress { family := .inet }⟩ k
    fun replies => ListsAddresses (ifindex k) (state k) (replies.filterMap newAddress?)
  /-- A lookup by name answers with the link, and fails if there is none. -/
  lookup : ∀ seq k name, Provides state ifindex (willing ∧ name ∈ (state k).links) peer
      ⟨seq, { ack := true }, .getLink { attributes := [.ifName name] }⟩ k
    fun replies => name ∈ (state k).links ∧
      ∃ m, replies.filterMap newLink? = [m] ∧ m.index = ifindex k name
  /-- An operation on links that are there is carried out as in `fake.rs`. -/
  carriesOut : ∀ seq k message flags op, Asks (ifindex k) message flags op →
    (∀ name ∈ lookups op, name ∈ (state k).links) →
    ∃ result k', Deals peer ⟨seq, flags, message⟩ k result k' ∧
      ((result.isOk = false ∧ state k' = state k ∧ ¬ willing) ∨
        (result.isOk = (effect leavesStp op (state k)).1.isOk ∧
          state k' = (effect leavesStp op (state k)).2))

end Peers

section Requests
variable {osError : Int → String} {seq : UInt32}

theorem readFrames_append (replies : List RouteMessage) (xs ys : List Frame) :
    readFrames osError seq replies (xs ++ ys) =
      match readFrames osError seq replies xs with
      | .more replies => readFrames osError seq replies ys
      | .stop result => .stop result := by
  induction xs generalizing replies with
  | nil => rfl
  | cons x rest ih =>
    cases x with
    | error e => rfl
    | ok p =>
      obtain ⟨s, length, payload⟩ := p
      simp only [List.cons_append, readFrames]
      split
      · rfl
      · split
        · exact ih replies
        · cases payload with
          | inner m => exact ih (replies ++ [m])
          | done => rfl
          | error code => cases code <;> rfl
          | other => exact ih replies

/-- An answer that ends with its last packet is read to its end and no further. -/
theorem receive_split {parts : List (List Packet)} {replies mid : List RouteMessage}
    {init : List Packet} {final : Packet} {result : Except NetError (List RouteMessage)}
    (full : ∀ part ∈ parts, part ≠ []) (flat : parts.flatten = init ++ [final])
    (more : readFrames osError seq replies (init.map .ok) = .more mid)
    (stop : readFrames osError seq mid [.ok final] = .stop result) :
    receive osError seq replies (parts.map fun part => .ok (part.map .ok)) = (result, []) := by
  induction parts generalizing replies init with
  | nil => simp at flat
  | cons part rest ih =>
    rw [List.flatten_cons] at flat
    rw [List.map_cons, receive]
    rcases List.eq_nil_or_concat rest.flatten with hnil | ⟨init', last, hlast⟩
    · -- The last packet is in this part, and no part is left.
      obtain rfl : rest = [] := by
        cases rest with
        | nil => rfl
        | cons next others =>
          have hne := full next (by simp)
          simp only [List.flatten_cons, List.append_eq_nil_iff] at hnil
          exact absurd hnil.1 hne
      rw [List.flatten_nil, List.append_nil] at flat
      rw [flat, List.map_append, readFrames_append, more]
      simp only [List.map_cons, List.map_nil, stop]
    · rw [List.concat_eq_append] at hlast
      rw [hlast, ← List.append_assoc] at flat
      obtain ⟨rfl, hfinal⟩ := List.append_inj' flat rfl
      obtain rfl : last = final := by simpa using hfinal
      rw [List.map_append, readFrames_append] at more
      cases hread : readFrames osError seq replies (part.map .ok) with
      | stop result => simp [hread] at more
      | more replies' =>
        rw [hread] at more
        exact ih (fun p hp => full p (List.mem_cons_of_mem part hp)) hlast more

theorem readFrames_inner {packets : List Packet} {ms : List RouteMessage}
    (own : ∀ p ∈ packets, p.seq = seq ∧ p.length ≠ 0)
    (shape : packets.map Packet.payload = ms.map .inner) (replies : List RouteMessage) :
    readFrames osError seq replies (packets.map .ok) = .more (replies ++ ms) := by
  induction packets generalizing ms replies with
  | nil =>
    obtain rfl : ms = [] := by simpa using shape.symm
    rw [List.append_nil]
    rfl
  | cons p rest ih =>
    cases ms with
    | nil => cases shape
    | cons m ms =>
      rw [List.map_cons, List.map_cons, List.cons.injEq] at shape
      obtain ⟨hseq, hlength⟩ := own p List.mem_cons_self
      have hrest := ih (fun p' hp' => own p' (List.mem_cons_of_mem p hp')) shape.2 (replies ++ [m])
      rw [List.append_assoc, List.singleton_append] at hrest
      simpa [readFrames, hseq, hlength, shape.1] using hrest

variable {κ : Type} {peer : Peer κ} {b : Backend κ}

/-- The sockets that the backend leaves between its requests. -/
def Ready (b : Backend κ) : Prop := b.ports = none ∧ b.incoming = []

/-- The backend after a request. -/
def after (b : Backend κ) (k : κ) : Backend κ := { b with seq := b.seq + 1, kernel := k }

theorem request_deals (ready : Ready b) {message : RouteMessage} {flags : Flags}
    {result : Except NetError (List RouteMessage)} {k' : κ}
    (deals : Deals peer ⟨b.seq + 1, flags, message⟩ b.kernel result k') :
    request peer message flags b = (result, after b k') := by
  obtain ⟨seq, ports, incoming, kernel⟩ := b
  obtain ⟨rfl, rfl⟩ := ready
  cases deals with
  | unsent e _ sent => simp [request, sent, after]
  | answered answer k' parts full own shape sent =>
    -- The last packet ends the answer, whatever datagram it is in.
    have hread : ∀ (init : List Packet) {packet : Packet} {mid outcome},
        parts.flatten = init ++ [packet] →
        readFrames peer.osError (seq + 1) [] (init.map .ok) = .more mid →
        readFrames peer.osError (seq + 1) mid [.ok packet] = .stop outcome →
        request peer message flags ⟨seq, none, [], kernel⟩ =
          (outcome, after ⟨seq, none, [], kernel⟩ k') := by
      intro init packet mid outcome hflat hmore hstop
      have hreceive := receive_split full hflat hmore hstop
      simp [request, sent, hreceive, after]
    cases answer with
    | error code =>
      obtain ⟨packet, hflat, hpayload⟩ := List.map_eq_singleton_iff.mp shape
      obtain ⟨hseq, hlength⟩ := own packet (by simp [hflat])
      refine hread [] hflat rfl ?_
      simp [readFrames, hseq, hlength, hpayload, Except.mapError]
    | ok replies =>
      obtain ⟨init, last, hflat, hinit, hlast⟩ := List.map_eq_append_iff.mp shape
      obtain ⟨packet, rfl, hpayload⟩ := List.map_eq_singleton_iff.mp hlast
      obtain ⟨hseq, hlength⟩ := own packet (by simp [hflat])
      refine hread init hflat
        (readFrames_inner (fun p hp => own p (by simp [hflat, hp])) hinit []) ?_
      cases hdump : flags.dump <;>
        simp [readFrames, hseq, hlength, hpayload, hdump, Except.mapError]

end Requests

section Names
variable {ix : String → Nat} {s : ActualState} {names : BTreeMap Nat String}

/-- Names by index, of the links and of nothing else. -/
def NamesOf (ix : String → Nat) (s : ActualState) (names : BTreeMap Nat String) : Prop :=
  ∀ name, names[ix name]? = (some name).filter s.links.contains

theorem namesOf_collect (injective : Function.Injective ix) {keys : List String}
    (perm : keys.Perm s.links.keys) :
    NamesOf ix s (BTreeMap.collect (keys.map fun name => (ix name, name))) := by
  intro name
  have hnodup : ((keys.map fun name => (ix name, name)).map Prod.fst).Nodup := by
    rw [List.map_map]
    exact ((perm.nodup_iff).mpr (BTreeMap.nodup_keys _)).map injective
  refine Option.ext fun v => ?_
  rw [BTreeMap.getElem?_collect _ hnodup, Option.filter_some]
  simp only [List.mem_map, Prod.mk.injEq, perm.mem_iff, ExtTreeMap.mem_keys]
  constructor
  · rintro ⟨key, hkey, hix, rfl⟩
    rw [← injective hix, if_pos (ExtTreeMap.contains_iff_mem.mpr hkey)]
  · intro h
    obtain ⟨hin, rfl⟩ : s.links.contains name = true ∧ name = v := by simpa using h
    exact ⟨name, ExtTreeMap.contains_iff_mem.mp hin, rfl, rfl⟩

theorem NamesOf.of_mem (h : NamesOf ix s names) {name : String} (hin : name ∈ s.links) :
    names[ix name]? = some name := by
  rw [h name, Option.filter_some, if_pos (ExtTreeMap.contains_iff_mem.mpr hin)]

end Names

section Links
variable {ix : String → Nat} {s : ActualState} {names : BTreeMap Nat String}
  {e : String × Link} {m : LinkMessage} {l : List (String × Link)} {ms : List LinkMessage}

theorem kindParts_eq (attributes : List LinkAttribute) : attributes.foldl KindParts.add {} =
    ⟨((attributes.flatMap linkInfos).filterMap infoKind?).getLast?,
      ((attributes.flatMap linkInfos).filterMap infoData?).getLast?,
      (attributes.filterMap linkIndex?).getLast?⟩ := by
  have hinfos : ∀ (infos : List LinkInfo) (parts : KindParts), infos.foldl KindParts.addInfo parts =
      ⟨(infos.filterMap infoKind?).getLast?.or parts.kind,
        (infos.filterMap infoData?).getLast?.or parts.data, parts.link⟩ := by
    intro infos parts
    induction infos using List.reverseRecOn with
    | nil => rfl
    | append_singleton rest info ih =>
      rw [List.foldl_append, ih]
      cases info <;>
        simp [KindParts.addInfo, infoKind?, infoData?, List.filterMap_append, List.getLast?_append]
  induction attributes using List.reverseRecOn with
  | nil => rfl
  | append_singleton rest attr ih =>
    rw [List.foldl_append, ih]
    cases attr <;>
      simp [KindParts.add, hinfos, linkInfos, linkIndex?, List.filterMap_append,
        List.flatMap_append, List.getLast?_append]

theorem bridgeStp_stpStateOf (stp : BridgeStp) : (stpStateOf stp).bridgeStp = stp := by
  cases stp <;> rfl

/-- The settings of a bridge are read in any order. -/
theorem foldl_addBridgeInfo {attributes : List InfoBridge} {b : BridgeSettings} {mask : Bool}
    (shown : [.stpState (stpStateOf b.stp), .vlanFiltering b.vlanFiltering,
      .multiBoolOpt b.mstEnabled mask, .vlanDefaultPvid b.defaultPvid].Perm
        (attributes.filter isSetting)) : attributes.foldl addBridgeInfo kernelDefaults = b := by
  have hfilter : attributes.foldl addBridgeInfo kernelDefaults =
      (attributes.filter isSetting).foldl addBridgeInfo kernelDefaults := by
    rw [List.foldl_filter]
    congr 1
    funext settings info
    cases info <;> rfl
  rw [hfilter, ← shown.foldl_eq' fun x hx y hy z => ?_]
  · simp [addBridgeInfo, bridgeStp_stpStateOf]
  · simp only [List.mem_cons, List.not_mem_nil, or_false] at hx hy
    rcases hx with rfl | rfl | rfl | rfl <;> rcases hy with rfl | rfl | rfl | rfl <;> rfl

theorem AboutLink.linkKind_eq (h : NamesOf ix s names) (about : AboutLink ix e m) :
    linkKind m names = shownKind s.links e.2.kind := by
  have hkind := about.kind
  unfold linkKind
  rw [kindParts_eq]
  generalize m.attributes.filterMap linkIndex? = links at hkind
  generalize (m.attributes.flatMap linkInfos).filterMap infoKind? = kinds at hkind
  generalize (m.attributes.flatMap linkInfos).filterMap infoData? = data at hkind
  generalize e.2.kind = kind at hkind
  cases hkind with
  | dsa _ attributes conduit shown =>
    have hfound : attributes.findSome? InfoDsa.conduit? = some (ix conduit) := by
      rw [← List.head?_filterMap, shown, List.head?_cons]
    simp [hfound, h conduit, shownKind]
  | dsaAlone => rfl
  | bridge _ attributes b mask shown => simp [foldl_addBridgeInfo shown, shownKind]
  | vlan attributes parent id shown =>
    have hfound : attributes.findSome? InfoVlan.id? = some id := by
      rw [← List.head?_filterMap, shown, List.head?_cons]
    simp only [List.getLast?_singleton, Option.bind_some, h parent, Option.filter_some, hfound,
      shownKind]
    cases s.links.contains parent <;> rfl
  | other _ _ _ unknown =>
    have hlast : ∀ kind, kinds.getLast? = some kind → kind = .other :=
      fun kind hkind => unknown kind (List.mem_of_getLast? hkind)
    cases hkinds : kinds.getLast? with
    | none => rfl
    | some kind =>
      rw [hlast kind hkinds]
      rfl

theorem AboutLink.linkName_eq (about : AboutLink ix e m) : linkName m = some e.1 := by
  rw [linkName, ← List.head?_filterMap, about.name, List.head?_cons]

theorem AboutLink.master_eq (h : NamesOf ix s names) (about : AboutLink ix e m) :
    m.attributes.findSome? (LinkAttribute.master? names) = e.2.master.filter s.links.contains := by
  have hmaster : LinkAttribute.master? names = fun a => (controller? a).bind fun i => names[i]? := by
    funext a
    cases a <;> rfl
  rw [hmaster, ← List.head?_filterMap, ← List.filterMap_filterMap, about.master]
  cases e.2.master with
  | none => rfl
  | some name => simp [h name]

theorem foldl_addLink (h : NamesOf ix s names) (inLinks : ∀ e ∈ l, e.1 ∈ s.links)
    (about : List.Forall₂ (AboutLink ix) l ms) (t : ActualState) :
    ms.foldl (addLink none names) t =
      { t with links := l.foldl (fun m e => m.insert e.1 (shownLink s.links e.2)) t.links } := by
  induction about generalizing t with
  | nil => rfl
  | @cons e m _ _ first _ ih =>
    have hname : names[m.index]? = some e.1 := first.index ▸ h.of_mem (inLinks e (by simp))
    rw [List.foldl_cons, ih fun e he => inLinks e (List.mem_cons_of_mem _ he)]
    simp only [addLink, hname, overridePorts, first.linkKind_eq h, first.master_eq h, first.up]
    rfl

theorem linkNames_eq (about : List.Forall₂ (AboutLink ix) l ms) :
    linkNames ms = BTreeMap.collect (l.map fun e => (ix e.1, e.1)) := by
  rw [linkNames]
  congr 1
  induction about with
  | nil => rfl
  | cons first _ ih =>
    rw [List.filterMap_cons, first.linkName_eq, first.index, Option.map_some, List.map_cons, ih]

theorem shownLinks_eq {l : List (String × Link)} (perm : l.Perm s.links.toList) :
    l.foldl (fun m e => m.insert e.1 (shownLink s.links e.2)) ∅ = (seen s).links := by
  have hcollect : l.foldl (fun m e => m.insert e.1 (shownLink s.links e.2)) ∅ =
      BTreeMap.collect (l.map fun e => (e.1, shownLink s.links e.2)) := by
    rw [BTreeMap.collect, List.foldl_map]
  have hnodup : ((l.map fun e => (e.1, shownLink s.links e.2)).map Prod.fst).Nodup := by
    rw [List.map_map]
    exact ((perm.map Prod.fst).nodup_iff).mpr (BTreeMap.nodup_fst _)
  rw [hcollect]
  refine ExtTreeMap.ext_getElem? fun name => Option.ext fun v => ?_
  rw [BTreeMap.getElem?_collect _ hnodup, seen, ExtTreeMap.getElem?_map, Option.map_eq_some_iff]
  simp only [List.mem_map, Prod.mk.injEq, perm.mem_iff]
  constructor
  · rintro ⟨⟨name', l'⟩, hmem, rfl, rfl⟩
    exact ⟨l', ExtTreeMap.mem_toList_iff_getElem?_eq_some.mp hmem, rfl⟩
  · rintro ⟨l', hl', rfl⟩
    exact ⟨(name, l'), ExtTreeMap.mem_toList_iff_getElem?_eq_some.mpr hl', rfl, rfl⟩

end Links

section Collections
variable {ix : String → Nat} {s : ActualState} {names : BTreeMap Nat String}

theorem shownOn_getD {V : Type} {links : BTreeMap String Link} {isEmpty : V → Bool} {e : V}
    (empty : ∀ v, isEmpty v = true → v = e) (m : BTreeMap String V) (name : String) :
    (shownOn links isEmpty m).getD name e = if links.contains name then m.getD name e else e := by
  rw [BTreeMap.getD_eq, BTreeMap.getD_eq, shownOn, ExtTreeMap.getElem?_filter']
  cases m[name]? with
  | none => simp
  | some v =>
    cases hv : isEmpty v with
    | false => cases links.contains name <;> simp [Option.filter_some, hv]
    | true => simp [Option.filter_some, hv, (empty v hv).symm]

theorem shownOn_full {V : Type} {links : BTreeMap String Link} {isEmpty : V → Bool} {e : V}
    (nonempty : isEmpty e = true) (m : BTreeMap String V) (name : String)
    (h : name ∈ shownOn links isEmpty m) : (shownOn links isEmpty m).getD name e ≠ e := by
  obtain ⟨v, hv⟩ := (BTreeMap.mem_iff _ _).mp h
  rw [BTreeMap.getD_eq, hv, Option.getD_some]
  rintro rfl
  rw [shownOn, ExtTreeMap.getElem?_filter'] at hv
  obtain ⟨-, hshown⟩ := Option.filter_eq_some_iff.mp hv
  simp [nonempty] at hshown

/-- The entries of the links in `l`. -/
def vlanEntries (s : ActualState) (l : List (String × Link)) : List (String × UInt16 × VlanFlags) :=
  l.flatMap fun e => (s.bridgeVlans.getD e.1 ∅).toList.map fun v => (e.1, v.1, v.2)

theorem addVlanAttribute_eq (name : String) (vlans : BTreeMap String VlanMap)
    (attr : LinkAttribute) : addVlanAttribute name vlans attr =
      (vlanInfos attr).foldl
        (fun m info => m.insertUnder name info.vid ⟨info.pvid, info.untagged⟩) vlans := by
  cases attr with
  | afSpecBridge spec =>
    rw [vlanInfos, List.foldl_filterMap]
    refine congrArg (fun f => spec.foldl f vlans) (funext fun m => funext fun a => ?_)
    cases a <;> rfl
  | _ => rfl

theorem foldl_addVlans (h : NamesOf ix s names) {l : List (String × Link)} {ms : List LinkMessage}
    (inLinks : ∀ e ∈ l, e.1 ∈ s.links) (about : List.Forall₂ (AboutVlans ix s) l ms)
    (t : ActualState) : ms.foldl (addVlans names) t =
      { t with
        bridgeVlans :=
          (vlanEntries s l).foldl (fun m e => m.insertUnder e.1 e.2.1 e.2.2) t.bridgeVlans } := by
  induction about generalizing t with
  | nil => rfl
  | @cons e m _ _ first _ ih =>
    have hname : names[m.index]? = some e.1 := first.index ▸ h.of_mem (inLinks e (by simp))
    have hentries : m.attributes.foldl (addVlanAttribute e.1) t.bridgeVlans =
        ((s.bridgeVlans.getD e.1 ∅).toList.map fun v => (e.1, v.1, v.2)).foldl
          (fun m e => m.insertUnder e.1 e.2.1 e.2.2) t.bridgeVlans := by
      have hread := funext₂ (addVlanAttribute_eq e.1)
      rw [hread, ← List.foldl_flatMap, first.entries, List.foldl_map, List.foldl_map]
    rw [List.foldl_cons, ih fun e he => inLinks e (List.mem_cons_of_mem _ he)]
    simp only [addVlans, hname, hentries, vlanEntries, List.flatMap_cons, List.foldl_append]

theorem mem_vlanEntries {l : List (String × Link)} (inLinks : ∀ e ∈ l, e ∈ s.links.toList)
    (all : ∀ e ∈ s.links.toList, s.bridgeVlans.getD e.1 ∅ ≠ ∅ → e ∈ l) (name : String)
    (vid : UInt16) (flags : VlanFlags) :
    (name, vid, flags) ∈ vlanEntries s l ↔
      ((seen s).bridgeVlans.getD name ∅)[vid]? = some flags := by
  rw [seen, shownOn_getD fun v hv => ExtTreeMap.isEmpty_iff.mp hv]
  simp only [vlanEntries, List.mem_flatMap, List.mem_map, Prod.mk.injEq]
  constructor
  · rintro ⟨⟨name', link⟩, hlink, ⟨vid', flags'⟩, hv, rfl, rfl, rfl⟩
    have hin := (BTreeMap.mem_iff _ _).mpr
      ⟨link, ExtTreeMap.mem_toList_iff_getElem?_eq_some.mp (inLinks _ hlink)⟩
    rw [if_pos (ExtTreeMap.contains_iff_mem.mpr hin)]
    exact ExtTreeMap.mem_toList_iff_getElem?_eq_some.mp hv
  · intro hv
    split at hv
    · next hin =>
      obtain ⟨link, hlink⟩ := (BTreeMap.mem_iff _ _).mp (ExtTreeMap.contains_iff_mem.mp hin)
      refine ⟨(name, link), all _ (ExtTreeMap.mem_toList_iff_getElem?_eq_some.mpr hlink) ?_,
        (vid, flags), ExtTreeMap.mem_toList_iff_getElem?_eq_some.mpr hv, rfl, rfl, rfl⟩
      intro hempty
      simp [hempty] at hv
    · simp at hv

/-- The permanent address of an entry, or its lease. -/
def AddressEntry.permanent? (e : AddressEntry) : Option (String × Ipv4Prefix) :=
  if e.valid.isNone then some (e.dev, e.address) else none

def AddressEntry.lease? (e : AddressEntry) : Option (String × Ipv4Prefix × UInt32) :=
  e.valid.map fun valid => (e.dev, e.address, valid)

theorem foldl_addAddress (h : NamesOf ix s names) {l : List AddressEntry}
    {ms : List AddressMessage} (inLinks : ∀ e ∈ l, e.dev ∈ s.links)
    (about : List.Forall₂ (AboutAddress ix) l ms) (t : ActualState) :
    ms.foldl (addAddressMessage names) t =
      { t with
        addresses :=
          (l.filterMap AddressEntry.permanent?).foldl (fun m e => m.insertInto e.1 e.2) t.addresses
        dhcpAddresses :=
          (l.filterMap AddressEntry.lease?).foldl (fun m e => m.insertUnder e.1 e.2.1 e.2.2)
            t.dhcpAddresses } := by
  induction about generalizing t with
  | nil => rfl
  | @cons e m _ _ first _ ih =>
    have hname : names[m.index]? = some e.dev := first.index ▸ h.of_mem (inLinks e (by simp))
    have hvalid := first.valid
    rw [List.foldl_cons, ih fun e he => inLinks e (List.mem_cons_of_mem _ he)]
    simp only [addAddressMessage, hname, ← List.head?_filterMap, first.address, first.flags,
      List.head?_cons, Option.some_or, Option.getD_some, first.prefixLen]
    obtain ⟨dev, address, valid⟩ := e
    cases valid with
    | none => rfl
    | some valid =>
      rw [hvalid valid rfl]
      rfl

theorem mem_addressEntries (e : AddressEntry) :
    e ∈ addressEntries s ↔ e.dev ∈ s.links ∧
      match e.valid with
      | none => e.address ∈ s.addresses.getD e.dev ∅
      | some valid => (s.dhcpAddresses.getD e.dev ∅)[e.address]? = some valid := by
  obtain ⟨dev, address, valid⟩ := e
  simp only [addressEntries, List.mem_flatMap, List.mem_append, List.mem_map, AddressEntry.mk.injEq]
  constructor
  · rintro ⟨⟨name, link⟩, hlink, hentry⟩
    have hin := (BTreeMap.mem_iff _ _).mpr
      ⟨link, ExtTreeMap.mem_toList_iff_getElem?_eq_some.mp hlink⟩
    rcases hentry with ⟨p, hp, rfl, rfl, rfl⟩ | ⟨lease, hlease, rfl, rfl, rfl⟩
    · exact ⟨hin, ExtTreeSet.mem_toList.mp hp⟩
    · exact ⟨hin, ExtTreeMap.mem_toList_iff_getElem?_eq_some.mp hlease⟩
  · rintro ⟨hin, hentry⟩
    obtain ⟨link, hlink⟩ := (BTreeMap.mem_iff _ _).mp hin
    refine ⟨(dev, link), ExtTreeMap.mem_toList_iff_getElem?_eq_some.mpr hlink, ?_⟩
    cases valid with
    | none => exact Or.inl ⟨address, ExtTreeSet.mem_toList.mpr hentry, rfl, rfl, rfl⟩
    | some valid =>
      exact Or.inr ⟨(address, valid), ExtTreeMap.mem_toList_iff_getElem?_eq_some.mpr hentry,
        rfl, rfl, rfl⟩

theorem shownAddresses_eq {l : List AddressEntry} (perm : l.Perm (addressEntries s)) :
    (l.filterMap AddressEntry.permanent?).foldl (fun m e => m.insertInto e.1 e.2) ∅ =
      (seen s).addresses := by
  refine BTreeMap.foldl_insertInto_eq _ (shownOn_full rfl _) fun name p => ?_
  rw [seen, shownOn_getD fun v hv => ExtTreeSet.isEmpty_iff.mp hv]
  simp only [List.mem_filterMap, perm.mem_iff]
  constructor
  · rintro ⟨⟨dev, address, valid⟩, hmem, hentry⟩
    cases valid with
    | none =>
      cases hentry
      obtain ⟨hin, hp⟩ := (mem_addressEntries _).mp hmem
      rwa [if_pos (ExtTreeMap.contains_iff_mem.mpr hin)]
    | some valid => cases hentry
  · intro hp
    split at hp
    · next hin =>
      exact ⟨⟨name, p, none⟩,
        (mem_addressEntries _).mpr ⟨ExtTreeMap.contains_iff_mem.mp hin, hp⟩, rfl⟩
    · simp at hp

theorem shownLeases_eq {l : List AddressEntry} (perm : l.Perm (addressEntries s)) :
    (l.filterMap AddressEntry.lease?).foldl (fun m e => m.insertUnder e.1 e.2.1 e.2.2) ∅ =
      (seen s).dhcpAddresses := by
  refine BTreeMap.foldl_insertUnder_eq _ (shownOn_full rfl _) fun name p valid => ?_
  rw [seen, shownOn_getD fun v hv => ExtTreeMap.isEmpty_iff.mp hv]
  simp only [List.mem_filterMap, perm.mem_iff]
  constructor
  · rintro ⟨⟨dev, address, valid'⟩, hmem, hentry⟩
    cases valid' with
    | none => cases hentry
    | some valid' =>
      cases hentry
      obtain ⟨hin, hp⟩ := (mem_addressEntries _).mp hmem
      rwa [if_pos (ExtTreeMap.contains_iff_mem.mpr hin)]
  · intro hp
    split at hp
    · next hin =>
      exact ⟨⟨name, p, some valid⟩,
        (mem_addressEntries _).mpr ⟨ExtTreeMap.contains_iff_mem.mp hin, hp⟩, rfl⟩
    · simp at hp

end Collections

section Observing
variable {κ : Type} {peer : Peer κ} {state : κ → ActualState} {ifindex : κ → String → Nat}
  {leavesStp : Bool} {willing : Prop} {b : Backend κ}

/-- The socket is ready again, and the kernel has what it had. -/
structure Unmoved (state : κ → ActualState) (ifindex : κ → String → Nat) (b b' : Backend κ) :
    Prop where
  ready : Ready b'
  state : state b'.kernel = state b.kernel
  ifindex : ifindex b'.kernel = ifindex b.kernel

theorem Ready.unmoved (ready : Ready b) {k' : κ}
    (same : (state k', ifindex k') = (state b.kernel, ifindex b.kernel)) :
    Unmoved state ifindex b (after b k') :=
  ⟨ready, congrArg Prod.fst same, congrArg Prod.snd same⟩

theorem Unmoved.trans {b₁ b₂ : Backend κ} (h : Unmoved state ifindex b b₁)
    (h' : Unmoved state ifindex b₁ b₂) : Unmoved state ifindex b b₂ :=
  ⟨h'.ready, h'.state.trans h.state, h'.ifindex.trans h.ifindex⟩

theorem Provides.request {message : RouteMessage} {flags : Flags} {good : List RouteMessage → Prop}
    (h : Provides state ifindex willing peer ⟨b.seq + 1, flags, message⟩ b.kernel good)
    (ready : Ready b) : ∃ b', Unmoved state ifindex b b' ∧
      ((∃ e, request peer message flags b = (.error e, b') ∧ ¬ willing) ∨
        ∃ replies, request peer message flags b = (.ok replies, b') ∧ good replies) := by
  obtain ⟨result, k', deals, same, hresult⟩ := h
  have hrequest := request_deals ready deals
  refine ⟨after b k', ready.unmoved same, ?_⟩
  rcases hresult with ⟨hno, unwilling⟩ | ⟨replies, rfl, hgood⟩
  · cases result with
    | ok replies => cases hno
    | error e => exact Or.inl ⟨e, hrequest, unwilling⟩
  · exact Or.inr ⟨replies, hrequest, hgood⟩

theorem Provides.dumpLinks {family : AddressFamily} {attributes : List LinkAttribute}
    {good : List LinkMessage → Prop}
    (h : Provides state ifindex willing peer ⟨b.seq + 1, { dump := true },
      .getLink { family, attributes }⟩ b.kernel fun replies => good (replies.filterMap newLink?))
    (ready : Ready b) : ∃ b', Unmoved state ifindex b b' ∧
      ((∃ e, dumpLinks peer family attributes b = (.error e, b') ∧ ¬ willing) ∨
        ∃ ms, dumpLinks peer family attributes b = (.ok ms, b') ∧ good ms) := by
  obtain ⟨b', unmoved, hresult⟩ := h.request ready
  refine ⟨b', unmoved, ?_⟩
  rcases hresult with ⟨e, hrun, unwilling⟩ | ⟨replies, hrun, hgood⟩
  · exact Or.inl ⟨e, Failing.bind_of_error hrun, unwilling⟩
  · exact Or.inr ⟨_, Failing.bind_of_ok hrun, hgood⟩

/-- Read back, the dumps of a state are what it shows. -/
theorem dumps_seen {ix : String → Nat} {s : ActualState} (injective : Function.Injective ix)
    {links vlans : List LinkMessage} {addresses : List AddressMessage}
    (hlinks : ListsLinks ix s links) (hvlans : ListsVlans ix s vlans)
    (haddresses : ListsAddresses ix s addresses) :
    addresses.foldl (addAddressMessage (linkNames links))
      (vlans.foldl (addVlans (linkNames links))
        (links.foldl (addLink none (linkNames links)) {})) = seen s := by
  obtain ⟨l, perm, about⟩ := hlinks
  obtain ⟨l', inLinks', all, aboutVlans⟩ := hvlans
  obtain ⟨a, permAddresses, aboutAddresses⟩ := haddresses
  have hmem : ∀ e ∈ s.links.toList, e.1 ∈ s.links := fun e he => (BTreeMap.mem_iff _ _).mpr
    ⟨e.2, ExtTreeMap.mem_toList_iff_getElem?_eq_some.mp he⟩
  have inAddresses : ∀ e ∈ a, e.dev ∈ s.links :=
    fun e he => ((mem_addressEntries e).mp (permAddresses.mem_iff.mp he)).1
  have namesOf : NamesOf ix s (linkNames links) := by
    have hkeys : (l.map Prod.fst).Perm s.links.keys := by
      rw [← ExtTreeMap.map_fst_toList_eq_keys]
      exact perm.map Prod.fst
    have hcollect := namesOf_collect injective hkeys
    rwa [List.map_map, Function.comp_def, ← linkNames_eq about] at hcollect
  rw [foldl_addLink namesOf (fun e he => hmem e (perm.mem_iff.mp he)) about,
    foldl_addVlans namesOf (fun e he => hmem e (inLinks' e he)) aboutVlans,
    foldl_addAddress namesOf inAddresses aboutAddresses, shownLinks_eq perm,
    BTreeMap.foldl_insertUnder_eq _ (shownOn_full rfl _) (mem_vlanEntries inLinks' all),
    shownAddresses_eq permAddresses, shownLeases_eq permAddresses]
  rfl

theorem observe_peer (h : KernelPeer peer state ifindex leavesStp willing) (ready : Ready b) :
    ∃ b', Unmoved state ifindex b b' ∧
      ((∃ e, observe peer b = (.error e, b') ∧ ¬ willing) ∨
        observe peer b = (.ok (seen (state b.kernel)), b')) := by
  obtain ⟨b₁, unmoved₁, hlinks⟩ := (h.links (b.seq + 1) b.kernel).dumpLinks ready
  rcases hlinks with ⟨e, hrun, unwilling⟩ | ⟨links, hrun₁, hlinks⟩
  · exact ⟨b₁, unmoved₁, Or.inl ⟨e, Failing.bind_of_error hrun, unwilling⟩⟩
  have hports : b₁.ports = none := unmoved₁.ready.1
  obtain ⟨b₂, unmoved₂, hvlans⟩ := (h.vlans (b₁.seq + 1) b₁.kernel).dumpLinks unmoved₁.ready
  rcases hvlans with ⟨e, hrun, unwilling⟩ | ⟨vlans, hrun₂, hvlans⟩
  · refine ⟨b₂, unmoved₁.trans unmoved₂, Or.inl ⟨e, ?_, unwilling⟩⟩
    exact (Failing.bind_of_ok hrun₁).trans
      ((Failing.bind_of_ok rfl).trans (Failing.bind_of_error hrun))
  obtain ⟨b₃, unmoved₃, haddresses⟩ := (h.addresses (b₂.seq + 1) b₂.kernel).request unmoved₂.ready
  refine ⟨b₃, (unmoved₁.trans unmoved₂).trans unmoved₃, ?_⟩
  rcases haddresses with ⟨e, hrun, unwilling⟩ | ⟨replies, hrun₃, haddresses⟩
  · refine Or.inl ⟨e, ?_, unwilling⟩
    exact (Failing.bind_of_ok hrun₁).trans ((Failing.bind_of_ok rfl).trans
      ((Failing.bind_of_ok hrun₂).trans (Failing.bind_of_error hrun)))
  · rw [unmoved₁.state, unmoved₁.ifindex] at hvlans
    rw [unmoved₂.state, unmoved₁.state, unmoved₂.ifindex, unmoved₁.ifindex] at haddresses
    refine Or.inr ((Failing.bind_of_ok hrun₁).trans ((Failing.bind_of_ok rfl).trans
      ((Failing.bind_of_ok hrun₂).trans ((Failing.bind_of_ok hrun₃).trans ?_))))
    rw [hports, ← dumps_seen (h.ifindex_injective b.kernel) hlinks hvlans haddresses]
    rfl

end Observing

end ClixonSwitch.Guarantees
