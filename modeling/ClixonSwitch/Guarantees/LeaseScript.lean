import ClixonSwitch.Guarantees.CommitHeals
import ClixonSwitch.Guarantees.LeaseFile

/-!
# The lease script keeps to its own address

The script finds its address in what `ip addr show` prints, by the word "dynamic". With an
`ip` that prints the word for leased addresses only, the script is a register of the current
lease: what it leaves after any events is what the last one says, and static addresses are as
they were.
-/
namespace ClixonSwitch.Guarantees
open Std Lib Lib.NumberList
open Source.SwitchModel Source.SwitchNet

/-- A line of `ip -o -4 addr show`, whatever stands before and behind the address. -/
structure AddressLine where
  start : String
  address : Ipv4Prefix
  rest : String
  start_plain : '/' ∉ start.toList
  rest_plain : '/' ∉ rest.toList

def AddressLine.text (l : AddressLine) : String :=
  l.start ++ " inet " ++ displayPrefix l.address ++ " " ++ l.rest

/-- What the script takes the address for. -/
def AddressLine.kind (l : AddressLine) : AddressKind :=
  if Fields.occurs "dynamic".toList l.rest.toList then .dynamic else .permanent

section Text

theorem displayPrefix_toList (p : Ipv4Prefix) : (displayPrefix p).toList =
    (displayAddr p.addr).toList ++ '/' :: Nat.toDigits 10 p.prefixLen.toNat := by
  have htext : displayPrefix p = displayAddr p.addr ++ "/" ++ toString p.prefixLen := rfl
  rw [htext, String.toList_append, String.toList_append, toString_u8, List.append_assoc]
  rfl

theorem displayAddr_injective {a b : Ipv4Addr}
    (h : (displayAddr a).toList = (displayAddr b).toList) : a = b := by
  have hread := congrArg (fun text => parseIpv4Addr (String.ofList text)) h
  simp only [String.ofList_toList, parseIpv4Addr_displayAddr] at hread
  exact Option.some.inj hread

theorem toDigits_injective {m n : Nat} (h : Nat.toDigits 10 m = Nat.toDigits 10 n) : m = n := by
  have hread := congrArg (Text.digits 10) h
  rw [digits_toDigits, digits_toDigits] at hread
  exact Option.some.inj hread

/-- An address read from its text. -/
def readPrefix (text : String) : Option Ipv4Prefix :=
  (Text.splitOnce ['/'] text.toList).bind fun parts =>
    (parseIpv4Addr (String.ofList parts.1)).bind fun addr =>
      (Text.parseUnsigned 10 256 parts.2).map fun len => ⟨addr, UInt8.ofNat len⟩

theorem readPrefix_displayPrefix (p : Ipv4Prefix) : readPrefix (displayPrefix p) = some p := by
  have hlen : Text.parseUnsigned 10 256 (Nat.toDigits 10 p.prefixLen.toNat) =
      some p.prefixLen.toNat := parseUnsigned_toDigits p.prefixLen.toNat_lt
  rw [readPrefix, displayPrefix_toList,
    Text.splitOnce_append (not_mem_displayAddr (by decide) (by decide) _), Option.bind_some,
    String.ofList_toList, parseIpv4Addr_displayAddr, Option.bind_some, hlen, Option.map_some,
    UInt8.ofNat_toNat]

theorem displayPrefix_injective {p q : Ipv4Prefix} (heq : displayPrefix p = displayPrefix q) :
    p = q := by
  have hread := congrArg readPrefix heq
  rw [readPrefix_displayPrefix, readPrefix_displayPrefix] at hread
  exact Option.some.inj hread

/-- A line shows one address. -/
theorem splitOnce_text (l : AddressLine) (p : Ipv4Prefix) :
    Text.splitOnce (" inet " ++ displayPrefix p ++ " ").toList l.text.toList =
      if l.address = p then some (l.start.toList, l.rest.toList) else none := by
  have hinet : " inet ".toList = " inet".toList ++ [' '] := by decide
  have hblank : " ".toList = [' '] := rfl
  have hhead : '/' ∉ l.start.toList ++ (" inet ".toList ++ (displayAddr l.address.addr).toList) := by
    simp only [List.mem_append, not_or]
    exact ⟨l.start_plain, by decide, not_mem_displayAddr (by decide) (by decide) _⟩
  have htail : '/' ∉ Nat.toDigits 10 l.address.prefixLen.toNat ++ ' ' :: l.rest.toList := by
    rw [List.mem_append, List.mem_cons, not_or, not_or]
    exact ⟨not_mem_toDigits (by decide) _, by decide, l.rest_plain⟩
  have hpattern : (" inet " ++ displayPrefix p ++ " ").toList =
      (" inet ".toList ++ (displayAddr p.addr).toList) ++
        '/' :: (Nat.toDigits 10 p.prefixLen.toNat ++ [' ']) := by
    simp only [String.toList_append, displayPrefix_toList, hblank, List.append_assoc,
      List.cons_append]
  have htext : l.text.toList =
      (l.start.toList ++ (" inet ".toList ++ (displayAddr l.address.addr).toList)) ++
        '/' :: (Nat.toDigits 10 l.address.prefixLen.toNat ++ ' ' :: l.rest.toList) := by
    simp only [AddressLine.text, String.toList_append, displayPrefix_toList, hblank,
      List.append_assoc, List.cons_append, List.nil_append]
  rw [hpattern, htext]
  by_cases heq : l.address = p
  · rw [if_pos heq, Fields.splitOnce_around hhead htail, heq]
    exact ⟨rfl, by simp⟩
  · rw [if_neg heq, Option.eq_none_iff_forall_ne_some]
    rintro ⟨before, after⟩ hfound
    obtain ⟨hbefore, hafter⟩ := (Fields.splitOnce_around hhead htail).mp hfound
    apply heq
    -- the address stands behind the last blank, its length before the first
    have haddr : l.address.addr = p.addr := by
      rw [hinet] at hbefore
      simp only [List.append_assoc, List.singleton_append] at hbefore
      rw [← List.append_assoc, ← List.append_assoc] at hbefore
      have hlast := congrArg (Text.afterLast ' ') hbefore
      rw [Fields.afterLast_append_cons (not_mem_displayAddr (by decide) (by decide) _),
        Fields.afterLast_append_cons (not_mem_displayAddr (by decide) (by decide) _)] at hlast
      exact displayAddr_injective hlast
    have hlen : l.address.prefixLen = p.prefixLen := by
      rw [List.append_assoc, List.singleton_append] at hafter
      have hfirst := congrArg (Text.splitOnce [' ']) hafter
      rw [Text.splitOnce_append (not_mem_toDigits (by decide) _),
        Text.splitOnce_append (not_mem_toDigits (by decide) _)] at hfirst
      exact UInt8.toNat_inj.mp (toDigits_injective (Prod.mk.inj (Option.some.inj hfirst)).1)
    calc l.address = ⟨l.address.addr, l.address.prefixLen⟩ := rfl
      _ = p := by rw [haddr, hlen]

end Text

/-- Only the leased addresses of the interface may differ, and are `leases` now. -/
structure LeasesBecome (interface : String) (k k' : ActualState)
    (leases : BTreeMap Ipv4Prefix UInt32) : Prop where
  links : k'.links = k.links
  bridgeVlans : k'.bridgeVlans = k.bridgeVlans
  addresses : k'.addresses = k.addresses
  others : ∀ dev, dev ≠ interface → k'.dhcpAddresses[dev]? = k.dhcpAddresses[dev]?
  leases : (device k' interface).leases = leases

/-- What the script needs of `ip` on its interface. `kernel` has the leased addresses with the
time they were set for, `routes` the gateways of the default routes over the interface, and
`taken` are the leases that `ip` accepts. -/
structure LawfulIp {ω : Type} (ip : IpCommand ω) (interface : String)
    (kernel : ω → ActualState) (routes : ω → List String) (taken : Offer → Prop) : Prop where
  /-- A line for each address, with "dynamic" behind the leased ones only. -/
  shown : ∀ w, ∃ lines : List AddressLine, ip.addrShow interface w = lines.map AddressLine.text ∧
    (lines.map AddressLine.address).Nodup ∧ ∀ p,
      (p ∈ (device (kernel w) interface).addresses ↔
        ∃ l ∈ lines, l.address = p ∧ l.kind = .permanent) ∧
      (p ∈ (device (kernel w) interface).leases ↔ ∃ l ∈ lines, l.address = p ∧ l.kind = .dynamic)
  replaced : ∀ w o, taken o → (kernel w).links[interface]? ≠ none →
    o.address ∉ (device (kernel w) interface).addresses →
    LeasesBecome interface (kernel w)
      (kernel (ip.addrReplace interface (displayPrefix o.address) o.env.lease o.env.broadcast w))
      ((device (kernel w) interface).leases.insert o.address o.leaseTime)
  deleted : ∀ w, ∀ p ∈ (device (kernel w) interface).leases,
    LeasesBecome interface (kernel w) (kernel (ip.addrDel interface (displayPrefix p) w))
      ((device (kernel w) interface).leases.erase p)
  /-- Setting and deleting addresses makes no default route. -/
  replacedRoutes : ∀ w address lease broadcast,
    (routes (ip.addrReplace interface address lease broadcast w)).length ≤ (routes w).length
  deletedRoutes : ∀ w address,
    (routes (ip.addrDel interface address w)).length ≤ (routes w).length
  /-- The gateway of a lease is accepted while the address of the lease is there. -/
  routeReplaced : ∀ w o gateway, taken o → o.routers.head? = some gateway →
    o.address ∈ (device (kernel w) interface).addresses ∨
      o.address ∈ (device (kernel w) interface).leases → (routes w).length ≤ 1 →
    routes (ip.routeReplace interface (displayAddr gateway) w) = [displayAddr gateway]
  routeReplacedKernel : ∀ w gateway, kernel (ip.routeReplace interface gateway w) = kernel w
  /-- One route is deleted as long as there is one. -/
  routeDeleted : ∀ w, (ip.routeDel interface w).1 = !(routes w).isEmpty ∧
    (routes (ip.routeDel interface w).2).length = (routes w).length - 1 ∧
    kernel (ip.routeDel interface w).2 = kernel w

section Effects
variable {ω : Type} {ip : IpCommand ω} {interface : String} {kernel : ω → ActualState}
  {routes : ω → List String} {taken : Offer → Prop} {w w' w'' : ω} {p : Ipv4Prefix}
  {leases leases' : BTreeMap Ipv4Prefix UInt32}

theorem AddressLine.shows (l : AddressLine) (p : Ipv4Prefix) :
    ((Text.splitOnce (" inet " ++ displayPrefix p ++ " ").toList l.text.toList).map fun parts =>
      if Fields.occurs "dynamic".toList parts.2 then AddressKind.dynamic else .permanent) =
      if l.address = p then some l.kind else none := by
  rw [splitOnce_text]
  split <;> rfl

theorem addressKind_eq_iff {lines : List AddressLine} (kind : AddressKind)
    (shown : ip.addrShow interface w = lines.map AddressLine.text)
    (nodup : (lines.map AddressLine.address).Nodup) :
    addressKind ip interface (displayPrefix p) w = [kind] ↔
      ∃ l ∈ lines, l.address = p ∧ l.kind = kind := by
  have hkind : addressKind ip interface (displayPrefix p) w =
      lines.filterMap fun l => if l.address = p then some l.kind else none := by
    rw [addressKind, shown, List.filterMap_map]
    exact List.filterMap_congr fun l _ => l.shows p
  rw [hkind]
  by_cases hin : ∃ l ∈ lines, l.address = p
  · obtain ⟨l, hl, rfl⟩ := hin
    rw [Fields.filterMap_of_nodup (f := AddressLine.kind) nodup hl, List.singleton_inj]
    constructor
    · intro h
      exact ⟨l, hl, rfl, h⟩
    · rintro ⟨l', hl', heq, h⟩
      rwa [← List.inj_on_of_nodup_map nodup hl' hl heq]
  · have hnone : lines.filterMap (fun l => if l.address = p then some l.kind else none) = [] :=
      List.filterMap_eq_nil_iff.mpr fun l hl => if_neg fun heq => hin ⟨l, hl, heq⟩
    rw [hnone]
    constructor
    · intro h
      cases h
    · rintro ⟨l, hl, heq, -⟩
      exact absurd ⟨l, hl, heq⟩ hin

theorem LeasesBecome.refl (interface : String) (k : ActualState) :
    LeasesBecome interface k k (device k interface).leases :=
  ⟨rfl, rfl, rfl, fun _ _ => rfl, rfl⟩

theorem LeasesBecome.trans {k k₁ k₂ : ActualState} {leases₁ leases₂ : BTreeMap Ipv4Prefix UInt32}
    (h : LeasesBecome interface k k₁ leases₁) (h' : LeasesBecome interface k₁ k₂ leases₂) :
    LeasesBecome interface k k₂ leases₂ :=
  ⟨h'.links.trans h.links, h'.bridgeVlans.trans h.bridgeVlans, h'.addresses.trans h.addresses,
    fun dev hdev => (h'.others dev hdev).trans (h.others dev hdev), h'.leases⟩

theorem erase_of_not_mem {m : BTreeMap Ipv4Prefix UInt32} (h : p ∉ m) :
    m.erase p = m := by
  refine ExtTreeMap.ext_getElem? fun q => ?_
  rw [ExtTreeMap.getElem?_erase]
  split
  · next heq =>
    obtain rfl : p = q := Std.compare_eq_iff_eq.mp heq
    exact ((BTreeMap.not_mem_iff m p).mp h).symm
  · rfl

/-- Commands on addresses: the leases are these now, and no default route is new. -/
structure Readdressed (interface : String) (kernel : ω → ActualState) (routes : ω → List String)
    (w w' : ω) (leases : BTreeMap Ipv4Prefix UInt32) : Prop where
  kernel : LeasesBecome interface (kernel w) (kernel w') leases
  routes : (routes w').length ≤ (routes w).length

theorem Readdressed.refl (w : ω) :
    Readdressed interface kernel routes w w (device (kernel w) interface).leases :=
  ⟨.refl interface (kernel w), le_rfl⟩

theorem Readdressed.trans (h : Readdressed interface kernel routes w w' leases)
    (h' : Readdressed interface kernel routes w' w'' leases') :
    Readdressed interface kernel routes w w'' leases' :=
  ⟨h.kernel.trans h'.kernel, h'.routes.trans h.routes⟩

/-- The leased addresses after an address is set with the time of the lease. -/
def withLease (d : Device) (o : Offer) : BTreeMap Ipv4Prefix UInt32 :=
  if o.address ∈ d.addresses then d.leases else d.leases.insert o.address o.leaseTime

variable (lawful : LawfulIp ip interface kernel routes taken)
include lawful

/-- What the script learns about an address. -/
theorem LawfulIp.kind_iff (w : ω) (p : Ipv4Prefix) :
    (addressKind ip interface (displayPrefix p) w = [.permanent] ↔
      p ∈ (device (kernel w) interface).addresses) ∧
    (addressKind ip interface (displayPrefix p) w = [.dynamic] ↔
      p ∈ (device (kernel w) interface).leases) := by
  obtain ⟨lines, shown, nodup, hiff⟩ := lawful.shown w
  obtain ⟨hstatic, hleased⟩ := hiff p
  exact ⟨(addressKind_eq_iff _ shown nodup).trans hstatic.symm,
    (addressKind_eq_iff _ shown nodup).trans hleased.symm⟩

theorem LawfulIp.apart (w : ω) : (device (kernel w) interface).Disjoint := by
  intro p hstatic hleased
  have hpermanent := (lawful.kind_iff w p).1.mpr hstatic
  rw [(lawful.kind_iff w p).2.mpr hleased] at hpermanent
  cases hpermanent

theorem deleteDynamic_leases :
    Readdressed interface kernel routes w (deleteDynamic ip interface (displayPrefix p) w)
      ((device (kernel w) interface).leases.erase p) := by
  have hiff := (lawful.kind_iff w p).2
  rw [deleteDynamic]
  by_cases hleased : p ∈ (device (kernel w) interface).leases
  · rw [if_pos (hiff.mpr hleased)]
    exact ⟨lawful.deleted w p hleased, lawful.deletedRoutes w _⟩
  · rw [if_neg fun h => hleased (hiff.mp h), erase_of_not_mem hleased]
    exact .refl w

/-- A static address is left alone. -/
theorem setAddress_leases {o : Offer} (hoffer : taken o)
    (there : (kernel w).links[interface]? ≠ none) :
    Readdressed interface kernel routes w
      (setAddress ip interface (displayPrefix o.address) o.env.lease o.env.broadcast w)
      (withLease (device (kernel w) interface) o) := by
  have hiff := (lawful.kind_iff w o.address).1
  rw [setAddress, withLease]
  by_cases hstatic : o.address ∈ (device (kernel w) interface).addresses
  · rw [if_pos (hiff.mpr hstatic), if_pos hstatic]
    exact .refl w
  · rw [if_neg fun h => hstatic (hiff.mp h), if_neg hstatic]
    exact ⟨lawful.replaced w o hoffer there hstatic, lawful.replacedRoutes w _ _ _⟩

/-- The loop ends with no default route. -/
theorem deleteRoutes_nil (rounds : Nat) (enough : (routes w).length < rounds) :
    routes (deleteRoutes ip interface rounds w) = [] ∧
      kernel (deleteRoutes ip interface rounds w) = kernel w := by
  induction rounds generalizing w with
  | zero => omega
  | succ rounds ih =>
    obtain ⟨hfound, hlength, hkernel⟩ := lawful.routeDeleted w
    rw [deleteRoutes]
    cases hdel : ip.routeDel interface w with
    | mk found w' =>
      rw [hdel] at hfound hlength hkernel
      cases hroutes : routes w with
      | nil =>
        rw [hroutes] at hfound hlength
        obtain rfl : found = false := hfound
        exact ⟨List.eq_nil_of_length_eq_zero hlength, hkernel⟩
      | cons gateway rest =>
        rw [hroutes] at hfound hlength enough
        obtain rfl : found = true := hfound
        simp only [List.length_cons, Nat.add_sub_cancel] at hlength enough
        obtain ⟨hnil, hkept⟩ := ih (w := w') (by omega)
        exact ⟨hnil, hkept.trans hkernel⟩

end Effects

section Events
variable {ω : Type} {ip : IpCommand ω} {interface : String} {kernel : ω → ActualState}
  {routes : ω → List String} {taken : Offer → Prop} {rounds : Nat} {w : ω}
  {current : Option Offer} {k k' : ActualState} {leases : BTreeMap Ipv4Prefix UInt32}

/-- The file that the script writes for a lease. -/
def leaseRecord (current : Option Offer) : Option String :=
  current.map fun o => leaseText o.env

theorem recordedAddress_leaseRecord :
    recordedAddress (leaseRecord current) = current.map fun o => displayPrefix o.address := by
  cases current with
  | none => rfl
  | some o => exact recordedAddress_leaseText o

/-- The address of a lease is gone. -/
def dropLease (leases : BTreeMap Ipv4Prefix UInt32) : Option Offer → BTreeMap Ipv4Prefix UInt32
  | none => leases
  | some o => leases.erase o.address

theorem LeasesBecome.leaseChange (change : LeasesBecome interface k k' leases)
    (there : k.links[interface]? ≠ none) (apart : (device k' interface).Disjoint) :
    LeaseChange k k' := by
  obtain ⟨links, bridgeVlans, addresses, others, -⟩ := change
  refine ⟨links, bridgeVlans, addresses, fun h => ⟨fun dev => ?_, ?_, ?_, ?_⟩⟩
  · by_cases heq : dev = interface
    · subst heq
      refine ⟨?_, fun _ _ => ?_, apart⟩
      · simpa only [device, links, bridgeVlans] using (h.fit dev).entries
      · simpa only [device, links, Option.isSome_iff_ne_none] using there
    · have hdev : device k' dev = device k dev := by
        simp only [device, links, bridgeVlans, addresses, BTreeMap.getD_eq, others dev heq]
      rw [hdev]
      exact h.fit dev
  · simpa only [Device.parent, device, links] using h.parents
  · simpa only [Device.master, Device.isBridge, device, links] using h.masters
  · simpa only [Device.isDsa, device, links] using h.bridgeNotPort

/-- The address is set unless it is static, and that of the lease before is given up. -/
theorem deleteOld_leases (current : Option Offer)
    (lawful : LawfulIp ip interface kernel routes taken) {o : Offer}
    (hoffer : taken o) (there : (kernel w).links[interface]? ≠ none) :
    Readdressed interface kernel routes w
      (deleteOld ip interface (recordedAddress (leaseRecord current)) (displayPrefix o.address)
        (setAddress ip interface (displayPrefix o.address) o.env.lease o.env.broadcast w))
      (dropLease (withLease (device (kernel w) interface) o)
        (current.filter fun old => old.address ≠ o.address)) := by
  have hset := setAddress_leases lawful hoffer there
  rw [recordedAddress_leaseRecord]
  cases current with
  | none => exact hset
  | some old =>
    simp only [deleteOld, Option.map_some, Option.filter_some]
    by_cases heq : old.address = o.address
    · rw [if_pos (congrArg displayPrefix heq)]
      simpa [heq, dropLease] using hset
    · rw [if_neg fun htext => heq (displayPrefix_injective htext)]
      have hdel := hset.trans (deleteDynamic_leases (p := old.address) lawful)
      rw [hset.kernel.leases] at hdel
      simpa [heq, dropLease] using hdel

end Events

/-- What udhcpc reports. -/
inductive ClientEvent where
  | deconfig
  | bound (o : Offer)
  | renew (o : Offer)
  | leasefail
  | nak

/-- How it calls the script. -/
def ClientEvent.call : ClientEvent → LeaseEvent
  | deconfig => .deconfig
  | bound o => .bound o.env
  | renew o => .renew o.env
  | leasefail => .leasefail
  | nak => .nak

/-- The lease after an event. -/
def ClientEvent.next (current : Option Offer) : ClientEvent → Option Offer
  | deconfig => none
  | bound o => some o
  | renew o => some o
  | leasefail => current
  | nak => current

/-- The lease that comes with an event is one of these. -/
def ClientEvent.Brings (taken : Offer → Prop) : ClientEvent → Prop
  | bound o => taken o
  | renew o => taken o
  | _ => True

def runScript {ω : Type} (ip : IpCommand ω) (interface : String) (rounds : Nat)
    (events : List ClientEvent) (h : Host ω) : Host ω :=
  events.foldl (fun h e => udhcpcScript ip interface rounds e.call h) h

def Offer.resolv (o : Offer) : String :=
  (if o.domain.isEmpty then "" else s!"search {o.domain}\n") ++
    String.join (o.dnsServers.map fun a => s!"nameserver {displayAddr a}\n")

/-- The leased addresses while a lease is held on an interface with these static ones. -/
def heldLeases (static : BTreeSet Ipv4Prefix) : Option Offer → BTreeMap Ipv4Prefix UInt32
  | none => ∅
  | some o => if o.address ∈ static then ∅ else (∅ : BTreeMap _ _).insert o.address o.leaseTime

def heldRoutes (current : Option Offer) : List String :=
  (current.bind fun o => o.routers.head?).toList.map displayAddr

/-- The host is as it was besides what the lease sets. -/
structure Leased {ω : Type} (interface : String) (kernel : ω → ActualState)
    (routes : ω → List String) (start : Host ω) (current : Option Offer) (h : Host ω) : Prop where
  kernel : LeasesBecome interface (kernel start.world) (kernel h.world)
    (heldLeases (device (kernel start.world) interface).addresses current)
  file : h.leaseFile = leaseRecord current
  routes : routes h.world = heldRoutes current
  resolv : h.resolvConf = (current.map Offer.resolv).getD ""

/-- And state data shows the lease. -/
structure HoldsLease {ω : Type} (interface : String) (kernel : ω → ActualState)
    (routes : ω → List String) (start : Host ω) (current : Option Offer) (h : Host ω) : Prop
    extends Leased interface kernel routes start current h where
  lease : ∀ pid leaseFile, leaseFile interface = h.leaseFile →
    DhcpClients.lease ⟨some (interface, pid)⟩ leaseFile =
      current.map fun o => (interface, o.lease)

section Runs
variable {ω : Type} {ip : IpCommand ω} {interface : String} {kernel : ω → ActualState}
  {routes : ω → List String} {taken : Offer → Prop} {rounds : Nat} {start h : Host ω}
  {current : Option Offer}

theorem getElem?_heldLeases (static : BTreeSet Ipv4Prefix) (p : Ipv4Prefix) :
    (heldLeases static current)[p]? =
      (current.filter fun o => o.address = p ∧ p ∉ static).map Offer.leaseTime := by
  cases current with
  | none => simp [heldLeases]
  | some o =>
    have hheld : heldLeases static (some o) = if o.address ∈ static then ∅
      else (∅ : BTreeMap _ _).insert o.address o.leaseTime := rfl
    rw [hheld]
    by_cases heq : o.address = p
    · by_cases hstatic : p ∈ static <;> simp [heq, hstatic]
    · split <;> simp [heq]

/-- What the script does to the kernel may happen at any time between commits. -/
theorem HoldsLease.leaseChange (lawful : LawfulIp ip interface kernel routes taken)
    (holds : HoldsLease interface kernel routes start current h)
    (there : (kernel start.world).links[interface]? ≠ none) :
    LeaseChange (kernel start.world) (kernel h.world) :=
  holds.kernel.leaseChange there (lawful.apart h.world)

theorem shellWords_addrs (addrs : List Ipv4Addr) :
    shellWords (Lines.unwords (addrs.map displayAddr)) = addrs.map displayAddr := by
  have hifs : ∀ c : Char, c.isDigit = true ∨ c = '.' → isIfs c = false := by
    intro c hc
    have hspace := isWhitespace_of_isDigit hc
    cases hcut : isIfs c with
    | false => rfl
    | true =>
      simp only [isIfs, Bool.or_eq_true, beq_iff_eq] at hcut
      rcases hcut with (rfl | rfl) | rfl <;> cases hspace
  rw [shellWords, fields_addrs (by decide) hifs, List.map_map]
  exact List.map_congr_left fun a _ => String.ofList_toList

theorem resolvText_env (o : Offer) : resolvText o.env = o.resolv := by
  rw [resolvText, Offer.resolv, Offer.env, shellWords_addrs, List.map_map]
  rfl

theorem getElem?_dropLease (leases : BTreeMap Ipv4Prefix UInt32) (dropped : Option Offer)
    (p : Ipv4Prefix) : (dropLease leases dropped)[p]? =
      if ∃ o, dropped = some o ∧ o.address = p then none else leases[p]? := by
  cases dropped with
  | none => simp [dropLease]
  | some o =>
    rw [dropLease, ExtTreeMap.getElem?_erase]
    by_cases heq : o.address = p <;> simp [heq]

theorem dropLease_heldLeases (static : BTreeSet Ipv4Prefix) :
    dropLease (heldLeases static current) current = ∅ := by
  refine ExtTreeMap.ext_getElem? fun p => ?_
  rw [getElem?_dropLease, getElem?_heldLeases]
  cases current with
  | none => simp
  | some o => by_cases heq : o.address = p <;> simp [heq]

/-- A new lease in place of the one before. -/
theorem dropLease_withLease {d : Device} (hleases : d.leases = heldLeases d.addresses current)
    (o : Offer) :
    dropLease (withLease d o) (current.filter fun old => old.address ≠ o.address) =
      heldLeases d.addresses (some o) := by
  refine ExtTreeMap.ext_getElem? fun p => ?_
  have hwith : (withLease d o)[p]? = if o.address = p ∧ o.address ∉ d.addresses then
      some o.leaseTime else (heldLeases d.addresses current)[p]? := by
    rw [withLease, hleases]
    by_cases heq : o.address ∈ d.addresses
    · simp [heq]
    · simp [heq, ExtTreeMap.getElem?_insert]
  rw [getElem?_dropLease, hwith, getElem?_heldLeases, getElem?_heldLeases]
  by_cases heq : o.address = p
  · by_cases hin : p ∈ d.addresses <;> cases current <;> simp [heq, hin]
  · cases current with
    | none => simp [heq]
    | some old => by_cases hold : old.address = p <;> simp [heq, hold, Option.filter_some, Ne.symm heq]

/-- The address of a lease is on the interface while the lease is held. -/
theorem mem_of_heldLeases {d : Device} {o : Offer}
    (hleases : d.leases = heldLeases d.addresses (some o)) :
    o.address ∈ d.addresses ∨ o.address ∈ d.leases := by
  by_cases hstatic : o.address ∈ d.addresses
  · exact Or.inl hstatic
  · right
    rw [hleases, BTreeMap.mem_iff]
    exact ⟨o.leaseTime, by rw [getElem?_heldLeases]; simp [hstatic]⟩

theorem length_heldRoutes (current : Option Offer) : (heldRoutes current).length ≤ 1 := by
  rw [heldRoutes, List.length_map]
  cases current.bind fun o => o.routers.head? <;> simp

variable (lawful : LawfulIp ip interface kernel routes taken) (enough : 2 ≤ rounds)
include lawful enough

theorem setGateway_routes {w : ω} {o : Offer} (hoffer : taken o) (one : (routes w).length ≤ 1)
    (addressed : o.address ∈ (device (kernel w) interface).addresses ∨
      o.address ∈ (device (kernel w) interface).leases) :
    routes (setGateway ip interface rounds (shellWords o.env.router) w) = heldRoutes (some o) ∧
      kernel (setGateway ip interface rounds (shellWords o.env.router) w) = kernel w := by
  have hwords : shellWords o.env.router = o.routers.map displayAddr := shellWords_addrs o.routers
  rw [hwords]
  cases hrouters : o.routers with
  | nil =>
    obtain ⟨hnil, hkernel⟩ := deleteRoutes_nil lawful (w := w) rounds (by omega)
    rw [List.map_nil, setGateway, hnil]
    exact ⟨by simp [heldRoutes, hrouters], hkernel⟩
  | cons a rest =>
    have hhead : o.routers.head? = some a := by rw [hrouters, List.head?_cons]
    rw [List.map_cons, setGateway, lawful.routeReplaced w o a hoffer hhead addressed one]
    exact ⟨by simp [heldRoutes, hrouters], lawful.routeReplacedKernel w _⟩

variable (leased : Leased interface kernel routes start current h)
include leased

theorem Leased.released :
    Leased interface kernel routes start none (deconfig ip interface rounds h) := by
  have hone := length_heldRoutes current
  have hchange : Readdressed interface kernel routes h.world
      (deleteRecorded ip interface (recordedAddress h.leaseFile) h.world)
      (dropLease (device (kernel h.world) interface).leases current) := by
    rw [leased.file, recordedAddress_leaseRecord]
    cases current with
    | none => exact .refl h.world
    | some o => exact deleteDynamic_leases lawful
  rw [leased.kernel.leases, dropLease_heldLeases] at hchange
  have hfew := hchange.routes
  rw [leased.routes] at hfew
  obtain ⟨hnil, hkernel⟩ := deleteRoutes_nil lawful rounds
    (Nat.lt_of_le_of_lt (hfew.trans hone) enough)
  refine ⟨?_, rfl, hnil, rfl⟩
  have hworld : kernel (deconfig ip interface rounds h).world = kernel _ := hkernel
  rw [hworld]
  exact leased.kernel.trans hchange.kernel

variable (there : (kernel start.world).links[interface]? ≠ none)
include there

theorem Leased.moved {o : Offer} (hoffer : taken o) :
    Leased interface kernel routes start (some o) (takeLease ip interface rounds o.env h) := by
  have hlink : (kernel h.world).links[interface]? ≠ none := leased.kernel.links ▸ there
  have hstatic : (device (kernel h.world) interface).addresses =
      (device (kernel start.world) interface).addresses := by
    simp only [device, leased.kernel.addresses]
  have hnew : o.env.ip ++ "/" ++ o.env.mask = displayPrefix o.address := rfl
  have hchange := deleteOld_leases current lawful hoffer hlink
  rw [dropLease_withLease (hstatic ▸ leased.kernel.leases) o, ← leased.file] at hchange
  have hfew := hchange.routes
  rw [leased.routes] at hfew
  have hstaticAfter := hchange.kernel.addresses
  have haddressed := mem_of_heldLeases (o := o) (d := device (kernel _) interface)
    (by rw [hchange.kernel.leases]; simp only [device, hstaticAfter])
  obtain ⟨hroutes, hkernel⟩ := setGateway_routes lawful enough hoffer
    (hfew.trans (length_heldRoutes current)) haddressed
  refine ⟨?_, rfl, ?_, resolvText_env o⟩
  · simp only [takeLease, hnew, hkernel]
    rw [← hstatic]
    exact leased.kernel.trans hchange.kernel
  · simpa only [takeLease, hnew] using hroutes

theorem Leased.step {e : ClientEvent} (brings : e.Brings taken) :
    Leased interface kernel routes start (e.next current)
      (udhcpcScript ip interface rounds e.call h) := by
  cases e with
  | deconfig => exact leased.released lawful enough
  | bound o => exact leased.moved lawful enough there brings
  | renew o => exact leased.moved lawful enough there brings
  | leasefail => exact leased
  | nak => exact leased

theorem Leased.run {events : List ClientEvent}
    (brings : ∀ e ∈ events, e.Brings taken) :
    Leased interface kernel routes start (events.foldl ClientEvent.next current)
      (runScript ip interface rounds events h) := by
  induction events generalizing current h with
  | nil => exact leased
  | cons e rest ih =>
    exact ih (leased.step lawful enough there (brings e List.mem_cons_self))
      fun e' he' => brings e' (List.mem_cons_of_mem e he')

end Runs

section Bench

/-- The address of the SVI. -/
def benchStatic : Ipv4Prefix := ⟨⟨0xC0A80101⟩, 24⟩

/-- An interface with a static address. -/
structure LeaseBench where
  leases : BTreeMap Ipv4Prefix UInt32
  routes : List String
  apart : benchStatic ∉ leases

def LeaseBench.kernel (w : LeaseBench) : ActualState where
  links := BTreeMap.collect [("vlan1", ⟨.vlan "br-lan" 1, true, none⟩)]
  addresses := BTreeMap.collect [("vlan1", .ofList [benchStatic] compare)]
  dhcpAddresses := BTreeMap.collect [("vlan1", w.leases)]

def LeaseBench.replace (p : Ipv4Prefix) (time : UInt32) (w : LeaseBench) : LeaseBench :=
  if h : p = benchStatic then w
  else { w with
    leases := w.leases.insert p time
    apart := by simp [ExtTreeMap.mem_insert, h, w.apart] }

def LeaseBench.delete (p : Ipv4Prefix) (w : LeaseBench) : LeaseBench :=
  { w with
    leases := w.leases.erase p
    apart := by simp [ExtTreeMap.mem_erase, w.apart] }

end Bench

end ClixonSwitch.Guarantees
