import ClixonSwitch.Lib.Components
import ClixonSwitch.Source.SwitchNet.FakeNet

/-!
# The kernel model device by device

All that `FakeNet` keeps under one interface name is a `Device`. Most operations
read and write one device only; a port that joins `br-lan` and a new VLAN link
also look at the bridge, but only at facts that no other operation changes. For
these operations `act` says what they do to their device, and the rules for
independent components apply.
-/
namespace ClixonSwitch.Source.SwitchNet
open Std Lib Source.SwitchModel

structure Device where
  link : Option Link := none
  vlans : VlanMap := ∅
  addresses : BTreeSet Ipv4Prefix := ∅
  leases : BTreeMap Ipv4Prefix UInt32 := ∅
  deriving DecidableEq

def device (s : ActualState) (name : String) : Device where
  link := s.links[name]?
  vlans := s.bridgeVlans.getD name ∅
  addresses := s.addresses.getD name ∅
  leases := s.dhcpAddresses.getD name ∅

/-- The interface an operation acts on. -/
def Op.target : Op → String
  | .createBridge name => name
  | .configureBridge name => name
  | .setBridgeStp name _ => name
  | .deleteLink name => name
  | .createVlan name _ _ => name
  | .setMaster name _ => name
  | .setUp name _ => name
  | .addBridgeVlan dev _ _ => dev
  | .delBridgeVlan dev _ => dev
  | .addAddress dev _ => dev
  | .delAddress dev _ => dev

def Link.takesVlans (l : Link) : Bool := l.kind.isBridge || l.master.isSome

def addEntry (vlans : VlanMap) (vid : UInt16) (flags : VlanFlags) : VlanMap :=
  (if flags.pvid then vlans.map fun _ f => { f with pvid := false } else vlans).insert vid flags

def setStp (l : Link) (on : Bool) : Option Link :=
  match l.kind with
  | .bridge b => some { l with kind := .bridge { b with stp := if on then .user else .off } }
  | _ => none

/-- What an operation does to its device; `none` if it is refused. The two
operations that reach further have no local meaning. -/
def act (op : Op) (d : Device) : Option Device :=
  match op with
  | .createBridge _ => if d.link.isSome then none else some { d with link := newLink freshBridgeKind }
  | .createVlan _ parent id =>
    if d.link.isSome then none else some { d with link := newLink (.vlan parent id) }
  | .setBridgeStp _ on => (d.link.bind (setStp · on)).map fun l => { d with link := some l }
  | .setMaster _ master => d.link.map fun l => { d with link := some { l with master }, vlans := ∅ }
  | .setUp _ up => d.link.map fun l => { d with link := some { l with up } }
  | .addBridgeVlan _ vid flags =>
    if d.link.any Link.takesVlans then some { d with vlans := addEntry d.vlans vid flags } else none
  | .delBridgeVlan _ vid =>
    if d.vlans.contains vid then some { d with vlans := d.vlans.erase vid } else none
  | .addAddress _ p =>
    if d.link.isSome && !d.leases.contains p && !d.addresses.contains p then
      some { d with addresses := d.addresses.insert p }
    else none
  | .delAddress _ p =>
    if d.addresses.contains p || d.leases.contains p then
      some { d with addresses := d.addresses.erase p, leases := d.leases.erase p }
    else none
  | .configureBridge _ => none
  | .deleteLink _ => none

/-- The bridge exists and gives joining ports no default entry. -/
def BridgeReady (s : ActualState) : Prop :=
  ∃ b up master, s.links[bridgeName]? = some ⟨.bridge b, up, master⟩ ∧ b.defaultPvid = 0

/-- Operations on one device, whatever the rest of the state. -/
def Op.isPlain : Op → Bool
  | .configureBridge _ => false
  | .deleteLink _ => false
  | .createVlan _ _ _ => false
  | .setMaster _ (some _) => false
  | _ => true

/-- Operations on one device once the bridge is ready. -/
def Op.isLocal : Op → Bool
  | .configureBridge _ => false
  | .deleteLink _ => false
  | .createVlan _ parent _ => parent == bridgeName
  | .setMaster _ (some m) => m == bridgeName
  | _ => true

/-- Operations that the planner uses device by device, once the bridge is right. -/
def Op.onDevice : Op → Bool
  | .createBridge _ => false
  | .setBridgeStp _ _ => false
  | op => op.isLocal

theorem Op.isLocal_of_onDevice {op : Op} (h : op.onDevice = true) : op.isLocal = true := by
  cases op <;> simp_all [Op.onDevice]

/-- Those of them that concern neither addresses nor the existence of a device. -/
def Op.isQuiet : Op → Bool
  | .setMaster _ none => true
  | .setMaster _ (some m) => m == bridgeName
  | .setUp _ _ => true
  | .addBridgeVlan _ _ _ => true
  | .delBridgeVlan _ _ => true
  | _ => false

theorem Op.onDevice_of_isQuiet {op : Op} (h : op.isQuiet = true) : op.onDevice = true := by
  cases op with
  | setMaster name master => cases master <;> exact h
  | _ => first | rfl | cases h

/-- What the two notions of a local operation have in common. -/
def LocalEffect (op : Op) (s : ActualState) : Prop :=
  match act op (device s op.target) with
  | some d => ∃ s', fakeApply op s = (.ok (), s') ∧
      ∀ name, device s' name = if name = op.target then d else device s name
  | none => ∃ e s', fakeApply op s = (.error e, s')

theorem device_link (s : ActualState) (name : String) :
    (device s name).link = s.links[name]? := rfl

section Updates
variable (s : ActualState) (dev name : String)

theorem device_insert_link (link : Link) :
    device { s with links := s.links.insert dev link } name =
      if name = dev then { device s dev with link := some link } else device s name := by
  by_cases h : name = dev
  · simp [device, h]
  · simp [device, h, ExtTreeMap.getElem?_insert, Ne.symm h]

theorem device_insert_vlans (vlans : VlanMap) :
    device { s with bridgeVlans := s.bridgeVlans.insert dev vlans } name =
      if name = dev then { device s dev with vlans } else device s name := by
  by_cases h : name = dev
  · simp [device, h]
  · simp [device, h, ExtTreeMap.getD_insert, Ne.symm h]

theorem device_insert_addresses (addresses : BTreeSet Ipv4Prefix) :
    device { s with addresses := s.addresses.insert dev addresses } name =
      if name = dev then { device s dev with addresses } else device s name := by
  by_cases h : name = dev
  · simp [device, h]
  · simp [device, h, ExtTreeMap.getD_insert, Ne.symm h]

theorem device_erase_address (p : Ipv4Prefix) :
    device { s with
      addresses := s.addresses.modify dev (·.erase p)
      dhcpAddresses := s.dhcpAddresses.modify dev (·.erase p) } name =
      if name = dev then
        { device s dev with
          addresses := (device s dev).addresses.erase p, leases := (device s dev).leases.erase p }
      else device s name := by
  by_cases h : name = dev
  · subst h
    simp only [device, BTreeMap.getD_eq, ExtTreeMap.getElem?_modify, Std.compare_self, if_true,
      Device.mk.injEq, true_and]
    cases s.addresses[name]? <;> cases s.dhcpAddresses[name]? <;> simp
  · simp [device, h, BTreeMap.getD_eq, ExtTreeMap.getElem?_modify, Ne.symm h]

end Updates

section Operations
variable (s : ActualState) (dev : String)

theorem any_contains_getD_set (m : BTreeMap String (BTreeSet Ipv4Prefix)) (p : Ipv4Prefix) :
    m[dev]?.any (·.contains p) = (m.getD dev ∅).contains p := by
  rw [BTreeMap.getD_eq]
  cases m[dev]? <;> simp

theorem any_contains_getD_map {V : Type} (m : BTreeMap String (BTreeMap Ipv4Prefix V))
    (p : Ipv4Prefix) : m[dev]?.any (·.contains p) = (m.getD dev ∅).contains p := by
  rw [BTreeMap.getD_eq]
  cases m[dev]? <;> simp

theorem LocalEffect.accept (op : Op) (s : ActualState) {s' : ActualState} {d : Device}
    (effect : act op (device s op.target) = some d) (result : fakeApply op s = (.ok (), s'))
    (view : ∀ name, device s' name = if name = op.target then d else device s name) :
    LocalEffect op s := by
  unfold LocalEffect
  rw [effect]
  exact ⟨s', result, view⟩

theorem LocalEffect.refuse (op : Op) (s : ActualState) {s' : ActualState} {e : NetError}
    (effect : act op (device s op.target) = none) (result : fakeApply op s = (.error e, s')) :
    LocalEffect op s := by
  unfold LocalEffect
  rw [effect]
  exact ⟨e, s', result⟩

theorem LocalEffect.of_ok {op : Op} {s s' : ActualState} (effect : LocalEffect op s)
    (h : fakeApply op s = (.ok (), s')) :
    ∃ d, act op (device s op.target) = some d ∧
      ∀ name, device s' name = if name = op.target then d else device s name := by
  unfold LocalEffect at effect
  split at effect
  · next d hact =>
    obtain ⟨t, ht, hview⟩ := effect
    rw [ht] at h
    cases h
    exact ⟨d, hact, hview⟩
  · obtain ⟨e, t, ht⟩ := effect
    rw [ht] at h
    cases h

theorem createBridge_local : LocalEffect (.createBridge dev) s := by
  cases hl : s.links[dev]? with
  | some l =>
    exact .refuse (.createBridge dev) s (by simp [act, Op.target, device_link, hl])
      (by simp only [fakeApply, BTreeMap.contains_eq, hl, Option.isSome_some, if_true, fail]; rfl)
  | none =>
    exact .accept (.createBridge dev) s (by simp [act, Op.target, device_link, hl]; rfl)
      (by simp only [fakeApply, BTreeMap.contains_eq, hl, Option.isSome_none, Bool.false_eq_true,
        if_false]; rfl)
      fun name => device_insert_link s dev name _

theorem createVlan_local (parent : String) (id : UInt16) (hp : s.links[parent]?.isSome = true) :
    LocalEffect (.createVlan dev parent id) s := by
  cases hl : s.links[dev]? with
  | some l =>
    exact .refuse (.createVlan dev parent id) s (by simp [act, Op.target, device_link, hl])
      (by simp only [fakeApply, BTreeMap.contains_eq, hl, Option.isSome_some, if_true, fail]; rfl)
  | none =>
    exact .accept (.createVlan dev parent id) s (by simp [act, Op.target, device_link, hl]; rfl)
      (by simp only [fakeApply, BTreeMap.contains_eq, hl, hp, Option.isSome_none, Bool.false_eq_true,
        Bool.not_true, if_false]; rfl)
      fun name => device_insert_link s dev name _

theorem setBridgeStp_local (on : Bool) : LocalEffect (.setBridgeStp dev on) s := by
  cases hl : s.links[dev]? with
  | none =>
    exact .refuse (.setBridgeStp dev on) s (by simp [act, Op.target, device_link, hl])
      (by simp only [fakeApply, applySetBridgeStp, hl, fail]; rfl)
  | some l =>
    obtain ⟨kind, up, master⟩ := l
    cases kind with
    | bridge b =>
      exact .accept (.setBridgeStp dev on) s (by simp [act, Op.target, device_link, hl, setStp]; rfl)
        (by simp only [fakeApply, applySetBridgeStp, hl])
        fun name => device_insert_link s dev name _
    | _ =>
      exact .refuse (.setBridgeStp dev on) s (by simp [act, Op.target, device_link, hl, setStp])
        (by simp only [fakeApply, applySetBridgeStp, hl, fail]; rfl)

theorem setUp_local (up : Bool) : LocalEffect (.setUp dev up) s := by
  cases hl : s.links[dev]? with
  | none =>
    exact .refuse (.setUp dev up) s (by simp [act, Op.target, device_link, hl])
      (by simp only [fakeApply, applySetUp, hl, fail]; rfl)
  | some l =>
    exact .accept (.setUp dev up) s (by simp [act, Op.target, device_link, hl]; rfl)
      (by simp only [fakeApply, applySetUp, hl]) fun name => device_insert_link s dev name _

theorem setMaster_local (master : Option String) (hpvid : masterPvid master s = some 0) :
    LocalEffect (.setMaster dev master) s := by
  cases hl : s.links[dev]? with
  | none =>
    exact .refuse (.setMaster dev master) s (by simp [act, Op.target, device_link, hl])
      (by simp only [fakeApply, applySetMaster, hpvid, hl, fail]; rfl)
  | some l =>
    refine .accept (.setMaster dev master) s (by simp [act, Op.target, device_link, hl]; rfl)
      (by simp only [fakeApply, applySetMaster, hpvid, hl]; rfl) fun name => ?_
    by_cases h : name = dev
    · simp [device, h, Op.target]
    · simp [device, h, Op.target, ExtTreeMap.getElem?_insert, ExtTreeMap.getD_erase, Ne.symm h]

theorem addBridgeVlan_local (vid : UInt16) (flags : VlanFlags) :
    LocalEffect (.addBridgeVlan dev vid flags) s := by
  cases hl : s.links[dev]? with
  | none =>
    exact .refuse (.addBridgeVlan dev vid flags) s (by simp [act, Op.target, device_link, hl])
      (by simp only [fakeApply, applyAddBridgeVlan, hl, fail]; rfl)
  | some l =>
    have hguard : (!l.kind.isBridge && l.master.isNone) = !l.takesVlans := by
      cases hb : l.kind.isBridge <;> cases hm : l.master <;> simp [Link.takesVlans, hb, hm]
    cases ht : l.takesVlans with
    | true =>
      exact .accept (.addBridgeVlan dev vid flags) s (by simp [act, Op.target, device_link, hl, ht]; rfl)
        (by simp only [fakeApply, applyAddBridgeVlan, hl, hguard, ht, Bool.not_true,
          Bool.false_eq_true, if_false]; rfl)
        fun name => device_insert_vlans s dev name _
    | false =>
      exact .refuse (.addBridgeVlan dev vid flags) s (by simp [act, Op.target, device_link, hl, ht])
        (by simp only [fakeApply, applyAddBridgeVlan, hl, hguard, ht, Bool.not_false, if_true, fail]; rfl)

theorem delBridgeVlan_local (vid : UInt16) : LocalEffect (.delBridgeVlan dev vid) s := by
  cases hv : s.bridgeVlans[dev]? with
  | none =>
    exact .refuse (.delBridgeVlan dev vid) s (by simp [act, Op.target, device, BTreeMap.getD_eq, hv])
      (by simp only [fakeApply, applyDelBridgeVlan, hv, fail]; rfl)
  | some vlans =>
    have hd : (device s dev).vlans = vlans := by simp [device, BTreeMap.getD_eq, hv]
    cases hc : vlans.contains vid with
    | true =>
      exact .accept (.delBridgeVlan dev vid) s (by simp only [act, Op.target, hd, hc, if_true]; rfl)
        (by simp only [fakeApply, applyDelBridgeVlan, hv, hc, if_true])
        fun name => device_insert_vlans s dev name _
    | false =>
      exact .refuse (.delBridgeVlan dev vid) s
        (by simp only [act, Op.target, hd, hc, Bool.false_eq_true, if_false])
        (by simp only [fakeApply, applyDelBridgeVlan, hv, hc, Bool.false_eq_true, if_false, fail]; rfl)

theorem addAddress_local (p : Ipv4Prefix) : LocalEffect (.addAddress dev p) s := by
  have hcontains : s.links.contains dev = (device s dev).link.isSome := BTreeMap.contains_eq ..
  have hleased : s.dhcpAddresses[dev]?.any (·.contains p) = (device s dev).leases.contains p :=
    any_contains_getD_map dev s.dhcpAddresses p
  have hpresent : (s.addresses.getD dev ∅).contains p = (device s dev).addresses.contains p := rfl
  by_cases hl : (device s dev).link.isSome = true
  · by_cases hd : (device s dev).leases.contains p = true
    · exact .refuse (.addAddress dev p) s (by simp only [act, Op.target, hd, Bool.not_true,
        Bool.and_false, Bool.false_and, Bool.false_eq_true, if_false])
        (by simp only [fakeApply, applyAddAddress, hcontains, hl, hleased, hd, Bool.not_true,
          Bool.false_eq_true, if_false, if_true, fail]; rfl)
    · by_cases ha : (device s dev).addresses.contains p = true
      · exact .refuse (.addAddress dev p) s (by simp only [act, Op.target, ha, Bool.not_true, Bool.and_false,
          Bool.false_eq_true, if_false])
          (by simp only [fakeApply, applyAddAddress, hcontains, hl, hleased, hd, hpresent, ha,
            Bool.not_true, Bool.false_eq_true, if_false, if_true, fail]; rfl)
      · exact .accept (.addAddress dev p) s
          (by simp only [act, Op.target, hl, hd, ha, Bool.not_false, Bool.and_self, if_true]; rfl)
          (by simp only [fakeApply, applyAddAddress, hcontains, hl, hleased, hd, hpresent, ha,
            Bool.not_true, Bool.false_eq_true, if_false]; rfl)
          fun name => device_insert_addresses s dev name _
  · exact .refuse (.addAddress dev p) s
      (by simp only [act, Op.target, hl, Bool.false_and, Bool.false_eq_true, if_false])
      (by simp only [fakeApply, applyAddAddress, hcontains, hl, Bool.not_false, if_true, fail]; rfl)

theorem delAddress_local (p : Ipv4Prefix) : LocalEffect (.delAddress dev p) s := by
  have hguard : (!s.addresses[dev]?.any (·.contains p) && !s.dhcpAddresses[dev]?.any (·.contains p)) =
      !((device s dev).addresses.contains p || (device s dev).leases.contains p) := by
    rw [any_contains_getD_set, any_contains_getD_map, Bool.not_or]
    rfl
  cases hok : ((device s dev).addresses.contains p || (device s dev).leases.contains p) with
  | true =>
    exact .accept (.delAddress dev p) s (by simp only [act, Op.target, hok, if_true])
      (by simp only [fakeApply, applyDelAddress, hguard, hok, Bool.not_true, Bool.false_eq_true,
        if_false])
      fun name => device_erase_address s dev name p
  | false =>
    exact .refuse (.delAddress dev p) s (by simp only [act, Op.target, hok, Bool.false_eq_true, if_false])
      (by simp only [fakeApply, applyDelAddress, hguard, hok, Bool.not_false, if_true, fail]; rfl)

end Operations

theorem localEffect_of_isPlain {op : Op} (h : op.isPlain = true) (s : ActualState) :
    LocalEffect op s := by
  cases op with
  | createBridge name => exact createBridge_local s name
  | setBridgeStp name on => exact setBridgeStp_local s name on
  | setUp name up => exact setUp_local s name up
  | addBridgeVlan dev vid flags => exact addBridgeVlan_local s dev vid flags
  | delBridgeVlan dev vid => exact delBridgeVlan_local s dev vid
  | addAddress dev p => exact addAddress_local s dev p
  | delAddress dev p => exact delAddress_local s dev p
  | setMaster name master =>
    cases master with
    | none => exact setMaster_local s name none rfl
    | some m => simp [Op.isPlain] at h
  | configureBridge name => simp [Op.isPlain] at h
  | deleteLink name => simp [Op.isPlain] at h
  | createVlan name parent id => simp [Op.isPlain] at h

theorem localEffect_of_isLocal {op : Op} (h : op.isLocal = true) {s : ActualState}
    (ready : BridgeReady s) : LocalEffect op s := by
  obtain ⟨b, up, master, hb, hpvid⟩ := ready
  cases op with
  | setMaster name master =>
    cases master with
    | none => exact setMaster_local s name none rfl
    | some m =>
      obtain rfl : m = bridgeName := by simpa [Op.isLocal] using h
      exact setMaster_local s name _ (by simp [masterPvid, hb, hpvid])
  | createVlan name parent id =>
    obtain rfl : parent = bridgeName := by simpa [Op.isLocal] using h
    exact createVlan_local s name _ id (by simp [hb])
  | configureBridge name => simp [Op.isLocal] at h
  | deleteLink name => simp [Op.isLocal] at h
  | _ => exact localEffect_of_isPlain rfl s

/-- A device that is the ready bridge stays one under every operation with a
local meaning. -/
theorem act_bridgeReady {op : Op} {d d' : Device} (h : act op d = some d')
    (ready : ∃ b up master, d.link = some ⟨.bridge b, up, master⟩ ∧ b.defaultPvid = 0) :
    ∃ b up master, d'.link = some ⟨.bridge b, up, master⟩ ∧ b.defaultPvid = 0 := by
  obtain ⟨b, up, master, hl, hpvid⟩ := ready
  cases op <;> simp [act, hl, setStp, Link.takesVlans, LinkKind.isBridge] at h
  case setBridgeStp name on => subst h; simp [hpvid]
  case setMaster name m => subst h; simp [hpvid]
  case setUp name u => subst h; simp [hpvid]
  case addBridgeVlan dev vid flags => subst h; simp [hpvid]
  case delBridgeVlan dev vid => obtain ⟨-, rfl⟩ := h; simp [hpvid]
  case addAddress dev p => obtain ⟨-, rfl⟩ := h; simp [hpvid]
  case delAddress dev p => obtain ⟨-, rfl⟩ := h; simp [hpvid]

/-- Settings, addresses and entries act on one device in every state. -/
theorem fakeApply_plain :
    Componentwise fakeApply device Op.target act (fun op => op.isPlain = true) fun _ => True where
  accepts op s d hop _ hact := by
    have heffect := localEffect_of_isPlain hop s
    rw [LocalEffect, hact] at heffect
    obtain ⟨s', hs', hview⟩ := heffect
    exact ⟨s', hs', trivial, hview⟩
  refuses op s hop _ hact := by
    have heffect := localEffect_of_isPlain hop s
    rwa [LocalEffect, hact] at heffect

/-- With the bridge ready, so do joining it and VLAN links on it. -/
theorem fakeApply_local :
    Componentwise fakeApply device Op.target act (fun op => op.isLocal = true) BridgeReady where
  accepts op s d hop ready hact := by
    have heffect := localEffect_of_isLocal hop ready
    rw [LocalEffect, hact] at heffect
    obtain ⟨s', hs', hview⟩ := heffect
    refine ⟨s', hs', ?_, hview⟩
    have hbridge := hview bridgeName
    by_cases ht : bridgeName = op.target
    · rw [if_pos ht] at hbridge
      rw [← ht] at hact
      obtain ⟨b, up, master, hl, hpvid⟩ := act_bridgeReady hact ready
      exact ⟨b, up, master, by rw [← hl, ← hbridge]; rfl, hpvid⟩
    · rw [if_neg ht] at hbridge
      obtain ⟨b, up, master, hl, hpvid⟩ := ready
      exact ⟨b, up, master, by rw [← hl]; exact congrArg Device.link hbridge, hpvid⟩
  refuses op s hop ready hact := by
    have heffect := localEffect_of_isLocal hop ready
    rwa [LocalEffect, hact] at heffect

end ClixonSwitch.Source.SwitchNet
