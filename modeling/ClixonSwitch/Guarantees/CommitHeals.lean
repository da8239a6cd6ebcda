import ClixonSwitch.Guarantees.Tended
import ClixonSwitch.Source.Plugin.Stages

/-!
# A commit after any history

Whatever commits, reverts and validations came before and wherever they failed, the next
commit on a kernel and processes that cooperate succeeds and leaves the kernel as the
configuration asks. Between two operations only the DHCP clients change the kernel, and
only the addresses that they lease.
-/
namespace ClixonSwitch.Guarantees
open Lib Source.SwitchModel Source.SwitchNet
  ClixonSwitch.Source.Plugin

/-- All that happens to the kernel apart from the planned operations. -/
structure LeaseChange (s s' : ActualState) : Prop where
  links : s'.links = s.links
  bridgeVlans : s'.bridgeVlans = s.bridgeVlans
  addresses : s'.addresses = s.addresses
  coherent : Coherent s → Coherent s'

section Leases
variable {boot s s' s'' : ActualState} {d : DesiredState}

theorem LeaseChange.refl (s : ActualState) : LeaseChange s s := ⟨rfl, rfl, rfl, id⟩

theorem LeaseChange.trans (first : LeaseChange s s') (second : LeaseChange s' s'') :
    LeaseChange s s'' where
  links := second.links.trans first.links
  bridgeVlans := second.bridgeVlans.trans first.bridgeVlans
  addresses := second.addresses.trans first.addresses
  coherent := second.coherent ∘ first.coherent

theorem Tended.leaseChange (h : Tended boot s) (change : LeaseChange s s') : Tended boot s' where
  coherent := change.coherent h.coherent
  bridge := change.links ▸ h.bridge
  kept := change.links ▸ h.kept
  made := change.links ▸ h.made

/-- A tended state has the switch ports of `boot`. -/
theorem Tended.switchPorts_eq (h : Tended boot s) : s.switchPorts = boot.switchPorts := by
  refine Std.ExtTreeSet.ext_mem fun name => ?_
  rw [mem_switchPorts, mem_switchPorts]
  constructor
  · rintro ⟨l, hl, hdsa⟩
    obtain ⟨l₀, hl₀, hkind⟩ := h.dsa_of_boot hl hdsa
    exact ⟨l₀, hl₀, hkind ▸ hdsa⟩
  · rintro ⟨l₀, hl₀, hdsa⟩
    obtain ⟨l, hl, hkind⟩ := h.kept name l₀ hl₀
    exact ⟨l, hl, hkind ▸ hdsa⟩

theorem Tended.noForeign (h : Tended boot s) (hbr : bridgeName ∉ d.svis)
    (free : ∀ name ∈ d.svis, name ∉ boot.links) : NoForeign d s := by
  intro name l hsvi hl
  rcases h.made name l hl with hin | rfl | hvlan
  · exact absurd hin (free name hsvi)
  · exact absurd hsvi hbr
  · exact hvlan

end Leases

section Histories
variable {ω : Type} {platform : Platform ω} {kernel : ω → ActualState} {boot : ActualState}
  {d : DesiredState}

/-- Calls that are none on the kernel change at most leases. -/
def LeasesOnly (platform : Platform ω) (kernel : ω → ActualState) : Prop :=
  ∀ s, platform.KeepsUnplanned fun w => LeaseChange s (kernel w)

/-- So does what happens between two callbacks, and stopping processes. -/
def CallbackLeasesOnly (kernel : ω → ActualState) : Callback ω → Prop
  | .start stopOrphans => ∀ w, LeaseChange (kernel w) (kernel (stopOrphans w))
  | .elapse change => ∀ w, LeaseChange (kernel w) (kernel (change w))
  | _ => True

/-- Such calls keep what does not depend on leases. -/
theorem LeasesOnly.keeps (h : LeasesOnly platform kernel) {I : ActualState → Prop}
    (stable : ∀ s s', LeaseChange s s' → I s → I s') :
    platform.KeepsUnplanned fun w => I (kernel w) where
  mstpd :=
    { running := fun pid w => stable _ _ ((h (kernel w)).mstpd.running pid w (.refl _))
      run := fun c w => stable _ _ ((h (kernel w)).mstpd.run c w (.refl _))
      expired := fun w => stable _ _ ((h (kernel w)).mstpd.expired w (.refl _))
      spawn := fun w => stable _ _ ((h (kernel w)).mstpd.spawn w (.refl _))
      stop := fun pid w => stable _ _ ((h (kernel w)).mstpd.stop pid w (.refl _)) }
  dhcpSpawn interface hostname w :=
    stable _ _ ((h (kernel w)).dhcpSpawn interface hostname w (.refl _))
  dhcpRunning pid w := stable _ _ ((h (kernel w)).dhcpRunning pid w (.refl _))
  dhcpStop interface pid w := stable _ _ ((h (kernel w)).dhcpStop interface pid w (.refl _))
  interfaceMacs w := stable _ _ ((h (kernel w)).interfaceMacs w (.refl _))
  hostname w := stable _ _ ((h (kernel w)).hostname w (.refl _))
  system w := stable _ _ ((h (kernel w)).system w (.refl _))
  snmp conf w := stable _ _ ((h (kernel w)).snmp conf w (.refl _))

/-- An accepted configuration has no SVI of the bridge's name. -/
theorem bridge_not_svi {text : ConfigText} {ports : BTreeSet String}
    (accepted : validateText text ports = .ok d) : bridgeName ∉ d.svis := by
  cases text with
  | malformed message => cases accepted
  | json value =>
    obtain ⟨-, config, -, hstate⟩ := validate_ok.mp accepted
    obtain ⟨domain, hdomain⟩ := desiredState_ok hstate
    intro hin
    obtain ⟨svi, hsvi⟩ := (BTreeMap.mem_iff _ _).mp hin
    exact (svi_sound hdomain hsvi).notBridge rfl

/-- The plugin's world is tended. -/
def WorldTended (kernel : ω → ActualState) (boot : ActualState) : SwitchPlugin × ω → Prop :=
  WorldHas fun w => Tended boot (kernel w)

variable (net : ModelNet platform.net kernel)
include net

theorem observeNet_tended : Failing.Keeps (WorldTended kernel boot) (observeNet platform) := by
  rintro ⟨p, w⟩ h
  have hsame := net.observe w
  simp only [WorldTended, WorldHas, observeNet, hsame]
  exact h

/-- `desired` changes nothing, and what it returns is an accepted configuration. -/
theorem desired_tended (text : ConfigText) :
    Failing.Triple (WorldTended kernel boot) (desired platform text)
      (fun d s => bridgeName ∉ d.svis ∧ WorldTended kernel boot s) (WorldTended kernel boot) := by
  refine Failing.triple_bind (observeNet_tended net).triple fun actual => ?_
  intro s hs
  cases hvalid : validateText text actual.switchPorts with
  | ok d =>
    refine ⟨fun d' s' run => ?_, fun e s' run => ?_⟩
    · cases run
      exact ⟨bridge_not_svi hvalid, hs⟩
    · cases run
  | error errors =>
    refine ⟨fun d' s' run => ?_, fun e s' run => ?_⟩
    · cases run
    · cases run
      exact hs

variable (booted : Booted boot)
include booted

theorem apply_tended (besides : LeasesOnly platform kernel) (hbr : bridgeName ∉ d.svis) :
    Failing.Keeps (WorldTended kernel boot) (apply platform d) := by
  refine apply_keeps (besides.keeps fun _ _ change h => h.leaseChange change) d ?_
  rintro ⟨p, w⟩ h
  exact net.reconcileRounds_tended booted hbr maxRounds [] h

theorem applyTree_tended (besides : LeasesOnly platform kernel) (tree : ConfigTree) :
    Failing.Keeps (WorldTended kernel boot) (applyTree platform tree) := by
  have hread : Failing.Keeps (WorldTended kernel boot) (treeJson (ω := ω) tree) := by
    cases tree <;> exact fun _ h => h
  refine hread.bind fun text => ?_
  intro s hs
  refine Failing.Triple.after (Failing.triple_bind (desired_tended net text) fun d =>
    (?_ : Failing.Triple _ _ (fun _ => WorldTended kernel boot) _)) _ (fun _ _ => id)
    (fun _ => id) hs
  rintro s ⟨hbr, hs⟩
  exact (apply_tended net booted besides hbr).triple s hs

/-- Bringing a link up is refused or keeps the state tended. -/
theorem setUp_tended (name : String) {w : ω} (h : Tended boot (kernel w)) :
    Tended boot (kernel (platform.net.apply (.setUp name true) w).2) := by
  have htends : Tends boot (.setUp name true) := rfl
  rcases net.apply (.setUp name true) w with ⟨-, hmodel⟩ | ⟨-, hrefused⟩
  · rw [hmodel]
    cases hl : (kernel w).links[name]? with
    | none =>
      simp only [fakeApply, applySetUp, hl, fail]
      exact h
    | some l =>
      have hok : fakeApply (.setUp name true) (kernel w) =
          (.ok (), (fakeApply (.setUp name true) (kernel w)).2) := by
        simp only [fakeApply, applySetUp, hl]
      exact h.step booted htends hok
  · exact h.refused booted htends hrefused

theorem start_tended
    {stopOrphans : ω → ω} (change : ∀ w, LeaseChange (kernel w) (kernel (stopOrphans w))) :
    Failing.Keeps (WorldTended kernel boot) (start platform stopOrphans) := by
  have hops : ∀ names : List String, Failing.Keeps (WorldTended kernel boot)
      (applyPlatformOps platform (names.map fun name => .setUp name true)) := by
    intro names
    induction names with
    | nil => exact fun _ h => h
    | cons name names ih =>
      rintro ⟨p, w⟩ h
      have hstep := setUp_tended net booted name h
      simp only [List.map_cons, applyPlatformOps]
      split
      · next w' heq =>
        rw [heq] at hstep
        exact ih (p, w') hstep
      · next e w' heq =>
        rw [heq] at hstep
        exact hstep
  exact (observeNet_tended net).bind fun actual => (hops _).bind fun _ s h =>
    h.leaseChange (change s.2)

/-- Every history of callbacks stays within the tended states. -/
theorem runCallbacks_tended (besides : LeasesOnly platform kernel) (history : List (Callback ω))
    (changes : ∀ c ∈ history, CallbackLeasesOnly kernel c) (s : SwitchPlugin × ω)
    (h : WorldTended kernel boot s) : WorldTended kernel boot (runCallbacks platform history s) := by
  induction history generalizing s with
  | nil => exact h
  | cons c history ih =>
    refine ih (fun c hc => changes c (List.mem_cons_of_mem _ hc)) _ ?_
    have hchange := changes c List.mem_cons_self
    cases c with
    | start stopOrphans => exact start_tended net booted hchange s h
    | validate tx =>
      refine Failing.Keeps.bind (x := treeJson tx.target) ?_ (fun text => ?_) s h
      · cases tx.target <;> exact fun _ h => h
      · refine Failing.Keeps.bind (x := desired platform text) ?_ fun _ => Failing.Keeps.pure _
        exact fun s hs => (desired_tended net text).after _ (fun _ _ h => h.2) (fun _ => id) hs
    | commit tx => exact applyTree_tended net booted besides tx.target s h
    | revert tx => exact applyTree_tended net booted besides tx.source s h
    | elapse change => exact h.leaseChange (hchange s.2)

end Histories

section Heals
variable {ω : Type} {platform : Platform ω} {kernel : ω → ActualState} {boot : ActualState}
  {d : DesiredState}

/-- The kernel matches `d`, apart from leases that have changed since. -/
def Carries (kernel : ω → ActualState) (d : DesiredState) (w : ω) : Prop :=
  ∃ k, Matches d k ∧ LeaseChange k (kernel w)

/-- A call that succeeds, and after which the plugin and the kernel have `d`. -/
def Restores (kernel : ω → ActualState) (d : DesiredState)
    (result : Except NetError Unit × SwitchPlugin × ω) : Prop :=
  result.1 = .ok () ∧ result.2.1.applied = d ∧ Carries kernel d result.2.2

theorem Carries.bridge {w : ω} (h : Carries kernel d w) : bridgeName ∈ (kernel w).links := by
  obtain ⟨k, matched, change⟩ := h
  obtain ⟨stp, master, hlink, -⟩ := matched.bridge
  rw [change.links]
  exact (BTreeMap.mem_iff _ _).mpr ⟨_, hlink⟩

theorem LeasesOnly.carries (h : LeasesOnly platform kernel) :
    platform.KeepsUnplanned (Carries kernel d) := by
  refine h.keeps (I := fun s => ∃ k, Matches d k ∧ LeaseChange k s) ?_
  rintro s s' change ⟨k, matched, before⟩
  exact ⟨k, matched, before.trans change⟩

theorem reconcileNet_total (net : WillingNet platform.net kernel) (booted : Booted boot)
    (hbr : bridgeName ∉ d.svis) (free : ∀ name ∈ d.svis, name ∉ boot.links) :
    Failing.Total (WorldTended kernel boot) (reconcileNet platform d)
      fun _ => WorldHas (Carries kernel d) := by
  rintro ⟨p, w⟩ h
  obtain ⟨ops, w', hrun, matched⟩ := net.reconcile_ok booted hbr h (h.noForeign hbr free)
  exact ⟨ops, (p, w'), by simp only [reconcileNet, hrun], kernel w', matched, .refl _⟩

theorem apply_total (net : WillingNet platform.net kernel) (booted : Booted boot)
    (coop : platform.Cooperative fun w => bridgeName ∈ (kernel w).links)
    (besides : LeasesOnly platform kernel) (hbr : bridgeName ∉ d.svis)
    (free : ∀ name ∈ d.svis, name ∉ boot.links) :
    Failing.Total (WorldTended kernel boot) (apply platform d)
      fun _ s => s.1.applied = d ∧ Carries kernel d s.2 := by
  have tended :=
    (besides.keeps (I := Tended boot) fun _ _ change h => h.leaseChange change).toKeepsBesides
  have carries := besides.carries (d := d)
  have carriesBesides := carries.toKeepsBesides
  -- Before the kernel is reconciled the state stays tended, afterwards it carries `d`.
  have hbefore : ∀ {α : Type} {x : PluginM ω α}, Succeeds (fun _ => True) x →
      Failing.Keeps (WorldTended kernel boot) x →
      Failing.Total (WorldTended kernel boot) x fun _ => WorldTended kernel boot := by
    intro α x hx hkeeps s hs
    obtain ⟨a, s', run, -, hafter⟩ := hx.keeping hkeeps s ⟨trivial, hs⟩
    exact ⟨a, s', run, hafter⟩
  have hafter : ∀ {α : Type} {x : PluginM ω α}, Succeeds (fun w => bridgeName ∈ (kernel w).links) x →
      Failing.Keeps (WorldHas (Carries kernel d)) x →
      Failing.Total (WorldHas (Carries kernel d)) x fun _ => WorldHas (Carries kernel d) := by
    intro α x hx hkeeps s hs
    obtain ⟨a, s', run, -, hdone⟩ := hx.keeping hkeeps s ⟨Carries.bridge hs, hs⟩
    exact ⟨a, s', run, hdone⟩
  have hany : ∀ {α : Type} {x : PluginM ω α}, Succeeds (fun _ => True) x →
      Succeeds (fun w => bridgeName ∈ (kernel w).links) x := fun hx s _ => hx s trivial
  have hkernel : Failing.Total (WorldTended kernel boot) (applyKernel platform d)
      fun _ => WorldHas (Carries kernel d) :=
    (hbefore (stopUnwanted_succeeds _ _) (stopUnwanted_keeps tended _)).bind fun _ =>
      (hbefore (prepareMstpd_succeeds coop _) (prepareMstpd_keeps tended _)).bind fun _ =>
        (reconcileNet_total net booted hbr free).bind fun _ =>
          (hafter (macForStp_succeeds coop _) (macForStp_keeps carriesBesides _)).bind fun _ =>
            Failing.Total.pure fun _ => id
  have hstp : Failing.Total (WorldTended kernel boot) (applyStp platform d)
      fun _ => WorldHas (Carries kernel d) :=
    hkernel.bind fun _ => (hafter (hany (configureStp_succeeds coop _ _ _))
      (configureStp_keeps carriesBesides _ _ _)).bind fun _ => Failing.Total.pure fun _ => id
  exact hstp.bind fun _ =>
    (hafter (hany (syncDhcp_succeeds coop _ _)) (syncDhcp_keepsBesides carriesBesides _ _)).bind fun _ =>
      (hafter (syncSnmp_succeeds coop d) (syncSnmp_keeps carries d)).bind fun _ s hs =>
        ⟨(), _, rfl, rfl, hs⟩

theorem applyTree_restores (net : WillingNet platform.net kernel) (booted : Booted boot)
    (coop : platform.Cooperative fun w => bridgeName ∈ (kernel w).links)
    (besides : LeasesOnly platform kernel) {text : ConfigText}
    (accepted : validateText text boot.switchPorts = .ok d)
    (free : ∀ name ∈ d.svis, name ∉ boot.links) {s : SwitchPlugin × ω}
    (tended : WorldTended kernel boot s) :
    Restores kernel d (applyTree platform (.ok text) s) := by
  obtain ⟨p, w⟩ := s
  obtain ⟨actual, w₁, hobserve, shows, hsame⟩ := net.observe w
  have hports : actual.switchPorts = boot.switchPorts :=
    (shows.switchPorts_eq (Tended.linked tended booted)).trans (Tended.switchPorts_eq tended)
  have hdesired : desired platform text (p, w) = (.ok d, p, w₁) := by
    simp only [desired, Failing.bind_apply, observeNet, hobserve, hports, accepted]
    rfl
  have htended : WorldTended kernel boot (p, w₁) := by
    simpa only [WorldTended, WorldHas, hsame] using tended
  obtain ⟨a, s', hrun, happlied, hcarries⟩ :=
    apply_total net booted coop besides (bridge_not_svi accepted) free (p, w₁) htended
  have htree : applyTree platform (.ok text) (p, w) = (.ok a, s') := by
    simp only [applyTree, treeJson, Failing.bind_apply, hdesired, hrun]
  rw [htree]
  exact ⟨rfl, happlied, hcarries⟩

end Heals

/-- On a switch that booted as `boot`, after any history of callbacks on a kernel that may
refuse operations at any point, a commit or revert on a kernel and processes that cooperate
brings the plugin and the kernel to the configuration. -/
theorem commit_after_history_restores {ω : Type} (kernel : ω → ActualState) (boot : ActualState)
    (booted : Booted boot) (earlier : Platform ω) (history : List (Callback ω)) (w : ω)
    (atBoot : kernel w = boot) (model : ModelNet earlier.net kernel)
    (leases : LeasesOnly earlier kernel) (changes : ∀ c ∈ history, CallbackLeasesOnly kernel c)
    (now : Platform ω) (willing : WillingNet now.net kernel)
    (coop : now.Cooperative fun w => bridgeName ∈ (kernel w).links)
    (leasesNow : LeasesOnly now kernel) (text : ConfigText) (d : DesiredState)
    (accepted : validateText text boot.switchPorts = .ok d)
    (free : ∀ name ∈ d.svis, name ∉ boot.links) (other : ConfigTree) :
    Restores kernel d
        (transCommit now ⟨other, .ok text⟩ (runCallbacks earlier history ({}, w))) ∧
      Restores kernel d
        (transRevert now ⟨.ok text, other⟩ (runCallbacks earlier history ({}, w))) := by
  have tended : WorldTended kernel boot (runCallbacks earlier history ({}, w)) := by
    refine runCallbacks_tended model booted leases history changes _ ?_
    rw [WorldTended, WorldHas, atBoot]
    exact booted.tended
  have hrestores := applyTree_restores willing booted coop leasesNow accepted free tended
  exact ⟨hrestores, hrestores⟩

section Bench

/-- The kernel model that refuses every VLAN entry. -/
def busyNet : NetBackend ActualState where
  observe s := (.ok s, s)
  apply op s :=
    match op with
    | .addBridgeVlan _ _ _ => (.error ⟨"Device or resource busy"⟩, s)
    | op => fakeApply op s

theorem bench_leasesOnly (net : NetBackend ActualState) : LeasesOnly (bench net) id :=
  fun _ =>
    { mstpd := ⟨⟨fun _ _ h => h, fun _ _ h => h, fun _ h => h⟩, fun _ h => h, fun _ _ h => h⟩
      dhcpSpawn := fun _ _ _ h => h
      dhcpRunning := fun _ _ h => h
      dhcpStop := fun _ _ _ h => h
      interfaceMacs := fun _ h => h
      hostname := fun _ h => h
      system := fun _ h => h
      snmp := fun _ _ h => h }

theorem bench_cooperative (net : NetBackend ActualState) (bridged : ActualState → Prop) :
    (bench net).Cooperative bridged where
  mstpdSpawn s := ⟨100, s, rfl⟩
  mstpctl _ s := ⟨s, rfl⟩
  dhcpSpawn _ _ s := ⟨200, s, rfl⟩
  bridgeMac s _ := ⟨_, s, "02:00:00:00:00:01", [2, 0, 0, 0, 0, 1], rfl, by decide +kernel,
    by decide +kernel⟩
  snmp _ s := ⟨s, rfl⟩

theorem fakeNet_willing : WillingNet fakeNet id where
  observe s := ⟨s, s, rfl, Or.inl rfl, rfl⟩
  apply _ _ s _ h := ⟨s, h, rfl⟩

theorem busyNet_model : ModelNet busyNet id where
  observe _ := rfl
  observed _ _ h := Or.inl (Except.ok.inj h).symm
  apply op s := by
    cases op with
    | addBridgeVlan dev vid flags => exact Or.inr ⟨rfl, Or.inl rfl⟩
    | _ => exact Or.inl ⟨rfl, rfl⟩

theorem onePortBoot_booted : Booted onePortBoot where
  coherent := (wellFormed_of_check (by decide +kernel)).toCoherent
  noBridge := by decide +kernel
  platform := by
    have hall : ∀ name ∈ onePortBoot.platformNames.toList,
        name ∈ onePortBoot.links ∧ name ∉ onePortBoot.switchPorts := by decide +kernel
    exact fun name h => hall name (Std.ExtTreeSet.mem_toList.mpr ((mem_platformNames _ _).mpr h))

/-- An access port on VLAN 20. -/
def accessTree : Json :=
  .object
    [("openconfig-interfaces:interfaces", .object
      [("interface", .array
        [.object
          [("name", .string "lan1"),
           ("config", .object
            [("name", .string "lan1"), ("type", .string "iana-if-type:ethernetCsmacd")]),
           ("openconfig-if-ethernet:ethernet", .object
            [("openconfig-vlan:switched-vlan", .object
              [("config", .object
                [("interface-mode", .string "ACCESS"), ("access-vlan", .number (.unsigned 20))])])])]])]),
     ("clixon-switch:vlans", .object
      [("vlan", .array
        [.object [("vlan-id", .number (.unsigned 20)),
          ("config", .object [("vlan-id", .number (.unsigned 20))])]])])]

end Bench

/-- A commit that stops at the first VLAN entry, and its repetition. -/
theorem commit_after_history_restores_busy :
    (transCommit (bench busyNet) ⟨.ok (.json (.object [])), .ok (.json accessTree)⟩
        ({}, onePortBoot)).1.isOk = false ∧
      Restores id accessPort20
        (transCommit (bench fakeNet) ⟨.ok (.json (.object [])), .ok (.json accessTree)⟩
          (runCallbacks (bench busyNet)
            [.commit ⟨.ok (.json (.object [])), .ok (.json accessTree)⟩] ({}, onePortBoot))) :=
  ⟨by decide +kernel,
    (commit_after_history_restores id onePortBoot onePortBoot_booted (bench busyNet)
      [.commit ⟨.ok (.json (.object [])), .ok (.json accessTree)⟩] onePortBoot rfl busyNet_model
      (bench_leasesOnly _) (by simp [CallbackLeasesOnly]) (bench fakeNet) fakeNet_willing
      (bench_cooperative _ _) (bench_leasesOnly _) (.json accessTree) accessPort20
      (by decide +kernel) (by simp [accessPort20]) (.ok (.json (.object [])))).1⟩

end ClixonSwitch.Guarantees
