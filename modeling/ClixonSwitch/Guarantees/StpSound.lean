import ClixonSwitch.Guarantees.ValidationSound
import ClixonSwitch.Source.SwitchModel.StpAccepted

/-!
# Accepted spanning tree settings are sound

What mstpd and the MST digest rely on: one protocol, every switch port in every tree,
MSTIs without a common VLAN, priorities and timers that 802.1D and 802.1Q allow. The
relation between the timers has one exception, since the source's subtraction
saturates.
-/
namespace ClixonSwitch.Guarantees
open Lib Source.SwitchModel

/-- The spanning trees: the CIST and one for each MSTI. -/
def IsTreeOf (s : Stp) (t : Tree) : Prop :=
  t = s.cist ∨ ∃ (id : UInt16) (msti : Msti), s.mstis[id]? = some msti ∧ t = msti.tree

/-- 802.1D 17.14 over the integers, or both timers 0. -/
def TimersRelated (s : Stp) : Prop :=
  (s.maxAge.toNat : Int) ≤ 2 * ((s.forwardDelay.toNat : Int) - 1) ∨
    s.forwardDelay = 0 ∧ s.maxAge = 0

structure StpSound (config : StpConfig) (state : DesiredState) (s : Stp) : Prop where
  oneProtocol : ∃! p, ∃ identity ∈ config.identities, protocolOf identity = some p
  protocol : ∀ identity ∈ config.identities, protocolOf identity = some s.protocol
  features : ∀ name, name ∈ s.ports ↔ name ∈ state.ports
  treePorts : ∀ t, IsTreeOf s t → ∀ name, name ∈ t.ports ↔ name ∈ state.ports
  vlanRange : ∀ (id : UInt16) (msti : Msti), s.mstis[id]? = some msti →
    ∀ v ∈ msti.vlans, VlanIdValid v
  disjoint : ∀ (a b : UInt16) (m n : Msti), s.mstis[a]? = some m → s.mstis[b]? = some n → a ≠ b →
    ∀ v ∈ m.vlans, v ∉ n.vlans
  bridgePriority : ∀ t, IsTreeOf s t → t.bridgePriority % 4096 = 0
  portPriority : ∀ t, IsTreeOf s t → ∀ (name : String) (port : TreePort),
    t.ports[name]? = some port → port.priority % 16 = 0
  timers : TimersRelated s
  helloTime : s.helloTime = 2
  maxHops : 6 ≤ s.maxHops ∧ s.maxHops ≤ 40
  rstp : s.protocol ≠ .mstp → RstpSettings config state.portNames s

theorem timersRelated_of_accepted {config : Option TimerConfig} {s : Stp}
    (h : TimersAccepted config ⟨s.maxAge, s.forwardDelay, s.holdCount⟩) : TimersRelated s := by
  have hrelation : s.maxAge.toNat ≤ 2 * (s.forwardDelay.toNat - 1) := h.relation
  by_cases hzero : s.forwardDelay.toNat = 0
  · refine Or.inr ⟨UInt8.toNat_inj.mp hzero, UInt8.toNat_inj.mp ?_⟩
    show s.maxAge.toNat = 0
    omega
  · exact Or.inl (by omega)

section Accepted
variable {config : StpConfig} {ports : BTreeSet String} {s : Stp}

variable (h : StpAccepted config ports s)
include h

/-- Each tree is one that the validation built. -/
theorem stpAccepted_tree {t : Tree} (ht : IsTreeOf s t) :
    ∃ priority entries, TreeAccepted priority entries ports t := by
  by_cases hp : s.protocol = .mstp
  · rcases ht with rfl | ⟨id, msti, hm, rfl⟩
    · exact ⟨_, _, (h.mstp hp).cist⟩
    · obtain ⟨inst, -, -, accepted⟩ := (h.mstp hp).mstis.configured id msti hm
      exact ⟨_, _, accepted.tree⟩
  · rcases ht with rfl | ⟨id, msti, hm, -⟩
    · exact ⟨_, _, (h.rstp hp).cist⟩
    · simp [(h.rstp hp).mstis] at hm

/-- The MSTIs that run are those the validation built; STP and RSTP run none. -/
theorem stpAccepted_mstis : ∃ instances, MstisAccepted instances ports s.mstis := by
  by_cases hp : s.protocol = .mstp
  · exact ⟨_, (h.mstp hp).mstis⟩
  · rw [(h.rstp hp).mstis]
    exact ⟨[], by simp, by simp, by simp⟩

theorem stpAccepted_timers : TimersRelated s := by
  by_cases hp : s.protocol = .mstp
  · exact timersRelated_of_accepted (h.mstp hp).timers
  · exact timersRelated_of_accepted (h.rstp hp).timers

theorem stpAccepted_maxHops : 6 ≤ s.maxHops ∧ s.maxHops ≤ 40 := by
  by_cases hp : s.protocol = .mstp
  · exact (h.mstp hp).hopRange
  · rw [(h.rstp hp).maxHops]
    decide

theorem stpAccepted_oneProtocol :
    ∃! p, ∃ identity ∈ config.identities, protocolOf identity = some p := by
  obtain ⟨identity, hin⟩ := List.exists_mem_of_ne_nil _ h.enabled
  refine ⟨s.protocol, ⟨identity, hin, h.protocol identity hin⟩, ?_⟩
  rintro p ⟨other, hother, hp⟩
  rw [h.protocol other hother] at hp
  exact (Option.some.inj hp).symm

omit h

theorem treeAccepted_portPriority {priority : Option UInt16} {entries : List TreeInterface}
    {t : Tree} (h : TreeAccepted priority entries ports t) {name : String} {port : TreePort}
    (hp : t.ports[name]? = some port) : port.priority % 16 = 0 := by
  rw [h.lookup] at hp
  split at hp
  · cases hp
    exact h.portMultiple name
  · cases hp

end Accepted

/-- Spanning tree as `desired_state` returns it is sound for mstpd, for every
configuration and every set of switch ports. -/
theorem desiredState_stp_sound (config : Config) (switchPorts : BTreeSet String)
    (state : DesiredState) (s : Stp) (h : desiredState config switchPorts = .ok state)
    (hs : state.stp = some s) : StpSound config.stpConfig state s := by
  have accepted := desiredState_stp h hs
  have hports := state.mem_portNames
  obtain ⟨instances, hmstis⟩ := stpAccepted_mstis accepted
  refine
    { oneProtocol := stpAccepted_oneProtocol accepted
      protocol := accepted.protocol
      features := fun name => by rw [accepted.features, hports]
      treePorts := fun t ht name => ?_
      vlanRange := fun id msti hm v hv => ?_
      disjoint := fun a b m n hm hn hne v hv hin => hne (hmstis.disjoint a b m n v hm hn hv hin)
      bridgePriority := fun t ht => ?_
      portPriority := fun t ht name port hp => ?_
      timers := stpAccepted_timers accepted
      helloTime := accepted.helloTime
      maxHops := stpAccepted_maxHops accepted
      rstp := accepted.rstp }
  · obtain ⟨priority, entries, htree⟩ := stpAccepted_tree accepted ht
    rw [htree.mem_ports, hports]
  · obtain ⟨inst, -, -, hmsti⟩ := hmstis.configured id msti hm
    exact hmsti.range v hv
  · obtain ⟨priority, entries, htree⟩ := stpAccepted_tree accepted ht
    exact htree.bridgeMultiple
  · obtain ⟨priority, entries, htree⟩ := stpAccepted_tree accepted ht
    exact treeAccepted_portPriority htree hp

/-- MSTP with two instances over one switch port. -/
def regionConfig : Config where
  interfaces := some { interface :=
    [{ name := "lan1"
       config := { ifType := some "iana-if-type:ethernetCsmacd" }
       ethernet := some { switchedVlan := some { config :=
         { interfaceMode := some "ACCESS", accessVlan := some 20 } } } }] }
  vlans := some { vlan := [{ vlanId := some 20 }] }
  stp := some
    { global := some { config := { enabledProtocol := ["openconfig-spanning-tree-types:MSTP"] } }
      mstp := some
        { config := { name := some "lab" }
          mstInstances := some { mstInstance :=
            [{ config := { mstId := some 1, vlan := [.number 10, .string "20..22"] } },
             { config := { mstId := some 2, vlan := [.number 11] }
               interfaces := some { interface :=
                 [{ name := "lan1", config := { portPriority := some 32 } }] } }] } } }

def regionStp : Stp where
  protocol := .mstp
  helloTime := 2
  maxAge := 20
  forwardDelay := 15
  holdCount := 6
  maxHops := 20
  regionName := some "lab"
  regionRevision := 0
  cist := ⟨32768, BTreeMap.collect [("lan1", {})]⟩
  mstis := BTreeMap.collect
    [(1, ⟨Std.ExtTreeSet.ofList [10, 20, 21, 22] compare,
        ⟨32768, BTreeMap.collect [("lan1", {})]⟩⟩),
     (2, ⟨Std.ExtTreeSet.ofList [11] compare,
        ⟨32768, BTreeMap.collect [("lan1", ⟨none, 32⟩)]⟩⟩)]
  ports := BTreeMap.collect [("lan1", {})]

def regionState : DesiredState where
  vlans := BTreeMap.collect [(20, ⟨none, true⟩)]
  ports := BTreeMap.collect [("lan1", ⟨true, some 20, ∅⟩)]
  svis := ∅
  stp := some regionStp

theorem desiredState_stp_sound_region : desiredState regionConfig oneSwitchPort = .ok regionState ∧
    StpSound regionConfig.stpConfig regionState regionStp :=
  have accepted : desiredState regionConfig oneSwitchPort = .ok regionState := by decide +kernel
  ⟨accepted, desiredState_stp_sound regionConfig oneSwitchPort regionState regionStp accepted rfl⟩

/-- RSTP with both timers at 0. -/
def zeroTimers : Config where
  stp := some
    { global := some { config := { enabledProtocol := ["openconfig-spanning-tree-types:RSTP"] } }
      rstp := some { config := { maxAge := some 0, forwardingDelay := some 0 } } }

def zeroTimersStp : Stp where
  protocol := .rstp
  helloTime := 2
  maxAge := 0
  forwardDelay := 0
  holdCount := 6
  maxHops := 20
  regionName := none
  regionRevision := 0
  cist := ⟨32768, ∅⟩
  mstis := ∅
  ports := ∅

/-- The subtraction saturates, so a forwarding delay of 0 passes for a max age of 0. -/
theorem zero_timers_accepted :
    desiredState zeroTimers ∅ = .ok { stp := some zeroTimersStp } ∧
      2 * ((zeroTimersStp.forwardDelay.toNat : Int) - 1) < zeroTimersStp.maxAge.toNat :=
  ⟨by decide +kernel, by decide⟩

end ClixonSwitch.Guarantees
