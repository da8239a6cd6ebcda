import Mathlib.Logic.Basic
import Mathlib.Tactic.Tauto

/-!
What an 802.1Q bridge does with frames, said by the VLANs of its ports. A frame belongs to
one VLAN inside the bridge: to that of its tag, or without a tag to the native VLAN of the
port it came in on. It leaves on the other ports in this VLAN, without a tag where the VLAN
is native. A priority tag counts as none.
-/
namespace ClixonSwitch.Lib

structure VlanBridge (P V : Type) where
  /-- The port takes part in forwarding. -/
  attached : P → Prop
  member : P → V → Prop
  native : P → V → Prop

namespace VlanBridge
variable {P V : Type} (b : VlanBridge P V)

/-- A frame of VLAN `v` leaves on `q` with this tag or without one. -/
def Leaves (q : P) (v : V) (tag : Option V) : Prop :=
  b.member q v ∧ match tag with
    | some t => t = v ∧ ¬ b.native q v
    | none => b.native q v

variable {b}

end VlanBridge

end ClixonSwitch.Lib
