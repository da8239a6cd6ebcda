import ClixonSwitch.Source.SwitchModel.Mib
import ClixonSwitch.Source.SwitchNet.Kernel

/-!
# What the MIBs are built from

`SwitchPlugin::mib_state` of `crates/clixon-switch-plugin/src/lib.rs`, as far as the
VLAN views read it: the VLANs of the configured ports as the kernel has them, and the
forwarding database if the request may ask for it.
-/
namespace ClixonSwitch.Source.Plugin
open Lib Source.SwitchModel Source.SwitchNet

def kernelVlans (vlans : VlanMap) : Mib.PortVlans where
  pvid := (vlans.toList.find? fun e => e.2.pvid).map Prod.fst
  vlans := BTreeMap.collect (vlans.toList.map fun e => (e.1, e.2.untagged))

def mibPortVlans (applied : DesiredState) (actual : ActualState) :
    BTreeMap String Mib.PortVlans :=
  BTreeMap.collect ((actual.bridgeVlans.toList.filter fun e => applied.ports.contains e.1).map
    fun e => (e.1, kernelVlans e.2))

def mibInfo (applied : DesiredState) (actual : ActualState) (xpath : String)
    (fdb : List Mib.FdbEntry) : Mib.BridgeInfo where
  applied := applied
  portVlans := mibPortVlans applied actual
  fdb := if (Text.splitOnce "Fdb".toList xpath.toList).isSome then some fdb else none

end ClixonSwitch.Source.Plugin
