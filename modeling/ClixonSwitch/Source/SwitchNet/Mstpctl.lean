import ClixonSwitch.Source.SwitchModel.DesiredState

/-!
# The mstpctl commands of a spanning tree configuration

`commands` and `changed_commands` of `crates/switch-net/src/stp.rs`. A command is
typed here by the setting it overwrites; `Command.words` is the argument list that
the source builds, and two commands are equal exactly if their words are.
-/
namespace ClixonSwitch.Source.SwitchNet
open Lib Source.SwitchModel

inductive BridgeSetting where
  | forceVers | fdelay | maxAge | txHoldCount | maxHops | mstConfId | vid2fid | fid2mstid
  deriving DecidableEq, Repr

def BridgeSetting.word : BridgeSetting → String
  | .forceVers => "setforcevers"
  | .fdelay => "setfdelay"
  | .maxAge => "setmaxage"
  | .txHoldCount => "settxholdcount"
  | .maxHops => "setmaxhops"
  | .mstConfId => "setmstconfid"
  | .vid2fid => "setvid2fid"
  | .fid2mstid => "setfid2mstid"

inductive PortSetting where
  | pathCost | adminEdge | autoEdge | p2p | restrRole | bpduGuard | bpduFilter
  deriving DecidableEq, Repr

def PortSetting.word : PortSetting → String
  | .pathCost => "setportpathcost"
  | .adminEdge => "setportadminedge"
  | .autoEdge => "setportautoedge"
  | .p2p => "setportp2p"
  | .restrRole => "setportrestrrole"
  | .bpduGuard => "setbpduguard"
  | .bpduFilter => "setportbpdufilter"

inductive TreePortSetting where
  | prio | cost
  deriving DecidableEq, Repr

def TreePortSetting.word : TreePortSetting → String
  | .prio => "settreeportprio"
  | .cost => "settreeportcost"

/-- The value that a set command names by its word and its bridge, port and tree
arguments. -/
inductive Setting where
  | bridge (w : BridgeSetting)
  | treePrio (tree : UInt16)
  | port (w : PortSetting) (port : String)
  | treePort (w : TreePortSetting) (port : String) (tree : UInt16)
  deriving DecidableEq, Repr

def Setting.words (br : String) : Setting → List String
  | .bridge w => [w.word, br]
  | .treePrio tree => ["settreeprio", br, toString tree]
  | .port w p => [w.word, br, p]
  | .treePort w p tree => [w.word, br, p, toString tree]

/-- The port of a setting, if it has one. -/
def Setting.portOf : Setting → Option String
  | .port _ p => some p
  | .treePort _ p _ => some p
  | _ => none

def Setting.treeOf : Setting → Option UInt16
  | .treePrio tree => some tree
  | .treePort _ _ tree => some tree
  | _ => none

inductive Command where
  | debugLevel
  | addBridge
  | delBridge
  | set (s : Setting) (value : List String)
  | createTree (tree : UInt16)
  | deleteTree (tree : UInt16)
  deriving DecidableEq, Repr

/-- The arguments of mstpctl. -/
def Command.words (br : String) : Command → List String
  | .debugLevel => ["debuglevel", "2"]
  | .addBridge => ["addbridge", br]
  | .delBridge => ["delbridge", br]
  | .set s value => s.words br ++ value
  | .createTree tree => ["createtree", br, toString tree]
  | .deleteTree tree => ["deletetree", br, toString tree]

def yesNo (value : Bool) : String := if value then "yes" else "no"

/-- The largest forward delay, which allows any max age. -/
def maxForwardDelay : String := "30"

/-- Runs of adjacent VLAN ids, in order. -/
def addToRanges (ranges : List (UInt16 × UInt16)) (vlan : UInt16) : List (UInt16 × UInt16) :=
  match ranges.getLast? with
  | some (low, high) =>
    if high + 1 = vlan then ranges.dropLast ++ [(low, vlan)] else ranges ++ [(vlan, vlan)]
  | none => [(vlan, vlan)]

/-- `vlans` as ids and ranges, with `sep` between the bounds of a range: ".." in
`vlan_ranges`, "-" once `commands` has replaced it. -/
def vlanRanges (sep : String) (vlans : BTreeSet UInt16) : List String :=
  (vlans.toList.foldl addToRanges []).map fun r =>
    if r.1 = r.2 then toString r.1 else toString r.1 ++ sep ++ toString r.2

/-- The region name by default: the bridge's MAC address. Only letters of ASCII are put in upper
case, of which a MAC address is made. -/
def defaultRegionName (bridgeMac : String) : String :=
  String.ofList ((bridgeMac.toList.filter (· != ':')).map Char.toUpper)

def bridgeCommands (stp : Stp) (bridgeMac : String) : List Command :=
  [.set (.bridge .forceVers) [stp.protocol.mstpdName],
    -- mstpd checks the timers on each change, so the longest forward delay goes first.
    .set (.bridge .fdelay) [maxForwardDelay],
    .set (.bridge .maxAge) [toString stp.maxAge],
    .set (.bridge .fdelay) [toString stp.forwardDelay],
    .set (.bridge .txHoldCount) [toString stp.holdCount],
    .set (.bridge .maxHops) [toString stp.maxHops],
    .set (.bridge .mstConfId)
      [toString stp.regionRevision, stp.regionName.getD (defaultRegionName bridgeMac)]]

/-- One `fid:list` argument per MSTI with VLANs. -/
def vid2fidArgs (mstis : BTreeMap UInt16 Msti) : List String :=
  mstis.toList.filterMap fun e =>
    if e.2.vlans.isEmpty then none
    else some (toString e.1 ++ ":" ++ String.intercalate "," (vlanRanges "-" e.2.vlans))

/-- The VLAN mapping with FID = MSTID: the full tables, so that VLANs no longer in an
MSTI return to the CIST. -/
def mappingCommands (stp : Stp) : List Command :=
  stp.mstis.keys.map .createTree ++
    [.set (.bridge .vid2fid) ("0:1-4094" :: vid2fidArgs stp.mstis),
      .set (.bridge .fid2mstid)
        ("0:0-4095" :: stp.mstis.keys.map fun id => toString id ++ ":" ++ toString id)]

/-- The CIST as tree 0, and the MSTIs. -/
def trees (stp : Stp) : List (UInt16 × Tree) :=
  (0, stp.cist) :: stp.mstis.toList.map fun e => (e.1, e.2.tree)

def treeCommand (e : UInt16 × Tree) : Command :=
  .set (.treePrio e.1) [toString (e.2.bridgePriority / 4096)]

def portCommands (stp : Stp) (port : String) (f : PortFeatures) : List Command :=
  let cist := stp.cist.ports[port]?.getD {}
  [.set (.port .pathCost port) [toString (cist.cost.getD 0)],
    .set (.port .adminEdge port) [yesNo (f.edge = .enable)],
    .set (.port .autoEdge port) [yesNo (f.edge = .auto)],
    .set (.port .p2p port) [(f.pointToPoint.map yesNo).getD "auto"],
    .set (.port .restrRole port) [yesNo f.rootGuard],
    .set (.port .bpduGuard port) [yesNo f.bpduGuard],
    .set (.port .bpduFilter port) [yesNo f.bpduFilter]]

def treePortCommands (tree : UInt16) (port : String) (p : TreePort) : List Command :=
  [.set (.treePort .prio port tree) [toString (p.priority / 16)],
    .set (.treePort .cost port tree) [toString (p.cost.getD 0)]]

/-- The commands that configure the bridge with `stp`, each setting one value. -/
def commands (stp : Stp) (bridgeMac : String) : List Command :=
  bridgeCommands stp bridgeMac ++ mappingCommands stp ++ (trees stp).map treeCommand ++
    stp.ports.toList.flatMap (fun e => portCommands stp e.1 e.2) ++
    (trees stp).flatMap fun e => e.2.ports.toList.flatMap fun p => treePortCommands e.1 p.1 p.2

/-- What mstpd was last configured with, and the commands of that configuration. -/
structure StpApplied where
  stp : Stp
  commands : List Command
  complete : ∃ bridgeMac, commands = SwitchNet.commands stp bridgeMac
  deriving DecidableEq

def Command.isTimer : Command → Bool
  | .set (.bridge .fdelay) _ => true
  | .set (.bridge .maxAge) _ => true
  | _ => false

def Command.isFid2mstid : Command → Bool
  | .set (.bridge .fid2mstid) _ => true
  | _ => false

/-- The MSTIs of the previous configuration that `stp` no longer has. -/
def goneTrees (previous : Option StpApplied) (stp : Stp) : List UInt16 :=
  match previous with
  | none => []
  | some a => a.stp.mstis.keys.filter fun id => !stp.mstis.contains id

/-- The commands of `next` that `previous` did not run, in order, with a deletetree for
each MSTI that is gone once the VLANs are mapped away. The timer commands run
together, as their order matters. -/
def changedCommands (previous : Option StpApplied) (next : List Command) (stp : Stp) : List Command :=
  let ran := (previous.map StpApplied.commands).getD []
  let timersChanged := next.any fun c => c.isTimer && !ran.contains c
  next.flatMap fun c =>
    (if !ran.contains c || (timersChanged && c.isTimer) then [c] else []) ++
      if c.isFid2mstid then (goneTrees previous stp).map .deleteTree else []

section Words

theorem toString_uInt16_inj {a b : UInt16} (h : toString a = toString b) : a = b :=
  UInt16.toNat_inj.mp (Nat.repr_inj.mp h)

/-- The first word of a command, as what it stands for. -/
inductive Word where
  | debugLevel | addBridge | delBridge | createTree | deleteTree | treePrio
  | bridge (w : BridgeSetting)
  | port (w : PortSetting)
  | treePort (w : TreePortSetting)
  deriving DecidableEq

def Word.text : Word → String
  | .debugLevel => "debuglevel"
  | .addBridge => "addbridge"
  | .delBridge => "delbridge"
  | .createTree => "createtree"
  | .deleteTree => "deletetree"
  | .treePrio => "settreeprio"
  | .bridge w => w.word
  | .port w => w.word
  | .treePort w => w.word

def allWords : List Word :=
  [.debugLevel, .addBridge, .delBridge, .treePrio, .createTree, .deleteTree]
    ++ [BridgeSetting.forceVers, .fdelay, .maxAge, .txHoldCount, .maxHops, .mstConfId, .vid2fid,
        .fid2mstid].map .bridge
    ++ [PortSetting.pathCost, .adminEdge, .autoEdge, .p2p, .restrRole, .bpduGuard,
        .bpduFilter].map .port
    ++ [TreePortSetting.prio, .cost].map .treePort

theorem mem_allWords (w : Word) : w ∈ allWords := by
  rcases w with _ | _ | _ | _ | _ | _ | w | w | w
  case bridge | port | treePort => cases w <;> decide
  all_goals decide

theorem Word.text_injective (w w' : Word) (h : w.text = w'.text) : w = w' := by
  have pairwise : ∀ w ∈ allWords, ∀ w' ∈ allWords, w.text = w'.text → w = w' := by
    decide +kernel
  exact pairwise w (mem_allWords w) w' (mem_allWords w') h

def Setting.word : Setting → Word
  | .bridge w => .bridge w
  | .treePrio _ => .treePrio
  | .port w _ => .port w
  | .treePort w _ _ => .treePort w

def Command.word : Command → Word
  | .debugLevel => .debugLevel
  | .addBridge => .addBridge
  | .delBridge => .delBridge
  | .set s _ => s.word
  | .createTree _ => .createTree
  | .deleteTree _ => .deleteTree

theorem Setting.words_head (br : String) (s : Setting) :
    (s.words br).head? = some s.word.text := by
  cases s <;> rfl

theorem Command.words_head (br : String) (c : Command) :
    (c.words br).head? = some c.word.text := by
  cases c with
  | set s value =>
    rw [Command.words, List.head?_append, s.words_head br]
    rfl
  | _ => rfl

theorem Setting.words_append_injective (br : String) (s s' : Setting) (value value' : List String)
    (hword : s.word = s'.word) (h : s.words br ++ value = s'.words br ++ value') :
    s = s' ∧ value = value' := by
  cases s <;> cases s' <;> simp [Setting.word] at hword <;>
    simp_all [Setting.words] <;> grind [toString_uInt16_inj]

/-- Comparing commands is comparing their words. -/
theorem words_injective (br : String) (c c' : Command) (h : c.words br = c'.words br) : c = c' := by
  have hword : c.word = c'.word := by
    refine Word.text_injective _ _ (Option.some.inj ?_)
    rw [← c.words_head br, ← c'.words_head br, h]
  cases c with
  | set s value =>
    cases c' with
    | set s' value' =>
      obtain ⟨rfl, rfl⟩ := s.words_append_injective br s' value value' hword h
      rfl
    | _ => cases s <;> cases hword
  | debugLevel | addBridge | delBridge =>
    cases c' with
    | set s' _ => cases s' <;> cases hword
    | _ => first | rfl | cases hword
  | createTree tree =>
    cases c' with
    | set s' _ => cases s' <;> cases hword
    | createTree tree' =>
      have htree : toString tree = toString tree' := by simpa [Command.words] using h
      rw [toString_uInt16_inj htree]
    | _ => cases hword
  | deleteTree tree =>
    cases c' with
    | set s' _ => cases s' <;> cases hword
    | deleteTree tree' =>
      have htree : toString tree = toString tree' := by simpa [Command.words] using h
      rw [toString_uInt16_inj htree]
    | _ => cases hword

end Words

end ClixonSwitch.Source.SwitchNet
