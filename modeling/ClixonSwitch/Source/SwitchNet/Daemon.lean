import ClixonSwitch.Lib.Overwrite
import ClixonSwitch.Source.SwitchNet.Mstpd

/-!
# What mstpd is assumed to do

A set command overwrites the one value that its word and its bridge, port and tree
arguments name; createtree adds a tree and deletetree removes it with its settings;
a bridge that is added has the CIST, and delbridge, a new bridge and the end of the
process forget everything. Whether a command is refused, when the process ends and
what the process table answers is up to chance.
-/
namespace ClixonSwitch.Source.SwitchNet
open Lib Source.SwitchModel

/-- One value that mstpd holds for the bridge: a setting, or that a tree exists. -/
inductive Cell where
  | setting (s : Setting)
  | tree (id : UInt16)
  deriving DecidableEq, Repr

def Cell.treeOf : Cell → Option UInt16
  | .setting s => s.treeOf
  | .tree id => some id

abbrev BridgeData : Type := Cell → Option (List String)

def BridgeData.empty : BridgeData := fun _ => none

def BridgeData.HasTree (b : BridgeData) (id : UInt16) : Prop := b (.tree id) ≠ none

instance (b : BridgeData) (id : UInt16) : Decidable (b.HasTree id) :=
  inferInstanceAs (Decidable (b (.tree id) ≠ none))

def Command.touches : Command → Cell → Bool
  | .debugLevel, _ => false
  | .addBridge, cell => cell = .tree 0
  | .delBridge, _ => true
  | .set s _, cell => cell = .setting s
  | .createTree id, cell => cell = .tree id
  | .deleteTree id, cell => cell.treeOf = some id

/-- What a command leaves in the cells it touches. -/
def Command.leaves : Command → Option (List String)
  | .set _ value => some value
  | .addBridge => some []
  | .createTree _ => some []
  | _ => none

def Command.exec (c : Command) (b : BridgeData) : BridgeData := fun cell =>
  if c.touches cell then c.leaves else b cell

def execAll (cs : List Command) (b : BridgeData) : BridgeData :=
  cs.foldl (fun b c => c.exec b) b

theorem exec_overwrites :
    Overwrites (fun c : Command => c.exec) Command.touches fun c _ => c.leaves where
  frame c b cell h := by simp [Command.exec, h]
  wrote c b cell h := by simp [Command.exec, h]

/-- The last command of a list that touches a cell. -/
abbrev lastWriter (cs : List Command) (cell : Cell) : Option Command :=
  lastTouch Command.touches cs cell

theorem execAll_cell (cs : List Command) (b : BridgeData) (cell : Cell) :
    execAll cs b cell = ((lastWriter cs cell).map Command.leaves).getD (b cell) :=
  exec_overwrites.foldl_eq cs b cell

/-- What the environment decides, by the number of calls made so far. -/
structure Chance where
  accepts : Nat → Bool := fun _ => true
  exits : Nat → Bool := fun _ => false
  spawned : Nat → Except String UInt32 := fun _ => .ok 100
  expires : Nat → Bool := fun _ => false

structure Daemon where
  process : Option UInt32 := none
  bridge : BridgeData := .empty
  calls : Nat := 0
  chance : Chance := {}

/-- A call: before it is answered, the process may end. -/
def Daemon.tick (d : Daemon) : Daemon :=
  if d.chance.exits d.calls then
    { d with process := none, bridge := .empty, calls := d.calls + 1 }
  else { d with calls := d.calls + 1 }

def Daemon.run (c : Command) (d : Daemon) : Except String Unit × Daemon :=
  let d := d.tick
  if d.process.isSome && d.chance.accepts d.calls then
    (.ok (), { d with bridge := c.exec d.bridge })
  else (.error "exit status 1", d)

def daemon : MstpdEnv Daemon where
  spawn d :=
    match d.tick.chance.spawned d.tick.calls with
    | .ok pid => (.ok pid, { d.tick with process := some pid, bridge := .empty })
    | .error e => (.error e, d.tick)
  running pid d := (d.tick.process == some pid, d.tick)
  stop pid d :=
    if d.tick.process = some pid then { d.tick with process := none, bridge := .empty } else d.tick
  run := Daemon.run
  expired d := (d.tick.chance.expires d.tick.calls, d.tick)

/-- The kernel's bridge is created anew, so mstpd forgets the one it knew. -/
def Daemon.recreate (d : Daemon) : Daemon := { d with bridge := .empty }

theorem Daemon.tick_alive {d : Daemon} (h : d.tick.process.isSome) : d.tick.bridge = d.bridge := by
  unfold tick at h ⊢
  split
  · next hexit => simp [hexit] at h
  · rfl

theorem Daemon.tick_process {d : Daemon} {pid : UInt32} (h : d.tick.process = some pid) :
    d.process = some pid := by
  unfold tick at h
  split at h
  · cases h
  · exact h

theorem Daemon.run_process {c : Command} {d : Daemon} {pid : UInt32}
    (h : (daemon.run c d).2.process = some pid) : d.process = some pid := by
  simp only [daemon, Daemon.run] at h
  split at h <;> exact Daemon.tick_process h

/-- Polling a process starts none. -/
theorem daemon_keepsPolling (d : Daemon) : daemon.KeepsPolling fun d' =>
    ∀ pid, d'.process = some pid → d.process = some pid where
  running _ _ h pid hpid := h pid (Daemon.tick_process hpid)
  run _ _ h pid hpid := h pid (Daemon.run_process hpid)
  expired _ h pid hpid := h pid (Daemon.tick_process hpid)

theorem Daemon.run_ok {c : Command} {d d' : Daemon} (h : daemon.run c d = (.ok (), d')) :
    d'.bridge = c.exec d.bridge ∧ d.process ≠ none := by
  simp only [daemon, Daemon.run] at h
  split at h
  · next halive =>
    rw [Bool.and_eq_true] at halive
    cases h
    obtain ⟨pid, hpid⟩ := Option.isSome_iff_exists.mp halive.1
    exact ⟨by rw [Daemon.tick_alive halive.1], by simp [Daemon.tick_process hpid]⟩
  · cases h

theorem Daemon.runAll_process {cs : List Command} {d : Daemon} {pid : UInt32}
    (h : (runAll daemon.run cs d).2.process = some pid) : d.process = some pid :=
  runAll_invariant (fun d' : Daemon => ∀ pid, d'.process = some pid → d.process = some pid)
    (fun c _ => (daemon_keepsPolling d).run c) (fun _ => id) pid h

theorem Daemon.runAll_ok {cs : List Command} {d d' : Daemon}
    (h : runAll daemon.run cs d = (.ok (), d')) : d'.bridge = execAll cs d.bridge := by
  induction cs generalizing d with
  | nil =>
    cases h
    rfl
  | cons c cs ih =>
    simp only [runAll] at h
    split at h
    · next d₁ hrun => rw [ih h, (Daemon.run_ok hrun).1]; rfl
    · cases h

/-- The process that runs, if any, is the one that `m` has started. -/
def Mstpd.Knows (m : Mstpd) (d : Daemon) : Prop := ∀ pid, d.process = some pid → m.pid = some pid

theorem Mstpd.Knows.forgetExited {m : Mstpd} {d : Daemon} (knows : m.Knows d) :
    (m.forgetExited daemon d).2.1.Knows (m.forgetExited daemon d).2.2 := by
  unfold Mstpd.forgetExited
  split
  · exact knows
  · next pid hpid =>
    split
    · next d' hrun =>
      obtain ⟨-, rfl⟩ := Prod.mk.inj hrun
      exact fun p hp => knows p (Daemon.tick_process hp)
    · next d' hrun =>
      obtain ⟨hdead, rfl⟩ := Prod.mk.inj hrun
      intro p hp
      have hknown := knows p (Daemon.tick_process hp)
      rw [hpid] at hknown
      cases hknown
      rw [hp, beq_self_eq_true] at hdead
      cases hdead

theorem Mstpd.Knows.prepare {m : Mstpd} {d : Daemon} (knows : m.Knows d) (wanted : Bool) :
    (m.prepare daemon wanted d).2.1.Knows (m.prepare daemon wanted d).2.2 := by
  have hforget := knows.forgetExited
  unfold Mstpd.prepare
  split
  next m₀ d₀ hm₀ =>
  rw [hm₀] at hforget
  split
  · next hpid =>
    simp only [daemon]
    split
    · next e d₁ hspawn =>
      split at hspawn
      · cases hspawn
      · cases hspawn
        exact fun p hp => hforget p (Daemon.tick_process hp)
    · next pid d₁ hspawn =>
      have hready := waitReady_keeps (daemon_keepsPolling d₁) pid startPolls fun p => id
      have hstarted : ∀ p, d₁.process = some p → p = pid := by
        split at hspawn
        · cases hspawn
          rintro p ⟨⟩
          rfl
        · cases hspawn
      split
      · next hwait =>
        intro p hp
        rw [hstarted p (hready p (by rw [← hp]; exact congrArg (·.2.process) hwait))]
      · next hwait =>
        intro p hp
        rw [hstarted p (hready p (by rw [← hp]; exact congrArg (·.2.process) hwait))]
  · next pid hpid =>
    intro p hp
    have hstop : daemon.stop pid (daemon.run .delBridge d₀).2 =
        if (daemon.run .delBridge d₀).2.tick.process = some pid then
          { (daemon.run .delBridge d₀).2.tick with process := none, bridge := .empty }
        else (daemon.run .delBridge d₀).2.tick := rfl
    rw [hstop] at hp
    split at hp
    · cases hp
    · next hother =>
      have hknown := hforget p (Daemon.run_process (Daemon.tick_process hp))
      rw [hpid] at hknown
      exact absurd (hknown ▸ hp) hother
  · exact hforget

theorem Mstpd.Knows.configure {m : Mstpd} {d : Daemon} (knows : m.Knows d) (wanted : Option Stp)
    (mac : String) (resend : Bool) :
    (m.configure daemon wanted mac resend d).2.1.Knows
      (m.configure daemon wanted mac resend d).2.2 := by
  intro pid hpid
  rw [Mstpd.configure_pid]
  refine knows pid ?_
  unfold Mstpd.configure at hpid
  split at hpid
  · exact hpid
  · split at hpid
    · next hrun => exact Daemon.runAll_process (by rw [hrun]; exact hpid)
    · next hrun => exact Daemon.runAll_process (by rw [hrun]; exact hpid)

/-- A successful `configure` has run its commands and caches the configuration. -/
theorem Mstpd.configure_ok {m m' : Mstpd} {stp : Stp} {mac : String} {resend : Bool}
    {d d' : Daemon} (h : m.configure daemon (some stp) mac resend d = (.ok (), m', d')) :
    d'.bridge = execAll (configureCommands (m.previous resend) stp mac) d.bridge ∧
      m' = { m with applied := some (.of stp mac) } ∧ d.process ≠ none := by
  obtain ⟨hrun, hm⟩ := Mstpd.configure_run daemon h
  refine ⟨Daemon.runAll_ok hrun, hm, ?_⟩
  -- The first command is an addbridge, which fails without a process.
  simp only [configureCommands, runAll] at hrun
  split at hrun
  · next hadd => exact (Daemon.run_ok hadd).2
  · cases hrun

end ClixonSwitch.Source.SwitchNet
