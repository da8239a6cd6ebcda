import ClixonSwitch.Lib.Commands
import ClixonSwitch.Source.SwitchNet.Kernel
import ClixonSwitch.Source.SwitchNet.Mstpctl

/-!
# The mstpd process and its configuration

`Mstpd::prepare` and `Mstpd::configure` of `crates/switch-net/src/stp.rs`. The
source's `Processes` and `Control` and its clock are arbitrary functions of a world,
so quantifying over them quantifies over every sequence of their results. The output
of mstpctl is only read for state data, and the `log` callback of `configure` sees
exactly the commands that run; both are left out.
-/
namespace ClixonSwitch.Source.SwitchNet
open Lib Source.SwitchModel

structure MstpdEnv (ω : Type) where
  /-- Starts mstpd in the foreground. -/
  spawn : ω → Except String UInt32 × ω
  running : UInt32 → ω → Bool × ω
  stop : UInt32 → ω → ω
  /-- Runs mstpctl to completion. -/
  run : Command → ω → Except String Unit × ω
  /-- Whether the deadline of `wait_ready` has passed. -/
  expired : ω → Bool × ω

inductive StpEvent where
  | started (pid : UInt32)
  | stopped (pid : UInt32)
  | exited (pid : UInt32)
  | command (c : Command)
  deriving DecidableEq, Repr

structure Mstpd where
  pid : Option UInt32 := none
  applied : Option StpApplied := none
  deriving DecidableEq

variable {ω : Type} (env : MstpdEnv ω)

/-- Polls of 50 ms after which the five seconds of START_TIMEOUT are over. -/
def startPolls : Nat := 100

def notStarted (e : String) : NetError := ⟨"mstpd did not start: " ++ e⟩

/-- Polls a started mstpd until it answers, with the number of polls left. -/
def waitReady (pid : UInt32) : Nat → ω → Except NetError Unit × ω
  | polls, w =>
    match env.run .debugLevel w with
    | (.ok (), w) => (.ok (), w)
    | (.error e, w) =>
      match env.expired w with
      | (true, w) => (.error (notStarted e), w)
      | (false, w) =>
        match env.running pid w, polls with
        | (true, w), polls + 1 => waitReady pid polls w
        | (_, w), _ => (.error (notStarted e), w)

/-- An mstpd that has exited by itself is forgotten with its configuration. -/
def Mstpd.forgetExited (m : Mstpd) (w : ω) : List StpEvent × Mstpd × ω :=
  match m.pid with
  | none => ([], m, w)
  | some pid =>
    match env.running pid w with
    | (true, w) => ([], m, w)
    | (false, w) => ([.exited pid], {}, w)

/-- Before the kernel is reconciled: starts mstpd if spanning tree is `wanted`, and
otherwise stops it after releasing the bridge. -/
def Mstpd.prepare (m : Mstpd) (wanted : Bool) (w : ω) :
    Except NetError (List StpEvent) × Mstpd × ω :=
  match m.forgetExited env w with
  | (events, m, w) =>
    match wanted, m.pid with
    | true, none =>
      match env.spawn w with
      | (.error e, w) => (.error ⟨"cannot start mstpd: " ++ e⟩, m, w)
      | (.ok pid, w) =>
        match waitReady env pid startPolls w with
        | (.error e, w) => (.error e, { m with pid := some pid }, w)
        | (.ok (), w) => (.ok (events ++ [.started pid]), { m with pid := some pid }, w)
    | false, some pid =>
      -- mstpd may not know the bridge, so the result of delbridge is ignored.
      (.ok (events ++ [.command .delBridge, .stopped pid]), {},
        env.stop pid (env.run .delBridge w).2)
    | _, _ => (.ok events, m, w)

def commandError (c : Command) (e : String) : NetError :=
  ⟨"mstpctl " ++ " ".intercalate (c.words bridgeName) ++ ": " ++ e⟩

/-- The commands that `configure` runs. -/
def configureCommands (previous : Option StpApplied) (stp : Stp) (bridgeMac : String) :
    List Command :=
  .addBridge :: changedCommands previous (commands stp bridgeMac) stp

/-- The cached configuration that `configure` compares with. -/
def Mstpd.previous (m : Mstpd) (resend : Bool) : Option StpApplied :=
  if resend then none else m.applied

def StpApplied.of (stp : Stp) (bridgeMac : String) : StpApplied :=
  ⟨stp, SwitchNet.commands stp bridgeMac, bridgeMac, rfl⟩

/-- After the kernel is reconciled: configures mstpd with `wanted`. The cache is taken
before the commands run and set again once all of them have succeeded. -/
def Mstpd.configure (m : Mstpd) (wanted : Option Stp) (bridgeMac : String) (resend : Bool)
    (w : ω) : Except NetError Unit × Mstpd × ω :=
  match wanted with
  | none => (.ok (), m, w)
  | some stp =>
    match runAll env.run (configureCommands (m.previous resend) stp bridgeMac) w with
    | (.error (c, e), w) => (.error (commandError c e), { m with applied := none }, w)
    | (.ok (), w) => (.ok (), { m with applied := some (.of stp bridgeMac) }, w)

section Specs
variable {m : Mstpd} {w : ω}

/-- A configuration is cached only for a process that was started. -/
def Mstpd.CacheOwned (m : Mstpd) : Prop := m.applied ≠ none → m.pid ≠ none

/-- The process of `m` runs in `w`. -/
def Mstpd.Alive (m : Mstpd) (w w' : ω) : Prop :=
  ∃ pid, m.pid = some pid ∧ env.running pid w = (true, w')

theorem Mstpd.forgetExited_cases (m : Mstpd) (w : ω) :
    ∃ events w', m.forgetExited env w = (events, {}, w') ∨
      (m.pid = none ∧ m.forgetExited env w = ([], m, w)) ∨
      (m.Alive env w w' ∧ m.forgetExited env w = ([], m, w')) := by
  unfold forgetExited
  cases hpid : m.pid with
  | none => exact ⟨[], w, .inr (.inl ⟨rfl, rfl⟩)⟩
  | some pid =>
    cases hrun : env.running pid w with
    | mk alive w' =>
      cases alive with
      | true => exact ⟨[], w', .inr (.inr ⟨⟨pid, hpid, hrun⟩, by simp only [hrun]⟩)⟩
      | false => exact ⟨[.exited pid], w', .inl (by simp only [hrun])⟩

/-- The cache survives `prepare` only if the process was running and stays. -/
theorem Mstpd.prepare_cache (owned : m.CacheOwned) (wanted : Bool) :
    (m.prepare env wanted w).2.1.applied = none ∨
      wanted = true ∧ ∃ w', m.Alive env w w' ∧ m.prepare env wanted w = (.ok [], m, w') := by
  have hempty : ({} : Mstpd).applied = none := rfl
  obtain ⟨events, w', hforget | ⟨hpid, hforget⟩ | ⟨alive, hforget⟩⟩ :=
    m.forgetExited_cases env w
  · left
    simp only [prepare, hforget]
    repeat' split
    all_goals rfl
  · have hcache : m.applied = none := by
      by_contra hsome
      exact owned hsome hpid
    left
    simp only [prepare, hforget, hpid]
    repeat' split
    all_goals first | rfl | exact hcache
  · obtain ⟨pid, hpid, hrun⟩ := alive
    cases wanted with
    | false => left; simp only [prepare, hforget, hpid]
    | true => exact .inr ⟨rfl, w', ⟨pid, hpid, hrun⟩, by simp only [prepare, hforget, hpid]⟩

/-- A successful `prepare` leaves a process exactly if one is wanted. -/
theorem Mstpd.prepare_pid {env : MstpdEnv ω} {wanted : Bool} {events : List StpEvent} {m' : Mstpd} {w' : ω}
    (h : m.prepare env wanted w = (.ok events, m', w')) : m'.pid ≠ none ↔ wanted = true := by
  cases hforget : m.forgetExited env w with
  | mk before rest =>
    obtain ⟨m₀, w₀⟩ := rest
    simp only [prepare, hforget] at h
    split at h
    · split at h
      · cases h
      · split at h
        · cases h
        · cases h
          simp
    · cases h
      simp
    · next hstart hstop =>
      cases h
      cases hpid : m'.pid with
      | none => simpa using fun hwanted => hstart hwanted hpid
      | some pid => simpa using fun hwanted => hstop pid hwanted hpid

theorem Mstpd.prepare_cacheOwned (owned : m.CacheOwned) (wanted : Bool) :
    (m.prepare env wanted w).2.1.CacheOwned := by
  intro hcache
  rcases Mstpd.prepare_cache env owned wanted with hnone | ⟨_, _, _, hkept⟩
  · exact absurd hnone hcache
  · rw [hkept] at hcache ⊢
    exact owned hcache

theorem Mstpd.configure_pid (wanted : Option Stp) (mac : String) (resend : Bool) :
    (m.configure env wanted mac resend w).2.1.pid = m.pid := by
  unfold configure
  split
  · rfl
  · split <;> rfl

/-- A successful `configure` has run all its commands and caches the configuration. -/
theorem Mstpd.configure_run {m' : Mstpd} {w' : ω} {stp : Stp} {mac : String} {resend : Bool}
    (h : m.configure env (some stp) mac resend w = (.ok (), m', w')) :
    runAll env.run (configureCommands (m.previous resend) stp mac) w = (.ok (), w') ∧
      m' = { m with applied := some (.of stp mac) } := by
  simp only [configure] at h
  split at h
  · cases h
  · next hrun =>
    cases h
    exact ⟨hrun, rfl⟩

/-- A failed `configure` leaves nothing cached. -/
theorem Mstpd.configure_failed {stp : Stp} {mac : String} {resend : Bool}
    (h : (m.configure env (some stp) mac resend w).1 ≠ .ok ()) :
    (m.configure env (some stp) mac resend w).2.1.applied = none := by
  simp only [configure] at h ⊢
  split at h
  · rfl
  · exact absurd rfl h

/-- What the calls keep that neither start nor stop a process. -/
structure MstpdEnv.KeepsPolling (inv : ω → Prop) : Prop where
  running : ∀ pid w, inv w → inv (env.running pid w).2
  run : ∀ c w, inv w → inv (env.run c w).2
  expired : ∀ w, inv w → inv (env.expired w).2

/-- What every call keeps. -/
structure MstpdEnv.Keeps (inv : ω → Prop) : Prop extends env.KeepsPolling inv where
  spawn : ∀ w, inv w → inv (env.spawn w).2
  stop : ∀ pid w, inv w → inv (env.stop pid w)

variable {env} {inv : ω → Prop}

theorem waitReady_keeps (keeps : env.KeepsPolling inv) (pid : UInt32) (polls : Nat) (start : inv w) :
    inv (waitReady env pid polls w).2 := by
  induction polls generalizing w
  all_goals
    have hrun := keeps.run .debugLevel w start
    have hexpired := keeps.expired _ hrun
    have hrunning := keeps.running pid _ hexpired
    unfold waitReady
    grind

theorem Mstpd.prepare_keeps (keeps : env.Keeps inv) (wanted : Bool) (start : inv w) :
    inv (m.prepare env wanted w).2.2 := by
  have hforget : inv (m.forgetExited env w).2.2 := by
    unfold forgetExited
    grind [keeps.running]
  unfold prepare
  split
  next m₀ w₀ hm₀ =>
  rw [hm₀] at hforget
  have hspawn := keeps.spawn w₀ hforget
  split
  · split
    · next hs => simpa [hs] using hspawn
    · next pid w₁ hs =>
      have hready := waitReady_keeps keeps.toKeepsPolling pid startPolls (w := w₁) (by simpa [hs] using hspawn)
      split
      · next hr => simpa [hr] using hready
      · next hr => simpa [hr] using hready
  · exact keeps.stop _ _ (keeps.run _ _ hforget)
  · exact hforget

theorem Mstpd.configure_keeps (keeps : env.KeepsPolling inv) (wanted : Option Stp) (mac : String)
    (resend : Bool) (start : inv w) : inv (m.configure env wanted mac resend w).2.2 := by
  unfold configure
  split
  · exact start
  · next stp =>
    have hrun : inv (runAll env.run (configureCommands (m.previous resend) stp mac) w).2 :=
      runAll_invariant inv (fun c _ => keeps.run c) start
    split
    · next h => simpa [h] using hrun
    · next h => simpa [h] using hrun

end Specs

end ClixonSwitch.Source.SwitchNet
