import ClixonSwitch.Source.SwitchNet.Changed

/-!
# The MSTIs that mstpd is left with

Runs of `prepare` and `configure` against mstpd, with the bridge created anew between
any two calls and chance deciding which commands are refused and when the process
ends. A deletetree is only sent for trees of the cached configuration, so without a
cache the trees of earlier configurations stay.
-/
namespace ClixonSwitch.Guarantees
open Lib Source.SwitchModel Source.SwitchNet

structure MstpdRun where
  mstpd : Mstpd := {}
  world : Daemon

inductive MstpdStep where
  | prepare (wanted : Bool)
  | configure (wanted : Option Stp) (bridgeMac : String) (resend : Bool)
  | recreated

def MstpdRun.step (s : MstpdRun) : MstpdStep → MstpdRun
  | .prepare wanted =>
    let (_, m, d) := s.mstpd.prepare daemon wanted s.world
    ⟨m, d⟩
  | .configure wanted mac resend =>
    let (_, m, d) := s.mstpd.configure daemon wanted mac resend s.world
    ⟨m, d⟩
  | .recreated => ⟨s.mstpd, s.world.recreate⟩

/-- `configure` with `stp` returns Ok. -/
def MstpdRun.Succeeds (s : MstpdRun) (stp : Stp) (mac : String) (resend : Bool) : Prop :=
  (s.mstpd.configure daemon (some stp) mac resend s.world).1 = .ok ()

/-- `P` holds of every call of `configure` in a run that returns Ok, with the state
before the call. -/
def EveryConfigure (P : MstpdRun → Stp → String → Bool → Prop) :
    List MstpdStep → MstpdRun → Prop
  | [], _ => True
  | .configure (some stp) mac resend :: rest, s =>
    (s.Succeeds stp mac resend → P s stp mac resend) ∧
      EveryConfigure P rest (s.step (.configure (some stp) mac resend))
  | a :: rest, s => EveryConfigure P rest (s.step a)

/-- After the call, the bridge's trees are the CIST and the MSTIs of `stp`. -/
def TreesExact (s : MstpdRun) (stp : Stp) (mac : String) (resend : Bool) : Prop :=
  ∀ id, (s.step (.configure (some stp) mac resend)).world.bridge.HasTree id ↔
    id = 0 ∨ id ∈ stp.mstis

/-- Without a cache, mstpd must have no other MSTI; with one, mstpd must still have the
MSTIs that both configurations share, and the CIST must not be deleted. -/
def TreesKnown (s : MstpdRun) (stp : Stp) (_ : String) (resend : Bool) : Prop :=
  match s.mstpd.previous resend with
  | none => ∀ id, s.world.bridge.HasTree id → id = 0 ∨ id ∈ stp.mstis
  | some a =>
    (∀ id, id ≠ 0 → id ∈ stp.mstis → id ∈ a.stp.mstis → s.world.bridge.HasTree id) ∧
      (0 ∈ a.stp.mstis → 0 ∈ stp.mstis)

/-- No process runs that the plugin does not know, and mstpd has no tree besides the
CIST and the MSTIs of the cached configuration. -/
structure Tracked (s : MstpdRun) : Prop where
  process : s.mstpd.Knows s.world
  owned : s.mstpd.CacheOwned
  trees : ∀ a, s.mstpd.applied = some a →
    ∀ id, s.world.bridge.HasTree id → id = 0 ∨ id ∈ a.stp.mstis

section Step
variable {s : MstpdRun} {stp : Stp} {mac : String} {resend : Bool}

theorem treesExact_iff (tracked : Tracked s) (success : s.Succeeds stp mac resend) :
    TreesExact s stp mac resend ↔ TreesKnown s stp mac resend := by
  have hbridge : (s.step (.configure (some stp) mac resend)).world.bridge =
      execAll (configureCommands (s.mstpd.previous resend) stp mac) s.world.bridge :=
    (Mstpd.configure_ok (Prod.ext success rfl)).1
  unfold TreesExact TreesKnown
  simp only [hbridge, configureCommands_hasTree]
  cases hprev : s.mstpd.previous resend with
  | none =>
    simp only [cachedTree, reduceCtorEq, false_and, exists_false, not_false_iff, and_true]
    constructor
    · exact fun exact id has => (exact id).mp (.inr (.inl has))
    · intro known id
      constructor
      · rintro (hzero | has | hmem)
        exacts [.inl hzero, known id has, .inr hmem]
      · rintro (hzero | hmem)
        exacts [.inl hzero, .inr (.inr hmem)]
  | some a =>
    have happlied : s.mstpd.applied = some a := by
      unfold Mstpd.previous at hprev
      split at hprev
      · cases hprev
      · exact hprev
    have hcached : ∀ id, cachedTree (some a) id ↔ id ∈ a.stp.mstis := by simp [cachedTree]
    simp only [hcached]
    constructor
    · intro exact
      constructor
      · intro id hne hmem hcache
        rcases ((exact id).mpr (.inr hmem)).1 with hzero | has | hnew
        exacts [absurd hzero hne, has, absurd hcache hnew.2]
      · intro hcache
        by_contra hother
        exact ((exact 0).mpr (.inl rfl)).2 ⟨hcache, hother⟩
    · rintro ⟨shared, cist⟩ id
      constructor
      · rintro ⟨hbefore, hkept⟩
        by_contra hneither
        rw [not_or] at hneither
        refine hkept ⟨?_, hneither.2⟩
        rcases hbefore with hzero | has | hnew
        · exact absurd hzero hneither.1
        · exact (tracked.trees a happlied id has).resolve_left hneither.1
        · exact absurd hnew.1 hneither.2
      · intro hmem
        by_cases hzero : id = 0
        · subst hzero
          exact ⟨.inl rfl, fun h => h.2 (cist h.1)⟩
        · have hmem := hmem.resolve_left hzero
          refine ⟨.inr ?_, fun h => h.2 hmem⟩
          by_cases hcache : id ∈ a.stp.mstis
          · exact .inl (shared id hzero hmem hcache)
          · exact .inr ⟨hmem, hcache⟩

theorem Tracked.prepare (tracked : Tracked s) (wanted : Bool) :
    Tracked (s.step (.prepare wanted)) where
  process := tracked.process.prepare wanted
  owned := Mstpd.prepare_cacheOwned daemon tracked.owned wanted
  trees a happlied id has := by
    rcases Mstpd.prepare_cache (w := s.world) daemon tracked.owned wanted with
      hnone | ⟨-, d, ⟨pid, -, hrun⟩, hkept⟩
    · rw [show (s.step (.prepare wanted)).mstpd.applied = none from hnone] at happlied
      cases happlied
    · obtain ⟨halive, rfl⟩ := Prod.mk.inj hrun
      have hstep : s.step (.prepare wanted) = ⟨s.mstpd, s.world.tick⟩ := by
        simp only [MstpdRun.step, hkept]
      rw [hstep] at happlied has
      rw [Daemon.tick_alive (by simp [eq_of_beq halive])] at has
      exact tracked.trees a happlied id has

theorem Tracked.configure (tracked : Tracked s)
    (exact : s.Succeeds stp mac resend → TreesExact s stp mac resend) :
    Tracked (s.step (.configure (some stp) mac resend)) := by
  by_cases success : s.Succeeds stp mac resend
  · obtain ⟨-, hm, halive⟩ := Mstpd.configure_ok (Prod.ext success rfl)
    obtain ⟨pid, hpid⟩ := Option.ne_none_iff_exists'.mp halive
    refine ⟨tracked.process.configure (some stp) mac resend, fun _ hnone => ?_, fun a happlied id has => ?_⟩
    · rw [show (s.step (.configure (some stp) mac resend)).mstpd.pid = s.mstpd.pid from
        Mstpd.configure_pid daemon (some stp) mac resend, tracked.process pid hpid] at hnone
      cases hnone
    · obtain rfl : StpApplied.of stp mac = a :=
        Option.some.inj ((congrArg Mstpd.applied hm).symm.trans happlied)
      exact (exact success id).mp has
  · have hnone := Mstpd.configure_failed daemon success
    refine ⟨tracked.process.configure (some stp) mac resend, fun hsome => absurd hnone hsome, ?_⟩
    intro a happlied
    exact absurd (hnone.symm.trans happlied) (by simp)

theorem Tracked.recreated (tracked : Tracked s) : Tracked (s.step .recreated) where
  process := tracked.process
  owned := tracked.owned
  trees _ _ _ has := absurd rfl has

end Step

/-- The run starts without a process, whatever chance holds. -/
def bootRun (chance : Chance) : MstpdRun := { world := { chance } }

theorem bootRun_tracked (chance : Chance) : Tracked (bootRun chance) where
  process pid h := by cases h
  owned h := absurd rfl h
  trees a h := by cases h

/-- While the calls so far have left exact trees, the condition on the next call
decides whether it does. -/
theorem everyConfigure_iff {s : MstpdRun} (steps : List MstpdStep) (tracked : Tracked s) :
    EveryConfigure TreesExact steps s ↔ EveryConfigure TreesKnown steps s := by
  induction steps generalizing s with
  | nil => rfl
  | cons a rest ih =>
    cases a with
    | prepare wanted => exact ih (tracked.prepare wanted)
    | recreated => exact ih tracked.recreated
    | configure wanted mac resend =>
      cases wanted with
      | none => exact ih tracked
      | some stp =>
        constructor
        · rintro ⟨hexact, hrest⟩
          exact ⟨fun success => (treesExact_iff tracked success).mp (hexact success),
            (ih (tracked.configure hexact)).mp hrest⟩
        · rintro ⟨hknown, hrest⟩
          have hexact : s.Succeeds stp mac resend → TreesExact s stp mac resend :=
            fun success => (treesExact_iff tracked success).mpr (hknown success)
          exact ⟨hexact, (ih (tracked.configure hexact)).mpr hrest⟩

/-- In every run, the successful calls of `configure` leave exactly the CIST and the
MSTIs asked for if and only if mstpd has no tree that the cache does not know. -/
theorem configure_trees_iff (chance : Chance) (steps : List MstpdStep) :
    EveryConfigure TreesExact steps (bootRun chance) ↔
      EveryConfigure TreesKnown steps (bootRun chance) :=
  everyConfigure_iff steps (bootRun_tracked chance)

/-- MSTP with one MSTI, and then without. -/
def mstpWith (mstis : BTreeMap UInt16 Msti) : Stp where
  protocol := .mstp
  helloTime := 2
  maxAge := 20
  forwardDelay := 15
  holdCount := 6
  maxHops := 20
  regionName := none
  regionRevision := 0
  cist := ⟨32768, ∅⟩
  mstis
  ports := ∅

def oneMsti : BTreeMap UInt16 Msti := BTreeMap.collect [(4, ⟨∅, ⟨32768, ∅⟩⟩)]

/-- mstpd has MSTI 4 when it is removed from the configuration while a port joins. -/
def beforeRemoval : MstpdRun :=
  ((bootRun {}).step (.prepare true)).step (.configure (some (mstpWith oneMsti)) "" false)

theorem msti_leaks_on_resend :
    beforeRemoval.Succeeds (mstpWith ∅) "" true ∧
      (beforeRemoval.step (.configure (some (mstpWith ∅)) "" true)).world.bridge.HasTree 4 ∧
      ¬ EveryConfigure TreesExact [.prepare true, .configure (some (mstpWith oneMsti)) "" false,
        .configure (some (mstpWith ∅)) "" true] (bootRun {}) := by
  have success : beforeRemoval.Succeeds (mstpWith ∅) "" true := by
    unfold MstpdRun.Succeeds
    decide +kernel
  have leaks : (beforeRemoval.step (.configure (some (mstpWith ∅)) "" true)).world.bridge.HasTree
      4 := by decide +kernel
  refine ⟨success, leaks, fun ⟨_, hexact, _⟩ => ?_⟩
  exact absurd ((hexact success 4).mp leaks) (by decide +kernel)

end ClixonSwitch.Guarantees
