import ClixonSwitch.Lib.Children
import ClixonSwitch.Source.SwitchNet.Changed

/-!
# The cache of applied commands describes the running mstpd

Runs of `prepare` and `configure` with an mstpd that exits at any moment, and starts and
mstpctl commands that fail. There is never more than one mstpd, the recorded one, and it
has run every command of the cached configuration since it was started.
-/
namespace ClixonSwitch.Guarantees
open Lib Lib.Children Source.SwitchNet
open Source.SwitchModel

section World

/-- The processes, each with the commands that mstpctl has run on it. -/
abbrev Mstpds := Children Unit Command

def isRunning (c : Child Unit Command) : Bool := c.fate == .running

/-- mstpctl talks to the mstpd that runs, and fails if there is none. -/
def runMstpctl (c : Command) (w : Mstpds) : Except String Unit × Mstpds :=
  match w.answer with
  | (true, w) =>
    if w.table.any isRunning then (.ok (), w.note isRunning c) else (.error "no mstpd", w)
  | (false, w) => (.error "mstpctl failed", w)

def mstpds : MstpdEnv Mstpds where
  spawn w := w.spawn ()
  running pid w := w.running pid
  stop pid w := w.stop pid
  run := runMstpctl
  expired w := w.answer

/-- What happens in a run; between the calls, time passes. -/
inductive SupervisorStep where
  | prepare (wanted : Bool)
  | configure (wanted : Option Stp) (bridgeMac : String) (resend : Bool)
  | idle

def SupervisorStep.exec : SupervisorStep → Mstpd × Mstpds → Mstpd × Mstpds
  | .prepare wanted, (m, w) => (m.prepare mstpds wanted w).2
  | .configure wanted mac resend, (m, w) => (m.configure mstpds wanted mac resend w).2
  | .idle, (m, w) => (m, w.tick)

/-- mstpd after a run from the start of the plugin. -/
def supervisorRun (oracle : Oracle) (steps : List SupervisorStep) : Mstpd × Mstpds :=
  steps.foldl (fun s step => step.exec s) ({}, { oracle })

end World

section Commands

/-- Every mstpd that runs has run the commands. -/
def Ran (cs : List Command) (w : Mstpds) : Prop :=
  ∀ child ∈ w.table, child.fate = .running → ∀ c ∈ cs, c ∈ child.notes

variable {w w' : Mstpds}

theorem Ran.later {cs : List Command} (h : Ran cs w) {freed : UInt32 → Prop}
    (later : Later freed w w') : Ran cs w' := by
  intro child' hchild' hrun c hc
  obtain ⟨child, hchild, aged⟩ := later.exists_before hchild'
  exact aged.notes c (h child hchild (aged.running hrun) c hc)

theorem ran_note (c : Command) (w : Mstpds) : Ran [c] (w.note isRunning c) := by
  intro child' hchild' hrun c' hc'
  obtain rfl := List.mem_singleton.mp hc'
  obtain ⟨child, -, rfl⟩ := List.mem_map.mp hchild'
  have hrun' := (addNote_aged isRunning c' child).running hrun
  have hof : isRunning child = true := beq_iff_eq.mpr hrun'
  rw [addNote, if_pos hof]
  exact List.mem_cons_self

theorem runMstpctl_cases (c : Command) (w : Mstpds) :
    (∃ e w', runMstpctl c w = (.error e, w') ∧ Quiet w w') ∨
      ∃ w', runMstpctl c w = (.ok (), w') ∧ Quiet w w' ∧ Ran [c] w' ∧
        ∃ child ∈ w'.table, child.Held := by
  have hquiet := quiet_answer w
  unfold runMstpctl
  split
  · next w₁ h =>
    obtain rfl : w.answer.2 = w₁ := congrArg Prod.snd h
    split
    · next hany =>
      have hnote := quiet_note isRunning c w.answer.2
      obtain ⟨child, hchild, hrun⟩ := List.any_eq_true.mp hany
      obtain ⟨child', hchild', aged⟩ := hnote.exists_after hchild
      refine Or.inr ⟨_, rfl, hquiet.trans hnote, ran_note c _, child', hchild', ?_⟩
      exact aged.kept (held_of_running (beq_iff_eq.mp hrun)) id
    · exact Or.inl ⟨_, _, rfl, hquiet⟩
  · next w₁ h =>
    obtain rfl : w.answer.2 = w₁ := congrArg Prod.snd h
    exact Or.inl ⟨_, _, rfl, hquiet⟩

theorem quiet_run (c : Command) (w : Mstpds) : Quiet w (runMstpctl c w).2 := by
  rcases runMstpctl_cases c w with ⟨e, w', hrun, quiet⟩ | ⟨w', hrun, quiet, -⟩
  · rwa [hrun]
  · rwa [hrun]

theorem quiet_runAll (cs : List Command) (w : Mstpds) : Quiet w (runAll mstpds.run cs w).2 :=
  runAll_invariant (Quiet w) (fun c _ w' h => h.trans (quiet_run c w')) (Later.refl _ w)

/-- A sequence that succeeds has been run, on an mstpd that was there. -/
theorem runAll_ran {cs : List Command} (h : runAll mstpds.run cs w = (.ok (), w')) :
    Ran cs w' ∧ (cs ≠ [] → ∃ child ∈ w'.table, child.Held) := by
  induction cs generalizing w with
  | nil => exact ⟨fun _ _ _ _ => nofun, fun h => absurd rfl h⟩
  | cons c rest ih =>
    rcases runMstpctl_cases c w with ⟨e, w₁, hrun, -⟩ | ⟨w₁, hrun, -, hran, child, hchild, held⟩
    · simp only [runAll, mstpds, hrun] at h
      cases h
    · have hrest : runAll mstpds.run rest w₁ = (.ok (), w') := by
        rw [← h]
        exact (runAll_cons_ok hrun).symm
      have hquiet : Quiet w₁ w' := by
        have := quiet_runAll rest w₁
        rwa [hrest] at this
      obtain ⟨child', hchild', aged⟩ := hquiet.exists_after hchild
      refine ⟨fun d hd hr c' hc' => ?_, fun _ => ⟨child', hchild', aged.kept held id⟩⟩
      rcases List.mem_cons.mp hc' with rfl | hc'
      · exact hran.later hquiet d hd hr c' (List.mem_singleton_self c')
      · exact (ih hrest).1 d hd hr c' hc'

end Commands

section Supervision
variable {m : Mstpd} {w w' : Mstpds}

/-- Each mstpd that holds its pid is the recorded one. -/
abbrev Recorded (pid : Option UInt32) (w : Mstpds) : Prop :=
  Covers (fun _ : Unit => ()) (fun _ => pid) w

/-- The cache describes the recorded process. -/
structure Described (m : Mstpd) (w : Mstpds) : Prop where
  covers : Recorded m.pid w
  owned : m.CacheOwned
  ran : ∀ a, m.applied = some a → Ran a.commands w

theorem Described.quiet (h : Described m w) (quiet : Quiet w w') : Described m w' :=
  ⟨h.covers.quiet quiet, h.owned, fun a ha => (h.ran a ha).later quiet⟩

theorem described_uncached {pid : Option UInt32} (h : Recorded pid w) :
    Described ⟨pid, none⟩ w :=
  ⟨h, fun hne => absurd rfl hne, nofun⟩

theorem Recorded.released {pid : UInt32} (h : Recorded (some pid) w) (later : Later (· = pid) w w')
    (freed : ∀ c ∈ w'.table, c.pid = pid → ¬ c.Held) : Recorded none w' := by
  have hreleased := Covers.released h (k := ()) rfl later freed
  rwa [update_unit] at hreleased

theorem forgetExited_described (h : Described m w) :
    ∃ events m' w', m.forgetExited mstpds w = (events, m', w') ∧ Described m' w' := by
  unfold Mstpd.forgetExited
  cases hpid : m.pid with
  | none => exact ⟨_, _, _, rfl, h⟩
  | some pid =>
    simp only [mstpds]
    rcases running_cases pid w with ⟨w₁, hrun, quiet⟩ | ⟨w₁, hrun, later, freed⟩
    · simp only [hrun]
      exact ⟨_, _, _, rfl, h.quiet quiet⟩
    · simp only [hrun]
      have hcovers := h.covers
      rw [hpid] at hcovers
      exact ⟨_, _, _, rfl, described_uncached (Recorded.released hcovers later freed)⟩

/-- Polling may find that the process has exited; what is recorded stays. -/
theorem mstpds_keepsPolling (pid : Option UInt32) : mstpds.KeepsPolling (Recorded pid) where
  running p w h := by
    rcases running_cases p w with ⟨w₁, hrun, quiet⟩ | ⟨w₁, hrun, later, freed⟩
    · simp only [mstpds, hrun]
      exact Covers.quiet h quiet
    · simp only [mstpds, hrun]
      exact Covers.later h later freed fun _ _ hk _ => hk
  run c w h := Covers.quiet h (quiet_run c w)
  expired w h := Covers.quiet h (quiet_answer w)

/-- A process that is started is recorded, also if it never answers. -/
theorem spawn_recorded (h : Recorded none w) :
    (∃ e w', mstpds.spawn w = (.error e, w') ∧ Recorded none w') ∨
      ∃ pid w', mstpds.spawn w = (.ok pid, w') ∧
        Recorded (some pid) (waitReady mstpds pid startPolls w').2 := by
  rcases spawn_cases () w with ⟨e, w₁, hspawn, quiet⟩ | ⟨pid, w₁, hspawn, quiet, fresh⟩
  · exact Or.inl ⟨e, w₁, hspawn, Covers.quiet h quiet⟩
  · have hstarted := Covers.started (Covers.quiet h quiet) () rfl fresh
    rw [update_unit] at hstarted
    exact Or.inr ⟨pid, _, hspawn, waitReady_keeps (mstpds_keepsPolling _) pid _ hstarted⟩

/-- The cached commands are still those of the process after commands that only add to it. -/
theorem previous_ran (h : Described m w) (quiet : Quiet w w') {resend : Bool} :
    Ran (ranCommands (m.previous resend)) w' := by
  intro child hchild hrun c hc
  cases hprevious : m.previous resend with
  | none =>
    rw [hprevious] at hc
    cases hc
  | some a =>
    rw [hprevious] at hc
    have happlied : m.applied = some a := by
      cases resend with
      | true => cases hprevious
      | false => exact hprevious
    exact (h.ran a happlied).later quiet child hchild hrun c hc

theorem prepare_described (h : Described m w) (wanted : Bool) :
    Described (m.prepare mstpds wanted w).2.1 (m.prepare mstpds wanted w).2.2 := by
  obtain ⟨events, m₁, w₁, hforget, h₁⟩ := forgetExited_described h
  simp only [Mstpd.prepare, hforget]
  cases wanted <;> cases hpid : m₁.pid
  · exact h₁
  · next pid =>
    simp only
    have hcovers := h₁.covers
    rw [hpid] at hcovers
    have hdeleted : Recorded (some pid) (runMstpctl .delBridge w₁).2 :=
      Covers.quiet hcovers (quiet_run .delBridge w₁)
    exact described_uncached (hdeleted.released (later_stop pid _) fun _ hc => not_held_of_release hc)
  · have hcache : m₁.applied = none := by
      by_contra hsome
      exact h₁.owned hsome hpid
    have hcovers := h₁.covers
    rw [hpid] at hcovers
    rcases spawn_recorded hcovers with ⟨e, w₂, hspawn, h₂⟩ | ⟨pid, w₂, hspawn, h₂⟩
    · simp only [hspawn]
      rw [← hpid] at h₂
      exact ⟨h₂, h₁.owned, by simp [hcache]⟩
    · simp only [hspawn]
      split <;> next hready =>
        rw [hready] at h₂
        exact ⟨h₂, fun _ => by simp, by simp [hcache]⟩
  · exact h₁

theorem configure_described (h : Described m w) (wanted : Option Stp) (mac : String)
    (resend : Bool) : Described (m.configure mstpds wanted mac resend w).2.1
      (m.configure mstpds wanted mac resend w).2.2 := by
  cases wanted with
  | none => exact h
  | some stp =>
    have hquiet := quiet_runAll (configureCommands (m.previous resend) stp mac) w
    simp only [Mstpd.configure]
    cases hrun : runAll mstpds.run (configureCommands (m.previous resend) stp mac) w with
    | mk result w' =>
      rw [hrun] at hquiet
      cases result with
      | error e => exact described_uncached (h.covers.quiet hquiet)
      | ok =>
        obtain ⟨hran, hheld⟩ := runAll_ran hrun
        have hcovers := h.covers.quiet hquiet
        refine ⟨hcovers, fun _ hnone => ?_, fun a ha child hchild hrunning c hc => ?_⟩
        · obtain ⟨child, hchild, held⟩ := hheld (List.cons_ne_nil _ _)
          have hslot := hcovers.recorded child hchild held
          rw [hnone] at hslot
          cases hslot
        · obtain rfl := Option.some.inj ha
          by_cases hmem : c ∈ ranCommands (m.previous resend)
          · exact previous_ran h hquiet child hchild hrunning c hmem
          · refine hran child hchild hrunning c (List.mem_cons_of_mem _ ?_)
            exact (mem_changedCommands _ c).mpr (Or.inl ⟨hc, Or.inl hmem⟩)

theorem SupervisorStep.described (step : SupervisorStep) {s : Mstpd × Mstpds} (h : Described s.1 s.2) :
    Described (step.exec s).1 (step.exec s).2 := by
  obtain ⟨m, w⟩ := s
  cases step with
  | prepare wanted => exact prepare_described h wanted
  | configure wanted mac resend => exact configure_described h wanted mac resend
  | idle => exact Described.quiet h (quiet_tick w)

theorem supervisorRun_described (oracle : Oracle) (steps : List SupervisorStep) :
    Described (supervisorRun oracle steps).1 (supervisorRun oracle steps).2 := by
  have hstart : Described {} { oracle } :=
    described_uncached ⟨nofun, List.Pairwise.nil, nofun⟩
  induction steps using List.reverseRecOn with
  | nil => exact hstart
  | append_singleton steps step ih =>
    rw [supervisorRun, List.foldl_append]
    exact step.described ih

end Supervision

/-- What holds of mstpd at any point of a run. -/
structure CacheCurrent (m : Mstpd) (w : Mstpds) : Prop where
  /-- At no point so far, also within calls, did two processes run. -/
  atMostOne : ∀ t ∈ w.table :: w.points, AtMostOne (fun _ : Unit => ()) t
  recorded : ∀ child ∈ w.table, child.fate = .running → m.pid = some child.pid
  applied : ∀ a, m.applied = some a → ∀ child ∈ w.table, child.fate = .running →
    ∀ c ∈ a.commands, c ∈ child.notes

theorem supervisorRun_cache_current (oracle : Oracle) (steps : List SupervisorStep) :
    CacheCurrent (supervisorRun oracle steps).1 (supervisorRun oracle steps).2 := by
  have h := supervisorRun_described oracle steps
  refine ⟨h.covers.everyPoint, fun child hchild hrun => ?_, fun a ha => h.ran a ha⟩
  exact h.covers.recorded child hchild (held_of_running hrun)

end ClixonSwitch.Guarantees
