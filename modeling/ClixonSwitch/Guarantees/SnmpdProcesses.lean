import ClixonSwitch.Lib.Children
import ClixonSwitch.Source.SwitchNet.Snmpd

/-!
# snmpd runs what was configured, once

Runs of `Snmpd::sync` with processes that exit at any moment, and files and starts that
fail. Every process that holds its pid is the recorded one; snmpd was started with the
configuration that is recorded, and clixon_snmp after it. clixon_snmp may be started
before snmpd has opened its AgentX socket, exactly by a retry after a start that took
too long.
-/
namespace ClixonSwitch.Guarantees
open Lib Lib.Children Source.SwitchNet

section World

/-- A program as it was started: with the configuration file as it was, and whether an
snmpd had been seen to open its socket. -/
structure Launch where
  program : SnmpProgram
  confFile : Option String
  observed : Bool
  deriving DecidableEq, Repr

/-- The processes, each with a note for every time the socket was seen while it was
there, and the configuration file. -/
structure Agents where
  children : Children Launch Unit := {}
  confFile : Option String := none

namespace Agents

def isAgent (c : Child Launch Unit) : Bool := c.what.program == .snmpd && c.fate != .gone

def agentObserved (w : Agents) : Bool :=
  w.children.table.any fun c => isAgent c && !c.notes.isEmpty

def spawn (program : SnmpProgram) (w : Agents) : Except String UInt32 × Agents :=
  match w.children.spawn ⟨program, w.confFile, w.agentObserved⟩ with
  | (result, children) => (result, { w with children })

def answer (w : Agents) : Bool × Agents :=
  (w.children.answer.1, { w with children := w.children.answer.2 })

def fileCall (w : Agents) : Except String Unit × Agents :=
  match w.answer with
  | (true, w) => (.ok (), w)
  | (false, w) => (.error "input/output error", w)

def writeConf (text : String) (w : Agents) : Except String Unit × Agents :=
  match w.answer with
  | (true, w) => (.ok (), { w with confFile := some text })
  | (false, w) => (.error "input/output error", w)

def socketExists (w : Agents) : Bool × Agents :=
  match w.answer with
  | (true, w) => (true, { w with children := w.children.note isAgent () })
  | (false, w) => (false, w)

def readPersistent (texts : Nat → String) (w : Agents) : Option String × Agents :=
  match w.answer with
  | (true, w) => (some (texts w.children.calls), w)
  | (false, w) => (none, w)

/-- Whether the recorded process, if there is one, still runs when asked. -/
def poll (w : Agents) : Option UInt32 → Bool × Agents
  | none => (false, w)
  | some pid => ((w.children.running pid).1, { w with children := (w.children.running pid).2 })

end Agents

/-- The processes and files of the agent, with the texts that the persistent file has at
each call. -/
def snmpAgents (paths : SnmpPaths) (texts : Nat → String) : SnmpdEnv Agents where
  paths
  spawn := Agents.spawn
  running pid w := ((w.children.running pid).1, { w with children := (w.children.running pid).2 })
  stop pid w := { w with children := w.children.stop pid }
  writeConf := Agents.writeConf
  createPersistentDir := Agents.fileCall
  readPersistent := Agents.readPersistent texts
  writePersistent _ := Agents.fileCall
  removeSocket w := w.answer.2
  socketExists := Agents.socketExists
  expired := Agents.answer

end World

section Supervision

def Agents.launches (w : Agents) : List Launch := w.children.table.map Child.what

/-- All starts of clixon_snmp. -/
def Agents.subagents (w : Agents) : List Launch :=
  w.launches.filter fun l => l.program = .clixonSnmp

/-- The socket of the snmpd that is there has not been seen. -/
def Agents.Unobserved (w : Agents) : Prop :=
  ∃ agent ∈ w.children.table, agent.Held ∧ agent.what.program = .snmpd ∧ agent.notes = []

/-- The processes that hold their pid are the recorded ones; snmpd runs the recorded
configuration and clixon_snmp was started after it. -/
structure Attended (s : Snmpd) (w : Agents) : Prop where
  tracks : Tracks Launch.program s.slot w.children
  born : ∀ c ∈ w.children.table, c.born < w.children.table.length
  conf : ∀ agent ∈ w.children.table, agent.Held → agent.what.program = .snmpd →
    s.conf = agent.what.confFile
  order : ∀ sub ∈ w.children.table, sub.Held → sub.what.program = .clixonSnmp →
    ∀ agent ∈ w.children.table, agent.Held → agent.what.program = .snmpd →
      agent.born < sub.born ∧ (sub.what.observed = true → agent.notes ≠ [])

variable {s s' : Snmpd} {w w' : Agents}

theorem setSlot_slot (s : Snmpd) (program : SnmpProgram) (pid : Option UInt32) :
    (s.setSlot program pid).slot = Function.update s.slot program pid := by
  funext p
  cases program <;> cases p <;> simp [Snmpd.setSlot, Snmpd.slot, Function.update]

variable (h : Attended s w)
include h

theorem Attended.later {freed : UInt32 → Prop} (later : Later freed w.children w'.children)
    (tracks : Tracks Launch.program s'.slot w'.children) (conf : s'.conf = s.conf) :
    Attended s' w' where
  tracks
  born c' hc' := by
    obtain ⟨c, hc, aged⟩ := later.exists_before hc'
    rw [aged.born, later.length]
    exact h.born c hc
  conf agent' hagent' held program := by
    obtain ⟨agent, hagent, aged⟩ := later.exists_before hagent'
    rw [conf, aged.what]
    exact h.conf agent hagent (aged.held held) (aged.what ▸ program)
  order sub' hsub' held program agent' hagent' held' program' := by
    obtain ⟨sub, hsub, aged⟩ := later.exists_before hsub'
    obtain ⟨agent, hagent, aged'⟩ := later.exists_before hagent'
    obtain ⟨hborn, hseen⟩ := h.order sub hsub (aged.held held) (aged.what ▸ program) agent hagent
      (aged'.held held') (aged'.what ▸ program')
    rw [aged.born, aged'.born, aged.what]
    refine ⟨hborn, fun observed hnil => ?_⟩
    obtain ⟨n, hn⟩ := List.exists_mem_of_ne_nil _ (hseen observed)
    have hn' := aged'.notes n hn
    rw [hnil] at hn'
    cases hn'

theorem Attended.quiet (quiet : Quiet w.children w'.children) :
    Attended s w' := h.later quiet (h.tracks.quiet quiet) rfl

theorem Attended.released {program : SnmpProgram} {pid : UInt32}
    (hslot : s.slot program = some pid) (later : Later (· = pid) w.children w'.children)
    (freed : ∀ c ∈ w'.children.table, c.pid = pid → ¬ c.Held) :
    Attended (s.setSlot program none) w' := by
  refine h.later later ?_ ?_
  · rw [setSlot_slot]
    exact h.tracks.released hslot later freed
  · cases program <;> rfl

theorem Attended.not_held (program : SnmpProgram) (hslot : s.slot program = none) :
    ∀ c ∈ w.children.table, c.what.program = program → ¬ c.Held := by
  rintro c hc rfl held
  rw [h.tracks.recorded c hc held] at hslot
  cases hslot

/-- The recorded configuration says nothing while no snmpd is there. -/
theorem Attended.setConf (hslot : s.snmpd = none) (conf : Option String) :
    Attended { s with conf } w where
  tracks := h.tracks
  born := h.born
  conf agent hagent held program := absurd held (h.not_held .snmpd hslot agent hagent program)
  order := h.order

theorem agentObserved_iff {agent : Child Launch Unit}
    (hagent : agent ∈ w.children.table) (held : agent.Held) (program : agent.what.program = .snmpd) :
    w.agentObserved = true ↔ agent.notes ≠ [] := by
  simp only [Agents.agentObserved, Agents.isAgent, List.any_eq_true, Bool.and_eq_true, beq_iff_eq,
    bne_iff_ne, Bool.not_eq_true', List.isEmpty_eq_false_iff]
  constructor
  · rintro ⟨c, hc, ⟨hprogram, hheld⟩, hnotes⟩
    rwa [← h.tracks.unique hc hagent hheld held (hprogram.trans program.symm)]
  · exact fun hnotes => ⟨agent, hagent, ⟨program, held⟩, hnotes⟩

theorem Attended.born_start (pid : UInt32) (launch : Launch) :
    ∀ c ∈ (w.children.start pid launch).table, c.born < w.children.table.length + 1 := by
  intro c hc
  rcases List.mem_cons.mp hc with rfl | hc
  · exact Nat.lt_succ_self _
  · exact (h.born c hc).trans (Nat.lt_succ_self _)

theorem Attended.startedAgent (hagent : s.snmpd = none)
    (hsub : s.subagent = none) {pid : UInt32} {conf : String} (observed : Bool)
    (fresh : ∀ c ∈ w.children.table, c.Held → c.pid ≠ pid) :
    Attended { s with snmpd := some pid, conf := some conf }
      { w with children := w.children.start pid ⟨.snmpd, some conf, observed⟩ } where
  tracks := by
    have hstarted := h.tracks.started ⟨.snmpd, some conf, observed⟩ hagent fresh
    rw [← setSlot_slot] at hstarted
    exact hstarted
  born := h.born_start pid _
  conf agent hmem held program := by
    rcases List.mem_cons.mp hmem with rfl | hmem
    · rfl
    · exact absurd held (h.not_held .snmpd hagent agent hmem program)
  order sub hmem held program := by
    rcases List.mem_cons.mp hmem with rfl | hmem
    · cases program
    · exact absurd held (h.not_held .clixonSnmp hsub sub hmem program)

/-- What is recorded of a start of clixon_snmp is whether the socket had been seen. -/
theorem Attended.startedSubagent (hsub : s.subagent = none) {pid : UInt32}
    (fresh : ∀ c ∈ w.children.table, c.Held → c.pid ≠ pid) (confFile : Option String)
    {observed : Bool} (seen : observed = true → ¬ w.Unobserved) :
    Attended { s with subagent := some pid }
      { w with children := w.children.start pid ⟨.clixonSnmp, confFile, observed⟩ } where
  tracks := by
    have hstarted := h.tracks.started ⟨.clixonSnmp, confFile, observed⟩ hsub fresh
    rw [← setSlot_slot] at hstarted
    exact hstarted
  born := h.born_start pid _
  conf agent hmem held program := by
    rcases List.mem_cons.mp hmem with rfl | hmem
    · cases program
    · exact h.conf agent hmem held program
  order sub hmem held program agent hmem' held' program' := by
    rcases List.mem_cons.mp hmem' with rfl | hmem'
    · cases program'
    · rcases List.mem_cons.mp hmem with rfl | hmem
      · refine ⟨h.born agent hmem', fun hseen hnil => seen hseen ?_⟩
        exact ⟨agent, hmem', held', program', hnil⟩
      · exact absurd held (h.not_held .clixonSnmp hsub sub hmem program)

omit h

theorem launches_later {freed : UInt32 → Prop} (later : Later freed w.children w'.children) :
    w'.launches = w.launches := later.map_what

theorem subagents_later {freed : UInt32 → Prop} (later : Later freed w.children w'.children) :
    w'.subagents = w.subagents := by
  rw [Agents.subagents, launches_later later]
  rfl

theorem Agents.Unobserved.before {freed : UInt32 → Prop} (h : w'.Unobserved)
    (later : Later freed w.children w'.children) : w.Unobserved := by
  obtain ⟨agent', hmem', held, program, hnil⟩ := h
  obtain ⟨agent, hmem, aged⟩ := later.exists_before hmem'
  refine ⟨agent, hmem, aged.held held, aged.what ▸ program, ?_⟩
  refine List.eq_nil_iff_forall_not_mem.mpr fun n hn => ?_
  have hn' := aged.notes n hn
  rw [hnil] at hn'
  cases hn'

end Supervision

section Stages
variable (paths : SnmpPaths) (texts : Nat → String) {s s' : Snmpd} {w w' : Agents}

/-- What may have changed between two states is that processes have exited. -/
structure Faded (s : Snmpd) (w : Agents) (s' : Snmpd) (w' : Agents) : Prop where
  conf : s'.conf = s.conf
  subagents : w'.subagents = w.subagents
  before : ∀ c' ∈ w'.children.table, ∃ c ∈ w.children.table, FateOnly c c'

theorem Faded.refl (s : Snmpd) (w : Agents) : Faded s w s w :=
  ⟨rfl, rfl, fun c hc => ⟨c, hc, FateOnly.refl c⟩⟩

theorem Faded.trans {s'' : Snmpd} {w'' : Agents} (h : Faded s w s' w') (g : Faded s' w' s'' w'') :
    Faded s w s'' w'' where
  conf := g.conf.trans h.conf
  subagents := g.subagents.trans h.subagents
  before c'' hc'' := by
    obtain ⟨c', hc', only'⟩ := g.before c'' hc''
    obtain ⟨c, hc, only⟩ := h.before c' hc'
    exact ⟨c, hc, only.trans only'⟩

/-- Whether the socket was seen is a matter of the start of snmpd, if that is still there. -/
theorem Faded.unobserved_iff (faded : Faded s w s' w') (h : Attended s w) (h' : Attended s' w')
    (hagent : s'.snmpd ≠ none) : w'.Unobserved ↔ w.Unobserved := by
  have hmatch : ∀ c' ∈ w'.children.table, c'.Held → c'.what.program = .snmpd →
      ∃ c ∈ w.children.table, c.Held ∧ c.what.program = .snmpd ∧ c'.notes = c.notes := by
    intro c' hc' held program
    obtain ⟨c, hc, only⟩ := faded.before c' hc'
    have hheld := only.held held
    rw [only.eq] at program ⊢
    exact ⟨c, hc, hheld, program, rfl⟩
  constructor
  · rintro ⟨agent', hmem, held, program, hnil⟩
    obtain ⟨agent, hmem, held, program, hnotes⟩ := hmatch agent' hmem held program
    exact ⟨agent, hmem, held, program, hnotes ▸ hnil⟩
  · rintro ⟨agent, hmem, held, program, hnil⟩
    obtain ⟨pid, hpid⟩ := Option.ne_none_iff_exists'.mp hagent
    obtain ⟨agent', hmem', held', program', -⟩ := h'.tracks.present .snmpd pid hpid
    obtain ⟨c, hc, hheld, hprogram, hnotes⟩ := hmatch agent' hmem' held' program'
    have hsame := h.tracks.unique hc hmem hheld held (hprogram.trans program.symm)
    exact ⟨agent', hmem', held', program', by rw [hnotes, hsame, hnil]⟩

theorem forgetExited_attended (h : Attended s w) (program : SnmpProgram) :
    ∃ events s' w', Snmpd.forgetExited (snmpAgents paths texts) program (s, w) =
        (.ok events, s', w') ∧ Attended s' w' ∧ Faded s w s' w' ∧
      w' = (w.poll (s.slot program)).2 ∧
      s' = if (w.poll (s.slot program)).1 then s else s.setSlot program none := by
  cases hslot : s.slot program with
  | none =>
    refine ⟨[], s, w, by simp only [Snmpd.forgetExited, hslot], h, Faded.refl s w, rfl, ?_⟩
    cases program <;> cases s <;> cases hslot <;> rfl
  | some pid =>
    have hbefore := running_fateOnly pid w.children
    rcases running_cases pid w.children with ⟨w₁, hrun, quiet⟩ | ⟨w₁, hrun, later, freed⟩
    · rw [hrun] at hbefore
      refine ⟨[], s, { w with children := w₁ }, ?_, h.quiet quiet,
        ⟨rfl, subagents_later quiet, hbefore⟩, ?_⟩
      · simp only [Snmpd.forgetExited, hslot, snmpAgents, hrun]
      · simp only [Agents.poll, hrun, if_true, and_self]
    · rw [hrun] at hbefore
      refine ⟨[.exited program pid], s.setSlot program none, { w with children := w₁ }, ?_,
        h.released hslot later freed, ⟨?_, subagents_later later, hbefore⟩, ?_⟩
      · simp only [Snmpd.forgetExited, hslot, snmpAgents, hrun]
      · cases program <;> rfl
      · simp only [Agents.poll, hrun, Bool.false_eq_true, if_false, and_self]

theorem stopProgram_attended (h : Attended s w) (program : SnmpProgram) :
    ∃ events s' w', Snmpd.stopProgram (snmpAgents paths texts) program (s, w) =
        (.ok events, s', w') ∧ Attended s' w' ∧ w'.subagents = w.subagents ∧
      s' = s.setSlot program none := by
  cases hslot : s.slot program with
  | none =>
    refine ⟨[], s, w, by simp only [Snmpd.stopProgram, hslot], h, rfl, ?_⟩
    cases program <;> cases s <;> cases hslot <;> rfl
  | some pid =>
    have later : Later (· = pid) w.children ((snmpAgents paths texts).stop pid w).children :=
      later_stop pid w.children
    exact ⟨[.stopped program pid], _, _, by simp only [Snmpd.stopProgram, hslot],
      h.released hslot later fun _ hc => not_held_of_release hc, subagents_later later, rfl⟩

/-- Both processes are stopped and nothing is recorded. -/
theorem stop_attended (h : Attended s w) :
    ∃ events w', Snmpd.stop (snmpAgents paths texts) (s, w) = (.ok events, {}, w') ∧
      Attended {} w' ∧ w'.subagents = w.subagents := by
  obtain ⟨subagent, s₁, w₁, hsub, h₁, hs₁, rfl⟩ :=
    stopProgram_attended paths texts h .clixonSnmp
  obtain ⟨agent, s₂, w₂, hagent, h₂, hs₂, rfl⟩ :=
    stopProgram_attended paths texts h₁ .snmpd
  refine ⟨subagent ++ agent, w₂, ?_, h₂.setConf rfl none, hs₂.trans hs₁⟩
  simp only [Snmpd.stop, Failing.bind_apply, hsub, hagent]
  rfl

end Stages

section Starting
variable (paths : SnmpPaths) (texts : Nat → String) {s : Snmpd} {w : Agents} {conf : String}
  {started : List Launch}

/-- The processes are attended to, and clixon_snmp was started as `started` says. -/
def Calm (started : List Launch) (p : Snmpd × Agents) : Prop :=
  Attended p.1 p.2 ∧ p.2.subagents = started

theorem Calm.quiet (h : Calm started (s, w)) {w' : Agents} (quiet : Quiet w.children w'.children) :
    Calm started (s, w') := ⟨h.1.quiet quiet, (subagents_later quiet).trans h.2⟩

/-- Nothing runs, and the configuration file holds `conf`. -/
def Written (started : List Launch) (conf : String) (p : Snmpd × Agents) : Prop :=
  Calm started p ∧ p.1 = {} ∧ p.2.confFile = some conf

theorem answer_quiet (w : Agents) : Quiet w.children w.answer.2.children :=
  quiet_answer w.children

theorem writeConf_triple :
    Failing.Triple (fun p => Calm started p ∧ p.1 = {})
      (Snmpd.onFile ((snmpAgents paths texts).writeConf conf) "cannot write" paths.confFile)
      (fun _ => Written started conf) (Calm started) := by
  rintro ⟨s, w⟩ ⟨hcalm, rfl⟩
  have hcalm' := hcalm.quiet (answer_quiet w)
  cases hanswer : w.answer with
  | mk ok w₁ =>
    rw [hanswer] at hcalm'
    cases ok <;> simp only [Snmpd.onFile, snmpAgents, Agents.writeConf, hanswer]
    · exact ⟨nofun, fun _ _ h => by cases h; exact hcalm'⟩
    · refine ⟨fun _ _ h => ?_, nofun⟩
      cases h
      exact ⟨⟨hcalm'.1.quiet (Later.refl _ _), hcalm'.2⟩, rfl, rfl⟩

theorem fileCall_triple (what path : String) :
    Failing.Triple (Written started conf) (Snmpd.onFile Agents.fileCall what path)
      (fun _ => Written started conf) (Calm started) := by
  rintro ⟨s, w⟩ ⟨hcalm, rfl, hfile⟩
  have hcalm' := hcalm.quiet (answer_quiet w)
  have hfile' : w.answer.2.confFile = some conf := hfile
  cases hanswer : w.answer with
  | mk ok w₁ =>
    rw [hanswer] at hcalm' hfile'
    cases ok <;> simp only [Snmpd.onFile, Agents.fileCall, hanswer]
    · exact ⟨nofun, fun _ _ h => by cases h; exact hcalm'⟩
    · exact ⟨fun _ _ h => by cases h; exact ⟨hcalm', rfl, hfile'⟩, nofun⟩

theorem prepareFiles_triple :
    Failing.Triple (fun p => Calm started p ∧ p.1 = {})
      (Snmpd.prepareFiles (snmpAgents paths texts) conf)
      (fun _ => Written started conf) (Calm started) := by
  refine Failing.triple_bind (writeConf_triple paths texts) fun _ => ?_
  refine Failing.triple_bind (fileCall_triple _ _) fun _ => ?_
  have hanswer : ∀ w, Written started conf (({} : Snmpd), w) →
      Written started conf (({} : Snmpd), w.answer.2) := by
    rintro w ⟨hcalm, hempty, hfile⟩
    exact ⟨hcalm.quiet (answer_quiet w), hempty, hfile⟩
  have hread : Failing.Triple (Written started conf)
      (Snmpd.readPersistent (snmpAgents paths texts)) (fun _ => Written started conf)
      (Calm started) := by
    rintro ⟨s, w⟩ hwritten
    obtain rfl : s = {} := hwritten.2.1
    refine ⟨fun _ _ h => ?_, nofun⟩
    have hanswer' := hanswer w hwritten
    simp only [Snmpd.readPersistent, snmpAgents, Agents.readPersistent] at h
    cases hw : w.answer with
    | mk ok w₁ =>
      rw [hw] at hanswer'
      cases ok <;> (simp only [hw] at h; cases h; exact hanswer')
  have hremove : Failing.Triple (Written started conf)
      (Snmpd.removeSocket (snmpAgents paths texts)) (fun _ => Written started conf)
      (Calm started) := by
    rintro ⟨s, w⟩ hwritten
    obtain rfl : s = {} := hwritten.2.1
    refine ⟨fun _ _ h => ?_, nofun⟩
    cases h
    exact hanswer w hwritten
  refine Failing.triple_bind hread fun text => ?_
  cases text with
  | none => exact hremove
  | some text => exact Failing.triple_bind (fileCall_triple _ _) fun _ => hremove

/-- snmpd was just started with `conf`, and clixon_snmp does not run. -/
def Launched (started : List Launch) (conf : String) (pid : UInt32) (p : Snmpd × Agents) : Prop :=
  Calm started p ∧ p.1 = ⟨some pid, none, some conf⟩

theorem launchAgent_triple :
    Failing.Triple (Written started conf)
      (Snmpd.launch (snmpAgents paths texts) .snmpd
        fun pid s => { s with snmpd := some pid, conf := some conf })
      (Launched started conf) (Calm started) := by
  rintro ⟨s, children, confFile⟩ ⟨hcalm, rfl, rfl⟩
  rcases spawn_cases ⟨.snmpd, some conf, Agents.agentObserved ⟨children, some conf⟩⟩ children with
    ⟨e, w₁, hspawn, quiet⟩ | ⟨pid, w₁, hspawn, quiet, fresh⟩
  · simp only [Snmpd.launch, snmpAgents, Agents.spawn, hspawn]
    exact ⟨nofun, fun _ _ h => by cases h; exact hcalm.quiet quiet⟩
  · simp only [Snmpd.launch, snmpAgents, Agents.spawn, hspawn]
    refine ⟨fun _ _ h => ?_, nofun⟩
    cases h
    have hquiet : Calm started (({} : Snmpd), ⟨w₁, some conf⟩) := hcalm.quiet quiet
    exact ⟨⟨hquiet.1.startedAgent rfl rfl _ fresh, hquiet.2⟩, rfl⟩

theorem note_observed (w : Children Launch Unit) (confFile : Option String) :
    ¬ Agents.Unobserved ⟨w.note Agents.isAgent (), confFile⟩ := by
  rintro ⟨agent, hmem, held, program, hnil⟩
  obtain ⟨c, -, rfl⟩ := List.mem_map.mp hmem
  unfold addNote at held program hnil
  split at hnil
  · cases hnil
  · next h =>
    rw [if_neg h] at held program
    exact h (by simp [Agents.isAgent, program, Child.Held] at held ⊢; exact held)

theorem Launched.quiet {pid : UInt32} (h : Launched started conf pid (s, w)) {w' : Agents}
    (quiet : Quiet w.children w'.children) : Launched started conf pid (s, w') :=
  ⟨h.1.quiet quiet, h.2⟩

/-- One poll sees the socket, finds that snmpd has exited, or finds it running. -/
theorem poll_cases {pid : UInt32} (h : Launched started conf pid (s, w)) :
    (∃ w', (snmpAgents paths texts).socketExists w = (true, w') ∧
        Launched started conf pid (s, w') ∧ ¬ w'.Unobserved) ∨
      ∃ w₁, (snmpAgents paths texts).socketExists w = (false, w₁) ∧
        ((∃ w₂, (snmpAgents paths texts).running pid w₁ = (false, w₂) ∧
            Calm started ({ s with snmpd := none, conf := none }, w₂)) ∨
          ∃ w₂ late w₃, (snmpAgents paths texts).running pid w₁ = (true, w₂) ∧
            (snmpAgents paths texts).expired w₂ = (late, w₃) ∧
            Launched started conf pid (s, w₃)) := by
  have h₁ := h.quiet (answer_quiet w)
  cases hanswer : w.answer with
  | mk seen w₁ =>
    rw [hanswer] at h₁
    cases seen with
    | true =>
      refine Or.inl ⟨_, by simp only [snmpAgents, Agents.socketExists, hanswer],
        h₁.quiet (quiet_note _ _ _), note_observed w₁.children w₁.confFile⟩
    | false =>
      refine Or.inr ⟨w₁, by simp only [snmpAgents, Agents.socketExists, hanswer], ?_⟩
      rcases running_cases pid w₁.children with ⟨w₂, hrun, quiet⟩ | ⟨w₂, hrun, later, freed⟩
      · refine Or.inr ⟨{ w₁ with children := w₂ }, _, _, by simp only [snmpAgents, hrun], rfl, ?_⟩
        have h₂ : Launched started conf pid (s, { w₁ with children := w₂ }) := h₁.quiet quiet
        exact h₂.quiet (answer_quiet _)
      · refine Or.inl ⟨{ w₁ with children := w₂ }, by simp only [snmpAgents, hrun], ?_⟩
        have hs : s = ⟨some pid, none, some conf⟩ := h₁.2
        have hslot : s.slot .snmpd = some pid := by
          rw [hs]
          rfl
        have hreleased : Attended (s.setSlot .snmpd none) { w₁ with children := w₂ } :=
          h₁.1.1.released hslot later freed
        exact ⟨hreleased.setConf rfl none, (subagents_later later).trans h₁.1.2⟩

/-- The wait ends with a socket, without snmpd or with one that was too slow. -/
theorem waitSocket_triple (pid : UInt32) (polls : Nat) :
    Failing.Triple (Launched started conf pid)
      (Snmpd.waitSocket (snmpAgents paths texts) pid polls)
      (fun _ p => Launched started conf pid p ∧ ¬ p.2.Unobserved) (Calm started) := by
  induction polls using Nat.strongRecOn with
  | ind polls ih =>
    rintro ⟨s, w⟩ h
    rw [Snmpd.waitSocket.eq_def]
    rcases poll_cases paths texts h with
      ⟨w', hseen, hdone⟩ | ⟨w₁, hunseen, ⟨w₂, hgone, hcalm⟩ | ⟨w₂, late, w₃, hrun, hlate, h₃⟩⟩
    · simp only [hseen]
      exact ⟨fun _ _ heq => by cases heq; exact hdone, nofun⟩
    · simp only [hunseen, hgone]
      exact ⟨nofun, fun _ _ heq => by cases heq; exact hcalm⟩
    · simp only [hunseen, hrun, hlate]
      split
      · next heq =>
        cases heq
        exact ih _ (Nat.lt_succ_self _) _ h₃
      · next heq _ =>
        cases heq
        exact ⟨nofun, fun _ _ heq => by cases heq; exact h₃.1⟩

theorem startSnmpd_triple (conf : String) :
    Failing.Triple (fun p => Calm started p ∧ p.1 = {})
      (Snmpd.startSnmpd (snmpAgents paths texts) conf)
      (fun events p => ∃ pid, events = [.started .snmpd pid] ∧ Launched started conf pid p ∧
        ¬ p.2.Unobserved) (Calm started) := by
  refine Failing.triple_bind (prepareFiles_triple paths texts) fun _ => ?_
  refine Failing.triple_bind (launchAgent_triple paths texts) fun pid => ?_
  refine Failing.triple_bind (waitSocket_triple paths texts pid _) fun _ => ?_
  exact Failing.triple_pure fun p hp => ⟨pid, rfl, hp⟩

/-- snmpd runs with `conf`. -/
def Serves (conf : String) (s : Snmpd) : Prop := s.snmpd ≠ none ∧ s.conf = some conf

/-- An snmpd that is not outdated stays as it is; any other is replaced by one whose
socket has been seen. -/
theorem restartIf_cases (h : Calm started (s, w)) (conf : String) :
    (Serves conf s ∧ Snmpd.restartIf (snmpAgents paths texts) conf (s, w) = (.ok [], s, w)) ∨
      ¬ Serves conf s ∧ ∃ result s' w', Snmpd.restartIf (snmpAgents paths texts) conf (s, w) = (result, s', w') ∧
        Calm started (s', w') ∧ ∀ events, result = .ok events →
          Serves conf s' ∧ s'.subagent = none ∧ ¬ w'.Unobserved := by
  have hserves : s.Outdated conf ↔ ¬ Serves conf s := by
    rw [Snmpd.Outdated, Serves, not_and_or, not_not]
  by_cases houtdated : s.Outdated conf
  · refine Or.inr ⟨hserves.mp houtdated, ?_⟩
    obtain ⟨stopped, w₁, hstop, h₁, hsame⟩ := stop_attended paths texts h.1
    have hcalm : Calm started (({} : Snmpd), w₁) := ⟨h₁, hsame.trans h.2⟩
    obtain ⟨hok, herror⟩ := startSnmpd_triple paths texts conf ({}, w₁) ⟨hcalm, rfl⟩
    simp only [Snmpd.restartIf, if_pos houtdated, Failing.bind_apply, hstop]
    cases hstart : Snmpd.startSnmpd (snmpAgents paths texts) conf ({}, w₁) with
    | mk result p =>
      obtain ⟨s₂, w₂⟩ := p
      cases result with
      | error e => exact ⟨_, _, _, rfl, herror e _ hstart, nofun⟩
      | ok events =>
        obtain ⟨pid, rfl, ⟨hcalm₂, hs₂⟩, hseen⟩ := hok events _ hstart
        refine ⟨_, _, _, rfl, hcalm₂, fun events' heq => ?_⟩
        cases heq
        have hs₂ : s₂ = ⟨some pid, none, some conf⟩ := hs₂
        subst hs₂
        exact ⟨⟨nofun, rfl⟩, rfl, hseen⟩
  · left
    exact ⟨not_not.mp (mt hserves.mpr houtdated), by simp only [Snmpd.restartIf, if_neg houtdated]⟩

/-- clixon_snmp keeps running, cannot be started, or is started; the start then says
whether the socket of snmpd has been seen. -/
theorem startSubagent_cases (h : Calm started (s, w)) (hagent : s.snmpd ≠ none) :
    (s.subagent ≠ none ∧ Snmpd.startSubagent (snmpAgents paths texts) (s, w) = (.ok [], s, w)) ∨
      (∃ e w', Snmpd.startSubagent (snmpAgents paths texts) (s, w) = (.error e, s, w') ∧
        Calm started (s, w') ∧ (w.spawn .clixonSnmp).1.isOk = false) ∨
      ∃ pid w' launch, Snmpd.startSubagent (snmpAgents paths texts) (s, w) =
          (.ok [.started .clixonSnmp pid], { s with subagent := some pid }, w') ∧
        Calm (launch :: started) ({ s with subagent := some pid }, w') ∧
        (launch.observed = true ↔ ¬ w.Unobserved) ∧ (w.spawn .clixonSnmp).1.isOk = true := by
  cases hsub : s.subagent with
  | some pid => exact Or.inl ⟨nofun, by simp only [Snmpd.startSubagent, hsub]⟩
  | none =>
    right
    have hobserved : w.agentObserved = true ↔ ¬ w.Unobserved := by
      obtain ⟨pid, hpid⟩ := Option.ne_none_iff_exists'.mp hagent
      obtain ⟨agent, hmem, held, program, -⟩ := h.1.tracks.present .snmpd pid hpid
      rw [agentObserved_iff h.1 hmem held program]
      refine not_congr ⟨fun hnil => ⟨agent, hmem, held, program, hnil⟩, ?_⟩
      rintro ⟨c, hc, hheld, hprogram, hnil⟩
      rwa [← h.1.tracks.unique hc hmem hheld held (hprogram.trans program.symm)]
    rcases spawn_cases ⟨.clixonSnmp, w.confFile, w.agentObserved⟩ w.children with
      ⟨e, w₁, hspawn, quiet⟩ | ⟨pid, w₁, hspawn, quiet, fresh⟩
    · refine Or.inl ⟨⟨s!"cannot start {SnmpProgram.name .clixonSnmp}: {e}"⟩,
        { w with children := w₁ }, ?_, h.quiet quiet, ?_⟩
      · simp only [Snmpd.startSubagent, hsub, Failing.bind_apply, Snmpd.launch, snmpAgents,
          Agents.spawn, hspawn]
      · simp only [Agents.spawn, hspawn]
        rfl
    · have hquiet : Calm started (s, { w with children := w₁ }) := h.quiet quiet
      refine Or.inr ⟨pid,
        { w with children := w₁.start pid ⟨.clixonSnmp, w.confFile, w.agentObserved⟩ },
        ⟨.clixonSnmp, w.confFile, w.agentObserved⟩, ?_, ⟨?_, ?_⟩, hobserved, ?_⟩
      · simp only [Snmpd.startSubagent, hsub, Failing.bind_apply, Snmpd.launch, snmpAgents,
          Agents.spawn, hspawn]
        rfl
      · refine hquiet.1.startedSubagent hsub fresh w.confFile fun hseen hunobserved => ?_
        exact hobserved.mp hseen (hunobserved.before quiet)
      · exact congrArg (List.cons _) hquiet.2
      · simp only [Agents.spawn, hspawn]
        rfl

end Starting

section Sync
variable (paths : SnmpPaths) (texts : Nat → String) {s : Snmpd} {w : Agents}
  {started : List Launch}

/-- The world as a call of `sync` leaves it when it has asked for both processes. -/
def Agents.polled (s : Snmpd) (w : Agents) : Agents := ((w.poll s.snmpd).2.poll s.subagent).2

theorem forgetBoth (h : Calm started (s, w)) :
    ∃ exited exited' s₁ w₁ s₂,
      Snmpd.forgetExited (snmpAgents paths texts) .snmpd (s, w) = (.ok exited, s₁, w₁) ∧
      Snmpd.forgetExited (snmpAgents paths texts) .clixonSnmp (s₁, w₁) =
        (.ok exited', s₂, w.polled s) ∧
      Calm started (s₂, w.polled s) ∧ Faded s w s₂ (w.polled s) ∧
      ((w.poll s.snmpd).1 = true ↔ s₂.snmpd ≠ none) := by
  obtain ⟨exited, s₁, w₁, hforget, h₁, faded, hw₁, hs₁⟩ := forgetExited_attended paths texts h.1 .snmpd
  obtain ⟨exited', s₂, w₂, hforget', h₂, faded', hw₂, hs₂⟩ :=
    forgetExited_attended paths texts h₁ .clixonSnmp
  have hsub : s₁.slot .clixonSnmp = s.subagent := by
    rw [hs₁]
    split <;> rfl
  have hagent : s₂.snmpd = s₁.snmpd := by
    rw [hs₂]
    split <;> rfl
  obtain rfl : w₂ = w.polled s := by rw [hw₂, hsub, hw₁]; rfl
  have hfaded := faded.trans faded'
  refine ⟨exited, exited', s₁, w₁, s₂, hforget, hforget', ⟨h₂, hfaded.subagents.trans h.2⟩,
    hfaded, ?_⟩
  rw [hagent, hs₁]
  change _ ↔ Snmpd.snmpd (if (w.poll s.snmpd).1 then s else _) ≠ none
  cases hslot : s.snmpd with
  | none => simp [Agents.poll, Snmpd.setSlot]
  | some pid => cases hpoll : (w.poll (some pid)).1 <;> simp [hslot, Snmpd.setSlot]

/-- Without a configuration nothing is left that holds its pid. -/
theorem sync_none (h : Calm started (s, w)) :
    ∃ events w', Snmpd.sync (snmpAgents paths texts) none (s, w) = (.ok events, {}, w') ∧
      Calm started (({} : Snmpd), w') := by
  obtain ⟨exited, exited', s₁, w₁, s₂, hforget, hforget', h₂, -, -⟩ := forgetBoth paths texts h
  obtain ⟨stopped, w₃, hstop, h₃, hsame⟩ := stop_attended paths texts h₂.1
  refine ⟨exited ++ exited' ++ stopped, w₃, ?_, h₃, hsame.trans h₂.2⟩
  simp only [Snmpd.sync, Failing.bind_apply, hforget, hforget', hstop]
  rfl

/-- The recorded snmpd has the configuration and still runs when a call of `sync` asks, and
clixon_snmp can be spawned then. -/
structure Joinable (conf : String) (s : Snmpd) (w : Agents) : Prop where
  same : s.conf = some conf
  runs : (w.poll s.snmpd).1 = true
  spawns : ((w.polled s).spawn .clixonSnmp).1.isOk = true

/-- What a call of `sync` with a configuration can do. -/
inductive SyncOutcome (started : List Launch) (conf : String) (s : Snmpd) (w : Agents) :
    Except NetError (List SnmpEvent) → Snmpd → Agents → Prop where
  | failed (e : NetError) (s' : Snmpd) (w' : Agents) (calm : Calm started (s', w'))
      (refused : ¬ Joinable conf s w) : SyncOutcome started conf s w (.error e) s' w'
  /-- Both processes run on. -/
  | kept (events : List SnmpEvent) (s' : Snmpd) (w' : Agents) (calm : Calm started (s', w'))
      (serves : Serves conf s') (sub : s'.subagent ≠ none) (faded : Faded s w s' w') :
      SyncOutcome started conf s w (.ok events) s' w'
  /-- snmpd runs on and clixon_snmp is started. -/
  | joined (events : List SnmpEvent) (s' : Snmpd) (w' : Agents) (launch : Launch)
      (calm : Calm (launch :: started) (s', w')) (serves : Serves conf s')
      (sub : s'.subagent ≠ none) (observed : launch.observed = true ↔ ¬ w.Unobserved)
      (joinable : Joinable conf s w) : SyncOutcome started conf s w (.ok events) s' w'
  /-- Both are started. -/
  | restarted (events : List SnmpEvent) (s' : Snmpd) (w' : Agents) (launch : Launch)
      (calm : Calm (launch :: started) (s', w')) (serves : Serves conf s')
      (sub : s'.subagent ≠ none) (observed : launch.observed = true)
      (outdated : ¬ Joinable conf s w) : SyncOutcome started conf s w (.ok events) s' w'

theorem sync_some (h : Calm started (s, w)) (conf : String) :
    ∃ result s' w', Snmpd.sync (snmpAgents paths texts) (some conf) (s, w) = (result, s', w') ∧
      SyncOutcome started conf s w result s' w' := by
  obtain ⟨exited, exited', s₁, w₁, s₂, hforget, hforget', h₂, faded, hruns⟩ :=
    forgetBoth paths texts h
  simp only [Snmpd.sync, Failing.bind_apply, hforget, hforget']
  rcases restartIf_cases paths texts h₂ conf with
    ⟨hserves, hrestart⟩ | ⟨hnot, result, s₃, w₃, hrestart, h₃, hok⟩
  · simp only [hrestart]
    have hseen := faded.unobserved_iff h.1 h₂.1 hserves.1
    rcases startSubagent_cases paths texts h₂ hserves.1 with
      ⟨hsub, hstart⟩ | ⟨e, w', hstart, hcalm, hfails⟩ |
      ⟨pid, w', launch, hstart, hcalm, hobserved, hspawns⟩
    · simp only [hstart]
      exact ⟨_, _, _, rfl, .kept _ _ _ h₂ hserves hsub faded⟩
    · simp only [hstart]
      refine ⟨_, _, _, rfl, .failed _ _ _ hcalm fun joinable => ?_⟩
      rw [joinable.spawns] at hfails
      cases hfails
    · simp only [hstart]
      refine ⟨_, _, _, rfl, .joined _ _ _ launch hcalm hserves nofun (by rw [hobserved, hseen]) ?_⟩
      exact ⟨faded.conf.symm.trans hserves.2, hruns.mpr hserves.1, hspawns⟩
  · simp only [hrestart]
    have houtdated : ¬ Joinable conf s w := fun joinable =>
      hnot ⟨hruns.mp joinable.runs, faded.conf.trans joinable.same⟩
    cases result with
    | error e => exact ⟨_, _, _, rfl, .failed _ _ _ h₃ houtdated⟩
    | ok events =>
      obtain ⟨hserves, hsub, hseen⟩ := hok events rfl
      rcases startSubagent_cases paths texts h₃ hserves.1 with
        ⟨hsub', -⟩ | ⟨e, w', hstart, hcalm, -⟩ | ⟨pid', w', launch, hstart, hcalm, hobserved, -⟩
      · exact absurd hsub hsub'
      · simp only [hstart]
        exact ⟨_, _, _, rfl, .failed _ _ _ hcalm houtdated⟩
      · simp only [hstart]
        exact ⟨_, _, _, rfl, .restarted _ _ _ launch hcalm hserves nofun (hobserved.mpr hseen)
          houtdated⟩

theorem SyncOutcome.attended {conf : String} {result : Except NetError (List SnmpEvent)}
    {s' : Snmpd} {w' : Agents} (h : SyncOutcome started conf s w result s' w') :
    Attended s' w' := by
  cases h with
  | failed _ _ _ calm => exact calm.1
  | kept _ _ _ calm => exact calm.1
  | joined _ _ _ _ calm => exact calm.1
  | restarted _ _ _ _ calm => exact calm.1

theorem SyncOutcome.serves {conf : String} {events : List SnmpEvent} {s' : Snmpd} {w' : Agents}
    (h : SyncOutcome started conf s w (.ok events) s' w') :
    Serves conf s' ∧ s'.subagent ≠ none := by
  cases h with
  | kept _ _ _ _ serves sub => exact ⟨serves, sub⟩
  | joined _ _ _ _ _ serves sub => exact ⟨serves, sub⟩
  | restarted _ _ _ _ _ serves sub => exact ⟨serves, sub⟩

end Sync

section Runs
variable (paths : SnmpPaths) (texts : Nat → String)

/-- What happens in a run; between the calls, time passes. -/
inductive SnmpStep where
  | sync (conf : Option String)
  | idle

def SnmpStep.exec : SnmpStep → Snmpd × Agents → Snmpd × Agents
  | .sync conf, p => (Snmpd.sync (snmpAgents paths texts) conf p).2
  | .idle, (s, w) => (s, { w with children := w.children.tick })

/-- The agent after a run from the start of the plugin. -/
def snmpRun (oracle : Oracle) (steps : List SnmpStep) : Snmpd × Agents :=
  steps.foldl (fun p step => step.exec paths texts p) ({}, { children := { oracle } })

theorem SnmpStep.attended (step : SnmpStep) {p : Snmpd × Agents} (h : Attended p.1 p.2) :
    Attended (step.exec paths texts p).1 (step.exec paths texts p).2 := by
  obtain ⟨s, w⟩ := p
  cases step with
  | idle => exact Attended.quiet h (quiet_tick w.children)
  | sync conf =>
    have hcalm : Calm w.subagents (s, w) := ⟨h, rfl⟩
    cases conf with
    | none =>
      obtain ⟨_, _, hcall, h'⟩ := sync_none paths texts hcalm
      simp only [exec, hcall]
      exact h'.1
    | some conf =>
      obtain ⟨_, _, _, hcall, h'⟩ := sync_some paths texts hcalm conf
      simp only [exec, hcall]
      exact h'.attended

theorem snmpRun_attended (oracle : Oracle) (steps : List SnmpStep) :
    Attended (snmpRun paths texts oracle steps).1 (snmpRun paths texts oracle steps).2 := by
  have hstart : Attended {} { children := { oracle } } := by
    refine ⟨⟨⟨nofun, List.Pairwise.nil, nofun⟩, fun k pid h => ?_⟩, nofun, nofun, nofun⟩
    cases k <;> cases h
  induction steps using List.reverseRecOn with
  | nil => exact hstart
  | append_singleton steps step ih =>
    rw [snmpRun, List.foldl_append]
    exact step.attended paths texts ih

/-- The recorded snmpd was started with `conf`, and the recorded clixon_snmp after it. -/
def Serving (conf : String) (s : Snmpd) (w : Agents) : Prop :=
  ∃ agent ∈ w.children.table, ∃ sub ∈ w.children.table,
    s.snmpd = some agent.pid ∧ agent.Held ∧ agent.what.program = .snmpd ∧
      agent.what.confFile = some conf ∧
    s.subagent = some sub.pid ∧ sub.Held ∧ sub.what.program = .clixonSnmp ∧
      agent.born < sub.born

theorem Attended.serving {s : Snmpd} {w : Agents} (h : Attended s w) {conf : String}
    (serves : Serves conf s) (hsub : s.subagent ≠ none) : Serving conf s w := by
  obtain ⟨pid, hpid⟩ := Option.ne_none_iff_exists'.mp serves.1
  obtain ⟨pid', hpid'⟩ := Option.ne_none_iff_exists'.mp hsub
  obtain ⟨agent, hagent, held, program, rfl⟩ := h.tracks.present .snmpd pid hpid
  obtain ⟨sub, hsub, held', program', rfl⟩ := h.tracks.present .clixonSnmp pid' hpid'
  refine ⟨agent, hagent, sub, hsub, hpid, held, program, ?_, hpid', held', program', ?_⟩
  · rw [← h.conf agent hagent held program, serves.2]
  · exact (h.order sub hsub held' program' agent hagent held program).1

/-- What holds of the processes at any point of a run, and after a call of `sync` there. -/
structure RunsConfigured (s : Snmpd) (w : Agents) : Prop where
  /-- At no point so far, also within calls, did two processes of one program run. -/
  atMostOne : ∀ t ∈ w.children.table :: w.children.points, AtMostOne Launch.program t
  recorded : ∀ child ∈ w.children.table, child.fate = .running →
    s.slot child.what.program = some child.pid
  serving : ∀ conf events s' w',
    Snmpd.sync (snmpAgents paths texts) (some conf) (s, w) = (.ok events, s', w') →
      Serving conf s' w'
  stopped : ∀ result s' w', Snmpd.sync (snmpAgents paths texts) none (s, w) = (result, s', w') →
    ∀ child ∈ w'.children.table, child.fate ≠ .running

theorem snmpRun_runs_configured (oracle : Oracle) (steps : List SnmpStep) :
    RunsConfigured paths texts (snmpRun paths texts oracle steps).1
      (snmpRun paths texts oracle steps).2 := by
  have h := snmpRun_attended paths texts oracle steps
  have hcalm : Calm _ ((snmpRun paths texts oracle steps).1, (snmpRun paths texts oracle steps).2) :=
    ⟨h, rfl⟩
  refine ⟨h.tracks.everyPoint, fun child hchild hrun => ?_, fun conf events s' w' hcall => ?_,
    fun result s' w' hcall child hchild hrun => ?_⟩
  · exact h.tracks.recorded child hchild (held_of_running hrun)
  · obtain ⟨_, _, _, hcall', houtcome⟩ := sync_some paths texts hcalm conf
    rw [hcall] at hcall'
    cases hcall'
    obtain ⟨hserves, hsub⟩ := houtcome.serves
    exact houtcome.attended.serving hserves hsub
  · obtain ⟨_, _, hcall', hempty⟩ := sync_none paths texts hcalm
    rw [hcall] at hcall'
    cases hcall'
    have hheld := hempty.1.tracks.recorded child hchild (held_of_running hrun)
    cases hprogram : child.what.program <;> rw [hprogram] at hheld <;> cases hheld

end Runs

section Socket
variable (paths : SnmpPaths) (texts : Nat → String)

/-- Each clixon_snmp was started after the socket of snmpd had been seen. -/
def SocketFirst (w : Agents) : Prop := ∀ launch ∈ w.subagents, launch.observed = true

/-- The recorded snmpd was started with `conf` and its socket has not been seen since, and
the world answers a call for `conf` with an snmpd that still runs and a clixon_snmp that can
be spawned. -/
def RetriesUnseen (conf : String) (p : Snmpd × Agents) : Prop :=
  p.2.Unobserved ∧ Joinable conf p.1 p.2

theorem socketFirst_cons {launch : Launch} {started : List Launch} {s : Snmpd} {w : Agents}
    (h : Calm (launch :: started) (s, w)) :
    SocketFirst w ↔ launch.observed = true ∧ ∀ l ∈ started, l.observed = true := by
  have hstarted : w.subagents = launch :: started := h.2
  rw [SocketFirst, hstarted, List.forall_mem_cons]

theorem socketFirst_same {w₀ w : Agents} {s : Snmpd} (h : Calm w₀.subagents (s, w)) :
    SocketFirst w ↔ SocketFirst w₀ := by
  have hstarted : w.subagents = w₀.subagents := h.2
  rw [SocketFirst, hstarted]
  rfl

/-- If clixon_snmp runs on after a start that saw the socket, then snmpd does too. -/
theorem SocketFirst.not_unobserved {s : Snmpd} {w : Agents} (h : SocketFirst w)
    (attended : Attended s w) (hsub : s.subagent ≠ none) : ¬ w.Unobserved := by
  rintro ⟨agent, hagent, held, program, hnil⟩
  obtain ⟨pid, hpid⟩ := Option.ne_none_iff_exists'.mp hsub
  obtain ⟨sub, hmem, held', program', -⟩ := attended.tracks.present .clixonSnmp pid hpid
  have hobserved : sub.what.observed = true := by
    refine h sub.what (List.mem_filter.mpr ⟨List.mem_map_of_mem hmem, ?_⟩)
    simpa using program'
  exact (attended.order sub hmem held' program' agent hagent held program).2 hobserved hnil

theorem sync_socketFirst_iff {s : Snmpd} {w : Agents} (h : Attended s w) (conf : String) :
    SocketFirst (Snmpd.sync (snmpAgents paths texts) (some conf) (s, w)).2.2 ↔
      SocketFirst w ∧ ¬ RetriesUnseen conf (s, w) := by
  have hcalm : Calm w.subagents (s, w) := ⟨h, rfl⟩
  obtain ⟨result, s', w', hcall, houtcome⟩ := sync_some paths texts hcalm conf
  rw [RetriesUnseen, hcall]
  cases houtcome with
  | failed e s' w' calm refused => simp [socketFirst_same calm, refused]
  | kept events s' w' calm serves sub faded =>
    rw [socketFirst_same calm]
    refine ⟨fun hfirst => ⟨hfirst, ?_⟩, And.left⟩
    rintro ⟨hunobserved, -⟩
    refine SocketFirst.not_unobserved ((socketFirst_same calm).mpr hfirst) calm.1 sub ?_
    exact (faded.unobserved_iff h calm.1 serves.1).mpr hunobserved
  | joined events s' w' launch calm serves sub observed joinable =>
    rw [socketFirst_cons calm, observed, and_comm, and_iff_left joinable]
    rfl
  | restarted events s' w' launch calm serves sub observed outdated =>
    rw [socketFirst_cons calm, and_iff_right observed]
    exact (and_iff_left fun h => outdated h.2).symm

theorem SnmpStep.socketFirst_iff (step : SnmpStep) {p : Snmpd × Agents} (h : Attended p.1 p.2) :
    SocketFirst (step.exec paths texts p).2 ↔
      SocketFirst p.2 ∧ ∀ conf, step = .sync (some conf) → ¬ RetriesUnseen conf p := by
  obtain ⟨s, w⟩ := p
  have hcalm : Calm w.subagents (s, w) := ⟨h, rfl⟩
  cases step with
  | idle =>
    have hidle : Calm w.subagents (s, { w with children := w.children.tick }) :=
      hcalm.quiet (quiet_tick w.children)
    rw [SnmpStep.exec, socketFirst_same hidle]
    exact ⟨fun hfirst => ⟨hfirst, nofun⟩, And.left⟩
  | sync conf =>
    cases conf with
    | none =>
      obtain ⟨_, _, hcall, h'⟩ := sync_none paths texts hcalm
      rw [SnmpStep.exec, hcall, socketFirst_same h']
      exact ⟨fun hfirst => ⟨hfirst, nofun⟩, And.left⟩
    | some conf =>
      rw [SnmpStep.exec, sync_socketFirst_iff paths texts h conf]
      refine and_congr_right fun _ => ⟨fun hnot conf' heq => ?_, fun hall => hall conf rfl⟩
      cases heq
      exact hnot

/-- clixon_snmp is started only once the socket of snmpd has been seen, exactly in the
runs in which no call for the configuration of an snmpd that was slow to open it finds that
snmpd running and a clixon_snmp to be spawned. -/
theorem snmpRun_socket_first_iff (oracle : Oracle) (steps : List SnmpStep) :
    SocketFirst (snmpRun paths texts oracle steps).2 ↔
      ∀ before conf, before ++ [.sync (some conf)] <+: steps →
        ¬ RetriesUnseen conf (snmpRun paths texts oracle before) := by
  induction steps using List.reverseRecOn with
  | nil => simp [SocketFirst, snmpRun, Agents.subagents, Agents.launches]
  | append_singleton steps step ih =>
    have hrun : snmpRun paths texts oracle (steps ++ [step]) =
        step.exec paths texts (snmpRun paths texts oracle steps) := by
      rw [snmpRun, List.foldl_append]
      rfl
    rw [hrun, step.socketFirst_iff paths texts (snmpRun_attended paths texts oracle steps), ih]
    constructor
    · rintro ⟨hbefore, hlast⟩ before conf hinitial
      rcases List.prefix_concat_iff.mp hinitial with heq | hinitial
      · obtain ⟨rfl, hstep⟩ := List.append_inj' heq rfl
        exact hlast conf (List.singleton_injective hstep).symm
      · exact hbefore before conf hinitial
    · intro hall
      refine ⟨fun before conf hinitial => ?_, fun conf heq => ?_⟩
      · exact hall before conf (hinitial.trans (List.prefix_append _ _))
      · subst heq
        exact hall steps conf List.prefix_rfl

/-- The socket does not exist at the seventh call, the only poll before the deadline. -/
def slowSocket : Oracle where
  answers n := n ≠ 7

def somePaths : SnmpPaths := ⟨"/run/snmpd.conf", "/var/lib/snmp", "/var/lib/snmp/snmpd.conf",
  "/run/agentx.sock"⟩

/-- A configuration is tried again after its start took too long: clixon_snmp is started
although the socket has never been seen. -/
theorem retry_starts_before_socket :
    ¬ SocketFirst (snmpRun somePaths (fun _ => "") slowSocket
      [.sync (some "agent"), .sync (some "agent")]).2 := by
  unfold SocketFirst
  decide +kernel

end Socket

end ClixonSwitch.Guarantees
