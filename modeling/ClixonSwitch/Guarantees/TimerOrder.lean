import ClixonSwitch.Guarantees.MstpdIncremental
import ClixonSwitch.Lib.NumberList
import ClixonSwitch.Source.SwitchModel.StpAccepted

/-!
# mstpd refuses no timer change

mstpd checks IEEE 802.1D 17.14 on every single change of a timer. The timer commands are
sent all together or not at all, with the longest forward delay first: it allows every
max age, the old one and the new one.
-/
namespace ClixonSwitch.Guarantees
open Lib Lib.Collect Lib.NumberList Source.SwitchModel
  ClixonSwitch.Source.SwitchNet

/-- The timers of mstpd's bridge, in seconds. -/
structure MstpdTimers where
  forwardDelay : Nat
  maxAge : Nat
  deriving DecidableEq

/-- Timers that mstpd has taken. -/
structure MstpdTimers.Valid (t : MstpdTimers) : Prop where
  forwardDelay : 4 ≤ t.forwardDelay ∧ t.forwardDelay ≤ 30
  maxAge : 6 ≤ t.maxAge ∧ t.maxAge ≤ 40
  related : t.maxAge ≤ 2 * (t.forwardDelay - 1)

/-- The effect of a command on the timers, as mstpctl reads its number. -/
def MstpdTimers.run (t : MstpdTimers) : Command → MstpdTimers
  | .set (.bridge .fdelay) [text] =>
    { t with forwardDelay := (Text.digits 10 text.toList).getD t.forwardDelay }
  | .set (.bridge .maxAge) [text] => { t with maxAge := (Text.digits 10 text.toList).getD t.maxAge }
  | _ => t

section Commands

def timerCommands (stp : Stp) : List Command :=
  [.set (.bridge .fdelay) [maxForwardDelay], .set (.bridge .maxAge) [toString stp.maxAge],
    .set (.bridge .fdelay) [toString stp.forwardDelay]]

theorem commands_timers (stp : Stp) (bridgeMac : String) :
    (commands stp bridgeMac).filter Command.isTimer = timerCommands stp := by
  have hnone : ∀ l : List Command, (∀ c ∈ l, c.isTimer = false) → l.filter Command.isTimer = [] := by
    intro l hl
    simpa using hl
  have hmapping : (mappingCommands stp).filter Command.isTimer = [] := by
    refine hnone _ fun c hc => ?_
    simp only [mappingCommands, List.mem_append, List.mem_map, List.mem_cons, List.not_mem_nil,
      or_false] at hc
    rcases hc with ⟨id, -, rfl⟩ | rfl | rfl <;> rfl
  have htrees : ((trees stp).map treeCommand).filter Command.isTimer = [] := by
    refine hnone _ fun c hc => ?_
    obtain ⟨e, -, rfl⟩ := List.mem_map.mp hc
    rfl
  have hports : (stp.ports.toList.flatMap fun e => portCommands stp e.1 e.2).filter
      Command.isTimer = [] := by
    refine hnone _ fun c hc => ?_
    obtain ⟨e, -, hc⟩ := List.mem_flatMap.mp hc
    simp only [portCommands, List.mem_cons, List.not_mem_nil, or_false] at hc
    rcases hc with rfl | rfl | rfl | rfl | rfl | rfl | rfl <;> rfl
  have htreePorts : ((trees stp).flatMap fun e => e.2.ports.toList.flatMap fun p =>
      treePortCommands e.1 p.1 p.2).filter Command.isTimer = [] := by
    refine hnone _ fun c hc => ?_
    obtain ⟨e, -, hc⟩ := List.mem_flatMap.mp hc
    obtain ⟨p, -, hc⟩ := List.mem_flatMap.mp hc
    simp only [treePortCommands, List.mem_cons, List.not_mem_nil, or_false] at hc
    rcases hc with rfl | rfl <;> rfl
  simp only [commands, List.filter_append, hmapping, htrees, hports, htreePorts, List.append_nil]
  rfl

/-- The timer commands are sent together or not at all. -/
theorem changedCommands_timers (previous : Option StpApplied) (stp : Stp) (bridgeMac : String) :
    (changedCommands previous (commands stp bridgeMac) stp).filter Command.isTimer = [] ∨
    (changedCommands previous (commands stp bridgeMac) stp).filter Command.isTimer =
      timerCommands stp := by
  let ran := (previous.map StpApplied.commands).getD []
  let changed := (commands stp bridgeMac).any fun c => c.isTimer && !ran.contains c
  have hgone : ∀ c : Command, (if c.isFid2mstid then (goneTrees previous stp).map .deleteTree
      else []).filter Command.isTimer = [] := by
    intro c
    split
    · simp [List.filter_map, Function.comp_def, Command.isTimer]
    · rfl
  have hkeep : ∀ c : Command, ((if !ran.contains c || (changed && c.isTimer) then [c] else []) ++
      if c.isFid2mstid then (goneTrees previous stp).map Command.deleteTree else []).filter
        Command.isTimer = [c].filter fun c => c.isTimer && (!ran.contains c || changed) := by
    intro c
    rw [List.filter_append, hgone, List.append_nil]
    rw [List.filter_singleton]
    cases hc : c.isTimer <;> cases ran.contains c <;> cases changed <;> simp [hc]
  have hsent : (changedCommands previous (commands stp bridgeMac) stp).filter Command.isTimer =
      (timerCommands stp).filter fun c => !ran.contains c || changed := by
    rw [← commands_timers stp bridgeMac, List.filter_filter, changedCommands, List.filter_flatMap]
    refine (congrArg (fun f => (commands stp bridgeMac).flatMap f) (funext hkeep)).trans ?_
    rw [← List.filter_flatMap, List.flatMap_singleton']
    simp only [Bool.and_comm]
  rw [hsent]
  cases hchanged : changed with
  | true => exact Or.inr (by simp)
  | false =>
    refine Or.inl (List.filter_eq_nil_iff.mpr fun c hc => ?_)
    rw [← commands_timers stp bridgeMac, List.mem_filter] at hc
    have hran := List.any_eq_false.mp hchanged c hc.1
    simp_all

theorem foldl_run_filter (cs : List Command) (t : MstpdTimers) :
    cs.foldl MstpdTimers.run t = (cs.filter Command.isTimer).foldl MstpdTimers.run t := by
  induction cs generalizing t with
  | nil => rfl
  | cons c rest ih =>
    rw [List.foldl_cons, ih, List.filter_cons]
    split
    · rfl
    · next hc =>
      have hrun : t.run c = t := by
        unfold MstpdTimers.run
        split <;> simp_all [Command.isTimer]
      rw [hrun]

theorem digits_toString (n : UInt8) : Text.digits 10 (toString n).toList = some n.toNat := by
  have htext : (toString n).toList = Nat.toDigits 10 n.toNat := Nat.toList_repr
  rw [htext, digits_toDigits]

end Commands

section Timers

/-- Initial parts of the timer commands, from timers that mstpd has taken. -/
theorem timerCommands_valid {stp : Stp} {t : MstpdTimers} (valid : t.Valid)
    (next : MstpdTimers.Valid ⟨stp.forwardDelay.toNat, stp.maxAge.toNat⟩) {pre : List Command}
    (hpre : pre <+: timerCommands stp) : (pre.foldl MstpdTimers.run t).Valid := by
  have hlongest : Text.digits 10 maxForwardDelay.toList = some 30 := by decide
  -- The longest forward delay, with the old max age and then with the new one.
  have hlong : ∀ age, 6 ≤ age ∧ age ≤ 40 → MstpdTimers.Valid ⟨30, age⟩ := by
    intro age h
    exact ⟨⟨by simp, by simp⟩, h, Nat.le_trans h.2 (by simp)⟩
  rcases List.prefix_cons_iff.mp hpre with rfl | ⟨pre₁, rfl, hpre₁⟩
  · exact valid
  rcases List.prefix_cons_iff.mp hpre₁ with rfl | ⟨pre₂, rfl, hpre₂⟩
  · simpa [MstpdTimers.run, hlongest] using hlong t.maxAge valid.maxAge
  rcases List.prefix_cons_iff.mp hpre₂ with rfl | ⟨pre₃, rfl, hpre₃⟩
  · simpa [MstpdTimers.run, hlongest, digits_toString] using hlong stp.maxAge.toNat next.maxAge
  · rw [List.prefix_nil.mp hpre₃]
    simpa [MstpdTimers.run, digits_toString] using next

theorem timersAccepted_valid {config : Option TimerConfig} {timers : Timers}
    (accepted : TimersAccepted config timers) (yang : ∀ c, config = some c → YangTimers c) :
    MstpdTimers.Valid ⟨timers.forwardDelay.toNat, timers.maxAge.toNat⟩ := by
  have hdelay : 4 ≤ timers.forwardDelay.toNat ∧ timers.forwardDelay.toNat ≤ 30 := by
    rw [accepted.forwardDelay]
    cases hd : config.bind TimerConfig.forwardingDelay with
    | none => decide
    | some d =>
      obtain ⟨c, hc, hcd⟩ := Option.bind_eq_some_iff.mp hd
      exact (yang c hc).forwardingDelay d hcd
  have hage : 6 ≤ timers.maxAge.toNat ∧ timers.maxAge.toNat ≤ 40 := by
    rw [accepted.maxAge]
    cases ha : config.bind TimerConfig.maxAge with
    | none => decide
    | some a =>
      obtain ⟨c, hc, hca⟩ := Option.bind_eq_some_iff.mp ha
      exact (yang c hc).maxAge a hca
  exact ⟨hdelay, hage, accepted.relation⟩

theorem stpAccepted_valid {config : StpConfig} {ports : BTreeSet String} {stp : Stp}
    (accepted : StpAccepted config ports stp)
    (rstp : ∀ r, config.rstp = some r → YangTimers r.config)
    (mstp : ∀ m, config.mstp = some m → YangTimers m.config) :
    MstpdTimers.Valid ⟨stp.forwardDelay.toNat, stp.maxAge.toNat⟩ := by
  by_cases hprotocol : stp.protocol = .mstp
  · refine timersAccepted_valid (accepted.mstp hprotocol).timers fun c hc => ?_
    obtain ⟨m, hm, rfl⟩ := Option.map_eq_some_iff.mp hc
    exact mstp m hm
  · refine timersAccepted_valid (accepted.rstp hprotocol).timers fun c hc => ?_
    obtain ⟨r, hr, rfl⟩ := Option.map_eq_some_iff.mp hc
    exact rstp r hr

end Timers

/-- After every command that is sent for an accepted configuration mstpd's timers are in
their ranges and related, whatever they were and whatever was configured before. -/
theorem changedCommands_timers_valid (config : StpConfig) (ports : BTreeSet String) (stp : Stp)
    (clean : (desiredStp (some config) ports).errors = [])
    (produced : (desiredStp (some config) ports).value = some stp)
    (rstp : ∀ r, config.rstp = some r → YangTimers r.config)
    (mstp : ∀ m, config.mstp = some m → YangTimers m.config) (previous : Option StpApplied)
    (bridgeMac : String) (t : MstpdTimers) (valid : t.Valid) :
    ∀ pre, pre <+: changedCommands previous (commands stp bridgeMac) stp →
      (pre.foldl MstpdTimers.run t).Valid := by
  intro pre hpre
  rw [desiredStp, errors_mapErrors, List.map_eq_nil_iff] at clean
  have hnext := stpAccepted_valid (stpMessages_clean clean produced) rstp mstp
  rw [foldl_run_filter]
  rcases changedCommands_timers previous stp bridgeMac with hnone | hall
  · have hempty := hpre.filter Command.isTimer
    rw [hnone, List.prefix_nil] at hempty
    rwa [hempty]
  · exact timerCommands_valid valid hnext (hall ▸ hpre.filter Command.isTimer)

/-- From 15 seconds to 20, with timers that only the longest forward delay allows. -/
theorem changedCommands_timers_valid_twenty :
    MstpdTimers.Valid ⟨21, 40⟩ ∧
      ∀ pre, pre <+: changedCommands (some (.of (rstpWith 15) "")) (commands (rstpWith 20) "")
        (rstpWith 20) → (pre.foldl MstpdTimers.run ⟨21, 40⟩).Valid := by
  have hvalid : MstpdTimers.Valid ⟨21, 40⟩ := ⟨by decide, by decide, by decide⟩
  refine ⟨hvalid, changedCommands_timers_valid (rstpConfig 20) ∅ (rstpWith 20) (by decide +kernel)
    (by decide +kernel) ?_ ?_ (some (.of (rstpWith 15) "")) "" ⟨21, 40⟩ hvalid⟩
  · rintro r ⟨⟩
    refine ⟨nofun, ?_⟩
    rintro delay ⟨⟩
    decide
  · intro m hm
    cases hm

end ClixonSwitch.Guarantees
