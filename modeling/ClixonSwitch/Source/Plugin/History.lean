import ClixonSwitch.Source.Plugin.Apply
import ClixonSwitch.Source.SwitchNet.Daemon
import ClixonSwitch.Source.SwitchNet.FakeNet

/-!
# The history of a plugin

A traced platform records, oldest first, the operations applied to the kernel, the
mstpctl commands run and the DHCP clients started and ended. For each stage of
`apply`: what it adds to the history and what it changes in the plugin.
-/
namespace ClixonSwitch.Source.Plugin
open Lib Source.SwitchModel Source.SwitchNet

inductive Act where
  /-- An operation that the kernel has accepted. -/
  | kernel (op : Op)
  /-- An mstpctl command that has succeeded. -/
  | mstpctl (c : Command)
  | dhcpStarted (interface : String) (pid : UInt32)
  /-- A DHCP client was stopped, or found not to run. -/
  | dhcpEnded (pid : UInt32)
  deriving DecidableEq

def Act.isKernel : Act → Bool
  | .kernel _ => true
  | _ => false

def Act.isMstpctl : Act → Bool
  | .mstpctl _ => true
  | _ => false

def Act.isDhcp : Act → Bool
  | .dhcpStarted _ _ => true
  | .dhcpEnded _ => true
  | _ => false

/-- A call that adds nothing to the history. -/
def silent {ω α : Type} (f : ω → α × ω) : ω × List Act → α × ω × List Act := fun (w, log) =>
  match f w with
  | (a, w) => (a, w, log)

/-- A call that adds an act if it succeeds. -/
def recorded {ω ε α : Type} (f : ω → Except ε α × ω) (act : α → Act) :
    ω × List Act → Except ε α × ω × List Act := fun (w, log) =>
  match f w with
  | (.ok a, w) => (.ok a, w, log ++ [act a])
  | (.error e, w) => (.error e, w, log)

def Platform.traced {ω : Type} (platform : Platform ω) : Platform (ω × List Act) where
  net :=
    { observe := silent platform.net.observe
      apply := fun op => recorded (platform.net.apply op) fun _ => .kernel op }
  mstpd :=
    { spawn := silent platform.mstpd.spawn
      running := fun pid => silent (platform.mstpd.running pid)
      stop := fun pid (w, log) => (platform.mstpd.stop pid w, log)
      run := fun c => recorded (platform.mstpd.run c) fun _ => .mstpctl c
      expired := silent platform.mstpd.expired }
  dhcp :=
    { spawn := fun interface hostname =>
        recorded (platform.dhcp.spawn interface hostname) (.dhcpStarted interface)
      running := fun pid (w, log) =>
        match platform.dhcp.running pid w with
        | (true, w) => (true, w, log)
        | (false, w) => (false, w, log ++ [.dhcpEnded pid])
      stop := fun interface pid (w, log) =>
        (platform.dhcp.stop interface pid w, log ++ [.dhcpEnded pid]) }
  interfaceMacs := silent platform.interfaceMacs
  hostname := silent platform.hostname
  system := silent platform.system
  snmp := fun conf => silent (platform.snmp conf)
  agentxSocket := platform.agentxSocket

/-- A plugin with the world and the history so far. -/
abbrev Traced (ω : Type) : Type := SwitchPlugin × ω × List Act

/-- What the history tells about: the two caches of the plugin and the acts. -/
@[ext]
structure View where
  mstpd : Mstpd := {}
  dhcp : DhcpClients := {}
  log : List Act := []

def Traced.view {ω : Type} (s : Traced ω) : View := ⟨s.1.mstpd, s.1.dhcp, s.2.2⟩

/-- DHCP clients and mstpctl commands are not operations of the kernel. -/
theorem Act.not_isKernel_of_isDhcp (a : Act) (h : a.isDhcp = true) : (!a.isKernel) = true := by
  cases a <;> simp_all [Act.isDhcp, Act.isKernel]

theorem Act.not_isKernel_of_isMstpctl (a : Act) (h : a.isMstpctl = true) :
    (!a.isKernel) = true := by
  cases a <;> simp_all [Act.isMstpctl, Act.isKernel]

/-- The history has grown by acts of one kind. -/
def Grown (kind : Act → Bool) (log log' : List Act) : Prop :=
  ∃ acts, log' = log ++ acts ∧ ∀ a ∈ acts, kind a = true

section Grown
variable {kind : Act → Bool} {log log₁ log₂ : List Act}

theorem Grown.refl (kind : Act → Bool) (log : List Act) : Grown kind log log :=
  ⟨[], by simp, by simp⟩

theorem Grown.trans (first : Grown kind log log₁) (second : Grown kind log₁ log₂) :
    Grown kind log log₂ := by
  obtain ⟨acts, rfl, hacts⟩ := first
  obtain ⟨more, rfl, hmore⟩ := second
  refine ⟨acts ++ more, by simp, fun a ha => ?_⟩
  exact (List.mem_append.mp ha).elim (hacts a) (hmore a)

theorem Grown.single {a : Act} (h : kind a = true) : Grown kind log (log ++ [a]) :=
  ⟨[a], rfl, by simpa using h⟩

end Grown

section Stages
variable {ω : Type} (platform : Platform ω)

theorem recorded_cases {ε α : Type} (f : ω → Except ε α × ω) (act : α → Act) (w : ω × List Act) :
    (∃ a w', recorded f act w = (.ok a, w', w.2 ++ [act a])) ∨
      ∃ e w', recorded f act w = (.error e, w', w.2) := by
  obtain ⟨w, log⟩ := w
  simp only [recorded]
  split
  · next a w' _ => exact .inl ⟨a, w', rfl⟩
  · next e w' _ => exact .inr ⟨e, w', rfl⟩

theorem applyOps_traced (applied ops : List Op) (w : ω × List Act) :
    ∃ done, (applyOps platform.traced.net applied ops w).2.2 = w.2 ++ done.map .kernel ∧
      ∀ all, (applyOps platform.traced.net applied ops w).1 = .ok all → all = applied ++ done := by
  induction ops generalizing applied w with
  | nil => exact ⟨[], by simp [applyOps], by simp [applyOps, eq_comm]⟩
  | cons op ops ih =>
    have hcases : (∃ w', platform.traced.net.apply op w = (.ok (), w', w.2 ++ [.kernel op])) ∨
        ∃ e w', platform.traced.net.apply op w = (.error e, w', w.2) := by
      rcases recorded_cases (platform.net.apply op) (fun _ => .kernel op) w with
        ⟨_, w', h⟩ | ⟨e, w', h⟩
      exacts [.inl ⟨w', h⟩, .inr ⟨e, w', h⟩]
    rcases hcases with ⟨w', h⟩ | ⟨e, w', h⟩
    · obtain ⟨done, hlog, hall⟩ := ih (applied ++ [op]) (w', w.2 ++ [.kernel op])
      refine ⟨op :: done, ?_, ?_⟩
      · simp only [applyOps, h, hlog]
        simp
      · intro all hok
        simp only [applyOps, h] at hok
        rw [hall all hok]
        simp
    · exact ⟨[], by simp [applyOps, h], by simp [applyOps, h]⟩

/-- The operations that a successful `reconcile` returns are those it has applied. -/
theorem reconcileRounds_log (desired : DesiredState) (rounds : Nat) (applied : List Op)
    (w : ω × List Act) :
    ∃ done, (reconcileRounds platform.traced.net desired rounds applied w).2.2 =
        w.2 ++ done.map .kernel ∧
      ∀ all, (reconcileRounds platform.traced.net desired rounds applied w).1 = .ok all →
        all = applied ++ done := by
  induction rounds generalizing applied w with
  | zero => exact ⟨[], by simp [reconcileRounds], by simp [reconcileRounds]⟩
  | succ rounds ih =>
    have hobserve : (platform.traced.net.observe w).2.2 = w.2 := rfl
    simp only [reconcileRounds]
    split
    · next e w' h =>
      rw [h] at hobserve
      exact ⟨[], by simpa using hobserve, by simp⟩
    · next actual w' h =>
      rw [h] at hobserve
      split
      · exact ⟨[], by simpa using hobserve, by simp⟩
      · next planned _ =>
        split
        · exact ⟨[], by simpa using hobserve, by simp [eq_comm]⟩
        · obtain ⟨done, hlog, hall⟩ :=
            applyOps_traced platform applied (actual.platformOps ++ planned) w'
          rw [show w'.2 = w.2 from hobserve] at hlog
          split
          · next e w'' happly =>
            rw [happly] at hlog
            exact ⟨done, hlog, by simp⟩
          · next applied' w'' happly =>
            rw [happly] at hlog hall
            obtain ⟨more, hlog', hall'⟩ := ih applied' w''
            refine ⟨done ++ more, ?_, ?_⟩
            · rw [hlog', hlog]
              simp
            · intro all hok
              rw [hall' all hok, hall applied' rfl]
              simp

theorem mstpd_keepsGrown (log : List Act) :
    platform.traced.mstpd.Keeps fun w => Grown Act.isMstpctl log w.2 where
  running _ _ h := h
  expired _ h := h
  spawn _ h := h
  stop _ _ h := h
  run c w h := by
    rcases recorded_cases (platform.mstpd.run c) (fun _ => .mstpctl c) w with
      ⟨_, w', hrun⟩ | ⟨e, w', hrun⟩
    · rw [show platform.traced.mstpd.run c w = _ from hrun]
      exact h.trans (.single rfl)
    · rw [show platform.traced.mstpd.run c w = _ from hrun]
      exact h

/-- Commands that all succeed are all in the history. -/
theorem runAll_mstpctl_log {cs : List Command} {w w' : ω × List Act}
    (h : runAll platform.traced.mstpd.run cs w = (.ok (), w')) :
    w'.2 = w.2 ++ cs.map .mstpctl := by
  induction cs generalizing w with
  | nil =>
    cases h
    simp
  | cons c cs ih =>
    simp only [runAll] at h
    rcases recorded_cases (platform.mstpd.run c) (fun _ => .mstpctl c) w with
      ⟨_, w₁, hrun⟩ | ⟨e, w₁, hrun⟩
    · rw [show platform.traced.mstpd.run c w = _ from hrun] at h
      rw [ih h]
      simp
    · rw [show platform.traced.mstpd.run c w = _ from hrun] at h
      cases h

/-- `stop_unwanted` keeps a client that runs on the wanted interface, and otherwise
leaves none. -/
theorem stopUnwanted_cases (c : DhcpClients) (wanted : Option String) (w : ω × List Act) :
    ((c.stopUnwanted platform.traced.dhcp wanted w).2.1.client = none ∧
        Grown Act.isDhcp w.2 (c.stopUnwanted platform.traced.dhcp wanted w).2.2.2) ∨
      (∃ n pid, c.client = some (n, pid) ∧ wanted = some n) ∧
        (c.stopUnwanted platform.traced.dhcp wanted w).2.1 = c ∧
        (c.stopUnwanted platform.traced.dhcp wanted w).2.2.2 = w.2 := by
  obtain ⟨w, log⟩ := w
  cases hc : c.client with
  | none =>
    have hstop : c.stopUnwanted platform.traced.dhcp wanted (w, log) = ([], c, w, log) := by
      simp [DhcpClients.stopUnwanted, hc]
    rw [hstop]
    exact .inl ⟨hc, Grown.refl _ _⟩
  | some client =>
    obtain ⟨n, pid⟩ := client
    have hrunning : platform.traced.dhcp.running pid (w, log) =
        match platform.dhcp.running pid w with
        | (true, w) => (true, w, log)
        | (false, w) => (false, w, log ++ [.dhcpEnded pid]) := rfl
    cases hrun : platform.dhcp.running pid w with
    | mk alive w' =>
      rw [hrun] at hrunning
      cases alive with
      | false =>
        have hstop : c.stopUnwanted platform.traced.dhcp wanted (w, log) =
            ([.exited n pid], {}, w', log ++ [.dhcpEnded pid]) := by
          simp [DhcpClients.stopUnwanted, hc, hrunning]
        rw [hstop]
        exact .inl ⟨rfl, .single rfl⟩
      | true =>
        by_cases hwanted : wanted = some n
        · have hstop : c.stopUnwanted platform.traced.dhcp wanted (w, log) =
              ([], c, w', log) := by
            simp [DhcpClients.stopUnwanted, hc, hrunning, hwanted]
          rw [hstop]
          exact .inr ⟨⟨n, pid, rfl, hwanted⟩, rfl, rfl⟩
        · have hstop : c.stopUnwanted platform.traced.dhcp wanted (w, log) =
              ([.stopped n pid], {}, platform.dhcp.stop n pid w', log ++ [.dhcpEnded pid]) := by
            simp [DhcpClients.stopUnwanted, hc, hrun, hwanted, Platform.traced]
          rw [hstop]
          exact .inl ⟨rfl, .single rfl⟩

theorem stopRelinked_cases (c : DhcpClients) (relinked : Bool) (w : ω × List Act) :
    (c.stopRelinked platform.traced.dhcp relinked w = ([], c, w) ∧
        (relinked = true → c.client = none)) ∨
      ((c.stopRelinked platform.traced.dhcp relinked w).2.1.client = none ∧
        Grown Act.isDhcp w.2 (c.stopRelinked platform.traced.dhcp relinked w).2.2.2) := by
  unfold DhcpClients.stopRelinked
  split
  · exact .inr ⟨rfl, .single rfl⟩
  · next hnone =>
    refine .inl ⟨rfl, fun hrelinked => ?_⟩
    cases hc : c.client with
    | none => rfl
    | some client => exact absurd hc (hnone client.1 client.2 hrelinked)

theorem start_cases (c : DhcpClients) (wanted hostname : Option String) (w : ω × List Act) :
    (c.start platform.traced.dhcp wanted hostname w = (.ok [], c, w) ∧
        (wanted ≠ none → c.client ≠ none)) ∨
      ∃ n, wanted = some n ∧ c.client = none ∧
        ((∃ e w', c.start platform.traced.dhcp wanted hostname w = (.error e, c, w', w.2)) ∨
          ∃ pid w', c.start platform.traced.dhcp wanted hostname w =
            (.ok [.started n pid], ⟨some (n, pid)⟩, w', w.2 ++ [.dhcpStarted n pid])) := by
  unfold DhcpClients.start
  split
  · next n hclient =>
    refine .inr ⟨n, rfl, hclient, ?_⟩
    rcases recorded_cases (platform.dhcp.spawn n hostname) (.dhcpStarted n) w with
      ⟨pid, w', h⟩ | ⟨e, w', h⟩
    · rw [show platform.traced.dhcp.spawn n hostname w = _ from h]
      exact .inr ⟨pid, w', rfl⟩
    · rw [show platform.traced.dhcp.spawn n hostname w = _ from h]
      exact .inl ⟨e, w', rfl⟩
  · next hsome =>
    refine .inl ⟨rfl, fun hwanted hclient => ?_⟩
    obtain ⟨n, hn⟩ := Option.ne_none_iff_exists'.mp hwanted
    exact hsome n hn hclient

/-- What `sync` ends in: an error without a client, the client that was there, no
client, or a new one on the wanted interface. -/
inductive SyncEnd (c : DhcpClients) (wanted : Option String) (relinked : Bool)
    (log : List Act) : Except String (List DhcpEvent) → DhcpClients → List Act → Prop where
  | failed {e log'} : SyncEnd c wanted relinked log (.error e) {} log'
  | kept {n pid events} : c.client = some (n, pid) → wanted = some n → relinked = false →
      SyncEnd c wanted relinked log (.ok events) c log
  | unwanted {events log'} : wanted = none → SyncEnd c wanted relinked log (.ok events) {} log'
  | started {n pid events log'} : wanted = some n →
      SyncEnd c wanted relinked log (.ok events) ⟨some (n, pid)⟩ (log' ++ [.dhcpStarted n pid])

theorem sync_end (c : DhcpClients) (wanted : Option String) (relinked : Bool)
    (hostname : Option String) (w : ω × List Act) :
    Grown Act.isDhcp w.2 (c.sync platform.traced.dhcp wanted relinked hostname w).2.2.2 ∧
      SyncEnd c wanted relinked w.2 (c.sync platform.traced.dhcp wanted relinked hostname w).1
        (c.sync platform.traced.dhcp wanted relinked hostname w).2.1
        (c.sync platform.traced.dhcp wanted relinked hostname w).2.2.2 := by
  cases hunwanted : c.stopUnwanted platform.traced.dhcp wanted w with
  | mk events₁ rest =>
  obtain ⟨c₁, w₁⟩ := rest
  cases hrelinked : c₁.stopRelinked platform.traced.dhcp relinked w₁ with
  | mk events₂ rest =>
  obtain ⟨c₂, w₂⟩ := rest
  have hfirst := stopUnwanted_cases platform c wanted w
  have hsecond := stopRelinked_cases platform c₁ relinked w₁
  rw [hunwanted] at hfirst
  rw [hrelinked] at hsecond
  -- Either the client of before is still there and nothing was recorded, or none is.
  have hmid : Grown Act.isDhcp w.2 w₂.2 ∧ (c₂ = {} ∨
      (∃ n pid, c.client = some (n, pid) ∧ wanted = some n) ∧ relinked = false ∧ c₂ = c ∧
        w₂.2 = w.2) := by
    have hempty : ∀ c : DhcpClients, c.client = none → c = {} := by
      rintro ⟨client⟩ rfl
      rfl
    rcases hfirst with ⟨hnone, hgrown⟩ | ⟨hclient, hc, hlog⟩
    · rcases hsecond with ⟨heq, -⟩ | ⟨hnone', hgrown'⟩
      · cases heq
        exact ⟨hgrown, .inl (hempty _ hnone)⟩
      · exact ⟨hgrown.trans hgrown', .inl (hempty _ hnone')⟩
    · obtain rfl : c₁ = c := hc
      replace hlog : w₁.2 = w.2 := hlog
      rcases hsecond with ⟨heq, hnot⟩ | ⟨hnone', hgrown'⟩
      · cases heq
        refine ⟨hlog ▸ Grown.refl _ _, .inr ⟨hclient, ?_, rfl, hlog⟩⟩
        obtain ⟨n, pid, hsome, -⟩ := hclient
        by_contra hrelink
        simp [hnot (Bool.not_eq_false _ ▸ hrelink)] at hsome
      · rw [hlog] at hgrown'
        exact ⟨hgrown', .inl (hempty _ hnone')⟩
  obtain ⟨hgrown, hclient⟩ := hmid
  rcases start_cases platform c₂ wanted hostname w₂ with ⟨hstart, hwanted⟩ |
    ⟨n, hn, hnone, ⟨e, w', hstart⟩ | ⟨pid, w', hstart⟩⟩
  · have hsync : c.sync platform.traced.dhcp wanted relinked hostname w =
        (.ok (events₁ ++ events₂ ++ []), c₂, w₂) := by
      simp only [DhcpClients.sync, hunwanted, hrelinked, hstart]
    rw [hsync]
    refine ⟨hgrown, ?_⟩
    rcases hclient with rfl | ⟨⟨n, pid, hc, hn⟩, hrelink, rfl, hlog⟩
    · exact .unwanted (by_contra fun h => hwanted h rfl)
    · rw [show (w₂.2 : List Act) = w.2 from hlog]
      exact .kept hc hn hrelink
  · have hempty : c₂ = {} := by
      cases c₂
      exact congrArg DhcpClients.mk hnone
    have hsync : c.sync platform.traced.dhcp wanted relinked hostname w =
        (.error e, c₂, w', w₂.2) := by
      simp only [DhcpClients.sync, hunwanted, hrelinked, hstart]
    rw [hsync, hempty]
    exact ⟨hgrown, .failed⟩
  · have hsync : c.sync platform.traced.dhcp wanted relinked hostname w =
        (.ok (events₁ ++ events₂ ++ [.started n pid]), ⟨some (n, pid)⟩, w',
          w₂.2 ++ [.dhcpStarted n pid]) := by
      simp only [DhcpClients.sync, hunwanted, hrelinked, hstart]
    rw [hsync]
    exact ⟨hgrown.trans (.single rfl), .started hn⟩

/-- What the DHCP client does has no part in spanning tree. -/
theorem syncDhcp_keeps (wanted : Option String) (relinked : Bool) (inv : View → Prop)
    (dhcpOnly : ∀ v dhcp acts, inv v → (∀ a ∈ acts, a.isDhcp = true) →
      inv ⟨v.mstpd, dhcp, v.log ++ acts⟩) :
    Failing.Triple (fun s => inv (Traced.view s)) (syncDhcp platform.traced wanted relinked)
      (fun _ s => inv s.view) fun s => inv s.view := by
  rintro ⟨p, w⟩ h
  cases hname : platform.traced.hostname w with
  | mk hostname w₁ =>
    have hlog₁ : w₁.2 = w.2 := congrArg (·.2.2) hname.symm
    obtain ⟨⟨acts, hlog, hacts⟩, -⟩ := sync_end platform p.dhcp wanted relinked hostname w₁
    have hafter := dhcpOnly ⟨p.mstpd, p.dhcp, w.2⟩
      (p.dhcp.sync platform.traced.dhcp wanted relinked hostname w₁).2.1 acts h hacts
    rw [← hlog₁, ← hlog] at hafter
    refine ⟨fun events s' hs' => ?_, fun e s' hs' => ?_⟩
    all_goals
      simp only [syncDhcp, hname] at hs'
      split at hs'
      all_goals
        next hsync =>
        rw [hsync] at hafter
        cases hs'
        try exact hafter

/-- A stage that neither adds to the history nor changes the caches. -/
def Quiet {α : Type} (x : PluginM (ω × List Act) α) : Prop :=
  ∀ s, Traced.view (x s).2 = Traced.view s

theorem Quiet.triple {α : Type} {x : PluginM (ω × List Act) α} (quiet : Quiet x)
    (inv : View → Prop) :
    Failing.Triple (fun s => inv (Traced.view s)) x (fun _ s => inv s.view)
      fun s => inv s.view := by
  intro s h
  have hview := quiet s
  refine ⟨fun a s' hs' => ?_, fun e s' hs' => ?_⟩
  all_goals
    rw [hs'] at hview
    exact hview ▸ h

theorem Quiet.pure {α : Type} (a : α) : Quiet (pure a : PluginM (ω × List Act) α) := fun _ => rfl

theorem Quiet.bind {α β : Type} {x : PluginM (ω × List Act) α}
    {f : α → PluginM (ω × List Act) β} (hx : Quiet x) (hf : ∀ a, Quiet (f a)) :
    Quiet (x >>= f) := by
  intro s
  have hview := hx s
  rw [Failing.bind_apply]
  split
  · next a s' hs' =>
    rw [hs'] at hview
    exact (hf a s').trans hview
  · next e s' hs' =>
    rw [hs'] at hview
    exact hview

theorem readBridgeMac_quiet : Quiet (readBridgeMac platform.traced) := by
  rintro ⟨p, w⟩
  have hlog : (platform.traced.interfaceMacs w).2.2 = w.2 := rfl
  simp only [readBridgeMac]
  split
  · next h =>
    rw [h] at hlog
    exact congrArg (View.mk p.mstpd p.dhcp) hlog
  · next h =>
    rw [h] at hlog
    exact congrArg (View.mk p.mstpd p.dhcp) hlog

theorem runSnmpd_quiet (conf : Option String) : Quiet (runSnmpd platform.traced conf) := by
  rintro ⟨p, w⟩
  have hlog : (platform.traced.snmp conf w).2.2 = w.2 := rfl
  simp only [runSnmpd]
  split
  · next h =>
    rw [h] at hlog
    exact congrArg (View.mk p.mstpd p.dhcp) hlog
  · next h =>
    rw [h] at hlog
    exact congrArg (View.mk p.mstpd p.dhcp) hlog

theorem engineIdInUse_quiet (snmp : Snmp) : Quiet (engineIdInUse platform.traced snmp) := by
  unfold engineIdInUse
  split
  · exact Quiet.pure _
  · refine (readBridgeMac_quiet platform).bind fun mac => ?_
    split
    · exact Quiet.pure _
    · exact fun _ => rfl

/-- Running snmpd has no part in spanning tree and DHCP. -/
theorem syncSnmp_quiet (desired : DesiredState) : Quiet (syncSnmp platform.traced desired) := by
  have hset : ∀ id, Quiet (ω := ω) (setEngineId id) := fun _ _ => rfl
  have hsystem : Quiet (readSystem platform.traced) := fun _ => rfl
  unfold syncSnmp
  split
  · exact (hset none).bind fun _ => runSnmpd_quiet platform none
  · next snmp _ =>
    exact (engineIdInUse_quiet platform snmp).bind fun id => hsystem.bind fun system =>
      (hset (some id)).bind fun _ => runSnmpd_quiet platform _

theorem setApplied_quiet (desired : DesiredState) :
    Quiet (setApplied (ω := ω × List Act) desired) := fun _ => rfl

/-- What `apply` keeps and achieves is a matter of its first stages. -/
theorem apply_triple {desired : DesiredState} {pre : Traced ω → Prop}
    {mid : List Op → Traced ω → Prop} {inv : View → Prop} (good : View → Prop)
    (stp : Failing.Triple pre (applyStp platform.traced desired) mid fun s => inv s.view)
    (dhcp : ∀ ops, Failing.Triple (mid ops)
      (syncDhcp platform.traced desired.dhcpSvi (isRelinked ops desired.dhcpSvi))
      (fun _ s => inv s.view ∧ good s.view) fun s => inv s.view) :
    Failing.Triple pre (apply platform.traced desired) (fun _ s => inv s.view ∧ good s.view)
      fun s => inv s.view := by
  have hquiet : ∀ {α : Type} {x : PluginM (ω × List Act) α}, Quiet x →
      Failing.Triple (fun s => inv (Traced.view s) ∧ good s.view) x
        (fun _ s => inv s.view ∧ good s.view) fun s => inv s.view := fun quiet =>
    (quiet.triple fun v => inv v ∧ good v).imp_failed fun _ => And.left
  exact Failing.triple_bind stp fun ops => Failing.triple_bind (dhcp ops) fun _ =>
    Failing.triple_bind (hquiet (syncSnmp_quiet platform desired)) fun _ =>
      hquiet (setApplied_quiet desired)

end Stages

/-- What happens before mstpd is configured, from `v₀` on: acts that are no operations,
and then the operations `ops`. The cache of mstpd and the DHCP client are kept or
given up, and a client that is kept was neither started nor ended. -/
structure KernelStage (v₀ : View) (wanted : Option String) (ops : List Op) (v : View) : Prop where
  owned : v.mstpd.CacheOwned
  cache : v.mstpd.applied = none ∨ v.mstpd.applied = v₀.mstpd.applied
  log : ∃ acts, v.log = v₀.log ++ acts ++ ops.map .kernel ∧ (∀ a ∈ acts, a.isKernel = false) ∧
    (v.dhcp.client ≠ none → v.dhcp = v₀.dhcp ∧ (∃ n pid, v₀.dhcp.client = some (n, pid) ∧
      wanted = some n) ∧ ∀ a ∈ acts, a.isMstpctl = true)

section KernelStage
variable {ω : Type} (platform : Platform ω) {v₀ : View} {desired : DesiredState}

theorem stopUnwanted_stage (owned : v₀.mstpd.CacheOwned) (wanted : Option String) :
    Failing.Triple (fun s => Traced.view s = v₀) (stopUnwanted platform.traced wanted)
      (fun _ s => KernelStage v₀ wanted [] s.view)
      fun s => ∃ ops, KernelStage v₀ wanted ops s.view := by
  rintro ⟨p, w⟩ rfl
  refine ⟨fun events s' hs' => ?_, fun e s' hs' => nomatch hs'⟩
  cases hs'
  rcases stopUnwanted_cases platform p.dhcp wanted w with
    ⟨hnone, acts, hlog, hdhcp⟩ | ⟨⟨n, pid, hclient, hwanted⟩, hkept, hlog⟩
  · refine ⟨owned, .inr rfl, acts, ?_, fun a ha => ?_, ?_⟩
    · rw [List.map_nil, List.append_nil]
      exact hlog
    · simpa using Act.not_isKernel_of_isDhcp a (hdhcp a ha)
    · exact fun hsome => absurd hnone hsome
  · refine ⟨owned, .inr rfl, [], ?_, by simp, fun _ => ⟨hkept, ⟨n, pid, hclient, hwanted⟩, by simp⟩⟩
    rw [List.map_nil, List.append_nil, List.append_nil]
    exact hlog

theorem prepareMstpd_stage (wanted : Option String) (stp : Bool) :
    Failing.Triple (fun s => KernelStage v₀ wanted [] (Traced.view s))
      (prepareMstpd platform.traced stp)
      (fun _ s => KernelStage v₀ wanted [] s.view ∧ (s.1.mstpd.pid ≠ none ↔ stp = true))
      fun s => ∃ ops, KernelStage v₀ wanted ops s.view := by
  rintro ⟨p, w⟩ h
  have owned : p.mstpd.CacheOwned := h.owned
  obtain ⟨acts, hlog, hquiet, hclient⟩ := h.log
  obtain ⟨more, hmore, hmstpctl⟩ := Mstpd.prepare_keeps (m := p.mstpd)
    (mstpd_keepsGrown platform w.2) stp (Grown.refl _ _)
  have hafter : KernelStage v₀ wanted [] ⟨(p.mstpd.prepare platform.traced.mstpd stp w).2.1, p.dhcp,
      (p.mstpd.prepare platform.traced.mstpd stp w).2.2.2⟩ := by
    refine ⟨Mstpd.prepare_cacheOwned _ owned stp, ?_, acts ++ more, ?_, ?_, ?_⟩
    · rcases Mstpd.prepare_cache platform.traced.mstpd owned stp with hnone | ⟨-, w', -, hkept⟩
      · exact .inl hnone
      · rw [hkept]
        exact h.cache
    · rw [hmore, show w.2 = _ from hlog]
      simp
    · intro a ha
      rcases List.mem_append.mp ha with ha | ha
      · exact hquiet a ha
      · simpa using Act.not_isKernel_of_isMstpctl a (hmstpctl a ha)
    · intro hsome
      obtain ⟨hdhcp, hwanted, hacts⟩ := hclient hsome
      exact ⟨hdhcp, hwanted, fun a ha => (List.mem_append.mp ha).elim (hacts a) (hmstpctl a)⟩
  cases hprepare : p.mstpd.prepare platform.traced.mstpd stp w with
  | mk result rest =>
    obtain ⟨m, w'⟩ := rest
    rw [hprepare] at hafter
    refine ⟨fun events s' hs' => ?_, fun e s' hs' => ?_⟩
    · simp only [prepareMstpd, hprepare] at hs'
      cases hs'
      exact ⟨hafter, Mstpd.prepare_pid hprepare⟩
    · simp only [prepareMstpd, hprepare] at hs'
      cases hs'
      exact ⟨[], hafter⟩

theorem reconcileNet_stage (wanted : Option String) (inv : Mstpd → Prop) :
    Failing.Triple (fun s => KernelStage v₀ wanted [] (Traced.view s) ∧ inv s.1.mstpd)
      (reconcileNet platform.traced desired)
      (fun ops s => KernelStage v₀ wanted ops s.view ∧ inv s.1.mstpd)
      fun s => ∃ ops, KernelStage v₀ wanted ops s.view := by
  rintro ⟨p, w⟩ ⟨h, hinv⟩
  obtain ⟨done, hdone, hall⟩ := reconcileRounds_log platform desired maxRounds [] w
  obtain ⟨acts, hlog, hacts⟩ := h.log
  have hafter : KernelStage v₀ wanted done
      ⟨p.mstpd, p.dhcp, (reconcile platform.traced.net desired w).2.2⟩ := by
    refine ⟨h.owned, h.cache, acts, ?_, hacts⟩
    rw [show (reconcile platform.traced.net desired w).2.2 = _ from hdone, show w.2 = _ from hlog]
    simp
  cases hrec : reconcile platform.traced.net desired w with
  | mk result w' =>
    rw [hrec] at hafter
    refine ⟨fun ops s' hs' => ?_, fun e s' hs' => ?_⟩
    · simp only [reconcileNet, hrec] at hs'
      cases hs'
      obtain rfl : ops = done := hall ops (by rw [← reconcile, hrec])
      exact ⟨hafter, hinv⟩
    · simp only [reconcileNet, hrec] at hs'
      cases hs'
      exact ⟨done, hafter⟩

/-- What `apply` does before it configures mstpd. -/
theorem applyKernel_stage (desired : DesiredState) (owned : v₀.mstpd.CacheOwned) :
    Failing.Triple (fun s => Traced.view s = v₀) (applyKernel platform.traced desired)
      (fun r s => KernelStage v₀ desired.dhcpSvi r.1 s.view ∧
        (s.view.mstpd.pid ≠ none ↔ desired.stp.isSome = true))
      fun s => ∃ ops, KernelStage v₀ desired.dhcpSvi ops s.view := by
  have hmac : Quiet (macForStp platform.traced desired.stp.isSome) := by
    unfold macForStp
    split
    · exact readBridgeMac_quiet platform
    · exact Quiet.pure _
  refine Failing.triple_bind (stopUnwanted_stage platform owned _) fun _ =>
    Failing.triple_bind (prepareMstpd_stage platform _ _) fun _ =>
      Failing.triple_bind (reconcileNet_stage platform _
        fun m => m.pid ≠ none ↔ desired.stp.isSome = true) fun ops =>
        Failing.triple_bind ((hmac.triple fun v => KernelStage v₀ desired.dhcpSvi ops v ∧
          (v.mstpd.pid ≠ none ↔ desired.stp.isSome = true)).imp_failed ?_) fun _ =>
          Failing.triple_pure fun _ => id
  exact fun s h => ⟨ops, h.1⟩

end KernelStage

section Runs
variable {ω : Type} (platform : Platform ω)

/-- A plugin that has not applied anything yet. -/
def bootPlugin (w : ω) : Traced ω := ({}, w, [])

/-- One call of `apply` after the other, whether or not they succeed. -/
def runApplies (desired : List DesiredState) (s : Traced ω) : Traced ω :=
  desired.foldl (fun s d => (apply platform.traced d s).2) s

/-- `P` holds of every call in a run, with the state before the call. -/
def EveryApply (P : DesiredState → Traced ω → Prop) : List DesiredState → Traced ω → Prop
  | [], _ => True
  | d :: rest, s => P d s ∧ EveryApply P rest (apply platform.traced d s).2

/-- Of a run in which every call keeps `inv`: what its last call has achieved. -/
theorem runApplies_last {inv : View → Prop} {harmless : DesiredState → Traced ω → Prop}
    (good : DesiredState → Traced ω → View → Prop)
    (step : ∀ d s, inv s.view → harmless d s → Failing.Triple (· = s) (apply platform.traced d)
      (fun _ s' => inv s'.view ∧ good d s s'.view) fun s' => inv s'.view)
    {earlier : List DesiredState} {d : DesiredState} {s : Traced ω} (start : inv s.view)
    (h : EveryApply platform harmless (earlier ++ [d]) s)
    (success : (apply platform.traced d (runApplies platform earlier s)).1 = .ok ()) :
    inv (runApplies platform (earlier ++ [d]) s).view ∧
      good d (runApplies platform earlier s) (runApplies platform (earlier ++ [d]) s).view := by
  induction earlier generalizing s with
  | nil => exact (step d s start h.1).of_ok rfl (Prod.ext success rfl)
  | cons first rest ih =>
    refine ih ?_ h.2 success
    exact (step first s start h.1).after (fun s => inv s.view) (fun _ _ h => h.1) (fun _ => id) rfl

end Runs

section Rig

/-- The kernel model and mstpd as assumed, to run a plugin on. -/
structure Rig where
  kernel : ActualState
  mstpd : Daemon := {}
  observed : Nat := 0
  applied : Nat := 0
  clients : Nat := 0
  /-- The operations that the kernel refuses, by their number. -/
  refused : List Nat := []
  /-- What someone else has made of the kernel before an observation. -/
  changed : List (Nat × ActualState) := []

def Rig.onMstpd {α : Type} (f : Daemon → α × Daemon) (r : Rig) : α × Rig :=
  match f r.mstpd with
  | (a, d) => (a, { r with mstpd := d })

def Rig.observe (r : Rig) : Except NetError ActualState × Rig :=
  let kernel := (r.changed.lookup r.observed).getD r.kernel
  (.ok kernel, { r with kernel, observed := r.observed + 1 })

def Rig.apply (op : Op) (r : Rig) : Except NetError Unit × Rig :=
  let r := { r with applied := r.applied + 1 }
  if r.applied ∈ r.refused then (.error ⟨"Device or resource busy"⟩, r)
  else
    match fakeApply op r.kernel with
    | (result, kernel) => (result, { r with kernel })

def rig : Platform Rig where
  net := { observe := Rig.observe, apply := Rig.apply }
  mstpd :=
    { spawn := Rig.onMstpd daemon.spawn
      running := fun pid => Rig.onMstpd (daemon.running pid)
      stop := fun pid r => { r with mstpd := daemon.stop pid r.mstpd }
      run := fun c => Rig.onMstpd (daemon.run c)
      expired := Rig.onMstpd daemon.expired }
  dhcp :=
    { spawn := fun _ _ r =>
        (.ok (200 + r.clients.toUInt32), { r with clients := r.clients + 1 })
      running := fun _ r => (true, r)
      stop := fun _ _ r => r }
  interfaceMacs r := (.ok (BTreeMap.collect [(bridgeName, some "02:00:00:00:00:01")]), r)
  hostname r := (some "switch", r)
  system r := ((none, none), r)
  snmp _ r := (.ok (), r)
  agentxSocket := "/run/agentx.sock"

end Rig

end ClixonSwitch.Source.Plugin
