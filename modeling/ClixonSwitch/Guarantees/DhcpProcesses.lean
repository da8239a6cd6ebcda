import ClixonSwitch.Lib.Children
import ClixonSwitch.Source.SwitchNet.Dhcp

/-!
# At most one DHCP client, on the wanted interface

Runs of `stop_unwanted` and `sync` with clients that exit at any moment and starts
that fail. Every client that holds its pid is the recorded one, so there is never more
than one, and after `sync` it is on the interface that is wanted.
-/
namespace ClixonSwitch.Guarantees
open Lib Lib.Children Source.SwitchNet

/-- Clients as child processes, each on its interface. -/
abbrev Udhcpcs := Children String Empty

def udhcpcs : DhcpEnv Udhcpcs where
  spawn interface _ w := w.spawn interface
  running pid w := w.running pid
  stop _ pid w := w.stop pid

section Runs

/-- What happens in a run; between the calls, time passes. -/
inductive DhcpStep where
  | stopUnwanted (wanted : Option String)
  | sync (wanted : Option String) (relinked : Bool) (hostname : Option String)
  | idle

def DhcpStep.exec : DhcpStep → DhcpClients × Udhcpcs → DhcpClients × Udhcpcs
  | .stopUnwanted wanted, (c, w) => (c.stopUnwanted udhcpcs wanted w).2
  | .sync wanted relinked hostname, (c, w) => (c.sync udhcpcs wanted relinked hostname w).2
  | .idle, (c, w) => (c, w.tick)

/-- The clients after a run from the start of the plugin. -/
def dhcpRun (oracle : Oracle) (steps : List DhcpStep) : DhcpClients × Udhcpcs :=
  steps.foldl (fun s step => step.exec s) ({}, { oracle })

end Runs

section Supervision

/-- The children that hold their pid are the recorded client, on its interface. -/
structure Supervises (c : DhcpClients) (w : Udhcpcs) : Prop where
  tracks : Tracks (fun _ : String => ()) (fun _ => c.client.map Prod.snd) w
  interface : ∀ child ∈ w.table, child.Held → c.client = some (child.what, child.pid)

variable {c : DhcpClients} {w w' : Udhcpcs}

variable (h : Supervises c w)
include h

theorem Supervises.quiet (quiet : Quiet w w') : Supervises c w' := by
  refine ⟨h.tracks.quiet quiet, fun child' hchild' hheld => ?_⟩
  obtain ⟨child, hchild, aged⟩ := quiet.exists_before hchild'
  rw [aged.what, aged.pid]
  exact h.interface child hchild (aged.held hheld)

theorem Supervises.released {interface : String} {pid : UInt32}
    (hclient : c.client = some (interface, pid)) (later : Later (· = pid) w w')
    (freed : ∀ child ∈ w'.table, child.pid = pid → ¬ child.Held) : Supervises {} w' := by
  have hslot : c.client.map Prod.snd = some pid := by
    rw [hclient]
    rfl
  have htracks := h.tracks.released (k := ()) hslot later freed
  rw [update_unit] at htracks
  refine ⟨htracks, fun child hchild hheld => ?_⟩
  have hslot := htracks.recorded child hchild hheld
  cases hslot

theorem Supervises.stopped {interface : String} {pid : UInt32}
    (hclient : c.client = some (interface, pid)) : Supervises {} (w.stop pid) :=
  h.released hclient (later_stop pid w) fun _ hchild => not_held_of_release hchild

omit h in
theorem Supervises.started (h : Supervises {} w) (interface : String) {pid : UInt32}
    (fresh : ∀ child ∈ w.table, child.Held → child.pid ≠ pid) :
    Supervises ⟨some (interface, pid)⟩ (w.start pid interface) := by
  have htracks := h.tracks.started interface rfl fresh
  rw [update_unit] at htracks
  refine ⟨htracks, fun child hchild hheld => ?_⟩
  rcases List.mem_cons.mp hchild with rfl | hchild
  · rfl
  · cases h.interface child hchild hheld

/-- What `stop_unwanted` leaves is nothing, or the client on the wanted interface. -/
theorem stopUnwanted_supervises (wanted : Option String) :
    ∃ events c' w', c.stopUnwanted udhcpcs wanted w = (events, c', w') ∧ Supervises c' w' ∧
      w'.table.length = w.table.length ∧
      (c'.client = none ∨ ∃ interface pid, c'.client = some (interface, pid) ∧
        wanted = some interface) := by
  unfold DhcpClients.stopUnwanted
  cases hclient : c.client with
  | none => exact ⟨_, _, _, rfl, h, rfl, Or.inl hclient⟩
  | some client =>
    obtain ⟨interface, pid⟩ := client
    simp only [udhcpcs]
    rcases running_cases pid w with ⟨w₁, hrun, quiet⟩ | ⟨w₁, hrun, later, freed⟩
    · simp only [hrun]
      have hkept := h.quiet quiet
      split
      · next hwanted =>
        exact ⟨_, _, _, rfl, hkept, quiet.length, Or.inr ⟨interface, pid, hclient, hwanted⟩⟩
      · exact ⟨_, _, _, rfl, hkept.stopped hclient,
          (later_stop pid w₁).length.trans quiet.length, Or.inl rfl⟩
    · simp only [hrun]
      exact ⟨_, _, _, rfl, h.released hclient later freed, later.length, Or.inl rfl⟩

theorem stopRelinked_supervises (relinked : Bool) :
    ∃ events c' w', c.stopRelinked udhcpcs relinked w = (events, c', w') ∧ Supervises c' w' ∧
      w'.table.length = w.table.length ∧
      (c'.client = none ∨ relinked = false ∧ c' = c) := by
  unfold DhcpClients.stopRelinked
  cases relinked with
  | false => exact ⟨_, _, _, rfl, h, rfl, Or.inr ⟨rfl, rfl⟩⟩
  | true =>
    cases hclient : c.client with
    | none => exact ⟨_, _, _, rfl, h, rfl, Or.inl hclient⟩
    | some client =>
      obtain ⟨interface, pid⟩ := client
      exact ⟨_, _, _, rfl, h.stopped hclient, (later_stop pid w).length, Or.inl rfl⟩

/-- What holds after a call of `sync`, which `n` starts came before. -/
structure Synced (wanted : Option String) (relinked : Bool) (n : Nat)
    (result : Except String (List DhcpEvent)) (c : DhcpClients) (w : Udhcpcs) : Prop where
  wanted : (∃ events, result = .ok events) → c.client.map Prod.fst = wanted
  onInterface : ∀ interface pid, c.client = some (interface, pid) →
    ∃ child ∈ w.table, child.Held ∧ child.pid = pid ∧ child.what = interface
  restarted : (∃ events, result = .ok events) → relinked = true → ∀ child ∈ w.table,
    c.client.map Prod.snd = some child.pid → child.Held → n ≤ child.born
  failed : (∃ e, result = .error e) → ∀ child ∈ w.table, child.fate ≠ .running

theorem Supervises.onInterface (interface : String) (pid : UInt32)
    (hclient : c.client = some (interface, pid)) :
    ∃ child ∈ w.table, child.Held ∧ child.pid = pid ∧ child.what = interface := by
  obtain ⟨child, hchild, hheld, -, hpid⟩ := h.tracks.present () pid (by rw [hclient]; rfl)
  have hrecorded := h.interface child hchild hheld
  rw [hclient] at hrecorded
  exact ⟨child, hchild, hheld, hpid, (Prod.mk.inj (Option.some.inj hrecorded)).1.symm⟩

theorem Supervises.none_held (hclient : c.client = none) : ∀ child ∈ w.table, ¬ child.Held := by
  intro child hchild hheld
  have hrecorded := h.interface child hchild hheld
  rw [hclient] at hrecorded
  cases hrecorded

theorem start_supervises {wanted : Option String} (hostname : Option String) {relinked : Bool}
    (hclient : c.client = none ∨ relinked = false ∧ c.client.map Prod.fst = wanted) :
    ∃ result c' w', c.start udhcpcs wanted hostname w = (result, c', w') ∧ Supervises c' w' ∧
      Synced wanted relinked w.table.length result c' w' := by
  unfold DhcpClients.start
  cases hc : c.client with
  | some client =>
    obtain ⟨hrelinked, hwanted⟩ := hclient.resolve_left (by rw [hc]; nofun)
    subst hrelinked
    cases wanted with
    | none =>
      rw [hc] at hwanted
      cases hwanted
    | some interface =>
      exact ⟨_, _, _, rfl, h, fun _ => hwanted, h.onInterface, fun _ => nofun, fun ⟨_, he⟩ => by cases he⟩
  | none =>
    have hempty : c = {} := by
      cases c
      cases hc
      rfl
    subst hempty
    cases wanted with
    | none =>
      refine ⟨_, _, _, rfl, h, fun _ => rfl, h.onInterface, fun _ _ _ _ hslot => ?_, fun ⟨_, he⟩ => by cases he⟩
      cases hslot
    | some interface =>
      simp only [udhcpcs]
      rcases spawn_cases interface w with ⟨e, w₁, hspawn, quiet⟩ | ⟨pid, w₁, hspawn, quiet, fresh⟩
      · simp only [hspawn]
        have hkept := h.quiet quiet
        refine ⟨_, _, _, rfl, hkept, fun ⟨_, he⟩ => (by cases he), hkept.onInterface,
          fun ⟨_, he⟩ => (by cases he), fun _ child hchild hrun => ?_⟩
        exact hkept.none_held rfl child hchild (held_of_running hrun)
      · simp only [hspawn]
        have hstarted := (h.quiet quiet).started interface fresh
        refine ⟨_, _, _, rfl, hstarted, fun _ => rfl, hstarted.onInterface,
          fun _ _ child hchild _ hheld => ?_, fun ⟨_, he⟩ => by cases he⟩
        rcases List.mem_cons.mp hchild with rfl | hchild
        · exact quiet.length.ge
        · exact absurd hheld ((h.quiet quiet).none_held rfl child hchild)

theorem sync_supervises (wanted : Option String) (relinked : Bool) (hostname : Option String) :
    ∃ result c' w', c.sync udhcpcs wanted relinked hostname w = (result, c', w') ∧
      Supervises c' w' ∧ Synced wanted relinked w.table.length result c' w' := by
  obtain ⟨unwanted, c₁, w₁, hunwanted, h₁, hlen₁, hleft⟩ := stopUnwanted_supervises h wanted
  obtain ⟨stale, c₂, w₂, hstale, h₂, hlen₂, hkept⟩ := stopRelinked_supervises h₁ relinked
  have hclient : c₂.client = none ∨ relinked = false ∧ c₂.client.map Prod.fst = wanted := by
    rcases hkept with hnone | ⟨hrelinked, rfl⟩
    · exact Or.inl hnone
    · rcases hleft with hnone | ⟨interface, pid, hsome, rfl⟩
      · exact Or.inl hnone
      · exact Or.inr ⟨hrelinked, by rw [hsome]; rfl⟩
  obtain ⟨result, c₃, w₃, hstart, h₃, hsynced⟩ := start_supervises h₂ hostname hclient
  rw [hlen₂, hlen₁] at hsynced
  unfold DhcpClients.sync
  simp only [hunwanted, hstale, hstart]
  cases result with
  | error e => exact ⟨_, _, _, rfl, h₃, hsynced⟩
  | ok started =>
    refine ⟨_, _, _, rfl, h₃, fun _ => hsynced.wanted ⟨_, rfl⟩, hsynced.onInterface,
      fun _ => hsynced.restarted ⟨_, rfl⟩, fun ⟨_, he⟩ => by cases he⟩

omit h

theorem DhcpStep.supervises (step : DhcpStep) {s : DhcpClients × Udhcpcs}
    (h : Supervises s.1 s.2) : Supervises (step.exec s).1 (step.exec s).2 := by
  obtain ⟨c, w⟩ := s
  cases step with
  | stopUnwanted wanted =>
    obtain ⟨_, _, _, hcall, h', -⟩ := stopUnwanted_supervises h wanted
    simp only [exec, hcall]
    exact h'
  | sync wanted relinked hostname =>
    obtain ⟨_, _, _, hcall, h', -⟩ := sync_supervises h wanted relinked hostname
    simp only [exec, hcall]
    exact h'
  | idle => exact Supervises.quiet h (quiet_tick w)

theorem dhcpRun_supervises (oracle : Oracle) (steps : List DhcpStep) :
    Supervises (dhcpRun oracle steps).1 (dhcpRun oracle steps).2 := by
  have hstart : Supervises {} { oracle } :=
    ⟨⟨⟨nofun, List.Pairwise.nil, nofun⟩, nofun⟩, nofun⟩
  induction steps using List.reverseRecOn with
  | nil => exact hstart
  | append_singleton steps step ih =>
    rw [dhcpRun, List.foldl_append]
    exact step.supervises ih

end Supervision

/-- What holds of the clients at any point of a run, and after a call of `sync` there. -/
structure OneClient (c : DhcpClients) (w : Udhcpcs) : Prop where
  /-- At no point so far, also within calls, did two clients run. -/
  atMostOne : ∀ t ∈ w.table :: w.points, AtMostOne (fun _ : String => ()) t
  recorded : ∀ child ∈ w.table, child.fate = .running → c.client = some (child.what, child.pid)
  synced : ∀ wanted relinked hostname result c' w',
    c.sync udhcpcs wanted relinked hostname w = (result, c', w') →
      Synced wanted relinked w.table.length result c' w'

theorem dhcpRun_one_client (oracle : Oracle) (steps : List DhcpStep) :
    OneClient (dhcpRun oracle steps).1 (dhcpRun oracle steps).2 := by
  have h := dhcpRun_supervises oracle steps
  refine ⟨h.tracks.everyPoint, fun child hchild hrun => ?_,
    fun wanted relinked hostname result c' w' hcall => ?_⟩
  · exact h.interface child hchild (held_of_running hrun)
  · obtain ⟨_, _, _, hcall', -, hsynced⟩ := sync_supervises h wanted relinked hostname
    rw [hcall] at hcall'
    cases hcall'
    exact hsynced

end ClixonSwitch.Guarantees
