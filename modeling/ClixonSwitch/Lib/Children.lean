import Mathlib.Data.List.Forall2
import Mathlib.Data.List.Pairwise
import Mathlib.Logic.Function.Basic

/-!
Child processes of a supervisor. A child is started with a pid that no other child
holds, runs until it exits by itself or is stopped, and holds its pid until the
supervisor has stopped it or has been told that it exited. When children exit and
whether a start succeeds is up to an oracle. `Covers` is the invariant of supervisors
that record the children of each kind they hold, and `Tracks` of those that record no
others.
-/
namespace ClixonSwitch.Lib

inductive Fate where
  | running
  /-- Has exited, and the supervisor has not been told. -/
  | exited
  /-- Was stopped, or has exited and the supervisor has been told. -/
  | gone
  deriving DecidableEq, Repr

/-- A child with what it was started as, how many were started before it, and what has
been noted of it since. -/
structure Child (κ ν : Type) where
  pid : UInt32
  what : κ
  born : Nat
  fate : Fate := .running
  notes : List ν := []

variable {κ ν π : Type}

/-- The child holds its pid. -/
def Child.Held (c : Child κ ν) : Prop := c.fate ≠ .gone

/-- What the environment decides, by the number of calls made so far. -/
structure Oracle where
  exits : Nat → UInt32 → Bool := fun _ _ => false
  spawned : Nat → Except String UInt32 := fun n => .ok (UInt32.ofNat n)
  answers : Nat → Bool := fun _ => true

structure Children (κ ν : Type) where
  /-- All children, the last started first. -/
  table : List (Child κ ν) := []
  /-- The table at all points before. -/
  points : List (List (Child κ ν)) := []
  calls : Nat := 0
  oracle : Oracle := {}

namespace Children

section Calls

def change (f : Child κ ν → Child κ ν) (w : Children κ ν) : Children κ ν :=
  { w with table := w.table.map f, points := w.table :: w.points }

def exit (dies : UInt32 → Bool) (c : Child κ ν) : Child κ ν :=
  if c.fate = .running ∧ dies c.pid = true then { c with fate := .exited } else c

/-- Before a call is answered, children may exit. -/
def tick (w : Children κ ν) : Children κ ν :=
  { w.change (exit (w.oracle.exits w.calls)) with calls := w.calls + 1 }

def release (pid : UInt32) (c : Child κ ν) : Child κ ν :=
  if c.pid = pid then { c with fate := .gone } else c

/-- A pid that a child holds is not given to another. -/
def inUse (w : Children κ ν) (pid : UInt32) : Bool :=
  w.table.any fun c => c.pid == pid && c.fate != .gone

def start (pid : UInt32) (what : κ) (w : Children κ ν) : Children κ ν :=
  { w with
    table := { pid, what, born := w.table.length } :: w.table
    points := w.table :: w.points }

def spawn (what : κ) (w : Children κ ν) : Except String UInt32 × Children κ ν :=
  match w.tick.oracle.spawned w.tick.calls with
  | .error e => (.error e, w.tick)
  | .ok pid =>
    if w.tick.inUse pid then (.error "no process", w.tick) else (.ok pid, w.tick.start pid what)

/-- Whether the child runs; if it does not, its pid is free. -/
def running (pid : UInt32) (w : Children κ ν) : Bool × Children κ ν :=
  if w.tick.table.any fun c => c.pid == pid && c.fate == .running then (true, w.tick)
  else (false, w.tick.change (release pid))

def stop (pid : UInt32) (w : Children κ ν) : Children κ ν := w.tick.change (release pid)

/-- Something else that the environment decides. -/
def answer (w : Children κ ν) : Bool × Children κ ν :=
  (w.tick.oracle.answers w.tick.calls, w.tick)

def addNote (of : Child κ ν → Bool) (n : ν) (c : Child κ ν) : Child κ ν :=
  if of c then { c with notes := n :: c.notes } else c

def note (of : Child κ ν → Bool) (n : ν) (w : Children κ ν) : Children κ ν :=
  w.change (addNote of n)

end Calls

section Ageing

/-- A child as it is later on. It has lost its pid only if that is among `freed`. -/
structure Aged (freed : UInt32 → Prop) (c c' : Child κ ν) : Prop where
  pid : c'.pid = c.pid
  what : c'.what = c.what
  born : c'.born = c.born
  running : c'.fate = .running → c.fate = .running
  held : c'.Held → c.Held
  kept : c.Held → ¬ freed c.pid → c'.Held
  notes : ∀ n ∈ c.notes, n ∈ c'.notes

theorem Aged.refl (freed : UInt32 → Prop) (c : Child κ ν) : Aged freed c c :=
  ⟨rfl, rfl, rfl, id, id, fun h _ => h, fun _ => id⟩

theorem Aged.trans {freed : UInt32 → Prop} {c d e : Child κ ν} (h : Aged freed c d)
    (g : Aged freed d e) : Aged freed c e where
  pid := g.pid.trans h.pid
  what := g.what.trans h.what
  born := g.born.trans h.born
  running := fun hr => h.running (g.running hr)
  held := fun hh => h.held (g.held hh)
  kept := fun hh hf => g.kept (h.kept hh hf) (h.pid ▸ hf)
  notes := fun n hn => g.notes n (h.notes n hn)

theorem Aged.mono {freed freed' : UInt32 → Prop} {c d : Child κ ν} (h : Aged freed c d)
    (sub : ∀ pid, freed pid → freed' pid) : Aged freed' c d :=
  ⟨h.pid, h.what, h.born, h.running, h.held, fun hh hf => h.kept hh fun hp => hf (sub _ hp), h.notes⟩

theorem exit_aged (dies : UInt32 → Bool) (c : Child κ ν) :
    Aged (fun _ => False) c (exit dies c) := by
  unfold exit
  split
  · next h =>
    exact ⟨rfl, rfl, rfl, nofun, fun _ => by simp [Child.Held, h.1], fun _ _ => nofun,
      fun _ => id⟩
  · exact Aged.refl _ c

theorem release_aged (pid : UInt32) (c : Child κ ν) : Aged (· = pid) c (release pid c) := by
  unfold release
  split
  · next h =>
    exact ⟨rfl, rfl, rfl, nofun, fun hheld => absurd rfl hheld, fun _ hf => absurd h hf,
      fun _ => id⟩
  · exact Aged.refl _ c

theorem addNote_aged (of : Child κ ν → Bool) (n : ν) (c : Child κ ν) :
    Aged (fun _ => False) c (addNote of n c) := by
  unfold addNote
  split
  · exact ⟨rfl, rfl, rfl, id, id, fun h _ => h, fun _ => List.mem_cons_of_mem n⟩
  · exact Aged.refl _ c

/-- The tables of the second world hold the children of the first, later on. -/
structure Later (freed : UInt32 → Prop) (w w' : Children κ ν) : Prop where
  table : List.Forall₂ (Aged freed) w.table w'.table
  points : ∀ t ∈ w'.points, t ∈ w.points ∨ List.Forall₂ (Aged freed) w.table t

theorem forall₂_map_aged {freed : UInt32 → Prop} {f : Child κ ν → Child κ ν}
    (aged : ∀ c, Aged freed c (f c)) (t : List (Child κ ν)) :
    List.Forall₂ (Aged freed) t (t.map f) := by
  rw [List.forall₂_map_right_iff]
  exact List.forall₂_same.mpr fun c _ => aged c

theorem later_change {freed : UInt32 → Prop} {f : Child κ ν → Child κ ν}
    (aged : ∀ c, Aged freed c (f c)) (w : Children κ ν) : Later freed w (w.change f) where
  table := forall₂_map_aged aged w.table
  points t ht := by
    rcases List.mem_cons.mp ht with rfl | ht
    · exact Or.inr (List.forall₂_same.mpr fun c _ => Aged.refl freed c)
    · exact Or.inl ht

theorem Later.refl (freed : UInt32 → Prop) (w : Children κ ν) : Later freed w w :=
  ⟨List.forall₂_same.mpr fun c _ => Aged.refl freed c, fun _ => Or.inl⟩

theorem forall₂_aged_trans {freed : UInt32 → Prop} {s t u : List (Child κ ν)}
    (h : List.Forall₂ (Aged freed) s t) (g : List.Forall₂ (Aged freed) t u) :
    List.Forall₂ (Aged freed) s u := by
  induction h generalizing u with
  | nil =>
    cases g
    exact .nil
  | cons hc _ ih =>
    cases g with
    | cons gc gs => exact .cons (hc.trans gc) (ih gs)

theorem Later.trans {freed : UInt32 → Prop} {w v u : Children κ ν} (h : Later freed w v)
    (g : Later freed v u) : Later freed w u where
  table := forall₂_aged_trans h.table g.table
  points t ht := by
    rcases g.points t ht with ht | ht
    · exact h.points t ht
    · exact Or.inr (forall₂_aged_trans h.table ht)

theorem Later.mono {freed freed' : UInt32 → Prop} {w v : Children κ ν} (h : Later freed w v)
    (sub : ∀ pid, freed pid → freed' pid) : Later freed' w v where
  table := h.table.imp fun _ _ aged => aged.mono sub
  points t ht := (h.points t ht).imp id fun aged => aged.imp fun _ _ a => a.mono sub

/-- A world in which no child has lost its pid. -/
abbrev Quiet (w w' : Children κ ν) : Prop := Later (fun _ => False) w w'

theorem quiet_tick (w : Children κ ν) : Quiet w w.tick :=
  have h := later_change (exit_aged (w.oracle.exits w.calls)) w
  ⟨h.table, h.points⟩

theorem quiet_answer (w : Children κ ν) : Quiet w w.answer.2 := quiet_tick w

theorem quiet_note (of : Child κ ν → Bool) (n : ν) (w : Children κ ν) : Quiet w (w.note of n) :=
  later_change (addNote_aged of n) w

theorem later_stop (pid : UInt32) (w : Children κ ν) : Later (· = pid) w (w.stop pid) :=
  ((quiet_tick w).mono fun _ => False.elim).trans (later_change (release_aged pid) w.tick)

theorem Later.length {freed : UInt32 → Prop} {w w' : Children κ ν} (h : Later freed w w') :
    w'.table.length = w.table.length := h.table.length_eq.symm

/-- A child of the later world was one before. -/
theorem Later.exists_before {freed : UInt32 → Prop} {w w' : Children κ ν} (h : Later freed w w')
    {c' : Child κ ν} (hc : c' ∈ w'.table) : ∃ c ∈ w.table, Aged freed c c' := by
  obtain ⟨i, hi, rfl⟩ := List.mem_iff_getElem.mp hc
  have hi' : i < w.table.length := h.length ▸ hi
  exact ⟨w.table[i], List.getElem_mem hi', List.forall₂_iff_get.mp h.table |>.2 i hi' hi⟩

theorem Later.exists_after {freed : UInt32 → Prop} {w w' : Children κ ν} (h : Later freed w w')
    {c : Child κ ν} (hc : c ∈ w.table) : ∃ c' ∈ w'.table, Aged freed c c' := by
  obtain ⟨i, hi, rfl⟩ := List.mem_iff_getElem.mp hc
  have hi' : i < w'.table.length := by rw [h.length]; exact hi
  exact ⟨w'.table[i], List.getElem_mem hi', List.forall₂_iff_get.mp h.table |>.2 i hi hi'⟩

theorem not_held_of_release {w : Children κ ν} {pid : UInt32} {c : Child κ ν}
    (hc : c ∈ (w.change (release pid)).table) (hpid : c.pid = pid) : ¬ c.Held := by
  obtain ⟨d, -, rfl⟩ := List.mem_map.mp hc
  unfold release at hpid ⊢
  split at hpid
  · next h =>
    rw [if_pos h]
    exact fun hheld => hheld rfl
  · next h => exact absurd hpid h

/-- A call of `running` is quiet if the child runs, and frees its pid if not. -/
theorem running_cases (pid : UInt32) (w : Children κ ν) :
    (∃ w', w.running pid = (true, w') ∧ Quiet w w') ∨
      ∃ w', w.running pid = (false, w') ∧ Later (· = pid) w w' ∧
        ∀ c ∈ w'.table, c.pid = pid → ¬ c.Held := by
  unfold running
  split
  · exact Or.inl ⟨_, rfl, quiet_tick w⟩
  · exact Or.inr ⟨_, rfl, later_stop pid w, fun c hc => not_held_of_release hc⟩

/-- Nothing but the fate of a child has changed. -/
structure FateOnly (c c' : Child κ ν) : Prop where
  eq : c' = { c with fate := c'.fate }
  held : c'.Held → c.Held

theorem FateOnly.refl (c : Child κ ν) : FateOnly c c := ⟨rfl, id⟩

theorem FateOnly.trans {c d e : Child κ ν} (h : FateOnly c d) (g : FateOnly d e) :
    FateOnly c e := by
  refine ⟨?_, fun held => h.held (g.held held)⟩
  rw [g.eq, h.eq]

theorem exit_fateOnly (dies : UInt32 → Bool) (c : Child κ ν) : FateOnly c (exit dies c) := by
  refine ⟨?_, (exit_aged dies c).held⟩
  unfold exit
  split <;> rfl

theorem release_fateOnly (pid : UInt32) (c : Child κ ν) : FateOnly c (release pid c) := by
  refine ⟨?_, (release_aged pid c).held⟩
  unfold release
  split <;> rfl

theorem change_fateOnly {f : Child κ ν → Child κ ν} (only : ∀ c, FateOnly c (f c))
    (w : Children κ ν) : ∀ c' ∈ (w.change f).table, ∃ c ∈ w.table, FateOnly c c' := by
  intro c' hc'
  obtain ⟨c, hc, rfl⟩ := List.mem_map.mp hc'
  exact ⟨c, hc, only c⟩

theorem tick_fateOnly (w : Children κ ν) :
    ∀ c' ∈ w.tick.table, ∃ c ∈ w.table, FateOnly c c' :=
  change_fateOnly (exit_fateOnly _) w

/-- Asking whether a child runs notes nothing. -/
theorem running_fateOnly (pid : UInt32) (w : Children κ ν) :
    ∀ c' ∈ (w.running pid).2.table, ∃ c ∈ w.table, FateOnly c c' := by
  unfold running
  split
  · exact tick_fateOnly w
  · intro c' hc'
    obtain ⟨d, hd, only⟩ := change_fateOnly (release_fateOnly pid) w.tick c' hc'
    obtain ⟨c, hc, only'⟩ := tick_fateOnly w d hd
    exact ⟨c, hc, only'.trans only⟩

theorem Later.map_what {freed : UInt32 → Prop} {w w' : Children κ ν} (h : Later freed w w') :
    w'.table.map Child.what = w.table.map Child.what := by
  obtain ⟨hlen, hget⟩ := List.forall₂_iff_get.mp h.table
  refine List.ext_getElem (by simp [hlen]) fun i hi hi' => ?_
  simp only [List.getElem_map]
  simp only [List.length_map] at hi hi'
  exact (hget i hi' hi).what

theorem spawn_cases (what : κ) (w : Children κ ν) :
    (∃ e w', w.spawn what = (.error e, w') ∧ Quiet w w') ∨
      ∃ pid w', w.spawn what = (.ok pid, w'.start pid what) ∧ Quiet w w' ∧
        ∀ c ∈ w'.table, c.Held → c.pid ≠ pid := by
  unfold spawn
  split
  · exact Or.inl ⟨_, _, rfl, quiet_tick w⟩
  · next pid _ =>
    split
    · exact Or.inl ⟨_, _, rfl, quiet_tick w⟩
    · next huse =>
      refine Or.inr ⟨pid, w.tick, rfl, quiet_tick w, fun c hc hheld hpid => huse ?_⟩
      refine List.any_eq_true.mpr ⟨c, hc, ?_⟩
      simpa [hpid, Child.Held] using hheld

end Ageing

section Tracking
variable (kind : κ → π)

/-- Of each kind at most one child runs. -/
def AtMostOne (t : List (Child κ ν)) : Prop :=
  t.Pairwise fun a b => kind a.what = kind b.what → a.fate = .running → b.fate ≠ .running

/-- Every child that holds its pid is recorded, one of each kind. -/
structure Covers (slots : π → Option UInt32) (w : Children κ ν) : Prop where
  recorded : ∀ c ∈ w.table, c.Held → slots (kind c.what) = some c.pid
  distinct : w.table.Pairwise fun a b => a.Held → b.Held → a.pid ≠ b.pid
  points : ∀ t ∈ w.points, AtMostOne kind t

/-- Moreover, what is recorded is a child that holds its pid. -/
structure Tracks (slots : π → Option UInt32) (w : Children κ ν) : Prop
    extends Covers kind slots w where
  present : ∀ k pid, slots k = some pid → ∃ c ∈ w.table, c.Held ∧ kind c.what = k ∧ c.pid = pid

variable {kind} {slots : π → Option UInt32} {w w' : Children κ ν}

theorem held_of_running {c : Child κ ν} (h : c.fate = .running) : c.Held := by
  rw [Child.Held, h]
  nofun

theorem Covers.atMostOne (h : Covers kind slots w) : AtMostOne kind w.table := by
  refine h.distinct.imp_of_mem fun {a b} ha hb hne hkind hra hrb => ?_
  have hheld := held_of_running hra
  have hheld' := held_of_running hrb
  have hpid : some a.pid = some b.pid := by
    rw [← h.recorded a ha hheld, hkind, h.recorded b hb hheld']
  exact hne hheld hheld' (Option.some.inj hpid)

theorem Covers.everyPoint (h : Covers kind slots w) :
    ∀ t ∈ w.table :: w.points, AtMostOne kind t := by
  intro t ht
  rcases List.mem_cons.mp ht with rfl | ht
  · exact h.atMostOne
  · exact h.points t ht

theorem atMostOne_aged {freed : UInt32 → Prop} {s t : List (Child κ ν)}
    (h : List.Forall₂ (Aged freed) s t) (one : AtMostOne kind s) : AtMostOne kind t := by
  rw [AtMostOne, List.pairwise_iff_getElem] at one ⊢
  obtain ⟨hlen, hget⟩ := List.forall₂_iff_get.mp h
  intro i j hi hj hij hkind hri hrj
  have hi' : i < s.length := hlen ▸ hi
  have hj' : j < s.length := hlen ▸ hj
  have agedI := hget i hi' hi
  have agedJ := hget j hj' hj
  simp only [List.get_eq_getElem] at agedI agedJ
  refine one i j hi' hj' hij ?_ (agedI.running hri) (agedJ.running hrj)
  rw [← agedI.what, ← agedJ.what, hkind]

theorem distinct_aged {freed : UInt32 → Prop} {s t : List (Child κ ν)}
    (h : List.Forall₂ (Aged freed) s t)
    (distinct : s.Pairwise fun a b => a.Held → b.Held → a.pid ≠ b.pid) :
    t.Pairwise fun a b => a.Held → b.Held → a.pid ≠ b.pid := by
  rw [List.pairwise_iff_getElem] at distinct ⊢
  obtain ⟨hlen, hget⟩ := List.forall₂_iff_get.mp h
  intro i j hi hj hij hheldI hheldJ
  have hi' : i < s.length := hlen ▸ hi
  have hj' : j < s.length := hlen ▸ hj
  have agedI := hget i hi' hi
  have agedJ := hget j hj' hj
  simp only [List.get_eq_getElem] at agedI agedJ
  rw [agedI.pid, agedJ.pid]
  exact distinct i j hi' hj' hij (agedI.held hheldI) (agedJ.held hheldJ)

/-- What is no longer recorded has lost its pid. -/
theorem Covers.later (h : Covers kind slots w) {freed : UInt32 → Prop} (later : Later freed w w')
    (freedNow : ∀ c ∈ w'.table, freed c.pid → ¬ c.Held) {slots' : π → Option UInt32}
    (kept : ∀ k pid, slots k = some pid → ¬ freed pid → slots' k = some pid) :
    Covers kind slots' w' where
  recorded c' hc' hheld := by
    obtain ⟨c, hc, aged⟩ := later.exists_before hc'
    rw [aged.what, aged.pid]
    refine kept _ _ (h.recorded c hc (aged.held hheld)) fun hfreed => ?_
    exact freedNow c' hc' (aged.pid ▸ hfreed) hheld
  distinct := distinct_aged later.table h.distinct
  points t ht := by
    rcases later.points t ht with ht | ht
    · exact h.points t ht
    · exact atMostOne_aged ht h.atMostOne

theorem Covers.quiet (h : Covers kind slots w) (quiet : Quiet w w') : Covers kind slots w' :=
  h.later quiet (fun _ _ => False.elim) fun _ _ hk _ => hk

/-- Children that lose their pid are those that are no longer recorded. -/
theorem Tracks.later (h : Tracks kind slots w) {freed : UInt32 → Prop} (later : Later freed w w')
    (freedNow : ∀ c ∈ w'.table, freed c.pid → ¬ c.Held) {slots' : π → Option UInt32}
    (iff : ∀ k pid, slots' k = some pid ↔ slots k = some pid ∧ ¬ freed pid) :
    Tracks kind slots' w' where
  toCovers := h.toCovers.later later freedNow fun k pid hk hfreed => (iff k pid).mpr ⟨hk, hfreed⟩
  present k pid hk := by
    obtain ⟨hslot, hfreed⟩ := (iff k pid).mp hk
    obtain ⟨c, hc, hheld, hkind, hpid⟩ := h.present k pid hslot
    obtain ⟨c', hc', aged⟩ := later.exists_after hc
    exact ⟨c', hc', aged.kept hheld (hpid ▸ hfreed), aged.what ▸ hkind, aged.pid.trans hpid⟩

theorem Tracks.quiet (h : Tracks kind slots w) (quiet : Quiet w w') : Tracks kind slots w' :=
  h.later quiet (fun _ _ => False.elim) fun k pid => by simp

/-- No two children hold one pid. -/
theorem Covers.eq_of_pid (h : Covers kind slots w) {c d : Child κ ν} (hc : c ∈ w.table)
    (hd : d ∈ w.table) (held : c.Held) (held' : d.Held) (hpid : c.pid = d.pid) : c = d := by
  by_contra hne
  have hsymm : Std.Symm fun a b : Child κ ν => a.Held → b.Held → a.pid ≠ b.pid :=
    ⟨fun _ _ hab hb ha heq => hab ha hb heq.symm⟩
  exact h.distinct.forall hc hd hne held held' hpid

/-- There is one child of a kind that holds its pid. -/
theorem Covers.unique (h : Covers kind slots w) {c d : Child κ ν} (hc : c ∈ w.table)
    (hd : d ∈ w.table) (held : c.Held) (held' : d.Held) (same : kind c.what = kind d.what) :
    c = d := by
  refine h.eq_of_pid hc hd held held' (Option.some.inj ?_)
  rw [← h.recorded c hc held, same, h.recorded d hd held']

/-- A pid is recorded for one kind only. -/
theorem Tracks.slots_inj (h : Tracks kind slots w) {j k : π} {pid : UInt32}
    (hj : slots j = some pid) (hk : slots k = some pid) : j = k := by
  obtain ⟨c, hc, hheld, rfl, rfl⟩ := h.present j _ hj
  obtain ⟨d, hd, hheld', rfl, hpid⟩ := h.present k _ hk
  rw [h.eq_of_pid hc hd hheld hheld' hpid.symm]

/-- The record of a supervisor of one kind of children. -/
theorem update_unit {α : Type} (f : Unit → α) (a : α) : Function.update f () a = fun _ => a := by
  funext k
  exact Function.update_self ..

variable [DecidableEq π]

/-- A child whose pid is free is taken off the record. -/
theorem Covers.released (h : Covers kind slots w) {k : π} {pid : UInt32} (hk : slots k = some pid)
    (later : Later (· = pid) w w') (freed : ∀ c ∈ w'.table, c.pid = pid → ¬ c.Held) :
    Covers kind (Function.update slots k none) w' := by
  refine h.later later freed fun j p hp hne => ?_
  rw [Function.update_of_ne, hp]
  rintro rfl
  exact hne (Option.some.inj (hp.symm.trans hk))

theorem Tracks.released (h : Tracks kind slots w) {k : π} {pid : UInt32} (hk : slots k = some pid)
    (later : Later (· = pid) w w') (freed : ∀ c ∈ w'.table, c.pid = pid → ¬ c.Held) :
    Tracks kind (Function.update slots k none) w' := by
  refine h.later later freed fun j p => ?_
  by_cases hj : j = k
  · subst hj
    rw [Function.update_self, hk]
    simp [eq_comm]
  · rw [Function.update_of_ne hj]
    refine ⟨fun hp => ⟨hp, fun heq => hj ?_⟩, And.left⟩
    subst heq
    exact h.slots_inj hp hk

/-- A child that is started is recorded; none of its kind was before. -/
theorem Covers.started (h : Covers kind slots w) (what : κ) {pid : UInt32}
    (hk : slots (kind what) = none) (fresh : ∀ c ∈ w.table, c.Held → c.pid ≠ pid) :
    Covers kind (Function.update slots (kind what) (some pid)) (w.start pid what) where
  recorded c hc hheld := by
    rcases List.mem_cons.mp hc with rfl | hc
    · exact Function.update_self _ _ _
    · have hslot := h.recorded c hc hheld
      rw [Function.update_of_ne, hslot]
      intro hkind
      rw [hkind, hk] at hslot
      cases hslot
  distinct := by
    refine List.Pairwise.cons (fun c hc _ hheld => ?_) h.distinct
    exact (fresh c hc hheld).symm
  points := by
    intro t ht
    rcases List.mem_cons.mp ht with rfl | ht
    · exact h.atMostOne
    · exact h.points t ht

theorem Tracks.started (h : Tracks kind slots w) (what : κ) {pid : UInt32}
    (hk : slots (kind what) = none) (fresh : ∀ c ∈ w.table, c.Held → c.pid ≠ pid) :
    Tracks kind (Function.update slots (kind what) (some pid)) (w.start pid what) where
  toCovers := h.toCovers.started what hk fresh
  present k p hp := by
    by_cases hkind : k = kind what
    · subst hkind
      rw [Function.update_self] at hp
      exact ⟨_, List.mem_cons_self, nofun, rfl, Option.some.inj hp⟩
    · rw [Function.update_of_ne hkind] at hp
      obtain ⟨c, hc, hc'⟩ := h.present k p hp
      exact ⟨c, List.mem_cons_of_mem _ hc, hc'⟩

end Tracking

end Children

end ClixonSwitch.Lib
