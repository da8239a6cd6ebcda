import Mathlib

/-!
Commands that overwrite cells. Each command touches some cells and gives each of
them a value that does not depend on what the cell held, so after a sequence of
commands a cell holds what the last command that touches it wrote.
-/
namespace ClixonSwitch.Lib

variable {α K V : Type}

/-- `step` overwrites exactly the cells that a command touches. -/
structure Overwrites (step : α → (K → V) → K → V) (touches : α → K → Bool) (write : α → K → V) :
    Prop where
  frame : ∀ a f k, touches a k = false → step a f k = f k
  wrote : ∀ a f k, touches a k = true → step a f k = write a k

/-- The last command that touches a cell. -/
def lastTouch (touches : α → K → Bool) (commands : List α) (k : K) : Option α :=
  (commands.filter (touches · k)).getLast?

section LastTouch
variable {touches : α → K → Bool} {as bs : List α} {a : α} {k : K}

theorem lastTouch_append :
    lastTouch touches (as ++ bs) k = (lastTouch touches bs k).or (lastTouch touches as k) := by
  simp [lastTouch, List.filter_append, List.getLast?_append]

theorem lastTouch_eq_none : lastTouch touches as k = none ↔ ∀ a ∈ as, touches a k = false := by
  simp [lastTouch]

theorem lastTouch_mem (h : lastTouch touches as k = some a) : a ∈ as ∧ touches a k = true :=
  List.mem_filter.mp (List.mem_of_getLast? h)

theorem lastTouch_of_unique (member : a ∈ as) (touched : touches a k = true)
    (unique : ∀ b ∈ as, touches b k = true → b = a) : lastTouch touches as k = some a := by
  cases h : lastTouch touches as k with
  | none =>
    rw [lastTouch_eq_none.mp h a member] at touched
    cases touched
  | some b => rw [unique b (lastTouch_mem h).1 (lastTouch_mem h).2]

theorem lastTouch_of_split (touched : touches a k = true) (rest : ∀ b ∈ bs, touches b k = false) :
    lastTouch touches (as ++ a :: bs) k = some a := by
  have hlast : lastTouch touches (a :: bs) k = some a := by
    have hrest : bs.filter (touches · k) = [] := by simpa using rest
    simp [lastTouch, touched, hrest]
  rw [lastTouch_append, hlast, Option.some_or]

end LastTouch

variable {step : α → (K → V) → K → V} {touches : α → K → Bool} {write : α → K → V}

/-- A cell after a sequence of commands. -/
theorem Overwrites.foldl_eq (h : Overwrites step touches write) (commands : List α) (f : K → V)
    (k : K) : commands.foldl (fun f a => step a f) f k =
      ((lastTouch touches commands k).map (write · k)).getD (f k) := by
  induction commands using List.reverseRecOn with
  | nil => rfl
  | append_singleton commands a ih =>
    rw [List.foldl_append, List.foldl_cons, List.foldl_nil, lastTouch_append]
    cases ht : touches a k with
    | false =>
      have hnone : lastTouch touches [a] k = none := lastTouch_eq_none.mpr (by simpa using ht)
      rw [h.frame _ _ _ ht, ih, hnone, Option.none_or]
    | true =>
      have hsome : lastTouch touches [a] k = some a :=
        lastTouch_of_unique (List.mem_singleton_self a) ht (by simp)
      rw [h.wrote _ _ _ ht, hsome]
      rfl

end ClixonSwitch.Lib
