import Mathlib.Algebra.BigOperators.Intervals
import Mathlib.Tactic.IntervalCases

/-!
The Gregorian calendar, as it is counted: the days of whole years, of whole months and
of the last month. The closed forms count the same days with divisions.
-/
namespace ClixonSwitch.Lib.Calendar

def IsLeap (year : Nat) : Prop := year % 4 = 0 ∧ (year % 100 ≠ 0 ∨ year % 400 = 0)

instance (year : Nat) : Decidable (IsLeap year) :=
  inferInstanceAs (Decidable (_ ∧ (_ ∨ _)))

theorem isLeap_add_era (year era : Nat) : IsLeap (year + 400 * era) ↔ IsLeap year := by
  unfold IsLeap
  omega

def yearDays (year : Nat) : Nat := if IsLeap year then 366 else 365

/-- The length of a month, January being 1. -/
def monthDays (year : Nat) : Nat → Nat
  | 2 => if IsLeap year then 29 else 28
  | 4 | 6 | 9 | 11 => 30
  | _ => 31

/-- The days from the first of January of `epoch` to a date. -/
def daysSince (epoch year month day : Nat) : Nat :=
  ∑ y ∈ Finset.Ico epoch year, yearDays y + ∑ m ∈ Finset.Ico 1 month, monthDays year m + (day - 1)

/-- The days of all years before `year`, from the year 1 on. -/
def daysBeforeYear (year : Nat) : Nat :=
  365 * (year - 1) + (year - 1) / 4 - (year - 1) / 100 + (year - 1) / 400

theorem succ_div_eq (n d : Nat) :
    (n + 1) / d = n / d + if (n + 1) % d = 0 then 1 else 0 := by
  rw [Nat.succ_div]
  simp only [Nat.dvd_iff_mod_eq_zero]

theorem daysBeforeYear_succ {year : Nat} (h : 1 ≤ year) :
    daysBeforeYear (year + 1) = daysBeforeYear year + yearDays year := by
  obtain ⟨n, rfl⟩ := Nat.exists_eq_add_of_le' h
  have hle : n / 100 ≤ n / 4 := Nat.div_le_div_left (by decide) (by decide)
  have hcentury : (n + 1) % 100 = 0 → (n + 1) % 4 = 0 := by omega
  have hera : (n + 1) % 400 = 0 → (n + 1) % 100 = 0 := by omega
  have hyear : yearDays (n + 1) =
      if (n + 1) % 4 = 0 ∧ ((n + 1) % 100 ≠ 0 ∨ (n + 1) % 400 = 0) then 366 else 365 := rfl
  -- each quotient grows where its divisor divides the year
  simp only [daysBeforeYear, hyear, Nat.add_sub_cancel, succ_div_eq n]
  clear hyear
  generalize n / 4 = quarters at *
  generalize n / 100 = centuries at *
  generalize (n + 1) % 4 = a at *
  generalize (n + 1) % 100 = b at *
  generalize (n + 1) % 400 = c at *
  split_ifs <;> omega

theorem sum_yearDays {epoch year : Nat} (hepoch : 1 ≤ epoch) (h : epoch ≤ year) :
    daysBeforeYear epoch + ∑ y ∈ Finset.Ico epoch year, yearDays y = daysBeforeYear year := by
  induction year, h using Nat.le_induction with
  | base => simp
  | succ year hle ih =>
    rw [Finset.sum_Ico_succ_top hle, ← add_assoc, ih, daysBeforeYear_succ (hepoch.trans hle)]

theorem daysBeforeYear_mono {first year : Nat} (hfirst : 1 ≤ first) (h : first ≤ year) :
    daysBeforeYear first ≤ daysBeforeYear year := by
  rw [← sum_yearDays hfirst h]
  exact Nat.le_add_right _ _

section March

/-- The months counted from March, so that the leap day is the last day of a year. -/
def fromMarch (index : Nat) : Nat := if index < 10 then index + 3 else index - 9

/-- The days before a month in a year that begins with March. -/
def daysBeforeIndex (index : Nat) : Nat := (153 * index + 2) / 5

theorem monthDays_fromMarch (year : Nat) {index : Nat} (h : index < 11) :
    daysBeforeIndex index + monthDays year (fromMarch index) = daysBeforeIndex (index + 1) := by
  interval_cases index <;> rfl

/-- The months from January on that come before one of March to December. -/
theorem sum_monthDays_spring (year : Nat) {index : Nat} (h : index < 10) :
    ∑ m ∈ Finset.Ico 1 (fromMarch index), monthDays year m + 306 =
      yearDays year + daysBeforeIndex index := by
  induction index with
  | zero =>
    simp only [fromMarch, Finset.sum_Ico_succ_top, Finset.Ico_self, Finset.sum_empty, monthDays,
      yearDays, daysBeforeIndex, Nat.reduceAdd, Nat.reduceLT, if_true, Nat.one_le_ofNat, le_refl]
    split <;> rfl
  | succ index ih =>
    have hmonth : fromMarch (index + 1) = fromMarch index + 1 := by
      simp only [fromMarch, if_pos h, if_pos (Nat.lt_of_succ_lt h)]
    have hone : 1 ≤ fromMarch index := by
      rw [fromMarch, if_pos (Nat.lt_of_succ_lt h)]
      omega
    have hdays := monthDays_fromMarch year (by omega : index < 11)
    rw [hmonth, Finset.sum_Ico_succ_top hone]
    have hbefore := ih (by omega)
    omega

theorem sum_monthDays_winter (year : Nat) {index : Nat} (low : 10 ≤ index) (high : index < 12) :
    ∑ m ∈ Finset.Ico 1 (fromMarch index), monthDays year m + 306 = daysBeforeIndex index := by
  interval_cases index <;> rfl

end March
end ClixonSwitch.Lib.Calendar
