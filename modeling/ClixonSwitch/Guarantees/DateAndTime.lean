import ClixonSwitch.Lib.Calendar
import ClixonSwitch.Lib.NumberList
import ClixonSwitch.Source.SwitchModel.System

/-!
# `date_and_time` and the Gregorian calendar

The date is computed with divisions in eras of 400 years that begin with March. Read
back from the text, it is the date that counting days, months and years leads to.
-/
namespace ClixonSwitch.Guarantees
open Lib Lib.Calendar Lib.CheckedInt
open Lib.NumberList Source.SwitchModel

section Era

/-- The days of an era before one of its years. -/
def daysBeforeYearOfEra (yoe : Nat) : Nat := 365 * yoe + yoe / 4 - yoe / 100

/-- A day of an era without the leap days before it, as the divisions count them. -/
def withoutLeapDays (doe : Nat) : Nat := doe - doe / 1460 + doe / 36524 - doe / 146096

def yearOfEra (doe : Nat) : Nat := withoutLeapDays doe / 365

theorem withoutLeapDays_mono : Monotone withoutLeapDays := by
  refine monotone_nat_of_le_succ fun n => ?_
  have hera : (n + 1) % 146096 = 0 → (n + 1) % 36524 = 0 := by omega
  have hle : n / 1460 ≤ n := Nat.div_le_self n 1460
  have hera_le : n / 146096 ≤ n / 36524 := Nat.div_le_div_left (by decide) (by decide)
  simp only [withoutLeapDays, succ_div_eq n]
  generalize n / 1460 = a at *
  generalize n / 36524 = b at *
  generalize n / 146096 = c at *
  generalize (n + 1) % 36524 = q at *
  generalize (n + 1) % 146096 = r at *
  split_ifs <;> omega

/-- The first and the last day of each year of an era. -/
theorem withoutLeapDays_year : ∀ yoe < 400,
    365 * yoe ≤ withoutLeapDays (daysBeforeYearOfEra yoe) ∧
      (0 < yoe → withoutLeapDays (daysBeforeYearOfEra yoe - 1) < 365 * yoe) := by
  decide +kernel

theorem yearOfEra_spec {doe : Nat} (h : doe < 146097) :
    yearOfEra doe < 400 ∧ daysBeforeYearOfEra (yearOfEra doe) ≤ doe ∧
      (yearOfEra doe < 399 → doe < daysBeforeYearOfEra (yearOfEra doe + 1)) := by
  have hlast : withoutLeapDays doe ≤ withoutLeapDays 146096 :=
    withoutLeapDays_mono (Nat.le_of_lt_succ h)
  have hvalue : withoutLeapDays 146096 = 145999 := rfl
  have hlow : 365 * yearOfEra doe ≤ withoutLeapDays doe := Nat.mul_div_le _ _
  have hhigh : withoutLeapDays doe < 365 * (yearOfEra doe + 1) := Nat.lt_mul_div_succ _ (by decide)
  have hyear : yearOfEra doe < 400 := by omega
  refine ⟨hyear, Nat.le_of_not_lt fun hbefore => ?_, fun hnext => Nat.lt_of_not_le fun hafter => ?_⟩
  · have hpos : 0 < yearOfEra doe := by
      by_contra hzero
      have hz : yearOfEra doe = 0 := by omega
      rw [hz] at hbefore
      exact absurd hbefore (Nat.not_lt_zero doe)
    have hend := (withoutLeapDays_year _ hyear).2 hpos
    have hmono := withoutLeapDays_mono (Nat.le_sub_one_of_lt hbefore)
    omega
  · have hstart := (withoutLeapDays_year (yearOfEra doe + 1) (by omega)).1
    have hmono := withoutLeapDays_mono hafter
    omega

end Era

section Date

/-- A date as the algorithm finds it: eras, years of the era and months begin with
March. -/
structure MarchDate (days era yoe doy : Nat) : Prop where
  days : days + 719468 = 146097 * era + daysBeforeYearOfEra yoe + doy
  year : yoe < 400
  day : doy ≤ 365
  leapDay : doy = 365 → IsLeap (yoe + 1 + 400 * era)

theorem marchDate (days : Nat) :
    MarchDate days ((days + 719468) / 146097) (yearOfEra ((days + 719468) % 146097))
      ((days + 719468) % 146097 - daysBeforeYearOfEra (yearOfEra ((days + 719468) % 146097))) := by
  have hdoe : (days + 719468) % 146097 < 146097 := Nat.mod_lt _ (by decide)
  have hsplit := Nat.div_add_mod (days + 719468) 146097
  generalize (days + 719468) / 146097 = era at *
  generalize (days + 719468) % 146097 = doe at *
  obtain ⟨hyear, hstart, hend⟩ := yearOfEra_spec hdoe
  generalize yearOfEra doe = yoe at *
  unfold daysBeforeYearOfEra at *
  refine ⟨by unfold daysBeforeYearOfEra; omega, hyear, ?_, fun hlast => ?_⟩
  · by_cases hnext : yoe < 399
    · have hbound := hend hnext
      omega
    · omega
  · rw [isLeap_add_era]
    by_cases hnext : yoe < 399
    · have hbound := hend hnext
      have hquarter := succ_div_eq yoe 4
      have hcentury := succ_div_eq yoe 100
      have hfour : (yoe + 1) % 4 = 0 ∧ (yoe + 1) % 100 ≠ 0 := by
        generalize (yoe + 1) / 4 = a at *
        generalize (yoe + 1) / 100 = b at *
        split_ifs at hquarter hcentury <;> omega
      exact ⟨hfour.1, Or.inl hfour.2⟩
    · have hyoe : yoe = 399 := by omega
      rw [hyoe]
      decide

/-- The month and the day of the month that the algorithm finds. -/
def monthIndex (doy : Nat) : Nat := (5 * doy + 2) / 153

def dayOfMonth (doy : Nat) : Nat := doy - daysBeforeIndex (monthIndex doy) + 1

theorem monthIndex_spec (doy : Nat) :
    daysBeforeIndex (monthIndex doy) ≤ doy ∧ doy < daysBeforeIndex (monthIndex doy + 1) := by
  unfold daysBeforeIndex monthIndex
  omega

section MarchDate
variable {days era yoe doy : Nat}

/-- January and February belong to the next year. -/
def calendarYear (era yoe doy : Nat) : Nat :=
  yoe + 400 * era + if fromMarch (monthIndex doy) ≤ 2 then 1 else 0

theorem daysBeforeYear_era (hyear : yoe < 400) :
    daysBeforeYear (yoe + 400 * era + 1) = 146097 * era + daysBeforeYearOfEra yoe := by
  unfold daysBeforeYear daysBeforeYearOfEra
  rw [Nat.add_sub_cancel]
  have hquarter : (yoe + 400 * era) / 4 = yoe / 4 + 100 * era := by omega
  have hcentury : (yoe + 400 * era) / 100 = yoe / 100 + 4 * era := by omega
  have hera : (yoe + 400 * era) / 400 = era := by omega
  rw [hquarter, hcentury, hera]
  omega

variable (h : MarchDate days era yoe doy)
include h

theorem MarchDate.monthIndex_lt : monthIndex doy < 12 := by
  have hday := h.day
  unfold monthIndex
  omega

theorem MarchDate.month : 1 ≤ fromMarch (monthIndex doy) ∧ fromMarch (monthIndex doy) ≤ 12 := by
  have hindex := h.monthIndex_lt
  unfold fromMarch
  split <;> omega

omit h in
theorem calendarYear_spring (hindex : monthIndex doy < 10) :
    calendarYear era yoe doy = yoe + 400 * era := by
  rw [calendarYear, fromMarch, if_pos hindex, if_neg (by omega)]
  rfl

omit h in
theorem calendarYear_winter (low : 10 ≤ monthIndex doy) (high : monthIndex doy < 12) :
    calendarYear era yoe doy = yoe + 400 * era + 1 := by
  have hmonth : fromMarch (monthIndex doy) ≤ 2 := by
    rw [fromMarch, if_neg (by omega)]
    omega
  rw [calendarYear, if_pos hmonth]

theorem MarchDate.day_le :
    dayOfMonth doy ≤ monthDays (calendarYear era yoe doy) (fromMarch (monthIndex doy)) := by
  obtain ⟨hstart, hend⟩ := monthIndex_spec doy
  have hindex := h.monthIndex_lt
  by_cases hfebruary : monthIndex doy = 11
  · have hleap : doy = 365 → IsLeap (calendarYear era yoe doy) := by
      intro hlast
      rw [calendarYear_winter (by omega) hindex, Nat.add_right_comm]
      exact h.leapDay hlast
    have hday : dayOfMonth doy = doy - 337 + 1 := by
      rw [dayOfMonth, hfebruary]
      rfl
    have hle := h.day
    rw [hday, hfebruary]
    show doy - 337 + 1 ≤ if IsLeap (calendarYear era yoe doy) then 29 else 28
    split
    · omega
    · next hcommon =>
      have hne : doy ≠ 365 := fun hlast => hcommon (hleap hlast)
      omega
  · have hmonth := monthDays_fromMarch (calendarYear era yoe doy)
      (by omega : monthIndex doy < 11)
    unfold dayOfMonth
    omega

theorem MarchDate.daysBeforeYear : daysBeforeYear (yoe + 400 * era + 1) + doy = days + 719468 := by
  rw [daysBeforeYear_era h.year, h.days]

theorem MarchDate.year_ge : 1970 ≤ calendarYear era yoe doy := by
  have hcount := h.daysBeforeYear
  have hindex := h.monthIndex_lt
  have hday := h.day
  by_contra hbefore
  by_cases hspring : monthIndex doy < 10
  · rw [calendarYear_spring hspring] at hbefore
    have hdoy : doy < 306 := by
      unfold monthIndex at hspring
      omega
    have hepoch : Calendar.daysBeforeYear 1970 = 719162 := rfl
    have hle := daysBeforeYear_mono (by omega) (by omega : yoe + 400 * era + 1 ≤ 1970)
    omega
  · rw [calendarYear_winter (by omega) hindex] at hbefore
    have hepoch : Calendar.daysBeforeYear 1969 = 718797 := rfl
    have hle := daysBeforeYear_mono (by omega) (by omega : yoe + 400 * era + 1 ≤ 1969)
    omega

/-- Counting from 1970 leads back to the day the date was computed from. -/
theorem MarchDate.daysSince :
    daysSince 1970 (calendarYear era yoe doy) (fromMarch (monthIndex doy)) (dayOfMonth doy) =
      days := by
  have hcount := h.daysBeforeYear
  have hindex := h.monthIndex_lt
  have hstart := (monthIndex_spec doy).1
  have hday : dayOfMonth doy - 1 = doy - daysBeforeIndex (monthIndex doy) := rfl
  have hepoch : Calendar.daysBeforeYear 1970 = 719162 := rfl
  have hyears := sum_yearDays (by decide) h.year_ge
  unfold Calendar.daysSince
  rw [hday]
  by_cases hspring : monthIndex doy < 10
  · rw [calendarYear_spring hspring] at hyears ⊢
    have hmonths := sum_monthDays_spring (yoe + 400 * era) hspring
    have hnext : Calendar.daysBeforeYear (yoe + 400 * era + 1) = _ :=
      daysBeforeYear_succ (by have := h.year_ge; rw [calendarYear_spring hspring] at this; omega)
    omega
  · rw [calendarYear_winter (by omega) hindex] at hyears ⊢
    have hmonths := sum_monthDays_winter (yoe + 400 * era + 1) (by omega) hindex
    omega

end MarchDate

end Date

section Checked

theorem yoeOf_natCast {doe : Nat} (h : doe < 146097) : yoeOf doe = some (yearOfEra doe : Int) := by
  have hleap : doe / 1460 ≤ doe := Nat.div_le_self _ _
  have hera : doe / 146096 ≤ doe - doe / 1460 + doe / 36524 := by omega
  simp only [yoeOf, Option.bind_eq_bind, div_ofNat (a := doe) (by omega), Option.bind_some]
  rw [sub_natCast hleap (by omega), Option.bind_some, add_natCast (by omega), Option.bind_some,
    sub_natCast hera (by omega), Option.bind_some, div_ofNat (by omega)]
  rfl

theorem doyOf_natCast {doe yoe : Nat} (h : doe < 146097) (hyoe : yoe < 400)
    (hle : daysBeforeYearOfEra yoe ≤ doe) :
    doyOf doe yoe = some ((doe - daysBeforeYearOfEra yoe : Nat) : Int) := by
  simp only [doyOf, Option.bind_eq_bind, div_ofNat (a := yoe) (by omega), Option.bind_some]
  rw [ofNat_mul (by omega), Option.bind_some, add_natCast (by omega), Option.bind_some,
    sub_natCast (by omega) (by omega), Option.bind_some]
  exact sub_natCast hle (by omega)

theorem mpOf_natCast {doy : Nat} (h : doy ≤ 365) : mpOf doy = some (monthIndex doy : Int) := by
  rw [mpOf, Option.bind_eq_bind, ofNat_mul (by omega), Option.bind_some, add_ofNat (by omega),
    Option.bind_some, div_ofNat (by omega)]
  rfl

theorem dayOf_natCast {doy : Nat} (h : doy ≤ 365) :
    dayOf doy (monthIndex doy) = some (dayOfMonth doy : Int) := by
  have hindex : monthIndex doy ≤ 11 := by
    unfold monthIndex
    omega
  have hstart : (153 * monthIndex doy + 2) / 5 ≤ doy := (monthIndex_spec doy).1
  rw [dayOf, Option.bind_eq_bind, ofNat_mul (by omega), Option.bind_some, add_ofNat (by omega),
    Option.bind_some, div_ofNat (by omega), Option.bind_some, sub_natCast hstart (by omega),
    Option.bind_some, ← Nat.cast_one, add_natCast (by omega)]
  rfl

theorem monthOf_natCast {mp : Nat} (h : mp < 12) : monthOf mp = some (fromMarch mp : Int) := by
  unfold monthOf fromMarch
  by_cases hspring : mp < 10
  · rw [if_pos hspring, if_pos (by omega), add_ofNat (by omega)]
  · rw [if_neg hspring, if_neg (by omega), sub_ofNat (by omega) (by omega)]

theorem yearOf_natCast {yoe era month : Nat} (hyoe : yoe < 400) (hera : era < 2 ^ 40) :
    yearOf yoe era month =
      some ((yoe + 400 * era + if month ≤ 2 then 1 else 0 : Nat) : Int) := by
  have hflag : (if (month : Int) ≤ 2 then (1 : Int) else 0) =
      ((if month ≤ 2 then 1 else 0 : Nat) : Int) := by
    by_cases hnext : month ≤ 2
    · rw [if_pos hnext, if_pos (by omega), Nat.cast_one]
    · rw [if_neg hnext, if_neg (by omega), Nat.cast_zero]
  have hsmall : (if month ≤ 2 then 1 else 0) ≤ 1 := by split <;> omega
  rw [yearOf, Option.bind_eq_bind, mul_ofNat (by omega), Option.bind_some,
    add_natCast (by omega), Option.bind_some, hflag, add_natCast (by omega), Nat.mul_comm era]

/-- No operation overflows, and the result is the date in the calendar. -/
theorem civilDate_natCast {days : Nat} (h : days < 2 ^ 48) :
    ∃ era yoe doy, MarchDate days era yoe doy ∧
      civilDate days = some ((calendarYear era yoe doy : Int), (fromMarch (monthIndex doy) : Int),
        (dayOfMonth doy : Int)) := by
  have hdate := marchDate days
  refine ⟨_, _, _, hdate, ?_⟩
  have hdoe : (days + 719468) % 146097 < 146097 := Nat.mod_lt _ (by decide)
  obtain ⟨hyoe, hstart, -⟩ := yearOfEra_spec hdoe
  have hbound : (days + 719468) / 146097 < 2 ^ 40 := by omega
  have hrest : days + 719468 - (days + 719468) / 146097 * 146097 = (days + 719468) % 146097 := by
    omega
  rw [civilDate, Option.bind_eq_bind, add_ofNat (by omega), Option.bind_some,
    divEuclid_ofNat (by omega), Option.bind_some, mul_ofNat (by omega), Option.bind_some,
    sub_natCast (by omega) (by omega), hrest]
  rw [Option.bind_some, yoeOf_natCast hdoe, Option.bind_some, doyOf_natCast hdoe hyoe hstart,
    Option.bind_some, mpOf_natCast hdate.day, Option.bind_some, dayOf_natCast hdate.day,
    Option.bind_some, monthOf_natCast hdate.monthIndex_lt, Option.bind_some,
    yearOf_natCast hyoe hbound, Option.bind_some, Option.pure_def, calendarYear]

end Checked

section Text

/-- The fields of a date and time. -/
structure Stamp where
  year : Nat
  month : Nat
  day : Nat
  hour : Nat
  minute : Nat
  second : Nat
  deriving DecidableEq, Repr

/-- A date and time in UTC as RFC 3339 writes it. -/
def readStamp (text : List Char) : Option Stamp := do
  let (year, rest) ← Text.splitOnce ['-'] text
  let (month, rest) ← Text.splitOnce ['-'] rest
  let (day, rest) ← Text.splitOnce ['T'] rest
  let (hour, rest) ← Text.splitOnce [':'] rest
  let (minute, rest) ← Text.splitOnce [':'] rest
  let (second, rest) ← Text.splitOnce ['Z'] rest
  if rest ≠ [] then none
  pure ⟨← Text.digits 10 year, ← Text.digits 10 month, ← Text.digits 10 day,
    ← Text.digits 10 hour, ← Text.digits 10 minute, ← Text.digits 10 second⟩

theorem zeroPadded_natCast (width n : Nat) : zeroPadded width n =
    List.replicate (width - (Nat.toDigits 10 n).length) '0' ++ Nat.toDigits 10 n := by
  simp [zeroPadded]

theorem isDigit_zeroPadded (width n : Nat) : ∀ c ∈ zeroPadded width n, c.isDigit = true := by
  intro c hc
  rw [zeroPadded_natCast, List.mem_append] at hc
  rcases hc with hzero | hdigit
  · rw [List.eq_of_mem_replicate hzero]
    rfl
  · exact Nat.isDigit_of_mem_toDigits (by decide) (by decide) hdigit

theorem not_mem_zeroPadded {c : Char} (h : c.isDigit = false) (width n : Nat) :
    c ∉ zeroPadded width n := fun hc =>
  Bool.false_ne_true (h.symm.trans (isDigit_zeroPadded width n c hc))

theorem digits_zeroPadded (width n : Nat) : Text.digits 10 (zeroPadded width n) = some n := by
  have hzeros : ∀ k, Nat.ofDigitChars 10 (List.replicate k '0' ++ Nat.toDigits 10 n) 0 = n := by
    intro k
    induction k with
    | zero => exact Nat.ofDigitChars_ten_toDigits
    | succ k ih => rwa [List.replicate_succ, List.cons_append, Nat.ofDigitChars_cons]
  rw [digits_of_isDigit (isDigit_zeroPadded width n), zeroPadded_natCast, hzeros]

def stampText (t : Stamp) : List Char :=
  zeroPadded 4 t.year ++ '-' :: zeroPadded 2 t.month ++ '-' :: zeroPadded 2 t.day ++
    'T' :: zeroPadded 2 t.hour ++ ':' :: zeroPadded 2 t.minute ++ ':' :: zeroPadded 2 t.second ++
    ['Z']

/-- The fields are read back from the text they are written in. -/
theorem readStamp_text (t : Stamp) : readStamp (stampText t) = some t := by
  have hsplit {c : Char} (h : c.isDigit = false) (width n : Nat) (rest : List Char) :
      Text.splitOnce [c] (zeroPadded width n ++ c :: rest) = some (zeroPadded width n, rest) :=
    Text.splitOnce_append (not_mem_zeroPadded h width n)
  rw [stampText]
  simp only [List.append_assoc, List.cons_append]
  rw [readStamp, hsplit rfl]
  change (Text.splitOnce ['-'] _).bind _ = _
  rw [hsplit rfl]
  change (Text.splitOnce ['T'] _).bind _ = _
  rw [hsplit rfl]
  change (Text.splitOnce [':'] _).bind _ = _
  rw [hsplit rfl]
  change (Text.splitOnce [':'] _).bind _ = _
  rw [hsplit rfl]
  change (Text.splitOnce ['Z'] _).bind _ = _
  rw [hsplit rfl]
  simp only [digits_zeroPadded, Option.bind_eq_bind, Option.bind_some]
  rfl

end Text

/-- What is printed for a number of seconds since 1970 is the date and the time of day
that are this many seconds from the beginning of 1970. -/
structure StampOf (seconds : Nat) (t : Stamp) : Prop where
  year : 1970 ≤ t.year
  month : 1 ≤ t.month ∧ t.month ≤ 12
  day : 1 ≤ t.day ∧ t.day ≤ monthDays t.year t.month
  days : daysSince 1970 t.year t.month t.day = seconds / 86400
  hour : t.hour < 24
  minute : t.minute < 60
  second : t.second < 60
  time : 3600 * t.hour + 60 * t.minute + t.second = seconds % 86400

theorem asI64_natCast {n : UInt64} (h : n.toNat < 2 ^ 63) : asI64 n = (n.toNat : Int) :=
  Int.bmod_eq_of_le (by omega) (by omega)

/-- No operation of `date_and_time` overflows, for any number of seconds, and the text
is the Gregorian date and time. -/
theorem dateAndTime_gregorian (epochSeconds : UInt64) :
    ∃ text t, dateAndTime epochSeconds = some text ∧ readStamp text.toList = some t ∧
      StampOf epochSeconds.toNat t := by
  have hbound := epochSeconds.toNat_lt
  have hday : (86400 : UInt64).toNat = 86400 := by decide
  have hdays : (epochSeconds / 86400).toNat = epochSeconds.toNat / 86400 := by
    rw [UInt64.toNat_div, hday]
  have hsecs : (epochSeconds % 86400).toNat = epochSeconds.toNat % 86400 := by
    rw [UInt64.toNat_mod, hday]
  obtain ⟨era, yoe, doy, hdate, hcivil⟩ :=
    civilDate_natCast (by omega : (epochSeconds / 86400).toNat < 2 ^ 48)
  rw [← asI64_natCast (by omega)] at hcivil
  obtain ⟨secs, hrest⟩ : ∃ secs, secs = epochSeconds % 86400 := ⟨_, rfl⟩
  rw [← hrest] at hsecs
  let t : Stamp := ⟨calendarYear era yoe doy, fromMarch (monthIndex doy), dayOfMonth doy,
    (secs / 3600).toNat, (secs / 60 % 60).toNat, (secs % 60).toNat⟩
  refine ⟨String.ofList (stampText t), t, ?_, ?_, ?_⟩
  · rw [dateAndTime, hcivil, ← hrest]
    rfl
  · rw [String.toList_ofList]
    exact readStamp_text t
  · have hhour : t.hour = secs.toNat / 3600 := UInt64.toNat_div secs 3600
    have hminute : t.minute = secs.toNat / 60 % 60 := by
      show (secs / 60 % 60).toNat = _
      rw [UInt64.toNat_mod, UInt64.toNat_div]
      rfl
    have hsecond : t.second = secs.toNat % 60 := UInt64.toNat_mod secs 60
    have hlt : secs.toNat < 86400 := by omega
    exact {
      year := hdate.year_ge
      month := hdate.month
      day := ⟨Nat.le_add_left 1 _, hdate.day_le⟩
      days := hdate.daysSince.trans hdays
      hour := by omega
      minute := by omega
      second := by omega
      time := by omega }

example : dateAndTime 951782400 = some "2000-02-29T00:00:00Z" := by decide +kernel

end ClixonSwitch.Guarantees
