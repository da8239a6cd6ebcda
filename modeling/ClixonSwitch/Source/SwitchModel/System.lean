import ClixonSwitch.Lib.CheckedInt

/-!
# The time in the state data of `/system`

`date_and_time` of `crates/switch-model/src/system.rs`. Its `i64` arithmetic has no value
where an operation would overflow.
-/
namespace ClixonSwitch.Source.SwitchModel
open Lib.CheckedInt

/-- The cast of a `u64` to `i64`. -/
def asI64 (n : UInt64) : Int := Int.bmod n.toNat (2 ^ 64)

section Civil

/-- The year of the era, from the day of the era. -/
def yoeOf (doe : Int) : Option Int := do
  div (← sub (← add (← sub doe (← div doe 1460)) (← div doe 36524)) (← div doe 146096)) 365

/-- The day of the year, which begins with March. -/
def doyOf (doe yoe : Int) : Option Int := do
  sub doe (← sub (← add (← mul 365 yoe) (← div yoe 4)) (← div yoe 100))

def mpOf (doy : Int) : Option Int := do
  div (← add (← mul 5 doy) 2) 153

def dayOf (doy mp : Int) : Option Int := do
  add (← sub doy (← div (← add (← mul 153 mp) 2) 5)) 1

def monthOf (mp : Int) : Option Int :=
  if mp < 10 then add mp 3 else sub mp 9

def yearOf (yoe era month : Int) : Option Int := do
  add (← add yoe (← mul era 400)) (if month ≤ 2 then 1 else 0)

/-- Year, month and day of the days since 1970-01-01. -/
def civilDate (days : Int) : Option (Int × Int × Int) := do
  let z ← add days 719468
  let era ← divEuclid z 146097
  let doe ← sub z (← mul era 146097)
  let yoe ← yoeOf doe
  let doy ← doyOf doe yoe
  let mp ← mpOf doy
  let day ← dayOf doy mp
  let month ← monthOf mp
  let year ← yearOf yoe era month
  pure (year, month, day)

end Civil

/-- A number with zeros up to `width` characters, as `{:0width}` formats it. -/
def zeroPadded (width : Nat) (n : Int) : List Char :=
  let digits := Nat.toDigits 10 n.natAbs
  if n < 0 then '-' :: (List.replicate (width - 1 - digits.length) '0' ++ digits)
  else List.replicate (width - digits.length) '0' ++ digits

/-- RFC 3339 date and time in UTC. -/
def dateAndTime (epochSeconds : UInt64) : Option String := do
  let days := asI64 (epochSeconds / 86400)
  let secs := epochSeconds % 86400
  let (year, month, day) ← civilDate days
  pure (String.ofList (zeroPadded 4 year ++ '-' :: zeroPadded 2 month ++ '-' :: zeroPadded 2 day ++
    'T' :: zeroPadded 2 (secs / 3600).toNat ++ ':' :: zeroPadded 2 (secs / 60 % 60).toNat ++
    ':' :: zeroPadded 2 (secs % 60).toNat ++ ['Z']))

end ClixonSwitch.Source.SwitchModel
