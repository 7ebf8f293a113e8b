import InputStaging.Calendar
import InputStaging.Number.Binary64

/-!
# Moments

The universal time of a moment that is given in seconds since 1970. Not every number is
such a moment: the seconds have to fit into 64 bits, the years since 1900 into 32, and
the year has to be one of the calendar. The day before has to be in the calendar, too.
-/

namespace InputStaging

/-- Why a number of seconds is no moment. -/
inductive MomentFault where
  | notNumber
  /-- The seconds do not fit into 64 bits. -/
  | tooFar
  /-- The years do not fit into 32 bits. -/
  | yearUnheld
  | year (n : Int)
  deriving DecidableEq, Repr

def MomentFault.message : MomentFault → String
  | notNumber => "Invalid value NaN (not a number)"
  | tooFar => "timestamp out of range for platform time_t"
  | yearUnheld => "Value too large for defined data type"
  | year n => s!"year {n} is out of range"

/-- The year in which a second lies. Years repeat after 400 of them. -/
def yearAt (seconds : Int) : Int :=
  let days := seconds / Timestamp.day + marchToEpoch
  (Date.ofMarch (days % marchEra).toNat).year + 400 * (days / marchEra)

/-- Years since 1900 are counted in 32 bits; the year itself wraps around in them. -/
def checkYear (seconds : Int) : Except MomentFault Unit :=
  let year := yearAt seconds
  let shown := year.bmod 0x100000000
  if (year - 1900).bmod 0x100000000 ≠ year - 1900 then .error .yearUnheld
  else if shown < 1 ∨ 9999 < shown then .error (.year shown)
  else .ok ()

/-- The universal time of a whole number of seconds. -/
def Timestamp.ofSeconds (seconds : Int) : Except MomentFault Timestamp := do
  unless seconds.bmod 0x10000000000000000 = seconds do throw .tooFar
  checkYear seconds
  checkYear (seconds - day)
  return .ofEpoch seconds

/-- Millionths of a second in the part of a number behind the point, halves to even. -/
def microseconds (fraction : Nat) : Nat :=
  match (Binary64.finite false fraction).mul (.ofInt 1000000) with
  | .finite _ units => Binary64.roundDiv units Binary64.one
  | _ => 0

/-- The second in which a moment lies, once it has been rounded to a millionth. -/
def Timestamp.ofMoment : Binary64 → Except MomentFault Timestamp
  | .finite negative units =>
    let whole := units / Binary64.one
    let fraction := microseconds (units % Binary64.one)
    ofSeconds (if negative then -((whole + (fraction + 999999) / 1000000 : Nat) : Int)
      else (whole + fraction / 1000000 : Nat))
  | .nan => .error .notNumber
  | .infinite _ => .error .tooFar

end InputStaging
