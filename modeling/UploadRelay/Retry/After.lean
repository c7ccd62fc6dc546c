import UploadRelay.Calendar.HeaderDate
import UploadRelay.Number.Decimal
import UploadRelay.Fault
-- The wait that a backend asks for: a number of seconds, or a date to wait for.

namespace UploadRelay.Retry

open Calendar

def wordLimit : Int := 2147483647

-- A zone has to lie within a day of the prime one; distances past the range of durations
-- are faults of their own.
inductive ZoneCheck where
  | usable
  | refused
  | tooLarge (reason : Text)

def checkZone (offset : Int) : ZoneCheck :=
  let days := offset / 86400
  if wordLimit < days ∨ days < -wordLimit - 1 then .tooLarge "Python int too large to convert to C int"
  else if 999999999 < days ∨ days < -999999999 then
    .tooLarge ("days=" ++ Text.ofInt days ++ "; must have magnitude <= 999999999")
  else if offset ≤ -86400 ∨ 86400 ≤ offset then .refused
  else .usable

def wordFault? (n : Int) : Option Text :=
  if 9223372036854775807 < n ∨ n < -9223372036854775808 then
    some "Python int too large to convert to C long"
  else if wordLimit < n then some "signed integer is greater than maximum"
  else if n < -wordLimit - 1 then some "signed integer is less than minimum"
  else none

def Written.wordFault? (w : Written) : Option Text :=
  [w.year, w.day, w.hour, w.minute, w.second].findSome? Retry.wordFault?

def moment? (w : Written) : Option (Date × Time) :=
  if 0 ≤ w.year ∧ 0 ≤ w.day ∧ 0 ≤ w.hour ∧ 0 ≤ w.minute ∧ 0 ≤ w.second then
    let d : Date := ⟨w.year.toNat, w.month, w.day.toNat⟩
    let t : Time := ⟨w.hour.toNat, w.minute.toNat, w.second.toNat⟩
    if d.isValid && t.isValid then some (d, t) else none
  else none

def zoneCheck : Option Int → ZoneCheck
  | some offset => checkZone offset
  | none => .usable

def secondsOf (millionths : Int) : Double := Double.ofDecimal false millionths.toNat (-6)

-- A date without a known zone cannot be compared with the present.
def untilDate (now : Moment) (w : Written) : Except Fault (Option Double) :=
  match zoneCheck w.zone with
  | .tooLarge reason => .error (.other "OverflowError" [.str reason])
  | .refused => .ok none
  | .usable =>
    match Written.wordFault? w with
    | some reason => .error (.other "OverflowError" [.str reason])
    | none =>
      match moment? w with
      | none => .ok none
      | some (d, t) =>
        match w.zone with
        | none => .error (.type "can't subtract offset-naive and offset-aware datetimes")
        | some offset => .ok (some (secondsOf ((unixSeconds d t - offset) * 1000000 - now.millionths)))

-- The seconds asked for at the time `now`; nothing when the value is neither a number nor a
-- date, and zero for dates that are past.
def secondsAsked (now : Moment) (value : Text) : Except Fault (Option Double) :=
  match Decimal.read? value with
  | some seconds => .ok (some seconds)
  | none =>
    match readDate? value with
    | none => .ok none
    | some w => untilDate now w

end UploadRelay.Retry
