import UploadRelay.Text.CodePoint
-- Dates of the Gregorian calendar, carried back before its beginning, and their distance in
-- days from 1 January 1970.

namespace UploadRelay.Calendar

def isLeap (year : Nat) : Bool := year % 4 == 0 && (year % 100 != 0 || year % 400 == 0)

def monthLength (year month : Nat) : Nat :=
  match month with
  | 2 => if isLeap year then 29 else 28
  | 4 => 30
  | 6 => 30
  | 9 => 30
  | 11 => 30
  | _ => 31

structure Date where
  year : Nat
  month : Nat
  day : Nat
deriving DecidableEq

structure Time where
  hour : Nat
  minute : Nat
  second : Nat
deriving DecidableEq

def Date.isValid (d : Date) : Bool :=
  decide (1 ≤ d.year ∧ d.year ≤ 9999 ∧ 1 ≤ d.month ∧ d.month ≤ 12 ∧ 1 ≤ d.day) &&
    decide (d.day ≤ monthLength d.year d.month)

def Time.isValid (t : Time) : Bool := decide (t.hour < 24 ∧ t.minute < 60 ∧ t.second < 60)

def daysBeforeYear (year : Nat) : Nat :=
  let y := year - 1
  365 * y + y / 4 - y / 100 + y / 400

def daysBeforeMonth (year month : Nat) : Nat :=
  ((List.range (month - 1)).map fun i => monthLength year (i + 1)).foldl (· + ·) 0

def Date.ordinal (d : Date) : Nat := daysBeforeYear d.year + daysBeforeMonth d.year d.month + d.day

def epochOrdinal : Nat := 719163

def Time.seconds (t : Time) : Nat := 3600 * t.hour + 60 * t.minute + t.second

def unixSeconds (d : Date) (t : Time) : Int :=
  ((d.ordinal : Int) - (epochOrdinal : Int)) * 86400 + t.seconds

-- A point in time, in millionths of a second from the beginning of 1970.
structure Moment where
  millionths : Int
deriving DecidableEq

def Moment.ofSeconds (seconds : Int) : Moment := ⟨seconds * 1000000⟩

instance : Coe Int Moment := ⟨Moment.ofSeconds⟩

def monthOf (year : Nat) : (fuel month day : Nat) → Nat × Nat
  | 0, month, day => (month, day)
  | fuel + 1, month, day =>
    let length := monthLength year month
    if length < day then monthOf year fuel (month + 1) (day - length) else (month, day)

def yearOf : (fuel year day : Nat) → Nat × Nat
  | 0, year, day => (year, day)
  | fuel + 1, year, day =>
    let length := if isLeap year then 366 else 365
    if length < day then yearOf fuel (year + 1) (day - length) else (year, day)

-- The date of an ordinal: whole cycles of four hundred years are 146097 days.
def Date.ofOrdinal (n : Nat) : Date :=
  let cycles := (n - 1) / 146097
  let (year, day) := yearOf 400 (400 * cycles + 1) ((n - 1) % 146097 + 1)
  let (month, day) := monthOf year 11 1 day
  ⟨year, month, day⟩

structure DayOfYear where
  year : Int
  month : Nat
  day : Nat

def dayOf (days : Int) : DayOfYear :=
  let n := days + (epochOrdinal : Int) - 1
  let d := Date.ofOrdinal ((n % 146097).toNat + 1)
  ⟨400 * (n / 146097) + d.year, d.month, d.day⟩

def timeOf (seconds : Nat) : Time := ⟨seconds / 3600, seconds / 60 % 60, seconds % 60⟩

def yearAt (s : Int) : Int := (dayOf (s / 86400)).year

def stamp (s : Int) (milliseconds : Text) : Text :=
  let d := dayOf (s / 86400)
  let t := timeOf (s % 86400).toNat
  Text.ofInt d.year ++ "-" ++ Text.padded 2 d.month ++ "-" ++ Text.padded 2 d.day ++ " " ++
    Text.padded 2 t.hour ++ ":" ++ Text.padded 2 t.minute ++ ":" ++ Text.padded 2 t.second ++
    "," ++ milliseconds

end UploadRelay.Calendar
