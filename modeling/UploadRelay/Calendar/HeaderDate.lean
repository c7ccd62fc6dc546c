import UploadRelay.Calendar.Date
import UploadRelay.Number.Decimal
import UploadRelay.Text.Case
-- Dates as message headers write them, in the forms that were in use over the years: the
-- weekday and the seconds may be missing, the month may stand before the day, the year may
-- have two digits or stand behind the time, and the zone may be a name or a number.

namespace UploadRelay.Calendar

def isNotBlank (c : CodePoint) : Bool := !c.isBlank

def fields : (fuel : Nat) → Text → List Text
  | 0, _ => []
  | fuel + 1, t =>
    match Text.trimStart t with
    | [] => []
    | start => start.takeWhile isNotBlank :: fields fuel (start.dropWhile isNotBlank)

def monthNames : List String :=
  ["jan", "feb", "mar", "apr", "may", "jun", "jul", "aug", "sep", "oct", "nov", "dec",
   "january", "february", "march", "april", "may", "june", "july", "august", "september",
   "october", "november", "december"]

def dayNames : List String := ["mon", "tue", "wed", "thu", "fri", "sat", "sun"]

def zoneNames : List (String × Int) :=
  [("UT", 0), ("UTC", 0), ("GMT", 0), ("Z", 0), ("AST", -400), ("ADT", -300), ("EST", -500),
   ("EDT", -400), ("CST", -600), ("CDT", -500), ("MST", -700), ("MDT", -600), ("PST", -800),
   ("PDT", -700)]

def month? (name : Text) : Option Nat :=
  (monthNames.findIdx? fun m => Text.ofString m == Text.lower name).map fun i => i % 12 + 1

def endsWithComma (t : Text) : Bool := t.getLast? == some (CodePoint.ofChar ',')

def dropComma (t : Text) : Text := if endsWithComma t then t.dropLast else t

def afterLastComma (t : Text) : Text :=
  (t.reverse.takeWhile fun c => c != CodePoint.ofChar ',').reverse

def dropWeekday : List Text → List Text
  | [] => []
  | first :: rest =>
    if endsWithComma first || dayNames.any (fun d => Text.ofString d == Text.lower first) then rest
    else afterLastComma first :: rest

-- `06-Nov-94` stands for three fields when two others follow it.
def splitDashes : List Text → List Text
  | [date, time, zone] =>
    match Text.splitOn '-' date with
    | [d, m, y] => [d, m, y, time, zone]
    | _ => [date, time, zone]
  | fields => fields

def signIndex (t : Text) : Option Nat :=
  match t.findIdx? (· == CodePoint.ofChar '+') with
  | some i => some i
  | none => t.findIdx? (· == CodePoint.ofChar '-')

def splitZone : List Text → List Text
  | [d, m, y, time] =>
    match signIndex time with
    | some (i + 1) => [d, m, y, time.take (i + 1), time.drop (i + 1)]
    | _ => [d, m, y, time, []]
  | fields => fields

def beginsWithDigit : Text → Bool
  | c :: _ => c.isDigitLike
  | [] => false

def clockFields (t : Text) : Option (Text × Text × Text) :=
  match Text.splitOn ':' (dropComma t) with
  | [h, m] => some (h, m, "0")
  | [h, m, s] => some (h, m, s)
  | [one] =>
    match Text.splitOn '.' one with
    | [h, m] => some (h, m, "0")
    | [h, m, s] => some (h, m, s)
    | _ => none
  | _ => none

structure Written where
  year : Int
  month : Nat
  day : Int
  hour : Int
  minute : Int
  second : Int
  -- Seconds east; nothing when no zone is known.
  zone : Option Int
deriving DecidableEq

def fullYear (y : Int) : Int := if y < 100 then (if 68 < y then y + 1900 else y + 2000) else y

-- A number as hours and minutes east. A zero with a minus sign names no zone.
def zoneOffset (t : Text) : Option Int :=
  let number := match zoneNames.find? (fun z => Text.ofString z.1 == Text.capitals t) with
    | some z => some z.2
    | none =>
      match Whole.read? t with
      | some 0 => if Text.startsWith t "-" then none else some 0
      | other => other
  number.map fun n =>
    let size := n.natAbs
    let seconds : Int := ((size / 100 * 3600 + size % 100 * 60 : Nat) : Int)
    if n < 0 then -seconds else seconds

def dayAndMonth? (a b : Text) : Option (Text × Nat) :=
  match month? b with
  | some m => some (a, m)
  | none => (month? a).map fun m => (b, m)

def readFields? (d m y time zone : Text) : Option Written := do
  if d.isEmpty || m.isEmpty || y.isEmpty then none
  let (day, month) ← dayAndMonth? d m
  let day := dropComma day
  -- The time may stand before the year.
  let (y, time) := match y.findIdx? (· == CodePoint.ofChar ':') with
    | some (_ + 1) => (time, y)
    | _ => (y, time)
  let y := dropComma y
  if y.isEmpty then none
  let (y, zone) := if beginsWithDigit y then (y, zone) else (zone, y)
  let (h, mi, s) ← clockFields time
  let year ← Whole.read? y
  let day ← Whole.read? day
  let hour ← Whole.read? h
  let minute ← Whole.read? mi
  let second ← Whole.read? s
  return ⟨fullYear year, month, day, hour, minute, second, zoneOffset zone⟩

def readDate? (t : Text) : Option Written :=
  match fields (t.length + 1) t with
  | [] => none
  | all =>
    match splitZone (splitDashes (dropWeekday all)) with
    | d :: m :: y :: time :: zone :: _ => readFields? d m y time zone
    | _ => none

end UploadRelay.Calendar
