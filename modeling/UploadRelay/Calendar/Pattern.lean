import UploadRelay.Calendar.Date
import UploadRelay.Text.Blank
import UploadRelay.Number.Decimal
-- Patterns of dates. A letter behind a percent sign stands for a part of a date, a blank for
-- any blanks, and every other character for itself in either case.

namespace UploadRelay.Calendar

abbrev PartForm := List (CodePoint → Bool)

namespace PartForm

def digit (c : CodePoint) : Bool := c.digitValue?.isSome
def within (low high : Char) (c : CodePoint) : Bool := decide (low.toNat ≤ c.val) && decide (c.val ≤ high.toNat)
def just (a : Char) (c : CodePoint) : Bool := c == CodePoint.ofChar a
def either (a b : Char) (c : CodePoint) : Bool := just a c || just b c

def read? : PartForm → Text → Option (Text × Text)
  | [], t => some ([], t)
  | p :: rest, c :: t => if p c then (read? rest t).map fun r => (c :: r.1, r.2) else none
  | _ :: _, [] => none

def caseless (s : String) : PartForm := s.toList.map fun a c => c.lower == (CodePoint.ofChar a).lower

def upTo (most : Nat) : List PartForm := (List.range most).reverse.map fun n => List.replicate (n + 1) (within '0' '9')

def sixty : PartForm := [within '0' '5', digit]

def month : List PartForm := [[just '1', within '0' '2'], [just '0', within '1' '9'], [within '1' '9']]

def day : List PartForm :=
  [[just '3', within '0' '1'], [within '1' '2', digit], [just '0', within '1' '9'], [within '1' '9'],
   [just ' ', within '1' '9']]

def dayOfYear : List PartForm :=
  [[just '3', just '6', within '0' '6'], [just '3', within '0' '5', digit], [within '1' '2', digit, digit],
   [just '0', within '1' '9', digit], [just '0', just '0', within '1' '9'], [within '1' '9', digit],
   [just '0', within '1' '9'], [within '1' '9']]

def week : List PartForm := [[just '5', within '0' '3'], [within '0' '4', digit], [digit]]

def offsetSeconds : List PartForm :=
  [[just ':'], []].flatMap fun colon =>
    ((upTo 6).map fun n => colon ++ sixty ++ just '.' :: n.map fun _ => digit) ++ [colon ++ sixty]

def offset : List PartForm :=
  let hours : PartForm := [either '+' '-', digit, digit]
  ([[just ':'], []].flatMap fun colon => (offsetSeconds ++ [[]]).map fun seconds =>
    hours ++ colon ++ sixty ++ seconds) ++ [[just 'Z']]

def monthNames : List String :=
  ["January", "February", "March", "April", "May", "June", "July", "August", "September", "October",
   "November", "December"]

def dayNames : List String := ["Monday", "Tuesday", "Wednesday", "Thursday", "Friday", "Saturday", "Sunday"]

def longestFirst (names : List String) : List PartForm :=
  (names.mergeSort fun a b => decide (b.length ≤ a.length)).map caseless

def short (names : List String) : List PartForm := names.map fun n => (caseless n).take 3

def ofLetter? (letter : Char) : Option (List PartForm) :=
  match letter with
  | 'Y' => some [[digit, digit, digit, digit]]
  | 'y' => some [[digit, digit]]
  | 'm' => some month
  | 'd' => some day
  | 'j' => some dayOfYear
  | 'H' => some [[just '2', within '0' '3'], [within '0' '1', digit], [digit]]
  | 'I' => some month
  | 'M' => some [sixty, [digit]]
  | 'S' => some [[just '6', within '0' '1'], sixty, [digit]]
  | 'f' => some (upTo 6)
  | 'z' => some offset
  | 'U' => some week
  | 'W' => some week
  | 'w' => some [[within '0' '6']]
  | 'B' => some (longestFirst monthNames)
  | 'b' => some (short monthNames)
  | 'A' => some (longestFirst dayNames)
  | 'a' => some (short dayNames)
  | 'p' => some [caseless "am", caseless "pm"]
  | _ => none

end PartForm

namespace Pattern

abbrev Found := List (Char × Text)

def blanks (t : Text) : List Text :=
  (List.range (t.takeWhile CodePoint.isBlank).length).reverse.map fun n => t.drop (n + 1)

def read? : Text → Text → Option (Found × Text)
  | [], t => some ([], t)
  | p :: pattern, t =>
    if p.val = 37 then
      match pattern with
      | [] => none
      | l :: pattern =>
        if l.val = 37 then
          match t with
          | c :: t => if c.val = 37 then read? pattern t else none
          | [] => none
        else
          match PartForm.ofLetter? l.toChar with
          | none => none
          | some forms => forms.findSome? fun form =>
            (PartForm.read? form t).bind fun r =>
              (read? pattern r.2).map fun found => ((l.toChar, r.1) :: found.1, found.2)
    else if p.isBlank then (blanks t).findSome? fun rest => read? pattern rest
    else
      match t with
      | c :: t => if c.lower = p.lower then read? pattern t else none
      | [] => none

def text? (found : Found) (letter : Char) : Option Text := (found.find? fun f => f.1 == letter).map (·.2)

def number? (found : Found) (letter : Char) : Option Nat :=
  (text? found letter).map fun t => (t.filterMap CodePoint.digitValue?).foldl (fun n d => 10 * n + d) 0

def named? (found : Found) (letter : Char) : Option Nat :=
  (text? found letter).bind fun t =>
    (PartForm.monthNames.findIdx? fun n => Text.startsWith (Text.lower (Text.ofString n)) (Text.lower t)).map (· + 1)

def year? (found : Found) : Option Nat :=
  match number? found 'Y' with
  | some year => some year
  | none => (number? found 'y').map fun y => if y ≤ 68 then 2000 + y else 1900 + y

def date (found : Found) : Date :=
  let month := (((number? found 'm').or (named? found 'B')).or (named? found 'b')).getD 1
  let day := (number? found 'd').getD 1
  let year := (year? found).getD 1900
  match number? found 'j' with
  | some n => Date.ofOrdinal (daysBeforeYear year + n)
  | none => ⟨year, month, day⟩

def time (found : Found) : Time :=
  ⟨((number? found 'H').or (number? found 'I')).getD 0, (number? found 'M').getD 0, (number? found 'S').getD 0⟩

def isColon (c : CodePoint) : Bool := c.val == 58

def isEven : Text → Bool
  | [] => true
  | c :: rest =>
    if isColon c then (rest.drop 2).head?.all isColon else (rest.drop 1).head?.all fun c => !isColon c

def isOffset : Text → Bool
  | _ :: a :: b :: rest => decide (10 * a.digitValue?.getD 0 + b.digitValue?.getD 0 < 24) && isEven rest
  | _ => true

def isMeant (found : Found) : Bool :=
  (year? found).all (fun year => decide (0 < year)) && (date found).isValid && (time found).isValid &&
    ((text? found 'z').all isOffset)

def fits (pattern t : Text) : Bool := (read? pattern t).any fun r => r.2.isEmpty && isMeant r.1

def standard : Text := "%Y-%m-%dT%H:%M:%S%z"

end Pattern

end UploadRelay.Calendar
