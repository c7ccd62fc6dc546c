import UploadRelay.Number.Decimal
-- Numbers as options take them: ASCII digits with single underscores inside. A whole number
-- may have zeros in front of it and a point with nothing but zeros behind it.

namespace UploadRelay.CommandLine.Numeral

def isSpace (c : CodePoint) : Bool := c.isBlank && !(decide (28 ≤ c.val) && decide (c.val ≤ 31))

def trim (t : Text) : Text := Text.trimBy isSpace t

def isUnderscore (c : CodePoint) : Bool := c.val == 95

def hasDouble : Text → Bool
  | a :: b :: rest => (isUnderscore a && isUnderscore b) || hasDouble (b :: rest)
  | [_] => false
  | [] => false

def isSpaced (t : Text) : Bool :=
  !(t.head?.any isUnderscore) && !(t.getLast?.any isUnderscore) && !hasDouble t

def joined (t : Text) : Text := if isSpaced t then t.filter fun c => !isUnderscore c else t

-- What follows zeros and underscores; the sign in front of a point stays with the point.
def behindZeros? (last : CodePoint) : Text → Option Text
  | [] => some [last]
  | c :: rest =>
    if c.val = 48 ∨ c.val = 95 then behindZeros? c rest
    else if c.val = 46 then some (last :: c :: rest)
    else if c.isDigit || c.val == 45 then some (c :: rest)
    else none

def significant? : Text → Option Text
  | [] => none
  | c :: rest =>
    if c.val = 48 then behindZeros? c rest
    else if c.isDigit || c.val == 45 then some (c :: rest)
    else none

def withoutFraction? (t : Text) : Option Text :=
  match Text.splitAtFirst '.' t with
  | (_, none) => some t
  | (_, some []) => none
  | (whole, some zeros) => if zeros.all fun c => c.val == 48 then some whole else none

def plainDigits? (t : Text) : Option Nat :=
  match t with
  | [] => none
  | c :: rest =>
    if !t.all CodePoint.isDigit || (c.val == 48 && !rest.isEmpty) then none
    else some (Text.digitsValue t)

def signed? (t : Text) : Option Int :=
  match t with
  | [] => none
  | c :: rest =>
    if c.val = 45 then (plainDigits? rest).map fun n => -(n : Int)
    else (plainDigits? t).map fun n => (n : Int)

def withoutPlus? : Text → Option Text
  | [] => none
  | c :: rest =>
    if c.val = 43 then
      match rest with
      | [] => none
      | d :: more => if d.val = 45 then none else some (d :: more)
    else some (c :: rest)

def mostDigits : Nat := 4300

def whole? (t : Text) : Option Int := do
  let t ← withoutPlus? (trim t)
  let t ← match t with
    | [] => none
    | c :: rest =>
      if c.val = 45 then (significant? rest).map fun body => c :: body else significant? (c :: rest)
  let t := joined (← withoutFraction? t)
  if mostDigits < t.length then none else signed? t

def bare? (t : Text) : Option Double :=
  if Text.isAscii t then
    let (negative, rest) := Decimal.sign t
    Decimal.unsigned? negative rest
  else none

-- Underscores are only left out of a number without blanks around it.
def decimal? (t : Text) : Option Double :=
  match bare? (trim t) with
  | some x => some x
  | none => if t.any isUnderscore && isSpaced t then bare? (joined t) else none

end UploadRelay.CommandLine.Numeral
