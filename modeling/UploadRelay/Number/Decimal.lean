import UploadRelay.Number.Double
import UploadRelay.Text.Blank
import UploadRelay.Text.CodePoint
-- Numbers as they are written, in digits of any script: whole ones, with a sign in front and single underscores
-- between digits, and decimal ones. Each script's ten digits stand in one row, so the table holds the zeros only.
-- Raised, circled and other set digits look like digits but have no place in a decimal number.

namespace UploadRelay.Text

def zeros : List Nat := [
  48, 1632, 1776, 1984, 2406, 2534, 2662, 2790, 2918, 3046, 3174, 3302, 3430, 3558, 3664, 3792,
  3872, 4160, 4240, 6112, 6160, 6470, 6608, 6784, 6800, 6992, 7088, 7232, 7248, 42528, 43216,
  43264, 43472, 43504, 43600, 44016, 65296, 66720, 68912, 69734, 69872, 69942, 70096, 70384, 70736,
  70864, 71248, 71360, 71472, 71904, 72016, 72784, 73040, 73120, 92768, 92864, 93008, 120782,
  120792, 120802, 120812, 120822, 123200, 123632, 125264, 130032]

def setDigits : List (Nat × Nat) := [
  (0xB2, 0xB3), (0xB9, 0xB9), (0x1369, 0x1371), (0x19DA, 0x19DA), (0x2070, 0x2070), (0x2074, 0x2079),
  (0x2080, 0x2089), (0x2460, 0x2468), (0x2474, 0x247C), (0x2488, 0x2490), (0x24EA, 0x24EA),
  (0x24F5, 0x24FD), (0x24FF, 0x24FF), (0x2776, 0x277E), (0x2780, 0x2788), (0x278A, 0x2792),
  (0x10A40, 0x10A43), (0x10E60, 0x10E68), (0x11052, 0x1105A), (0x1F100, 0x1F10A)]

end UploadRelay.Text

namespace UploadRelay.CodePoint

def digitValue? (c : CodePoint) : Option Nat :=
  if c.val < 128 then (if c.isDigit then some (c.val - 48) else none)
  else (Text.zeros.find? fun first => decide (first ≤ c.val) && decide (c.val < first + 10)).map (c.val - ·)

def isDigitLike (c : CodePoint) : Bool :=
  c.digitValue?.isSome || Text.setDigits.any fun r => decide (r.1 ≤ c.val) && decide (c.val ≤ r.2)

end UploadRelay.CodePoint

namespace UploadRelay.Whole

def digitsFrom (value : Nat) (afterDigit : Bool) : Text → Option Nat
  | [] => if afterDigit then some value else none
  | c :: rest =>
    if c.val = 95 then (if afterDigit then digitsFrom value false rest else none)
    else match c.digitValue? with
      | some d => digitsFrom (10 * value + d) true rest
      | none => none

def countDigits (t : Text) : Nat := (t.filter fun c => c.val != 95).length

-- Nothing also for numbers of more than 4300 digits.
def unsigned? (t : Text) : Option Nat := if 4300 < countDigits t then none else digitsFrom 0 false t

def read? (t : Text) : Option Int :=
  match Text.trim t with
  | [] => none
  | c :: rest =>
    if c.val = 45 then (unsigned? rest).map fun n => -(n : Int)
    else if c.val = 43 then (unsigned? rest).map fun n => (n : Int)
    else (unsigned? (c :: rest)).map fun n => (n : Int)

def tooMany? (t : Text) : Option Nat :=
  let body := match Text.trim t with
    | [] => []
    | c :: rest => if c.val = 45 ∨ c.val = 43 then rest else c :: rest
  let digits := body.takeWhile fun c => c.val == 95 || c.digitValue?.isSome
  if 4300 < countDigits digits ∧ (digitsFrom 0 false digits).isSome then some (countDigits digits) else none

end UploadRelay.Whole

namespace UploadRelay.Decimal

def span (t : Text) : Text × Text := t.span CodePoint.isDigit

-- Halving stops at rows of some hundred digits.
def digits (t : Text) : Nat := Text.digitsValueByHalves (t.length.log2 - 8) t

theorem digits_eq (t : Text) : digits t = Text.digitsValue t := Text.digitsValueByHalves_eq _ t

def exponent? : Text → Option (Int × Text)
  | mark :: rest =>
    if mark.val = 101 ∨ mark.val = 69 then
      let (negative, body) := match rest with
        | s :: r => if s.val = 45 then (true, r) else if s.val = 43 then (false, r) else (false, rest)
        | [] => (false, rest)
      match span body with
      | ([], _) => none
      | (ds, after) => some (if negative then -(digits ds : Int) else digits ds, after)
    else none
  | [] => none

def dropUnderscores : (previousDigit : Bool) → Text → Option Text
  | _, [] => some []
  | previousDigit, c :: rest =>
    if c.val = 95 then
      match rest with
      | d :: _ => if previousDigit && d.isDigit then dropUnderscores false rest else none
      | [] => none
    else (dropUnderscores c.isDigit rest).map (c :: ·)

def sign : Text → Bool × Text
  | c :: rest => if c.val = 45 then (true, rest) else if c.val = 43 then (false, rest) else (false, c :: rest)
  | [] => (false, [])

-- A number without its sign: a word for infinity or no number, or digits with at most one
-- point and at least one digit, and an exponent behind them.
def unsigned? (negative : Bool) (t : Text) : Option Double :=
  let word := Text.lower t
  if word = ("inf" : Text) ∨ word = ("infinity" : Text) then some (.infinity negative)
  else if word = ("nan" : Text) then some .nan
  else
    let (whole, rest) := span t
    let (fraction, rest) := match rest with
      | c :: r => if c.val = 46 then span r else ([], rest)
      | [] => ([], rest)
    if whole.isEmpty && fraction.isEmpty then none
    else match rest with
      | [] => some (Double.ofDecimal negative (digits (whole ++ fraction)) (-(fraction.length : Int)))
      | _ => match exponent? rest with
        | some (e, []) =>
          some (Double.ofDecimal negative (digits (whole ++ fraction)) (e - (fraction.length : Int)))
        | _ => none

def plain (t : Text) : Text :=
  if Text.isAscii t then t
  else t.map fun c =>
    if c.val < 127 then c
    else if c.isBlank then CodePoint.ofChar ' '
    else match c.digitValue? with
      | some d => CodePoint.ofNat (48 + d)
      | none => CodePoint.ofChar '?'

def read? (t : Text) : Option Double := do
  let body ← dropUnderscores false (Text.trimBy CodePoint.isAsciiBlank (plain t))
  let (negative, rest) := sign body
  unsigned? negative rest

end UploadRelay.Decimal
