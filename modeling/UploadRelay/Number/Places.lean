import UploadRelay.Number.Double
import UploadRelay.Number.Shortest
import UploadRelay.Text.CodePoint
-- Numbers in decimal places: to a fixed number of them, by a count of significant digits with an exponent, or in
-- whichever of the two forms is shorter. Rounding is by the exact binary value; a half goes to the even neighbour.

namespace UploadRelay.Double

def inPlaces (places m e : Nat) : Nat := roundHalfEven (magnitude m e * 10 ^ places) (2 ^ 1074)

def fixed (places : Nat) : Double → Text
  | .nan => "nan"
  | .infinity negative => if negative then "-inf" else "inf"
  | .finite negative m e _ =>
    let n := inPlaces places m e
    let whole := Text.ofNat (n / 10 ^ places)
    let text := if places = 0 then whole else whole ++ "." ++ Text.padded places (n % 10 ^ places)
    if negative then CodePoint.ofChar '-' :: text else text

def rounded (places : Nat) : Double → Double
  | .finite negative m e _ => ofDecimal negative (inPlaces places m e) (-(places : Int))
  | x => x

-- The value rounded to so many digits behind the leading one, and the power of ten that the
-- leading digit stands for.
def significant (places m e : Nat) : Nat × Int :=
  if m = 0 then (0, 0)
  else
    let power := Shortest.point (magnitude m e) (2 ^ 1074) - 1
    let (q, r, d) := Shortest.scaled (magnitude m e) (2 ^ 1074) (power - places)
    let n := roundHalfEven (q * d + r) d
    if n = 10 ^ (places + 1) then (10 ^ places, power + 1) else (n, power)

def powerText (power : Int) : Text :=
  (if power < 0 then ("e-" : Text) else "e+") ++ Text.padded 2 power.natAbs

def pointed (keepsPoint : Bool) (digits : Text) (n : Nat) : Text :=
  let behind := digits.drop n
  if behind.isEmpty && !keepsPoint then digits.take n else digits.take n ++ "." ++ behind

def isZeroDigit (c : CodePoint) : Bool := c.val == 48

def withoutZeros (digits : Text) (least : Nat) : Text :=
  digits.take least ++ ((digits.drop least).reverse.dropWhile isZeroDigit).reverse

def exponentialMagnitude (places : Nat) (keepsPoint : Bool) (m e : Nat) : Text :=
  let (n, power) := significant places m e
  pointed keepsPoint (Text.padded (places + 1) n) 1 ++ powerText power

def generalMagnitude (count : Nat) (keepsPoint : Bool) (m e : Nat) : Text :=
  let count := if count = 0 then 1 else count
  let (n, power) := significant (count - 1) m e
  let digits := Text.padded count n
  if power < -4 ∨ (count : Int) ≤ power then
    pointed keepsPoint (if keepsPoint then digits else withoutZeros digits 1) 1 ++ powerText power
  else
    let whole := if power < 0 then List.replicate (-power).toNat (CodePoint.ofChar '0') ++ digits else digits
    let before := if power < 0 then 1 else power.toNat + 1
    pointed keepsPoint (if keepsPoint then whole else withoutZeros whole before) before

def signed (magnitude : Nat → Nat → Text) : Double → Text
  | .nan => "nan"
  | .infinity negative => if negative then "-inf" else "inf"
  | .finite negative m e _ =>
    if negative then CodePoint.ofChar '-' :: magnitude m e else magnitude m e

def exponential (places : Nat) (keepsPoint : Bool) : Double → Text :=
  signed (exponentialMagnitude places keepsPoint)

def general (count : Nat) (keepsPoint : Bool) : Double → Text :=
  signed (generalMagnitude count keepsPoint)

def truncated? : Double → Option Int
  | .finite negative m e _ =>
    let n : Nat := magnitude m e / 2 ^ 1074
    some (if negative then -(n : Int) else (n : Int))
  | _ => none

end UploadRelay.Double
