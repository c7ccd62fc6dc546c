import UploadRelay.Number.Double
import UploadRelay.Text.CodePoint
-- The fewest decimal digits that read back as the same number, and of those the nearest.

namespace UploadRelay

namespace Shortest

def leadingPlaces : (fuel : Nat) → (num den places : Nat) → Nat
  | 0, _, _, places => places
  | fuel + 1, num, den, places =>
    if den ≤ num then places else leadingPlaces fuel (num * 10) den (places + 1)

-- num/den = 0.d1d2… · 10^point with d1 not zero.
def point (num den : Nat) : Int :=
  if den ≤ num then ((Nat.toDigits 10 (num / den)).length : Int)
  else 1 - (leadingPlaces 400 num den 0 : Int)

structure Written where
  digits : Nat
  exponent : Int
deriving DecidableEq

def scaled (num den : Nat) (exponent : Int) : Nat × Nat × Nat :=
  if 0 ≤ exponent then
    let d := den * 10 ^ exponent.toNat
    (num / d, num % d, d)
  else
    let n := num * 10 ^ (-exponent).toNat
    (n / den, n % den, den)

-- Of the two neighbours of the value on the grid of `places` digits, the nearer one that
-- reads back; a tie goes to the even one.
def onGrid? (num den : Nat) (readsBack : Nat → Int → Bool) (places : Nat) : Option Written :=
  let exponent := point num den - (places : Int)
  let (q, r, d) := scaled num den exponent
  let below := readsBack q exponent
  let above := readsBack (q + 1) exponent
  if below && above then
    if 2 * r < d ∨ (2 * r = d ∧ q % 2 = 0) then some ⟨q, exponent⟩ else some ⟨q + 1, exponent⟩
  else if below then some ⟨q, exponent⟩
  else if above then some ⟨q + 1, exponent⟩
  else none

def dropZeros : (fuel : Nat) → Written → Written
  | 0, w => w
  | fuel + 1, w =>
    if w.digits ≠ 0 ∧ w.digits % 10 = 0 then dropZeros fuel ⟨w.digits / 10, w.exponent + 1⟩ else w

-- Every binary value is also a decimal one of finitely many digits.
def exact (m e : Nat) : Written := ⟨m * 2 ^ e * 5 ^ 1074, -1074⟩

-- Seventeen digits always suffice; the exact value stands behind them.
def ofFinite (m e : Nat) : Written :=
  let num := Double.magnitude m e
  let readsBack := fun digits exponent =>
    match Double.ofDecimal false digits exponent with
    | .finite _ m' e' _ => m' == m && e' == e
    | _ => false
  match (List.range 17).findSome? fun i => onGrid? num (2 ^ 1074) readsBack (i + 1) with
  | some w => dropZeros 20 w
  | none => exact m e

end Shortest

namespace Double

-- Plain places while the leading digit stands from 10^-4 to 10^15, and an exponent of at
-- least two digits elsewhere.
def positional (digits : Text) (exponent : Int) : Text :=
  let point := (digits.length : Int) + exponent
  if point ≤ 0 then
    "0." ++ List.replicate (-point).toNat (CodePoint.ofChar '0') ++ digits
  else if (digits.length : Int) ≤ point then
    digits ++ List.replicate (point - digits.length).toNat (CodePoint.ofChar '0') ++ ".0"
  else digits.take point.toNat ++ "." ++ digits.drop point.toNat

def scientific (digits : Text) (exponent : Int) : Text :=
  let power := (digits.length : Int) + exponent - 1
  let mantissa := match digits with
    | [d] => [d]
    | d :: rest => d :: CodePoint.ofChar '.' :: rest
    | [] => []
  mantissa ++ (if power < 0 then "e-" else "e+") ++ Text.padded 2 power.natAbs

def magnitudeText (m e : Nat) : Text :=
  if m = 0 then "0.0"
  else
    let w := Shortest.ofFinite m e
    let digits := Text.ofNat w.digits
    let power := (digits.length : Int) + w.exponent - 1
    if -4 ≤ power ∧ power < 16 then positional digits w.exponent else scientific digits w.exponent

def text : Double → Text
  | .nan => "nan"
  | .infinity negative => if negative then "-inf" else "inf"
  | .finite negative m e _ =>
    if negative then CodePoint.ofChar '-' :: magnitudeText m e else magnitudeText m e

end Double

end UploadRelay
