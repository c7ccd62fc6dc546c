import UploadRelay.Text.CodePoint
-- Binary floating-point numbers of 64 bits, as exact values with one rounding rule.
-- A finite number is a mantissa below 2^53 times 2^(exponent - 1074); the mantissa fills
-- its 53 bits unless the exponent is at its least, so every value has one form.

namespace UploadRelay

def Canonical (mantissa exponent : Nat) : Prop :=
  mantissa < 2 ^ 53 ∧ exponent ≤ 2045 ∧ (exponent = 0 ∨ 2 ^ 52 ≤ mantissa)

instance (m e : Nat) : Decidable (Canonical m e) := by unfold Canonical; infer_instance

inductive Double where
  | nan
  | infinity (negative : Bool)
  | finite (negative : Bool) (mantissa exponent : Nat) (canonical : Canonical mantissa exponent)
deriving DecidableEq

def roundHalfEven (num den : Nat) : Nat :=
  let q := num / den
  let r := num % den
  if 2 * r < den then q
  else if den < 2 * r then q + 1
  else if q % 2 = 0 then q else q + 1

theorem roundHalfEven_one (n : Nat) : roundHalfEven n 1 = n := by
  simp [roundHalfEven, Nat.mod_one]

namespace Double

def zero (negative : Bool) : Double := .finite negative 0 0 (by decide)

def pack (negative : Bool) (m e : Nat) : Double :=
  if h : Canonical m e then .finite negative m e h else .infinity negative

def ofUnits (negative : Bool) (num den : Nat) : Double :=
  let e := Nat.log2 (num / den) - 52
  let m := roundHalfEven num (den * 2 ^ e)
  if m = 2 ^ 53 then pack negative (2 ^ 52) (e + 1) else pack negative m e

def magnitude (m e : Nat) : Nat := m * 2 ^ e
def units (negative : Bool) (m e : Nat) : Int :=
  if negative then -(magnitude m e : Int) else (magnitude m e : Int)

def ofSignedUnits (n : Int) : Double := ofUnits (decide (n < 0)) n.natAbs 1

-- An exact sum of zero is negative only when both terms are.
def add : Double → Double → Double
  | .nan, _ => .nan
  | _, .nan => .nan
  | .infinity a, .infinity b => if a = b then .infinity a else .nan
  | .infinity a, _ => .infinity a
  | _, .infinity b => .infinity b
  | .finite a m e _, .finite b m' e' _ =>
    let sum := units a m e + units b m' e'
    if sum = 0 then zero (a && b) else ofSignedUnits sum

def mul : Double → Double → Double
  | .nan, _ => .nan
  | _, .nan => .nan
  | .infinity a, .infinity b => .infinity (a != b)
  | .infinity a, .finite b m _ _ => if m = 0 then .nan else .infinity (a != b)
  | .finite a m _ _, .infinity b => if m = 0 then .nan else .infinity (a != b)
  | .finite a m e _, .finite b m' e' _ =>
    ofUnits (a != b) (magnitude m e * magnitude m' e') (2 ^ 1074)

def less : Double → Double → Bool
  | .nan, _ => false
  | _, .nan => false
  | .infinity a, .infinity b => a && !b
  | .infinity a, .finite .. => a
  | .finite .., .infinity b => !b
  | .finite a m e _, .finite b m' e' _ => decide (units a m e < units b m' e')

def same : Double → Double → Bool
  | .nan, _ => false
  | _, .nan => false
  | .infinity a, .infinity b => a == b
  | .infinity _, .finite .. => false
  | .finite .., .infinity _ => false
  | .finite a m e _, .finite b m' e' _ => decide (units a m e = units b m' e')

def isFinite : Double → Bool
  | .finite .. => true
  | _ => false

def bounded? : Double → Option Double
  | .infinity _ => none
  | x => some x

def ofInt? (n : Int) : Option Double := bounded? (ofUnits (decide (n < 0)) (n.natAbs * 2 ^ 1074) 1)

-- The number nearest to digits · 10^exponent. Beyond the first two bounds the answer is
-- infinite or zero whatever the digits are, so huge exponents cost nothing.
def ofDecimal (negative : Bool) (digits : Nat) (exponent : Int) : Double :=
  if digits = 0 then zero negative
  else if 310 ≤ exponent then .infinity negative
  else if (Nat.log2 digits : Int) + 3 * exponent < -1100 then zero negative
  else if 0 ≤ exponent then ofUnits negative (digits * 10 ^ exponent.toNat * 2 ^ 1074) 1
  else ofUnits negative (digits * 2 ^ 1074) (10 ^ (-exponent).toNat)

end Double

end UploadRelay
