import UploadRelay.Number.Places
import UploadRelay.Number.Shortest
-- Numbers as they are configured and decoded: whole numbers of any size beside floating ones. A whole number meets a
-- floating one by becoming floating, which fails when it is past the floating range; comparisons are exact. What the
-- program asks of numbers that measure time is less than that, and its rules are stated for every such arithmetic, an
-- exact one among them.

namespace UploadRelay

inductive Num where
  | int (n : Int)
  | float (x : Double)
deriving DecidableEq

structure Overflow where
deriving DecidableEq

def Overflow.message : Text := "int too large to convert to float"

namespace Num

def toDouble : Num → Except Overflow Double
  | .int n => match Double.ofInt? n with
    | some x => .ok x
    | none => .error ⟨⟩
  | .float x => .ok x

def combine (whole : Int → Int → Int) (floating : Double → Double → Double) :
    Num → Num → Except Overflow Num
  | .int a, .int b => .ok (.int (whole a b))
  | a, b => do
    let x ← a.toDouble
    let y ← b.toDouble
    return .float (floating x y)

def add := combine (· + ·) Double.add
def mul := combine (· * ·) Double.mul

def lessIntDouble (n : Int) : Double → Bool
  | .nan => false
  | .infinity negative => !negative
  | .finite negative m e _ => decide (n * 2 ^ 1074 < Double.units negative m e)

def lessDoubleInt : Double → Int → Bool
  | .nan, _ => false
  | .infinity negative, _ => negative
  | .finite negative m e _, n => decide (Double.units negative m e < n * 2 ^ 1074)

def less : Num → Num → Bool
  | .int a, .int b => decide (a < b)
  | .int a, .float y => lessIntDouble a y
  | .float x, .int b => lessDoubleInt x b
  | .float x, .float y => x.less y

def same : Num → Num → Bool
  | .int a, .int b => decide (a = b)
  | .float x, .float y => x.same y
  | .int a, .float (.finite s m e _) => decide (a * 2 ^ 1074 = Double.units s m e)
  | .float (.finite s m e _), .int a => decide (a * 2 ^ 1074 = Double.units s m e)
  | _, _ => false

def atMost (a b : Num) : Bool := a.less b || a.same b

def text : Num → Text
  | .int n => Text.ofInt n
  | .float x => x.text

-- 2^attempt; a power below one is a floating number, and zero when it is below them all. An
-- exponent past the floating range has no such power.
def powerOfTwo (attempt : Int) : Except Overflow Num :=
  if 0 ≤ attempt then .ok (.int (2 ^ attempt.toNat))
  else if -1100 < attempt then .ok (.float (Double.ofUnits false (2 ^ 1074) (2 ^ (-attempt).toNat)))
  else (Num.int attempt).toDouble.map fun _ => .float (Double.zero false)

end Num

class Seconds (N : Type) where
  ofInt : Int → N
  ofDouble : Double → N
  add : N → N → Except Overflow N
  mul : N → N → Except Overflow N
  less : N → N → Bool
  atMost : N → N → Bool
  powerOfTwo : Int → Except Overflow N
  half : N
  text : N → Text
  hundredths : N → Text

instance : Seconds Num where
  ofInt := .int
  ofDouble := .float
  add := Num.add
  mul := Num.mul
  less := Num.less
  atMost := Num.atMost
  powerOfTwo := Num.powerOfTwo
  half := .float (Double.ofUnits false (2 ^ 1073) 1)
  text := Num.text
  hundredths n :=
    match n.toDouble with
    | .ok x => x.fixed 2
    | .error _ => n.text

namespace Seconds

variable {N : Type} [Seconds N]

def least (a b : N) : N := if less b a then b else a
def greatest (a b : N) : N := if less a b then b else a

end Seconds

end UploadRelay
