import UploadRelay.Text.CodePoint
-- Texts written with ASCII letters, digits and dashes alone: first the ASCII part, then
-- every other code point as a distance from the one before, in the order of code points.

namespace UploadRelay.Punycode

def threshold (index bias : Nat) : Nat := min 26 (max 1 (36 * (index + 1) - bias))

theorem threshold_pos (index bias : Nat) : 1 ≤ threshold index bias := by
  unfold threshold
  omega

theorem threshold_le (index bias : Nat) : threshold index bias ≤ 26 := by
  unfold threshold
  omega

def shrink (delta divisions : Nat) : Nat × Nat :=
  if 455 < delta then shrink (delta / 35) (divisions + 36) else (delta, divisions)
termination_by delta
decreasing_by exact Nat.div_lt_self (by omega) (by omega)

def adapted (delta count : Nat) (isFirst : Bool) : Nat :=
  let halved := if isFirst then delta / 700 else delta / 2
  let (small, divisions) := shrink (halved + halved / count) 0
  divisions + 36 * small / (small + 38)

def digit (n : Nat) : CodePoint := if n < 26 then CodePoint.ofNat (97 + n) else CodePoint.ofNat (22 + n)

def digitValue? (c : CodePoint) : Option Nat :=
  if c.isLower then some (c.val - 97)
  else if c.isUpper then some (c.val - 65)
  else if c.isDigit then some (c.val - 22)
  else none

def digits (bias index : Nat) (q : Nat) : Text :=
  if q < threshold index bias then [digit q]
  else
    digit (threshold index bias + (q - threshold index bias) % (36 - threshold index bias)) ::
      digits bias (index + 1) ((q - threshold index bias) / (36 - threshold index bias))
termination_by q
decreasing_by
  have positive := threshold_pos index bias
  have bounded := threshold_le index bias
  exact Nat.lt_of_le_of_lt (Nat.div_le_self _ _) (by omega)

structure Writing where
  written : Text
  delta : Nat
  bias : Nat
  count : Nat

def look (basic m : Nat) (w : Writing) (c : CodePoint) : Writing :=
  if c.val < m then { w with delta := w.delta + 1 }
  else if c.val = m then
    { written := w.written ++ digits w.bias 0 w.delta
      delta := 0
      bias := adapted w.delta (w.count + 1) (w.count == basic)
      count := w.count + 1 }
  else w

def writeAll (t : Text) (basic : Nat) : List Nat → Nat → Writing → Writing
  | [], _, w => w
  | m :: rest, n, w =>
    let w := t.foldl (look basic m) { w with delta := w.delta + (m - n) * (w.count + 1) }
    writeAll t basic rest (m + 1) { w with delta := w.delta + 1 }

def encode (t : Text) : Text :=
  let basic := t.filter CodePoint.isAscii
  let others := ((t.filter fun c => !c.isAscii).map fun c => c.val).mergeSort.eraseDups
  let w := writeAll t basic.length others 128 ⟨[], 0, 72, basic.length⟩
  basic ++ (if basic.isEmpty then [] else ("-" : Text)) ++ w.written

def distance? (bias : Nat) : (index weight sum : Nat) → Text → Option (Nat × Text)
  | _, _, _, [] => none
  | index, weight, sum, c :: rest =>
    match digitValue? c with
    | none => none
    | some d =>
      let sum := sum + d * weight
      if d < threshold index bias then some (sum, rest)
      else distance? bias (index + 1) (weight * (36 - threshold index bias)) sum rest

structure Reading where
  read : Text
  -- The code point and the place that the next distance counts from.
  code : Nat
  place : Nat
  bias : Nat
  isFirst : Bool

def readAll : (fuel : Nat) → Reading → Text → Option Text
  | _, r, [] => some r.read
  | 0, r, _ => some r.read
  | fuel + 1, r, c :: rest =>
    match distance? r.bias 0 1 0 (c :: rest) with
    | none => none
    | some (delta, behind) =>
      let size := r.read.length + 1
      let place := r.place + delta
      let code := r.code + place / size
      if 0x10FFFF < code then none
      else
        let spot := place % size
        readAll fuel
          { read := r.read.take spot ++ CodePoint.ofNat code :: r.read.drop spot
            code := code
            place := spot + 1
            bias := adapted delta size r.isFirst
            isFirst := false } behind

-- What stands before and behind the last dash; without a dash all of it is behind.
def splitAtLastDash (t : Text) : Text × Text :=
  match t.reverse.findIdx? fun c => c.val == 45 with
  | some i => (t.take (t.length - i - 1), t.drop (t.length - i))
  | none => ([], t)

def decode? (t : Text) : Option Text :=
  if !Text.isAscii t then none
  else
    let (basic, behind) := splitAtLastDash t
    readAll behind.length ⟨basic, 128, 0, 72, true⟩ behind

end UploadRelay.Punycode
