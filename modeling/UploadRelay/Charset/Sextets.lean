import UploadRelay.Text.CodePoint
-- Text of seven bits in which a plus sign begins a stretch of sextets: the bits of sixteen-bit
-- units, six to a character. A dash may end the stretch.

namespace UploadRelay.Charset.Sextets

def value? (b : UInt8) : Option Nat :=
  let n := b.toNat
  if 65 ≤ n ∧ n ≤ 90 then some (n - 65)
  else if 97 ≤ n ∧ n ≤ 122 then some (n - 71)
  else if 48 ≤ n ∧ n ≤ 57 then some (n + 4)
  else if n = 43 then some 62
  else if n = 47 then some 63
  else none

structure Stretch where
  bits : Nat
  count : Nat
  high : Option CodePoint

def Stretch.start : Stretch := ⟨0, 0, none⟩

def Stretch.unit (s : Stretch) (done : Text) (u : CodePoint) : Stretch × Text :=
  match s.high with
  | some h =>
    if u.isLowSurrogate then ({ s with high := none }, CodePoint.joined h u :: done)
    else if u.isHighSurrogate then ({ s with high := some u }, h :: done)
    else ({ s with high := none }, u :: h :: done)
  | none => if u.isHighSurrogate then ({ s with high := some u }, done) else (s, u :: done)

def Stretch.add (s : Stretch) (done : Text) (sextet : Nat) : Stretch × Text :=
  let bits := 64 * s.bits + sextet
  let count := s.count + 6
  if 16 ≤ count then
    let left := count - 16
    Stretch.unit { s with bits := bits % 2 ^ left, count := left } done (CodePoint.ofNat (bits / 2 ^ left))
  else ({ s with bits := bits, count := count }, done)

-- Left-over bits are fewer than a sextet and all zero.
def Stretch.isEven (s : Stretch) : Bool := decide (s.count < 6) && s.bits == 0

def isDirect (b : UInt8) : Bool := decide (b.toNat < 0x80) && b != 43

def outside (done : Text) (b : UInt8) (rest : List UInt8) : Option (Option Stretch × Text × List UInt8) :=
  if b = 43 then
    match rest with
    | 45 :: rest => some (none, CodePoint.ofChar '+' :: done, rest)
    | c :: _ => if (value? c).isSome then some (some .start, done, rest) else none
    | [] => some (some .start, done, [])
  else if isDirect b then some (none, CodePoint.ofByte b :: done, rest)
  else none

def step? (stretch : Option Stretch) (done : Text) (b : UInt8) (rest : List UInt8) :
    Option (Option Stretch × Text × List UInt8) :=
  match stretch with
  | none => outside done b rest
  | some s =>
    match value? b with
    | some sextet =>
      let (s, done) := s.add done sextet
      some (some s, done, rest)
    | none =>
      if !s.isEven then none
      else
        let done := if isDirect b then s.high.toList ++ done else done
        if b = 45 then some (none, done, rest) else outside done b rest

def loop : (fuel : Nat) → Option Stretch → (done : Text) → List UInt8 → Option Text
  | _, none, done, [] => some done.reverse
  | _, some s, done, [] => if s.isEven && s.high.isNone then some done.reverse else none
  | 0, _, _, _ :: _ => none
  | fuel + 1, stretch, done, b :: rest =>
    match step? stretch done b rest with
    | none => none
    | some (stretch, done, rest) => loop fuel stretch done rest

def decode? (bytes : List UInt8) : Option Text := loop bytes.length none [] bytes

end UploadRelay.Charset.Sextets
