import UploadRelay.Text.Blank
import UploadRelay.Text.Utf8
-- Header values with parameters: `value; name=value; name="quoted value"`. In extended ones, as in paths, a percent
-- sign and two hexadecimal digits stand for one byte.

namespace UploadRelay.Percent

def byte? (a b : UInt8) : Option UInt8 := do
  let x ← (CodePoint.ofByte a).hexValue?
  let y ← (CodePoint.ofByte b).hexValue?
  return UInt8.ofNat (16 * x + y)

def decoded : List UInt8 → List UInt8
  | 37 :: a :: b :: rest =>
    match byte? a b with
    | some x => x :: decoded rest
    | none => 37 :: decoded (a :: b :: rest)
  | b :: rest => b :: decoded rest
  | [] => []

def textOf (t : Text) : Text := Utf8.decodeLenient (decoded (Utf8.encode t))

end UploadRelay.Percent

namespace UploadRelay.Http

structure Parameterized where
  value : Text
  parameters : List (Text × Text)

namespace Parameterized

def get? (p : Parameterized) (name : Text) : Option Text :=
  (p.parameters.reverse.find? fun entry => entry.1 == name).map (·.2)

def backslash : CodePoint := CodePoint.ofChar '\\'
def quote : CodePoint := CodePoint.ofChar '"'

def isPlain (line : Text) : Bool := !line.contains quote && !line.contains backslash

-- The pieces between semicolons that stand outside quotes. A quote behind a backslash
-- neither opens nor closes; `current` is the piece begun, last first.
def pieces (inside afterBackslash : Bool) (current : Text) : Text → List Text
  | [] => [current.reverse]
  | c :: rest =>
    if c.val = 59 ∧ inside = false then current.reverse :: pieces false false [] rest
    else pieces (if c = quote ∧ afterBackslash = false then !inside else inside) (c = backslash)
      (c :: current) rest

def replacePairs (a b : CodePoint) (made : CodePoint) : Text → Text
  | x :: y :: rest =>
    if x = a ∧ y = b then made :: replacePairs a b made rest else x :: replacePairs a b made (y :: rest)
  | rest => rest

-- Quotes around a value fall away, then backslashes before backslashes, then before quotes.
def unquoted (value : Text) : Text :=
  match value with
  | q :: rest =>
    if q = quote ∧ rest.getLast? = some quote then
      replacePairs backslash quote quote (replacePairs backslash backslash backslash rest.dropLast)
    else value
  | [] => []

def parameter? (unquote : Text → Text) (piece : Text) : Option (Text × Text) :=
  match Text.splitAtFirst '=' piece with
  | (name, some value) => some (Text.lower (Text.trim name), unquote (Text.trim value))
  | (_, none) => none

def read (line : Text) : Parameterized :=
  let plain := isPlain line
  match (if plain then Text.splitOn ';' line else pieces false false [] line) with
  | value :: rest => ⟨Text.trim value, rest.filterMap (parameter? (if plain then id else unquoted))⟩
  | [] => ⟨[], []⟩

end Parameterized

end UploadRelay.Http
