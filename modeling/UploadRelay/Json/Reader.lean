import UploadRelay.Json.Value
import UploadRelay.Number.Decimal
import UploadRelay.Text.Encoding
-- Reading JSON documents. The reader is permissive in three ways: it knows words for the
-- numbers that are not finite, it keeps escapes of lone surrogates, and of members with one
-- name it takes the last. A fault is located by how much of the text was left there.

namespace UploadRelay.Json

inductive Complaint where
  | expectingValue
  | extraData
  | expectingName
  | expectingColon
  | expectingComma
  | unterminatedString
  | controlCharacter
  | badEscape
  | badUnicodeEscape
  | byteOrderMark
deriving DecidableEq

def Complaint.text : Complaint → String
  | .expectingValue => "Expecting value"
  | .extraData => "Extra data"
  | .expectingName => "Expecting property name enclosed in double quotes"
  | .expectingColon => "Expecting ':' delimiter"
  | .expectingComma => "Expecting ',' delimiter"
  | .unterminatedString => "Unterminated string starting at"
  | .controlCharacter => "Invalid control character at"
  | .badEscape => "Invalid \\escape"
  | .badUnicodeEscape => "Invalid \\uXXXX escape"
  | .byteOrderMark => "Unexpected UTF-8 BOM (decode using utf-8-sig)"

-- Why a scan stopped; `left` counts the code points from the fault to the end of the text.
inductive Stop where
  | malformed (complaint : Complaint) (left : Nat)
  | tooManyDigits (count : Nat)
  | tooDeep (inObject : Bool)
deriving DecidableEq

def digitLimit : Nat := 4300

-- Arrays and objects are read up to this depth.
def nestingLimit : Nat := 900

def isSpace (c : CodePoint) : Bool := c.val == 32 || c.val == 9 || c.val == 10 || c.val == 13

def skipSpace (t : Text) : Text := t.dropWhile isSpace

def hex4? (a b c d : CodePoint) : Option CodePoint := do
  let w ← a.hexValue?
  let x ← b.hexValue?
  let y ← c.hexValue?
  let z ← d.hexValue?
  return CodePoint.ofNat (((w * 16 + x) * 16 + y) * 16 + z)

-- The digits behind `\u`. They never close the text: at least one code point follows them.
def escapedUnit (u : CodePoint) (rest : Text) : Except Stop (CodePoint × Text) :=
  match rest with
  | a :: b :: c :: d :: e :: after =>
    match hex4? a b c d with
    | some unit => .ok (unit, e :: after)
    | none => .error (.malformed .badUnicodeEscape (u :: rest).length)
  | _ => .error (.malformed .badUnicodeEscape (u :: rest).length)

-- A high surrogate takes an escaped low one behind it into one code point.
def escapedCodePoint (u : CodePoint) (rest : Text) : Except Stop (CodePoint × Text) := do
  let (unit, after) ← escapedUnit u rest
  if unit.isHighSurrogate then
    match after with
    | b :: v :: a' :: b' :: c' :: d' :: e' :: after' =>
      if b.val = 92 ∧ v.val = 117 then
        let (low, behind) ← escapedUnit v (a' :: b' :: c' :: d' :: e' :: after')
        if low.isLowSurrogate then return (CodePoint.joined unit low, behind)
        else return (unit, after)
      else return (unit, after)
    | _ => return (unit, after)
  else return (unit, after)

def simpleEscape? (c : CodePoint) : Option CodePoint :=
  match c.val with
  | 34 => some (CodePoint.ofChar '"')
  | 92 => some (CodePoint.ofChar '\\')
  | 47 => some (CodePoint.ofChar '/')
  | 98 => some (CodePoint.ofNat 8)
  | 102 => some (CodePoint.ofNat 12)
  | 110 => some (CodePoint.ofNat 10)
  | 114 => some (CodePoint.ofNat 13)
  | 116 => some (CodePoint.ofNat 9)
  | _ => none

def stringBody (start : Text) : (fuel : Nat) → (read : Text) → Text → Except Stop (Text × Text)
  | 0, _, _ => .error (.malformed .unterminatedString start.length)
  | _ + 1, _, [] => .error (.malformed .unterminatedString start.length)
  | fuel + 1, read, c :: rest =>
    if c.val = 34 then .ok (read.reverse, rest)
    else if c.val = 92 then
      match rest with
      | [] => .error (.malformed .unterminatedString start.length)
      | e :: behind =>
        if e.val = 117 then
          match escapedCodePoint e behind with
          | .error stop => .error stop
          | .ok (unit, after) => stringBody start fuel (unit :: read) after
        else
          match simpleEscape? e with
          | some unit => stringBody start fuel (unit :: read) behind
          | none => .error (.malformed .badEscape (c :: rest).length)
    else if c.val < 32 then .error (.malformed .controlCharacter (c :: rest).length)
    else stringBody start fuel (c :: read) rest

def string (fuel : Nat) (quote : CodePoint) (rest : Text) : Except Stop (Text × Text) :=
  stringBody (quote :: rest) fuel [] rest

def wholeDigits? : Text → Option (Text × Text)
  | c :: rest =>
    if c.val = 48 then some ([c], rest)
    else if c.isDigit then some (Decimal.span (c :: rest))
    else none
  | [] => none

def fraction : Text → Text × Text
  | p :: d :: rest => if p.val = 46 ∧ d.isDigit then Decimal.span (d :: rest) else ([], p :: d :: rest)
  | t => ([], t)

def number (t : Text) : Except Stop (Json × Text) :=
  let (negative, body) := match t with
    | c :: rest => if c.val = 45 then (true, rest) else (false, t)
    | [] => (false, t)
  match wholeDigits? body with
  | none => .error (.malformed .expectingValue t.length)
  | some (whole, rest) =>
    let (places, rest) := fraction rest
    match Decimal.exponent? rest with
    | some (e, rest) =>
      .ok (.float (Double.ofDecimal negative (Decimal.digits (whole ++ places)) (e - (places.length : Int))), rest)
    | none =>
      if places.isEmpty then
        if digitLimit < whole.length then .error (.tooManyDigits whole.length)
        else
          let n := Decimal.digits whole
          .ok (.int (if negative then -(n : Int) else (n : Int)), rest)
      else
        .ok (.float (Double.ofDecimal negative (Decimal.digits (whole ++ places)) (-(places.length : Int))), rest)

def words : List (String × Json) :=
  [("null", .null), ("true", .bool true), ("false", .bool false), ("NaN", .float .nan),
   ("Infinity", .float (.infinity false)), ("-Infinity", .float (.infinity true))]

def word? (t : Text) : Option (Json × Text) :=
  words.findSome? fun w => (Text.dropStart? w.1 t).map fun rest => (w.2, rest)

def scalar (t : Text) : Except Stop (Json × Text) :=
  match word? t with
  | some found => .ok found
  | none => number t

mutual

def value : (fuel depth : Nat) → Text → Except Stop (Json × Text)
  | 0, _, t => .error (.malformed .expectingValue t.length)
  | _ + 1, _, [] => .error (.malformed .expectingValue 0)
  | fuel + 1, depth, c :: rest =>
    if c.val = 34 then
      match string fuel c rest with
      | .error stop => .error stop
      | .ok (t, after) => .ok (.str t, after)
    else if c.val = 91 then
      match depth with
      | 0 => .error (.tooDeep false)
      | depth + 1 =>
        match skipSpace rest with
        | [] => .error (.malformed .expectingValue 0)
        | d :: after =>
          if d.val = 93 then .ok (.arr [], after) else elements fuel depth [] (d :: after)
    else if c.val = 123 then
      match depth with
      | 0 => .error (.tooDeep true)
      | depth + 1 =>
        match skipSpace rest with
        | [] => .error (.malformed .expectingName 0)
        | d :: after =>
          if d.val = 125 then .ok (.obj [], after) else members fuel depth [] (d :: after)
    else scalar (c :: rest)

-- The elements from the first to the closing bracket; those read stand in `read`, last first.
def elements : (fuel depth : Nat) → (read : List Json) → Text → Except Stop (Json × Text)
  | 0, _, _, t => .error (.malformed .expectingValue t.length)
  | fuel + 1, depth, read, t =>
    match value fuel depth t with
    | .error stop => .error stop
    | .ok (v, rest) =>
      match skipSpace rest with
      | [] => .error (.malformed .expectingComma 0)
      | c :: after =>
        if c.val = 93 then .ok (.arr (v :: read).reverse, after)
        else if c.val = 44 then elements fuel depth (v :: read) (skipSpace after)
        else .error (.malformed .expectingComma (c :: after).length)

def members : (fuel depth : Nat) → (read : List (Text × Json)) → Text → Except Stop (Json × Text)
  | 0, _, _, t => .error (.malformed .expectingName t.length)
  | fuel + 1, depth, read, t =>
    match t with
    | [] => .error (.malformed .expectingName 0)
    | q :: behind =>
      if q.val ≠ 34 then .error (.malformed .expectingName t.length)
      else
        match string fuel q behind with
        | .error stop => .error stop
        | .ok (name, rest) =>
          match skipSpace rest with
          | [] => .error (.malformed .expectingColon 0)
          | c :: after =>
            if c.val ≠ 58 then .error (.malformed .expectingColon (c :: after).length)
            else
              match value fuel depth (skipSpace after) with
              | .error stop => .error stop
              | .ok (v, rest) =>
                match skipSpace rest with
                | [] => .error (.malformed .expectingComma 0)
                | c :: after =>
                  if c.val = 125 then
                    .ok (.obj (Members.ofPairs ((name, v) :: read).reverse), after)
                  else if c.val = 44 then members fuel depth ((name, v) :: read) (skipSpace after)
                  else .error (.malformed .expectingComma (c :: after).length)

end

-- The whole document, blanks around it allowed. A value takes one unit of fuel, and one more
-- as an element or a member, and there is a character for each; so what is left when a string
-- begins is more than the text behind it.
def document (t : Text) : Except Stop Json :=
  match value (2 * t.length + 2) nestingLimit (skipSpace t) with
  | .error stop => .error stop
  | .ok (v, rest) =>
    match skipSpace rest with
    | [] => .ok v
    | extra => .error (.malformed .extraData extra.length)

inductive Fault where
  | malformed (complaint : Complaint) (position line column : Nat)
  | tooManyDigits (count : Nat)
  | tooDeep (inObject : Bool)
  | undecodable (fault : DecodeFault)
deriving DecidableEq

def isNewline (c : CodePoint) : Bool := c.val == 10

-- Lines and columns count from one, positions from zero.
def Stop.located (t : Text) : Stop → Fault
  | .malformed complaint left =>
    let position := t.length - left
    let before := t.take position
    .malformed complaint position ((before.filter isNewline).length + 1)
      ((before.reverse.takeWhile fun c => !isNewline c).length + 1)
  | .tooManyDigits count => .tooManyDigits count
  | .tooDeep inObject => .tooDeep inObject

def Fault.message : Fault → Text
  | .malformed complaint position line column =>
    (complaint.text : Text) ++ ": line " ++ Text.ofNat line ++ " column " ++ Text.ofNat column ++
      " (char " ++ Text.ofNat position ++ ")"
  | .tooManyDigits count =>
    "Exceeds the limit (" ++ Text.ofNat digitLimit ++
      " digits) for integer string conversion: value has " ++ Text.ofNat count ++
      " digits; use sys.set_int_max_str_digits() to increase the limit"
  | .tooDeep inObject =>
    "maximum recursion depth exceeded while decoding a JSON " ++
      ((if inObject then "object" else "array" : String) : Text) ++ " from a unicode string"
  | .undecodable fault => fault.message

def Fault.isMalformed : Fault → Bool
  | .tooDeep _ => false
  | _ => true

def readDecoded (t : Text) : Except Fault Json := (document t).mapError (Stop.located t)

def beginsWithMark : Text → Bool
  | c :: _ => c.val == 0xFEFF
  | [] => false

-- A byte order mark belongs to bytes; at the start of a text it is a fault of its own.
def read (t : Text) : Except Fault Json :=
  if beginsWithMark t then .error (Stop.located t (.malformed .byteOrderMark t.length))
  else readDecoded t

def readBytes (bytes : List UInt8) : Except Fault Json :=
  match Encoding.decodeGuessed bytes with
  | .error fault => .error (.undecodable fault)
  | .ok t => readDecoded t

end UploadRelay.Json
