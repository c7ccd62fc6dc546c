import UploadRelay.Text.CodePoint
-- UTF-8. One step reads one code point off the front of the bytes or says how many bytes
-- are ill-formed and why; the strict reader stops there, the lenient one writes U+FFFD and
-- goes on behind them.

namespace UploadRelay.Utf8

def byte (n : Nat) : UInt8 := UInt8.ofNat n

def encodeOne (c : CodePoint) : List UInt8 :=
  let n := c.val
  if n < 0x80 then [byte n]
  else if n < 0x800 then [byte (0xC0 + n / 0x40), byte (0x80 + n % 0x40)]
  else if n < 0x10000 then
    [byte (0xE0 + n / 0x1000), byte (0x80 + n / 0x40 % 0x40), byte (0x80 + n % 0x40)]
  else
    [byte (0xF0 + n / 0x40000), byte (0x80 + n / 0x1000 % 0x40), byte (0x80 + n / 0x40 % 0x40),
      byte (0x80 + n % 0x40)]

def encode (t : Text) : List UInt8 := t.flatMap encodeOne

inductive Complaint where
  | badStart
  | badContinuation
  | cutShort
deriving DecidableEq

def Complaint.text : Complaint → String
  | .badStart => "invalid start byte"
  | .badContinuation => "invalid continuation byte"
  | .cutShort => "unexpected end of data"

-- `good c rest`: the code point in front and what follows it.
-- `bad n why`: the first `n` bytes are ill-formed.
inductive Step where
  | good (c : CodePoint) (rest : List UInt8)
  | bad (width : Nat) (complaint : Complaint)

def isContinuation (b : UInt8) : Bool := decide (0x80 ≤ b.toNat) && decide (b.toNat < 0xC0)

def tail (b : UInt8) : Nat := b.toNat - 0x80

-- The first continuation byte of a lead byte is held to the range that excludes
-- overlong forms, surrogates (unless admitted) and numbers past the code space.
def secondFits (surrogates : Bool) (lead second : UInt8) : Bool :=
  isContinuation second &&
    (if lead = 0xE0 then decide (0xA0 ≤ second.toNat)
     else if lead = 0xED then surrogates || decide (second.toNat < 0xA0)
     else if lead = 0xF0 then decide (0x90 ≤ second.toNat)
     else if lead = 0xF4 then decide (second.toNat < 0x90)
     else true)

-- A surrogate is only admitted when all three of its bytes are there.
def admitsSurrogate (surrogates : Bool) : List UInt8 → Bool
  | _ :: third :: _ => surrogates && isContinuation third
  | _ => false

def step (surrogates : Bool) (lead : UInt8) (rest : List UInt8) : Step :=
  let n := lead.toNat
  if n < 0x80 then .good (CodePoint.ofByte lead) rest
  else if n < 0xC2 then .bad 1 .badStart
  else if n < 0xE0 then
    match rest with
    | [] => .bad 1 .cutShort
    | b :: rest =>
      if isContinuation b then .good (CodePoint.ofNat ((n - 0xC0) * 0x40 + tail b)) rest
      else .bad 1 .badContinuation
  else if n < 0xF0 then
    let admitted := admitsSurrogate surrogates rest
    match rest with
    | [] => .bad 1 .cutShort
    | [b] => if secondFits admitted lead b then .bad 2 .cutShort else .bad 1 .badContinuation
    | b :: c :: rest =>
      if !secondFits admitted lead b then .bad 1 .badContinuation
      else if !isContinuation c then .bad 2 .badContinuation
      else .good (CodePoint.ofNat ((n - 0xE0) * 0x1000 + tail b * 0x40 + tail c)) rest
  else if n < 0xF5 then
    match rest with
    | [] => .bad 1 .cutShort
    | [b] => if secondFits false lead b then .bad 2 .cutShort else .bad 1 .badContinuation
    | [b, c] =>
      if !secondFits false lead b then .bad 1 .badContinuation
      else if !isContinuation c then .bad 2 .badContinuation
      else .bad 3 .cutShort
    | b :: c :: d :: rest =>
      if !secondFits false lead b then .bad 1 .badContinuation
      else if !isContinuation c then .bad 2 .badContinuation
      else if !isContinuation d then .bad 3 .badContinuation
      else .good
        (CodePoint.ofNat ((n - 0xF0) * 0x40000 + tail b * 0x1000 + tail c * 0x40 + tail d)) rest
  else .bad 1 .badStart

-- Where the bytes stop being UTF-8: the offset, the width of the ill-formed piece, why.
structure Malformed where
  offset : Nat
  width : Nat
  first : UInt8
  complaint : Complaint
deriving DecidableEq

def strictLoop (surrogates : Bool) : (fuel : Nat) → (total : Nat) → Text → List UInt8 →
    Except Malformed Text
  | 0, _, read, _ => .ok read.reverse
  | _ + 1, _, read, [] => .ok read.reverse
  | fuel + 1, total, read, lead :: rest =>
    match step surrogates lead rest with
    | .good c rest => strictLoop surrogates fuel total (c :: read) rest
    | .bad width complaint =>
      .error ⟨total - (rest.length + 1), width, lead, complaint⟩

def decode (surrogates : Bool) (bytes : List UInt8) : Except Malformed Text :=
  strictLoop surrogates bytes.length bytes.length [] bytes

def lenientLoop : (fuel : Nat) → Text → List UInt8 → Text
  | 0, read, _ => read.reverse
  | _ + 1, read, [] => read.reverse
  | fuel + 1, read, lead :: rest =>
    match step false lead rest with
    | .good c rest => lenientLoop fuel (c :: read) rest
    | .bad width _ => lenientLoop fuel (CodePoint.replacement :: read) (rest.drop (width - 1))

def decodeLenient (bytes : List UInt8) : Text := lenientLoop bytes.length [] bytes

end UploadRelay.Utf8
