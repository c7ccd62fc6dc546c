import UploadRelay.Text.Utf8
-- Text encodings: the Unicode families with and without a byte order mark, and the encoding
-- that a document's first bytes give away.

namespace UploadRelay

inductive ByteOrder where
  | little
  | big
deriving DecidableEq

structure DecodeFault where
  encoding : String
  first : UInt8
  start : Nat
  stop : Nat
  reason : String
deriving DecidableEq

def DecodeFault.message (f : DecodeFault) : Text :=
  if f.stop = f.start + 1 then
    "'" ++ (f.encoding : Text) ++ "' codec can't decode byte 0x" ++ Text.hex 2 f.first.toNat ++
      " in position " ++ Text.ofNat f.start ++ ": " ++ f.reason
  else
    "'" ++ (f.encoding : Text) ++ "' codec can't decode bytes in position " ++ Text.ofNat f.start ++
      "-" ++ Text.ofNat (f.stop - 1) ++ ": " ++ f.reason

namespace Encoding

def utf8Fault (m : Utf8.Malformed) : DecodeFault :=
  ⟨"utf-8", m.first, m.offset, m.offset + m.width, m.complaint.text⟩

def readUtf8 (surrogates : Bool) (bytes : List UInt8) : Except DecodeFault Text :=
  (Utf8.decode surrogates bytes).mapError utf8Fault

def unit16 (order : ByteOrder) (a b : UInt8) : CodePoint :=
  match order with
  | .little => CodePoint.ofNat (a.toNat + 0x100 * b.toNat)
  | .big => CodePoint.ofNat (0x100 * a.toNat + b.toNat)

def name16 : ByteOrder → String
  | .little => "utf-16-le"
  | .big => "utf-16-be"

def name32 : ByteOrder → String
  | .little => "utf-32-le"
  | .big => "utf-32-be"

-- `offset` is the place of the bytes in front and `high` a high surrogate read just before
-- them. Surrogates that stand alone are kept only when they are admitted.
def utf16Loop (surrogates : Bool) (order : ByteOrder) (offset : Nat) (high : Option (UInt8 × CodePoint))
    (read : Text) : List UInt8 → Except DecodeFault Text
  | [] =>
    match high with
    | none => .ok read.reverse
    | some (first, h) =>
      if surrogates then .ok (h :: read).reverse
      else .error ⟨name16 order, first, offset - 2, offset, "unexpected end of data"⟩
  | [b] =>
    match high with
    | some (first, _) =>
      if surrogates then .error ⟨name16 order, b, offset, offset + 1, "truncated data"⟩
      else .error ⟨name16 order, first, offset - 2, offset + 1, "unexpected end of data"⟩
    | none => .error ⟨name16 order, b, offset, offset + 1, "truncated data"⟩
  | a :: b :: rest =>
    let u := unit16 order a b
    match high with
    | some (first, h) =>
      if u.isLowSurrogate then
        utf16Loop surrogates order (offset + 2) none (CodePoint.joined h u :: read) rest
      else if !surrogates then
        .error ⟨name16 order, first, offset - 2, offset, "illegal UTF-16 surrogate"⟩
      else if u.isHighSurrogate then
        utf16Loop surrogates order (offset + 2) (some (a, u)) (h :: read) rest
      else utf16Loop surrogates order (offset + 2) none (u :: h :: read) rest
    | none =>
      if u.isHighSurrogate then utf16Loop surrogates order (offset + 2) (some (a, u)) read rest
      else if u.isLowSurrogate && !surrogates then
        .error ⟨name16 order, a, offset, offset + 2, "illegal encoding"⟩
      else utf16Loop surrogates order (offset + 2) none (u :: read) rest

def utf32Loop (surrogates : Bool) (order : ByteOrder) (offset : Nat) (read : Text) :
    List UInt8 → Except DecodeFault Text
  | [] => .ok read.reverse
  | a :: b :: c :: d :: rest =>
    let n := match order with
      | .little => a.toNat + 0x100 * (b.toNat + 0x100 * (c.toNat + 0x100 * d.toNat))
      | .big => d.toNat + 0x100 * (c.toNat + 0x100 * (b.toNat + 0x100 * a.toNat))
    if h : n < 0x110000 then
      let u : CodePoint := ⟨n, h⟩
      if u.isSurrogate && !surrogates then
        .error ⟨name32 order, a, offset, offset + 4,
          "code point in surrogate code point range(0xd800, 0xe000)"⟩
      else utf32Loop surrogates order (offset + 4) (u :: read) rest
    else .error ⟨name32 order, a, offset, offset + 4, "code point not in range(0x110000)"⟩
  | b :: rest => .error ⟨name32 order, b, offset, offset + 1 + rest.length, "truncated data"⟩

-- With a byte order mark in front the mark decides and is dropped; without one the bytes
-- are read from the little end.
def utf16Marked (surrogates : Bool) : List UInt8 → Except DecodeFault Text
  | 0xFF :: 0xFE :: rest => utf16Loop surrogates .little 2 none [] rest
  | 0xFE :: 0xFF :: rest => utf16Loop surrogates .big 2 none [] rest
  | bytes => utf16Loop surrogates .little 0 none [] bytes

def utf32Marked (surrogates : Bool) : List UInt8 → Except DecodeFault Text
  | 0xFF :: 0xFE :: 0 :: 0 :: rest => utf32Loop surrogates .little 4 [] rest
  | 0 :: 0 :: 0xFE :: 0xFF :: rest => utf32Loop surrogates .big 4 [] rest
  | bytes => utf32Loop surrogates .little 0 [] bytes

-- The encoding of a document of ASCII-led text: a byte order mark names it, else the
-- places of the zero bytes among the first four do.
inductive Guess where
  | utf8
  | utf8Marked
  | utf16 (order : ByteOrder)
  | utf32 (order : ByteOrder)
  | utf16Marked
  | utf32Marked
deriving DecidableEq

def guess (bytes : List UInt8) : Guess :=
  if [0, 0, 0xFE, 0xFF].isPrefixOf bytes || [0xFF, 0xFE, 0, 0].isPrefixOf bytes then .utf32Marked
  else if [0xFE, 0xFF].isPrefixOf bytes || [0xFF, 0xFE].isPrefixOf bytes then .utf16Marked
  else if [0xEF, 0xBB, 0xBF].isPrefixOf bytes then .utf8Marked
  else
    match bytes with
    | a :: b :: c :: d :: _ =>
      if a = 0 then (if b = 0 then .utf32 .big else .utf16 .big)
      else if b = 0 then (if c = 0 ∧ d = 0 then .utf32 .little else .utf16 .little)
      else .utf8
    | [a, b] => if a = 0 then .utf16 .big else if b = 0 then .utf16 .little else .utf8
    | _ => .utf8

def decodeGuessed (bytes : List UInt8) : Except DecodeFault Text :=
  match guess bytes with
  | .utf8 => readUtf8 true bytes
  | .utf8Marked => readUtf8 true (bytes.drop 3)
  | .utf16 order => utf16Loop true order 0 none [] bytes
  | .utf32 order => utf32Loop true order 0 [] bytes
  | .utf16Marked => utf16Marked true bytes
  | .utf32Marked => utf32Marked true bytes

def readAscii (bytes : List UInt8) : Except DecodeFault Text :=
  match bytes.findIdx? (fun b => decide (0x80 ≤ b.toNat)) with
  | some i => .error ⟨"ascii", bytes.getD i 0, i, i + 1, "ordinal not in range(128)"⟩
  | none => .ok (bytes.map CodePoint.ofByte)

def readLatin1 (bytes : List UInt8) : Text := bytes.map CodePoint.ofByte

end Encoding

end UploadRelay
