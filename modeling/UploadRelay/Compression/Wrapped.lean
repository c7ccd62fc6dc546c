import UploadRelay.Compression.Inflate
import UploadRelay.Text.CodePoint
-- Deflated data in its wrappings: a header in front, and checksums behind that tell whether the data came through.
-- Data that is cut short gives what was there; what follows its end does not count.

namespace UploadRelay.Checksum

def modulus : Nat := 65521

def addByte (sums : Nat × Nat) (b : UInt8) : Nat × Nat :=
  ((sums.1 + b.toNat) % modulus, (sums.2 + (sums.1 + b.toNat) % modulus) % modulus)

def adler32 (bytes : List UInt8) : Nat :=
  let sums := bytes.foldl addByte (1, 0)
  sums.2 * 65536 + sums.1

def polynomial : Nat := 0xEDB88320

def shift : (times : Nat) → Nat → Nat
  | 0, n => n
  | times + 1, n => shift times (if n % 2 = 0 then n / 2 else (n / 2) ^^^ polynomial)

def crc32 (bytes : List UInt8) : Nat :=
  bytes.foldl (fun n b => shift 8 (n ^^^ b.toNat)) 0xFFFFFFFF ^^^ 0xFFFFFFFF

end UploadRelay.Checksum

namespace UploadRelay.Compression

def Stop.message : Stop → Text
  | .cutShort => "Error -5 while decompressing data: incomplete or truncated stream"
  | .bad reason => "Error -3 while decompressing data: " ++ reason
  | .needsDictionary => "Error 2 while decompressing data"

def bigEndian (bytes : List UInt8) : Nat := bytes.foldl (fun n b => 256 * n + b.toNat) 0
def littleEndian (bytes : List UInt8) : Nat := bigEndian bytes.reverse

def takeBytes (count : Nat) (b : Bits) : Except Stop (List UInt8 × Bits) :=
  let b := b.toByte
  let start := b.place / 8
  if b.bytes.size < start + count then .error .cutShort
  else .ok ((b.bytes.extract start (start + count)).toList, { b with place := b.place + 8 * count })

abbrev Header := Bits → Except Stop Bits
abbrev Check := List UInt8 → Bits → Except Stop Unit

def zlibHeader : Header := fun b => do
  let (head, b) ← takeBytes 2 b
  let first := bigEndian (head.take 1)
  let second := bigEndian (head.drop 1)
  if (256 * first + second) % 31 ≠ 0 then throw (.bad "incorrect header check")
  if first % 16 ≠ 8 then throw (.bad "unknown compression method")
  if 7 < first / 16 then throw (.bad "invalid window size")
  if second / 32 % 2 = 1 then
    let _ ← takeBytes 4 b
    throw .needsDictionary
  return b

def zlibCheck : Check := fun output b => do
  let (sum, _) ← takeBytes 4 b
  if bigEndian sum ≠ Checksum.adler32 output then throw (.bad "incorrect data check")

def hasFlag (flags : Nat) (flag : Nat) : Bool := flags / 2 ^ flag % 2 == 1

def skipToZero : (fuel : Nat) → Bits → Except Stop Bits
  | 0, _ => .error .cutShort
  | fuel + 1, b => do
    let (c, b) ← takeBytes 1 b
    if c = [0] then return b else skipToZero fuel b

def gzipHeader : Header := fun b => do
  let start := b
  let (mark, b) ← takeBytes 2 b
  if mark ≠ [0x1F, 0x8B] then throw (.bad "incorrect header check")
  let (head, b) ← takeBytes 2 b
  let flags := bigEndian (head.drop 1)
  if head.head? ≠ some 8 then throw (.bad "unknown compression method")
  if 31 < flags then throw (.bad "unknown header flags set")
  let (_, b) ← takeBytes 6 b
  let b ← if hasFlag flags 2 then do
      let (size, b) ← takeBytes 2 b
      let (_, b) ← takeBytes (littleEndian size) b
      pure b
    else pure b
  let b ← if hasFlag flags 3 then skipToZero b.bytes.size b else pure b
  let b ← if hasFlag flags 4 then skipToZero b.bytes.size b else pure b
  if hasFlag flags 1 then
    let seen := (b.bytes.extract (start.place / 8) (b.place / 8)).toList
    let (sum, b) ← takeBytes 2 b
    if littleEndian sum ≠ Checksum.crc32 seen % 65536 then throw (.bad "header crc mismatch")
    return b
  else return b

def gzipCheck : Check := fun output b => do
  let (sum, b) ← takeBytes 4 b
  if littleEndian sum ≠ Checksum.crc32 output then throw (.bad "incorrect data check")
  let (size, _) ← takeBytes 4 b
  if littleEndian size ≠ output.length % 2 ^ 32 then throw (.bad "incorrect length check")

-- The end of data that is cut short is no fault.
def excused (kept : List UInt8) : Stop → Except Stop (List UInt8)
  | .cutShort => .ok kept
  | stop => .error stop

def unwrapped (header : Header) (check : Check) (bytes : List UInt8) : Except Stop (List UInt8) :=
  match header ⟨bytes.toArray, 0⟩ with
  | .error stop => excused [] stop
  | .ok b =>
    let p := inflateFrom b
    let output := p.output.toList
    match p.stop with
    | some stop => excused output stop
    | none =>
      match check output p.bits with
      | .error stop => excused output stop
      | .ok () => .ok output

def bare (bytes : List UInt8) : Except Stop (List UInt8) := unwrapped (fun b => .ok b) (fun _ _ => .ok ()) bytes
def zlib (bytes : List UInt8) : Except Stop (List UInt8) := unwrapped zlibHeader zlibCheck bytes
def gzip (bytes : List UInt8) : Except Stop (List UInt8) := unwrapped gzipHeader gzipCheck bytes

def deflate (bytes : List UInt8) : Except Stop (List UInt8) :=
  match zlib bytes with
  | .ok output => .ok output
  | .error _ => bare bytes

end UploadRelay.Compression
