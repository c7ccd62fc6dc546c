import UploadRelay.Text.CodePoint
-- Deflated data: blocks of bytes as they are, and blocks of codes for bytes and for
-- repetitions of what came before.

namespace UploadRelay.Compression

inductive Stop where
  | cutShort
  | bad (reason : Text)
  | needsDictionary
deriving DecidableEq

structure Bits where
  bytes : Array UInt8
  place : Nat

namespace Bits

def size (b : Bits) : Nat := 8 * b.bytes.size

def bit (b : Bits) (i : Nat) : Nat := (b.bytes.getD (i / 8) 0).toNat / 2 ^ (i % 8) % 2

def value (b : Bits) (start : Nat) : (count : Nat) → Nat
  | 0 => 0
  | count + 1 => b.bit start + 2 * value b (start + 1) count

def take (count : Nat) (b : Bits) : Except Stop (Nat × Bits) :=
  if b.size < b.place + count then .error .cutShort
  else .ok (b.value b.place count, { b with place := b.place + count })

def toByte (b : Bits) : Bits := { b with place := 8 * ((b.place + 7) / 8) }

end Bits

-- Codes by the length of each symbol's code. A code of a single symbol leaves half of the
-- codes open, and one without symbols all of them.
inductive Code where
  | full (counts symbols : Array Nat)
  | single (symbol : Nat)
  | none

namespace Code

def longest : Nat := 15

def counts (lengths : List Nat) : Array Nat :=
  lengths.foldl (fun c l => c.set! l (c.getD l 0 + 1)) (Array.replicate (longest + 1) 0)

def symbols (lengths : List Nat) : Array Nat :=
  ((List.range longest).flatMap fun l =>
    (lengths.zipIdx.filter fun e => e.1 == l + 1).map fun e => e.2).toArray

def leftOver? (counts : Array Nat) : Option Nat :=
  (List.range longest).foldlM (fun left l =>
    let taken := counts.getD (l + 1) 0
    if 2 * left < taken then Option.none else some (2 * left - taken)) 1

def ofLengths? (mayBeOpen : Bool) (lengths : List Nat) : Option Code :=
  let counts := counts lengths
  let symbols := symbols lengths
  if symbols.isEmpty then some .none
  else
    match leftOver? counts with
    | Option.none => Option.none
    | some 0 => some (.full counts symbols)
    | some _ =>
      if mayBeOpen && counts.getD 1 0 == symbols.size then some (.single (symbols.getD 0 0)) else Option.none

def walk (counts symbols : Array Nat) : (remaining : Nat) → (length code first index : Nat) → Bits →
    Except Stop (Option Nat × Bits)
  | 0, _, _, _, _, b => .ok (Option.none, b)
  | remaining + 1, length, code, first, index, b => do
    let (bit, b) ← b.take 1
    let code := code + bit
    let count := counts.getD length 0
    if code < first + count then .ok (symbols[index + (code - first)]?, b)
    else walk counts symbols remaining (length + 1) (2 * code) (2 * (first + count)) (index + count) b

def next (c : Code) (b : Bits) : Except Stop (Option Nat × Bits) :=
  match c with
  | .full counts symbols => walk counts symbols longest 1 0 0 0 b
  | .single symbol => do
    let (bit, b) ← b.take 1
    return (if bit = 0 then some symbol else Option.none, b)
  | .none => do
    let (_, b) ← b.take 1
    return (Option.none, b)

end Code

structure Codes where
  literals : Code
  distances : Code

def fixedLengths : List Nat :=
  List.replicate 144 8 ++ List.replicate 112 9 ++ List.replicate 24 7 ++ List.replicate 8 8

def fixedCodes : Codes :=
  ⟨(Code.ofLengths? false fixedLengths).getD .none, (Code.ofLengths? false (List.replicate 32 5)).getD .none⟩

def lengthOrder : List Nat := [16, 17, 18, 0, 8, 7, 9, 6, 10, 5, 11, 4, 12, 3, 13, 2, 14, 1, 15]

def takeMany (width : Nat) : (count : Nat) → Bits → Except Stop (List Nat × Bits)
  | 0, b => .ok ([], b)
  | count + 1, b => do
    let (n, b) ← b.take width
    let (rest, b) ← takeMany width count b
    return (n :: rest, b)

def badRepeat : Stop := .bad "invalid bit length repeat"

def readLengths (code : Code) (wanted : Nat) : (fuel : Nat) → List Nat → Bits → Except Stop (List Nat × Bits)
  | 0, done, b => .ok (done, b)
  | fuel + 1, done, b => do
    if wanted ≤ done.length then return (done, b)
    let (symbol, b) ← code.next b
    let symbol := symbol.getD 0
    if symbol < 16 then readLengths code wanted fuel (symbol :: done) b
    else
      let (width, least) := if symbol = 16 then (2, 3) else if symbol = 17 then (3, 3) else (7, 11)
      let (more, b) ← b.take width
      if symbol = 16 && done.isEmpty then throw badRepeat
      if wanted < done.length + least + more then throw badRepeat
      let length := if symbol = 16 then done.headD 0 else 0
      readLengths code wanted fuel (List.replicate (least + more) length ++ done) b

def openCode (lengths : List Nat) (reason : Text) : Except Stop Code :=
  match Code.ofLengths? true lengths with
  | some code => .ok code
  | none => .error (.bad reason)

def ownCodes (b : Bits) : Except Stop (Codes × Bits) := do
  let (literals, b) ← b.take 5
  let (distances, b) ← b.take 5
  let (lengths, b) ← b.take 4
  let literals := literals + 257
  let distances := distances + 1
  if 286 < literals || 30 < distances then throw (.bad "too many length or distance symbols")
  let (written, b) ← takeMany 3 (lengths + 4) b
  let table := (lengthOrder.zip written).foldl (fun t e => t.set! e.1 e.2) (Array.replicate 19 0)
  match Code.ofLengths? false table.toList with
  | none => throw (.bad "invalid code lengths set")
  | some code =>
    let (done, b) ← readLengths code (literals + distances) (literals + distances) [] b
    let all := done.reverse
    if all.getD 256 0 = 0 then throw (.bad "invalid code -- missing end-of-block")
    let literalCode ← openCode (all.take literals) "invalid literal/lengths set"
    let distanceCode ← openCode (all.drop literals) "invalid distances set"
    return (⟨literalCode, distanceCode⟩, b)

def lengthBase : Array (Nat × Nat) :=
  #[(3, 0), (4, 0), (5, 0), (6, 0), (7, 0), (8, 0), (9, 0), (10, 0), (11, 1), (13, 1), (15, 1), (17, 1),
    (19, 2), (23, 2), (27, 2), (31, 2), (35, 3), (43, 3), (51, 3), (59, 3), (67, 4), (83, 4), (99, 4), (115, 4),
    (131, 5), (163, 5), (195, 5), (227, 5), (258, 0)]

def distanceBase : Array (Nat × Nat) :=
  #[(1, 0), (2, 0), (3, 0), (4, 0), (5, 1), (7, 1), (9, 2), (13, 2), (17, 3), (25, 3), (33, 4), (49, 4), (65, 5),
    (97, 5), (129, 6), (193, 6), (257, 7), (385, 7), (513, 8), (769, 8), (1025, 9), (1537, 9), (2049, 10),
    (3073, 10), (4097, 11), (6145, 11), (8193, 12), (12289, 12), (16385, 13), (24577, 13)]

structure Progress where
  output : Array UInt8
  bits : Bits
  stop : Option Stop

def Progress.ends (p : Progress) (stop : Stop) : Progress := { p with stop := some stop }

-- Copies from what was read, byte by byte, so that a copy may run into itself.
def copyBack (distance : Nat) : (count : Nat) → Array UInt8 → Array UInt8
  | 0, out => out
  | count + 1, out => copyBack distance count (out.push (out.getD (out.size - distance) 0))

def extended (base : Array (Nat × Nat)) (symbol : Nat) (reason : Text) (b : Bits) : Except Stop (Nat × Bits) :=
  match base[symbol]? with
  | none => .error (.bad reason)
  | some (least, width) => do
    let (more, b) ← b.take width
    return (least + more, b)

def badDistance : Text := "invalid distance code"

def repetition (codes : Codes) (symbol : Nat) (b : Bits) : Except Stop (Nat × Nat × Bits) := do
  let (length, b) ← extended lengthBase (symbol - 257) "invalid literal/length code" b
  let (found, b) ← codes.distances.next b
  let (distance, b) ← match found with
    | none => throw (.bad badDistance)
    | some s => extended distanceBase s badDistance b
  return (length, distance, b)

def coded (codes : Codes) : (fuel : Nat) → Progress → Progress
  | 0, p => p.ends .cutShort
  | fuel + 1, p =>
    match codes.literals.next p.bits with
    | .error stop => p.ends stop
    | .ok (none, _) => p.ends (.bad "invalid literal/length code")
    | .ok (some symbol, b) =>
      if symbol < 256 then coded codes fuel { p with output := p.output.push (UInt8.ofNat symbol), bits := b }
      else if symbol = 256 then { p with bits := b }
      else
        match repetition codes symbol b with
        | .error stop => p.ends stop
        | .ok (length, distance, b) =>
          if p.output.size < distance then p.ends (.bad "invalid distance too far back")
          else coded codes fuel { p with output := copyBack distance length p.output, bits := b }

def stored (p : Progress) : Progress :=
  match (do
    let (length, b) ← p.bits.toByte.take 16
    let (check, b) ← b.take 16
    if length + check = 65535 then return (length, b) else throw (.bad "invalid stored block lengths") :
    Except Stop (Nat × Bits)) with
  | .error stop => p.ends stop
  | .ok (length, b) =>
    let start := b.place / 8
    let bytes := b.bytes.extract start (start + length)
    let after : Progress := ⟨p.output ++ bytes, { b with place := b.place + 8 * bytes.size }, none⟩
    if bytes.size < length then after.ends .cutShort else after

def block (kind : Nat) (p : Progress) : Progress :=
  if kind = 0 then stored p
  else if kind = 1 then coded fixedCodes p.bits.size p
  else if kind = 2 then
    match ownCodes p.bits with
    | .error stop => p.ends stop
    | .ok (codes, b) => coded codes p.bits.size { p with bits := b }
  else p.ends (.bad "invalid block type")

def blocks : (fuel : Nat) → Progress → Progress
  | 0, p => p.ends .cutShort
  | fuel + 1, p =>
    match p.bits.take 1 with
    | .error stop => p.ends stop
    | .ok (last, b) =>
      match b.take 2 with
      | .error stop => p.ends stop
      | .ok (kind, b) =>
        let after := block kind { p with bits := b }
        if after.stop.isSome || last = 1 then after else blocks fuel after

def inflateFrom (b : Bits) : Progress := blocks (b.size + 1) ⟨#[], b, none⟩

end UploadRelay.Compression
