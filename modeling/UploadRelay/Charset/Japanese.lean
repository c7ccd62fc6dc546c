import UploadRelay.Charset.Kanji
import UploadRelay.Text.CodePoint
-- Reading bytes code by code, and with it the Japanese character sets of one to three bytes.

namespace UploadRelay.Charset

abbrev OneCode := UInt8 → List UInt8 → Option (Text × List UInt8)

def readCodes (one : OneCode) : (fuel : Nat) → (done : Text) → List UInt8 → Option Text
  | _, done, [] => some done.reverse
  | 0, _, _ :: _ => none
  | fuel + 1, done, b :: rest =>
    match one b rest with
    | none => none
    | some (t, rest) => readCodes one fuel (t.reverse ++ done) rest

-- Every code takes a byte, so there are no more codes than bytes.
def readAll (one : OneCode) (bytes : List UInt8) : Option Text := readCodes one bytes.length [] bytes

def isAsciiByte (b : UInt8) : Bool := decide (b.toNat < 0x80)

def alone (b : UInt8) (rest : List UInt8) : Option (Text × List UInt8) := some ([CodePoint.ofByte b], rest)

def single (n : Nat) (rest : List UInt8) : Option (Text × List UInt8) := some ([CodePoint.ofNat n], rest)

def double (meaning : Nat → Nat → Option Text) (a : UInt8) : List UInt8 → Option (Text × List UInt8)
  | b :: rest => (meaning a.toNat b.toNat).map fun t => (t, rest)
  | [] => none

def one (c : Option CodePoint) : Option Text := c.map fun c => [c]

def withAscii (other : OneCode) : OneCode := fun b rest => if isAsciiByte b then alone b rest else other b rest

def kanji? (row column : Nat) : Option CodePoint := Grid.first? [Grid.kanjiSymbols, Grid.kanji] row column

def supplement? (row column : Nat) : Option CodePoint :=
  Grid.first? [Grid.supplementSymbols, Grid.supplementKanji] row column

def vendorKanji? (row column : Nat) : Option CodePoint :=
  (Run.character? Grid.vendorChanges row column).or
    (Grid.first? [Grid.kanjiSymbols, Grid.kanji, Grid.vendorSymbols, Grid.vendorKanji, Grid.vendorKanjiAgain] row column)

inductive Edition where
  | earlier
  | later
deriving DecidableEq

def extension? (edition : Edition) (row column : Nat) : Option Text :=
  if edition = .earlier ∧ (row, column) ∈ Grid.extensionLater then none
  else
    match Grid.first? [Grid.kanjiSymbols, Grid.kanji, Grid.extensionSymbols, Grid.extensionKanji, Grid.extensionThird] row column with
    | some c => some [c]
    | none => Run.pair? Grid.extensionPairs row column

def secondPlane? (edition : Edition) (row column : Nat) : Option CodePoint :=
  let changed := match edition with
    | .earlier => Run.character? Grid.extensionEarlier row column
    | .later => none
  changed.or (Grid.first? [Grid.secondPlane, Grid.secondPlaneEnd] row column)

def isNarrow (b : Nat) : Bool := decide (0xA1 ≤ b) && decide (b ≤ 0xDF)

def narrow (b : Nat) : Nat := 0xFF61 + b - 0xA1

def folded? (a b : Nat) : Option (Nat × Nat) :=
  let isLead := (0x81 ≤ a && a ≤ 0x9F) || (0xE0 ≤ a && a ≤ 0xFC)
  if isLead && 0x40 ≤ b && b ≤ 0xFC && b != 0x7F then
    let place := b - 0x40 - (if 0x7F < b then 1 else 0)
    some (0x21 + 2 * (if a < 0xA0 then a - 0x81 else a - 0xC1) + place / 94, 0x21 + place % 94)
  else none

def foldedMeaning (meaning : Nat → Nat → Option Text) (a b : Nat) : Option Text :=
  (folded? a b).bind fun place => meaning place.1 place.2

def shiftedKanji : OneCode := withAscii fun b rest =>
  if isNarrow b.toNat then single (narrow b.toNat) rest
  else double (foldedMeaning fun row column => one (kanji? row column)) b rest

def ownKanji? (row column : Nat) : Option CodePoint :=
  if 0x7F ≤ row ∧ row ≤ 0x92 then some (CodePoint.ofNat (0xE000 + (row - 0x7F) * 94 + (column - 0x21))) else none

def vendorShifted : OneCode := withAscii fun b rest =>
  let n := b.toNat
  if n = 0x80 then single n rest
  else if n = 0xA0 then single 0xF8F0 rest
  else if 0xFD ≤ n then single (0xF8F1 + (n - 0xFD)) rest
  else if isNarrow n then single (narrow n) rest
  else double (foldedMeaning fun row column => one ((vendorKanji? row column).or (ownKanji? row column))) b rest

def secondRow (row : Nat) : Nat :=
  if 0x88 ≤ row then row - 0x1A
  else if 0x84 ≤ row ∨ row = 0x80 then row - 0x58
  else row - 0x5E

def narrowTilde (edition : Edition) (row column : Nat) : Option Text :=
  if row = 0x22 ∧ column = 0x32 then some "~" else extension? edition row column

def extendedMeaning (edition : Edition) (row column : Nat) : Option Text :=
  if row = 0x21 ∧ column = 0x40 then some "\\"
  else if row < 0x7F then narrowTilde edition row column
  else one (secondPlane? edition (secondRow row) column)

def extendedShifted (edition : Edition) : OneCode := fun b rest =>
  let n := b.toNat
  if n = 0x5C then single 0xA5 rest
  else if n = 0x7E then single 0x203E rest
  else if n < 0x80 then alone b rest
  else if isNarrow n then single (narrow n) rest
  else double (foldedMeaning (extendedMeaning edition)) b rest

def highPair (meaning : Nat → Nat → Option Text) (a b : Nat) : Option Text :=
  if 0xA1 ≤ a ∧ 0xA1 ≤ b then meaning (a - 0x80) (b - 0x80) else none

def highTriple (meaning : Nat → Nat → Option Text) : List UInt8 → Option (Text × List UInt8)
  | a :: b :: rest => (highPair meaning a.toNat b.toNat).map fun t => (t, rest)
  | _ => none

def highKanji (first second : Nat → Nat → Option Text) : OneCode := withAscii fun b rest =>
  if b = 0x8E then
    match rest with
    | c :: rest => if isNarrow c.toNat then single (narrow c.toNat) rest else none
    | [] => none
  else if b = 0x8F then highTriple second rest
  else double (highPair first) b rest

def commonHigh : OneCode :=
  highKanji (fun row column => one (kanji? row column)) fun row column => one (supplement? row column)

def extendedHigh (edition : Edition) : OneCode :=
  highKanji (extension? edition) fun row column => one ((secondPlane? edition row column).or (supplement? row column))

end UploadRelay.Charset
