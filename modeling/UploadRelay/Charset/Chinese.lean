import UploadRelay.Charset.Hanzi
import UploadRelay.Charset.HanziTraditional
import UploadRelay.Charset.Japanese
-- Chinese character sets of one, two and four bytes.

namespace UploadRelay.Charset

def hanzi? (row column : Nat) : Option CodePoint := Grid.first? [Grid.hanziSymbols, Grid.hanzi] row column

def commonHanzi : OneCode := withAscii (double (highPair fun row column => one (hanzi? row column)))

def extendedHanzi? (a b : Nat) : Option CodePoint :=
  let common := if 0xA1 ≤ a ∧ 0xA1 ≤ b then hanzi? (a - 0x80) (b - 0x80) else none
  (Run.character? Grid.hanziChanges a b).or (common.or (Grid.first? [Grid.hanziBefore, Grid.hanziBeside] a b))

def extendedHanzi : OneCode := withAscii (double fun a b => one (extendedHanzi? a b))

def ownHanzi? (a b : Nat) : Option CodePoint :=
  if 0xA1 ≤ b ∧ b ≤ 0xFE ∧ 0xAA ≤ a ∧ a ≤ 0xAF then some (CodePoint.ofNat (0xE000 + (a - 0xAA) * 94 + (b - 0xA1)))
  else if 0xA1 ≤ b ∧ b ≤ 0xFE ∧ 0xF8 ≤ a ∧ a ≤ 0xFE then some (CodePoint.ofNat (0xE234 + (a - 0xF8) * 94 + (b - 0xA1)))
  else if 0x40 ≤ b ∧ b ≤ 0xA0 ∧ b ≠ 0x7F ∧ 0xA1 ≤ a ∧ a ≤ 0xA7 then
    some (CodePoint.ofNat (0xE4C6 + (a - 0xA1) * 96 + (b - 0x40) - (if 0x7F < b then 1 else 0)))
  else none

def completeHanzi? (a b : Nat) : Option CodePoint :=
  (extendedHanzi? a b).or ((Run.character? Grid.hanziCompletion a b).or (ownHanzi? a b))

def isDecimalByte (b : Nat) : Bool := decide (0x30 ≤ b) && decide (b ≤ 0x39)

def longPlace (a b c d : Nat) : Nat := (((a - 0x81) * 10 + (b - 0x30)) * 126 + (c - 0x81)) * 10 + (d - 0x30)

def inRuns (found : Nat) : List (Nat × Nat) → Nat → Nat
  | [], _ => found
  | run :: rest, place => if run.1 ≤ place then inRuns (run.2 + (place - run.1)) rest place else found

def longRunsEnd : Nat := 39420
def farPlanes : Nat := 189000

def long? (a b c d : Nat) : Option CodePoint :=
  if 0x81 ≤ a ∧ a ≤ 0xFE ∧ 0x81 ≤ c ∧ c ≤ 0xFE ∧ isDecimalByte d then
    let place := longPlace a b c d
    if place < longRunsEnd then some (CodePoint.ofNat (inRuns 0 Grid.longRuns place))
    else if farPlanes ≤ place then
      (if h : 0x10000 + (place - farPlanes) < 0x110000 then some ⟨_, h⟩ else none)
    else none
  else none

def completeHanzi : OneCode := withAscii fun a rest =>
  match rest with
  | [] => none
  | b :: rest =>
    if isDecimalByte b.toNat then
      match rest with
      | c :: d :: rest => (long? a.toNat b.toNat c.toNat d.toNat).map fun u => ([u], rest)
      | _ => none
    else (completeHanzi? a.toNat b.toNat).map fun u => ([u], rest)

def traditional? (a b : Nat) : Option CodePoint := Grid.first? [Grid.traditionalLeft, Grid.traditionalRight] a b

def traditional : OneCode := withAscii (double fun a b => one (traditional? a b))

def vendorTraditional : OneCode :=
  withAscii (double fun a b => one ((Run.character? Grid.traditionalChanges a b).or (traditional? a b)))

def isHongKongArea (a b : Nat) : Bool := (a == 0xC6 && 0xA1 ≤ b) || a == 0xC7 || a == 0xC8

def hongKong? (a b : Nat) : Option Text :=
  let own := Grid.first? [Grid.hongKongFirstLeft, Grid.hongKongFirstRight, Grid.hongKongMiddleLeft,
    Grid.hongKongMiddleRight, Grid.hongKongLastLeft, Grid.hongKongLastRight] a b
  match if isHongKongArea a b then own else own.or (traditional? a b) with
  | some c => some [c]
  | none => Run.pair? Grid.hongKongPairs a b

def hongKong : OneCode := withAscii (double hongKong?)

end UploadRelay.Charset
