import UploadRelay.Charset.Chinese
import UploadRelay.Charset.Korean
-- Character sets of seven bits that switch between grids. An escape sequence puts a grid at
-- one of three places, and a shift chooses between the first two.

namespace UploadRelay.Charset

inductive Designated where
  | ascii
  | roman
  | narrow
  | latin
  | greek
  | kanji
  | supplement
  | hanzi
  | hangul
  | extension (edition : Edition)
  | secondPlane
deriving DecidableEq

structure Mark where
  isDouble : Bool
  final : UInt8
deriving DecidableEq

structure Switching where
  designations : List (Mark × Designated)
  hasShifts : Bool := false
  hasThird : Bool := false
  -- A revision may be announced in front of the common Japanese grid.
  hasRevision : Bool := true

namespace Switching

def single (c : Char) (d : Designated) : Mark × Designated := (⟨false, UInt8.ofNat c.toNat⟩, d)
def double (c : Char) (d : Designated) : Mark × Designated := (⟨true, UInt8.ofNat c.toNat⟩, d)

def japanese : Switching := ⟨[double 'B' .kanji, single 'J' .roman, double '@' .kanji], false, false, true⟩

def japanese1 : Switching :=
  { japanese with designations := japanese.designations ++ [double 'D' .supplement] }

def japanese2 : Switching :=
  { japanese1 with
    designations := japanese1.designations ++
      [double 'C' .hangul, double 'A' .hanzi, single 'A' .latin, single 'F' .greek]
    hasThird := true }

def japaneseExtended : Switching :=
  { japanese1 with designations := japanese1.designations ++ [single 'I' .narrow] }

def japanese3 : Switching :=
  ⟨[double 'B' .kanji, double 'O' (.extension .earlier), double 'P' .secondPlane], false, false, true⟩

def japanese2004 : Switching :=
  ⟨[double 'B' .kanji, double 'Q' (.extension .later), double 'P' .secondPlane], false, false, true⟩

def korean : Switching := ⟨[double 'C' .hangul], true, false, false⟩

def designated? (s : Switching) (m : Mark) : Option Designated :=
  if m = ⟨false, 0x42⟩ then some .ascii else (s.designations.find? fun d => d.1 == m).map (·.2)

-- What is at the three places, whether the second one is chosen, and whether bytes pass
-- unread up to the end of a foreign escape sequence.
structure State where
  first : Designated
  second : Designated
  third : Designated
  isShifted : Bool
  isPassing : Bool

def State.initial : State := ⟨.ascii, .ascii, .ascii, false, false⟩

def State.chosen (state : State) : Designated := if state.isShifted then state.second else state.first

def State.put (state : State) (place : Nat) (d : Designated) : State :=
  match place with
  | 0 => { state with first := d }
  | 1 => { state with second := d }
  | _ => { state with third := d }

def isFinal (b : UInt8) : Bool := decide (0x40 ≤ b.toNat) && decide (b.toNat ≤ 0x5A)

def isIntroducer (b : UInt8) : Bool := b == 0x28 || b == 0x29 || b == 0x24 || b == 0x2E || b == 0x26

def escapeLength? (hasRevision : Bool) : (left length : Nat) → List UInt8 → Option Nat
  | 0, _, _ => none
  | _, _, [] => none
  | left + 1, length, b :: rest =>
    if isFinal b then some (length + 1)
    else if hasRevision && b == 0x26 && rest.head? == some 0x40 then
      match left with
      | left + 2 => escapeLength? hasRevision left (length + 3) (rest.drop 2)
      | _ => none
    else escapeLength? hasRevision left (length + 1) rest

def designation? (s : Switching) (sequence : List UInt8) : Option (Nat × Designated) :=
  match sequence with
  | [0x24, f] => (s.designated? ⟨true, f⟩).map ((0, ·))
  | [0x28, f] => (s.designated? ⟨false, f⟩).map ((0, ·))
  | [0x29, f] => (s.designated? ⟨false, f⟩).map ((1, ·))
  | [0x2E, f] => if s.hasThird then (s.designated? ⟨false, f⟩).map ((2, ·)) else none
  | [0x24, 0x28, f] => (s.designated? ⟨true, f⟩).map ((0, ·))
  | [0x24, 0x29, f] => (s.designated? ⟨true, f⟩).map ((1, ·))
  | [_, _, 0x1B, 0x24, 0x42] => if s.hasRevision then (s.designated? ⟨true, 0x42⟩).map ((0, ·)) else none
  | _ => none

def latinGreek : List String :=
  ["‘’£..¦§¨©.«¬\xad.―°±²³΄΅Ά·ΈΉΊ»Ό½ΎΏ", "ΐΑΒΓΔΕΖΗΘΙΚΛΜΝΞΟΠΡ.ΣΤΥΦΧΨΩΪΫάέήί",
   "ΰαβγδεζηθικλμνξοπρςστυφχψωϊϋόύώ."]

def third? (d : Designated) (b : Nat) : Option CodePoint :=
  match d with
  | .ascii => if b < 0x80 then some (CodePoint.ofNat b) else none
  | .latin => if b < 0x80 then some (CodePoint.ofNat (b + 0x80)) else none
  | .greek =>
    if b < 0x21 then some (CodePoint.ofNat (b + 0x80))
    else if b < 0x80 then ((latinGreek.flatMap Text.ofString)[b - 0x21]?).filter fun c => c.val != 46
    else some (CodePoint.ofNat (b - 0x80))
  | _ => none

def character? (d : Designated) (b : UInt8) (rest : List UInt8) : Option (Text × List UInt8) :=
  let two (meaning : Nat → Nat → Option Text) := Charset.double meaning b rest
  match d with
  | .ascii => alone b rest
  | .roman => if b = 0x5C then some ([CodePoint.ofNat 0xA5], rest)
    else if b = 0x7E then some ([CodePoint.ofNat 0x203E], rest) else alone b rest
  | .narrow => if 0x21 ≤ b.toNat ∧ b.toNat ≤ 0x5F then some ([CodePoint.ofNat (0xFF40 + b.toNat)], rest) else none
  | .latin => none
  | .greek => none
  | .kanji => two fun row column => one (kanji? row column)
  | .supplement => two fun row column => one (supplement? row column)
  | .hanzi => two fun row column => one (hanzi? row column)
  | .hangul => two fun row column => one (hangul? row column)
  | .extension edition => two (narrowTilde edition)
  | .secondPlane => two fun row column => one (secondPlane? .later row column)

def step? (s : Switching) (state : State) (b : UInt8) (rest : List UInt8) : Option (State × Text × List UInt8) :=
  let asIs (state : State) : Option (State × Text × List UInt8) := some (state, [CodePoint.ofByte b], rest)
  if state.isPassing then asIs { state with isPassing := !isFinal b }
  else if b = 0x1B then
    match rest with
    | [] => none
    | i :: behind =>
      if isIntroducer i then
        match escapeLength? s.hasRevision 15 1 rest with
        | none => none
        | some length =>
          (s.designation? (rest.take (length - 1))).map fun d => (state.put d.1 d.2, [], rest.drop (length - 1))
      else if s.hasThird && i == 0x4E then
        match behind with
        | [] => none
        | c :: behind => (third? state.third c.toNat).map fun u => (state, [u], behind)
      else asIs { state with isPassing := true }
  else if b = 0x0F ∧ s.hasShifts then some ({ state with isShifted := false }, [], rest)
  else if b = 0x0E ∧ s.hasShifts then some ({ state with isShifted := true }, [], rest)
  else if b = 0x0A then asIs { state with isShifted := false }
  else if b.toNat < 0x20 then asIs state
  else if 0x80 ≤ b.toNat then none
  else (character? state.chosen b rest).map fun r => (state, r.1, r.2)

def loop (s : Switching) : (fuel : Nat) → State → (done : Text) → List UInt8 → Option Text
  | _, _, done, [] => some done.reverse
  | 0, _, _, _ :: _ => none
  | fuel + 1, state, done, b :: rest =>
    match s.step? state b rest with
    | none => none
    | some (state, t, rest) => loop s fuel state (t.reverse ++ done) rest

def decode? (s : Switching) (bytes : List UInt8) : Option Text := loop s bytes.length .initial [] bytes

end Switching

-- Simplified Chinese between tildes with braces. In front of a line end a tilde hides both;
-- two tildes are one.
def tildeLoop : (fuel : Nat) → (inGrid : Bool) → (done : Text) → List UInt8 → Option Text
  | _, _, done, [] => some done.reverse
  | 0, _, _, _ :: _ => none
  | fuel + 1, inGrid, done, b :: rest =>
    if b = 0x7E then
      match inGrid, rest with
      | false, 0x7E :: rest => tildeLoop fuel false (CodePoint.ofChar '~' :: done) rest
      | false, 0x7B :: rest => tildeLoop fuel true done rest
      | false, 0x0A :: rest => tildeLoop fuel false done rest
      | true, 0x7D :: rest => tildeLoop fuel false done rest
      | _, _ => none
    else if 0x80 ≤ b.toNat then none
    else if inGrid then
      match rest with
      | [] => none
      | c :: rest =>
        match hanzi? b.toNat c.toNat with
        | none => none
        | some u => tildeLoop fuel true (u :: done) rest
    else tildeLoop fuel false (CodePoint.ofByte b :: done) rest

def tildeHanzi? (bytes : List UInt8) : Option Text := tildeLoop bytes.length false [] bytes

end UploadRelay.Charset
