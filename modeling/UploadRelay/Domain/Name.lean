import UploadRelay.Domain.Letters
import UploadRelay.Text.Composition
import UploadRelay.Text.Direction
import UploadRelay.Text.Punycode
import UploadRelay.Text.Quoted
-- Host names beyond ASCII: labels between dots, what a label may hold, and its ASCII form.

namespace UploadRelay.Domain

inductive LabelFault where
  | tooLong
  | empty
  | notComposed
  | hyphens
  | outerHyphen
  | startsWithMark
  | joiner (c : CodePoint) (position : Nat) (label : Text)
  | conditional (c : CodePoint) (position : Nat) (label : Text)
  | notPermitted (c : CodePoint) (position : Nat) (label : Text)
  | unknownDirection (label : Text) (position : Nat)
  | badStart (label : Text)
  | badDirection (position : Nat) (fromRight : Bool)
  | mixedNumbers
  | badEnd
  | noContent
  | endsWithHyphen
  | unreadable
deriving DecidableEq

namespace LabelFault

def kind : LabelFault → Text
  | .conditional .. => "InvalidCodepointContext"
  | .notPermitted .. => "InvalidCodepoint"
  | .unknownDirection .. => "IDNABidiError"
  | .badStart _ => "IDNABidiError"
  | .badDirection .. => "IDNABidiError"
  | .mixedNumbers => "IDNABidiError"
  | .badEnd => "IDNABidiError"
  | _ => "IDNAError"

def codeText (c : CodePoint) : Text :=
  let digits := Text.upper ((Nat.toDigits 16 c.val).map CodePoint.ofChar)
  "U+" ++ List.replicate (4 - digits.length) (CodePoint.ofChar '0') ++ digits

def place (position : Nat) (label : Text) : Text :=
  " at position " ++ Text.ofNat position ++ " in " ++ Text.quoted label

def message : LabelFault → Text
  | .tooLong => "Label too long"
  | .empty => "Empty Label"
  | .notComposed => "Label must be in Normalization Form C"
  | .hyphens => "Label has disallowed hyphens in 3rd and 4th position"
  | .outerHyphen => "Label must not start or end with a hyphen"
  | .startsWithMark => "Label begins with an illegal combining character"
  | .joiner c position label => "Unknown codepoint adjacent to joiner " ++ codeText c ++ place position label
  | .conditional c position label => "Codepoint " ++ codeText c ++ " not allowed" ++ place position label
  | .notPermitted c position label =>
    "Codepoint " ++ codeText c ++ " at position " ++ Text.ofNat position ++ " of " ++ Text.quoted label ++
      " not allowed"
  | .unknownDirection label position =>
    "Unknown directionality in label " ++ Text.quoted label ++ " at position " ++ Text.ofNat position
  | .badStart label => "First codepoint in label " ++ Text.quoted label ++ " must be directionality L, R or AL"
  | .badDirection position fromRight =>
    "Invalid direction for codepoint at position " ++ Text.ofNat position ++ " in a " ++
      (if fromRight then ("right-to-left" : Text) else ("left-to-right" : Text)) ++ " label"
  | .mixedNumbers => "Can not mix numeral types in a right-to-left label"
  | .badEnd => "Label ends with illegal codepoint directionality"
  | .noContent => "Malformed A-label, no Punycode eligible content found"
  | .endsWithHyphen => "A-label must not end with a hyphen"
  | .unreadable => "Invalid A-label"

end LabelFault

structure Neighbours where
  before : Text
  behind : Text

def viramaClass : Nat := 9

def followsVirama (n : Neighbours) : Bool := n.before.head?.any fun c => c.combiningClass == viramaClass

def joins (runs : List Nat) (t : Text) : Bool :=
  match t.dropWhile (isIn transparentRuns) with
  | c :: _ => isIn runs c
  | [] => false

def joinerAllowed (c : CodePoint) (n : Neighbours) : Bool :=
  followsVirama n || (c.val == 0x200C && joins joiningAfterRuns n.before && joins joiningBeforeRuns n.behind)

def isArabicDigit (c : CodePoint) : Bool := decide (0x660 ≤ c.val ∧ c.val ≤ 0x669)
def isPersianDigit (c : CodePoint) : Bool := decide (0x6F0 ≤ c.val ∧ c.val ≤ 0x6F9)

def conditionHolds (c : CodePoint) (n : Neighbours) (label : Text) : Bool :=
  if c.val = 0xB7 then
    n.before.head?.any (fun d => d.val == 108) && n.behind.head?.any (fun d => d.val == 108)
  else if c.val = 0x375 then n.behind.head?.any (isIn greekRuns)
  else if c.val = 0x5F3 ∨ c.val = 0x5F4 then n.before.head?.any (isIn hebrewRuns)
  else if c.val = 0x30FB then label.any fun d => d.val != 0x30FB && isIn japaneseRuns d
  else if isArabicDigit c then !label.any isPersianDigit
  else !label.any isArabicDigit

def letterFault? (label : Text) (n : Neighbours) (c : CodePoint) : Option LabelFault :=
  let position := n.before.length + 1
  if isPermitted c then none
  else if isJoiner c then
    if joinerAllowed c n then none else some (.joiner c position label)
  else if isConditional c then
    if conditionHolds c n label then none else some (.conditional c position label)
  else some (.notPermitted c position label)

def lettersFault? (label before : Text) : Text → Option LabelFault
  | [] => none
  | c :: rest =>
    match letterFault? label ⟨before, rest⟩ c with
    | some fault => some fault
    | none => lettersFault? label (c :: before) rest

structure Walk where
  position : Nat
  number : Option Direction
  endsWell : Bool

def Walk.sees (w : Walk) (endsWell : Bool) (d : Direction) : Walk :=
  { w with position := w.position + 1, endsWell := if d = .mark then w.endsWell else endsWell }

def isNumber (d : Direction) : Bool := d == .arabicNumber || d == .number

def stepFromRight (w : Walk) (d : Direction) : Except LabelFault Walk :=
  if d = .leftRight then .error (.badDirection w.position true)
  else if isNumber d && w.number.any fun other => other != d then .error .mixedNumbers
  else
    let w := if isNumber d then { w with number := some d } else w
    .ok (w.sees (d.isFromRight || d == .number) d)

def stepFromLeft (w : Walk) (d : Direction) : Except LabelFault Walk :=
  if d.isFromRight then .error (.badDirection w.position false)
  else .ok (w.sees (d == .leftRight || d == .number) d)

def checkDirections (label : Text) : Except LabelFault Unit := do
  let directions := label.map Direction.of
  match directions.findIdx? fun d => d == .unknown with
  | some i => throw (.unknownDirection label (i + 1))
  | none =>
    if !directions.any Direction.isFromRight then return ()
    else
      let fromRight := directions.head? == some .rightLeft || directions.head? == some .arabic
      if !fromRight && directions.head? != some .leftRight then throw (.badStart label)
      let w ← directions.foldlM (if fromRight then stepFromRight else stepFromLeft) ⟨1, none, false⟩
      if !w.endsWell then throw .badEnd

def longestLabel : Nat := 63
def longestName : Nat := 254

def isHyphen (c : CodePoint) : Bool := c.val == 45

def checkLabel (label : Text) : Except LabelFault Unit := do
  if label.isEmpty then throw .empty
  if longestName < label.length then throw .tooLong
  if !Text.isComposed label then throw .notComposed
  if (label.drop 2).take 2 = ("--" : Text) then throw .hyphens
  if label.head?.any isHyphen || label.getLast?.any isHyphen then throw .outerHyphen
  if label.head?.any (isIn markRuns) then throw .startsWithMark
  match lettersFault? label [] label with
  | some fault => throw fault
  | none => checkDirections label

def asciiMark : Text := "xn--"

def ofAscii (label : Text) : Except LabelFault Text :=
  match Text.dropStart? asciiMark (Text.lower label) with
  | none => do
    checkLabel (Text.lower label)
    return Text.lower label
  | some [] => .error .noContent
  | some body =>
    if body.getLast?.any isHyphen then .error .endsWithHyphen
    else
      match Punycode.decode? body with
      | none => .error .unreadable
      | some letters => do
        checkLabel letters
        return letters

def toAscii (label : Text) : Except LabelFault Text := do
  let written ← if Text.isAscii label then do
      let _ ← ofAscii label
      pure label
    else do
      checkLabel label
      pure (asciiMark ++ Punycode.encode label)
  if longestLabel < written.length then throw .tooLong
  return written

inductive NameFault where
  | tooLong
  | empty
  | label (fault : LabelFault)
deriving DecidableEq

def NameFault.kind : NameFault → Text
  | .label fault => fault.kind
  | _ => "IDNAError"

def NameFault.message : NameFault → Text
  | .tooLong => "Domain too long"
  | .empty => "Empty domain"
  | .label fault => fault.message

def isDot (c : CodePoint) : Bool := [0x2E, 0x3002, 0xFF0E, 0xFF61].contains c.val

def labelsFrom (current : Text) : Text → List Text
  | [] => [current.reverse]
  | c :: rest => if isDot c then current.reverse :: labelsFrom [] rest else labelsFrom (c :: current) rest

def labels (name : Text) : List Text := labelsFrom [] name

def turned (f : Text → Except LabelFault Text) (name : Text) : Except NameFault Text := do
  if longestName < name.length then throw .tooLong
  let parts := labels name
  if parts = [[]] then throw .empty
  let endsWithDot := parts.getLast? == some []
  let parts := if endsWithDot then parts.dropLast else parts
  let parts ← (parts.mapM f).mapError NameFault.label
  return Text.joined "." (if endsWithDot then parts ++ [[]] else parts)

def encode (name : Text) : Except NameFault Text := do
  let written ← turned toAscii name
  let longest := if written.getLast?.any isDot then longestName else longestName - 1
  if longest < written.length then throw .tooLong
  return written

def decode (name : Text) : Except NameFault Text := turned ofAscii name

end UploadRelay.Domain
