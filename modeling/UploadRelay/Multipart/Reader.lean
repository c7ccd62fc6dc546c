import UploadRelay.Charset.Named
import UploadRelay.Http.Parameters
import UploadRelay.Text.Word
-- Reading the body of a form: the parts between its boundary lines, and what the headers of
-- a part say about it. A body that stops being a form keeps the parts before that place.

namespace UploadRelay.Multipart

def crlf : List UInt8 := [13, 10]
def blankLine : List UInt8 := [13, 10, 13, 10]
def dashes : List UInt8 := [45, 45]

def maxParts : Nat := 64
def maxHeaderBytes : Nat := 8192
def maxTextBytes : Nat := 1048576

def cut (mark : List UInt8) (before : List UInt8) : List UInt8 → Option (List UInt8 × List UInt8)
  | [] => if mark.isEmpty then some (before.reverse, []) else none
  | b :: rest =>
    if mark.isPrefixOf (b :: rest) then some (before.reverse, (b :: rest).drop mark.length)
    else cut mark (b :: before) rest

def cutAt (mark bytes : List UInt8) : Option (List UInt8 × List UInt8) := cut mark [] bytes

inductive HeaderName where
  | contentType
  | disposition
  | transferEncoding
deriving DecidableEq

structure Part where
  headers : List (HeaderName × List UInt8)
  body : List UInt8

def lowerByte (b : UInt8) : UInt8 := if 65 ≤ b.toNat ∧ b.toNat ≤ 90 then b + 32 else b

def ascii (s : String) : List UInt8 := s.toUTF8.toList

def headerName? (name : List UInt8) : Option HeaderName :=
  let name := name.map lowerByte
  if name = ascii "content-type" then some .contentType
  else if name = ascii "content-disposition" then some .disposition
  else if name = ascii "content-transfer-encoding" then some .transferEncoding
  else none

-- Other headers, and lines without a colon and a space, say nothing.
def header? (line : List UInt8) : Option (HeaderName × List UInt8) :=
  match cutAt [58, 32] line with
  | some (name, value) => (headerName? name).map fun n => (n, value)
  | none => none

def linesLoop : (fuel : Nat) → List UInt8 → List (List UInt8)
  | 0, bytes => [bytes]
  | fuel + 1, bytes =>
    match cutAt crlf bytes with
    | some (line, rest) => line :: linesLoop fuel rest
    | none => [bytes]

def lines (bytes : List UInt8) : List (List UInt8) := linesLoop bytes.length bytes

def isRefused (h : HeaderName × List UInt8) : Bool :=
  h.1 == .transferEncoding && h.2 != ascii "binary"

def headers? (block : List UInt8) : Option (List (HeaderName × List UInt8)) :=
  let found := (lines block).filterMap header?
  if found.any isRefused then none else some found

def Part.header? (p : Part) (name : HeaderName) : Option (List UInt8) :=
  (p.headers.reverse.find? fun h => h.1 == name).map (·.2)

inductive Ending where
  | closed
  | malformed
deriving DecidableEq

structure Parts where
  parts : List Part
  ending : Ending

def Parts.before (p : Part) (rest : Parts) : Parts := ⟨p :: rest.parts, rest.ending⟩

def headerBlock? (bytes : List UInt8) : Option (List UInt8 × List UInt8) :=
  match cutAt blankLine bytes with
  | some (block, rest) => if block.length ≤ maxHeaderBytes then some (block, rest) else none
  | none => none

-- The parts from behind a boundary on. A last part without a boundary behind it reaches to
-- the end of the body.
def partsFrom (delimiter : List UInt8) : (remaining : Nat) → List UInt8 → Parts
  | remaining, bytes =>
    match bytes with
    | 45 :: 45 :: _ => ⟨[], .closed⟩
    | 13 :: 10 :: rest =>
      match remaining with
      | 0 => ⟨[], .malformed⟩
      | remaining + 1 =>
        match headerBlock? rest with
        | none => ⟨[], .malformed⟩
        | some (block, rest) =>
          match headers? block with
          | none => ⟨[], .malformed⟩
          | some headers =>
            match cutAt delimiter rest with
            | some (body, rest) => Parts.before ⟨headers, body⟩ (partsFrom delimiter remaining rest)
            | none => ⟨[⟨headers, rest⟩], .malformed⟩
    | _ => ⟨[], .malformed⟩

-- The first boundary may stand anywhere, the others at the start of a line.
def parts (boundary body : List UInt8) : Parts :=
  match cutAt (dashes ++ boundary) body with
  | none => ⟨[], .malformed⟩
  | some (_, rest) => partsFrom (crlf ++ dashes ++ boundary) maxParts rest

inductive PartFault where
  | undecodable (fault : DecodeFault)
  | malformed
deriving DecidableEq

def Part.disposition (p : Part) : Except PartFault Http.Parameterized :=
  match Encoding.readUtf8 false ((p.header? .disposition).getD []) with
  | .ok t => .ok (Http.Parameterized.read t)
  | .error fault => .error (.undecodable fault)

def Part.name? (p : Part) : Except PartFault (Option Text) := do
  let d ← p.disposition
  return d.get? "name"

def isCharsetChar (c : CodePoint) : Bool := c.isWord || c.val == 45

-- `charset'language'escaped text`
def extendedValue? (t : Text) : Option (Text × Text) :=
  let charset := t.takeWhile isCharsetChar
  match charset.isEmpty, t.drop charset.length with
  | false, q :: rest =>
    let afterLanguage := rest.dropWhile CodePoint.isWord
    match afterLanguage with
    | r :: value =>
      let line := value.takeWhile fun c => c.val != 10
      if q.val = 39 ∧ r.val = 39 ∧ !line.isEmpty then some (charset, line) else none
    | [] => none
  | _, _ => none

-- The name of a file part: the extended form wins over the plain one.
def Part.fileName? (p : Part) : Except PartFault (Option Text) := do
  let d ← p.disposition
  match extendedValue? ((d.get? "filename*").getD []) with
  | some (charset, value) =>
    match CharacterSet.textOf? charset (Percent.decoded (Utf8.encode value)) with
    | some name => return some name
    | none => throw .malformed
  | none => return d.get? "filename"

def plainText : Text := "text/plain"

def Part.text (p : Part) : Except PartFault Text :=
  match Encoding.readAscii ((p.header? .contentType).getD (ascii "text/plain")) with
  | .error fault => .error (.undecodable fault)
  | .ok line =>
    let type := Http.Parameterized.read line
    if type.value ≠ plainText then .ok []
    else if maxTextBytes < p.body.length then .error .malformed
    else
      match CharacterSet.textOf? ((type.get? "charset").getD "utf-8") p.body with
      | some t => .ok t
      | none => .error .malformed

end UploadRelay.Multipart
