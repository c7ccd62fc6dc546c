import UploadRelay.Json.Value
import UploadRelay.Text.Utf8
-- Writing JSON: ASCII only, one space behind commas and colons. Foreign values are written
-- as the text that shows them; the strict form refuses them and the numbers that are not
-- finite, and says which stands first.

namespace UploadRelay.Json

def escapedUnitText (n : Nat) : Text := "\\u" ++ Text.hex 4 n

def writtenOne (c : CodePoint) : Text :=
  if c.val = 34 then "\\\""
  else if c.val = 92 then "\\\\"
  else if c.val = 10 then "\\n"
  else if c.val = 13 then "\\r"
  else if c.val = 9 then "\\t"
  else if c.val = 8 then "\\b"
  else if c.val = 12 then "\\f"
  else if 32 ≤ c.val ∧ c.val < 127 then [c]
  else if c.val < 0x10000 then escapedUnitText c.val
  else
    let n := c.val - 0x10000
    escapedUnitText (0xD800 + n / 0x400) ++ escapedUnitText (0xDC00 + n % 0x400)

def writtenString (t : Text) : Text :=
  CodePoint.ofChar '"' :: t.flatMap writtenOne ++ [CodePoint.ofChar '"']

def writtenDouble : Double → Text
  | .nan => "NaN"
  | .infinity negative => if negative then "-Infinity" else "Infinity"
  | x => x.text

mutual

def written : Json → Text
  | .null => "null"
  | .bool true => "true"
  | .bool false => "false"
  | .int n => Text.ofInt n
  | .float x => writtenDouble x
  | .str t => writtenString t
  | .arr xs => "[" ++ writtenElements xs ++ "]"
  | .obj ms => "\x7b" ++ writtenMembers ms ++ "\x7d"
  | .foreign f => writtenString f.shown

def writtenElements : List Json → Text
  | [] => []
  | [x] => written x
  | x :: y :: rest => written x ++ ", " ++ writtenElements (y :: rest)

def writtenMembers : List (Text × Json) → Text
  | [] => []
  | [(name, x)] => writtenString name ++ ": " ++ written x
  | (name, x) :: y :: rest =>
    writtenString name ++ ": " ++ written x ++ ", " ++ writtenMembers (y :: rest)

end

inductive WriteFault where
  | notFinite
  | foreign (kind : Text)
deriving DecidableEq

def WriteFault.message : WriteFault → Text
  | .notFinite => "Out of range float values are not JSON compliant"
  | .foreign kind => "Object of type " ++ kind ++ " is not JSON serializable"

mutual

def firstFault : Json → Option WriteFault
  | .float x => if x.isFinite then none else some .notFinite
  | .foreign f => some (.foreign f.kind)
  | .arr xs => firstFaultInElements xs
  | .obj ms => firstFaultInMembers ms
  | _ => none

def firstFaultInElements : List Json → Option WriteFault
  | [] => none
  | x :: rest => (firstFault x).or (firstFaultInElements rest)

def firstFaultInMembers : List (Text × Json) → Option WriteFault
  | [] => none
  | (_, x) :: rest => (firstFault x).or (firstFaultInMembers rest)

end

def writtenStrict (x : Json) : Except WriteFault Text :=
  match firstFault x with
  | some fault => .error fault
  | none => .ok (written x)

def insertSorted (m : Text × Json) : List (Text × Json) → List (Text × Json)
  | [] => [m]
  | n :: rest =>
    if Text.compare m.1 n.1 = .lt then m :: n :: rest else n :: insertSorted m rest

def sortMembers (ms : List (Text × Json)) : List (Text × Json) := ms.foldl (fun done m => insertSorted m done) []

mutual

def sorted : Json → Json
  | .arr xs => .arr (sortedElements xs)
  | .obj ms => .obj (sortMembers (sortedMembers ms))
  | x => x

def sortedElements : List Json → List Json
  | [] => []
  | x :: rest => sorted x :: sortedElements rest

def sortedMembers : List (Text × Json) → List (Text × Json)
  | [] => []
  | (name, x) :: rest => (name, sorted x) :: sortedMembers rest

end

def newline (indent : Nat) : Text := CodePoint.ofChar '\n' :: List.replicate indent (CodePoint.ofChar ' ')

mutual

def writtenLines (indent : Nat) : Json → Text
  | .arr (x :: rest) =>
    "[" ++ newline (indent + 2) ++ elementLines (indent + 2) (x :: rest) ++ newline indent ++ "]"
  | .obj (m :: rest) =>
    "\x7b" ++ newline (indent + 2) ++ memberLines (indent + 2) (m :: rest) ++ newline indent ++ "\x7d"
  | x => written x

def elementLines (indent : Nat) : List Json → Text
  | [] => []
  | [x] => writtenLines indent x
  | x :: y :: rest => writtenLines indent x ++ "," ++ newline indent ++ elementLines indent (y :: rest)

def memberLines (indent : Nat) : List (Text × Json) → Text
  | [] => []
  | [(name, x)] => writtenString name ++ ": " ++ writtenLines indent x
  | (name, x) :: y :: rest =>
    writtenString name ++ ": " ++ writtenLines indent x ++ "," ++ newline indent ++
      memberLines indent (y :: rest)

end

def writtenBytes (x : Json) : List UInt8 := Utf8.encode (written x)

end UploadRelay.Json
