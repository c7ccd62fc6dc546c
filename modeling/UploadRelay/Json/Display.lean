import UploadRelay.Json.Value
import UploadRelay.Text.Quoted
-- Values as messages show them. A text on its own is shown bare, inside a list or an
-- object it is quoted.

namespace UploadRelay.Json

mutual

def quoted : Json → Text
  | .null => "None"
  | .bool true => "True"
  | .bool false => "False"
  | .int n => Text.ofInt n
  | .float x => x.text
  | .str t => Text.quoted t
  | .arr xs => "[" ++ quotedElements xs ++ "]"
  | .obj ms => "\x7b" ++ quotedMembers ms ++ "\x7d"
  | .foreign f => f.quoted

def quotedElements : List Json → Text
  | [] => []
  | [x] => quoted x
  | x :: y :: rest => quoted x ++ ", " ++ quotedElements (y :: rest)

def quotedMembers : List (Text × Json) → Text
  | [] => []
  | [(name, x)] => Text.quoted name ++ ": " ++ quoted x
  | (name, x) :: y :: rest => Text.quoted name ++ ": " ++ quoted x ++ ", " ++ quotedMembers (y :: rest)

end

def shown : Json → Text
  | .str t => t
  | .foreign f => f.shown
  | x => quoted x

def quotedTuple : List Json → Text
  | [x] => "(" ++ quoted x ++ ",)"
  | xs => "(" ++ quotedElements xs ++ ")"

def ofBytes (bytes : List UInt8) : Json :=
  let shown := Text.quotedBytes bytes
  .foreign ⟨"bytes", shown, shown, some bytes, !bytes.isEmpty⟩

def pathKind : Text := "PosixPath"

def ofPath (path : Text) : Json := .foreign ⟨pathKind, path, pathKind ++ "(" ++ Text.quoted path ++ ")", none, true⟩

end UploadRelay.Json
