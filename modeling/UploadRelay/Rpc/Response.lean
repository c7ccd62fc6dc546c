import UploadRelay.Json.Display
import UploadRelay.Json.Writer
-- Responses of a backend. Members the protocol does not name are kept and written back, so
-- the client sees what the backend sent.

namespace UploadRelay

namespace Rpc

def version : Text := "2.0"

def previewBytes : Nat := 200

def preview (body : List UInt8) : Text := Utf8.decodeLenient (body.take previewBytes)

def knownMembers : List Text := ["jsonrpc", "result", "error", "id"]

structure Response where
  result : Json
  error : Option Members
  id : Json
  jsonrpc : Text
  extra : Members

namespace Response

-- The only object that is no response has an error member of another kind.
inductive Rejection where
  | errorNotObject (kind : Text)
deriving DecidableEq

def Rejection.message : Rejection → Text
  | .errorNotObject kind => "JSON-RPC error member must be an object, got " ++ kind

def errorMember (members : Members) : Except Rejection (Option Members) :=
  match Members.get? members "error" with
  | none => .ok none
  | some .null => .ok none
  | some (.obj error) => .ok (some error)
  | some other => .error (.errorNotObject other.kind)

def ofMembers (members : Members) : Except Rejection Response := do
  let error ← errorMember members
  return {
    result := Members.getD members "result" .null
    error := error
    id := Members.getD members "id" (.int 0)
    jsonrpc := (Members.getD members "jsonrpc" (.str version)).shown
    extra := Members.without members knownMembers }

end Response

-- An envelope put together member by member: the version and the extra members first, then
-- the error or else the result, then the id. A later member takes the place of an earlier
-- one of its name.
def envelope (jsonrpc : Json) (extra : Members) (error : Option Json) (result id : Json) : Members :=
  let opened := Members.putAll [("jsonrpc", jsonrpc)] extra
  let answered := match error with
    | some e => Members.put "error" e opened
    | none => Members.put "result" result opened
  Members.put "id" id answered

namespace Response

def wire (r : Response) : Members :=
  envelope (.str r.jsonrpc) r.extra (r.error.map .obj) r.result r.id

def quoted (r : Response) : Text :=
  let error := match r.error with
    | some members => Json.obj members
    | none => .null
  "RpcResponse(result=" ++ r.result.quoted ++ ", error=" ++ error.quoted ++ ", id=" ++ r.id.quoted ++
    ", jsonrpc=" ++ Text.quoted r.jsonrpc ++ ")"

inductive SerializeFault where
  | unwritable (fault : Json.WriteFault)
  | extraNotObject (kind : Text)
deriving DecidableEq

def SerializeFault.message : SerializeFault → Text
  | .unwritable fault => "error serializing response: " ++ fault.message
  | .extraNotObject kind => "error serializing response: '" ++ kind ++ "' object is not a mapping"

def serialize (r : Response) : Except SerializeFault Text :=
  (Json.writtenStrict (.obj r.wire)).mapError .unwritable

-- A response whose members were set one by one and never checked.
structure Draft where
  result : Json := .null
  error : Json := .null
  id : Json := .int 0
  jsonrpc : Json := .str version
  extra : Json := .obj []

def Draft.serialize (d : Draft) : Except SerializeFault Text :=
  match d.extra with
  | .obj extra =>
    let error := match d.error with
      | .null => none
      | e => some e
    (Json.writtenStrict (.obj (envelope d.jsonrpc extra error d.result d.id))).mapError .unwritable
  | other => .error (.extraNotObject other.kind)

end Response

end Rpc

end UploadRelay
