import UploadRelay.Rpc.Response
import UploadRelay.Json.Reader
-- Requests of clients: reading an envelope, writing it to a backend, and the key under
-- which its answer is remembered.

namespace UploadRelay.Rpc

structure Request where
  method : Text
  params : Option Members
  id : Json
  jsonrpc : Text

namespace Request

inductive Rejection where
  | unreadable (fault : Json.Fault)
  | notObject (kind : Text)
  | noMethod
  | paramsNotObject (kind : Text)
  | idNotScalar (kind : Text)
deriving DecidableEq

def Rejection.message : Rejection → Text
  | .unreadable fault => "error parsing JSON-RPC request: " ++ fault.message
  | .notObject kind => "JSON-RPC request must be an object, got " ++ kind
  | .noMethod => "JSON-RPC request has no method"
  | .paramsNotObject kind => "params must be an object, got " ++ kind
  | .idNotScalar kind => "JSON-RPC id must be a string or number, got " ++ kind

def methodOf (members : Members) : Except Rejection Text :=
  match Members.get? members "method" with
  | some (.str (c :: rest)) => .ok (c :: rest)
  | _ => .error .noMethod

def paramsOf (members : Members) : Except Rejection (Option Members) :=
  match Members.get? members "params" with
  | none => .ok none
  | some .null => .ok none
  | some (.obj params) => .ok (some params)
  | some other => .error (.paramsNotObject other.kind)

-- Ids are whole numbers, truth values among them, strings, or null.
def idOf (members : Members) : Except Rejection Json :=
  match Members.getD members "id" (.int 0) with
  | .null => .ok .null
  | .bool b => .ok (.bool b)
  | .int n => .ok (.int n)
  | .str t => .ok (.str t)
  | other => .error (.idNotScalar other.kind)

def ofMembers (members : Members) : Except Rejection Request := do
  let method ← methodOf members
  let params ← paramsOf members
  let id ← idOf members
  return ⟨method, params, id, (Members.getD members "jsonrpc" (.str version)).shown⟩

def ofJson : Json → Except Rejection Request
  | .obj members => ofMembers members
  | other => .error (.notObject other.kind)

def ofDocument : Except Json.Fault Json → Except Rejection Request
  | .ok v => ofJson v
  | .error fault => .error (.unreadable fault)

def ofText (t : Text) : Except Rejection Request := ofDocument (Json.read t)
def ofBytes (bytes : List UInt8) : Except Rejection Request := ofDocument (Json.readBytes bytes)

def wire (r : Request) : Members :=
  let envelope : Members := [("jsonrpc", .str r.jsonrpc), ("method", .str r.method), ("id", r.id)]
  match r.params with
  | some params => Members.put "params" (.obj params) envelope
  | none => envelope

def paramsOrEmpty (r : Request) : Members := r.params.getD []

def paramsValue (r : Request) : Json :=
  match r.params with
  | some params => .obj params
  | none => .null

def quoted (r : Request) : Text :=
  "RpcRequest(method=" ++ Text.quoted r.method ++ ", params=" ++ r.paramsValue.quoted ++
    ", id=" ++ r.id.quoted ++ ", jsonrpc=" ++ Text.quoted r.jsonrpc ++ ")"

def body (r : Request) : List UInt8 := Utf8.encode (Json.written (.obj r.wire))

-- Requests of one user with one key are answered alike; neither the id nor the order of
-- members counts.
def cacheKey (user : Text) (r : Request) : Text :=
  user ++ ":" ++ r.method ++ ":" ++ Json.written r.paramsValue.sorted

end Request

end UploadRelay.Rpc
