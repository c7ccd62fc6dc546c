import UploadRelay.Fault
import UploadRelay.Files.Tree
-- What passes between the bridge and a backend: posts, and the turns a backend takes.

namespace UploadRelay.Backend

structure Reply where
  status : Int
  body : List UInt8
  headers : List (Text × Text)

inductive Outcome where
  | reply (reply : Reply)
  | fails (fault : Fault)
  -- A success that repeats the id of the request, with this status.
  | echo (status : Int) (headers : List (Text × Text))

-- A backend may delete the uploaded file before it answers.
structure Turn where
  removesFile : Bool
  outcome : Outcome

structure Post where
  url : Text
  body : List UInt8
  contentType : Text
  requestId : Option Text
  -- The files as the backend finds them.
  seen : Tree

def Reply.headers? (r : Reply) (name : Text) : List Text :=
  (r.headers.filter fun h => Text.lower h.1 == Text.lower name).map (·.2)

def Reply.header? (r : Reply) (name : Text) : Option Text :=
  match r.headers? name with
  | [] => none
  | values => some (Text.joined ", " values)

def defaultTurn : Turn := ⟨false, .echo 200 []⟩

def postedMember? (body : List UInt8) (name : Text) : Option Json :=
  match Json.readBytes body with
  | .ok v => v.member? name
  | .error _ => none

def echoBody (body : List UInt8) : List UInt8 :=
  Json.writtenBytes (.obj [("jsonrpc", .str "2.0"), ("result", .obj [("ok", .bool true)]),
    ("id", (postedMember? body "id").getD .null)])

def postedPath? (body : List UInt8) : Option Path :=
  match postedMember? body "params" with
  | some params =>
    match params.member? "file_path" with
    | some (.str t) => some (Path.ofText t)
    | _ => none
  | none => none

end UploadRelay.Backend
