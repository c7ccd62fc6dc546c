import UploadRelay.CommandLine.Publish
import UploadRelay.CommandLine.Serve
-- The program as it is called: the command, and what that command makes of the words behind its name. Messages go
-- between it and the gateway that holds its connections; a message is a JSON object on a line of its own, and the
-- bytes of a body stand in it as characters below 256.

namespace UploadRelay.CommandLine.Message

def ofBytes (bytes : List UInt8) : Text := bytes.map CodePoint.ofByte

def toBytes (t : Text) : List UInt8 := t.map fun c => UInt8.ofNat c.val

def headers (hs : List (Text × Text)) : Json := .obj (hs.map fun h => (h.1, .str h.2))

def textOf (m : Members) (name : Text) : Text :=
  match Members.get? m name with
  | some (.str t) => t
  | _ => []

def headersOf (m : Members) : List (Text × Text) :=
  match Members.get? m "headers" with
  | some (.obj hs) => hs.map fun h => (h.1, h.2.shown)
  | _ => []

def request? : Json → Option Http.Request
  | .obj m =>
    let body := toBytes (textOf m "body")
    some ⟨textOf m "method", Http.pathOf (textOf m "path"), Http.headersOf body (headersOf m), body,
      textOf m "remote_addr"⟩
  | _ => none

def response (r : Http.Response) : Json :=
  .obj [("status", .int r.status), ("headers", headers r.headers), ("body", .str (ofBytes r.body))]

def posting (url : Text) (hs : List (Text × Text)) (body : List UInt8) (timeout : Double) : Json :=
  .obj [("post", .str url), ("headers", headers hs), ("body", .str (ofBytes body)),
    ("timeout", .float timeout)]

def ofPosting (p : Publish.Posting) (boundary : Text) : Json :=
  let form := p.form boundary
  posting p.url (("Content-Type", form.contentType) :: p.headers) form.body p.timeout

def ofPost (p : Backend.Post) (timeout : Double) : Json :=
  let id := p.requestId.toList.map fun id => (("X-Request-ID" : Text), id)
  posting p.url (("Content-Type", p.contentType) :: id) p.body timeout

def faultOf (m : Members) (label : Text) : Fault :=
  match Transport.ofLabel? label with
  | some kind => .transport kind (textOf m "message")
  | none => .other label [.str (textOf m "message")]

def statusOf (m : Members) : Int :=
  match Members.get? m "status" with
  | some (.int n) => n
  | _ => 200

def reply : Json → Except Fault Backend.Reply
  | .obj m =>
    match Members.get? m "error" with
    | some label => .error (faultOf m label.shown)
    | none => .ok ⟨statusOf m, toBytes (textOf m "body"), headersOf m⟩
  | _ => .error (.transport .remoteProtocol "not an object")

def outcome (v : Json) : Backend.Outcome :=
  match reply v with
  | .ok r => .reply r
  | .error fault => .fails fault

def published (v : Json) : Except Fault Http.Response :=
  (reply v).map fun r => ⟨r.status.toNat, r.headers, r.body⟩

end UploadRelay.CommandLine.Message

namespace UploadRelay.CommandLine

inductive Program (N : Type) where
  | serve (start : Serve.Start N)
  | publish (posting : Except Ending Publish.Posting)

variable {N : Type} [Seconds N]

def Program.read (tree : Tree) (env : Environment) (words : List Text) : Except Misuse (Program N) :=
  (Command.read words).map fun
    | (.serve, words) => .serve (Serve.run tree env words)
    | (.publish, words) => .publish (Publish.prepare tree env words)

end UploadRelay.CommandLine
