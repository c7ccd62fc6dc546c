import UploadRelay.Service.App
-- A client in the same process. It sends nothing that a server would not be handed, and
-- takes no response that a server must not give.

namespace UploadRelay.Service

variable {N : Type} [Seconds N]

structure ClientRequest where
  method : Text
  -- The path, and the query behind a question mark.
  target : Text
  headers : List (Text × Text)
  body : List UInt8

namespace ClientRequest

def assertion (message : Text) : Fault := .other "AssertionError" [.str message]

def checkTarget (target : Text) : Except Fault Unit :=
  if Text.startsWith target "/" then .ok () else .error (.value "path must start with '/'")

def sendable : List String := ["GET", "HEAD", "POST", "OPTIONS", "PATCH", "PUT", "DELETE", "TRACE"]

def checkMethod (method : Text) : Except Fault Unit :=
  if !(sendable.any fun m => Text.ofString m == method) && App.isMethod (Text.upper method) then
    .error (.other "WSGIWarning" [.str ("Unknown REQUEST_METHOD: " ++ Text.quoted method)])
  else .ok ()

def notWhole (t : Text) : Fault :=
  match Whole.tooMany? t with
  | some count => Fault.ofJson (.tooManyDigits count)
  | none => .value ("invalid literal for int() with base 10: " ++ (Text.quoted t).take 200)

def checkLength (headers : List (Text × Text)) : Except Fault Unit :=
  match (headers.find? fun h => h.1 == ("content-length" : Text)).map (·.2) with
  | none => .ok ()
  | some [] => .ok ()
  | some t =>
    match Whole.read? t with
    | none => .error (notWhole t)
    | some n => if n < 0 then .error (assertion ("Invalid CONTENT_LENGTH: " ++ Text.quoted t)) else .ok ()

def request (c : ClientRequest) (remoteAddress : Text) : Except Fault Http.Request := do
  checkTarget c.target
  checkMethod c.method
  let r : Http.Request :=
    ⟨c.method, Http.pathOf c.target, Http.headersOf c.body c.headers, c.body, remoteAddress⟩
  checkLength r.headers
  return { r with body := c.body.take (r.length?.getD 0) }

end ClientRequest

def checkHeaderValue (value : Text) : Except Fault Unit :=
  match value.find? fun c => decide (c.val < 32) with
  | none => .ok ()
  | some c => .error (ClientRequest.assertion
    ("Bad header value: " ++ Text.quoted value ++ " (bad char: " ++ Text.quoted [c] ++ ")"))

def checkResponse (r : Http.Response) : Except Fault Unit := (r.headers.map (·.2)).forM checkHeaderValue

def App.exchange (app : App N) (c : ClientRequest) (remoteAddress : Text) : Work N Http.Response := do
  let request ← Work.ofExcept (c.request remoteAddress)
  let response ← app.serve request
  Work.ofExcept (checkResponse response)
  return response

end UploadRelay.Service
