import UploadRelay.Http.Message
import UploadRelay.Fault
-- Which pages of browsers may call the service, and the headers that tell them so.

namespace UploadRelay.Service

inductive Origins where
  | any
  | listed (origins : List Text)

namespace Origins

def wildcard : Text := "*"

def wildcardFault : Fault :=
  .value ("The wildcard string \"*\" may only be passed to allow_origins as a string literal, " ++
    "not inside an iterable.")

def ofText (t : Text) : Origins := if t = wildcard then .any else .listed [t]

def ofList (origins : List Text) : Except Fault Origins :=
  if origins.contains wildcard then .error wildcardFault else .ok (.listed origins)

def allowed? (origins : Origins) (origin : Text) : Option Text :=
  match origins with
  | .any => some wildcard
  | .listed origins => if origins.contains origin then some origin else none

def exposedHeader : Text := "X-Request-ID"

def isPreflight (r : Http.Request) (succeeded : Bool) : Bool :=
  succeeded && r.method == ("OPTIONS" : Text) &&
    !((r.header? "access-control-request-method").getD []).isEmpty

def answerPreflight (r : Http.Request) (response : Http.Response) : Http.Response :=
  match response.header? "allow" with
  | none => response
  | some methods =>
    (((response.without "allow").setHeader "access-control-allow-methods" methods).setHeader
      "access-control-allow-headers"
      ((r.header? "access-control-request-headers").getD wildcard)).setHeader
      "access-control-max-age" "86400"

def mark (origins : Origins) (r : Http.Request) (succeeded : Bool) (response : Http.Response) :
    Http.Response :=
  match (r.header? "origin").bind origins.allowed? with
  | none => response
  | some told =>
    let marked := (response.setHeader "access-control-allow-origin" told).setHeader
      "access-control-expose-headers" exposedHeader
    if isPreflight r succeeded then answerPreflight r marked else marked

end Origins

end UploadRelay.Service
