import UploadRelay.Service.Handler
import UploadRelay.Service.Origins
import UploadRelay.Service.PathTemplate
import UploadRelay.Tokens
-- The whole service: an id for every request, the user behind it, the one route that takes
-- posts, and problem pages for all else.

namespace UploadRelay.Service

variable {N : Type} [Seconds N]

structure App (N : Type) where
  base : Text
  settings : Settings N
  -- Finds the user of a request. Without it nobody is known.
  authenticate : Option (Http.Request → Except Fault Principal)
  origins : Option Origins

def byToken (tokens : Tokens) (r : Http.Request) : Except Fault Principal :=
  (tokens.authenticate (r.header? "authorization")).mapError Tokens.AuthFault.fault

namespace App

def httpLogger : Text := "upload_bridge.http"

def endpoint (base : Text) : Text := base ++ "/proxy"

def path (app : App N) : Text := endpoint app.base

def onOff (b : Bool) : Text := if b then "on" else "off"

def start (app : App N) : Work N Unit := do
  let _ ← Work.ofExcept (PathTemplate.read app.path)
  let s ← Work.site
  let root := app.settings.store.root.text
  Work.log httpLogger .info
    ("Upload bridge ready at " ++ app.path ++ " (uploads in " ++ root ++ ", auth " ++
      onOff app.authenticate.isSome ++ ", cache " ++ onOff s.cache.isSome ++ ")")
    [("prefix", .str app.base), ("upload_path", .str root),
     ("auth_enabled", .bool app.authenticate.isSome), ("cache_enabled", .bool s.cache.isSome)]

def lastId : Text := "0123456789abcdef0123456789abcdef"

def idLength : Nat := 16

def freshId : Work N Text := do
  let s ← Work.site
  Work.update fun s => { s with freshIds := s.freshIds.tail }
  return (s.freshIds.headD lastId).take idLength

def idHeader : Text := "x-request-id"

def idFor (r : Http.Request) : Work N Text := do
  match r.header? idHeader with
  | some (c :: rest) => return c :: rest
  | _ => freshId

-- Faults of credentials are kept for the handlers to tell; any other fault ends the work.
def isCredentialFault (fault : Fault) : Bool := fault.isA "ValueError" || fault.isA "PermissionError"

def visitorOf (app : App N) (r : Http.Request) : Work N Visitor := do
  match app.authenticate with
  | none => return .unknown
  | some authenticate =>
    match authenticate r with
    | .ok principal => return .known principal
    | .error fault =>
      if isCredentialFault fault then
        Work.log httpLogger .warning ("Auth failure from " ++ r.remoteAddress ++ ": " ++ fault.message)
          [("remote_addr", .str r.remoteAddress), ("error_type", .str fault.label),
           ("auth_error", .str fault.message)]
        return .rejected fault
      else throw fault

def problem (r : Http.Request) (p : Problem) : Page := problemPage (r.header? "accept") p

def optionsPage : Page := ⟨⟨200, [("content-type", contentType), ("allow", "POST")], []⟩, true⟩

def methods : List String :=
  ["CONNECT", "DELETE", "GET", "HEAD", "OPTIONS", "PATCH", "POST", "PUT", "TRACE", "CHECKIN", "CHECKOUT",
   "COPY", "LOCK", "MKCOL", "MOVE", "PROPFIND", "PROPPATCH", "REPORT", "UNCHECKIN", "UNLOCK", "UPDATE",
   "VERSION-CONTROL"]

def isMethod (method : Text) : Bool := methods.any fun m => Text.ofString m == method

def post (app : App N) (visitor : Visitor) (r : Http.Request) : Work N Page := do
  let isUpload ← Upload.canHandle r
  let body ← handle app.settings (if isUpload then .publish else .proxy) visitor r
  return ⟨⟨200, [("content-type", contentType)], body⟩, true⟩

def ownNames : List Text := ["req", "resp"]

def routed (app : App N) (fields : List Text) (visitor : Visitor) (r : Http.Request) : Work N Page := do
  if fields.any ownNames.contains then return problem r .failed
  else if r.method == ("POST" : Text) then
    if fields.isEmpty then app.post visitor r else return problem r .failed
  else if r.method == ("OPTIONS" : Text) then return optionsPage
  else if isMethod r.method then return problem r .notAllowed
  else return problem r .badMethod

def route (app : App N) (visitor : Visitor) (r : Http.Request) : Work N Page := do
  let template ← Work.ofExcept (PathTemplate.read app.path)
  if template.any PathTemplate.isBroken then return problem r .failed
  else if template.fits r.path then app.routed (template.fields.map PathField.name) visitor r
  else return problem r .notFound

def page (app : App N) (r : Http.Request) : Work N Page := do
  let visitor ← app.visitorOf r
  app.route visitor r

def withoutBody (r : Http.Request) (response : Http.Response) : Http.Response :=
  if r.method == ("HEAD" : Text) then { response with body := [] } else response

def finished (app : App N) (r : Http.Request) (id : Text) (p : Page) : Http.Response :=
  let marked := match app.origins with
    | some origins => origins.mark r p.succeeded p.response
    | none => p.response
  withoutBody r (marked.setHeader idHeader id)

def serve (app : App N) (r : Http.Request) : Work N Http.Response := do
  let before ← Work.site
  let id ← idFor r
  Work.update fun s => { s with requestId := id, form := none }
  let outcome ← Work.attempt (app.page r)
  Work.update fun s => { s with requestId := before.requestId, form := none }
  match outcome with
  | .ok p => return app.finished r id p
  | .error _ => return app.finished r id (problem r .failed)

end App

end UploadRelay.Service
