import UploadRelay.Caller
import UploadRelay.Upload.Save
import UploadRelay.Reporter
import UploadRelay.Log.Access
import UploadRelay.Service.Page
-- Handling one request: every outcome becomes a JSON-RPC body. An upload is saved, called
-- for and deleted again; a plain request is called for as it stands.

namespace UploadRelay.Service

variable {N : Type} [Seconds N]

inductive Visitor where
  | known (principal : Principal)
  | rejected (fault : Fault)
  | unknown

structure Settings (N : Type) where
  store : Store
  policy : Option (Retry.Policy N)
  reporter : Reporter

inductive Route where
  | publish
  | proxy
deriving DecidableEq

def Route.name : Route → Text
  | .publish => "publish"
  | .proxy => "proxy"

def logger : Text := "upload_bridge.publish"

def refusalBody (fault : Fault) (id : Json) : List UInt8 := Json.writtenBytes (fault.reply id)

def Visitor.principal : Visitor → Except Fault Principal
  | .known principal => .ok principal
  | .rejected fault =>
    if fault.isA "PermissionError" then .error (.refusal .forbidden fault.message)
    else .error (.refusal .authRequired fault.message)
  | .unknown => .error (.refusal .authRequired "authentication required")

def noteFault (fault : Fault) : Work N Unit :=
  Work.update fun s => { s with access := { s.access with errorType := some fault.label } }

def noteUser (user : UserId) : Work N Unit :=
  Work.update fun s => { s with access := { s.access with user := some user } }

def noteMethod (method : Text) : Work N Unit :=
  Work.update fun s => { s with access := { s.access with method := method } }

def refuse (fault : Fault) (id : Json) : Work N (List UInt8) := do
  noteFault fault
  return refusalBody fault id

def identify (visitor : Visitor) : Work N (Except Fault (Principal × Text)) := do
  match visitor.principal with
  | .error fault => return .error fault
  | .ok principal =>
    noteUser principal.id
    match principal.requireAddress with
    | .ok address => return .ok (principal, address)
    | .error fault =>
      Work.log logger .error
        ("user " ++ principal.id.decimal ++ " does not have sdk address assigned")
        [("user_id", principal.id.json)]
      return .error fault

def boundLogger (user : UserId) (requestId : Text) : Log.Logger :=
  ⟨logger, if requestId.isEmpty then [("user_id", user.json)]
    else [("user_id", user.json), ("request_id", .str requestId)]⟩

def callFailed (settings : Settings N) (log : Log.Logger) (request : Rpc.Request) (fault : Fault) :
    Work N (List UInt8) := do
  let response : Text := match fault with
    | .remote _ _ _ (some response) => response.quoted
    | _ => "None"
  settings.reporter.report fault (some [("request", request.quoted), ("response", response)])
  Work.logTo log .error ("error calling backend: " ++ fault.message ++ ", request: " ++ request.quoted)
    [("method", .str request.method), ("error_type", .str fault.label)]
  refuse fault request.id

def writingFailed (settings : Settings N) (log : Log.Logger) (request : Rpc.Request) (fault : Fault) :
    Work N (List UInt8) := do
  settings.reporter.report fault none
  Work.logTo log .error ("error marshaling response: " ++ fault.message) [("method", .str request.method)]
  refuse fault request.id

def answer (settings : Settings N) (log : Log.Logger) (caller : Caller N) (request : Rpc.Request) :
    Work N (List UInt8) := do
  match ← Work.attempt (caller.call request) with
  | .error fault =>
    if fault.isRemote then callFailed settings log request fault else throw fault
  | .ok response =>
    match response.serialize with
    | .ok t => return Utf8.encode t
    | .error fault => writingFailed settings log request (.refusal .serialize fault.message)

def callerFor (settings : Settings N) (address : Text) (user : UserId) (hooks : List Hook) : Caller N :=
  ⟨address, user, hooks, settings.policy, true⟩

def readEnvelope (outcome : Except Rpc.Request.Rejection Rpc.Request)
    (use : Rpc.Request → Work N (List UInt8)) : Work N (List UInt8) := do
  match outcome with
  | .ok request =>
    noteMethod request.method
    use request
  | .error rejection =>
    match Fault.ofRejection rejection with
    | .refused kind message data => refuse (.refused kind message data) .null
    | fault => throw fault

def deleteSaved (path : Path) : Work N Unit := do
  let s ← Work.site
  Upload.failIf s.trouble.remove
  let t ← Work.ofExcept (s.tree.remove path)
  Scratch.setTree t

def release (settings : Settings N) (log : Log.Logger) (path : Path) : Work N Unit := do
  match ← Work.attempt (deleteSaved path) with
  | .ok _ => return ()
  | .error fault =>
    if fault.isSystem then
      Work.logTo log .error ("error removing uploaded file " ++ path.text ++ ": " ++ fault.message)
        [("file_path", .str path.text)]
      settings.reporter.report fault (some [("file_path", path.text)])
    else throw fault

def asUploadFault : Fault → Option Fault
  | .refused kind message data =>
    if kind.isUpload then some (.refused kind message data) else none
  | .system label details => some (.refusal .upload (Fault.system label details).message)
  | _ => none

def savingFailed (settings : Settings N) (log : Log.Logger) (fault : Fault) : Work N (List UInt8) := do
  match asUploadFault fault with
  | none => throw fault
  | some told =>
    Work.logTo log .error ("error saving upload: " ++ fault.message) [("error_type", .str fault.label)]
    settings.reporter.report fault none
    refuse told .null

def callWithFile (settings : Settings N) (log : Log.Logger) (user : UserId) (address : Text) (path : Path)
    (r : Http.Request) : Work N (List UInt8) := do
  let form ← Upload.formOf r
  readEnvelope (Rpc.Request.ofText (form.value Upload.payloadField)) fun request => do
    let s ← Work.site
    Upload.failIf s.trouble.buildCall
    answer settings log (callerFor settings address user [Hook.injectFilePath path.text]) request

def publish (settings : Settings N) (visitor : Visitor) (r : Http.Request) : Work N (List UInt8) := do
  match ← identify visitor with
  | .error fault => refuse fault .null
  | .ok (principal, address) =>
    let s ← Work.site
    let log := boundLogger principal.id s.requestId
    match ← Work.attempt (Upload.save settings.store principal.id log r) with
    | .error fault => savingFailed settings log fault
    | .ok path =>
      Work.thenAlways (callWithFile settings log principal.id address path r) (release settings log path)

def multipartRefusal : Fault :=
  .refusal .invalidRequest
    "multipart requests must carry a 'file' part and a non-empty 'json_payload' field"

def proxy (settings : Settings N) (visitor : Visitor) (r : Http.Request) : Work N (List UInt8) := do
  match ← identify visitor with
  | .error fault => refuse fault .null
  | .ok (principal, address) =>
    let s ← Work.site
    let log := boundLogger principal.id s.requestId
    if Upload.isMultipart r then refuse multipartRefusal .null
    else
      readEnvelope (Rpc.Request.ofBytes r.body) fun request =>
        answer settings log (callerFor settings address principal.id []) request

def process (settings : Settings N) (visitor : Visitor) (r : Http.Request) : Route → Work N (List UInt8)
  | .publish => publish settings visitor r
  | .proxy => proxy settings visitor r

def unexpected : Fault := .refusal .internal "internal server error"

def unexpectedFault (settings : Settings N) (route : Route) (fault : Fault) : Work N (List UInt8) := do
  let s ← Work.site
  let user := match s.access.user with
    | some user => user.json
    | none => .null
  Work.logRaised logger .error ("unexpected error handling " ++ route.name ++ " request: " ++ fault.message)
    [("user_id", user), ("error_type", .str fault.label)] fault
  settings.reporter.report fault none
  noteFault fault
  return refusalBody unexpected .null

def visitOf (route : Route) (r : Http.Request) (access : Access) : Log.Visit :=
  { route := route.name
    method := access.method
    user := match access.user with
      | some user => user.json
      | none => .null
    remote := r.remoteAddress
    status := if access.errorType.isSome then "error" else "ok"
    errorType := access.errorType.getD [] }

def recordVisit (route : Route) (r : Http.Request) : Work N Unit := do
  let s ← Work.site
  Log.visit (visitOf route r s.access) none

-- The body that answers a request. One access record is written, whatever fault ends the work. What ends the whole
-- program, an interrupt or an exit, is no fault and gets past this.
def handle (settings : Settings N) (route : Route) (visitor : Visitor) (r : Http.Request) :
    Work N (List UInt8) := do
  Work.update fun s => { s with access := Access.blank }
  let body ← match ← Work.attempt (process settings visitor r route) with
    | .ok body => pure body
    | .error fault => unexpectedFault settings route fault
  recordVisit route r
  return body

end UploadRelay.Service
