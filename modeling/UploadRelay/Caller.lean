import UploadRelay.Backend.Sending
import UploadRelay.Principal
-- One call of a user to a backend: hooks prepare the request, a remembered answer may spare
-- the post, and the backend's reply is read as a response.

namespace UploadRelay

variable {N : Type} [Seconds N]

inductive Hook.Verdict where
  | proceed (request : Rpc.Request)
  | answer (response : Rpc.Response)
  | abort (fault : Fault)

structure Hook where
  name : Text
  run : Rpc.Request → Hook.Verdict

namespace Hook

-- Hooks run in their order, each on the request as the ones before it left it, up to the
-- first that does not proceed.
def runAll : List Hook → Rpc.Request → Verdict
  | [], request => .proceed request
  | hook :: rest, request =>
    match hook.run request with
    | .proceed next => runAll rest next
    | .answer response => .answer response
    | .abort fault => .abort fault

-- The hooks that get to run.
def trace : List Hook → Rpc.Request → List Text
  | [], _ => []
  | hook :: rest, request =>
    match hook.run request with
    | .proceed next => hook.name :: trace rest next
    | _ => [hook.name]

def prepared : List Hook → Rpc.Request → Rpc.Request
  | [], request => request
  | hook :: rest, request =>
    match hook.run request with
    | .proceed next => prepared rest next
    | _ => request

def setParam (name : Text) (value : Json) (request : Rpc.Request) : Rpc.Request :=
  { request with params := some (Members.put name value request.paramsOrEmpty) }

def filePathParam : Text := "file_path"

def injectFilePath (path : Text) : Hook :=
  ⟨filePathParam, fun request => .proceed (setParam filePathParam (.str path) request)⟩

end Hook

structure Caller (N : Type) where
  endpoint : Text
  user : UserId
  hooks : List Hook
  policy : Option (Retry.Policy N)
  usesCache : Bool

namespace Caller

def logger : Text := "upload_bridge.rpc"

def invalidJson (body : List UInt8) : Fault :=
  .remote ("backend returned invalid JSON: " ++ Text.quoted (Rpc.preview body))
    (.int Refusal.remoteCode) .null none

def remoteFault (message : Text) : Fault := .remote message (.int Refusal.remoteCode) .null none

def readReply (r : Backend.Reply) : Except Fault Rpc.Response :=
  if r.status ≠ 200 then
    .error (remoteFault ("backend returned HTTP " ++ Text.ofInt r.status ++ ": " ++
      Text.quoted (Rpc.preview r.body)))
  else
    match Json.readBytes r.body with
    | .error fault => if fault.isMalformed then .error (invalidJson r.body) else .error (.ofJson fault)
    | .ok (.obj members) => (Rpc.Response.ofMembers members).mapError fun e => remoteFault e.message
    | .ok other =>
      .error (remoteFault ("backend returned a non-object JSON-RPC response: " ++ other.kind))

def sendFault (fault : Fault) : Fault :=
  match fault with
  | .transport _ message => remoteFault ("error calling backend: " ++ message)
  | other => other

def message (c : Caller N) (requestId : Text) (request : Rpc.Request) : Backend.Message :=
  ⟨c.endpoint, request.body, if requestId.isEmpty then none else some requestId⟩

def send (c : Caller N) (request : Rpc.Request) : Work N Rpc.Response := do
  let s ← Work.site
  Work.log logger .debug ("Calling " ++ request.method ++ " on " ++ c.endpoint)
    [("user_id", c.user.json), ("method", .str request.method)]
  match ← Work.attempt (Backend.send c.policy (c.message s.requestId request)) with
  | .error fault => throw (sendFault fault)
  | .ok reply => Work.ofExcept (readReply reply)

def accepted (response : Rpc.Response) : Except Fault Rpc.Response :=
  match response.error with
  | some error => .error (.ofErrorObject error (some response))
  | none => .ok response

def lookUp (cache : Rpc.Cache N) (key : Text) : Work N (Option Rpc.Response) := do
  let s ← Work.site
  let (found, cache) := cache.get s.clock key
  Work.update fun s => { s with cache := some cache }
  return found

def remember (key : Text) (response : Rpc.Response) : Work N Unit := do
  let s ← Work.site
  match s.cache with
  | none => return ()
  | some cache =>
    let cache ← Work.ofOverflow (cache.set s.clock key response)
    Work.update fun s => { s with cache := some cache }

def key (c : Caller N) (request : Rpc.Request) : Text := request.cacheKey c.user.text

def dispatch (c : Caller N) (cached : Bool) (request : Rpc.Request) : Work N Rpc.Response := do
  let response ← c.send request
  let response ← Work.ofExcept (accepted response)
  if cached then remember (c.key request) response
  return response

def cacheFor (c : Caller N) (s : Site N) (request : Rpc.Request) : Option (Rpc.Cache N) :=
  if c.usesCache then s.cache.filter fun cache => cache.isCacheable request.method else none

def call (c : Caller N) (request : Rpc.Request) : Work N Rpc.Response := do
  match Hook.runAll c.hooks request with
  | .abort fault => throw fault
  | .answer response =>
    Work.log logger .debug ("Preflight hook answered " ++ (Hook.prepared c.hooks request).method ++
      " without dispatch") []
    return response
  | .proceed request =>
    let s ← Work.site
    match c.cacheFor s request with
    | none => c.dispatch false request
    | some cache =>
      match ← lookUp cache (c.key request) with
      | some response =>
        Work.log logger .debug ("Cache hit for " ++ request.method) [("user_id", c.user.json)]
        return response
      | none => c.dispatch true request

end Caller

end UploadRelay
