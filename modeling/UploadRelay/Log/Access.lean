import UploadRelay.Site.Basic
-- The access record: one line about every request that was handled.

namespace UploadRelay.Log

variable {N : Type}

def accessLogger : Text := "upload_bridge.access"

structure Visit where
  route : Text
  method : Text
  user : Json
  remote : Text
  status : Text
  errorType : Text

def roundedMillis : Json → Option Json
  | .int n => some (.int n)
  | .bool b => some (.int (if b then 1 else 0))
  | .float x => some (.float (x.rounded 2))
  | _ => none

def visitor (v : Visit) : Members :=
  [("route", .str v.route), ("method", .str v.method),
   ("user_id", match v.user with
     | .null => .str []
     | user => user),
   ("remote_addr", .str v.remote)]

def ending (v : Visit) : Members := [("status", .str v.status), ("error_type", .str v.errorType)]

def requestField (requestId : Text) : Members :=
  if requestId.isEmpty then [] else [("request_id", .str requestId)]

def visitEntry (v : Visit) (duration : Members) (requestId : Text) : Entry :=
  { logger := accessLogger
    level := .info
    message := v.route ++ " " ++ (if v.method.isEmpty then ("-" : Text) else v.method) ++ " " ++ v.status
    extra := List.flatten [visitor v, duration, ending v, requestField requestId]
    raised := none }

def spoiledEntry : Entry :=
  ⟨"upload_bridge.rpc", .debug, "Access log emission failed", [], some "TypeError"⟩

def durationField : Option Json → Option Members
  | none => some []
  | some measured => (roundedMillis measured).map fun d => [("duration_ms", d)]

def visitEntries (accessLevel : Int) (v : Visit) (duration : Option Json) (requestId : Text) : List Entry :=
  if Level.info.number < accessLevel then []
  else
    match durationField duration with
    | some field => [visitEntry v field requestId]
    | none => [spoiledEntry]

def visit (v : Visit) (duration : Option Json) : Work N Unit :=
  Work.update fun s =>
    { s with records := s.records ++ visitEntries s.accessLevel v duration s.requestId }

end UploadRelay.Log
