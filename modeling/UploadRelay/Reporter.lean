import UploadRelay.Site.Basic
-- Reporting faults to an error tracker. Reports are observations only: whatever goes wrong
-- while one is made ends in a log record.

namespace UploadRelay

variable {N : Type}

namespace Reporter

structure Settings where
  isEnabled : Bool := true
  recordsContext : Bool := true
  tags : List (Text × Text) := []
  -- Classes of faults that are not reported, with the classes below them.
  ignored : List Text := []
  contextName : Text := "upload_bridge"

end Reporter

inductive Reporter where
  | silent
  | recording
  | tracker (settings : Reporter.Settings)

namespace Reporter

def logger : Text := "upload_bridge.sentry"

def putText (name value : Text) : List (Text × Text) → List (Text × Text)
  | [] => [(name, value)]
  | e :: rest => if e.1 = name then (name, value) :: rest else e :: putText name value rest

def context (extra : Option (List (Text × Text))) (requestId : Text) : List (Text × Text) :=
  let given := extra.getD []
  if requestId.isEmpty then given else putText "request_id" requestId given

def step (which : TrackerStep) (call : TrackerCall) : Work N Unit := do
  Work.update fun s => { s with trackerCalls := s.trackerCalls ++ [call] }
  let s ← Work.site
  match s.trouble.tracker which with
  | some fault => throw fault
  | none => return ()

def tagAll : List (Text × Text) → Work N Unit
  | [] => return ()
  | t :: rest => do
    step .tag (.tag t.1 t.2)
    tagAll rest

def inScope (settings : Settings) (fault : Fault) (extra : Option (List (Text × Text))) : Work N Unit := do
  if settings.recordsContext then
    let s ← Work.site
    step .context (.context settings.contextName (context extra s.requestId))
  tagAll settings.tags
  step .capture (.captured fault.label fault.message)

def event (settings : Settings) (fault : Fault) (extra : Option (List (Text × Text))) : Work N Unit := do
  step .opening .opened
  Work.thenAlways (inScope settings fault extra) (step .closing .closed)

def isIgnored (settings : Settings) (fault : Fault) : Bool :=
  !settings.isEnabled || settings.ignored.any fault.isA

def report (reporter : Reporter) (fault : Fault) (extra : Option (List (Text × Text))) : Work N Unit := do
  match reporter with
  | .silent => return ()
  | .recording => Work.update fun s => { s with reports := s.reports ++ [⟨fault, extra⟩] }
  | .tracker settings =>
    if isIgnored settings fault then return ()
    else
      match ← Work.attempt (event settings fault extra) with
      | .ok _ => return ()
      | .error failure => Work.logRaised logger .warning "Failed to report error to Sentry" [] failure

end Reporter

end UploadRelay
