import UploadRelay.Proofs.Upload.Save
import UploadRelay.Service.Handler
-- The stages of handling a request, what fails at each of them and what the client is then told. A stage is
-- judged by itself, whether or not handling comes as far as that.

namespace UploadRelay

def Upload.formAt {N : Type} (r : Http.Request) (s : Site N) : Upload.Form :=
  s.form.getD (Upload.readForm s.trouble.copy s.copies r).form

namespace Service

-- Where handling can fail, in the order in which that is found out. Of an upload the file is saved; a plain
-- request must not claim to have parts.
inductive Stage where
  | rejected
  | unauthenticated
  | address
  | saving
  | parts
  | envelope
  | building
  | dispatch
  | writing
deriving DecidableEq

def Stage.place : Stage → Nat
  | .rejected => 0
  | .unauthenticated => 1
  | .address => 2
  | .saving => 3
  | .parts => 3
  | .envelope => 4
  | .building => 5
  | .dispatch => 6
  | .writing => 7

structure Complaint where
  code : Json
  message : Text
  data : Json
  id : Json

def Complaint.members (c : Complaint) : Members :=
  match c.data with
  | .null => [("code", c.code), ("message", .str c.message)]
  | data => [("code", c.code), ("message", .str c.message), ("data", data)]

def Complaint.body (c : Complaint) : List UInt8 :=
  Json.writtenBytes (.obj [("jsonrpc", .str "2.0"), ("error", .obj c.members), ("id", c.id)])

def answeredId : Json → Json
  | .null => .int 0
  | id => id

def internalComplaint : Complaint := ⟨.int (-32080), "internal server error", .null, .int 0⟩

inductive Verdict where
  | told (complaint : Complaint)
  | unexpected (fault : Fault)

def Verdict.body : Verdict → List UInt8
  | .told complaint => complaint.body
  | .unexpected _ => internalComplaint.body

def savingVerdict : Fault → Verdict
  | .refused .upload message data => .told ⟨.int (-32080), message, data, .int 0⟩
  | .refused .missingFile message data => .told ⟨.int (-32080), message, data, .int 0⟩
  | .system label details => .told ⟨.int (-32080), (Fault.system label details).message, .null, .int 0⟩
  | fault => .unexpected fault

def envelopeVerdict (rejection : Rpc.Request.Rejection) : Verdict :=
  match rejection with
  | .unreadable (.tooDeep inObject) => .unexpected (.ofJson (.tooDeep inObject))
  | .unreadable _ => .told ⟨.int (-32700), rejection.message, .null, .int 0⟩
  | .paramsNotObject _ => .told ⟨.int (-32602), rejection.message, .null, .int 0⟩
  | _ => .told ⟨.int (-32600), rejection.message, .null, .int 0⟩

def callVerdict (fault : Fault) (id : Json) : Verdict :=
  match fault with
  | .remote message code data _ => .told ⟨code, message, data, answeredId id⟩
  | .exhausted .. => .told ⟨.int (-32603), fault.message, .null, answeredId id⟩
  | _ => .unexpected fault

variable {N : Type} [Seconds N]

def envelopeOf (r : Http.Request) (s : Site N) : Route → Except Rpc.Request.Rejection Rpc.Request
  | .publish => Rpc.Request.ofText ((Upload.formAt r s).value Upload.payloadField)
  | .proxy => Rpc.Request.ofBytes r.body

section Stages

variable (settings : Settings N) (visitor : Visitor) (r : Http.Request) (s : Site N)

def savingOf (principal : Principal) : Except Fault Path × Site N :=
  Upload.save settings.store principal.id (boundLogger principal.id s.requestId) r s

inductive Calls : Route → Caller N → Rpc.Request → Site N → Prop where
  | publish {principal : Principal} {address : Text} {path : Path} {s' : Site N} {request : Rpc.Request}
      (known : visitor = .known principal) (addressed : principal.address = some address) (given : address ≠ [])
      (saved : savingOf settings r s principal = (.ok path, s')) (parsed : envelopeOf r s .publish = .ok request) :
      Calls .publish (callerFor settings address principal.id [Hook.injectFilePath path.text]) request s'
  | proxy {principal : Principal} {address : Text} {request : Rpc.Request}
      (known : visitor = .known principal) (addressed : principal.address = some address) (given : address ≠ [])
      (plain : Upload.isMultipart r = false) (parsed : envelopeOf r s .proxy = .ok request) :
      Calls .proxy (callerFor settings address principal.id []) request s

inductive Fails : Route → Stage → Verdict → Prop where
  | rejected {route : Route} {fault : Fault} (refused : visitor = .rejected fault)
      (denied : fault.isA "PermissionError" = true) :
      Fails route .rejected (.told ⟨.int (-32085), fault.message, .null, .int 0⟩)
  | wrong {route : Route} {fault : Fault} (refused : visitor = .rejected fault)
      (other : fault.isA "PermissionError" = false) :
      Fails route .unauthenticated (.told ⟨.int (-32084), fault.message, .null, .int 0⟩)
  | unknown {route : Route} (unknown : visitor = .unknown) :
      Fails route .unauthenticated (.told ⟨.int (-32084), "authentication required", .null, .int 0⟩)
  | homeless {route : Route} {principal : Principal} (known : visitor = .known principal)
      (homeless : principal.address = none ∨ principal.address = some []) :
      Fails route .address (.told ⟨.int (-32080), "user does not have sdk address assigned", .null, .int 0⟩)
  | unsaved {principal : Principal} {fault : Fault} (known : visitor = .known principal)
      (fails : (savingOf settings r s principal).1 = .error fault) :
      Fails .publish .saving (savingVerdict fault)
  | claimed (claims : Upload.isMultipart r = true) :
      Fails .proxy .parts (.told ⟨.int (-32600),
        "multipart requests must carry a 'file' part and a non-empty 'json_payload' field", .null, .int 0⟩)
  | unparsed {route : Route} {rejection : Rpc.Request.Rejection} (refused : envelopeOf r s route = .error rejection) :
      Fails route .envelope (envelopeVerdict rejection)
  | unbuilt {fault : Fault} (fails : s.trouble.buildCall = some fault) :
      Fails .publish .building (.unexpected fault)
  | uncalled {route : Route} {caller : Caller N} {request : Rpc.Request} {s' : Site N} {fault : Fault}
      (calls : Calls settings visitor r s route caller request s') (fails : (caller.call request s').1 = .error fault) :
      Fails route .dispatch (callVerdict fault request.id)
  | unwritten {route : Route} {caller : Caller N} {request : Rpc.Request} {s' : Site N} {response : Rpc.Response}
      {fault : Rpc.Response.SerializeFault} (calls : Calls settings visitor r s route caller request s')
      (answered : (caller.call request s').1 = .ok response) (fails : response.serialize = .error fault) :
      Fails route .writing (.told ⟨.int (-32080), fault.message, .null, answeredId request.id⟩)

def Past (route : Route) (place : Nat) : Prop :=
  ∀ stage verdict, Fails settings visitor r s route stage verdict → place ≤ stage.place

-- The first stage that fails.
structure First (route : Route) (stage : Stage) (verdict : Verdict) : Prop where
  fails : Fails settings visitor r s route stage verdict
  past : Past settings visitor r s route stage.place

end Stages

variable {settings : Settings N} {visitor : Visitor} {r : Http.Request} {s : Site N} {route : Route}

omit [Seconds N] in
theorem Calls.unique {caller caller' : Caller N} {request request' : Rpc.Request} {s₁ s₂ : Site N}
    (first : Calls settings visitor r s route caller request s₁) (second : Calls settings visitor r s route caller' request' s₂) :
    caller' = caller ∧ request' = request ∧ s₂ = s₁ := by
  cases first with
  | publish known addressed _ saved parsed =>
    cases second with
    | publish known' addressed' _ saved' parsed' =>
      cases known.symm.trans known'
      cases addressed.symm.trans addressed'
      cases saved.symm.trans saved'
      cases parsed.symm.trans parsed'
      exact ⟨rfl, rfl, rfl⟩
  | proxy known addressed _ _ parsed =>
    cases second with
    | proxy known' addressed' _ _ parsed' =>
      cases known.symm.trans known'
      cases addressed.symm.trans addressed'
      cases parsed.symm.trans parsed'
      exact ⟨rfl, rfl, rfl⟩

theorem Fails.unique {stage stage' : Stage} {verdict verdict' : Verdict} (first : Fails settings visitor r s route stage verdict)
    (second : Fails settings visitor r s route stage' verdict') (same : stage.place = stage'.place) : verdict' = verdict := by
  cases first with
  | rejected refused =>
    cases second with
    | rejected refused' =>
      cases refused.symm.trans refused'
      rfl
    | _ => exact absurd same (by decide)
  | wrong refused =>
    cases second with
    | wrong refused' =>
      cases refused.symm.trans refused'
      rfl
    | unknown unknown => cases refused.symm.trans unknown
    | _ => exact absurd same (by decide)
  | unknown unknown =>
    cases second with
    | wrong refused => cases refused.symm.trans unknown
    | unknown => rfl
    | _ => exact absurd same (by decide)
  | homeless =>
    cases second with
    | homeless => rfl
    | _ => exact absurd same (by decide)
  | unsaved known fails =>
    cases second with
    | unsaved known' fails' =>
      cases known.symm.trans known'
      cases fails.symm.trans fails'
      rfl
    | _ => exact absurd same (by decide)
  | claimed =>
    cases second with
    | claimed => rfl
    | _ => exact absurd same (by decide)
  | unparsed refused =>
    cases second with
    | unparsed refused' =>
      cases refused.symm.trans refused'
      rfl
    | _ => exact absurd same (by decide)
  | unbuilt fails =>
    cases second with
    | unbuilt fails' =>
      cases fails.symm.trans fails'
      rfl
    | _ => exact absurd same (by decide)
  | uncalled calls fails =>
    cases second with
    | uncalled calls' fails' =>
      obtain ⟨rfl, rfl, rfl⟩ := calls.unique calls'
      cases fails.symm.trans fails'
      rfl
    | _ => exact absurd same (by decide)
  | unwritten calls answered fails =>
    cases second with
    | unwritten calls' answered' fails' =>
      obtain ⟨rfl, rfl, rfl⟩ := calls.unique calls'
      cases answered.symm.trans answered'
      cases fails.symm.trans fails'
      rfl
    | _ => exact absurd same (by decide)

theorem First.unique {stage stage' : Stage} {verdict verdict' : Verdict} (first : First settings visitor r s route stage verdict)
    (second : First settings visitor r s route stage' verdict') : stage'.place = stage.place ∧ verdict' = verdict := by
  have same : stage.place = stage'.place := Nat.le_antisymm (first.past _ _ second.fails) (second.past _ _ first.fails)
  exact ⟨same.symm, first.fails.unique second.fails same⟩

-- When a stage fails, one of those that fail is the first.
theorem Fails.first {stage : Stage} {verdict : Verdict} (fails : Fails settings visitor r s route stage verdict) :
    ∃ earliest told, First settings visitor r s route earliest told := by
  generalize place : stage.place = n
  induction n using Nat.strongRecOn generalizing stage verdict with
  | ind n ih =>
    by_cases before : ∃ stage' verdict', Fails settings visitor r s route stage' verdict' ∧ stage'.place < n
    · obtain ⟨stage', verdict', fails', earlier⟩ := before
      exact ih stage'.place earlier fails' rfl
    · refine ⟨stage, verdict, fails, fun stage' verdict' fails' => ?_⟩
      rw [place]
      exact Nat.le_of_not_lt fun earlier => before ⟨stage', verdict', fails', earlier⟩

theorem Past.next {place : Nat} (past : Past settings visitor r s route place)
    (none : ∀ stage verdict, Fails settings visitor r s route stage verdict → stage.place ≠ place) :
    Past settings visitor r s route (place + 1) := by
  intro stage verdict fails
  have least := past stage verdict fails
  have other := none stage verdict fails
  omega

theorem First.before {stage : Stage} {verdict : Verdict} (first : First settings visitor r s route stage verdict)
    {place : Nat} (past : Past settings visitor r s route place) : place ≤ stage.place := past _ _ first.fails

theorem past_permitted (permitted : ∀ fault, visitor = .rejected fault → fault.isA "PermissionError" = false) :
    Past settings visitor r s route 1 := by
  intro stage verdict fails
  cases fails with
  | rejected refused denied => cases (permitted _ refused).symm.trans denied
  | _ => decide

theorem past_known {principal : Principal} (known : visitor = .known principal) : Past settings visitor r s route 2 := by
  intro stage verdict fails
  cases fails with
  | rejected refused => cases known.symm.trans refused
  | wrong refused => cases known.symm.trans refused
  | unknown unknown => cases known.symm.trans unknown
  | _ => decide

theorem past_addressed {principal : Principal} {address : Text} (known : visitor = .known principal)
    (addressed : principal.address = some address) (given : address ≠ []) : Past settings visitor r s route 3 := by
  refine (past_known known).next fun stage verdict fails same => ?_
  cases fails with
  | homeless known' homeless =>
    cases known.symm.trans known'
    rcases homeless with none | empty
    · cases addressed.symm.trans none
    · exact given (Option.some.inj (addressed.symm.trans empty))
  | _ => exact absurd same (by decide)

theorem past_saved {principal : Principal} {path : Path} (past : Past settings visitor r s .publish 3)
    (known : visitor = .known principal) (saved : (savingOf settings r s principal).1 = .ok path) :
    Past settings visitor r s .publish 4 := by
  refine past.next fun stage verdict fails same => ?_
  cases fails with
  | unsaved known' fails' =>
    cases known.symm.trans known'
    cases saved.symm.trans fails'
  | _ => exact absurd same (by decide)

theorem past_plain (past : Past settings visitor r s .proxy 3) (plain : Upload.isMultipart r = false) :
    Past settings visitor r s .proxy 4 := by
  refine past.next fun stage verdict fails same => ?_
  cases fails with
  | claimed claims => cases plain.symm.trans claims
  | _ => exact absurd same (by decide)

theorem past_parsed {request : Rpc.Request} (past : Past settings visitor r s route 4)
    (parsed : envelopeOf r s route = .ok request) : Past settings visitor r s route 5 := by
  refine past.next fun stage verdict fails same => ?_
  cases fails with
  | unparsed refused => cases parsed.symm.trans refused
  | _ => exact absurd same (by decide)

-- Whatever comes to a call has got past the stages before it, but for building the call.
theorem Calls.past {caller : Caller N} {request : Rpc.Request} {s' : Site N}
    (calls : Calls settings visitor r s route caller request s') : Past settings visitor r s route 5 := by
  cases calls with
  | publish known addressed given saved parsed =>
    exact past_parsed (past_saved (past_addressed known addressed given) known (congrArg Prod.fst saved)) parsed
  | proxy known addressed given plain parsed =>
    exact past_parsed (past_plain (past_addressed known addressed given) plain) parsed

theorem past_built (past : Past settings visitor r s route 5) (built : route = .proxy ∨ s.trouble.buildCall = none) :
    Past settings visitor r s route 6 := by
  refine past.next fun stage verdict fails same => ?_
  cases fails with
  | unbuilt fails' =>
    rcases built with plain | built
    · cases plain
    · cases built.symm.trans fails'
  | _ => exact absurd same (by decide)

theorem past_called {caller : Caller N} {request : Rpc.Request} {s' : Site N} {response : Rpc.Response}
    (past : Past settings visitor r s route 6) (calls : Calls settings visitor r s route caller request s')
    (answered : (caller.call request s').1 = .ok response) : Past settings visitor r s route 7 := by
  refine past.next fun stage verdict fails same => ?_
  cases fails with
  | uncalled calls' fails' =>
    obtain ⟨rfl, rfl, rfl⟩ := calls.unique calls'
    cases answered.symm.trans fails'
  | _ => exact absurd same (by decide)

theorem past_written {caller : Caller N} {request : Rpc.Request} {s' : Site N} {response : Rpc.Response} {t : Text}
    (past : Past settings visitor r s route 7) (calls : Calls settings visitor r s route caller request s')
    (answered : (caller.call request s').1 = .ok response) (written : response.serialize = .ok t) :
    Past settings visitor r s route 8 := by
  refine past.next fun stage verdict fails same => ?_
  cases fails with
  | unwritten calls' answered' fails' =>
    obtain ⟨rfl, rfl, rfl⟩ := calls.unique calls'
    cases answered.symm.trans answered'
    cases written.symm.trans fails'
  | _ => exact absurd same (by decide)

end Service

end UploadRelay
