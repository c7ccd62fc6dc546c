import UploadRelay.Proofs.Caller.Failing
import UploadRelay.Proofs.Json.Standard
import UploadRelay.Proofs.Rpc.Request
import UploadRelay.Proofs.Service.Publishing
import UploadRelay.Proofs.Upload.Faults
-- What the body of an answer says: a response, a fault in words of the bridge, or an error object
-- of the backend. Only in the last one a number can stand that is not finite.

namespace UploadRelay.Service

open Work Backend

variable {N : Type} [Seconds N]

-- What goes wrong at the site comes from outside of the bridge, and what is read from a reply may
-- be remembered.
structure Outer (terms : Terms N) : Prop where
  trouble : Upload.OuterTrouble terms.trouble
  turns : ∀ turn fault, terms.turns turn → turn.outcome = .fails fault → fault.Uncoded
  kept : ∀ m reply response, Received terms m reply → Caller.readReply reply = .ok response → response.error = none →
    terms.responses response

omit [Seconds N] in
theorem outer_of {s : Site N} {responses : Rpc.Response → Prop} (trouble : Upload.OuterTrouble s.trouble)
    (turns : ∀ turn ∈ s.turns, ∀ fault, turn.outcome = .fails fault → fault.Uncoded)
    (kept : ∀ reply response, Caller.readReply reply = .ok response → response.error = none → responses response) :
    Outer (.of s responses) where
  trouble := trouble
  turns := by
    intro turn fault takes fails
    rcases List.mem_cons.mp takes with usual | given
    · rw [usual] at fails
      cases fails
    · exact turns turn given fault fails
  kept := fun _ reply response _ => kept reply response

structure IsId (id : Json) : Prop where
  fits : Json.Fits Rpc.Request.innerLimit id
  finite : Json.AllFinite id

inductive Told (terms : Terms N) : Json → Prop where
  | response {response : Rpc.Response} (kind : terms.responses response)
      (writable : Json.firstFault (.obj response.wire) = none) : Told terms (.obj response.wire)
  | fault {fault : Fault} {id : Json} (coded : fault.Coded) (isId : IsId id) : Told terms (fault.reply id)
  | failure {m : Message} {reply : Reply} {response : Rpc.Response} {error : Members} {id : Json}
      (received : Received terms m reply) (read : Caller.readReply reply = .ok response)
      (failed : response.error = some error) (isId : IsId id) :
      Told terms ((Fault.ofErrorObject error (some response)).reply id)

def Tells (terms : Terms N) (body : List UInt8) : Prop := ∃ v, body = Json.writtenBytes v ∧ Told terms v

theorem isId_null : IsId .null := ⟨.null _, .null⟩

theorem idOf_finite {members : Members} {id : Json} (taken : Rpc.Request.idOf members = .ok id) : Json.AllFinite id := by
  unfold Rpc.Request.idOf at taken
  split at taken
  · cases taken
    exact .null
  · cases taken
    exact .bool _
  · cases taken
    exact .int _
  · cases taken
    exact .str _
  · cases taken

theorem ofDocument_finite {document : Except Json.Fault Json} {request : Rpc.Request}
    (parsed : Rpc.Request.ofDocument document = .ok request) : Json.AllFinite request.id := by
  cases document with
  | error why => cases parsed
  | ok v =>
    cases v with
    | obj members => exact idOf_finite (Rpc.Request.ofMembers_parts parsed).2.2.1
    | _ => cases parsed

theorem serialize_ok {response : Rpc.Response} {t : Text} (serialized : response.serialize = .ok t) :
    t = (Json.obj response.wire).written ∧ Json.firstFault (.obj response.wire) = none := by
  unfold Rpc.Response.serialize Json.writtenStrict at serialized
  split at serialized
  · cases serialized
  · rename_i writable
    cases serialized
    exact ⟨rfl, writable⟩

variable {terms : Terms N} {E : Fault → Prop}

omit [Seconds N] in
theorem refuse_gives {fault : Fault} {id : Json} (told : Told terms (fault.reply id)) :
    Gives (Steady terms) E (Tells terms) (refuse fault id) :=
  (gives_ends (noteFault_calm fault) Steady.ofCalm (ends_update _)).bind fun _ _ => gives_pure ⟨_, rfl, told⟩

omit [Seconds N] in
theorem callFailed_gives (settings : Settings N) (log : Log.Logger) {request : Rpc.Request} {fault : Fault}
    (told : Told terms (fault.reply request.id)) :
    Gives (Steady terms) E (Tells terms) (callFailed settings log request fault) :=
  (gives_ends (Reporter.report_calm _ _ _) Steady.ofCalm (Reporter.report_ends _ _ _)).bind fun _ _ =>
    (gives_ends (logTo_calm _ _ _ _) Steady.ofCalm (ends_update _)).bind fun _ _ => refuse_gives told

omit [Seconds N] in
theorem writingFailed_gives (settings : Settings N) (log : Log.Logger) {request : Rpc.Request} {fault : Fault}
    (told : Told terms (fault.reply request.id)) :
    Gives (Steady terms) E (Tells terms) (writingFailed settings log request fault) :=
  (gives_ends (Reporter.report_calm _ _ _) Steady.ofCalm (Reporter.report_ends _ _ _)).bind fun _ _ =>
    (gives_ends (logTo_calm _ _ _ _) Steady.ofCalm (ends_update _)).bind fun _ _ => refuse_gives told

theorem answer_gives (outer : Outer terms) (settings : Settings N) (log : Log.Logger) {c : Caller N}
    {request next : Rpc.Request} (proceeds : Hook.runAll c.hooks request = .proceed next) (isId : IsId request.id) :
    Gives (Steady terms) (fun _ => True) (Tells terms) (answer settings log c request) := by
  have remembers : Caller.Remembers terms c next := by
    intro response read accepted
    obtain ⟨reply, received, taken⟩ := read
    exact outer.kept _ reply response received taken accepted
  refine (Caller.call_gives proceeds remembers).attempt.bind fun outcome ended => ?_
  cases outcome with
  | error fault =>
    simp only
    split
    · rename_i remote
      apply callFailed_gives
      rcases Caller.CallFault.told_or_coded outer.turns ended remote with coded | ⟨reply, response, error, received, read, failed, same⟩
      · exact .fault coded isId
      · exact same ▸ .failure received read failed isId
    · exact gives_throw trivial
  | ok response =>
    simp only
    split
    · rename_i t serialized
      obtain ⟨rfl, writable⟩ := serialize_ok serialized
      exact gives_pure ⟨_, rfl, .response ended writable⟩
    · exact writingFailed_gives settings log (.fault (Fault.coded_refusal _ _) isId)

omit [Seconds N] in
theorem readEnvelope_gives {outcome : Except Rpc.Request.Rejection Rpc.Request}
    {use : Rpc.Request → Work N (List UInt8)}
    (uses : ∀ request, outcome = .ok request → Gives (Steady terms) (fun _ => True) (Tells terms) (use request)) :
    Gives (Steady terms) (fun _ => True) (Tells terms) (readEnvelope outcome use) := by
  cases outcome with
  | ok request =>
    exact (gives_ends (noteMethod_calm _) Steady.ofCalm (ends_update _)).bind fun _ _ => uses request rfl
  | error rejection =>
    have coded : ∀ {kind message data}, Fault.ofRejection rejection = .refused kind message data →
        Fault.Coded (.refused kind message data) := by
      intro kind message data same
      cases rejection with
      | unreadable why =>
        simp only [Fault.ofRejection] at same
        split at same
        · cases same
          exact Fault.coded_refusal _ _
        · rename_i deep
          cases why <;> cases same
      | _ =>
        cases same
        exact Fault.coded_refusal _ _
    unfold readEnvelope
    simp only
    split
    · rename_i refused
      exact refuse_gives (.fault (coded refused) isId_null)
    · exact gives_throw trivial

theorem callWithFile_gives (outer : Outer terms) (settings : Settings N) (log : Log.Logger) (user : UserId)
    (address : Text) (path : Path) (r : Http.Request) :
    Gives (Steady terms) (fun _ => True) (Tells terms) (callWithFile settings log user address path r) := by
  refine ((Upload.formOf_gives r).widen (fun _ _ => trivial) fun _ => id).bind fun form _ => ?_
  refine readEnvelope_gives fun request parsed => ?_
  apply gives_site_bind
  intro s _
  have built : Gives (N := N) (Steady terms) (fun _ => True) (fun _ => True) (Upload.failIf s.trouble.buildCall) := by
    cases s.trouble.buildCall with
    | none => exact gives_pure trivial
    | some fault => exact gives_throw trivial
  have isId : IsId request.id := ⟨(Rpc.Request.ofText_sound parsed).id, ofDocument_finite parsed⟩
  exact built.bind fun _ _ => answer_gives outer settings log rfl isId

omit [Seconds N] in
theorem identify_gives (visitor : Visitor) :
    Gives (N := N) (Steady terms) E (Ended Fault.Coded fun _ => True) (identify visitor) := by
  have refuses : ∀ {fault}, visitor.principal = .error fault → fault.Coded := by
    intro fault refused
    cases visitor with
    | known principal => cases refused
    | rejected why =>
      simp only [Visitor.principal] at refused
      split at refused <;> cases refused <;> exact Fault.coded_refusal _ _
    | unknown =>
      cases refused
      exact Fault.coded_refusal _ _
  unfold identify
  cases known : visitor.principal with
  | error fault => exact gives_pure (refuses known)
  | ok principal =>
    refine (gives_ends (noteUser_calm principal.id) Steady.ofCalm (ends_update _)).bind fun _ _ => ?_
    unfold Principal.requireAddress
    split
    · rename_i addressed
      split at addressed
      · exact gives_pure trivial
      · cases addressed
    · rename_i missing
      split at missing
      · cases missing
      · cases missing
        exact (gives_ends (log_calm _ _ _ _) Steady.ofCalm (ends_update _)).bind fun _ _ =>
          gives_pure (Fault.coded_refusal _ _)

omit [Seconds N] in
theorem savingFailed_gives (settings : Settings N) (log : Log.Logger) {fault : Fault}
    (kind : fault.Uncoded ∨ fault = Upload.missingFile) :
    Gives (Steady terms) (fun _ => True) (Tells terms) (savingFailed settings log fault) := by
  have coded : ∀ {told}, asUploadFault fault = some told → told.Coded := by
    intro told same
    rcases kind with uncoded | missing
    · cases fault with
      | refused => cases uncoded
      | system =>
        cases same
        exact Fault.coded_refusal _ _
      | _ => cases same
    · subst missing
      cases same
      exact Fault.coded_refusal _ _
  unfold savingFailed
  cases told : asUploadFault fault with
  | none => exact gives_throw trivial
  | some told' =>
    refine (gives_ends (logTo_calm _ _ _ _) Steady.ofCalm (ends_update _)).bind fun _ _ => ?_
    refine (gives_ends (Reporter.report_calm _ _ _) Steady.ofCalm (Reporter.report_ends _ _ _)).bind fun _ _ => ?_
    exact refuse_gives (.fault (coded told) isId_null)

theorem publish_gives (outer : Outer terms) (settings : Settings N) (visitor : Visitor) (r : Http.Request) :
    Gives (Steady terms) (fun _ => True) (Tells terms) (publish settings visitor r) := by
  refine (identify_gives visitor).bind fun found known => ?_
  cases found with
  | error fault => exact refuse_gives (.fault known isId_null)
  | ok found =>
    obtain ⟨principal, address⟩ := found
    apply gives_site_bind
    intro s _
    refine (Upload.save_gives outer.trouble.uncoded _ _ _ r).attempt.bind fun outcome ended => ?_
    cases outcome with
    | error fault => exact savingFailed_gives settings _ ended
    | ok path =>
      have releases : Gives (Steady terms) (fun _ => True) (fun _ => True)
          (release settings (boundLogger principal.id s.requestId) path) :=
        gives_leaves (release_only settings _ path) fun only => Upload.steady_local only.aside
      exact (callWithFile_gives outer settings _ _ _ _ r).thenAlways releases

theorem proxy_gives (outer : Outer terms) (settings : Settings N) (visitor : Visitor) (r : Http.Request) :
    Gives (Steady terms) (fun _ => True) (Tells terms) (proxy settings visitor r) := by
  refine (identify_gives visitor).bind fun found known => ?_
  cases found with
  | error fault => exact refuse_gives (.fault known isId_null)
  | ok found =>
    obtain ⟨principal, address⟩ := found
    apply gives_site_bind
    intro s _
    split
    · exact refuse_gives (.fault (Fault.coded_refusal _ _) isId_null)
    · refine readEnvelope_gives fun request parsed => ?_
      exact answer_gives outer settings _ rfl ⟨(Rpc.Request.ofBytes_sound parsed).id, ofDocument_finite parsed⟩

-- Whatever happens to a request, what the body of its answer says is of one of these kinds.
theorem handle_tells (outer : Outer terms) (settings : Settings N) (route : Route) (visitor : Visitor)
    (r : Http.Request) : Gives (Steady terms) (fun _ => False) (Tells terms) (handle settings route visitor r) := by
  have processes : Gives (Steady terms) (fun _ => True) (Tells terms) (process settings visitor r route) := by
    cases route with
    | publish => exact publish_gives outer settings visitor r
    | proxy => exact proxy_gives outer settings visitor r
  have unexpectedly : ∀ fault, Gives (Steady terms) (fun _ => False) (Tells terms) (unexpectedFault settings route fault) := by
    intro fault
    apply gives_site_bind
    intro s _
    refine (gives_ends (logRaised_calm _ _ _ _ _) Steady.ofCalm (ends_update _)).bind fun _ _ => ?_
    refine (gives_ends (Reporter.report_calm _ _ _) Steady.ofCalm (Reporter.report_ends _ _ _)).bind fun _ _ => ?_
    refine (gives_ends (noteFault_calm fault) Steady.ofCalm (ends_update _)).bind fun _ _ => ?_
    exact gives_pure ⟨_, rfl, .fault (Fault.coded_refusal _ _) isId_null⟩
  have recorded : ∀ body, Tells terms body → Gives (N := N) (Steady terms) (fun _ => False) (Tells terms) (do
      recordVisit route r
      return body) := by
    intro body tells
    have ends : Ends (N := N) (recordVisit route r) := Ends.bind ends_site fun _ => ends_update _
    exact (gives_ends (recordVisit_calm route r) Steady.ofCalm ends).bind fun _ _ => gives_pure tells
  refine Upload.aside_gives (fun _ => ⟨rfl, rfl, rfl, rfl, rfl, rfl, rfl, rfl⟩) ?_
  refine processes.attempt.bind fun outcome ended => ?_
  cases outcome with
  | ok body => exact recorded body ended
  | error fault => exact (unexpectedly fault).bind recorded

end UploadRelay.Service
