import UploadRelay.Proofs.Service.Accounts
import UploadRelay.Proofs.Service.Replies
-- The access record of a request tells the truth: whether the body holds a result or an error, whose request it
-- was, and which method it asked for.

namespace UploadRelay

open Work Backend

variable {N : Type}

structure NamesFaults (s : Site N) : Prop where
  create : ∀ fault, s.trouble.create = some fault → fault.label ≠ []
  copy : ∀ n written fault, s.trouble.copy n = some (written, fault) → fault.label ≠ []
  seek : ∀ fault, s.trouble.seek = some fault → fault.label ≠ []
  close : ∀ fault, s.trouble.close = some fault → fault.label ≠ []
  remove : ∀ fault, s.trouble.remove = some fault → fault.label ≠ []
  buildCall : ∀ fault, s.trouble.buildCall = some fault → fault.label ≠ []
  turns : ∀ turn ∈ s.turns, ∀ fault, turn.outcome = .fails fault → fault.label ≠ []

theorem NamesFaults.kinds {s : Site N} (names : NamesFaults s) : Upload.FaultsOf s.trouble fun fault => fault.label ≠ [] :=
  ⟨fun _ own => own.named, names.create, names.copy, names.seek, names.close⟩

theorem NamesFaults.turn {s : Site N} (names : NamesFaults s) {responses : Rpc.Response → Prop} (turn : Turn) (fault : Fault)
    (takes : (Terms.of s responses).turns turn) (fails : turn.outcome = .fails fault) : fault.label ≠ [] := by
  rcases List.mem_cons.mp takes with usual | given
  · rw [usual] at fails
    cases fails
  · exact names.turns turn given fault fails

theorem namesFaults_untroubled {s : Site N} (untroubled : s.trouble = {}) (idle : s.turns = []) : NamesFaults s := by
  constructor
  case turns =>
    intro turn member
    rw [idle] at member
    cases member
  all_goals
    rw [untroubled]
    simp

namespace Service

structure Complaint.Sound (c : Complaint) : Prop where
  code : Json.Fits detailLimit c.code
  data : Json.Fits detailLimit c.data
  id : ∃ id, c.id = answeredId id ∧ Json.Fits Rpc.Request.innerLimit id

theorem Complaint.Sound.tells {c : Complaint} (sound : c.Sound) : TellsFailure c.body := by
  obtain ⟨id, answered, fits⟩ := sound.id
  have body : refusalBody (.remote c.message c.code c.data none) id = c.body := by
    rw [refusalBody_coded rfl id, ← answered]
    rfl
  have told : TellsFailure (refusalBody (.remote c.message c.code c.data none) id) :=
    reply_tellsFailure rfl sound.code sound.data fits
  exact body ▸ told

def Verdict.Sound : Verdict → Prop
  | .told complaint => complaint.Sound
  | .unexpected _ => True

theorem sound_plain {code : Int} (short : (Text.ofNat code.natAbs).length ≤ Json.digitLimit) (message : Text) {id : Json}
    (fits : Json.Fits Rpc.Request.innerLimit id) : Complaint.Sound ⟨.int code, message, .null, answeredId id⟩ :=
  ⟨.int _ short, .null _, id, rfl, fits⟩

theorem Verdict.Sound.tells {verdict : Verdict} (sound : verdict.Sound) : TellsFailure verdict.body := by
  cases verdict with
  | told complaint => exact Complaint.Sound.tells sound
  | unexpected fault => exact (sound_plain (by decide) _ (.null _) : internalComplaint.Sound).tells

theorem savingVerdict_sound {fault : Fault} (kind : fault.Uncoded ∨ fault = Upload.missingFile) : (savingVerdict fault).Sound := by
  rcases kind with uncoded | rfl
  · cases fault with
    | refused => cases uncoded
    | system => exact sound_plain (by decide) _ (.null _)
    | _ => trivial
  · exact sound_plain (by decide) _ (.null _)

theorem envelopeVerdict_sound (rejection : Rpc.Request.Rejection) : (envelopeVerdict rejection).Sound := by
  cases rejection with
  | unreadable why =>
    cases why with
    | tooDeep => trivial
    | _ => exact sound_plain (by decide) _ (.null _)
  | _ => exact sound_plain (by decide) _ (.null _)

def HoldsError (body : List UInt8) : Prop :=
  ∃ members error, Json.readBytes body = .ok (.obj members) ∧ Members.get? members "error" = some error

theorem TellsFailure.holds {body : List UInt8} (told : TellsFailure body) : HoldsError body := by
  obtain ⟨members, read, -, error, found⟩ := told
  exact ⟨members, _, read, found⟩

theorem TellsResult.holdsNone {body : List UInt8} (told : TellsResult body) : ¬ HoldsError body := by
  rintro ⟨others, error, again, found⟩
  obtain ⟨members, read, -, none⟩ := told
  cases read.symm.trans again
  cases none.symm.trans found

theorem visitEntries_listening {level : Int} (listening : level ≤ Log.Level.info.number) (v : Log.Visit) (id : Text) :
    visits (Log.visitEntries level v none id) = [Log.visitEntry v [] id] := by
  have heard : ¬ Log.Level.info.number < level := Int.not_lt.mpr listening
  unfold Log.visitEntries
  rw [if_neg heard]
  rfl

theorem status_apart : some (Json.str "error") ≠ some (Json.str "ok") := fun same =>
  (by decide : Text.ofString "error" ≠ Text.ofString "ok") (Json.str.inj (Option.some.inj same))

theorem visitEntry_fields (route : Route) (r : Http.Request) (access : Access) (id : Text) :
    Members.get? (Log.visitEntry (visitOf route r access) [] id).extra "status" =
      some (.str (if access.errorType.isSome then "error" else "ok")) ∧
    Members.get? (Log.visitEntry (visitOf route r access) [] id).extra "error_type" =
      some (.str (access.errorType.getD [])) ∧
    Members.get? (Log.visitEntry (visitOf route r access) [] id).extra "method" = some (.str access.method) ∧
    Members.get? (Log.visitEntry (visitOf route r access) [] id).extra "user_id" = some (match access.user with
      | some user => user.json
      | none => .str []) := by
  obtain ⟨user, method, errorType⟩ := access
  refine ⟨rfl, rfl, rfl, ?_⟩
  cases user with
  | none => rfl
  | some user => cases user <;> rfl

variable [Seconds N] {settings : Settings N} {visitor : Visitor} {r : Http.Request} {s : Site N} {route : Route}

section Calls

variable {caller : Caller N} {request : Rpc.Request} {s' : Site N} (calls : Calls settings visitor r s route caller request s')

include calls

omit [Seconds N] in
theorem Calls.aside : Local s s' := by
  cases calls with
  | @publish principal _ _ _ _ _ _ _ saved _ =>
    have run := Upload.save_run settings.store principal.id (boundLogger principal.id s.requestId) r s
    unfold savingOf at saved
    rw [saved] at run
    obtain ⟨_, _, _, _, _, stored⟩ := run
    exact stored.aside
  | proxy => exact local_frame.refl s

omit [Seconds N] in
theorem Calls.proceeds : ∃ next, Hook.runAll caller.hooks request = .proceed next := by
  cases calls with
  | publish => exact ⟨_, rfl⟩
  | proxy => exact ⟨_, rfl⟩

omit [Seconds N] in
theorem Calls.isId : IsId request.id := by
  cases calls with
  | publish _ _ _ _ parsed => exact ⟨(Rpc.Request.ofText_sound parsed).id, ofDocument_finite parsed⟩
  | proxy _ _ _ _ parsed => exact ⟨(Rpc.Request.ofBytes_sound parsed).id, ofDocument_finite parsed⟩

theorem Calls.ends {responses : Rpc.Response → Prop} (steady : Steady (.of s responses) s)
    (kept : ∀ reply response, Caller.readReply reply = .ok response → response.error = none → responses response) :
    ∃ next, Ended (Caller.CallFault (.of s responses) caller next) responses (caller.call request s').1 := by
  obtain ⟨next, proceeds⟩ := calls.proceeds
  have remembers : Caller.Remembers (.of s responses) caller next := by
    rintro response ⟨reply, -, read⟩ accepted
    exact kept reply response read accepted
  exact ⟨next, (Caller.call_gives proceeds remembers s' (Upload.steady_local calls.aside steady)).2⟩

end Calls

theorem callVerdict_sound {terms : Terms N} {caller : Caller N} {next : Rpc.Request} {fault : Fault}
    (turns : ∀ turn fault, terms.turns turn → turn.outcome = .fails fault → fault.Uncoded)
    (failed : Caller.CallFault terms caller next fault) {id : Json} (isId : IsId id) : (callVerdict fault id).Sound := by
  have told : ∀ message code data response, fault = .remote message code data response →
      Complaint.Sound ⟨code, message, data, answeredId id⟩ := by
    rintro message code data response rfl
    rcases Caller.CallFault.told_or_coded turns failed rfl with coded | ⟨_, response, error, -, read, had, same⟩
    · obtain ⟨⟨n, whole, short⟩, none⟩ := coded
      cases whole
      cases none
      exact sound_plain short message isId.fits
    · obtain ⟨⟨given, coded, short⟩, fits⟩ := errorObject_fits ((Caller.readReply_sound read).error error had) (some response)
      rw [← same] at coded fits
      cases coded
      exact ⟨short, fits, id, rfl, isId.fits⟩
  cases fault with
  | remote message code data response => exact told message code data response rfl
  | exhausted => exact sound_plain (by decide) _ isId.fits
  | _ => trivial

theorem Fails.tells (sane : Sane s) {stage : Stage} {verdict : Verdict}
    (fails : Fails settings visitor r s route stage verdict) : TellsFailure verdict.body := by
  have kept : ∀ reply response, Caller.readReply reply = .ok response → response.error = none → Kept response :=
    fun _ _ read accepted => ⟨Caller.readReply_sound read, accepted⟩
  suffices sound : verdict.Sound from sound.tells
  cases fails with
  | @unsaved principal fault _ failed =>
    have ended := (Upload.save_gives sane.outer.trouble.uncoded settings.store principal.id
      (boundLogger principal.id s.requestId) r s sane.steady).2
    unfold savingOf at failed
    rw [failed] at ended
    exact savingVerdict_sound ended
  | unparsed => exact envelopeVerdict_sound _
  | unbuilt => trivial
  | uncalled calls failed =>
    obtain ⟨next, ended⟩ := calls.ends sane.steady kept
    rw [failed] at ended
    exact callVerdict_sound sane.outer.turns ended calls.isId
  | unwritten calls => exact sound_plain (by decide) _ calls.isId.fits
  | _ => exact sound_plain (by decide) _ (.null _)

theorem Calls.tells (sane : Sane s) {caller : Caller N} {request : Rpc.Request} {s' : Site N} {response : Rpc.Response}
    {t : Text} (calls : Calls settings visitor r s route caller request s')
    (answered : (caller.call request s').1 = .ok response) (written : response.serialize = .ok t) :
    TellsResult (Utf8.encode t) := by
  obtain ⟨next, ended⟩ := calls.ends sane.steady fun _ _ read accepted => ⟨Caller.readReply_sound read, accepted⟩
  rw [answered] at ended
  obtain ⟨rfl, -⟩ := serialize_ok written
  exact wire_tellsResult ended

theorem savingVerdict_unexpected {fault thrown : Fault} (same : savingVerdict fault = .unexpected thrown) : thrown = fault := by
  cases fault with
  | refused kind => cases kind <;> cases same <;> rfl
  | _ => cases same <;> rfl

theorem envelopeVerdict_unexpected {rejection : Rpc.Request.Rejection} {thrown : Fault}
    (same : envelopeVerdict rejection = .unexpected thrown) : ∃ why, thrown = .ofJson why := by
  cases rejection with
  | unreadable why =>
    cases why with
    | tooDeep inObject =>
      cases same
      exact ⟨_, rfl⟩
    | _ => cases same
  | _ => cases same

theorem callVerdict_unexpected {fault thrown : Fault} {id : Json} (same : callVerdict fault id = .unexpected thrown) :
    thrown = fault ∧ fault.isRemote = false := by
  cases fault <;> cases same <;> exact ⟨rfl, rfl⟩

theorem Fails.named (names : NamesFaults s) {stage : Stage} {fault : Fault}
    (fails : Fails settings visitor r s route stage (.unexpected fault)) : fault.label ≠ [] := by
  have steady : Steady (.of s fun _ => True) s := steady_of fun _ _ _ _ => trivial
  generalize same : Verdict.unexpected fault = verdict at fails
  cases fails with
  | @unsaved principal thrown _ failed =>
    cases savingVerdict_unexpected same.symm
    have ended := (Upload.save_gives names.kinds settings.store principal.id
      (boundLogger principal.id s.requestId) r s steady).2
    unfold savingOf at failed
    rw [failed] at ended
    rcases ended with named | rfl
    · exact named
    · exact Fault.label_coded rfl
  | @unparsed _ rejection refused =>
    obtain ⟨why, rfl⟩ := envelopeVerdict_unexpected same.symm
    exact (Fault.own_ofJson why).named
  | unbuilt failed =>
    cases same
    exact names.buildCall _ failed
  | uncalled calls failed =>
    obtain ⟨rfl, remote⟩ := callVerdict_unexpected same.symm
    obtain ⟨next, ended⟩ := calls.ends steady fun _ _ _ _ => trivial
    rw [failed] at ended
    rcases Caller.CallFault.kind (fun _ own => own.named) names.turn ended with told | named
    · cases remote.symm.trans told
    · exact named
  | _ => cases same

theorem Concluded.named (names : NamesFaults s) {body : List UInt8} {label : Text}
    (concluded : Concluded settings visitor r s route body (some label)) : label ≠ [] := by
  cases concluded with
  | @failed stage verdict _ first _ told =>
    cases verdict with
    | told complaint => exact told
    | unexpected fault =>
      cases told
      exact first.fails.named names
  | @undeleted fault upload saved grave => exact names.remove fault (Option.eq_some_of_filter_eq_some grave)

-- How an access record and the body of the answer belong together.
structure TrueVisit (settings : Settings N) (visitor : Visitor) (r : Http.Request) (s : Site N) (route : Route)
    (body : List UInt8) (extra : Members) : Prop where
  ok : Members.get? extra "status" = some (.str "ok") ↔ TellsResult body
  error : Members.get? extra "status" = some (.str "error") ↔ HoldsError body
  errorType : Members.get? extra "error_type" = some (.str []) ↔ Members.get? extra "status" = some (.str "ok")
  called : ∀ caller request s', Calls settings visitor r s route caller request s' →
    Members.get? extra "method" = some (.str request.method)
  uncalled : (∀ caller request s', ¬ Calls settings visitor r s route caller request s') →
    Members.get? extra "method" = some (.str [])
  known : ∀ principal, visitor = .known principal → Members.get? extra "user_id" = some principal.id.json
  unknown : (∀ principal, visitor ≠ .known principal) → Members.get? extra "user_id" = some (.str [])

theorem Concluded.tells (sane : Sane s) {body : List UInt8} {errorType : Option Text}
    (concluded : Concluded settings visitor r s route body errorType) :
    match errorType with
    | some _ => TellsFailure body
    | none => TellsResult body := by
  cases concluded with
  | failed first => exact first.fails.tells sane
  | undeleted => exact (sound_plain (by decide) _ (.null _) : internalComplaint.Sound).tells
  | answered calls answer written => exact calls.tells sane answer written

theorem Concluded.trueVisit (sane : Sane s) (names : NamesFaults s) {body : List UInt8} {method : Text}
    {errorType : Option Text} (concluded : Concluded settings visitor r s route body errorType)
    (named : Named settings visitor r s route method) (id : Text) :
    TrueVisit settings visitor r s route body
      (Log.visitEntry (visitOf route r ⟨visitor.user?, method, errorType⟩) [] id).extra := by
  obtain ⟨status, error, asked, user⟩ := visitEntry_fields route r ⟨visitor.user?, method, errorType⟩ id
  have told := concluded.tells sane
  refine ⟨?_, ?_, ?_, fun caller request s' calls => ?_, fun uncalled => ?_, ?_, fun unknown => ?_⟩
  · rw [status]
    cases errorType with
    | none => exact ⟨fun _ => told, fun _ => rfl⟩
    | some label => exact ⟨fun same => absurd same status_apart, fun result => absurd told.holds result.holdsNone⟩
  · rw [status]
    cases errorType with
    | none => exact ⟨fun same => absurd same.symm status_apart, fun holds => absurd holds told.holdsNone⟩
    | some label => exact ⟨fun _ => told.holds, fun _ => rfl⟩
  · rw [status, error]
    cases errorType with
    | none => exact ⟨fun _ => rfl, fun _ => rfl⟩
    | some label =>
      refine ⟨fun same => ?_, fun same => absurd same status_apart⟩
      cases same
      exact absurd rfl (concluded.named names)
  · rw [asked]
    cases named with
    | called calls' =>
      obtain ⟨-, rfl, -⟩ := calls.unique calls'
      rfl
    | uncalled none => exact absurd calls (none _ _ _)
  · rw [asked]
    cases named with
    | called calls => exact absurd calls (uncalled _ _ _)
    | uncalled => rfl
  · rintro principal rfl
    exact user
  · rw [user]
    cases visitor with
    | known principal => exact absurd rfl (unknown principal)
    | _ => rfl

-- Exactly one access record is written about a request, and it tells the truth.
theorem handle_records_truth (settings : Settings N) (route : Route) (visitor : Visitor) (r : Http.Request) {s : Site N}
    (sane : Sane s) (names : NamesFaults s) (listening : s.accessLevel ≤ Log.Level.info.number) :
    ∃ body s' e, handle settings route visitor r s = (.ok body, s') ∧ visits s'.records = visits s.records ++ [e] ∧
      TrueVisit settings visitor r s route body e.extra := by
  obtain ⟨body, s', method, errorType, run, concluded, handled⟩ := handle_concluded settings route visitor r s
  obtain ⟨id, recorded⟩ := handled.recorded
  rw [visitEntries_listening listening] at recorded
  exact ⟨body, s', _, run, recorded, concluded.trueVisit sane names handled.named id⟩

-- At a new site, a user's plain request is recorded as that user's.
theorem handle_records_samplePost :
    App.sampleSite.accessLevel ≤ Log.Level.info.number ∧
      ∃ body s' e, handle App.sampleApp.settings .proxy (.known ⟨.number 7, some "http://backend:5279/"⟩) App.samplePost
        App.sampleSite = (.ok body, s') ∧
        visits s'.records = [e] ∧ Members.get? e.extra "user_id" = some (.int 7) ∧
        (Members.get? e.extra "status" = some (.str "ok") ↔ TellsResult body) := by
  have listening : App.sampleSite.accessLevel ≤ Log.Level.info.number := by decide
  obtain ⟨body, s', e, run, recorded, truth⟩ := handle_records_truth App.sampleApp.settings .proxy
    (.known ⟨.number 7, some "http://backend:5279/"⟩) App.samplePost (sane_new _ _ _ _)
    (namesFaults_untroubled rfl rfl : NamesFaults App.sampleSite) listening
  exact ⟨listening, body, s', e, run, recorded, truth.known _ rfl, truth.ok⟩

end Service

end UploadRelay
