import UploadRelay.Proofs.Caller.Twins
import UploadRelay.Proofs.Rpc.Forwarding
import UploadRelay.Proofs.Rpc.Relaying
import UploadRelay.Proofs.Service.Replies
-- Error objects of a backend on their way to the client. Whatever stands in one, the client is told a
-- code, a message and no more than its data; a truth value for a code is told as it is.

namespace UploadRelay

open Json

inductive IsCode : Option Json → Json → Prop where
  | int (n : Int) : IsCode (some (.int n)) (.int n)
  | bool (b : Bool) : IsCode (some (.bool b)) (.bool b)
  | other {given : Option Json} (notInt : ∀ n, given ≠ some (.int n)) (notBool : ∀ b, given ≠ some (.bool b)) :
      IsCode given (.int Refusal.remoteCode)

inductive IsMessage : Option Json → Text → Prop where
  | absent : IsMessage none []
  | text (t : Text) : IsMessage (some (.str t)) t
  | other {v : Json} (notText : ∀ t, v ≠ .str t) : IsMessage (some v) v.shown

-- What the client is told of an error object: nothing but these members, in this order.
inductive TellsObject (error : Members) : Members → Prop where
  | intro {code : Json} {message : Text} {details : Members} (coded : IsCode (Members.get? error "code") code)
      (said : IsMessage (Members.get? error "message") message)
      (detailed : Fault.Details (Members.getD error "data" .null) details) :
      TellsObject error (("code", code) :: ("message", .str message) :: details)

namespace Fault

variable {error : Members}

theorem code_errorObject (error : Members) (response : Option Rpc.Response) :
    ∃ code, (ofErrorObject error response).code? = some code ∧ IsCode (Members.get? error "code") code := by
  refine ⟨_, rfl, ?_⟩
  split
  · rename_i found
    exact found ▸ .int _
  · rename_i found
    exact found ▸ .bool _
  · rename_i notInt notBool
    exact .other notInt notBool

theorem message_errorObject (error : Members) (response : Option Rpc.Response) :
    IsMessage (Members.get? error "message") (ofErrorObject error response).message := by
  show IsMessage _ (Members.getD error "message" (.str [])).shown
  unfold Members.getD
  cases Members.get? error "message" with
  | none => exact .absent
  | some v =>
    cases v with
    | str t => exact .text t
    | _ => exact .other fun _ => Json.noConfusion

theorem reply_errorObject (error : Members) (response : Option Rpc.Response) (id : Json) :
    ∃ told answered, TellsObject error told ∧ Bears id answered ∧
      (ofErrorObject error response).reply id =
        .obj [("jsonrpc", .str Rpc.version), ("error", .obj told), ("id", answered)] := by
  obtain ⟨code, coded, isCode⟩ := code_errorObject error response
  obtain ⟨details, answered, detailed, bears, same⟩ := reply_coded coded id
  exact ⟨_, answered, .intro isCode (message_errorObject error response) detailed, bears, same⟩

end Fault

theorem IsCode.stable {given : Option Json} {code : Json} (isCode : IsCode given code) : Stable code := by
  cases isCode with
  | int n => exact stable_int n
  | bool b => exact ⟨.bool b, .bool b⟩
  | other => exact stable_int _

theorem IsMessage.unpaired {given : Option Json} {message : Text} (isMessage : IsMessage given message)
    (stable : ∀ v ∈ given, Stable v) : Unpaired message := by
  cases isMessage with
  | absent => decide
  | text t => exact (stable _ rfl).shown
  | other => exact (stable _ rfl).shown

theorem Fault.Details.stable {data : Json} {details : Members} (detailed : Fault.Details data details) (stable : Stable data) :
    ∀ m ∈ details, Unpaired m.1 ∧ Stable m.2 := by
  cases detailed with
  | none => exact fun m member => (List.not_mem_nil member).elim
  | given => exact List.forall_mem_singleton.mpr ⟨(by decide : Unpaired "data"), stable⟩

theorem Fault.Bears.stable {id answered : Json} (bears : Fault.Bears id answered) (stable : Stable id) : Stable answered := by
  cases bears with
  | none => exact stable_int 0
  | given => exact stable

theorem Fault.Details.distinct {data : Json} {details : Members} (detailed : Fault.Details data details) (code message : Json) :
    Members.Distinct (("code", code) :: ("message", message) :: details) := by
  cases detailed with
  | none => exact (by decide : (["code", "message"] : List Text).Nodup)
  | given => exact (by decide : (["code", "message", "data"] : List Text).Nodup)

theorem TellsObject.stable {error told : Members} (tells : TellsObject error told) (stable : Stable (.obj error)) :
    Stable (.obj told) := by
  have inside : ∀ {name}, ∀ v ∈ Members.get? error name, Stable v := fun v found => stable.member found
  cases tells with
  | @intro code message details coded said detailed =>
    refine .obj (detailed.distinct _ _) (List.forall_mem_cons.mpr ⟨⟨(by decide : Unpaired "code"), coded.stable⟩,
      List.forall_mem_cons.mpr ⟨⟨(by decide : Unpaired "message"), .str (said.unpaired inside)⟩, ?_⟩⟩)
    exact detailed.stable (stable.getD _ stable_null)

theorem reply_stable {told : Members} {answered : Json} (error : Stable (.obj told)) (id : Stable answered) :
    Stable (.obj [("jsonrpc", .str "2.0"), ("error", .obj told), ("id", answered)]) := by
  refine .obj (by decide : (["jsonrpc", "error", "id"] : List Text).Nodup) (List.forall_mem_cons.mpr ⟨?_, ?_⟩)
  · exact ⟨(by decide : Unpaired "jsonrpc"), .str (by decide)⟩
  · refine List.forall_mem_cons.mpr ⟨?_, List.forall_mem_singleton.mpr ?_⟩
    · exact ⟨(by decide : Unpaired "error"), error⟩
    · exact ⟨(by decide : Unpaired "id"), id⟩

namespace Caller

open Work Backend Rpc.Request

variable {N : Type} [Seconds N] {c : Caller N} {request next : Rpc.Request} {s : Site N} {reply : Reply} {response : Rpc.Response}

def Replied (c : Caller N) (next : Rpc.Request) (s : Site N) (reply : Reply) : Prop :=
  (Backend.send c.policy (c.message s.requestId next) s).1 = .ok reply

theorem send_replied (replied : Replied c next s reply) (read : readReply reply = .ok response) :
    (c.send next s).1 = .ok response := by
  let ties : Ties := ⟨fun _ _ _ _ => True, fun _ _ _ => True, fun _ _ => True, (s.posts, s.posts)⟩
  have twins : ∀ records, Twins ties.loose s { s with records } := fun records =>
    .intro s.tree s.posts s.delays records s.reports s.trackerCalls s.trouble s.access trivial (sentAlike_begun _ _)
      s.trouble.alike_refl trivial trivial
  have same : ∀ records, (Backend.send c.policy (c.message s.requestId next) { s with records }).1 = .ok reply := fun records =>
    (Backend.send_agrees c.policy _ _ _ (twins records)).1.symm.trans replied
  unfold send
  simp only [bind_run, site_run, log, update_run, attempt_run, same, ofExcept_run, read]

theorem dispatch_replied (replied : Replied c next s reply) (read : readReply reply = .ok response) {error : Members}
    (failed : response.error = some error) (cached : Bool) (cache : Option (Rpc.Cache N)) :
    (c.dispatch cached next { s with cache }).1 = .error (.ofErrorObject error (some response)) := by
  have sent : (c.send next { s with cache }).1 = .ok response := by
    rw [send_ignoresCache c next s cache]
    exact send_replied replied read
  unfold dispatch
  rw [bind_run]
  generalize c.send next { s with cache } = ran at sent
  obtain ⟨outcome, s₁⟩ := ran
  cases sent
  simp only [bind_run, ofExcept_run, accepted, failed]

structure Refuses (c : Caller N) (next : Rpc.Request) (s : Site N) (error : Members) : Prop where
  unanswered : ∀ cache, c.cacheFor s next = some cache → (cache.get s.clock (c.key next)).1 = none
  replies : ∃ reply members, Replied c next s reply ∧ reply.status = 200 ∧
    Json.readBytes reply.body = .ok (.obj members) ∧ Members.get? members "error" = some (.obj error)

theorem Refuses.told {error : Members} (refuses : Refuses c next s error) :
    Json.Sound innerLimit (.obj error) ∧
      ∃ reply response, Replied c next s reply ∧ readReply reply = .ok response ∧ response.error = some error := by
  obtain ⟨reply, members, replied, success, decoded, found⟩ := refuses.replies
  refine ⟨member_sound (Json.readBytes_sound decoded) found, ?_⟩
  have parsed : ∃ response, Rpc.Response.ofMembers members = .ok response ∧ response.error = some error := by
    unfold Rpc.Response.ofMembers Rpc.Response.errorMember
    rw [found]
    exact ⟨_, rfl, rfl⟩
  obtain ⟨response, parsed, failed⟩ := parsed
  refine ⟨reply, response, replied, ?_, failed⟩
  rw [readReply, if_neg (not_not.mpr success), decoded]
  simp only [parsed]
  rfl

theorem call_refused (proceeds : Hook.runAll c.hooks request = .proceed next) {error : Members}
    (refuses : Refuses c next s error) :
    ∃ response, (c.call request s).1 = .error (.ofErrorObject error (some response)) := by
  obtain ⟨-, reply, response, replied, read, failed⟩ := refuses.told
  refine ⟨response, ?_⟩
  unfold call
  simp only [proceeds, bind_run, site_run]
  cases used : c.cacheFor s next with
  | none => exact dispatch_replied replied read failed false s.cache
  | some cache =>
    simp only [lookUp, bind_run, site_run, update_run, pure_run, refuses.unanswered cache used]
    exact dispatch_replied replied read failed true _

end Caller

namespace Service

open Work Rpc.Request

variable {N : Type} [Seconds N]

omit [Seconds N] in
theorem callFailed_outcome (settings : Settings N) (log : Log.Logger) (request : Rpc.Request) (fault : Fault) (s : Site N) :
    (callFailed settings log request fault s).1 = .ok (refusalBody fault request.id) := by
  unfold callFailed
  refine Ends.bind_outcome (Reporter.report_ends _ _ _) (fun _ s₁ => ?_) s
  rfl

theorem answer_remote (settings : Settings N) (log : Log.Logger) {c : Caller N} {request : Rpc.Request} {s : Site N} {fault : Fault}
    (failed : (c.call request s).1 = .error fault) (remote : fault.isRemote = true) :
    (answer settings log c request s).1 = .ok (refusalBody fault request.id) := by
  unfold answer
  rw [bind_run, attempt_run, failed]
  simp only [remote, if_true]
  exact callFailed_outcome settings log request fault _

-- The body that answers a failed call is read as what is told of the error object, with the id of the request.
theorem answer_tellsObject (settings : Settings N) (log : Log.Logger) {c : Caller N} {payload : Payload} {request next : Rpc.Request}
    {s : Site N} {error : Members} (parsed : payload.parse = .ok request) (plain : Texts Unpaired request.id)
    (proceeds : Hook.runAll c.hooks request = .proceed next) (refuses : c.Refuses next s error)
    (unpaired : Texts Unpaired (.obj error)) :
    ∃ fault body told answered, (c.call request s).1 = .error fault ∧ fault.label = "RpcError" ∧
      (answer settings log c request s).1 = .ok body ∧
      Json.readBytes body = .ok (.obj [("jsonrpc", .str "2.0"), ("error", .obj told), ("id", answered)]) ∧
      TellsObject error told ∧ Fault.Bears request.id answered := by
  obtain ⟨members, read, envelope⟩ := Payload.parse_ok_iff.mp parsed
  have source : Json.Sound nestingLimit (.obj members) := Payload.document_sound read
  have accepted : ofDocument (.ok (.obj members)) = .ok request := ofDocument_ok_iff.mpr ⟨members, rfl, envelope⟩
  have idStable : Stable request.id := ⟨envelope.id.decoded, plain⟩
  have idFits : Fits innerLimit request.id := (ofMembers_sound source accepted).id
  have sound : Json.Sound innerLimit (.obj error) := refuses.told.1
  obtain ⟨response, failed⟩ := Caller.call_refused proceeds refuses
  obtain ⟨⟨code, coded, short⟩, data⟩ := errorObject_fits sound.1 (some response)
  obtain ⟨told, answered, tells, bears, shape⟩ := Fault.reply_errorObject error (some response) request.id
  have fits := reply_fits coded short data idFits
  have stable : Stable ((Fault.ofErrorObject error (some response)).reply request.id) := by
    rw [shape]
    exact reply_stable (tells.stable ⟨sound.2, unpaired⟩) (bears.stable idStable)
  have body : Json.readBytes (refusalBody (.ofErrorObject error (some response)) request.id) =
      .ok ((Fault.ofErrorObject error (some response)).reply request.id) := stable.readBytes fits
  exact ⟨_, _, told, answered, failed, rfl, answer_remote settings log failed rfl, body.trans (congrArg Except.ok shape), tells, bears⟩

def refusingSite (error : Members) : Site Num :=
  { Site.new .empty (.int 0) 0 (fun _ => "k3") with
    turns := [⟨false, .reply ⟨200, writtenBytes (.obj [("error", .obj error)]), []⟩⟩] }

def refusedCaller : Caller Num := ⟨"http://backend:5279/", .number 7, [], none, true⟩

theorem refusingSite_refuses {error : Members} (fits : Fits innerLimit (.obj error)) (stable : Stable (.obj error))
    (next : Rpc.Request) : refusedCaller.Refuses next (refusingSite error) error := by
  have whole : Stable (.obj [("error", .obj error)]) :=
    .obj (by decide : (["error"] : List Text).Nodup) (List.forall_mem_singleton.mpr ⟨(by decide : Unpaired "error"), stable⟩)
  have read : Json.readBytes (writtenBytes (.obj [("error", .obj error)])) = .ok (.obj [("error", .obj error)]) := by
    have fits : Fits (innerLimit + 1) (.obj [("error", .obj error)]) := .obj (List.forall_mem_singleton.mpr fits)
    exact whole.readBytes fits
  have named : (Backend.addressed ⟨refusedCaller.endpoint, [], none⟩).toOption.any Backend.namesPlace = true := by decide +kernel
  obtain ⟨address, goes, placed⟩ := Backend.goes_of_named named
  have addressed : Backend.addressed (refusedCaller.message (refusingSite error).requestId next) = .ok address := goes
  have received : Backend.receive address ⟨200, writtenBytes (.obj [("error", .obj error)]), []⟩ =
      .ok ⟨200, writtenBytes (.obj [("error", .obj error)]), []⟩ := Backend.receive_plain.mpr ⟨placed, rfl⟩
  have replied : Caller.Replied refusedCaller next (refusingSite error) ⟨200, writtenBytes (.obj [("error", .obj error)]), []⟩ := by
    show (Backend.post _ _).1 = _
    have turn : (refusingSite error).turns.headD Backend.defaultTurn =
      ⟨false, .reply ⟨200, writtenBytes (.obj [("error", .obj error)]), []⟩⟩ := rfl
    simp only [Backend.post, bind_run, ofExcept_run, addressed, site_run, Backend.turn, turn, update_run, pure_run, received]
  exact ⟨fun cache used => absurd used.symm (Option.some_ne_none cache), _, ([("error", .obj error)] : Members), replied, rfl, read, rfl⟩

def refusedSettings : Settings Num := ⟨⟨Path.ofText "/srv/uploads"⟩, none, .silent⟩

def refusedEnvelope : Text := "\x7b\"method\": \"status\", \"id\": null\x7d"

def oddError : Members := [("message", .arr [.int 3, .str "ms"]), ("data", .null)]

theorem oddError_told :
    ∃ request, (Payload.text refusedEnvelope).parse = .ok request ∧ Texts Unpaired request.id ∧
      Hook.runAll refusedCaller.hooks request = .proceed request ∧ refusedCaller.Refuses request (refusingSite oddError) oddError ∧
      Texts Unpaired (.obj oddError) ∧
      ∃ fault body told answered, (refusedCaller.call request (refusingSite oddError)).1 = .error fault ∧ fault.label = "RpcError" ∧
        (answer refusedSettings ⟨"relay", []⟩ refusedCaller request (refusingSite oddError)).1 = .ok body ∧
        Json.readBytes body = .ok (.obj [("jsonrpc", .str "2.0"), ("error", .obj told), ("id", answered)]) ∧
        TellsObject oddError told ∧ Fault.Bears request.id answered := by
  have unpaired : Texts Unpaired (.obj oddError) := by decide
  have message : Json.Sound (897 + 1) (.arr [.int 3, .str "ms"]) :=
    sound_arr (List.forall_mem_cons.mpr ⟨⟨.int 897 (by decide), .int 3⟩, List.forall_mem_singleton.mpr ⟨.str 897 "ms", .str "ms"⟩⟩)
  have each : ∀ m ∈ oddError, Json.Sound (897 + 1) m.2 :=
    List.forall_mem_cons.mpr ⟨message, List.forall_mem_singleton.mpr ⟨.null _, .null⟩⟩
  have fits : Fits innerLimit (.obj oddError) := .obj fun m member => (each m member).1
  have decoded : Decoded (.obj oddError) :=
    .obj (by decide : (["message", "data"] : List Text).Nodup) fun m member => (each m member).2
  have parses : (Payload.text refusedEnvelope).parse.toOption.any (fun request => decide (Texts Unpaired request.id)) = true := by
    decide +kernel
  cases parsed : (Payload.text refusedEnvelope).parse with
  | error fault =>
    rw [parsed] at parses
    cases parses
  | ok request =>
    rw [parsed] at parses
    have plain : Texts Unpaired request.id := of_decide_eq_true parses
    have refuses := refusingSite_refuses fits ⟨decoded, unpaired⟩ request
    exact ⟨request, rfl, plain, rfl, refuses, unpaired,
      answer_tellsObject refusedSettings ⟨"relay", []⟩ parsed plain rfl refuses unpaired⟩

def truthError : Members := [("code", .bool true), ("message", .str "m")]

def truthReply : Json := .obj [("jsonrpc", .str "2.0"), ("error", .obj truthError), ("id", .int 1)]

theorem truthError_told :
    (answer refusedSettings ⟨"relay", []⟩ refusedCaller ⟨"status", none, .int 1, "2.0"⟩ (refusingSite truthError)).1.toOption =
        some (writtenBytes truthReply) ∧
      Json.readBytes (writtenBytes truthReply) = .ok truthReply ∧
      ¬ ∀ told, truthReply = .obj [("jsonrpc", .str "2.0"), ("error", .obj told), ("id", .int 1)] →
        Members.get? told "code" = some (.int Refusal.remoteCode) := by
  have error : Fits (898 + 1) (.obj truthError) :=
    .obj (List.forall_mem_cons.mpr ⟨.bool 898 true, List.forall_mem_singleton.mpr (.str 898 "m")⟩)
  have fits : Fits (899 + 1) truthReply :=
    .obj (List.forall_mem_cons.mpr ⟨.str 899 "2.0", List.forall_mem_cons.mpr ⟨error,
      List.forall_mem_singleton.mpr (.int 899 (by decide : (Text.ofNat (1 : Int).natAbs).length ≤ digitLimit))⟩⟩)
  have message : Stable (.str "m") := .str (by decide)
  have stable : Stable (.obj truthError) :=
    .obj (by decide : (["code", "message"] : List Text).Nodup) (List.forall_mem_cons.mpr
      ⟨⟨(by decide : Unpaired "code"), .bool true, .bool true⟩, List.forall_mem_singleton.mpr ⟨(by decide : Unpaired "message"), message⟩⟩)
  refine ⟨by decide +kernel, ?_, fun agrees => ?_⟩
  · exact (reply_stable stable (stable_int 1)).readBytes fits
  · cases agrees truthError rfl

end Service

end UploadRelay
