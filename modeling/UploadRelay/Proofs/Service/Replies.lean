import UploadRelay.Proofs.Rpc.Response
import UploadRelay.Proofs.Service.Bodies
import UploadRelay.Proofs.Service.Fidelity
import UploadRelay.Proofs.Service.Routing
-- How posts to the route of the service are answered: with the status of success and a body that
-- tells a result or an error, unless the reading of their form ends in a fault.

namespace UploadRelay.Service

open Work Backend

def TellsOne (body : List UInt8) : Prop :=
  ∃ members, Json.readBytes body = .ok (.obj members) ∧
    ((∃ result, Members.get? members "result" = some result) ∧ Members.get? members "error" = none ∨
      Members.get? members "result" = none ∧ ∃ error, Members.get? members "error" = some (.obj error))

def TellsResult (body : List UInt8) : Prop :=
  ∃ members, Json.readBytes body = .ok (.obj members) ∧ (∃ result, Members.get? members "result" = some result) ∧
    Members.get? members "error" = none

def TellsFailure (body : List UInt8) : Prop :=
  ∃ members, Json.readBytes body = .ok (.obj members) ∧ Members.get? members "result" = none ∧
    ∃ error, Members.get? members "error" = some (.obj error)

theorem TellsResult.one {body : List UInt8} (told : TellsResult body) : TellsOne body := by
  obtain ⟨members, read, result⟩ := told
  exact ⟨members, read, Or.inl result⟩

theorem TellsFailure.one {body : List UInt8} (told : TellsFailure body) : TellsOne body := by
  obtain ⟨members, read, error⟩ := told
  exact ⟨members, read, Or.inr error⟩

def Kept (response : Rpc.Response) : Prop := response.Sound ∧ response.error = none

theorem tellsResult {members : Members} (fits : Json.Fits Json.nestingLimit (.obj members))
    (distinct : Members.Distinct members) {result : Json} (found : Members.get? members "result" = some result)
    (errorless : Text.ofString "error" ∉ Members.names members) : TellsResult (Json.writtenBytes (.obj members)) := by
  have told := Json.get?_reread distinct (by decide) found
  have absent := Json.get?_reread_absent (by decide) errorless
  exact ⟨_, Json.readBytes_written fits, ⟨_, told⟩, absent⟩

theorem tellsFailure {members error : Members} (fits : Json.Fits Json.nestingLimit (.obj members))
    (distinct : Members.Distinct members) (found : Members.get? members "error" = some (.obj error))
    (resultless : Text.ofString "result" ∉ Members.names members) : TellsFailure (Json.writtenBytes (.obj members)) := by
  have told := Json.get?_reread distinct (by decide) found
  have absent := Json.get?_reread_absent (by decide) resultless
  exact ⟨_, Json.readBytes_written fits, absent, _, told⟩

theorem wire_tellsResult {response : Rpc.Response} (kept : Kept response) :
    TellsResult (Json.writtenBytes (.obj response.wire)) :=
  tellsResult kept.1.wire_fits (Rpc.envelope_distinct _ _ _ _ _) (Rpc.Response.wire_result kept.2)
    (kept.1.wire_errorless kept.2)

def detailLimit : Nat := 898

theorem reply_fits {fault : Fault} {code id : Json} (coded : fault.code? = some code) (short : Json.Fits detailLimit code)
    (data : Json.Fits detailLimit fault.data) (fits : Json.Fits Rpc.Request.innerLimit id) :
    Json.Fits Json.nestingLimit (fault.reply id) := by
  obtain ⟨details, answered, kinds, kind, same⟩ := Fault.reply_coded coded id
  have answeredFits : Json.Fits Rpc.Request.innerLimit answered := by
    cases kind with
    | none => exact .int _ (by decide)
    | given => exact fits
  have detailsFit : ∀ m ∈ details, Json.Fits detailLimit m.2 := by
    generalize fault.data = given at data kinds
    cases kinds with
    | none => exact fun m member => (List.not_mem_nil member).elim
    | given => exact List.forall_mem_singleton.mpr data
  have error : Json.Fits (detailLimit + 1) (.obj (("code", code) :: ("message", .str fault.message) :: details)) :=
    .obj (List.forall_mem_cons.mpr ⟨short, List.forall_mem_cons.mpr ⟨.str _ _, detailsFit⟩⟩)
  rw [same]
  show Json.Fits (Rpc.Request.innerLimit + 1) _
  exact .obj (List.forall_mem_cons.mpr ⟨.str _ _, List.forall_mem_cons.mpr ⟨error, List.forall_mem_singleton.mpr answeredFits⟩⟩)

theorem reply_tellsFailure {fault : Fault} {code id : Json} (coded : fault.code? = some code) (short : Json.Fits detailLimit code)
    (data : Json.Fits detailLimit fault.data) (fits : Json.Fits Rpc.Request.innerLimit id) :
    TellsFailure (Json.writtenBytes (fault.reply id)) := by
  have whole := reply_fits coded short data fits
  obtain ⟨details, answered, -, -, same⟩ := Fault.reply_coded coded id
  rw [same] at whole ⊢
  exact tellsFailure whole (by decide : (["jsonrpc", "error", "id"] : List Text).Nodup) rfl
    (by decide : Text.ofString "result" ∉ (["jsonrpc", "error", "id"] : List Text))

theorem errorObject_fits {error : Members} (fits : Json.Fits Rpc.Request.innerLimit (.obj error))
    (response : Option Rpc.Response) :
    (∃ code, (Fault.ofErrorObject error response).code? = some code ∧ Json.Fits detailLimit code) ∧
      Json.Fits detailLimit (Fault.ofErrorObject error response).data := by
  have inside : ∀ name v, Members.get? error name = some v → Json.Fits detailLimit v := by
    intro name v found
    cases fits with
    | obj all => exact all _ (Members.get?_mem found)
  refine ⟨⟨_, rfl, ?_⟩, ?_⟩
  · split
    · rename_i found
      exact inside _ _ found
    · exact .bool _ _
    · exact .int _ (by decide)
  · show Json.Fits detailLimit (Members.getD error "data" .null)
    unfold Members.getD
    cases found : Members.get? error "data" with
    | none => exact .null _
    | some v => exact inside _ _ found

theorem errorObject_tellsFailure {error : Members} (fits : Json.Fits Rpc.Request.innerLimit (.obj error))
    (response : Option Rpc.Response) {id : Json} (isId : IsId id) :
    TellsFailure (Json.writtenBytes ((Fault.ofErrorObject error response).reply id)) := by
  obtain ⟨⟨code, coded, short⟩, data⟩ := errorObject_fits fits response
  exact reply_tellsFailure coded short data isId.fits

variable {N : Type}

theorem told_tellsOne {terms : Terms N} (kept : ∀ response, terms.responses response → Kept response) {v : Json}
    (told : Told terms v) : TellsOne (Json.writtenBytes v) := by
  cases told with
  | response kind => exact (wire_tellsResult (kept _ kind)).one
  | @fault fault id coded isId =>
    obtain ⟨⟨n, code, short⟩, none⟩ := coded
    exact (reply_tellsFailure code (.int _ short) (none ▸ .null _) isId.fits).one
  | @failure m reply response error id received read failed isId =>
    exact (errorObject_tellsFailure ((Caller.readReply_sound read).error error failed) _ isId).one

-- Sites at which what goes wrong comes from outside of the bridge, and whose cache holds what
-- backends answered.
structure Sane (s : Site N) : Prop where
  trouble : Upload.OuterTrouble s.trouble
  turns : ∀ turn ∈ s.turns, ∀ fault, turn.outcome = .fails fault → fault.Uncoded
  cached : ∀ cache, s.cache = some cache → ∀ e ∈ cache.entries, Kept e.response

theorem Sane.outer {s : Site N} (sane : Sane s) : Outer (.of s Kept) :=
  outer_of sane.trouble sane.turns fun _ _ read success => ⟨Caller.readReply_sound read, success⟩

theorem sane_new (tree : Tree) (clock : N) (now : Int) (draw : Nat → Text) : Sane (Site.new tree clock now draw) where
  trouble := Upload.outerTrouble_none
  turns := by
    intro turn member
    cases member
  cached := by
    intro cache held
    cases held

theorem Sane.steady {s : Site N} (sane : Sane s) : Steady (.of s Kept) s := steady_of sane.cached

theorem Sane.after {s s' : Site N} (sane : Sane s) (steady : Steady (.of s Kept) s') : Sane s' where
  trouble := steady.trouble ▸ sane.trouble
  turns := fun turn member fault => sane.outer.turns turn fault (steady.turns turn member)
  cached := steady.cached

theorem Sane.local {s s' : Site N} (sane : Sane s) (aside : Local s s') : Sane s' :=
  sane.after (Upload.steady_local aside sane.steady)

theorem Sane.asked {s : Site N} (sane : Sane s) (id : Text) (freshIds : List Text) :
    Sane { s with freshIds := freshIds, requestId := id, form := none } := ⟨sane.trouble, sane.turns, sane.cached⟩

structure AnswersCall (response : Http.Response) : Prop where
  status : response.status = 200
  type : response.header? "content-type" = some contentType
  body : TellsOne response.body

variable [Seconds N]

theorem handle_answers (settings : Settings N) (route : Route) (visitor : Visitor) (r : Http.Request) {s : Site N}
    (sane : Sane s) : ∃ body s', handle settings route visitor r s = (.ok body, s') ∧ TellsOne body := by
  obtain ⟨body, s', run, ⟨v, same, told⟩, -⟩ := (handle_tells sane.outer settings route visitor r).run sane.steady
  exact ⟨body, s', run, same ▸ told_tellsOne (fun _ kept => kept) told⟩

namespace App

section Stays

variable {terms : Terms N}

abbrev Stays {α : Type} (terms : Terms N) (w : Work N α) : Prop := Gives (Steady terms) (fun _ => True) (fun _ => True) w

theorem post_stays (outer : Outer terms) (app : App N) (visitor : Visitor) (r : Http.Request) :
    Stays terms (app.post visitor r) := by
  have reads : Stays terms (Upload.canHandle r) :=
    ((Upload.formOf_gives r).widen (fun _ _ => trivial) fun _ => id).bind fun _ _ => gives_pure trivial
  refine reads.bind fun uploads _ => ?_
  refine Gives.bind (A := fun _ => True) ?_ fun _ _ => gives_pure trivial
  exact (handle_tells outer _ _ _ r).widen (fun _ => False.elim) fun _ _ => trivial

theorem routed_stays (outer : Outer terms) (app : App N) (fields : List Text) (visitor : Visitor) (r : Http.Request) :
    Stays terms (app.routed fields visitor r) := by
  unfold routed
  split
  · exact gives_pure trivial
  · split
    · split
      · exact post_stays outer app visitor r
      · exact gives_pure trivial
    · split
      · exact gives_pure trivial
      · split <;> exact gives_pure trivial

theorem page_stays (outer : Outer terms) (app : App N) (r : Http.Request) : Stays terms (app.page r) := by
  have visits : Stays terms (app.visitorOf r) := by
    unfold visitorOf
    split
    · exact gives_pure trivial
    · split
      · exact gives_pure trivial
      · split
        · exact (gives_ends (log_calm _ _ _ _) Steady.ofCalm (ends_update _)).bind fun _ _ => gives_pure trivial
        · exact gives_throw trivial
  have reads : Stays terms (Work.ofExcept (PathTemplate.read app.path)) := by
    apply gives_ofExcept
    cases PathTemplate.read app.path <;> trivial
  refine visits.bind fun visitor _ => reads.bind fun template _ => ?_
  split
  · exact gives_pure trivial
  · split
    · exact routed_stays outer app _ visitor r
    · exact gives_pure trivial

end Stays

-- A site stays sane whatever is asked for.
theorem serve_sane (app : App N) (r : Http.Request) {s : Site N} (sane : Sane s) : Sane (app.serve r s).2 := by
  obtain ⟨id, freshIds, serves⟩ := app.serve_shows r s
  have asked := sane.asked id freshIds
  have after := asked.after (page_stays asked.outer app r _ asked.steady).1
  rw [serves]
  exact ⟨after.trouble, after.turns, after.cached⟩

theorem run_sane (app : App N) (requests : List Http.Request) {s : Site N} (sane : Sane s) :
    Sane (requests.foldl (fun s r => (app.serve r s).2) s) := by
  induction requests generalizing s with
  | nil => exact sane
  | cons r rest ih => exact ih (app.serve_sane r sane)

structure Posted (app : App N) (r : Http.Request) : Prop where
  method : r.method = "POST"
  place : ∃ template, PathTemplate.read app.path = .ok template ∧ template.any PathTemplate.isBroken = false ∧
    template.fits r.path = true ∧ template.fields = []

-- When nothing in the path of the service is special, posts to that very path are meant.
omit [Seconds N] in
theorem posted_plain {app : App N} {r : Http.Request} (method : r.method = "POST") (same : r.path = app.path)
    (plain : PathTemplate.Plain app.path) (rooted : Text.startsWith app.path "/" = true)
    (single : PathTemplate.hasDoubleSlash app.path = false) : Posted app r where
  method := method
  place := by
    have pieces := PathTemplate.partTexts_plain plain
    refine ⟨_, PathTemplate.read_plain plain rooted single, PathTemplate.isBroken_plain pieces, ?_,
      PathTemplate.fields_verbatim _⟩
    rw [same]
    exact PathTemplate.fitsAll_verbatim pieces

def ChecksCredentials (app : App N) (r : Http.Request) : Prop :=
  ∀ authenticate fault, app.authenticate = some authenticate → authenticate r = .error fault →
    isCredentialFault fault = true

omit [Seconds N] in
theorem visitorOf_run {app : App N} {r : Http.Request} (checks : ChecksCredentials app r) (s : Site N) :
    ∃ visitor s', app.visitorOf r s = (.ok visitor, s') ∧ Calm s s' := by
  unfold visitorOf
  cases given : app.authenticate with
  | none => exact ⟨_, _, rfl, calm_frame.refl s⟩
  | some authenticate =>
    simp only
    cases found : authenticate r with
    | ok principal => exact ⟨_, _, rfl, calm_frame.refl s⟩
    | error fault =>
      simp only [checks authenticate fault given found, if_true]
      exact ⟨_, _, rfl, log_calm _ _ _ _ s⟩

theorem post_answers (app : App N) (visitor : Visitor) {r : Http.Request} {s : Site N} (unread : s.form = none)
    (sane : Sane s) :
    match (Upload.readForm s.trouble.copy s.copies r).ending with
    | .fault fault => (app.post visitor r s).1 = .error fault
    | _ => ∃ page, (app.post visitor r s).1 = .ok page ∧ AnswersCall page.response := by
  have reads := Upload.formOf_outcome unread r
  have aside := (Upload.formOf_run r s).1
  have answers : ∀ form s₁, Upload.formOf r s = (.ok form, s₁) →
      ∃ page, (app.post visitor r s).1 = .ok page ∧ AnswersCall page.response := by
    intro form s₁ read
    rw [read] at aside
    obtain ⟨body, s', handled, told⟩ :=
      handle_answers app.settings (if Upload.isUpload form then .publish else .proxy) visitor r (sane.local aside)
    unfold post
    simp only [Upload.canHandle, bind_run, read, pure_run, handled]
    exact ⟨_, rfl, rfl, rfl, told⟩
  cases read : Upload.formOf r s with
  | mk outcome s₁ =>
    rw [read] at reads
    generalize (Upload.readForm s.trouble.copy s.copies r).ending = ending at reads ⊢
    cases ending with
    | complete =>
      subst reads
      exact answers _ _ read
    | unreadable why =>
      subst reads
      exact answers _ _ read
    | fault fault =>
      subst reads
      unfold post
      simp only [Upload.canHandle, bind_run, read]

end App

structure Same (response page : Http.Response) : Prop where
  status : response.status = page.status
  body : response.body = page.body
  type : response.header? "content-type" = page.header? "content-type"

theorem same_setHeader {response page : Http.Response} (same : Same response page) {name : Text} (value : Text)
    (apart : Text.ofString "content-type" ≠ name) : Same (response.setHeader name value) page :=
  ⟨same.status, same.body, (response.header?_setHeader_other value apart).trans same.type⟩

theorem Origins.mark_post (origins : Origins) {r : Http.Request} (posted : r.method = "POST") (succeeded : Bool)
    (response : Http.Response) : Same (origins.mark r succeeded response) response := by
  have noPreflight : isPreflight r succeeded = false := by
    unfold isPreflight
    rw [posted]
    cases succeeded <;> rfl
  unfold mark
  split
  · exact ⟨rfl, rfl, rfl⟩
  · simp only [noPreflight]
    exact same_setHeader (same_setHeader ⟨rfl, rfl, rfl⟩ _ (by decide)) _ (by decide)

namespace App

omit [Seconds N] in
theorem finished_post (app : App N) {r : Http.Request} (posted : r.method = "POST") (id : Text) (p : Page) :
    Same (app.finished r id p) p.response := by
  have notHead : (r.method == Text.ofString "HEAD") = false := by
    rw [posted]
    decide
  unfold finished withoutBody
  rw [notHead]
  cases app.origins with
  | none => exact same_setHeader ⟨rfl, rfl, rfl⟩ _ (by decide)
  | some origins => exact same_setHeader (origins.mark_post posted _ _) _ (by decide)

omit [Seconds N] in
theorem problem_failed_status (r : Http.Request) : (problem r .failed).response.status = 500 := by
  unfold problem problemPage
  generalize chosen (r.header? "accept") = choice
  obtain ⟨type, form⟩ := choice
  cases form <;> rfl

omit [Seconds N] in
theorem finished_answers (app : App N) {r : Http.Request} (posted : r.method = "POST") (id : Text) {p : Page}
    (answers : AnswersCall p.response) : AnswersCall (app.finished r id p) := by
  have same := app.finished_post posted id p
  exact ⟨same.status.trans answers.status, same.type.trans answers.type, same.body ▸ answers.body⟩

theorem page_run {app : App N} {r : Http.Request} (posted : Posted app r) (checks : ChecksCredentials app r) (s : Site N) :
    ∃ visitor s₁, Calm s s₁ ∧ app.page r s = app.post visitor r s₁ := by
  obtain ⟨template, read, whole, fits, fieldless⟩ := posted.place
  obtain ⟨visitor, s₁, found, calm⟩ := visitorOf_run checks s
  refine ⟨visitor, s₁, calm, ?_⟩
  have posts : (r.method == Text.ofString "POST") = true := by
    rw [posted.method]
    decide
  unfold page route
  simp only [bind_run, found, ofExcept_run, read, whole, fits, fieldless]
  unfold routed
  simp [posts]

-- Every post to the service is answered as a call, unless the reading of its form ends in a fault:
-- that fault is shown as a page of its own.
theorem serve_answers_post (app : App N) (r : Http.Request) (s : Site N) (sane : Sane s) (posted : Posted app r)
    (checks : ChecksCredentials app r) :
    ∃ response s', app.serve r s = (.ok response, s') ∧
      match (Upload.readForm s.trouble.copy s.copies r).ending with
      | .fault fault => Upload.FormFault s.trouble.copy r fault ∧ response.status = 500
      | _ => AnswersCall response := by
  obtain ⟨id, freshIds, serves⟩ := app.serve_shows r s
  obtain ⟨visitor, s₁, calm, paged⟩ := page_run posted checks { s with freshIds := freshIds, requestId := id, form := none }
  have asked : Sane s₁ := (sane.asked id freshIds).local (.ofCalm calm)
  obtain ⟨unread, trouble, copies⟩ : s₁.form = none ∧ s₁.trouble = s.trouble ∧ s₁.copies = s.copies := by
    cases calm
    exact ⟨rfl, rfl, rfl⟩
  have answers := app.post_answers visitor (r := r) unread asked
  rw [trouble, copies] at answers
  rw [paged] at serves
  refine ⟨_, _, serves, ?_⟩
  have answered : (∃ page, (app.post visitor r s₁).1 = .ok page ∧ AnswersCall page.response) →
      AnswersCall (app.finished r id (shown r (app.post visitor r s₁).1)) := by
    rintro ⟨page, outcome, told⟩
    rw [outcome]
    exact finished_answers app posted.method id told
  cases ended : (Upload.readForm s.trouble.copy s.copies r).ending with
  | fault fault =>
    simp only [ended] at answers
    refine ⟨Upload.readForm_fault ended, ?_⟩
    rw [answers]
    exact (app.finished_post posted.method id _).status.trans (problem_failed_status r)
  | complete =>
    simp only [ended] at answers
    exact answered answers
  | unreadable why =>
    simp only [ended] at answers
    exact answered answers

def samplePost : Http.Request :=
  { sampleUpload with
    headers := [("content-type", "application/json")]
    body := Utf8.encode "\x7b\"method\": \"publish\"\x7d" }

theorem serve_answers_samplePost :
    ∃ response s', sampleApp.serve samplePost sampleSite = (.ok response, s') ∧ AnswersCall response := by
  have posted : Posted sampleApp samplePost := posted_plain rfl rfl (by decide) (by decide) (by decide)
  have checks : ChecksCredentials sampleApp samplePost := by
    intro authenticate fault given refused
    cases given
    cases refused
  obtain ⟨response, s', serves, answers⟩ :=
    serve_answers_post sampleApp samplePost sampleSite (sane_new _ _ _ _) posted checks
  exact ⟨response, s', serves, answers⟩

def hostileUpload : Http.Request :=
  { sampleUpload with
    headers := [("content-type", "multipart/form-data; boundary=b"), ("content-length", "59")]
    body := Utf8.encode "--b\r\ncontent-disposition: form-data; name=\"" ++ [255] ++ Utf8.encode "\"\r\n\r\nv\r\n--b--\r\n" }

-- It is posted to the service, and not answered as a call.
theorem serve_shows_hostileUpload :
    Posted sampleApp hostileUpload ∧
      (sampleApp.serve hostileUpload sampleSite).1.toOption.map Http.Response.status = some 500 := by
  exact ⟨posted_plain rfl rfl (by decide) (by decide) (by decide), by decide +kernel⟩

end App

end UploadRelay.Service
