import UploadRelay.Proofs.Caller.Twins
import UploadRelay.Proofs.Service.Observing
import UploadRelay.Proofs.Upload.Twins
import UploadRelay.Service.App
-- Requests that are served at two sites that are alike get the same response, whoever is told about faults.

namespace UploadRelay

open Work

variable {N : Type} {ties : Ties}

-- Ties that go on to hold when the access fields change in the same way on both sides, and when access
-- records made from them are added.
structure Ties.Even (ties : Ties) : Prop where
  access : ∀ {level a₁ a₂}, ties.access level a₁ a₂ → ∀ f : Access → Access, ties.access level (f a₁) (f a₂)
  visits : ∀ {level a₁ a₂ v₁ v₂}, ties.access level a₁ a₂ → ties.visits v₁ v₂ →
    ∀ f : Access → List Log.Entry, ties.visits (v₁ ++ f a₁) (v₂ ++ f a₂)

theorem Ties.Even.loose (even : ties.Even) : ties.loose.Even := ⟨even.access, even.visits⟩

def unwatched (store : Store) (posts₁ posts₂ : List Backend.Post) : Ties where
  tree := store.Alike
  access := fun _ _ _ => True
  visits := fun _ _ => True
  begun := (posts₁, posts₂)

theorem unwatched_even (store : Store) (posts₁ posts₂ : List Backend.Post) : (unwatched store posts₁ posts₂).Even :=
  ⟨fun _ _ => trivial, fun _ _ _ => trivial⟩

namespace Service

def Settings.reportingTo (settings : Settings N) (reporter : Reporter) : Settings N := { settings with reporter }

def App.reportingTo (app : App N) (reporter : Reporter) : App N :=
  { app with settings := app.settings.reportingTo reporter }

theorem note_agrees (even : ties.Even) (f : Access → Access) :
    Agree (N := N) (Twins ties) (Twins ties) (Work.update fun s => { s with access := f s.access })
      (Work.update fun s => { s with access := f s.access }) := by
  refine agree_update fun alike => ?_
  cases alike with
  | intro _ _ _ _ _ _ _ _ trees sent troubles fields noted =>
    exact .intro _ _ _ _ _ _ _ _ trees sent troubles (even.access fields f) noted

theorem noteFault_agrees (even : ties.Even) (fault : Fault) :
    Agree (N := N) (Twins ties) (Twins ties) (noteFault fault) (noteFault fault) :=
  note_agrees even fun access => { access with errorType := some fault.label }

theorem noteUser_agrees (even : ties.Even) (user : UserId) :
    Agree (N := N) (Twins ties) (Twins ties) (noteUser user) (noteUser user) :=
  note_agrees even fun access => { access with user := some user }

theorem noteMethod_agrees (even : ties.Even) (method : Text) :
    Agree (N := N) (Twins ties) (Twins ties) (noteMethod method) (noteMethod method) :=
  note_agrees even fun access => { access with method := method }

theorem report_agrees (reporter₁ reporter₂ : Reporter) (fault : Fault) (extra : Option (List (Text × Text))) :
    Agree (N := N) (Twins ties) (Twins ties) (reporter₁.report fault extra) (reporter₂.report fault extra) :=
  agree_noted (Reporter.report_noted _ _ _) (Reporter.report_noted _ _ _) (Reporter.report_ends _ _ _)
    (Reporter.report_ends _ _ _)

theorem refuse_agrees (even : ties.Even) (fault : Fault) (id : Json) :
    Agree (N := N) (Twins ties) (Twins ties) (refuse fault id) (refuse fault id) :=
  (noteFault_agrees even fault).andThen fun _ => agree_pure _

theorem identify_agrees (even : ties.Even) (visitor : Visitor) :
    Agree (N := N) (Twins ties) (Twins ties) (identify visitor) (identify visitor) := by
  unfold identify
  cases visitor.principal with
  | error fault => exact agree_pure _
  | ok principal =>
    refine (noteUser_agrees even principal.id).andThen fun _ => ?_
    cases principal.requireAddress with
    | ok address => exact agree_pure _
    | error fault => exact (agree_log (by decide) _ _ _ _ _ _).andThen fun _ => agree_pure _

variable (settings : Settings N) (reporter : Reporter) (user : UserId) (id : Text)

theorem boundLogger_other : (boundLogger user id).name ≠ Log.accessLogger := by
  show Text.ofString _ ≠ Text.ofString _
  decide

theorem callFailed_agrees (even : ties.Even) (request : Rpc.Request) (fault : Fault) :
    Agree (Twins ties) (Twins ties) (callFailed settings (boundLogger user id) request fault)
      (callFailed (settings.reportingTo reporter) (boundLogger user id) request fault) :=
  (report_agrees _ _ _ _).andThen fun _ =>
    (agree_log (boundLogger_other user id) _ _ _ _ _ _).andThen fun _ => refuse_agrees even fault _

theorem writingFailed_agrees (even : ties.Even) (request : Rpc.Request) (fault : Fault) :
    Agree (Twins ties) (Twins ties) (writingFailed settings (boundLogger user id) request fault)
      (writingFailed (settings.reportingTo reporter) (boundLogger user id) request fault) :=
  (report_agrees _ _ _ _).andThen fun _ =>
    (agree_log (boundLogger_other user id) _ _ _ _ _ _).andThen fun _ => refuse_agrees even fault _

theorem savingFailed_agrees (even : ties.Even) (fault : Fault) :
    Agree (Twins ties) (Twins ties) (savingFailed settings (boundLogger user id) fault)
      (savingFailed (settings.reportingTo reporter) (boundLogger user id) fault) := by
  unfold savingFailed
  cases asUploadFault fault with
  | none => exact agree_throw fault
  | some told =>
    exact (agree_log (boundLogger_other user id) _ _ _ _ _ _).andThen fun _ =>
      (report_agrees _ _ _ _).andThen fun _ => refuse_agrees even told _

theorem readEnvelope_agrees (even : ties.Even) (outcome : Except Rpc.Request.Rejection Rpc.Request)
    {use₁ use₂ : Rpc.Request → Work N (List UInt8)}
    (uses : ∀ request, Agree (Twins ties) (Twins ties) (use₁ request) (use₂ request)) :
    Agree (Twins ties) (Twins ties) (readEnvelope outcome use₁) (readEnvelope outcome use₂) := by
  cases outcome with
  | ok request => exact (noteMethod_agrees even request.method).andThen fun _ => uses request
  | error rejection =>
    unfold readEnvelope
    simp only
    split
    · exact refuse_agrees even _ _
    · exact agree_throw _

theorem deleteSaved_ended (path : Path) (s : Site N) :
    ∃ tree, (deleteSaved path s).2 = { s with tree } ∧
      match s.trouble.grave with
      | some fault => (deleteSaved path s).1 = .error fault ∧ fault.isSystem = false
      | none => ∀ fault, (deleteSaved path s).1 = .error fault → fault.isSystem = true := by
  unfold deleteSaved Trouble.grave
  simp only [bind_run, site_run]
  cases s.trouble.remove with
  | some fault =>
    refine ⟨s.tree, rfl, ?_⟩
    cases system : fault.isSystem with
    | true =>
      simp only [Option.filter_some, system, Bool.not_true, Bool.false_eq_true, if_false]
      intro other same
      cases same
      exact system
    | false =>
      simp only [Option.filter_some, system, Bool.not_false, if_true]
      exact ⟨rfl, trivial⟩
  | none =>
    simp only [Upload.failIf, pure_run, ofExcept_run, Option.filter_none]
    unfold Tree.remove
    cases s.tree.node? path with
    | none =>
      refine ⟨s.tree, rfl, fun fault same => ?_⟩
      cases same
      rfl
    | some node =>
      cases node with
      | directory =>
        refine ⟨s.tree, rfl, fun fault same => ?_⟩
        cases same
        rfl
      | file content =>
        refine ⟨s.tree.erase path, rfl, fun fault same => ?_⟩
        cases same

theorem release_mild (log : Log.Logger) (other : log.name ≠ Log.accessLogger) {path : Path} {s : Site N}
    (mild : ∀ fault, (deleteSaved path s).1 = .error fault → fault.isSystem = true) :
    (release settings log path s).1 = .ok () ∧ Noted (deleteSaved path s).2 (release settings log path s).2 := by
  unfold release
  rw [bind_run, attempt_run]
  generalize deleteSaved path s = ran at mild
  obtain ⟨outcome, t⟩ := ran
  cases outcome with
  | ok _ => exact ⟨rfl, noted_frame.refl t⟩
  | error fault =>
    simp only [mild fault rfl, if_true]
    exact ⟨Ends.outcome (Ends.bind (ends_update _) fun _ => Reporter.report_ends _ _ _) t,
      Leaves.bind noted_frame (log_noted other _ _ _) (fun _ => Reporter.report_noted _ _ _) t⟩

theorem release_grave (log : Log.Logger) {path : Path} {s : Site N} {fault : Fault}
    (failed : (deleteSaved path s).1 = .error fault) (grave : fault.isSystem = false) :
    release settings log path s = (.error fault, (deleteSaved path s).2) := by
  unfold release
  rw [bind_run, attempt_run]
  simp only [failed, grave]
  rfl

theorem release_agrees (path : Path) :
    Agree (Twins ties.loose) (Twins ties.loose) (release settings (boundLogger user id) path)
      (release (settings.reportingTo reporter) (boundLogger user id) path) := by
  intro s₁ s₂ twins
  obtain ⟨tree₁, after₁, ended₁⟩ := deleteSaved_ended path s₁
  obtain ⟨tree₂, after₂, ended₂⟩ := deleteSaved_ended path s₂
  have deleted : Twins ties.loose (deleteSaved path s₁).2 (deleteSaved path s₂).2 := by
    rw [after₁, after₂]
    exact (agree_writes (fun _ => tree₁) (fun _ => tree₂) s₁ s₂ twins).2
  have grave : s₂.trouble.grave = s₁.trouble.grave := by
    cases twins with
    | intro _ _ _ _ _ _ _ _ _ _ troubles _ _ =>
      cases troubles with
      | intro _ _ same => exact same.symm
  rw [grave] at ended₂
  cases graves : s₁.trouble.grave with
  | none =>
    simp only [graves] at ended₁ ended₂
    obtain ⟨outcome₁, noted₁⟩ := release_mild settings _ (boundLogger_other user id) ended₁
    obtain ⟨outcome₂, noted₂⟩ := release_mild (settings.reportingTo reporter) _ (boundLogger_other user id) ended₂
    exact ⟨outcome₁.trans outcome₂.symm, deleted.noted noted₁ noted₂⟩
  | some fault =>
    simp only [graves] at ended₁ ended₂
    rw [release_grave settings _ ended₁.1 ended₁.2, release_grave (settings.reportingTo reporter) _ ended₂.1 ended₂.2]
    exact ⟨rfl, deleted⟩

variable [Seconds N]

theorem answer_agrees (even : ties.Even) (c : Caller N) (request : Rpc.Request) :
    Agree (Twins ties.loose) (Twins ties.loose) (answer settings (boundLogger user id) c request)
      (answer (settings.reportingTo reporter) (boundLogger user id) c request) := by
  refine (Caller.call_agrees c request).attempt.andThen fun outcome => ?_
  cases outcome with
  | error fault =>
    simp only
    split
    · exact callFailed_agrees settings reporter user id even.loose request fault
    · exact agree_throw fault
  | ok response =>
    simp only
    split
    · exact agree_pure _
    · exact writingFailed_agrees settings reporter user id even.loose request _

theorem callWithFile_agrees (even : ties.Even) (address : Text) (path : Path) (r : Http.Request) :
    Agree (Twins ties.loose) (Twins ties.loose) (callWithFile settings (boundLogger user id) user address path r)
      (callWithFile (settings.reportingTo reporter) (boundLogger user id) user address path r) := by
  refine (Upload.formOf_agrees r).andThen fun form => readEnvelope_agrees even.loose _ fun request => ?_
  refine agree_site_bind fun s₁ s₂ twins => ?_
  have same : s₁.trouble.buildCall = s₂.trouble.buildCall := by
    cases twins with
    | intro _ _ _ _ _ _ _ _ _ _ troubles _ _ =>
      cases troubles
      rfl
  rw [same]
  exact (Upload.failIf_agrees _).andThen fun _ => answer_agrees settings reporter user id even _ request

theorem publish_agrees (even : ties.Even) (trees : ∀ {directory draw t₁ t₂}, ties.tree directory draw t₁ t₂ → settings.store.Alike directory draw t₁ t₂)
    (visitor : Visitor) (r : Http.Request) :
    Agree (Twins ties) (Twins ties.loose) (publish settings visitor r)
      (publish (settings.reportingTo reporter) visitor r) := by
  refine (identify_agrees even visitor).bind Twins.loosen fun found => ?_
  cases found with
  | error fault => exact (refuse_agrees even fault .null).widen Twins.loosen
  | ok known =>
    obtain ⟨principal, address⟩ := known
    refine agree_site_bind fun s₁ s₂ twins => ?_
    have same : s₁.requestId = s₂.requestId := by
      cases twins
      rfl
    rw [same]
    have other := boundLogger_other principal.id s₂.requestId
    refine (Upload.save_agrees trees principal.id other other r).attempt.andThen fun outcome => ?_
    cases outcome with
    | error fault => exact savingFailed_agrees settings reporter _ _ even.loose fault
    | ok path =>
      exact (callWithFile_agrees settings reporter _ _ even address path r).thenAlways
        (release_agrees settings reporter _ _ path)

theorem proxy_agrees (even : ties.Even) (visitor : Visitor) (r : Http.Request) :
    Agree (Twins ties.loose) (Twins ties.loose) (proxy settings visitor r)
      (proxy (settings.reportingTo reporter) visitor r) := by
  refine (identify_agrees even.loose visitor).andThen fun found => ?_
  cases found with
  | error fault => exact refuse_agrees even.loose fault .null
  | ok known =>
    obtain ⟨principal, address⟩ := known
    refine agree_site_bind fun s₁ s₂ twins => ?_
    have same : s₁.requestId = s₂.requestId := by
      cases twins
      rfl
    rw [same]
    split
    · exact refuse_agrees even.loose _ _
    · exact readEnvelope_agrees even.loose _ fun request => answer_agrees settings reporter _ _ even _ request

theorem process_agrees (even : ties.Even) (trees : ∀ {directory draw t₁ t₂}, ties.tree directory draw t₁ t₂ → settings.store.Alike directory draw t₁ t₂)
    (visitor : Visitor) (r : Http.Request) (route : Route) :
    Agree (Twins ties) (Twins ties.loose) (process settings visitor r route)
      (process (settings.reportingTo reporter) visitor r route) := by
  cases route with
  | publish => exact publish_agrees settings reporter even trees visitor r
  | proxy => exact (proxy_agrees settings reporter even visitor r).narrow Twins.loosen

omit [Seconds N] in
theorem unexpectedFault_agrees (even : ties.Even) (route : Route) (fault : Fault) :
    Agree (Twins ties) (Twins ties) (unexpectedFault settings route fault)
      (unexpectedFault (settings.reportingTo reporter) route fault) := by
  refine agree_site_bind fun s₁ s₂ _ => ?_
  refine (agree_noted (logRaised_noted (by decide) _ _ _ _) (logRaised_noted (by decide) _ _ _ _) (ends_update _)
    (ends_update _)).andThen fun _ => ?_
  exact (report_agrees _ _ _ _).andThen fun _ => (noteFault_agrees even fault).andThen fun _ => agree_pure _

omit [Seconds N] in
theorem recordVisit_agrees (even : ties.Even) (route : Route) (r : Http.Request) :
    Agree (N := N) (Twins ties) (Twins ties) (recordVisit route r) (recordVisit route r) := by
  intro s₁ s₂ twins
  refine ⟨rfl, ?_⟩
  cases twins with
  | intro _ _ _ records _ _ _ access trees sent troubles fields noted =>
    refine .intro _ _ _ _ _ _ _ _ trees sent troubles fields ?_
    show ties.visits (visits (s₁.records ++ _)) (visits (records ++ _))
    rw [visits_append, visits_append]
    exact even.visits fields noted fun access =>
      visits (Log.visitEntries s₁.accessLevel (visitOf route r access) none s₁.requestId)

theorem handle_agrees (even : ties.Even) (trees : ∀ {directory draw t₁ t₂}, ties.tree directory draw t₁ t₂ → settings.store.Alike directory draw t₁ t₂)
    (route : Route) (visitor : Visitor) (r : Http.Request) :
    Agree (Twins ties) (Twins ties.loose) (handle settings route visitor r)
      (handle (settings.reportingTo reporter) route visitor r) := by
  refine (note_agrees even fun _ => Access.blank).bind Twins.loosen fun _ => ?_
  refine (process_agrees settings reporter even trees visitor r route).attempt.andThen fun outcome => ?_
  have records : ∀ body : List UInt8, Agree (N := N) (Twins ties.loose) (Twins ties.loose)
      (recordVisit route r >>= fun _ => pure body) (recordVisit route r >>= fun _ => pure body) := fun body =>
    (recordVisit_agrees even.loose route r).andThen fun _ => agree_pure body
  cases outcome with
  | ok body => exact records body
  | error fault => exact (unexpectedFault_agrees settings reporter even.loose route fault).andThen records

namespace App

variable (app : App N)

theorem post_agrees (even : ties.Even)
    (trees : ∀ {directory draw t₁ t₂}, ties.tree directory draw t₁ t₂ → app.settings.store.Alike directory draw t₁ t₂) (visitor : Visitor)
    (r : Http.Request) :
    Agree (Twins ties) (Twins ties.loose) (app.post visitor r) ((app.reportingTo reporter).post visitor r) := by
  have uploads : Agree (N := N) (Twins ties) (Twins ties) (Upload.canHandle r) (Upload.canHandle r) :=
    (Upload.formOf_agrees r).andThen fun form => agree_pure _
  refine uploads.bind Twins.loosen fun isUpload => ?_
  exact (handle_agrees app.settings reporter even trees _ visitor r).andThen fun body => agree_pure _

theorem route_agrees (even : ties.Even)
    (trees : ∀ {directory draw t₁ t₂}, ties.tree directory draw t₁ t₂ → app.settings.store.Alike directory draw t₁ t₂) (visitor : Visitor)
    (r : Http.Request) :
    Agree (Twins ties) (Twins ties.loose) (app.route visitor r) ((app.reportingTo reporter).route visitor r) := by
  have shows : ∀ page : Page, Agree (N := N) (Twins ties) (Twins ties.loose) (pure page) (pure page) := fun page =>
    (agree_pure page).widen Twins.loosen
  refine (agree_ofExcept _).bind Twins.loosen fun template => ?_
  split
  · exact shows _
  · split
    · unfold routed
      split
      · exact shows _
      · split
        · split
          · exact post_agrees reporter app even trees visitor r
          · exact shows _
        · split
          · exact shows _
          · split <;> exact shows _
    · exact shows _

omit [Seconds N] in
theorem visitorOf_agrees (r : Http.Request) :
    Agree (Twins ties) (Twins ties) (app.visitorOf r) ((app.reportingTo reporter).visitorOf r) := by
  have same : (app.reportingTo reporter).visitorOf r = app.visitorOf r := rfl
  rw [same]
  unfold visitorOf
  cases app.authenticate with
  | none => exact agree_pure _
  | some authenticate =>
    simp only
    cases authenticate r with
    | ok principal => exact agree_pure _
    | error fault =>
      simp only
      split
      · exact (agree_log (by decide) _ _ _ _ _ _).andThen fun _ => agree_pure _
      · exact agree_throw fault

theorem page_agrees (even : ties.Even)
    (trees : ∀ {directory draw t₁ t₂}, ties.tree directory draw t₁ t₂ → app.settings.store.Alike directory draw t₁ t₂) (r : Http.Request) :
    Agree (Twins ties) (Twins ties.loose) (app.page r) ((app.reportingTo reporter).page r) :=
  (visitorOf_agrees reporter app r).bind Twins.loosen fun visitor => route_agrees reporter app even trees visitor r

theorem serve_agrees (even : ties.Even)
    (trees : ∀ {directory draw t₁ t₂}, ties.tree directory draw t₁ t₂ → app.settings.store.Alike directory draw t₁ t₂) (r : Http.Request) :
    Agree (Twins ties) (Twins ties.loose) (app.serve r) ((app.reportingTo reporter).serve r) := by
  have identifies : Agree (N := N) (Twins ties) (Twins ties) (idFor r) (idFor r) := by
    have fresh : Agree (N := N) (Twins ties) (Twins ties) freshId freshId := by
      refine agree_site_bind fun s₁ s₂ twins => ?_
      have same : s₁.freshIds = s₂.freshIds := by
        cases twins
        rfl
      rw [same]
      refine Agree.andThen (agree_update fun alike => ?_) fun _ => agree_pure _
      cases alike
      exact .intro _ _ _ _ _ _ _ _ ‹_› ‹_› ‹_› ‹_› ‹_›
    unfold idFor
    split
    · exact agree_pure _
    · exact fresh
  refine agree_site_bind fun s₁ s₂ twins => ?_
  have before : s₁.requestId = s₂.requestId := by
    cases twins
    rfl
  rw [before]
  have enters : ∀ {ties : Ties} (id : Text), Agree (N := N) (Twins ties) (Twins ties)
      (Work.update fun s => { s with requestId := id, form := none })
      (Work.update fun s => { s with requestId := id, form := none }) := by
    intro ties id
    refine agree_update fun alike => ?_
    cases alike
    exact .intro _ _ _ _ _ _ _ _ ‹_› ‹_› ‹_› ‹_› ‹_›
  refine identifies.bind Twins.loosen fun id => (enters id).bind Twins.loosen fun _ => ?_
  refine (page_agrees reporter app even trees r).attempt.andThen fun outcome => (enters _).andThen fun _ => ?_
  cases outcome with
  | ok page => exact agree_pure _
  | error fault => exact agree_pure _

end App

end Service

end UploadRelay
