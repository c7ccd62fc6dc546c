import UploadRelay.Proofs.Caller.Stamping
import UploadRelay.Proofs.Service.Twins
import UploadRelay.Proofs.Site.Reports
import UploadRelay.Proofs.Site.Stamping
import UploadRelay.Upload.Save
-- Reading the form of an upload and saving its file is nothing that the backend, the tracker or the
-- access log hears of.

namespace UploadRelay

open Work

variable {N : Type}

namespace Scratch

theorem create_silent (store : Store) (user : UserId) (name : Text) : Leaves (Silent (N := N)) (create store user name) := by
  unfold create
  apply leaves_site_bind
  intro s
  cases s.trouble.create with
  | some fault => exact silent_frame.refl s
  | none =>
    refine bind_at silent_frame (silent_frame.refl s) fun _ s₁ _ => ?_
    refine bind_at silent_frame ⟨rfl, rfl, rfl, rfl, rfl⟩ fun _ s₂ _ => ?_
    refine bind_at silent_frame (silent_frame.refl s₂) fun _ s₃ _ => ?_
    refine bind_at silent_frame (silent_frame.refl s₃) fun found s₄ _ => ?_
    refine bind_at silent_frame ⟨rfl, rfl, rfl, rfl, rfl⟩ fun _ s₅ _ => ?_
    exact Leaves.bind silent_frame (log_silent (by decide) _ _ _) (fun _ => leaves_pure silent_frame _) s₅

end Scratch

namespace Upload

theorem formOf_silent (r : Http.Request) : Leaves (Silent (N := N)) (formOf r) := by
  unfold formOf
  apply leaves_site_bind
  intro s
  cases s.form with
  | some form => exact silent_frame.refl s
  | none =>
    refine bind_at silent_frame ⟨rfl, rfl, rfl, rfl, rfl⟩ fun _ s₁ _ => ?_
    cases (readForm s.trouble.copy s.copies r).ending with
    | complete => exact silent_frame.refl s₁
    | unreadable why =>
      exact Leaves.bind silent_frame (log_silent (by decide) _ _ _) (fun _ => leaves_pure silent_frame _) s₁
    | fault fault => exact silent_frame.refl s₁

theorem failIf_silent (fault : Option Fault) : Leaves (Silent (N := N)) (failIf fault) := by
  cases fault with
  | some fault => exact leaves_throw silent_frame fault
  | none => exact leaves_pure silent_frame ()

theorem copy_silent (bytes : List UInt8) (f : ScratchFile) : Leaves (Silent (N := N)) (copy bytes f) := by
  unfold copy
  apply leaves_site_bind
  intro s
  refine bind_at silent_frame ⟨rfl, rfl, rfl, rfl, rfl⟩ fun _ s₁ _ => ?_
  cases s.trouble.copy s.copies with
  | none => exact silent_frame.refl s₁
  | some broken => exact bind_at silent_frame ⟨rfl, rfl, rfl, rfl, rfl⟩ fun _ s₂ _ => silent_frame.refl s₂

theorem fill_silent (bytes : List UInt8) (f : ScratchFile) : Leaves (Silent (N := N)) (fill bytes f) := by
  unfold fill
  apply leaves_site_bind
  intro s
  refine bind_at silent_frame (failIf_silent _ s) fun _ s₁ _ => ?_
  refine bind_at silent_frame (copy_silent bytes f s₁) fun written s₂ _ => ?_
  refine bind_at silent_frame (failIf_silent _ s₂) fun _ s₃ _ => ?_
  refine bind_at silent_frame ?_ fun closed s₄ _ => silent_frame.refl s₄
  exact bind_at silent_frame ⟨rfl, rfl, rfl, rfl, rfl⟩ fun _ s₄ _ => silent_frame.refl s₄

theorem save_silent (store : Store) (user : UserId) {logger : Log.Logger} (other : logger.name ≠ Log.accessLogger)
    (r : Http.Request) : Leaves (Silent (N := N)) (save store user logger r) := by
  have logs : ∀ message, Leaves (Silent (N := N)) (logTo logger .info message [("user_id", user.json)]) :=
    fun message => log_silent other _ _ _
  unfold save
  refine Leaves.bind silent_frame (formOf_silent r) fun form => ?_
  cases form.file? fileField with
  | none => exact leaves_throw silent_frame _
  | some part =>
    refine Leaves.bind silent_frame (Scratch.create_silent store user part.fileName) fun f => ?_
    refine Leaves.bind silent_frame (logs _) fun _ => ?_
    refine Leaves.bind silent_frame (fill_silent part.content f).attempt fun outcome => ?_
    cases outcome with
    | error fault => exact Leaves.bind silent_frame (fun _ => ⟨rfl, rfl, rfl, rfl, rfl⟩) fun _ => leaves_throw silent_frame fault
    | ok written => exact Leaves.bind silent_frame (logs _) fun _ => leaves_pure silent_frame f.path

end Upload

end UploadRelay

-- Whatever is done for a request bears its id: every post of it, its access record, and what the tracker is
-- told of it, whichever way the request ends.
namespace UploadRelay.Service

open Work

variable {N : Type}

theorem noteFault_silent (fault : Fault) : Leaves (Silent (N := N)) (noteFault fault) := fun _ => ⟨rfl, rfl, rfl, rfl, rfl⟩

theorem refuse_silent (fault : Fault) (id : Json) : Leaves (Silent (N := N)) (refuse fault id) :=
  Leaves.bind silent_frame (noteFault_silent fault) fun _ => leaves_pure silent_frame _

theorem identify_silent (visitor : Visitor) : Leaves (Silent (N := N)) (identify visitor) := by
  unfold identify
  cases visitor.principal with
  | error fault => exact leaves_pure silent_frame _
  | ok principal =>
    refine Leaves.bind silent_frame (fun _ => ⟨rfl, rfl, rfl, rfl, rfl⟩) fun _ => ?_
    cases principal.requireAddress with
    | ok address => exact leaves_pure silent_frame _
    | error fault => exact Leaves.bind silent_frame (log_silent (by decide) _ _ _) fun _ => leaves_pure silent_frame _

theorem deleteSaved_silent (path : Path) : Leaves (Silent (N := N)) (deleteSaved path) := by
  apply leaves_site_bind
  intro s
  refine bind_at silent_frame (Upload.failIf_silent _ s) fun _ s₁ _ => ?_
  exact bind_at silent_frame (silent_frame.refl s₁) fun _ _ _ => ⟨rfl, rfl, rfl, rfl, rfl⟩

theorem refuse_stamps {reporter : Reporter} {id : Text} (fault : Fault) (answered : Json) :
    Leaves (Stamps (N := N) reporter id) (refuse fault answered) := (refuse_silent fault answered).widen Silent.stamps

theorem logTo_stamps {reporter : Reporter} {id : Text} (user : UserId) (named : Text) (level : Log.Level) (message : Text)
    (extra : Members) : Leaves (Stamps (N := N) reporter id) (logTo (boundLogger user named) level message extra) :=
  (log_silent (boundLogger_other user named) _ _ _).widen Silent.stamps

theorem readEnvelope_stamps {reporter : Reporter} {id : Text} (outcome : Except Rpc.Request.Rejection Rpc.Request)
    {use : Rpc.Request → Work N (List UInt8)} (uses : ∀ request, Leaves (Stamps reporter id) (use request)) :
    Leaves (Stamps reporter id) (readEnvelope outcome use) := by
  have frame := stamps_frame (N := N) reporter id
  cases outcome with
  | ok request => exact Leaves.bind frame (fun _ => Silent.stamps ⟨rfl, rfl, rfl, rfl, rfl⟩) fun _ => uses request
  | error rejection =>
    unfold readEnvelope
    simp only
    split
    · exact refuse_stamps _ _
    · exact leaves_throw frame _

theorem visitEntry_id {id : Text} (given : id ≠ []) (v : Log.Visit) :
    Members.get? (Log.visitEntry v [] id).extra "request_id" = some (.str id) := by
  have field : Log.requestField id = [(("request_id" : Text), Json.str id)] := if_neg (by simpa using given)
  unfold Log.visitEntry
  rw [field]
  rfl

section Handling

variable {id : Text} (given : id ≠ []) (settings : Settings N)

include given

theorem callFailed_stamps (user : UserId) (named : Text) (request : Rpc.Request) (fault : Fault) :
    Leaves (Stamps settings.reporter id) (callFailed settings (boundLogger user named) request fault) := by
  have frame := stamps_frame (N := N) settings.reporter id
  refine Leaves.bind frame (Reporter.report_stamps given _ _) fun _ => ?_
  refine Leaves.bind frame (logTo_stamps user named _ _ _) fun _ => ?_
  exact refuse_stamps _ _

theorem writingFailed_stamps (user : UserId) (named : Text) (request : Rpc.Request) (fault : Fault) :
    Leaves (Stamps settings.reporter id) (writingFailed settings (boundLogger user named) request fault) := by
  have frame := stamps_frame (N := N) settings.reporter id
  refine Leaves.bind frame (Reporter.report_stamps given _ _) fun _ => ?_
  refine Leaves.bind frame (logTo_stamps user named _ _ _) fun _ => ?_
  exact refuse_stamps _ _

theorem savingFailed_stamps (user : UserId) (named : Text) (fault : Fault) :
    Leaves (Stamps settings.reporter id) (savingFailed settings (boundLogger user named) fault) := by
  have frame := stamps_frame (N := N) settings.reporter id
  unfold savingFailed
  cases asUploadFault fault with
  | none => exact leaves_throw frame fault
  | some told =>
    refine Leaves.bind frame (logTo_stamps user named _ _ _) fun _ => ?_
    refine Leaves.bind frame (Reporter.report_stamps given _ _) fun _ => ?_
    exact refuse_stamps _ _

theorem release_stamps (user : UserId) (named : Text) (path : Path) :
    Leaves (Stamps settings.reporter id) (release settings (boundLogger user named) path) := by
  have frame := stamps_frame (N := N) settings.reporter id
  refine Leaves.bind frame ((deleteSaved_silent path).widen Silent.stamps).attempt fun outcome => ?_
  cases outcome with
  | ok _ => exact leaves_pure frame ()
  | error fault =>
    dsimp only
    split
    · refine Leaves.bind frame (logTo_stamps user named _ _ _) fun _ => ?_
      exact Reporter.report_stamps given _ _
    · exact leaves_throw frame fault

theorem unexpectedFault_stamps (route : Route) (fault : Fault) :
    Leaves (Stamps settings.reporter id) (unexpectedFault settings route fault) := by
  have frame := stamps_frame (N := N) settings.reporter id
  apply leaves_site_bind
  intro s
  refine bind_at frame (logRaised_silent (by decide) _ _ _ _ s).stamps fun _ s₁ _ => ?_
  refine bind_at frame (Reporter.report_stamps given _ _ s₁) fun _ s₂ _ => ?_
  exact Leaves.bind frame ((noteFault_silent fault).widen Silent.stamps) (fun _ => leaves_pure frame _) s₂

theorem recordVisit_stamps {reporter : Reporter} (route : Route) (r : Http.Request) :
    Leaves (Stamps (N := N) reporter id) (recordVisit route r) := by
  intro s inHand
  refine ⟨rfl, rfl, ⟨[], (List.append_nil _).symm, by simp⟩, ⟨_, visits_append _ _, ?_⟩,
    ⟨[], (List.append_nil _).symm, tracked_nil reporter id⟩⟩
  intro e there
  have written := (List.mem_filter.mp there).1
  unfold Log.visitEntries at written
  split at written
  · cases written
  · cases List.mem_singleton.mp written
    rw [inHand]
    exact visitEntry_id given _

variable [Seconds N]

theorem answer_stamps (user : UserId) (named : Text) (caller : Caller N) (request : Rpc.Request) :
    Leaves (Stamps settings.reporter id) (answer settings (boundLogger user named) caller request) := by
  have frame := stamps_frame (N := N) settings.reporter id
  refine Leaves.bind frame (caller.call_stamps given request).attempt fun outcome => ?_
  cases outcome with
  | error fault =>
    dsimp only
    split
    · exact callFailed_stamps given settings user named request fault
    · exact leaves_throw frame fault
  | ok response =>
    dsimp only
    split
    · exact leaves_pure frame _
    · exact writingFailed_stamps given settings user named request _

theorem callWithFile_stamps (user : UserId) (named address : Text) (path : Path) (r : Http.Request) :
    Leaves (Stamps settings.reporter id) (callWithFile settings (boundLogger user named) user address path r) := by
  have frame := stamps_frame (N := N) settings.reporter id
  refine Leaves.bind frame ((Upload.formOf_silent r).widen Silent.stamps) fun form => ?_
  refine readEnvelope_stamps _ fun request => ?_
  apply leaves_site_bind
  intro s
  refine bind_at frame (Upload.failIf_silent _ s).stamps fun _ s₁ _ => ?_
  exact answer_stamps given settings user named _ request s₁

theorem publish_stamps (visitor : Visitor) (r : Http.Request) :
    Leaves (Stamps settings.reporter id) (publish settings visitor r) := by
  have frame := stamps_frame (N := N) settings.reporter id
  refine Leaves.bind frame ((identify_silent visitor).widen Silent.stamps) fun found => ?_
  cases found with
  | error fault => exact refuse_stamps _ _
  | ok known =>
    apply leaves_site_bind
    intro s
    refine bind_at frame ?_ fun outcome s₁ _ => ?_
    · exact (Upload.save_silent _ _ (boundLogger_other _ _) r s).stamps
    · cases outcome with
      | error fault => exact savingFailed_stamps given settings _ _ fault s₁
      | ok path =>
        exact Leaves.thenAlways frame (callWithFile_stamps given settings _ _ _ path r)
          (release_stamps given settings _ _ path) s₁

theorem proxy_stamps (visitor : Visitor) (r : Http.Request) :
    Leaves (Stamps settings.reporter id) (proxy settings visitor r) := by
  have frame := stamps_frame (N := N) settings.reporter id
  refine Leaves.bind frame ((identify_silent visitor).widen Silent.stamps) fun found => ?_
  cases found with
  | error fault => exact refuse_stamps _ _
  | ok known =>
    apply leaves_site_bind
    intro s
    split
    · exact refuse_stamps _ _ s
    · exact readEnvelope_stamps _ (fun request => answer_stamps given settings _ _ _ request) s

theorem handle_stamps (route : Route) (visitor : Visitor) (r : Http.Request) :
    Leaves (Stamps settings.reporter id) (handle settings route visitor r) := by
  have frame := stamps_frame (N := N) settings.reporter id
  refine Leaves.bind frame (fun _ => Silent.stamps ⟨rfl, rfl, rfl, rfl, rfl⟩) fun _ => ?_
  have processes : Leaves (Stamps settings.reporter id) (process settings visitor r route) := by
    cases route with
    | publish => exact publish_stamps given settings visitor r
    | proxy => exact proxy_stamps given settings visitor r
  refine Leaves.bind frame processes.attempt fun outcome => ?_
  have recorded : ∀ body : List UInt8, Leaves (Stamps settings.reporter id) (do
      recordVisit route r
      return body) := fun body => Leaves.bind frame (recordVisit_stamps given route r) fun _ => leaves_pure frame body
  cases outcome with
  | ok body => exact recorded body
  | error fault => exact Leaves.bind frame (unexpectedFault_stamps given settings route fault) recorded

end Handling

namespace App

theorem visitorOf_silent [Seconds N] (app : App N) (r : Http.Request) : Leaves Silent (app.visitorOf r) := by
  unfold visitorOf
  cases app.authenticate with
  | none => exact leaves_pure silent_frame _
  | some authenticate =>
    dsimp only
    cases authenticate r with
    | ok principal => exact leaves_pure silent_frame _
    | error fault =>
      dsimp only
      split
      · exact Leaves.bind silent_frame (log_silent (by decide) _ _ _) fun _ => leaves_pure silent_frame _
      · exact leaves_throw silent_frame fault

variable [Seconds N] {id : Text} (given : id ≠ []) (app : App N)

include given

theorem post_stamps (visitor : Visitor) (r : Http.Request) :
    Leaves (Stamps app.settings.reporter id) (app.post visitor r) := by
  have frame := stamps_frame (N := N) app.settings.reporter id
  refine Leaves.bind frame ?_ fun isUpload => ?_
  · exact Leaves.bind frame ((Upload.formOf_silent r).widen Silent.stamps) fun _ => leaves_pure frame _
  · exact Leaves.bind frame (handle_stamps given app.settings _ visitor r) fun _ => leaves_pure frame _

theorem routed_stamps (fields : List Text) (visitor : Visitor) (r : Http.Request) :
    Leaves (Stamps app.settings.reporter id) (app.routed fields visitor r) := by
  have frame := stamps_frame (N := N) app.settings.reporter id
  unfold routed
  split
  · exact leaves_pure frame _
  · split
    · split
      · exact app.post_stamps given visitor r
      · exact leaves_pure frame _
    · split
      · exact leaves_pure frame _
      · split <;> exact leaves_pure frame _

theorem page_stamps (r : Http.Request) : Leaves (Stamps app.settings.reporter id) (app.page r) := by
  have frame := stamps_frame (N := N) app.settings.reporter id
  refine Leaves.bind frame ((app.visitorOf_silent r).widen Silent.stamps) fun visitor => ?_
  refine Leaves.bind frame (leaves_ofExcept frame _) fun template => ?_
  split
  · exact leaves_pure frame _
  · split
    · exact app.routed_stamps given _ visitor r
    · exact leaves_pure frame _

end App

end UploadRelay.Service
