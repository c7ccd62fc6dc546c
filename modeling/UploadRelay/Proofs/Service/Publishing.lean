import UploadRelay.Proofs.Caller.Calling
import UploadRelay.Proofs.Rpc.Request
import UploadRelay.Proofs.Service.Observing
import UploadRelay.Proofs.Upload.Save
-- Handling an upload stage by stage: who sends it, the saved file, the call with the path of
-- that file in its params, and the deletion of the file behind everything else.

namespace UploadRelay.Service

open Work Backend

variable {N : Type}

theorem deleteSaved_only (path : Path) : Leaves (OnlyFile (N := N) path) (deleteSaved path) := by
  intro s
  unfold deleteSaved
  simp only [bind_run, site_run]
  cases s.trouble.remove with
  | some fault => exact (onlyFile_frame path).refl s
  | none =>
    simp only [Upload.failIf, pure_run, ofExcept_run]
    rcases s.tree.remove_cases path with removed | ⟨⟨fault, refused⟩, -⟩
    · rw [removed]
      exact ⟨⟨rfl, rfl, rfl, rfl, rfl, rfl, rfl, rfl⟩, rfl, fun p apart => Tree.file?_erase_other apart s.tree⟩
    · rw [refused]
      exact (onlyFile_frame path).refl s

theorem deleteSaved_gone {s : Site N} (removes : s.trouble.remove = none) (path : Path) :
    (deleteSaved path s).2.tree.file? path = none := by
  unfold deleteSaved
  simp only [bind_run, site_run, removes, Upload.failIf, pure_run, ofExcept_run]
  rcases s.tree.remove_cases path with removed | ⟨⟨fault, refused⟩, absent⟩
  · rw [removed]
    exact Tree.file?_erase_same s.tree path
  · rw [refused]
    exact absent

theorem release_after (settings : Settings N) (log : Log.Logger) (path : Path) (s : Site N) :
    Calm (deleteSaved path s).2 (release settings log path s).2 := by
  unfold release
  rw [bind_run, attempt_run]
  simp only
  cases (deleteSaved path s).1 with
  | ok _ => exact calm_frame.refl _
  | error fault =>
    simp only
    split
    · exact Leaves.bind calm_frame (logTo_calm _ _ _ _) (fun _ => Reporter.report_calm _ _ _) _
    · exact calm_frame.refl _

theorem release_only (settings : Settings N) (log : Log.Logger) (path : Path) (s : Site N) :
    OnlyFile path s (release settings log path s).2 :=
  (onlyFile_frame path).trans (deleteSaved_only path s) (.ofCalm (release_after settings log path s))

theorem release_gone (settings : Settings N) (log : Log.Logger) {s : Site N} (removes : s.trouble.remove = none)
    (path : Path) : (release settings log path s).2.tree.file? path = none := by
  have gone := deleteSaved_gone removes path
  have calm := release_after settings log path s
  generalize deleteSaved path s = deleted at gone calm
  generalize release settings log path s = released at calm ⊢
  obtain ⟨outcome, s'⟩ := released
  cases calm
  exact gone

variable [Seconds N]

theorem answer_sent (settings : Settings N) (log : Log.Logger) {c : Caller N} {request next : Rpc.Request}
    (proceeds : Hook.runAll c.hooks request = .proceed next) :
    Leaves (Sent next.body) (answer settings log c request) := by
  have frame := sent_frame (N := N) next.body
  apply Leaves.bind frame (Caller.call_sent proceeds).attempt
  intro outcome
  cases outcome with
  | error fault =>
    simp only
    split
    · exact (callFailed_calm settings log request fault).widen Sent.ofCalm
    · exact leaves_throw frame fault
  | ok response =>
    simp only
    split
    · exact leaves_pure frame _
    · exact (writingFailed_calm settings log request _).widen Sent.ofCalm

def withPath (path : Path) (request : Rpc.Request) : Rpc.Request :=
  Hook.setParam Hook.filePathParam (.str path.text) request

theorem callWithFile_sent (settings : Settings N) (log : Log.Logger) (user : UserId) (address : Text) (path : Path)
    (r : Http.Request) {s : Site N} {form : Upload.Form} (known : s.form = some form) {request : Rpc.Request}
    (parsed : Rpc.Request.ofText (form.value Upload.payloadField) = .ok request) :
    Sent (withPath path request).body s (callWithFile settings log user address path r s).2 := by
  have frame := sent_frame (N := N) (withPath path request).body
  unfold callWithFile
  rw [bind_run, Upload.formOf_known known]
  simp only [parsed, readEnvelope]
  apply bind_at frame (Sent.ofCalm (noteMethod_calm _ s))
  intro _ s₁ _
  apply bind_at frame (frame.refl s₁)
  intro s₂ s₃ _
  refine bind_at frame ?_ fun _ s₄ _ => answer_sent settings log rfl s₄
  rw [Upload.failIf_run]
  exact frame.refl s₃

theorem callWithFile_refused (settings : Settings N) (log : Log.Logger) (user : UserId) (address : Text) (path : Path)
    (r : Http.Request) {s : Site N} {form : Upload.Form} (known : s.form = some form)
    {rejection : Rpc.Request.Rejection}
    (refused : Rpc.Request.ofText (form.value Upload.payloadField) = .error rejection) :
    Calm s (callWithFile settings log user address path r s).2 := by
  unfold callWithFile
  rw [bind_run, Upload.formOf_known known]
  simp only [refused]
  exact readEnvelope_calm rejection _ s

theorem publish_refused (settings : Settings N) {visitor : Visitor} (r : Http.Request) {s s' : Site N} {fault : Fault}
    (identified : identify visitor s = (.ok (.error fault), s')) :
    Calm s (publish settings visitor r s).2 := by
  have calm := identify_calm (N := N) visitor s
  rw [identified] at calm
  unfold publish
  rw [bind_run, identified]
  exact calm_frame.trans calm (refuse_calm fault .null s')

theorem publish_saved (settings : Settings N) {visitor : Visitor} (r : Http.Request) {s s₁ s₂ : Site N}
    {principal : Principal} {address : Text} {path : Path}
    (identified : identify visitor s = (.ok (.ok (principal, address)), s₁))
    (saved : Upload.save settings.store principal.id (boundLogger principal.id s₁.requestId) r s₁ = (.ok path, s₂)) :
    (publish settings visitor r s).2 =
      (release settings (boundLogger principal.id s₁.requestId) path
        (callWithFile settings (boundLogger principal.id s₁.requestId) principal.id address path r s₂).2).2 := by
  unfold publish
  rw [bind_run, identified]
  simp only [bind_run, site_run, attempt_run, saved]
  exact thenAlways_run _ _ s₂

theorem publish_unsaved (settings : Settings N) {visitor : Visitor} (r : Http.Request) {s s₁ s₂ : Site N}
    {principal : Principal} {address : Text} {fault : Fault}
    (identified : identify visitor s = (.ok (.ok (principal, address)), s₁))
    (failed : Upload.save settings.store principal.id (boundLogger principal.id s₁.requestId) r s₁ = (.error fault, s₂)) :
    Calm s₂ (publish settings visitor r s).2 := by
  unfold publish
  rw [bind_run, identified]
  simp only [bind_run, site_run, attempt_run, failed]
  exact savingFailed_calm settings _ fault s₂

theorem handle_after (settings : Settings N) (route : Route) (visitor : Visitor) (r : Http.Request) (s : Site N) :
    Calm (process settings visitor r route { s with access := Access.blank }).2
      (handle settings route visitor r s).2 := by
  unfold handle
  rw [bind_run, update_run]
  simp only [bind_run, attempt_run]
  have recorded : ∀ (body : List UInt8) s, Calm s ((recordVisit route r >>= fun _ => pure body : Work N (List UInt8)) s).2 :=
    fun body => Leaves.bind calm_frame (recordVisit_calm route r) fun _ => leaves_pure calm_frame body
  cases (process settings visitor r route { s with access := Access.blank }).1 with
  | ok body => exact recorded body _
  | error fault => exact Leaves.bind calm_frame (unexpectedFault_calm settings route fault) recorded _

end UploadRelay.Service
