import UploadRelay.Proofs.Site.Effects
import UploadRelay.Service.Handler
-- What a handler says about a request, to the log, the tracker and the access record, is calm,
-- whatever goes wrong while it is said.

namespace UploadRelay

open Work

variable {N : Type}

namespace Reporter

theorem step_noted (which : TrackerStep) (call : TrackerCall) : Leaves (Noted (N := N)) (step which call) := by
  refine Leaves.bind noted_frame ?_ fun _ => ?_
  · exact fun s => Notes.intro s.records s.reports _ rfl
  · apply Leaves.bind noted_frame (leaves_site noted_frame)
    intro s
    cases s.trouble.tracker which with
    | none => exact leaves_pure noted_frame ()
    | some fault => exact leaves_throw noted_frame fault

theorem tagAll_noted (tags : List (Text × Text)) : Leaves (Noted (N := N)) (tagAll tags) := by
  induction tags with
  | nil => exact leaves_pure noted_frame ()
  | cons t rest ih => exact Leaves.bind noted_frame (step_noted _ _) fun _ => ih

theorem inScope_noted (settings : Settings) (fault : Fault) (extra : Option (List (Text × Text))) :
    Leaves (Noted (N := N)) (inScope settings fault extra) := by
  have ending : Leaves (Noted (N := N)) (do
      tagAll settings.tags
      step .capture (.captured fault.label fault.message)) :=
    Leaves.bind noted_frame (tagAll_noted _) fun _ => step_noted _ _
  unfold inScope
  split
  · apply Leaves.bind noted_frame (leaves_site noted_frame)
    intro s
    exact Leaves.bind noted_frame (step_noted _ _) fun _ => ending
  · exact ending

theorem event_noted (settings : Settings) (fault : Fault) (extra : Option (List (Text × Text))) :
    Leaves (Noted (N := N)) (event settings fault extra) :=
  Leaves.bind noted_frame (step_noted _ _) fun _ =>
    Leaves.thenAlways noted_frame (inScope_noted settings fault extra) (step_noted _ _)

theorem report_noted (reporter : Reporter) (fault : Fault) (extra : Option (List (Text × Text))) :
    Leaves (Noted (N := N)) (reporter.report fault extra) := by
  cases reporter with
  | silent => exact leaves_pure noted_frame ()
  | recording => exact fun s => Notes.intro s.records _ s.trackerCalls rfl
  | tracker settings =>
    unfold report
    simp only
    split
    · exact leaves_pure noted_frame ()
    · apply Leaves.bind noted_frame (event_noted settings fault extra).attempt
      intro outcome
      cases outcome with
      | ok _ => exact leaves_pure noted_frame ()
      | error failure => exact logRaised_noted (by decide) _ _ _ _

theorem report_calm (reporter : Reporter) (fault : Fault) (extra : Option (List (Text × Text))) :
    Leaves (Calm (N := N)) (reporter.report fault extra) := (report_noted reporter fault extra).widen Noted.calm

theorem report_ends (reporter : Reporter) (fault : Fault) (extra : Option (List (Text × Text))) :
    Ends (N := N) (reporter.report fault extra) := by
  cases reporter with
  | silent => exact ends_pure ()
  | recording => exact ends_update _
  | tracker settings =>
    unfold report
    simp only
    split
    · exact ends_pure ()
    · apply Ends.bind (ends_attempt _)
      intro outcome
      cases outcome with
      | ok _ => exact ends_pure ()
      | error failure => exact ends_update _

end Reporter

namespace Service

theorem noteFault_calm (fault : Fault) : Leaves (Calm (N := N)) (noteFault fault) := fun _ => .intro _ _ _ _ _ _

theorem noteUser_calm (user : UserId) : Leaves (Calm (N := N)) (noteUser user) := fun _ => .intro _ _ _ _ _ _

theorem noteMethod_calm (method : Text) : Leaves (Calm (N := N)) (noteMethod method) := fun _ => .intro _ _ _ _ _ _

theorem refuse_calm (fault : Fault) (id : Json) : Leaves (Calm (N := N)) (refuse fault id) :=
  Leaves.bind calm_frame (noteFault_calm fault) fun _ => leaves_pure calm_frame _

theorem readEnvelope_calm (rejection : Rpc.Request.Rejection) (use : Rpc.Request → Work N (List UInt8)) :
    Leaves Calm (readEnvelope (.error rejection) use) := by
  unfold readEnvelope
  simp only
  split
  · exact refuse_calm _ _
  · exact leaves_throw calm_frame _

theorem identify_calm (visitor : Visitor) : Leaves (Calm (N := N)) (identify visitor) := by
  unfold identify
  cases visitor.principal with
  | error fault => exact leaves_pure calm_frame _
  | ok principal =>
    apply Leaves.bind calm_frame (noteUser_calm principal.id)
    intro _
    cases principal.requireAddress with
    | ok address => exact leaves_pure calm_frame _
    | error fault => exact Leaves.bind calm_frame (log_calm _ _ _ _) fun _ => leaves_pure calm_frame _

theorem identify_ends (visitor : Visitor) : Ends (identify (N := N) visitor) := by
  unfold identify
  cases visitor.principal with
  | error fault => exact ends_pure _
  | ok principal =>
    apply Ends.bind (ends_update _)
    intro _
    cases principal.requireAddress with
    | ok address => exact ends_pure _
    | error fault => exact Ends.bind (ends_update _) fun _ => ends_pure _

theorem identify_known {visitor : Visitor} {s s' : Site N} {principal : Principal} {address : Text}
    (identified : identify visitor s = (.ok (.ok (principal, address)), s')) : visitor.principal = .ok principal := by
  unfold identify at identified
  cases known : visitor.principal with
  | error fault =>
    rw [known] at identified
    cases identified
  | ok someone =>
    rw [known] at identified
    cases addressed : someone.requireAddress with
    | error fault =>
      simp only [addressed] at identified
      cases identified
    | ok place =>
      simp only [addressed] at identified
      cases identified
      rfl

theorem callFailed_calm (settings : Settings N) (log : Log.Logger) (request : Rpc.Request) (fault : Fault) :
    Leaves (Calm (N := N)) (callFailed settings log request fault) :=
  Leaves.bind calm_frame (Reporter.report_calm _ _ _) fun _ =>
    Leaves.bind calm_frame (logTo_calm _ _ _ _) fun _ => refuse_calm _ _

theorem writingFailed_calm (settings : Settings N) (log : Log.Logger) (request : Rpc.Request) (fault : Fault) :
    Leaves (Calm (N := N)) (writingFailed settings log request fault) :=
  Leaves.bind calm_frame (Reporter.report_calm _ _ _) fun _ =>
    Leaves.bind calm_frame (logTo_calm _ _ _ _) fun _ => refuse_calm _ _

theorem savingFailed_calm (settings : Settings N) (log : Log.Logger) (fault : Fault) :
    Leaves (Calm (N := N)) (savingFailed settings log fault) := by
  unfold savingFailed
  cases asUploadFault fault with
  | none => exact leaves_throw calm_frame fault
  | some told =>
    exact Leaves.bind calm_frame (logTo_calm _ _ _ _) fun _ =>
      Leaves.bind calm_frame (Reporter.report_calm _ _ _) fun _ => refuse_calm _ _

theorem unexpectedFault_calm (settings : Settings N) (route : Route) (fault : Fault) :
    Leaves (Calm (N := N)) (unexpectedFault settings route fault) := by
  unfold unexpectedFault
  apply Leaves.bind calm_frame (leaves_site calm_frame)
  intro s
  exact Leaves.bind calm_frame (logRaised_calm _ _ _ _ _) fun _ =>
    Leaves.bind calm_frame (Reporter.report_calm _ _ _) fun _ =>
      Leaves.bind calm_frame (noteFault_calm fault) fun _ => leaves_pure calm_frame _

theorem unexpectedFault_ends (settings : Settings N) (route : Route) (fault : Fault) :
    Ends (unexpectedFault settings route fault) :=
  Ends.bind ends_site fun _ => Ends.bind (ends_update _) fun _ =>
    Ends.bind (Reporter.report_ends _ _ _) fun _ => Ends.bind (ends_update _) fun _ => ends_pure _

theorem recordVisit_calm (route : Route) (r : Http.Request) : Leaves (Calm (N := N)) (recordVisit route r) :=
  Leaves.bind calm_frame (leaves_site calm_frame) fun _ => fun _ => .intro _ _ _ _ _ _

theorem handle_ends [Seconds N] (settings : Settings N) (route : Route) (visitor : Visitor) (r : Http.Request) :
    Ends (handle settings route visitor r) := by
  refine Ends.bind (ends_update _) fun _ => Ends.bind (ends_attempt _) fun outcome => ?_
  have recorded : ∀ body : List UInt8, Ends (N := N) (do
      recordVisit route r
      return body) := fun body => Ends.bind (Ends.bind ends_site fun _ => ends_update _) fun _ => ends_pure body
  cases outcome with
  | ok body => exact recorded body
  | error fault => exact Ends.bind (unexpectedFault_ends settings route fault) recorded

end Service

end UploadRelay
