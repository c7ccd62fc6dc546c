import UploadRelay.Proofs.Site.Stamping
import UploadRelay.Reporter
-- A report tells the tracker one scope: its context with the id of the request in hand, the tags, and the
-- capture, up to the first of these that fails.

namespace UploadRelay.Reporter

open Work

variable {N : Type}

def contents (settings : Settings) (fault : Fault) (extra : Option (List (Text × Text))) (id : Text) : List TrackerCall :=
  (if settings.recordsContext then [.context settings.contextName (context extra id)] else []) ++
    settings.tags.map (fun t => .tag t.1 t.2) ++ [.captured fault.label fault.message]

structure Tells (calls : List TrackerCall) (s s' : Site N) : Prop where
  requestId : s'.requestId = s.requestId
  freshIds : s'.freshIds = s.freshIds
  posts : s'.posts = s.posts
  visits : visits s'.records = visits s.records
  trackerCalls : s'.trackerCalls = s.trackerCalls ++ calls

theorem tells_nothing (s : Site N) : Tells [] s s := ⟨rfl, rfl, rfl, rfl, (List.append_nil _).symm⟩

theorem Tells.follows {calls more : List TrackerCall} {a b c : Site N} (first : Tells calls a b) (second : Tells more b c) :
    Tells (calls ++ more) a c := by
  refine ⟨second.requestId.trans first.requestId, second.freshIds.trans first.freshIds, second.posts.trans first.posts,
    second.visits.trans first.visits, ?_⟩
  rw [second.trackerCalls, first.trackerCalls, List.append_assoc]

def Plans (planned : List TrackerCall) (w : Work N Unit) : Prop :=
  ∀ s, ∃ calls, calls <+: planned ∧ Tells calls s (w s).2 ∧ ((w s).1 = .ok () → calls = planned)

theorem Plans.bind {planned more : List TrackerCall} {w : Work N Unit} {f : Unit → Work N Unit} (first : Plans planned w)
    (next : ∀ done, Plans more (f done)) : Plans (planned ++ more) (w >>= f) := by
  intro s
  obtain ⟨calls, begins, tells, whole⟩ := first s
  rw [bind_run]
  cases run : w s with
  | mk outcome s' =>
    rw [run] at tells whole
    cases outcome with
    | error fault => exact ⟨calls, begins.trans (List.prefix_append _ _), tells, fun ends => nomatch ends⟩
    | ok _ =>
      obtain rfl := whole rfl
      obtain ⟨calls', begins', tells', whole'⟩ := next () s'
      exact ⟨calls ++ calls', (List.prefix_append_right_inj _).mpr begins', tells.follows tells', fun ends => by rw [whole' ends]⟩

def told (call : TrackerCall) (s : Site N) : Site N := { s with trackerCalls := s.trackerCalls ++ [call] }

theorem told_tells (call : TrackerCall) (s : Site N) : Tells [call] s (told call s) := ⟨rfl, rfl, rfl, rfl, rfl⟩

theorem step_run (which : TrackerStep) (call : TrackerCall) (s : Site N) :
    step which call s = (match s.trouble.tracker which with
      | some failure => .error failure
      | none => .ok (), told call s) := by
  simp only [step, bind_run, update_run, site_run]
  cases s.trouble.tracker which <;> rfl

theorem step_plans (which : TrackerStep) (call : TrackerCall) : Plans (N := N) [call] (step which call) := by
  intro s
  rw [step_run]
  exact ⟨[call], List.prefix_refl _, told_tells call s, fun _ => rfl⟩

theorem tagAll_plans (tags : List (Text × Text)) : Plans (N := N) (tags.map fun t => .tag t.1 t.2) (tagAll tags) := by
  induction tags with
  | nil => exact fun s => ⟨[], List.prefix_refl _, tells_nothing s, fun _ => rfl⟩
  | cons t rest ih => exact (step_plans _ _).bind fun _ => ih

theorem inScope_tells (settings : Settings) (fault : Fault) (extra : Option (List (Text × Text))) (s : Site N) :
    ∃ calls, calls <+: contents settings fault extra s.requestId ∧ Tells calls s (inScope settings fault extra s).2 := by
  have ending : Plans (N := N) (settings.tags.map (fun t => .tag t.1 t.2) ++ [.captured fault.label fault.message]) (do
      tagAll settings.tags
      step .capture (.captured fault.label fault.message)) := (tagAll_plans settings.tags).bind fun _ => step_plans _ _
  unfold inScope contents
  cases settings.recordsContext with
  | true =>
    obtain ⟨calls, begins, tells, -⟩ :=
      (step_plans .context (.context settings.contextName (context extra s.requestId))).bind (fun _ => ending) s
    exact ⟨calls, by simpa using begins, tells⟩
  | false =>
    obtain ⟨calls, begins, tells, -⟩ := ending s
    exact ⟨calls, by simpa using begins, tells⟩

inductive Scope (planned : List TrackerCall) : List TrackerCall → Prop where
  | unopened : Scope planned [.opened]
  | closed {calls : List TrackerCall} (begins : calls <+: planned) : Scope planned (.opened :: calls ++ [.closed])

theorem event_tells (settings : Settings) (fault : Fault) (extra : Option (List (Text × Text))) (s : Site N) :
    ∃ calls, Scope (contents settings fault extra s.requestId) calls ∧ Tells calls s (event settings fault extra s).2 := by
  unfold event
  rw [bind_run, step_run]
  have opens := told_tells .opened s
  cases s.trouble.tracker .opening with
  | some failure => exact ⟨[.opened], .unopened, opens⟩
  | none =>
    simp only [thenAlways_run]
    obtain ⟨calls, begins, tells⟩ := inScope_tells settings fault extra (told .opened s)
    have closes := told_tells .closed (inScope settings fault extra (told .opened s)).2
    rw [step_run]
    exact ⟨_, .closed begins, (opens.follows tells).follows closes⟩

theorem lookup_putText (name value : Text) (fields : List (Text × Text)) :
    (putText name value fields).lookup name = some value := by
  induction fields with
  | nil => simp [putText]
  | cons field rest ih =>
    rw [putText]
    split
    · simp
    · rename_i apart
      obtain ⟨other, value'⟩ := field
      rw [List.lookup_cons]
      simp only [beq_eq_false_iff_ne.mpr (Ne.symm apart)]
      exact ih

theorem context_id {id : Text} (given : id ≠ []) (extra : Option (List (Text × Text))) :
    (context extra id).lookup ("request_id" : Text) = some id := by
  unfold context
  rw [if_neg (by simpa using given)]
  exact lookup_putText _ _ _

theorem contents_recorded {settings : Settings} (records : settings.recordsContext = true) (fault : Fault)
    (extra : Option (List (Text × Text))) (id : Text) :
    contents settings fault extra id = .context settings.contextName (context extra id) ::
      settings.tags.map (fun t => .tag t.1 t.2) ++ [.captured fault.label fault.message] := by
  rw [contents, if_pos records]
  rfl

theorem split_capture {front plain behind : List TrackerCall} {call : TrackerCall} {label message : Text}
    (whole : plain ++ [call, .closed] = front ++ .captured label message :: behind)
    (others : ∀ call ∈ plain, ∀ label message, call ≠ .captured label message) : front = plain := by
  rcases List.append_eq_append_iff.mp whole with ⟨more, rfl, rest⟩ | ⟨more, rfl, rest⟩
  · cases more with
    | nil => rw [List.append_nil]
    | cons first more =>
      cases more with
      | nil => simp at rest
      | cons second more => simp at rest
  · cases more with
    | nil => rw [List.append_nil]
    | cons first more =>
      obtain ⟨rfl, -⟩ := List.cons.inj rest
      exact absurd rfl (others (.captured label message) (by simp) label message)

theorem scope_tracked {id : Text} (given : id ≠ []) {settings : Settings} {fault : Fault}
    {extra : Option (List (Text × Text))} {calls : List TrackerCall} (scope : Scope (contents settings fault extra id) calls) :
    Tracked (.tracker settings) id calls where
  contexts := by
    intro name values there
    cases scope with
    | unopened => simp at there
    | closed begins =>
      have inside : TrackerCall.context name values ∈ contents settings fault extra id :=
        begins.subset (by simpa using there)
      have known : values = context extra id := by
        unfold contents at inside
        split at inside <;> simp at inside
        exact inside.2
      rw [known]
      exact context_id given extra
  captures := by
    intro settings' same records front label message behind whole
    cases same
    cases scope with
    | unopened => simp [List.cons_eq_append_iff] at whole
    | @closed calls begins =>
      rw [contents_recorded records] at begins
      have plain : ∀ call ∈ TrackerCall.opened :: .context settings.contextName (context extra id) ::
          settings.tags.map (fun t => .tag t.1 t.2), ∀ label message, call ≠ .captured label message := by
        rintro call there label message rfl
        simp at there
      rcases List.prefix_concat_iff.mp begins with rfl | short
      · have apart : (.opened :: .context settings.contextName (context extra id) :: settings.tags.map (fun t => .tag t.1 t.2)) ++
            [.captured fault.label fault.message, .closed] = front ++ .captured label message :: behind := by
          rw [← whole]
          simp
        refine ⟨[], context extra id, _, split_capture apart plain, ?_⟩
        intro call there
        obtain ⟨tag, -, rfl⟩ := List.mem_map.mp there
        exact ⟨_, _, rfl⟩
      · -- The scope broke off before the capture.
        have there : TrackerCall.captured label message ∈ TrackerCall.opened :: calls ++ [.closed] := by
          rw [whole]
          simp
        rcases List.mem_append.mp there with inside | last
        · exact absurd rfl (plain _ ((List.cons_prefix_cons.mpr ⟨rfl, short⟩).subset inside) label message)
        · simp at last

variable {reporter : Reporter} {id : Text}

theorem Tells.stamped {calls : List TrackerCall} {s s' : Site N} (tells : Tells calls s s')
    (tracked : Tracked reporter id calls) : Stamped reporter id s s' :=
  ⟨tells.requestId, tells.freshIds, ⟨[], tells.posts.trans (List.append_nil _).symm, by simp⟩,
    ⟨[], tells.visits.trans (List.append_nil _).symm, by simp⟩, ⟨calls, tells.trackerCalls, tracked⟩⟩

theorem report_stamps (given : id ≠ []) (fault : Fault) (extra : Option (List (Text × Text))) :
    Leaves (Stamps (N := N) reporter id) (reporter.report fault extra) := by
  have frame := stamps_frame (N := N) reporter id
  cases reporter with
  | silent => exact leaves_pure frame ()
  | recording => exact fun s => (Silent.stamps ⟨rfl, rfl, rfl, rfl, rfl⟩)
  | tracker settings =>
    unfold report
    simp only
    split
    · exact leaves_pure frame ()
    · have events : Leaves (Stamps (N := N) (.tracker settings) id) (event settings fault extra) := by
        intro s inHand
        obtain ⟨calls, scope, tells⟩ := event_tells settings fault extra s
        rw [inHand] at scope
        exact tells.stamped (scope_tracked given scope)
      refine Leaves.bind frame events.attempt fun outcome => ?_
      cases outcome with
      | ok _ => exact leaves_pure frame ()
      | error failure => exact (logRaised_silent (by decide) _ _ _ _).widen Silent.stamps

end UploadRelay.Reporter
