import UploadRelay.Proofs.Service.Stages
import UploadRelay.Proofs.Service.Twins
-- What pieces of handling put down about a request: the access fields when they end with a verdict, and nothing
-- that work before or behind them could tell.

namespace UploadRelay

open Work Backend

variable {N : Type}

structure Marks (access : Access) (s s' : Site N) : Prop where
  access : s'.access = access
  visits : visits s'.records = visits s.records
  level : s'.accessLevel = s.accessLevel

theorem Notes.marks {access : Access} {s s' : Site N} (notes : Notes access s s') : Marks access s s' := by
  cases notes with
  | intro _ _ _ quiet => exact ⟨rfl, quiet, rfl⟩

theorem Marks.follows {before access : Access} {a b c : Site N} (first : Marks before a b) (second : Marks access b c) :
    Marks access a c := ⟨second.access, second.visits.trans first.visits, second.level.trans first.level⟩

def Unmarked (s s' : Site N) : Prop := Marks s.access s s'

theorem Marks.unmarked {access : Access} {a b c : Site N} (first : Marks access a b) (second : Unmarked b c) :
    Marks access a c := by
  unfold Unmarked at second
  rw [first.access] at second
  exact first.follows second

def recordedAs (s : Site N) (tree : Text → (Nat → Text) → Tree → Tree → Prop) : Ties where
  tree := tree
  access := fun level access _ => level = s.accessLevel ∧ access = s.access
  visits := fun records _ => records = visits s.records
  begun := (s.posts, s.posts)

-- Work that goes the same way from sites with the same access fields and records, whatever these are, does not
-- touch them.
theorem unmarked_of_agree {α : Type} {w : Work N α} (tree : Text → (Nat → Text) → Tree → Tree → Prop)
    (refl : ∀ directory draw t, tree directory draw t t)
    (agrees : ∀ s : Site N, Agree (Twins (recordedAs s tree)) (Twins (recordedAs s tree).loose) w w) : Leaves Unmarked w := by
  intro s
  have self : Twins (recordedAs s tree) s s := .intro s.tree s.posts s.delays s.records s.reports s.trackerCalls s.trouble
    s.access (refl s.directory s.draw s.tree) (sentAlike_begun _ _) (Trouble.alike_refl _) ⟨rfl, rfl⟩ rfl
  have after := (agrees s s s self).2
  exact ⟨after.access.2, after.visits, after.access.1⟩

theorem call_unmarked [Seconds N] (c : Caller N) (request : Rpc.Request) : Leaves Unmarked (c.call request) :=
  unmarked_of_agree (fun _ _ _ _ => True) (fun _ _ _ => trivial) fun _ =>
    (Caller.call_agrees c request).narrow Twins.loosen

theorem save_unmarked (store : Store) (user : UserId) {log : Log.Logger} (other : log.name ≠ Log.accessLogger)
    (r : Http.Request) : Leaves (N := N) Unmarked (Upload.save store user log r) :=
  unmarked_of_agree store.Alike (Store.Alike.refl store) fun _ => Upload.save_agrees (fun alike => alike) user other other r

theorem Twins.unobserved {tree : Text → (Nat → Text) → Tree → Tree → Prop} {begun : List Post × List Post} {access : Access}
    {s₁ s₂ s₃ : Site N} (twins : Twins ⟨tree, fun _ _ _ => True, fun _ _ => True, begun⟩ s₁ s₂)
    (notes : Notes access s₂ s₃) : Twins ⟨tree, fun _ _ _ => True, fun _ _ => True, begun⟩ s₁ s₃ := by
  cases twins with
  | intro _ _ _ _ _ _ _ _ trees sent troubles _ _ =>
    cases notes
    exact .intro _ _ _ _ _ _ _ _ trees sent troubles trivial trivial

theorem Notes.twins {access : Access} {s s' : Site N} (notes : Notes access s s') (store : Store) :
    Twins (unwatched store s.posts s.posts) s s' := by
  have same : Twins (unwatched store s.posts s.posts) s s := .intro s.tree s.posts s.delays s.records s.reports
    s.trackerCalls s.trouble s.access (.refl store _ _ _) (sentAlike_begun _ _) (Trouble.alike_refl _) trivial trivial
  exact same.unobserved notes

theorem Upload.formAt_calm {r : Http.Request} {s s' : Site N} (calm : Calm s s') : formAt r s' = formAt r s := by
  cases calm
  rfl

theorem Upload.formOf_ok {r : Http.Request} {s : Site N} {form : Form} (read : (formOf r s).1 = .ok form) :
    form = formAt r s := by
  cases known : s.form with
  | some given =>
    rw [formOf_known known] at read
    cases read
    simp [formAt, known]
  | none =>
    rw [formOf_outcome known] at read
    cases ending : (readForm s.trouble.copy s.copies r).ending <;> rw [ending] at read <;> cases read <;> simp [formAt, known]

theorem Fault.label_coded {fault : Fault} {code : Json} (coded : fault.code? = some code) : fault.label ≠ [] := by
  cases fault with
  | refused kind message data =>
    show kind.label ≠ []
    cases kind <;> decide
  | remote =>
    show Text.ofString _ ≠ []
    decide
  | exhausted =>
    show Text.ofString _ ≠ []
    decide
  | _ => cases coded

theorem Principal.requireAddress_cases (p : Principal) :
    (∃ c rest, p.address = some (c :: rest) ∧ p.requireAddress = .ok (c :: rest)) ∨
      (p.address = none ∨ p.address = some []) ∧
        p.requireAddress = .error (.refusal .internal "user does not have sdk address assigned") := by
  unfold requireAddress
  cases p.address with
  | none => exact Or.inr ⟨Or.inl rfl, rfl⟩
  | some address =>
    cases address with
    | nil => exact Or.inr ⟨Or.inr rfl, rfl⟩
    | cons c rest => exact Or.inl ⟨c, rest, rfl, rfl⟩

namespace Service

def Telling (label : Text) (body : List UInt8) (access : Access) (s s' : Site N) (outcome : Except Fault (List UInt8)) : Prop :=
  outcome = .ok body ∧ Marks { access with errorType := some label } s s'

theorem refuse_telling (fault : Fault) (id : Json) (s : Site N) :
    Telling fault.label (refusalBody fault id) s.access s (refuse fault id s).2 (refuse fault id s).1 := ⟨rfl, rfl, rfl, rfl⟩

theorem noted_telling {label : Text} {body : List UInt8} {said : Work N Unit} {next : Unit → Work N (List UInt8)}
    (noted : Leaves Noted said) (ends : Ends said)
    (tells : ∀ s, Telling label body s.access s (next () s).2 (next () s).1) (s : Site N) :
    Telling label body s.access s ((said >>= next) s).2 ((said >>= next) s).1 := by
  have quiet := Notes.marks (noted s)
  obtain ⟨_, s', run⟩ := ends s
  rw [run] at quiet
  rw [bind_run, run]
  obtain ⟨outcome, marks⟩ := tells s'
  rw [quiet.access] at marks
  exact ⟨outcome, quiet.follows marks⟩

theorem callFailed_telling (settings : Settings N) {log : Log.Logger} (other : log.name ≠ Log.accessLogger)
    (request : Rpc.Request) (fault : Fault) (s : Site N) :
    Telling fault.label (refusalBody fault request.id) s.access s (callFailed settings log request fault s).2
      (callFailed settings log request fault s).1 :=
  noted_telling (Reporter.report_noted _ _ _) (Reporter.report_ends _ _ _)
    (noted_telling (log_noted other _ _ _) (ends_update _) (refuse_telling fault request.id)) s

theorem writingFailed_telling (settings : Settings N) {log : Log.Logger} (other : log.name ≠ Log.accessLogger)
    (request : Rpc.Request) (fault : Fault) (s : Site N) :
    Telling fault.label (refusalBody fault request.id) s.access s (writingFailed settings log request fault s).2
      (writingFailed settings log request fault s).1 :=
  noted_telling (Reporter.report_noted _ _ _) (Reporter.report_ends _ _ _)
    (noted_telling (log_noted other _ _ _) (ends_update _) (refuse_telling fault request.id)) s

theorem savingFailed_telling (settings : Settings N) {log : Log.Logger} (other : log.name ≠ Log.accessLogger)
    {fault told : Fault} (uploads : asUploadFault fault = some told) (s : Site N) :
    Telling told.label (refusalBody told .null) s.access s (savingFailed settings log fault s).2
      (savingFailed settings log fault s).1 := by
  unfold savingFailed
  rw [uploads]
  exact noted_telling (log_noted other _ _ _) (ends_update _)
    (noted_telling (Reporter.report_noted _ _ _) (Reporter.report_ends _ _ _) (refuse_telling told .null)) s

theorem unexpectedFault_telling (settings : Settings N) (route : Route) (fault : Fault) (s : Site N) :
    Telling fault.label internalComplaint.body s.access s (unexpectedFault settings route fault s).2
      (unexpectedFault settings route fault s).1 := by
  unfold unexpectedFault
  rw [bind_run, site_run]
  exact noted_telling (logRaised_noted (by decide) _ _ _ _) (ends_update _)
    (noted_telling (Reporter.report_noted _ _ _) (Reporter.report_ends _ _ _) fun _ => ⟨rfl, rfl, rfl, rfl⟩) s

-- Work from a site with these access fields ended with a verdict: what is told is noted, what nothing expects
-- is left to be noted.
def Reached (verdict : Verdict) (access : Access) (s s' : Site N) (outcome : Except Fault (List UInt8)) : Prop :=
  match verdict with
  | .told complaint => ∃ label : Text, label ≠ [] ∧ Telling label complaint.body access s s' outcome
  | .unexpected fault => outcome = .error fault ∧ Marks access s s'

theorem Reached.after {verdict : Verdict} {access : Access} {a b c : Site N} {outcome : Except Fault (List UInt8)}
    (reached : Reached verdict b.access b c outcome) (first : Marks access a b) : Reached verdict access a c outcome := by
  rw [first.access] at reached
  cases verdict with
  | told complaint =>
    obtain ⟨label, named, body, marks⟩ := reached
    exact ⟨label, named, body, first.follows marks⟩
  | unexpected fault => exact ⟨reached.1, first.follows reached.2⟩

theorem Reached.unmarked {verdict : Verdict} {access : Access} {a b c : Site N} {outcome : Except Fault (List UInt8)}
    (reached : Reached verdict access a b outcome) (second : Unmarked b c) : Reached verdict access a c outcome := by
  cases verdict with
  | told complaint =>
    obtain ⟨label, named, body, marks⟩ := reached
    exact ⟨label, named, body, marks.unmarked second⟩
  | unexpected fault => exact ⟨reached.1, reached.2.unmarked second⟩

theorem refusalBody_coded {fault : Fault} {code : Json} (coded : fault.code? = some code) (id : Json) :
    refusalBody fault id = Complaint.body ⟨code, fault.message, fault.data, answeredId id⟩ := by
  unfold refusalBody Complaint.body Complaint.members Fault.reply
  rw [coded]
  cases fault.data <;> rfl

theorem Telling.reached {fault : Fault} {code id : Json} {access : Access} {s s' : Site N}
    {outcome : Except Fault (List UInt8)} (tells : Telling fault.label (refusalBody fault id) access s s' outcome)
    (coded : fault.code? = some code) :
    Reached (.told ⟨code, fault.message, fault.data, answeredId id⟩) access s s' outcome := by
  exact ⟨fault.label, Fault.label_coded coded, refusalBody_coded coded id ▸ tells⟩

theorem savingFailed_reached (settings : Settings N) {log : Log.Logger} (other : log.name ≠ Log.accessLogger)
    (fault : Fault) (s : Site N) :
    Reached (savingVerdict fault) s.access s (savingFailed settings log fault s).2 (savingFailed settings log fault s).1 := by
  have tells : ∀ told : Fault, asUploadFault fault = some told → told.code? = some (.int (-32080)) →
      Reached (.told ⟨.int (-32080), told.message, told.data, .int 0⟩) s.access s
        (savingFailed settings log fault s).2 (savingFailed settings log fault s).1 :=
    fun told uploads coded => (savingFailed_telling settings other uploads s).reached coded
  have throws : asUploadFault fault = none → Reached (.unexpected fault) s.access s
      (savingFailed settings log fault s).2 (savingFailed settings log fault s).1 := by
    intro throws
    unfold savingFailed
    rw [throws]
    exact ⟨rfl, rfl, rfl, rfl⟩
  cases fault with
  | refused kind message data =>
    cases kind with
    | upload => exact tells (.refused .upload message data) rfl rfl
    | missingFile => exact tells (.refused .missingFile message data) rfl rfl
    | _ => exact throws rfl
  | system label details => exact tells (.refusal .upload (Fault.system label details).message) rfl rfl
  | _ => exact throws rfl

theorem readEnvelope_reached {rejection : Rpc.Request.Rejection} {use : Rpc.Request → Work N (List UInt8)} (s : Site N) :
    Reached (envelopeVerdict rejection) s.access s (readEnvelope (.error rejection) use s).2
      (readEnvelope (.error rejection) use s).1 := by
  have tells : ∀ kind : Refusal, Fault.ofRejection rejection = .refusal kind rejection.message →
      Reached (.told ⟨.int kind.code, rejection.message, .null, .int 0⟩) s.access s (readEnvelope (.error rejection) use s).2
        (readEnvelope (.error rejection) use s).1 := by
    intro kind refused
    unfold readEnvelope
    simp only [refused]
    exact (refuse_telling (.refusal kind rejection.message) .null s).reached rfl
  cases rejection with
  | unreadable why =>
    cases why with
    | tooDeep inObject => exact ⟨rfl, rfl, rfl, rfl⟩
    | _ => exact tells .jsonParse rfl
  | paramsNotObject => exact tells .invalidParams rfl
  | _ => exact tells .invalidRequest rfl

variable [Seconds N]

theorem answer_run (settings : Settings N) (log : Log.Logger) (c : Caller N) (request : Rpc.Request) (s : Site N) :
    answer settings log c request s = match (c.call request s).1 with
      | .error fault =>
        (if fault.isRemote then callFailed settings log request fault else throw fault) (c.call request s).2
      | .ok response => match response.serialize with
        | .ok t => (.ok (Utf8.encode t), (c.call request s).2)
        | .error fault => writingFailed settings log request (.refusal .serialize fault.message) (c.call request s).2 := by
  unfold answer
  rw [bind_run, attempt_run]
  cases (c.call request s).1 with
  | error fault => rfl
  | ok response =>
    simp only
    cases response.serialize <;> rfl

theorem answer_failed (settings : Settings N) {log : Log.Logger} (other : log.name ≠ Log.accessLogger) {c : Caller N}
    {request : Rpc.Request} {s : Site N} {fault : Fault} (fails : (c.call request s).1 = .error fault) :
    Reached (callVerdict fault request.id) s.access s (answer settings log c request s).2 (answer settings log c request s).1 := by
  rw [answer_run, fails]
  refine Reached.after ?_ (call_unmarked c request s)
  cases fault with
  | remote message code data response =>
    exact (callFailed_telling settings other request (.remote message code data response) _).reached rfl
  | exhausted status preview retryAfter =>
    exact (callFailed_telling settings other request (.exhausted status preview retryAfter) _).reached rfl
  | _ => exact ⟨rfl, rfl, rfl, rfl⟩

theorem answer_unwritten (settings : Settings N) {log : Log.Logger} (other : log.name ≠ Log.accessLogger) {c : Caller N}
    {request : Rpc.Request} {s : Site N} {response : Rpc.Response} {fault : Rpc.Response.SerializeFault}
    (answered : (c.call request s).1 = .ok response) (fails : response.serialize = .error fault) :
    Reached (.told ⟨.int (-32080), fault.message, .null, answeredId request.id⟩) s.access s
      (answer settings log c request s).2 (answer settings log c request s).1 := by
  rw [answer_run, answered]
  simp only [fails]
  refine Reached.after ?_ (call_unmarked c request s)
  exact (writingFailed_telling settings other request (.refusal .serialize fault.message) _).reached rfl

theorem answer_written (settings : Settings N) (log : Log.Logger) {c : Caller N} {request : Rpc.Request} {s : Site N}
    {response : Rpc.Response} {t : Text} (answered : (c.call request s).1 = .ok response)
    (written : response.serialize = .ok t) :
    (answer settings log c request s).1 = .ok (Utf8.encode t) ∧ Unmarked s (answer settings log c request s).2 := by
  rw [answer_run, answered]
  simp only [written]
  exact ⟨trivial, call_unmarked c request s⟩

end Service

end UploadRelay
